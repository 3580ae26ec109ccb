import Ratsnest.Proofs.Json.Numeral
import Ratsnest.Proofs.Short.Notices
import Ratsnest.Proofs.Synthesis.Verdict

/-!
# The ledger of a run

What a run with an eye on short circuits owes the user: a warning for each short circuit that it
offers to the host, and a mark for what the host does not highlight.  `ShortWatch.Booked` says that
a watch owes exactly what the calls made so far say; every call that a run makes before the verdict
keeps it so (`ShortWatch.Booked.checkAll`, `ShortWatch.Booked.append`).  A run ends by telling the
host that there are short circuits, if there are any (`ShortWatch.closing`).
-/

namespace Ratsnest

open HostCall

universe u

/-! ## Messages of a run -/

/-- The first two characters of a text; they tell the messages of a run apart. -/
def opening (text : String) : List Char := text.toList.take 2

theorem opening_append {start : String} (h : 2 ≤ start.toList.length) (text : String) :
    opening (start ++ text) = opening start := by
  rw [opening, opening, String.toList_append, List.take_append_of_le_length h]

/-- No verdict begins like the other messages of a run. -/
theorem Outcome.opening_summary (o : Outcome) :
    opening o.summary ∉ [['W', 'a'], ['N', 'e'], ['R', 'a']] := by
  cases o with
  | remaining n =>
    -- The verdict begins with a digit.
    obtain ⟨d, ds, hds⟩ := List.exists_cons_of_ne_nil (Decimal.digitChars_ne_nil n)
    have hd : d.isDigit := by
      apply Decimal.isDigit_of_mem_digitChars (n := n)
      rw [hds]
      exact List.mem_cons_self
    have hopening : (opening (summary (remaining n))).head? = some d := by
      rw [opening, Outcome.summary.eq_def, String.toList_append, Nat.toString_eq_ofList_toDigits,
        String.toList_ofList, ← Decimal.digitChars, hds]
      rfl
    intro h
    simp only [List.mem_cons, List.not_mem_nil, or_false] at h
    rcases h with h | h | h
    all_goals
      rw [h] at hopening
      obtain rfl := Option.some.inj hopening
      revert hd
      decide
  | noSelectedTerminal => decide
  | incomplete missing disabled shorts =>
    have hlength : 2 ≤ "Nothing more to connect, but ".toList.length := by decide
    rw [Outcome.summary.eq_def, opening_append hlength]
    decide
  | complete => decide

namespace ShortWatch

theorem warning_begins (net offenderNet : String) (pin : Pin) :
    warningOpening.toList <+: (warning net offenderNet pin).toList := by
  unfold warning
  simp only [String.append_assoc]
  rw [String.toList_append]
  exact List.prefix_append _ _

theorem opening_of_begins {text : String} (h : warningOpening.toList <+: text.toList) :
    opening text = ['W', 'a'] := by
  obtain ⟨rest, h⟩ := h
  rw [opening, ← h, List.take_append_of_le_length (by decide)]
  decide

theorem opening_warning (net offenderNet : String) (pin : Pin) :
    opening (warning net offenderNet pin) = ['W', 'a'] :=
  opening_of_begins (warning_begins net offenderNet pin)

end ShortWatch

section

variable {α : Type} [AngularScalar α] [ShownScalar α]

theorem Session.opening_ratText (r : RatLine α) : opening (ratText r) = ['R', 'a'] := by
  unfold ratText
  simp only [String.append_assoc]
  rw [opening_append (by decide)]
  decide

end

theorem Session.opening_tooManyText (start : Terminal) (pieces : ℕ) :
    opening (tooManyText start pieces) = ['N', 'e'] := by
  unfold tooManyText
  simp only [String.append_assoc]
  rw [opening_append (by decide)]
  decide

namespace HostCall

/-- The text of a message that begins as all warnings about short circuits do. -/
def shortWarning? : HostCall → Option String
  | message .warning text =>
    if ShortWatch.warningOpening.toList <+: text.toList then some text else none
  | message .info _ | short _ | shortsChanged | connected _ _ | askName _ => none

/-- The texts of the warnings about short circuits among calls, in order. -/
def shortWarnings (calls : List HostCall) : List String := calls.filterMap shortWarning?

@[simp] theorem shortWarnings_append (calls more : List HostCall) :
    shortWarnings (calls ++ more) = shortWarnings calls ++ shortWarnings more :=
  List.filterMap_append

/-- Calls that offer no short circuit change nothing about those before that do. -/
theorem short_prefix_append_iff {pre calls more : List HostCall} {n : ShortNotice}
    (hmore : notices more = []) :
    pre ++ [.short n] <+: calls ++ more ↔ pre ++ [.short n] <+: calls := by
  refine ⟨fun h => ?_, fun h => h.trans (List.prefix_append calls more)⟩
  rcases List.prefix_or_prefix_of_prefix h (List.prefix_append calls more) with h' | h'
  · exact h'
  rcases List.prefix_concat_iff.1 h' with rfl | ⟨rest, rfl⟩
  · exact List.prefix_rfl
  · rw [List.append_assoc, List.prefix_append_right_inj] at h
    have hn : HostCall.short n ∈ more := h.subset (List.mem_append_right rest List.mem_cons_self)
    cases List.filterMap_eq_nil_iff.1 hmore _ hn

/-- Whether a call shows a verdict. -/
def IsSummary (c : HostCall) : Prop := ∃ level o, c = message level (Outcome.summary o)

/-- Whether a call tells of the drawing: of a rat line, or of a net in too many pieces. -/
structure IsNote (c : HostCall) : Prop where
  notices_eq : notices [c] = []
  shortWarnings_eq : shortWarnings [c] = []
  not_summary : ¬c.IsSummary
  ne_shortsChanged : c ≠ shortsChanged

theorem IsNote.message {level : MessageLevel} {text : String}
    (h : opening text ∈ [['N', 'e'], ['R', 'a']]) : IsNote (message level text) := by
  refine ⟨rfl, ?_, ?_, nofun⟩
  · cases level with
    | info => rfl
    | warning =>
      refine List.filterMap_cons_none (if_neg fun hw => ?_)
      rw [ShortWatch.opening_of_begins hw] at h
      revert h
      decide
  · rintro ⟨level, o, heq⟩
    obtain ⟨-, rfl⟩ := HostCall.message.inj heq
    exact o.opening_summary (List.mem_cons_of_mem _ h)

/-- Warnings about short circuits show no verdict. -/
theorem not_isSummary_warning (net offenderNet : String) (pin : Pin) :
    ¬IsSummary (message .warning (ShortWatch.warning net offenderNet pin)) := by
  rintro ⟨level, o, heq⟩
  obtain ⟨-, htext⟩ := HostCall.message.inj heq
  refine o.opening_summary ?_
  rw [← htext, ShortWatch.opening_warning]
  exact List.mem_cons_self

end HostCall

/-! ## What a watch owes -/

/-- The objects on either side of the contact. -/
def ShortNotice.objects (n : ShortNotice) : List ObjectId := n.offender :: n.arrivedFrom.toList

namespace ShortWatch

/-- Whether a watch owes what the calls `pass` say, which have been made after `before`. -/
structure Booked (host : Host) (before pass : List HostCall) (w : ShortWatch) : Prop where
  count : w.count = (notices pass).length
  /-- There is one warning for each short circuit offered, in the same order. -/
  warned : List.Forall₂ (fun text n => ∃ pin, text = warning n.net n.offenderNet pin)
    (shortWarnings pass) (notices pass)
  /-- What the host does not highlight is to be marked. -/
  pending : ∀ pre n, pre ++ [.short n] <+: pass → host.handlesShort (before ++ pre) n = false →
    n.objects ⊆ w.pending
  not_summary : ∀ c ∈ pass, ¬c.IsSummary
  ne_shortsChanged : .shortsChanged ∉ pass

variable {host : Host} {before pass : List HostCall} {w : ShortWatch}

/-- A watch that has just been started owes nothing. -/
theorem booked_start (host : Host) (before : List HostCall) (net : String) (l : NetList) :
    Booked host before [] (start net l) where
  count := rfl
  warned := .nil
  pending pre n h := by simp at h
  not_summary := nofun
  ne_shortsChanged := nofun

theorem Booked.setNet (h : Booked host before pass w) (net : String) :
    Booked host before pass (w.setNet net) := ⟨h.1, h.2, h.3, h.4, h.5⟩

/-- Telling of the drawing changes nothing about what is owed. -/
theorem Booked.note (h : Booked host before pass w) {c : HostCall} (hc : c.IsNote) :
    Booked host before (pass ++ [c]) w where
  count := by
    rw [notices_append, hc.notices_eq, List.append_nil]
    exact h.count
  warned := by
    rw [notices_append, shortWarnings_append, hc.notices_eq, hc.shortWarnings_eq, List.append_nil,
      List.append_nil]
    exact h.warned
  pending pre n hpre hhost := h.pending pre n ((short_prefix_append_iff hc.notices_eq).1 hpre) hhost
  not_summary := List.forall_mem_append.2 ⟨h.not_summary,
    List.forall_mem_singleton.2 hc.not_summary⟩
  ne_shortsChanged hmem := by
    rcases List.mem_append.1 hmem with hmem | hmem
    · exact h.ne_shortsChanged hmem
    · exact hc.ne_shortsChanged (List.mem_singleton.1 hmem).symm

theorem Booked.append (h : Booked host before pass w) {notes : List HostCall}
    (hnotes : ∀ c ∈ notes, c.IsNote) : Booked host before (pass ++ notes) w := by
  induction notes generalizing pass with
  | nil => rwa [List.append_nil]
  | cons c notes ih =>
    obtain ⟨hc, hnotes⟩ := List.forall_mem_cons.1 hnotes
    rw [List.append_cons]
    exact ih (h.note hc) hnotes

/-- A short circuit is warned of and offered to the host, and what this does not highlight is owed
a mark. -/
theorem Booked.report (h : Booked host before pass w) (n : ShortNotice) (pin : Pin)
    (pair : String) :
    let warned := pass ++ [.message .warning (warning n.net n.offenderNet pin)]
    let marks := if host.handlesShort (before ++ warned) n then [] else n.objects
    Booked host before (warned ++ [.short n])
      { w with reported := pair :: w.reported, pending := w.pending ++ marks } := by
  intro warned marks
  have hwarning : shortWarning? (.message .warning (warning n.net n.offenderNet pin)) =
      some (warning n.net n.offenderNet pin) := if_pos (warning_begins _ _ _)
  constructor
  case count =>
    have hcount : w.reported.length = (notices pass).length := h.count
    simp [ShortWatch.count, warned, hcount]
  case warned =>
    have hnew : shortWarnings [.message .warning (warning n.net n.offenderNet pin)] =
        [warning n.net n.offenderNet pin] := List.filterMap_cons_some hwarning
    have hnone : shortWarnings [.short n] = [] := rfl
    simp only [warned, notices_append, shortWarnings_append, hnew, hnone, List.append_nil]
    simpa using List.rel_append h.warned (.cons ⟨pin, rfl⟩ .nil)
  case pending =>
    intro pre k hpre hhost
    rcases List.prefix_concat_iff.1 hpre with heq | hpre
    · obtain ⟨rfl, hk⟩ := List.append_inj' heq rfl
      obtain rfl := HostCall.short.inj (List.singleton_inj.1 hk)
      have hmarks : marks = k.objects := if_neg (by simp [hhost])
      rw [hmarks]
      exact List.subset_append_right _ _
    · have hpre' : pre ++ [.short k] <+: pass := (short_prefix_append_iff rfl).1 hpre
      exact List.subset_append_of_subset_left _ (h.pending pre k hpre' hhost)
  case not_summary =>
    refine List.forall_mem_append.2 ⟨List.forall_mem_append.2 ⟨h.not_summary,
      List.forall_mem_singleton.2 (not_isSummary_warning _ _ _)⟩, List.forall_mem_singleton.2 ?_⟩
    rintro ⟨_, _, heq⟩
    cases heq
  case ne_shortsChanged => simpa [warned] using h.ne_shortsChanged

variable {α : Type u}

theorem Booked.check (h : Booked host before pass w) (s : Store α) (d : Discovery) :
    ∃ pass', (w.check host s (before ++ pass) d).2 = before ++ pass' ∧
      Booked host before pass' (w.check host s (before ++ pass) d).1 := by
  rw [ShortWatch.check]
  cases w.offense? s d with
  | none => exact ⟨pass, rfl, h⟩
  | some o =>
    obtain ⟨pin, net⟩ := o
    dsimp only
    split
    · exact ⟨pass, rfl, h⟩
    · have hreport := h.report ⟨w.net, net, d.object, d.arrivedFrom⟩ pin (pairName w.net net)
      simp only [List.append_assoc] at hreport ⊢
      exact ⟨_, rfl, hreport⟩

/-- Looking at discoveries keeps the ledger. -/
theorem Booked.checkAll (h : Booked host before pass w) (s : Store α) (ds : List Discovery) :
    ∃ pass', (w.checkAll host s (before ++ pass) ds).2 = before ++ pass' ∧
      Booked host before pass' (w.checkAll host s (before ++ pass) ds).1 := by
  induction ds generalizing w pass with
  | nil => exact ⟨pass, rfl, h⟩
  | cons d ds ih =>
    obtain ⟨pass', hcalls, hbooked⟩ := h.check s d
    rw [checkAll_cons, hcalls]
    exact ih hbooked

/-- What is to be marked has been discovered. -/
theorem pending_check (host : Host) (s : Store α) (w : ShortWatch) (calls : List HostCall)
    (d : Discovery) :
    (w.check host s calls d).1.pending ⊆ w.pending ++ d.object :: d.arrivedFrom.toList := by
  rw [ShortWatch.check]
  split
  · exact List.subset_append_left _ _
  · dsimp only
    split
    · exact List.subset_append_left _ _
    · split
      · exact List.append_subset.2 ⟨List.subset_append_left _ _, List.nil_subset _⟩
      · exact List.Subset.refl _

theorem contains_of_pending_checkAll {s : Store α} {ds : List Discovery} (calls : List HostCall)
    (hw : ∀ id ∈ w.pending, s.contains id)
    (hds : ∀ d ∈ ds, ∀ id ∈ d.object :: d.arrivedFrom.toList, s.contains id) :
    ∀ id ∈ (w.checkAll host s calls ds).1.pending, s.contains id := by
  induction ds generalizing w calls with
  | nil => exact hw
  | cons d ds ih =>
    obtain ⟨hd, hds⟩ := List.forall_mem_cons.1 hds
    refine ih _ (fun id hid => ?_) hds
    rcases List.mem_append.1 (pending_check host s w calls d hid) with hid | hid
    · exact hw id hid
    · exact hd id hid

end ShortWatch

/-! ## The end of a run -/

namespace ShortWatch

/-- The calls that end a run: the host is told that there are short circuits, if there are any. -/
def closing (w : ShortWatch) : List HostCall := if 0 < w.count then [.shortsChanged] else []

theorem mem_closing {w : ShortWatch} {c : HostCall} (h : c ∈ w.closing) : c = .shortsChanged := by
  rw [closing] at h
  split at h
  · exact List.mem_singleton.1 h
  · cases h

@[simp] theorem notices_closing (w : ShortWatch) : notices w.closing = [] :=
  List.filterMap_eq_nil_iff.2 fun _ hc => mem_closing hc ▸ rfl

@[simp] theorem shortWarnings_closing (w : ShortWatch) : shortWarnings w.closing = [] :=
  List.filterMap_eq_nil_iff.2 fun _ hc => mem_closing hc ▸ rfl

/-- The host is told once. -/
theorem count_closing (w : ShortWatch) :
    w.closing.count .shortsChanged = if 0 < w.count then 1 else 0 := by
  rw [closing]
  split <;> rfl

theorem not_isSummary_closing (w : ShortWatch) : ∀ c ∈ w.closing, ¬c.IsSummary := by
  rintro c hc ⟨_, _, heq⟩
  rw [mem_closing hc] at heq
  cases heq

end ShortWatch

theorem Session.calls_finishWatch {α : Type} (w : ShortWatch) (s : Session α) :
    (s.finishWatch w).calls = s.calls ++ w.closing := by
  rw [finishWatch, ShortWatch.finish, ShortWatch.closing]
  by_cases hcount : w.count = 0
  · simp [hcount]
  · simp [hcount, Nat.pos_of_ne_zero]

end Ratsnest
