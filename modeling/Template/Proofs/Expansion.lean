import Mathlib.Data.List.TakeWhile
import Template.Proofs.Asking
import Template.Proofs.Segment
import Template.Substitute

/-!
# What the run of a list of pieces does

As long as no piece is rejected and the resolver answers, the run of a list of pieces is determined by the pieces and the
values (`expand_of_answers`): it is `Run.completed`, which says all that can be observed of it. The first piece whose run fails
ends the run of the list, and nothing after that piece takes place (`expand_of_error`). What can fail is a reference that the
resolver does not answer, or a malformed reference under strict options; `rejected_or_accepted` finds the first of those.
-/

namespace Template

variable {σ ε : Type}

namespace Piece

/-- Whether a piece is a doubled sigil. -/
def isEscape : Piece → Bool
  | escape _ => true
  | _ => false

/-- Whether a piece is a malformed reference. -/
def isMalformed : Piece → Bool
  | malformed _ => true
  | _ => false

/-- What is reported of a piece that is not rejected: a malformed reference, as it is copied. -/
def notice? : Piece → Option Notice
  | malformed m => some (.copied m.text)
  | _ => none

end Piece

/-- Whether a piece is not rejected: under strict options, a malformed reference is. -/
def Options.accepts (o : Options) (p : Piece) : Bool := !(o.strict && p.isMalformed)

/-- Where malformed references are copied, every piece is accepted. -/
theorem Options.accepts_of_lenient {o : Options} (h : o.strict = false) (p : Piece) : o.accepts p = true := by
  simp [accepts, h]

theorem Options.accepts_of_not_malformed (o : Options) {p : Piece} (h : p.isMalformed = false) : o.accepts p = true := by
  simp [accepts, h]

/-- Either every piece of a list is accepted, or there is a first malformed reference that is rejected. -/
theorem rejected_or_accepted (o : Options) (ps : List Piece) :
    (∃ before m after, o.strict = true ∧ ps = before ++ .malformed m :: after ∧ ∀ p ∈ before, o.accepts p = true) ∨
      ∀ p ∈ ps, o.accepts p = true := by
  induction ps with
  | nil => exact Or.inr (by simp)
  | cons p ps ih =>
    by_cases hp : o.accepts p = true
    · rcases ih with ⟨before, m, after, hs, rfl, hbefore⟩ | hall
      · exact Or.inl ⟨p :: before, m, after, hs, rfl, List.forall_mem_cons.mpr ⟨hp, hbefore⟩⟩
      · exact Or.inr (List.forall_mem_cons.mpr ⟨hp, hall⟩)
    · cases p with
      | malformed m =>
        have hs : o.strict = true := by simpa [Options.accepts, Piece.isMalformed] using hp
        exact Or.inl ⟨[], m, ps, hs, rfl, by simp⟩
      | _ => exact absurd (o.accepts_of_not_malformed rfl) hp

/-- Under strict options, a malformed reference behind accepted pieces is where the first piece is rejected. -/
theorem span_accepts {o : Options} {before : List Piece} (hs : o.strict = true) (hbefore : ∀ p ∈ before, o.accepts p = true)
    (m : Malformed) (after : List Piece) :
    (before ++ .malformed m :: after).takeWhile o.accepts = before ∧
      (before ++ .malformed m :: after).dropWhile o.accepts = .malformed m :: after := by
  have hm : o.accepts (.malformed m) = false := by simp [Options.accepts, hs, Piece.isMalformed]
  rw [List.takeWhile_append_of_pos hbefore, List.dropWhile_append_of_pos hbefore, List.takeWhile_cons, List.dropWhile_cons, hm]
  simp

/-- The reference that asks for a name, among the pieces that ask for it and others. -/
theorem reference_of_names {ps : List Piece} {xs ys : List Text} {name : Text}
    (h : Segment.names (ps.map Piece.segment) = xs ++ name :: ys) :
    ∃ before ref after, ps = before ++ .reference ref :: after ∧
      Segment.names (before.map Piece.segment) = xs ∧ ref.name = name := by
  induction ps generalizing xs with
  | nil => simp at h
  | cons p ps ih =>
    cases p with
    | reference ref =>
      cases xs with
      | nil => exact ⟨[], ref, ps, rfl, rfl, (List.cons.inj h).1⟩
      | cons x xs =>
        obtain ⟨hx, hrest⟩ := List.cons.inj h
        obtain ⟨before, ref', after, rfl, rfl, hname⟩ := ih hrest
        exact ⟨.reference ref :: before, ref', after, rfl, congrArg (· :: _) hx, hname⟩
    | _ =>
      obtain ⟨before, ref, after, rfl, rfl, hname⟩ := ih h
      exact ⟨_ :: before, ref, after, rfl, rfl, hname⟩

/-! ## Runs in which nothing fails -/

/-- The run of pieces none of which is rejected, when the resolver gives these values and is left in this state. -/
def Run.completed (ps : List Piece) (values : List (Option Text)) (st : σ) : Run σ ε where
  result := .ok (Segment.fill (ps.map Piece.segment) values)
  state := st
  calls := Segment.names (ps.map Piece.segment)
  tally :=
    { resolve := values.length
      noValue := values.countP Option.isNone
      escape := ps.countP Piece.isEscape
      lenient := ps.countP Piece.isMalformed }
  notices := ps.filterMap Piece.notice?

/-- Completed runs put together are the completed run of the pieces put together. -/
theorem Run.completed_before {ps qs : List Piece} {vs ws : List (Option Text)} {st st' : σ}
    (h : vs.length = (Segment.names (ps.map Piece.segment)).length) :
    (completed ps vs st : Run σ ε).before (completed qs ws st') = completed (ps ++ qs) (vs ++ ws) st' := by
  have hr : (completed ps vs st : Run σ ε).result = .ok (Segment.fill (ps.map Piece.segment) vs) := rfl
  rw [before_of_ok hr]
  simp only [completed, Except.map, List.map_append, Segment.fill_append h, Segment.names_append, Tally.add_eq,
    List.length_append, List.countP_append, List.filterMap_append]

/-- The run of one piece that is not rejected, when the resolver answers. -/
theorem Piece.expand_of_answers {o : Options} {r : Resolver σ ε} {column : Nat} {st st' : σ} {p : Piece}
    {values : List (Option Text)} (hp : o.accepts p = true) (h : r.Answers st (Segment.names [p.segment]) values st') :
    p.expand o r column st = .completed [p] values st' := by
  cases p with
  | plain c =>
    cases h
    rfl
  | loneDollar next =>
    cases h
    simp [expand, Run.produce, Run.completed, segment, Segment.fill, isEscape, isMalformed, notice?]
  | escape s =>
    cases h
    rfl
  | reference ref =>
    cases h with
    | cons hask hnil =>
      cases hnil
      rename_i value
      simp only [expand, Run.resolve] at hask ⊢
      rw [hask]
      cases value <;> simp [Run.completed, segment, Segment.fill, isEscape, isMalformed, notice?]
  | malformed m =>
    cases h
    have hs : o.strict = false := by simpa [Options.accepts, isMalformed] using hp
    simp [expand, hs, Run.copy, Run.completed, segment, Segment.fill, isEscape, isMalformed, notice?]

/-- The run of pieces none of which is rejected, when the resolver answers. -/
theorem expand_of_answers {o : Options} {r : Resolver σ ε} (column : Nat) {st st' : σ} {ps : List Piece}
    {values : List (Option Text)} (hps : ∀ p ∈ ps, o.accepts p = true)
    (h : r.Answers st (Segment.names (ps.map Piece.segment)) values st') :
    expand o r column st ps = .completed ps values st' := by
  induction ps generalizing column st values with
  | nil =>
    cases h
    rfl
  | cons p ps ih =>
    obtain ⟨hp, hrest⟩ := List.forall_mem_cons.mp hps
    -- the answers to the names of `p`, of which there is one at most, come first
    have hnames : Segment.names ((p :: ps).map Piece.segment) =
        Segment.names [p.segment] ++ Segment.names (ps.map Piece.segment) := by
      rw [List.map_cons, ← Segment.names_append, List.singleton_append]
    rw [hnames] at h
    obtain ⟨vs, ws, st₁, rfl, hfirst, hlater⟩ := h.split
    rw [expand_cons, Run.andThen, Piece.expand_of_answers hp hfirst]
    have hstate : (Run.completed [p] vs st₁ : Run σ ε).state = st₁ := rfl
    rw [hstate, ih _ hrest hlater, Run.completed_before hfirst.length_eq, List.singleton_append]

/-! ## Runs in which something fails -/

/-- The first piece whose run fails ends the run of the list: what comes behind it does not matter. -/
theorem expand_of_error {o : Options} {r : Resolver σ ε} (column : Nat) {st st₁ : σ} {before : List Piece} {p : Piece}
    (after : List Piece) {values : List (Option Text)} {e : Failure ε} (hbefore : ∀ q ∈ before, o.accepts q = true)
    (h : r.Answers st (Segment.names (before.map Piece.segment)) values st₁)
    (he : (p.expand o r (column + (before.flatMap Piece.text).length) st₁).result = .error e) :
    expand o r column st (before ++ p :: after) =
      (Run.completed before values st₁).before (p.expand o r (column + (before.flatMap Piece.text).length) st₁) := by
  have hstate : (Run.completed before values st₁ : Run σ ε).state = st₁ := rfl
  rw [expand_append, expand_of_answers column hbefore h, Run.andThen, hstate, expand_cons, Run.andThen, Run.before_of_error he]

/-- A reference that the resolver does not answer ends the run with the failure of the resolver. -/
theorem expand_of_failure {o : Options} {r : Resolver σ ε} (column : Nat) {st st₁ st₂ : σ} {before : List Piece}
    {ref : Reference} (after : List Piece) {values : List (Option Text)} {e : ε}
    (hbefore : ∀ q ∈ before, o.accepts q = true)
    (h : r.Answers st (Segment.names (before.map Piece.segment)) values st₁)
    (hask : r.ask st₁ ref.name = (.error e, st₂)) :
    expand o r column st (before ++ .reference ref :: after) =
      (Run.completed before values st₁).before
        { result := .error (.resolver e), state := st₂, calls := [ref.name], tally := { resolve := 1 } } := by
  have hrun : (Piece.reference ref).expand o r (column + (before.flatMap Piece.text).length) st₁ =
      { result := .error (.resolver e), state := st₂, calls := [ref.name], tally := { resolve := 1 } } := by
    simp only [Piece.expand, Run.resolve, hask]
  rw [expand_of_error column after hbefore h (by rw [hrun]), hrun]

/-- Under strict options, the first malformed reference ends the run with its error. -/
theorem expand_of_malformed {o : Options} {r : Resolver σ ε} (column : Nat) {st st₁ : σ} {before : List Piece}
    (m : Malformed) (after : List Piece) {values : List (Option Text)} (hs : o.strict = true)
    (hbefore : ∀ q ∈ before, o.accepts q = true)
    (h : r.Answers st (Segment.names (before.map Piece.segment)) values st₁) :
    expand o r column st (before ++ .malformed m :: after) =
      (Run.completed before values st₁).before
        (.reject (m.errorAt (column + (before.flatMap Piece.text).length)) st₁) := by
  have hrun : (Piece.malformed m).expand o r (column + (before.flatMap Piece.text).length) st₁ =
      .reject (m.errorAt (column + (before.flatMap Piece.text).length)) st₁ := by
    simp only [Piece.expand, hs, if_true]
  rw [expand_of_error column after hbefore h (by rw [hrun]; rfl), hrun]

end Template
