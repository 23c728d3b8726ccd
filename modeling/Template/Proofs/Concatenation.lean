import Template.Proofs.Joining
import Template.Resolver.Rule

/-!
# Templates put together

Where a template ends cleanly before another (`EndsCleanly`), substitution in the two put together is substitution in the first
and then in the second (`substitute_append`). The second is run as it would be alone, from the state in which the first leaves
the resolver, but for the columns in what it rejects: these are counted from the start of the first (`expand_add`).
-/

namespace Template

variable {σ ε : Type}

/-! ## Errors further to the right -/

/-- An error with its column, if it has one, so much further to the right. -/
def Error.shift (offset : Nat) : Error → Error
  | noName column => .noName (column + offset)
  | unterminatedVariable name => .unterminatedVariable name
  | badCharacter name c column => .badCharacter name c (column + offset)

/-- A failure with the column of a rejection so much further to the right; a failure of the resolver has none. -/
def Failure.shift (offset : Nat) : Failure ε → Failure ε
  | malformed e => .malformed (e.shift offset)
  | resolver e => .resolver e

/-- A notice with the column of a rejection so much further to the right. -/
def Notice.shift (offset : Nat) : Notice → Notice
  | rejected e => .rejected (e.shift offset)
  | copied text => .copied text

/-- A run with the columns in what it rejects so much further to the right. -/
def Run.shift (offset : Nat) (run : Run σ ε) : Run σ ε :=
  { run with
    result := run.result.mapError (Failure.shift offset)
    notices := run.notices.map (Notice.shift offset) }

/-- A malformed reference further to the right has its error further to the right. -/
theorem Malformed.errorAt_add (m : Malformed) (column offset : Nat) :
    m.errorAt (column + offset) = (m.errorAt column).shift offset := by
  cases m with
  | noName => simp only [errorAt, Error.shift, Nat.add_right_comm]
  | badCharacter form name c => simp only [errorAt, Error.shift, Nat.add_right_comm]
  | unterminated form name => rfl

/-- An error counts the same at every column. -/
theorem Error.tally_shift (e : Error) (offset : Nat) : (e.shift offset).tally = e.tally := by
  cases e <;> rfl

namespace Run

/-- A run that is moved ends with a failure when the run does, and the failure is moved. -/
theorem shift_of_error {run : Run σ ε} {failure : Failure ε} (h : run.result = .error failure) (offset : Nat) :
    (run.shift offset).result = .error (failure.shift offset) := by
  simp only [shift, h, Except.mapError]

/-- A run that is moved produces what the run does. -/
theorem shift_of_ok {run : Run σ ε} {text : Text} (h : run.result = .ok text) (offset : Nat) :
    (run.shift offset).result = .ok text := by
  simp only [shift, h, Except.mapError]

/-- Two runs are moved, one behind the other, when the whole is. -/
theorem shift_before (run later : Run σ ε) (offset : Nat) :
    (run.before later).shift offset = (run.shift offset).before (later.shift offset) := by
  cases hr : run.result with
  | error failure => rw [before_of_error hr, before_of_error (shift_of_error hr offset)]
  | ok text =>
    rw [before_of_ok hr, before_of_ok (shift_of_ok hr offset)]
    cases hl : later.result <;> simp only [shift, hl, Except.map, Except.mapError, List.map_append]

end Run

/-- A piece further to the right runs as it does, but for the column of its error. -/
theorem Piece.expand_add (p : Piece) (o : Options) (r : Resolver σ ε) (column offset : Nat) (st : σ) :
    p.expand o r (column + offset) st = (p.expand o r column st).shift offset := by
  cases p with
  | reference ref =>
    rcases hask : r.ask st ref.name with ⟨e | value | value, st'⟩ <;>
      simp only [expand, Run.resolve, hask, Run.shift, Except.mapError, Failure.shift, List.map_nil]
  | malformed m =>
    cases hs : o.strict with
    | true =>
      simp only [expand, hs, if_true, Run.reject, Run.shift, Except.mapError, Failure.shift, m.errorAt_add,
        Error.tally_shift, List.map_cons, List.map_nil, Notice.shift]
    | false =>
      simp only [expand, hs, Bool.false_eq_true, if_false, Run.copy, Run.shift, Except.mapError, List.map_cons,
        List.map_nil, Notice.shift]
  | _ => rfl

/-- Pieces further to the right run as they do, but for the columns of their errors. -/
theorem expand_add (o : Options) (r : Resolver σ ε) (column offset : Nat) (st : σ) (ps : List Piece) :
    expand o r (column + offset) st ps = (expand o r column st ps).shift offset := by
  induction ps generalizing column st with
  | nil => rfl
  | cons p ps ih =>
    have hstate : ((p.expand o r column st).shift offset).state = (p.expand o r column st).state := rfl
    rw [expand_cons, expand_cons, Run.andThen, Run.andThen, Run.shift_before, p.expand_add, hstate, Nat.add_right_comm, ih]

/-! ## Clean ends -/

/-- A template ends cleanly before another. Nothing at its end is taken up by what comes behind. -/
structure EndsCleanly (f : Forms) (a b : Text) : Prop where
  /-- It does not end in a reference that is not closed. -/
  closed : ∀ form name, (pieces f a).getLast? ≠ some (.malformed (.unterminated form name))
  /-- It does not end in a dollar sign of its own. -/
  paired : (pieces f a).getLast? ≠ some (.loneDollar none)
  /-- If it ends in a bare name, the other does not begin with a character of a bare name. -/
  separated : ∀ name, (pieces f a).getLast? = some (.reference (.bare name)) → ∀ c, b.head? = some c → isBare c = false

/-- Where a template ends cleanly before another, the pieces of the two are those of the one and of the other. -/
theorem EndsCleanly.pieces_append {f : Forms} {a b : Text} (h : EndsCleanly f a b) :
    pieces f (a ++ b) = pieces f a ++ pieces f b := by
  refine Template.pieces_append fun p hp => ?_
  obtain ⟨init, hinit⟩ := List.getLast?_eq_some_iff.mp hp
  have hfits : p.Fits f [] := fits_of_pieces hinit
  refine hfits.before ?_ ?_
  · intro hfinal
    rcases Piece.isFinal_iff.mp hfinal with ⟨form, name, rfl⟩ | rfl
    · exact absurd hp (h.closed form name)
    · exact absurd hp h.paired
  · rintro name rfl
    exact h.separated name hp

/-! ## Substitution in two templates put together -/

/-- Where a template ends cleanly before another, substitution in the two is substitution in the first and, unless that fails, in
the second, from the state in which the first leaves the resolver.
1. If the first fails, that is all that happens, and the second is not looked at.
2. If the first produces a text, then what the second produces stands behind it; or the second fails, and its failure is that
   of the whole, with its column moved by the length of the first.
3. In that case the names asked for and the notices are those of the first and of the second, with the same change of columns;
   and every count but that of substitutions is the sum of both. -/
theorem substitute_append {o : Options} {a b : Text} (h : EndsCleanly o.toForms a b) (r : Resolver σ ε) (st : σ) :
    let first := substitute o r st a
    let second := substitute o r first.state b
    let whole := substitute o r st (a ++ b)
    (∀ failure, first.result = .error failure → whole = first) ∧
    ∀ text, first.result = .ok text →
      (∀ rest, second.result = .ok rest → whole.result = .ok (text ++ rest)) ∧
      (∀ failure, second.result = .error failure → whole.result = .error (failure.shift a.length)) ∧
      whole.state = second.state ∧ whole.calls = first.calls ++ second.calls ∧
      whole.tally + { substitute := 1 } = first.tally + second.tally ∧
      whole.notices = first.notices ++ second.notices.map (Notice.shift a.length) := by
  intro first second whole
  have hwhole : expand o r 0 st (pieces o.toForms (a ++ b)) =
      (expand o r 0 st (pieces o.toForms a)).before
        ((expand o r 0 first.state (pieces o.toForms b)).shift a.length) := by
    rw [h.pieces_append, expand_append, text_pieces, Run.andThen, expand_add]
    rfl
  refine ⟨?_, ?_⟩
  · intro failure hfailure
    have hfirst : (expand o r 0 st (pieces o.toForms a)).result = .error failure := hfailure
    simp only [whole, first, substitute, hwhole, Run.before_of_error hfirst]
  · intro text htext
    have hfirst : (expand o r 0 st (pieces o.toForms a)).result = .ok text := htext
    rw [Run.before_of_ok hfirst] at hwhole
    refine ⟨?_, ?_, ?_, ?_, ?_, ?_⟩
    · intro rest hrest
      have hsecond : (expand o r 0 first.state (pieces o.toForms b)).result = .ok rest := hrest
      simp only [whole, substitute, hwhole, Run.shift_of_ok hsecond, Except.map]
    · intro failure hfailure
      have hsecond : (expand o r 0 first.state (pieces o.toForms b)).result = .error failure := hfailure
      simp only [whole, substitute, hwhole, Run.shift_of_error hsecond, Except.map]
    · simp only [whole, second, substitute, hwhole, Run.shift]
    · simp only [whole, second, first, substitute, hwhole, Run.shift]
    · simp only [whole, second, first, substitute, hwhole, Run.shift, Tally.add_eq, Tally.mk.injEq]
      omega
    · simp only [whole, second, first, substitute, hwhole, Run.shift]

/-- The templates `é$A%B%` and `-$C${x=`, of which the first ends in a reference and the second is rejected at its sign: the
column moves from 6 to 12, and the notice with it. Where a name of the first is refused, the second is not asked for its own.
Without its last sign, the first does not end cleanly. -/
theorem substitute_append_rejected :
    let o : Options := {}
    let a : Text := ['é', '$', 'A', '%', 'B', '%']
    let b : Text := ['-', '$', 'C', '$', '{', 'x', '=']
    let refused : GuardedRule := { rule := .identity, deny := [['B']] }
    (substitute o (.ofRule .odd) 0 (a ++ b)).result = .error (.malformed (.badCharacter ['x'] '=' 12)) ∧
      (substitute o (.ofRule .odd) 0 (a ++ b)).calls = [['A'], ['B'], ['C']] ∧
      (substitute o (.ofRule .odd) 0 (a ++ b)).notices = [.rejected (.badCharacter ['x'] '=' 12)] ∧
      (substitute o (.ofGuardedRule refused) 0 (a ++ b)).calls = [['A'], ['B']] ∧
      ¬EndsCleanly o.toForms a.dropLast b := by
  intro o a b refused
  have hlast : (pieces o.toForms a).getLast? = some (.reference (.delimited .percent ['B'])) := by decide +kernel
  have hclean : EndsCleanly o.toForms a b := by
    refine ⟨?_, ?_, ?_⟩
    · simp [hlast]
    · simp [hlast]
    · simp [hlast]
  have hfirst : (substitute o (.ofRule .odd) 0 a).result = .ok ['é', 'A'] := by decide +kernel
  obtain ⟨-, hfails, -, hcalls, -, hnotices⟩ := (substitute_append hclean (.ofRule .odd) 0).2 _ hfirst
  refine ⟨?_, ?_, ?_, ?_, ?_⟩
  · exact hfails (.malformed (.badCharacter ['x'] '=' 6)) (by decide +kernel)
  · rw [hcalls]
    decide +kernel
  · rw [hnotices]
    decide +kernel
  · rw [(substitute_append hclean (.ofGuardedRule refused) 0).1 (.resolver (.name ['B'])) (by decide +kernel)]
    decide +kernel
  · intro h
    exact h.closed .percent ['B'] (by decide +kernel)

end Template
