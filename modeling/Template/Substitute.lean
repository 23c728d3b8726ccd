import Template.Run

/-!
# Substitution: a template with the values of its variables

Each piece of a template contributes a run (`Piece.expand`), and the runs of the pieces follow one another (`expand_cons`).
`substitute` is the run of a whole template; `variableNames` lists the names that it refers to, by running it with a resolver that
only takes note of what it is asked.
-/

namespace Template

variable {σ ε : Type}

namespace Run

/-- Asks for a name: its value, or nothing if it has none. -/
def resolve (r : Resolver σ ε) (st : σ) (name : Text) : Run σ ε :=
  match r.ask st name with
  | (.ok (some value), st) => { result := .ok value, state := st, calls := [name], tally := { resolve := 1 } }
  | (.ok none, st) => { result := .ok [], state := st, calls := [name], tally := { resolve := 1, noValue := 1 } }
  | (.error e, st) => { result := .error (.resolver e), state := st, calls := [name], tally := { resolve := 1 } }

/-- Fails because of a malformed reference. -/
def reject (e : Error) (st : σ) : Run σ ε :=
  { result := .error (.malformed e), state := st, tally := e.tally, notices := [.rejected e] }

/-- Copies a malformed reference. -/
def copy (text : Text) (st : σ) : Run σ ε :=
  { result := .ok text, state := st, tally := { lenient := 1 }, notices := [.copied text] }

end Run

/-- The run of a piece that starts at a column. -/
def Piece.expand (o : Options) (r : Resolver σ ε) (column : Nat) (st : σ) : Piece → Run σ ε
  | plain c => .produce [c] st
  | loneDollar next => .produce ('$' :: next.toList) st
  | escape s => { Run.produce [s.char] st with tally := { escape := 1 } }
  | reference ref => .resolve r st ref.name
  | malformed m => if o.strict then .reject (m.errorAt column) st else .copy m.text st

/-- The run of the pieces from a column on, where the runs of the pieces before it stand in reverse. -/
def expandAfter (o : Options) (r : Resolver σ ε) (earlier : List (Run σ ε)) (column : Nat) (st : σ) :
    List Piece → Run σ ε
  | [] => earlier.foldl (fun later run => run.before later) (.produce [] st)
  | p :: ps =>
    let run := p.expand o r column st
    match run.result with
    | .error _ => earlier.foldl (fun later run => run.before later) run
    | .ok _ => expandAfter o r (run :: earlier) (column + p.text.length) run.state ps

/-- The run of the pieces from a column on. -/
def expand (o : Options) (r : Resolver σ ε) (column : Nat) (st : σ) (ps : List Piece) : Run σ ε :=
  expandAfter o r [] column st ps

/-- Substitutes every reference of a template by the value that the resolver gives it, and copies everything else. With
`strict`, the first malformed reference is a failure; otherwise malformed references are copied as written, and only the
resolver can fail. -/
def substitute (o : Options) (r : Resolver σ ε) (st : σ) (input : Text) : Run σ ε :=
  let run := expand o r 0 st (pieces o.toForms input)
  { run with tally := { substitute := 1 } + run.tally }

/-- The run that takes note of the names that a template refers to. -/
def survey (o : Options) (input : Text) : Run (List Text) Empty := substitute o .collect [] input

/-- The names that a template refers to, in the order in which they appear first, each once. A template on which `substitute`
fails has none. -/
def variableNames (o : Options) (input : Text) : Except Error (List Text) :=
  let run := survey o input
  match run.result with
  | .ok _ => .ok run.state
  | .error e => .error e.error

/-- A template has no variables to list exactly when the run that takes note of them is ended by a malformed reference. -/
theorem variableNames_eq_error_iff {o : Options} {input : Text} {e : Error} :
    variableNames o input = .error e ↔ (survey o input).result = .error (.malformed e) := by
  unfold variableNames
  rcases h : (survey o input).result with (e' | f) | text
  · simp [h, Failure.error]
  · exact f.elim
  · simp [h]

/-- The variables of a template are the names noted by a run that nothing ends. -/
theorem variableNames_eq_ok_iff {o : Options} {input : Text} {names : List Text} :
    variableNames o input = .ok names ↔ (∃ text, (survey o input).result = .ok text) ∧ (survey o input).state = names := by
  unfold variableNames
  rcases h : (survey o input).result with e | text <;> simp [h]

/-! ## The run of a list of pieces, by recursion on the list -/

theorem expandAfter_eq (o : Options) (r : Resolver σ ε) (earlier : List (Run σ ε)) (column : Nat) (st : σ)
    (ps : List Piece) :
    expandAfter o r earlier column st ps =
      earlier.foldl (fun later run => run.before later) (expand o r column st ps) := by
  induction ps generalizing earlier column st with
  | nil => rfl
  | cons p ps ih =>
    rw [expand, expandAfter, expandAfter]
    cases h : (p.expand o r column st).result with
    | error e => rfl
    | ok text =>
      simp only
      rw [ih, ih [_]]
      rfl

@[simp] theorem expand_nil (o : Options) (r : Resolver σ ε) (column : Nat) (st : σ) :
    expand o r column st [] = .produce [] st := rfl

theorem expand_cons (o : Options) (r : Resolver σ ε) (column : Nat) (st : σ) (p : Piece) (ps : List Piece) :
    expand o r column st (p :: ps) =
      (p.expand o r column st).andThen fun st => expand o r (column + p.text.length) st ps := by
  rw [expand, expandAfter]
  cases h : (p.expand o r column st).result with
  | error e => simp only [Run.andThen, Run.before_of_error h]; rfl
  | ok text =>
    simp only
    rw [expandAfter_eq]
    rfl

/-- The run of one piece. -/
theorem expand_singleton (o : Options) (r : Resolver σ ε) (column : Nat) (st : σ) (p : Piece) :
    expand o r column st [p] = p.expand o r column st := by
  rw [expand_cons]
  exact Run.before_produce_nil _

/-- The run of two lists of pieces, one behind the other, is that of the first and then that of the second. -/
theorem expand_append (o : Options) (r : Resolver σ ε) (column : Nat) (st : σ) (ps qs : List Piece) :
    expand o r column st (ps ++ qs) =
      (expand o r column st ps).andThen fun st => expand o r (column + (ps.flatMap Piece.text).length) st qs := by
  induction ps generalizing column st with
  | nil =>
    rw [expand_nil, Run.andThen, Run.produce_nil_before]
    rfl
  | cons p ps ih =>
    rw [List.cons_append, expand_cons, expand_cons, Run.andThen_assoc]
    simp only [ih, List.flatMap_cons, List.length_append, Nat.add_assoc]

end Template
