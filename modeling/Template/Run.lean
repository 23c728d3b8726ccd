import Template.Piece
import Template.Resolver
import Template.Tally

/-!
# Runs: everything a stretch of substitution does

A run is the outcome of a stretch of a template together with all that can be observed of it: the text or the failure, the
state in which it leaves the resolver, the names it asked for, its tally and its notices. Runs are put one after another by
`Run.andThen`: a failure ends the whole, and otherwise the parts add up.
-/

namespace Template

variable {σ ε : Type}

/-- Why a substitution fails: a malformed reference, or a failure of the resolver, which is passed on as it is. -/
inductive Failure (ε : Type) where
  | malformed (error : Error)
  | resolver (failure : ε)
  deriving DecidableEq, Repr

/-- The error behind a failure, where the resolver has none of its own. -/
def Failure.error : Failure Empty → Error
  | malformed e => e

/-- What a stretch of substitution does. -/
structure Run (σ ε : Type) where
  /-- The text it produces, or why it fails. -/
  result : Except (Failure ε) Text
  /-- The state of the resolver after it. -/
  state : σ
  /-- The names it asks for, in order, the one whose resolution fails included. -/
  calls : List Text := []
  /-- What it counts. -/
  tally : Tally := {}
  /-- What it reports, in order. -/
  notices : List Notice := []

namespace Run

/-- The run that produces a text and does nothing else. -/
def produce (text : Text) (st : σ) : Run σ ε := { result := .ok text, state := st }

/-- A run with a later one behind it, which was started in the state that the first one left. -/
def before (run later : Run σ ε) : Run σ ε :=
  match run.result with
  | .error _ => run
  | .ok text =>
    { result := later.result.map (text ++ ·)
      state := later.state
      calls := run.calls ++ later.calls
      tally := run.tally + later.tally
      notices := run.notices ++ later.notices }

/-- One run after another: a failure of the first is that of the whole, and the second does not take place. -/
def andThen (run : Run σ ε) (next : σ → Run σ ε) : Run σ ε := run.before (next run.state)

theorem before_of_error {run : Run σ ε} {e : Failure ε} (h : run.result = .error e) (later : Run σ ε) :
    run.before later = run := by
  simp [before, h]

theorem before_of_ok {run : Run σ ε} {text : Text} (h : run.result = .ok text) (later : Run σ ε) :
    run.before later =
      { result := later.result.map (text ++ ·)
        state := later.state
        calls := run.calls ++ later.calls
        tally := run.tally + later.tally
        notices := run.notices ++ later.notices } := by
  simp [before, h]

/-- Nothing is produced before a run: that is the run. -/
@[simp] theorem produce_nil_before (st : σ) (run : Run σ ε) : (produce [] st).before run = run := by
  have h : (produce [] st : Run σ ε).result = .ok [] := rfl
  rw [before_of_ok h]
  cases run with
  | mk result state calls tally notices => cases result <;> simp [produce, Except.map, Tally.nothing_add]

/-- Nothing is produced behind a run: that is the run. -/
@[simp] theorem before_produce_nil (run : Run σ ε) : run.before (produce [] run.state) = run := by
  cases h : run.result with
  | error e => rw [before_of_error h]
  | ok text =>
    rw [before_of_ok h]
    cases run
    simp_all [produce, Except.map, Tally.add_nothing]

/-- Texts produced one behind the other are a text produced. -/
theorem produce_before_produce (a b : Text) (st st' : σ) :
    (produce a st : Run σ ε).before (produce b st') = produce (a ++ b) st' := by
  rw [before_of_ok rfl]
  rfl

theorem before_assoc (a b c : Run σ ε) : (a.before b).before c = a.before (b.before c) := by
  cases ha : a.result with
  | error e => rw [before_of_error ha, before_of_error ha, before_of_error ha]
  | ok s =>
    cases hb : b.result with
    | error e =>
      have hab : (a.before b).result = .error e := by simp [before_of_ok ha, hb, Except.map]
      rw [before_of_error hab, before_of_error hb]
    | ok t =>
      have hab : (a.before b).result = .ok (s ++ t) := by simp [before_of_ok ha, hb, Except.map]
      rw [before_of_ok hab, before_of_ok ha, before_of_ok ha, before_of_ok hb]
      cases c.result <;> simp [Except.map, Tally.add_assoc]

/-- Runs that follow one another may be put together from either end. -/
theorem andThen_assoc (run : Run σ ε) (f g : σ → Run σ ε) :
    (run.andThen f).andThen g = run.andThen fun st => (f st).andThen g := by
  cases h : run.result with
  | error e => simp only [andThen, before_of_error h]
  | ok text =>
    have hst : (run.before (f run.state)).state = (f run.state).state := by rw [before_of_ok h]
    simp only [andThen, hst, before_assoc]

end Run

end Template
