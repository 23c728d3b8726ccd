import Std.Data.HashMap
import Template.Text

/-!
# Resolvers: where values come from

A resolver answers a name with a value, with no value, or with a failure of its own, and may keep a state from one question to
the next. What it answers is never read as template text.
-/

namespace Template

/-- A source of values with states `σ` and failures `ε`. -/
structure Resolver (σ ε : Type) where
  /-- The answer to a name in a state, and the state after it. -/
  ask : σ → Text → Except ε (Option Text) × σ

/-- Variables and their values. -/
abbrev Variables := Std.HashMap Text Text

/-- The variables of a process, whose values are bytes. -/
abbrev Environment := Std.HashMap Text ByteArray

/-- The value of a variable of the process. A name that no variable can have has no value: the empty one, and one with `=` or
NUL in it. Nor has a variable whose value is not valid UTF-8. -/
def Environment.value? (env : Environment) (name : Text) : Option Text :=
  if name.isEmpty || name.contains '=' || name.contains '\x00' then none
  else env[name]?.bind Text.decode?

namespace Resolver

/-- No name has a value. -/
def unset : Resolver Unit Empty where
  ask st _ := (.ok none, st)

/-- A name has the value that the variables give it. -/
def ofVariables : Resolver Variables Empty where
  ask vars name := (.ok vars[name]?, vars)

/-- A name has the value that the process gives it. -/
def environment : Resolver Environment Empty where
  ask env name := (.ok (env.value? name), env)

/-- No name has a value, and the names asked for are noted, each where it is asked for first. -/
def collect : Resolver (List Text) Empty where
  ask names name := (.ok none, if name ∈ names then names else names ++ [name])

/-- Values are computed from the name and a state, without failures. -/
def ofFunction {σ : Type} (f : σ → Text → Option Text × σ) : Resolver σ Empty where
  ask st name := (.ok (f st name).1, (f st name).2)

/-- Values are computed from the name and a state, and the computation may fail. -/
def ofFallible {σ ε : Type} (f : σ → Text → Except ε (Option Text) × σ) : Resolver σ ε where
  ask := f

end Resolver

end Template
