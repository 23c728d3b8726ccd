import Template.Resolver

/-!
# Rules: values computed from the name and the number of questions

The state of these resolvers is the number of questions answered so far. A guarded rule may also fail: it answers only so many
questions, and it refuses certain names.
-/

namespace Template

/-- How a value is computed from a name. -/
inductive Rule where
  /-- The name itself. -/
  | identity
  /-- No value. -/
  | none
  /-- The name with ASCII letters in upper case. -/
  | upper
  /-- The name with ASCII letters in lower case. -/
  | lower
  /-- The name in angle brackets. -/
  | bracket
  /-- The name backwards. -/
  | reverse
  /-- The length of the name, in decimal. -/
  | length
  /-- Always the same value. -/
  | const (value : Text)
  /-- The braced reference to the name. -/
  | brace
  /-- The name and the number of the question. -/
  | count
  /-- The name at every other question, beginning with the first. -/
  | odd
  deriving DecidableEq, Repr

/-- The value of a name at the `n`-th question; the first has number 1. -/
def Rule.value? (rule : Rule) (n : Nat) (name : Text) : Option Text :=
  match rule with
  | identity => some name
  | none => Option.none
  | upper => some (name.map Char.toUpper)
  | lower => some (name.map Char.toLower)
  | bracket => some ('<' :: name ++ ['>'])
  | reverse => some name.reverse
  | length => some (Text.ofNat name.length)
  | const value => some value
  | brace => some (['$', '{'] ++ name ++ ['}'])
  | count => some (name ++ '#' :: Text.ofNat n)
  | odd => if n % 2 = 1 then some name else Option.none

/-- A rule, and the questions that it fails to answer. -/
structure GuardedRule where
  /-- The rule for the other questions. -/
  rule : Rule
  /-- The names that are refused. -/
  deny : List Text := []
  /-- The number of questions after which every question fails. -/
  limit : Option Nat := none

/-- Why a guarded rule fails. -/
inductive Denial where
  /-- The name is refused. -/
  | name (name : Text)
  /-- As many questions as were allowed have been answered. -/
  | limit (asked : Nat)
  deriving DecidableEq, Repr

namespace Resolver

/-- Values by a rule. -/
def ofRule (rule : Rule) : Resolver Nat Empty :=
  ofFunction fun asked name => (rule.value? (asked + 1) name, asked + 1)

/-- Values by a guarded rule. A refused name counts as a question; a question beyond the limit does not. -/
def ofGuardedRule (guarded : GuardedRule) : Resolver Nat Denial :=
  ofFallible fun asked name =>
    if guarded.limit.any (· ≤ asked) then (.error (.limit asked), asked)
    else if guarded.deny.contains name then (.error (.name name), asked + 1)
    else (.ok (guarded.rule.value? (asked + 1) name), asked + 1)

end Resolver

end Template
