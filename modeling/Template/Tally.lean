import Template.Error

/-!
# Tallies and notices: what is counted and what is reported

A tally counts what happened, under eight labels; the tallies of two stretches of work add up. A notice reports a malformed
reference, either rejected or copied to the output; it has a level, and a collector keeps the notices up to its verbosity.
-/

namespace Template

/-- How often each thing happened. -/
structure Tally where
  /-- Substitutions begun. -/
  substitute : Nat := 0
  /-- Names that were to be resolved. -/
  resolve : Nat := 0
  /-- Names that turned out to have no value. -/
  noValue : Nat := 0
  /-- Doubled sigils. -/
  escape : Nat := 0
  /-- Malformed references copied to the output. -/
  lenient : Nat := 0
  /-- Failures for want of a name. -/
  noName : Nat := 0
  /-- Failures for want of a closing delimiter. -/
  unterminatedVariable : Nat := 0
  /-- Failures at a character that is not allowed. -/
  badCharacter : Nat := 0
  deriving DecidableEq, Repr

namespace Tally

instance : Add Tally where
  add a b :=
    { substitute := a.substitute + b.substitute
      resolve := a.resolve + b.resolve
      noValue := a.noValue + b.noValue
      escape := a.escape + b.escape
      lenient := a.lenient + b.lenient
      noName := a.noName + b.noName
      unterminatedVariable := a.unterminatedVariable + b.unterminatedVariable
      badCharacter := a.badCharacter + b.badCharacter }

/-- Tallies add up label by label. -/
theorem add_eq (a b : Tally) :
    a + b =
      { substitute := a.substitute + b.substitute
        resolve := a.resolve + b.resolve
        noValue := a.noValue + b.noValue
        escape := a.escape + b.escape
        lenient := a.lenient + b.lenient
        noName := a.noName + b.noName
        unterminatedVariable := a.unterminatedVariable + b.unterminatedVariable
        badCharacter := a.badCharacter + b.badCharacter } := rfl

theorem add_assoc (a b c : Tally) : a + b + c = a + (b + c) := by
  simp only [add_eq, Nat.add_assoc]

/-- Nothing counted adds nothing. -/
theorem nothing_add (a : Tally) : {} + a = a := by
  simp only [add_eq, Nat.zero_add]

theorem add_nothing (a : Tally) : a + {} = a := by
  simp only [add_eq, Nat.add_zero]

/-- The counts under their labels, in the order in which they are listed. -/
def entries (t : Tally) : List (String × Nat) :=
  [ ("varsubst.substitute", t.substitute),
    ("varsubst.resolve", t.resolve),
    ("varsubst.resolve.no_value", t.noValue),
    ("varsubst.escape", t.escape),
    ("varsubst.lenient", t.lenient),
    ("varsubst.error.no_name", t.noName),
    ("varsubst.error.unterminated_variable", t.unterminatedVariable),
    ("varsubst.error.bad_character", t.badCharacter) ]

end Tally

/-- One failure, counted under the label of its kind. -/
def Error.tally : Error → Tally
  | noName _ => { noName := 1 }
  | unterminatedVariable _ => { unterminatedVariable := 1 }
  | badCharacter _ _ _ => { badCharacter := 1 }

/-- A report of a malformed reference. -/
inductive Notice where
  /-- The reference made the substitution fail. -/
  | rejected (error : Error)
  /-- The reference was copied to the output, as this text. -/
  | copied (text : Text)
  deriving DecidableEq, Repr

/-- How far down the list of what matters a notice stands: a failure is an error, a copy only information. -/
def Notice.level : Notice → Nat
  | rejected _ => 3
  | copied _ => 9

/-- Where notices go. -/
structure Collector where
  /-- Whether notices are collected at all. -/
  registered : Bool := true
  /-- The highest level that is collected. -/
  verbosity : Nat := 9
  deriving DecidableEq, Repr

/-- The notices that a collector keeps, in order. -/
def Collector.collect (c : Collector) (notices : List Notice) : List Notice :=
  if c.registered then notices.filter (·.level ≤ c.verbosity) else []

end Template
