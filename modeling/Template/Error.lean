import Template.Quoted
import Template.Reference
import Template.Unprintable

/-!
# Errors: what is wrong with a malformed reference, and where

An error says which variable was being named and at which column the reference went wrong. Columns count code points from the
start of the template, and the first is 0. `Error.message` is the wording; every message is one line.
-/

namespace Template

/-- What is wrong with a malformed reference. -/
inductive Error where
  /-- Braces without a name; the column is that of the opening brace. -/
  | noName (column : Nat)
  /-- The template ended before the reference was closed. -/
  | unterminatedVariable (name : Text)
  /-- A character that is not allowed in the name stands before the closing delimiter. -/
  | badCharacter (name : Text) (character : Char) (column : Nat)
  deriving DecidableEq, Repr

namespace Error

/-- The wording of an error, where the characters beyond ASCII that `wide` holds of are shown by number. -/
def messageWith (wide : Char → Bool) : Error → Text
  | noName column => "variable with no name at column ".toList ++ Text.ofNat column
  | unterminatedVariable name => "unterminated variable ".toList ++ Quoted.enclose '"' wide name
  | badCharacter name character column =>
    "bad character ".toList ++ Quoted.enclose '\'' wide [character] ++ " at column ".toList ++ Text.ofNat column ++
      " in variable ".toList ++ Quoted.enclose '"' wide name

/-- The wording of an error. -/
def message : Error → Text := messageWith isUnprintable

end Error

/-- The error that a malformed reference is, when it starts at a column. -/
def Malformed.errorAt (column : Nat) : Malformed → Error
  | noName => .noName (column + 1)
  | badCharacter form name c => .badCharacter name c (column + form.opener.length + name.length)
  | unterminated _ name => .unterminatedVariable name

end Template
