import Template.Options
import Template.Text

/-!
# References: how a template names a variable

A variable is named bare (`$NAME`), in braces (`${NAME}`) or between percent signs (`%NAME%`). The last two are delimited:
their name runs to a closing delimiter and may hold any printable ASCII character but the delimiter and `=`. A delimited
reference can be malformed in three ways (`Malformed`), and each of them has its text, so that it can be copied as written.
-/

namespace Template

/-- A sigil opens a reference; written twice, it stands for itself. -/
inductive Sigil where
  | dollar
  | percent
  deriving DecidableEq, Repr

/-- The character of a sigil. -/
def Sigil.char : Sigil → Char
  | .dollar => '$'
  | .percent => '%'

/-- Whether the forms opened by a sigil are recognised. -/
def Forms.enables (f : Forms) : Sigil → Bool
  | .dollar => f.dollar
  | .percent => f.percent

/-- The sigil that a character is, if its forms are recognised. -/
def Forms.sigil? (f : Forms) (c : Char) : Option Sigil :=
  if f.dollar ∧ c = '$' then some .dollar
  else if f.percent ∧ c = '%' then some .percent
  else none

/-- A character of a bare name: an ASCII letter, a digit or the underscore. -/
def isBare (c : Char) : Bool := c.isAlphanum || c == '_'

/-- A printable ASCII character, the space included. -/
def isPrintable (c : Char) : Bool := ' ' ≤ c && c ≤ '~'

/-- The printable characters are those from U+0020 to U+007E. -/
theorem isPrintable_iff {c : Char} : isPrintable c = true ↔ 0x20 ≤ c.toNat ∧ c.toNat ≤ 0x7e := by
  simp [isPrintable, Char.le_def, UInt32.le_iff_toNat_le]

/-- The characters of a bare name are printable. -/
theorem isPrintable_of_isBare {c : Char} (h : isBare c = true) : isPrintable c = true := by
  have hranges : ((decide (65 ≤ c.val ∧ c.val ≤ 90) || (decide (97 ≤ c.val) && decide (c.val ≤ 122))) ||
      (decide (48 ≤ c.val) && decide (c.val ≤ 57)) || c == '_') = true := h
  have hcodes : (((65 ≤ c.toNat ∧ c.toNat ≤ 90) ∨ (97 ≤ c.toNat ∧ c.toNat ≤ 122)) ∨ (48 ≤ c.toNat ∧ c.toNat ≤ 57)) ∨
      c.toNat = 95 := by
    simpa [Char.ext_iff, UInt32.le_iff_toNat_le, ← UInt32.toNat_inj] using hranges
  rw [isPrintable_iff]
  omega

/-- The two forms of reference whose name runs to a closing delimiter. -/
inductive Delimited where
  | braced
  | percent
  deriving DecidableEq, Repr

namespace Delimited

/-- What opens a reference of the form. -/
def opener : Delimited → Text
  | braced => ['$', '{']
  | percent => ['%']

/-- What closes a reference of the form. -/
def closer : Delimited → Char
  | braced => '}'
  | percent => '%'

/-- The sigil whose switch the form hangs on. -/
def sigil : Delimited → Sigil
  | braced => .dollar
  | percent => .percent

/-- A character that a name of the form may hold: printable ASCII except the closing delimiter and `=`. -/
def isSafe (form : Delimited) (c : Char) : Bool := isPrintable c && c != form.closer && c != '='

/-- The closing delimiter is no character of a name. -/
@[simp] theorem isSafe_closer (form : Delimited) : form.isSafe form.closer = false := by
  cases form <;> rfl

/-- A character of a bare name may stand in every delimited name. -/
theorem isSafe_of_isBare (form : Delimited) {c : Char} (h : isBare c = true) : form.isSafe c = true := by
  have hne : c ≠ '=' ∧ c ≠ '}' ∧ c ≠ '%' := by
    refine ⟨?_, ?_, ?_⟩ <;> rintro rfl <;> exact absurd h (by decide)
  cases form <;> simp [isSafe, closer, isPrintable_of_isBare h, hne]

/-- A character of a delimited name may stand in braces, unless it closes them. -/
theorem isSafe_braced {form : Delimited} {c : Char} (h : form.isSafe c = true) (hc : c ≠ '}') : braced.isSafe c = true := by
  cases form with
  | braced => exact h
  | percent =>
    simp only [isSafe, closer, Bool.and_eq_true, bne_iff_ne] at h ⊢
    exact ⟨⟨h.1.1, hc⟩, h.2⟩

end Delimited

/-- A well-formed reference. -/
inductive Reference where
  | bare (name : Text)
  | delimited (form : Delimited) (name : Text)
  deriving DecidableEq, Repr

namespace Reference

/-- The variable that a reference names. -/
def name : Reference → Text
  | bare n => n
  | delimited _ n => n

/-- A reference as it is written. -/
def text : Reference → Text
  | bare n => '$' :: n
  | delimited form n => form.opener ++ n ++ [form.closer]

end Reference

/-- A malformed reference, as far as it was read. -/
inductive Malformed where
  /-- Braces that were closed without a name. -/
  | noName
  /-- A character that is neither the closing delimiter nor allowed in a name of the form. -/
  | badCharacter (form : Delimited) (name : Text) (character : Char)
  /-- The input ended before the closing delimiter. -/
  | unterminated (form : Delimited) (name : Text)
  deriving DecidableEq, Repr

/-- A malformed reference as it is written; a bad character is its last. -/
def Malformed.text : Malformed → Text
  | noName => ['$', '{', '}']
  | badCharacter form n c => form.opener ++ n ++ [c]
  | unterminated form n => form.opener ++ n

end Template
