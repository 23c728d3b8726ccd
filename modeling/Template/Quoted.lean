import Template.Text

/-!
# Quoted text: how a message shows a character or a name

A quoted text stands between two marks on one line. The mark and the backslash are written after a backslash, as are a few
control characters; the other control characters of ASCII, and those wide characters that cannot be shown as they are, are
written by number, `\u{hex}`. Which wide characters these are is a parameter, so that what holds of quoted text holds for
every choice.
-/

namespace Template.Quoted

/-- A character by number: lower-case hexadecimal without leading zeros. -/
def byNumber (c : Char) : Text := ['\\', 'u', '{'] ++ Nat.toDigits 16 c.toNat ++ ['}']

/-- Whether a character is written by number, when it has no short escape: the control characters of ASCII, and the characters
beyond ASCII that `wide` holds of. -/
def needsNumber (wide : Char → Bool) (c : Char) : Bool :=
  if c.toNat < 0x80 then c.toNat < 0x20 || c.toNat == 0x7f else wide c

/-- A character as it is written between two marks. -/
def escape (mark : Char) (wide : Char → Bool) (c : Char) : Text :=
  if c = '\x00' then ['\\', '0']
  else if c = '\t' then ['\\', 't']
  else if c = '\r' then ['\\', 'r']
  else if c = '\n' then ['\\', 'n']
  else if c = '\\' ∨ c = mark then ['\\', c]
  else if needsNumber wide c then byNumber c
  else [c]

/-- A text between two marks. -/
def enclose (mark : Char) (wide : Char → Bool) (t : Text) : Text := mark :: t.flatMap (escape mark wide) ++ [mark]

end Template.Quoted
