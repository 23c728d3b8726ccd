/-!
# Text: what templates, names and values are made of

Inputs, variable names, values and messages are sequences of code points. Positions in a template are counted in them, so a
column is the length of a list. A file holds bytes; `decode?` is where the two meet.
-/

namespace Template

/-- A sequence of Unicode code points. -/
abbrev Text := List Char

namespace Text

/-- A text is looked up by its code points. -/
instance : Hashable Text where
  hash t := t.foldl (fun h c => mixHash h (hash c.toNat)) 7

/-- The text that bytes encode in UTF-8, if they are valid UTF-8. -/
def decode? (bytes : ByteArray) : Option Text := (String.fromUTF8? bytes).map String.toList

/-- The number of bytes of a text in UTF-8. -/
def utf8Size (t : Text) : Nat := t.foldl (fun n c => n + c.utf8Size) 0

/-- A number in decimal, without leading zeros. -/
def ofNat (n : Nat) : Text := Nat.toDigits 10 n

/-- Cuts a text after its last line break: the whole lines, each with its break, and the part of a line that is left. -/
def cutLines (t : Text) : Text × Text :=
  (t.reverse.dropWhile (· ≠ '\n') |>.reverse, t.reverse.takeWhile (· ≠ '\n') |>.reverse)

/-- One text a line, each followed by a line break. -/
def unlines (ts : List Text) : Text := ts.flatMap (· ++ ['\n'])

/-- The two parts of a cut put together are the text. -/
theorem cutLines_append (t : Text) : (cutLines t).1 ++ (cutLines t).2 = t := by
  rw [cutLines, ← List.reverse_append, List.takeWhile_append_dropWhile, List.reverse_reverse]

/-- The size of a text added to a number. -/
theorem foldl_utf8Size (t : Text) (n : Nat) : t.foldl (fun n c => n + c.utf8Size) n = n + utf8Size t := by
  induction t generalizing n with
  | nil => rfl
  | cons c t ih => rw [utf8Size, List.foldl_cons, List.foldl_cons, ih, ih (0 + c.utf8Size), Nat.zero_add, Nat.add_assoc]

theorem utf8Size_append (t u : Text) : utf8Size (t ++ u) = utf8Size t + utf8Size u := by
  rw [utf8Size, List.foldl_append, foldl_utf8Size]
  rfl

/-- Only the empty text has no bytes. -/
theorem utf8Size_eq_zero_iff {t : Text} : utf8Size t = 0 ↔ t = [] := by
  cases t with
  | nil => exact iff_of_true rfl rfl
  | cons c t =>
    have hpos := c.utf8Size_pos
    rw [utf8Size, List.foldl_cons, foldl_utf8Size]
    simp only [reduceCtorEq, iff_false]
    omega

end Text

end Template
