import Template.Reference

/-!
# Pieces: a template cut into the parts that are treated as one

A template is a sequence of pieces, and its text is theirs put together (`text_pieces`). `Piece.read` takes the first piece
off a nonempty text, and `pieces` repeats it to the end. The cut depends on the text and on the forms recognised alone:
no variable's value and no choice between strict and lenient treatment takes part in it.
-/

namespace Template

/-- A part of a template that is treated as one. -/
inductive Piece where
  /-- A character that opens nothing. -/
  | plain (c : Char)
  /-- A dollar sign that opens nothing, with the character after it, if there is one; both are ordinary text. -/
  | loneDollar (next : Option Char)
  /-- A sigil written twice, which stands for one. -/
  | escape (sigil : Sigil)
  /-- A well-formed reference. -/
  | reference (r : Reference)
  /-- A malformed reference. -/
  | malformed (m : Malformed)
  deriving DecidableEq, Repr

/-- What is read of a delimited reference after its opener, and what is left after it. -/
def Delimited.read (form : Delimited) (s : Text) : Piece × Text :=
  let name := s.takeWhile form.isSafe
  match s.dropWhile form.isSafe with
  | [] => (.malformed (.unterminated form name), [])
  | c :: rest =>
    if c = form.closer then (.reference (.delimited form name), rest)
    else (.malformed (.badCharacter form name c), rest)

namespace Piece

/-- A piece as it is written. -/
def text : Piece → Text
  | plain c => [c]
  | loneDollar next => '$' :: next.toList
  | escape s => [s.char, s.char]
  | reference r => r.text
  | malformed m => m.text

/-- The piece that a dollar sign opens and what is left after it, given what follows the sign. A bare name ends before the
first character that is no part of it; that character belongs to the next piece. -/
def readDollar : Text → Piece × Text
  | [] => (loneDollar none, [])
  | c :: s =>
    if c = '$' then (escape .dollar, s)
    else if c = '{' then
      match s with
      | '}' :: rest => (malformed .noName, rest)
      | _ => Delimited.braced.read s
    else if isBare c then (reference (.bare (c :: s.takeWhile isBare)), s.dropWhile isBare)
    else (loneDollar (some c), s)

/-- The piece that a percent sign opens and what is left after it, given what follows the sign. -/
def readPercent : Text → Piece × Text
  | '%' :: rest => (escape .percent, rest)
  | s => Delimited.percent.read s

/-- The first piece of the text `c :: s`, and what is left after it. -/
def read (f : Forms) (c : Char) (s : Text) : Piece × Text :=
  match f.sigil? c with
  | some .dollar => readDollar s
  | some .percent => readPercent s
  | none => (plain c, s)

end Piece

/-! ## The text of a piece, followed by what is left, is what was read -/

/-- Reading a delimited reference loses nothing. -/
theorem Delimited.text_read (form : Delimited) (s : Text) :
    (form.read s).1.text ++ (form.read s).2 = form.opener ++ s := by
  have split := List.takeWhile_append_dropWhile (p := form.isSafe) (l := s)
  unfold Delimited.read
  split
  · next h =>
    rw [h] at split
    simp only [Piece.text, Malformed.text, List.append_assoc, split]
  · next c rest h =>
    rw [h] at split
    split
    · next hc =>
      subst hc
      simp only [Piece.text, Reference.text, List.append_assoc, List.singleton_append, split]
    · simp only [Piece.text, Malformed.text, List.append_assoc, List.singleton_append, split]

namespace Piece

theorem text_readDollar (s : Text) : (readDollar s).1.text ++ (readDollar s).2 = '$' :: s := by
  unfold readDollar
  split
  · rfl
  · next c s =>
    split
    · next h => subst h; rfl
    · split
      · next h =>
        subst h
        split
        · rfl
        · exact Delimited.braced.text_read s
      · split
        · simp [text, Reference.text, List.takeWhile_append_dropWhile]
        · rfl

theorem text_readPercent (s : Text) : (readPercent s).1.text ++ (readPercent s).2 = '%' :: s := by
  unfold readPercent
  split
  · rfl
  · exact Delimited.percent.text_read _

/-- Reading a piece loses nothing. -/
theorem text_read (f : Forms) (c : Char) (s : Text) : (read f c s).1.text ++ (read f c s).2 = c :: s := by
  unfold read Forms.sigil?
  split
  · next h =>
    split at h
    · next hc => rw [text_readDollar, hc.2]
    · split at h <;> simp_all
  · next h =>
    split at h
    · simp_all
    · split at h
      · next hc => rw [text_readPercent, hc.2]
      · simp_all
  · rfl

/-- No piece is empty. -/
theorem text_ne_nil (p : Piece) : p.text ≠ [] := by
  cases p with
  | plain c => simp [text]
  | loneDollar next => simp [text]
  | escape s => simp [text]
  | reference r => cases r with
    | bare n => simp [text, Reference.text]
    | delimited form n => simp [text, Reference.text]
  | malformed m => cases m with
    | noName => simp [text, Malformed.text]
    | badCharacter form n c => simp [text, Malformed.text]
    | unterminated form n => cases form <;> simp [text, Malformed.text, Delimited.opener]

/-- What is left after a piece is shorter than what was read. -/
theorem length_read_lt (f : Forms) (c : Char) (s : Text) : (read f c s).2.length < (c :: s).length := by
  have whole := congrArg List.length (text_read f c s)
  have := List.length_pos_iff.mpr (text_ne_nil (read f c s).1)
  rw [List.length_append] at whole
  omega

end Piece

/-! ## A template as a sequence of pieces -/

/-- The pieces of a text, in front of which those already read stand in reverse. -/
def piecesAfter (f : Forms) (before : List Piece) : Text → List Piece
  | [] => before.reverse
  | c :: s => piecesAfter f ((Piece.read f c s).1 :: before) (Piece.read f c s).2
termination_by s => s.length
decreasing_by exact Piece.length_read_lt f c s

/-- The pieces of a template, in order. -/
def pieces (f : Forms) (input : Text) : List Piece := piecesAfter f [] input

theorem piecesAfter_eq (f : Forms) (before : List Piece) (s : Text) :
    piecesAfter f before s = before.reverse ++ pieces f s := by
  induction h : s.length using Nat.strongRecOn generalizing before s with
  | ind n ih =>
    cases s with
    | nil => simp [pieces, piecesAfter]
    | cons c s =>
      have shorter := h ▸ Piece.length_read_lt f c s
      rw [pieces, piecesAfter, piecesAfter, ih _ shorter _ _ rfl, ih _ shorter [_] _ rfl]
      simp

@[simp] theorem pieces_nil (f : Forms) : pieces f [] = [] := by
  simp [pieces, piecesAfter]

theorem pieces_cons (f : Forms) (c : Char) (s : Text) :
    pieces f (c :: s) = (Piece.read f c s).1 :: pieces f (Piece.read f c s).2 := by
  rw [pieces, piecesAfter, piecesAfter_eq]
  simp

/-- A template is the text of its pieces, in order. -/
theorem text_pieces (f : Forms) (input : Text) : (pieces f input).flatMap Piece.text = input := by
  induction h : input.length using Nat.strongRecOn generalizing input with
  | ind n ih =>
    cases input with
    | nil => simp
    | cons c s =>
      rw [pieces_cons, List.flatMap_cons, ih _ (h ▸ Piece.length_read_lt f c s) _ rfl, Piece.text_read]

end Template
