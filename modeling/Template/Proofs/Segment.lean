import Template.Piece

/-!
# Segments: what a template says, apart from how it is written

A template says texts and references, in some order. Filling a sequence of segments puts the values of its references in their
places (`Segment.fill`); what is filled is the text in front, then each value with the text behind it (`fill_eq`).
`Piece.segment` is what a piece says.
-/

namespace Template

/-- A text that stands for itself, or a reference that stands for the value of its variable. -/
inductive Segment where
  | text (t : Text)
  | reference (r : Reference)
  deriving DecidableEq, Repr

namespace Segment

/-- The variable that a segment refers to, if it is a reference. -/
def name? : Segment → Option Text
  | text _ => none
  | reference r => some r.name

/-- The variables that segments refer to, in order and with repeats. -/
def names (segments : List Segment) : List Text := segments.filterMap name?

/-- The segments put together, with a value for each reference; a variable without a value gives the empty text. -/
def fill : List Segment → List (Option Text) → Text
  | [], _ => []
  | text t :: segments, values => t ++ fill segments values
  | reference _ :: segments, [] => fill segments []
  | reference _ :: segments, value :: values => value.getD [] ++ fill segments values

/-- The text in front of the first reference. -/
def lead : List Segment → Text
  | [] => []
  | text t :: segments => t ++ lead segments
  | reference _ :: _ => []

/-- For each reference, the text between it and the next one. -/
def tails : List Segment → List Text
  | [] => []
  | text _ :: segments => tails segments
  | reference _ :: segments => lead segments :: tails segments

@[simp] theorem names_nil : names [] = [] := rfl

@[simp] theorem names_text (t : Text) (segments : List Segment) : names (text t :: segments) = names segments := rfl

@[simp] theorem names_reference (r : Reference) (segments : List Segment) :
    names (reference r :: segments) = r.name :: names segments := rfl

@[simp] theorem names_append (xs ys : List Segment) : names (xs ++ ys) = names xs ++ names ys := List.filterMap_append

/-- Filling two sequences of segments, one behind the other, is filling each with its own values. -/
theorem fill_append {xs ys : List Segment} {vs ws : List (Option Text)} (h : vs.length = (names xs).length) :
    fill (xs ++ ys) (vs ++ ws) = fill xs vs ++ fill ys ws := by
  induction xs generalizing vs with
  | nil =>
    obtain rfl : vs = [] := List.length_eq_zero_iff.mp h
    rfl
  | cons x xs ih =>
    cases x with
    | text t =>
      have hvs : vs.length = (names xs).length := h
      rw [List.cons_append, fill, fill, ih hvs, List.append_assoc]
    | reference r =>
      cases vs with
      | nil => simp at h
      | cons v vs =>
        have hvs : vs.length = (names xs).length := by simpa using h
        rw [List.cons_append, List.cons_append, fill, fill, ih hvs, List.append_assoc]

/-- What is filled is as long as its texts, which stand there without any value, and its values. -/
theorem length_fill {segments : List Segment} {values : List (Option Text)} (h : values.length = (names segments).length) :
    (fill segments values).length = (fill segments []).length + (values.flatMap (·.getD [])).length := by
  induction segments generalizing values with
  | nil =>
    obtain rfl : values = [] := List.length_eq_zero_iff.mp h
    rfl
  | cons s segments ih =>
    cases s with
    | text t =>
      have hvs : values.length = (names segments).length := h
      rw [fill, fill, List.length_append, List.length_append, ih hvs, Nat.add_assoc]
    | reference r =>
      cases values with
      | nil => simp at h
      | cons value values =>
        have hvs : values.length = (names segments).length := by simpa using h
        rw [fill, fill, List.length_append, ih hvs, List.flatMap_cons, List.length_append]
        omega

/-- There is one text behind each reference. -/
theorem length_tails (segments : List Segment) : (tails segments).length = (names segments).length := by
  induction segments with
  | nil => rfl
  | cons s segments ih =>
    cases s with
    | text t => exact ih
    | reference r => simp [tails, ih]

/-- What is filled is the text in front, and then each value with the text behind it. -/
theorem fill_eq {segments : List Segment} {values : List (Option Text)} (h : values.length = (names segments).length) :
    fill segments values =
      lead segments ++ (List.zipWith (fun value tail => value.getD [] ++ tail) values (tails segments)).flatten := by
  induction segments generalizing values with
  | nil => simp [fill, lead, tails]
  | cons s segments ih =>
    cases s with
    | text t =>
      have hvs : values.length = (names segments).length := h
      rw [fill, lead, tails, ih hvs, List.append_assoc]
    | reference r =>
      cases values with
      | nil => simp at h
      | cons value values =>
        have hvs : values.length = (names segments).length := by simpa using h
        rw [fill, lead, tails, ih hvs, List.zipWith_cons_cons, List.flatten_cons]
        simp only [List.nil_append, List.append_assoc]

end Segment

/-- What a piece says: a doubled sigil stands for one, and what is malformed or opens nothing stands for itself. -/
def Piece.segment : Piece → Segment
  | plain c => .text [c]
  | loneDollar next => .text ('$' :: next.toList)
  | escape s => .text [s.char]
  | reference r => .reference r
  | malformed m => .text m.text

end Template
