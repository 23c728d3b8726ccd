import Template.Proofs.Grammar
import Template.Resolver.Rule

/-!
# Building templates

A template that says given segments is built by writing the references as they are and the texts with every sigil of a form
recognised doubled (`template`). The pieces of such a template are known (`grammatical_pieces_template`), whatever stands next
to what, as long as no bare name runs on into a text; so substitution undoes the building (`substitute_template`).
-/

namespace Template

variable {σ ε : Type}

/-- A reference of a form recognised, with a name that the form can hold. -/
def Reference.Writable (f : Forms) : Reference → Prop
  | bare name => f.dollar = true ∧ name ≠ [] ∧ ∀ c ∈ name, isBare c = true
  | delimited form name => f.enables form.sigil = true ∧ name ≠ [] ∧ ∀ c ∈ name, form.isSafe c = true

/-- Whether a character is a sigil of a form recognised, so that it has to be doubled. -/
def Forms.doubles (f : Forms) (c : Char) : Bool := (f.sigil? c).isSome

/-- A text with every sigil of a form recognised doubled. -/
def Forms.doubled (f : Forms) (t : Text) : Text := t.flatMap fun c => if f.doubles c then [c, c] else [c]

namespace Segment

/-- Every text can be written, and a reference that is writable. -/
def Writable (f : Forms) : Segment → Prop
  | text _ => True
  | reference r => r.Writable f

/-- A segment as it is written in a template. -/
def written (f : Forms) : Segment → Text
  | text t => f.doubled t
  | reference r => r.text

/-- The text of a segment, if it is one. -/
def literal : Segment → Text
  | text t => t
  | reference _ => []

/-- The character with which the text begins that comes first, but for empty texts, unless a reference comes before it. -/
def firstChar? : List Segment → Option Char
  | [] => none
  | text [] :: segments => firstChar? segments
  | text (c :: _) :: _ => some c
  | reference _ :: _ => none

/-- No bare reference is followed, but for empty texts, by a text that begins with a character of a bare name. -/
def Separated : List Segment → Prop
  | [] => True
  | text _ :: segments => Separated segments
  | reference (.delimited _ _) :: segments => Separated segments
  | reference (.bare _) :: segments => (∀ c, firstChar? segments = some c → isBare c = false) ∧ Separated segments

end Segment

/-- The template that is built from segments. -/
def template (f : Forms) (segments : List Segment) : Text := segments.flatMap (Segment.written f)

/-- The number of characters that are doubled in the template that is built from segments. -/
def doublings (f : Forms) (segments : List Segment) : Nat := (segments.flatMap Segment.literal).countP f.doubles

/-! ## The pieces of a template that was built -/

/-- The piece that a character of a text is written as. -/
def Piece.ofChar (f : Forms) (c : Char) : Piece :=
  match f.sigil? c with
  | some s => .escape s
  | none => .plain c

/-- The pieces that a segment is written as. -/
def Segment.pieces (f : Forms) : Segment → List Piece
  | text t => t.map (Piece.ofChar f)
  | reference r => [.reference r]

namespace Piece

theorem text_ofChar (f : Forms) (c : Char) : (ofChar f c).text = if f.doubles c then [c, c] else [c] := by
  unfold ofChar Forms.doubles
  cases h : f.sigil? c with
  | none => simp [text]
  | some s =>
    obtain ⟨-, rfl⟩ := Forms.sigil?_eq_some_iff.mp h
    simp [text]

/-- A character stands for itself, doubled or not. -/
theorem segment_ofChar (f : Forms) (c : Char) : (ofChar f c).segment = .text [c] := by
  unfold ofChar
  cases h : f.sigil? c with
  | none => rfl
  | some s =>
    obtain ⟨-, rfl⟩ := Forms.sigil?_eq_some_iff.mp h
    rfl

theorem isEscape_ofChar (f : Forms) (c : Char) : (ofChar f c).isEscape = f.doubles c := by
  unfold ofChar Forms.doubles
  cases f.sigil? c <;> rfl

theorem isMalformed_ofChar (f : Forms) (c : Char) : (ofChar f c).isMalformed = false := by
  unfold ofChar
  cases f.sigil? c <;> rfl

/-- The piece of a character fits before every text. -/
theorem fits_ofChar (f : Forms) (c : Char) (rest : Text) : (ofChar f c).Fits f rest := by
  unfold ofChar
  cases h : f.sigil? c with
  | none => exact .plain h
  | some s => exact .escape (Forms.sigil?_eq_some_iff.mp h).1

end Piece

namespace Segment

/-- The text of the pieces of a segment is the segment as it is written. -/
theorem text_pieces (f : Forms) (s : Segment) : (s.pieces f).flatMap Piece.text = s.written f := by
  cases s with
  | text t => simp only [pieces, List.flatMap_map, Piece.text_ofChar, written, Forms.doubled]
  | reference r => simp [pieces, written, Piece.text]

theorem not_malformed_of_mem_pieces {f : Forms} {s : Segment} {p : Piece} (h : p ∈ s.pieces f) :
    p.isMalformed = false := by
  cases s with
  | text t =>
    obtain ⟨c, -, rfl⟩ := List.mem_map.mp h
    exact Piece.isMalformed_ofChar f c
  | reference r =>
    obtain rfl := List.mem_singleton.mp h
    rfl

/-- The doubled sigils in the pieces of a segment are its characters that are doubled. -/
theorem countP_isEscape_pieces (f : Forms) (s : Segment) :
    (s.pieces f).countP Piece.isEscape = s.literal.countP f.doubles := by
  cases s with
  | text t =>
    rw [pieces, List.countP_map, literal]
    exact congrArg (t.countP ·) (funext (Piece.isEscape_ofChar f))
  | reference r => rfl

/-- A text cut into its characters says the same. -/
theorem fill_chars (t : Text) (segments : List Segment) (values : List (Option Text)) :
    fill (t.map (fun c => text [c]) ++ segments) values = t ++ fill segments values := by
  induction t with
  | nil => rfl
  | cons c t ih => rw [List.map_cons, List.cons_append, fill, ih, List.cons_append, List.cons_append, List.nil_append]

theorem names_chars (t : Text) : names (t.map fun c => text [c]) = [] := by
  induction t with
  | nil => rfl
  | cons c t ih => rw [List.map_cons, names_text, ih]

/-- What the pieces of a segment say. -/
theorem segments_pieces_text (f : Forms) (t : Text) :
    ((text t).pieces f).map Piece.segment = t.map fun c => text [c] := by
  rw [pieces, List.map_map]
  exact List.map_congr_left fun c _ => Piece.segment_ofChar f c

/-- The pieces of segments ask for the names that the segments ask for. -/
theorem names_pieces (f : Forms) (segments : List Segment) :
    names ((segments.flatMap (pieces f)).map Piece.segment) = names segments := by
  induction segments with
  | nil => rfl
  | cons s segments ih =>
    rw [List.flatMap_cons, List.map_append, names_append, ih]
    cases s with
    | text t => rw [segments_pieces_text, names_chars, List.nil_append, names_text]
    | reference r => rfl

/-- The pieces of segments say what the segments say. -/
theorem fill_pieces (f : Forms) (segments : List Segment) (values : List (Option Text)) :
    fill ((segments.flatMap (pieces f)).map Piece.segment) values = fill segments values := by
  induction segments generalizing values with
  | nil => rfl
  | cons s segments ih =>
    rw [List.flatMap_cons, List.map_append]
    cases s with
    | text t => rw [segments_pieces_text, fill_chars, ih, fill]
    | reference r =>
      cases values with
      | nil => exact ih []
      | cons value values => exact congrArg (value.getD [] ++ ·) (ih values)

end Segment

/-! ## Nothing runs on into what follows -/

/-- A written reference begins with a sigil. -/
theorem Reference.exists_text_eq (r : Reference) : ∃ s : Sigil, ∃ t, r.text = s.char :: t := by
  cases r with
  | bare name => exact ⟨.dollar, name, rfl⟩
  | delimited form name =>
    cases form with
    | braced => exact ⟨.dollar, _, rfl⟩
    | percent => exact ⟨.percent, _, rfl⟩

/-- A template that begins with a character of a bare name begins with a text that does. -/
theorem firstChar?_of_head? {f : Forms} {segments : List Segment} {c : Char} (h : (template f segments).head? = some c)
    (hc : isBare c = true) : Segment.firstChar? segments = some c := by
  induction segments with
  | nil => cases h
  | cons s segments ih =>
    cases s with
    | text t =>
      cases t with
      | nil => exact ih h
      | cons d t =>
        have hd : (template f (.text (d :: t) :: segments)).head? = some d := by
          simp only [template, List.flatMap_cons, Segment.written, Forms.doubled]
          split <;> rfl
        exact hd.symm.trans h
    | reference r =>
      obtain ⟨s, t, ht⟩ := r.exists_text_eq
      have hd : (template f (.reference r :: segments)).head? = some s.char := by
        rw [template, List.flatMap_cons, Segment.written, ht]
        rfl
      obtain rfl := Option.some.inj (hd.symm.trans h)
      cases s <;> cases hc

theorem text_pieces_template (f : Forms) (segments : List Segment) :
    (segments.flatMap (Segment.pieces f)).flatMap Piece.text = template f segments := by
  rw [List.flatMap_assoc, template]
  simp only [Segment.text_pieces]

/-- The pieces of a text are grammatical in front of pieces that are. -/
theorem Grammatical.chars {f : Forms} {ps : List Piece} (h : Grammatical f ps) (t : Text) :
    Grammatical f (t.map (Piece.ofChar f) ++ ps) := by
  induction t with
  | nil => exact h
  | cons c t ih => exact .cons (Piece.fits_ofChar f c _) ih

/-- The pieces of segments that are writable and separated are grammatical. -/
theorem grammatical_pieces_template {f : Forms} {segments : List Segment} (hw : ∀ s ∈ segments, s.Writable f)
    (hs : Segment.Separated segments) : Grammatical f (segments.flatMap (Segment.pieces f)) := by
  induction segments with
  | nil => exact .nil
  | cons s segments ih =>
    obtain ⟨hfirst, hrest⟩ := List.forall_mem_cons.mp hw
    rw [List.flatMap_cons]
    cases s with
    | text t => exact (ih hrest hs).chars t
    | reference r =>
      rw [Segment.pieces, List.singleton_append]
      cases r with
      | bare name =>
        obtain ⟨hf, hne, hname⟩ := hfirst
        obtain ⟨hnext, hs⟩ := hs
        refine .cons (.bare hf hne hname ?_) (ih hrest hs)
        -- a bare character behind the name would be the first of a text
        intro c hc
        rw [text_pieces_template] at hc
        cases hbare : isBare c with
        | false => rfl
        | true => exact hbare.symm.trans (hnext c (firstChar?_of_head? hc hbare))
      | delimited form name =>
        obtain ⟨hf, hne, hname⟩ := hfirst
        exact .cons (.delimited hf hne hname) (ih hrest hs)

/-- Substitution undoes the building of templates: under all options, and for a resolver that never fails, what comes of a
template is the segments that it was built from, filled with the values of their names; the names are asked for in order, and
as many doubled sigils are counted as were doubled. -/
theorem substitute_template (o : Options) (segments : List Segment) (hw : ∀ s ∈ segments, s.Writable o.toForms)
    (hs : Segment.Separated segments) (r : Resolver σ ε) (hr : r.NeverFails) (st : σ) :
    ∃ values st', r.Answers st (Segment.names segments) values st' ∧
      (substitute o r st (template o.toForms segments)).result = .ok (Segment.fill segments values) ∧
      (substitute o r st (template o.toForms segments)).calls = Segment.names segments ∧
      (substitute o r st (template o.toForms segments)).state = st' ∧
      (substitute o r st (template o.toForms segments)).tally.escape = doublings o.toForms segments := by
  have hpieces : pieces o.toForms (template o.toForms segments) = segments.flatMap (Segment.pieces o.toForms) :=
    pieces_eq_iff.mpr ⟨grammatical_pieces_template hw hs, text_pieces_template _ _⟩
  have haccept : ∀ p ∈ segments.flatMap (Segment.pieces o.toForms), o.accepts p = true := by
    intro p hp
    obtain ⟨s, -, hps⟩ := List.mem_flatMap.mp hp
    exact o.accepts_of_not_malformed (Segment.not_malformed_of_mem_pieces hps)
  have hescape : (segments.flatMap (Segment.pieces o.toForms)).countP Piece.isEscape =
      doublings o.toForms segments := by
    rw [doublings, List.countP_flatMap, List.countP_flatMap]
    exact congrArg List.sum (List.map_congr_left fun s _ => Segment.countP_isEscape_pieces o.toForms s)
  obtain ⟨values, st', h⟩ := hr.answers st (Segment.names segments)
  have hrun := expand_of_answers 0 haccept (Segment.names_pieces o.toForms segments ▸ h)
  refine ⟨values, st', h, ?_, ?_, ?_, ?_⟩
  · simp only [substitute, hpieces, hrun, Run.completed, Segment.fill_pieces]
  · simp only [substitute, hpieces, hrun, Run.completed, Segment.names_pieces]
  · simp only [substitute, hpieces, hrun, Run.completed]
  · simp only [substitute, hpieces, hrun, Run.completed, Tally.add_eq, Nat.zero_add, hescape]

/-- The template `$$${A}{$B%C$%%%x`, in which a sigil stands before a brace, a bare name before a percent sign and a sigil in a
name: seven segments, one of them empty, and two characters doubled. -/
theorem substitute_template_adjacent :
    let segments : List Segment :=
      [.text ['$'], .reference (.delimited .braced ['A']), .text ['{'], .reference (.bare ['B']), .text [],
        .reference (.delimited .percent ['C', '$']), .text ['%', 'x']]
    template {} segments =
        ['$', '$', '$', '{', 'A', '}', '{', '$', 'B', '%', 'C', '$', '%', '%', '%', 'x'] ∧
      (substitute {} (.ofRule .odd) 0 (template {} segments)).result = .ok ['$', 'A', '{', 'C', '$', '%', 'x'] ∧
      (substitute {} (.ofRule .odd) 0 (template {} segments)).tally.escape = 2 := by
  intro segments
  have hw : ∀ s ∈ segments, s.Writable {} := by
    simp only [segments, List.forall_mem_cons]
    exact ⟨trivial, ⟨rfl, nofun, List.all_eq_true.mp rfl⟩, trivial, ⟨rfl, nofun, List.all_eq_true.mp rfl⟩, trivial,
      ⟨rfl, nofun, List.all_eq_true.mp rfl⟩, trivial, nofun⟩
  have hs : Segment.Separated segments := ⟨nofun, trivial⟩
  have hanswers : (Resolver.ofRule .odd).Answers 0 (Segment.names segments) [some ['A'], none, some ['C', '$']] 3 :=
    .cons rfl (.cons rfl (.cons rfl (.nil 3)))
  obtain ⟨values, st', h, hresult, -, -, hescape⟩ :=
    substitute_template {} segments hw hs (.ofRule .odd) (Resolver.neverFails_of_empty _) 0
  obtain ⟨rfl, -⟩ := h.unique hanswers
  exact ⟨rfl, hresult, hescape⟩

end Template
