import Template.Proofs.Grammar

/-!
# Cutting and joining templates

A piece that fits before one text fits before most others (`Piece.Fits.before`), and it depends on the first character of the
text alone (`Piece.Fits.of_head?`). So two grammatical lists are
grammatical together exactly when the last piece of the first fits before the text of the second (`grammatical_append_iff`).
For templates this means: where the last piece of one fits before another, the pieces of the two are those of the one and of
the other (`pieces_append`), and behind the pieces of a first part, one piece can be put for another that begins alike
(`pieces_replace`).
-/

namespace Template

variable {f : Forms}

/-- Whether a piece stands only at the end of a template: a reference that is not closed, and a dollar sign with nothing behind
it. -/
def Piece.isFinal : Piece → Bool
  | malformed (.unterminated _ _) => true
  | loneDollar none => true
  | _ => false

theorem Piece.isFinal_iff {p : Piece} :
    p.isFinal = true ↔ (∃ form name, p = .malformed (.unterminated form name)) ∨ p = .loneDollar none := by
  cases p with
  | loneDollar next => cases next <;> simp [isFinal]
  | malformed m => cases m <;> simp [isFinal]
  | _ => simp [isFinal]

/-- A piece that stands only at the end has nothing behind it. -/
theorem Piece.Fits.rest_eq_nil {p : Piece} {rest : Text} (h : p.Fits f rest) (hp : p.isFinal = true) : rest = [] := by
  cases h with
  | unterminated _ _ => rfl
  | finalDollar _ => rfl
  | _ => cases hp

/-- A bare name has no character of its kind behind it. -/
theorem Piece.Fits.separated {name rest : Text} (h : (reference (.bare name)).Fits f rest) :
    ∀ c, rest.head? = some c → isBare c = false := by
  cases h with
  | bare _ _ _ hrest => exact hrest

/-- A piece that fits before one text fits before every other, but for those that stand only at the end, and for a bare name,
which does not fit before a character of its kind. -/
theorem Piece.Fits.before {p : Piece} {rest rest' : Text} (h : p.Fits f rest) (hfinal : p.isFinal = true → rest' = [])
    (hseparated : ∀ name, p = .reference (.bare name) → ∀ c, rest'.head? = some c → isBare c = false) : p.Fits f rest' := by
  cases h with
  | escape hf => exact .escape hf
  | bare hf hne hname _ => exact .bare hf hne hname (hseparated _ rfl)
  | delimited hf hne hname => exact .delimited hf hne hname
  | noName hf => exact .noName hf
  | badCharacter hf hname hc hcloser => exact .badCharacter hf hname hc hcloser
  | unterminated hf hname =>
    obtain rfl := hfinal rfl
    exact .unterminated hf hname
  | loneDollar hf hdollar hbrace hbare => exact .loneDollar hf hdollar hbrace hbare
  | finalDollar hf =>
    obtain rfl := hfinal rfl
    exact .finalDollar hf
  | plain hplain => exact .plain hplain

/-- What may stand behind a piece is settled by its first character. -/
theorem Piece.Fits.of_head? {p : Piece} {rest rest' : Text} (h : p.Fits f rest) (hhead : rest'.head? = rest.head?) :
    p.Fits f rest' := by
  refine h.before ?_ ?_
  · intro hp
    rw [h.rest_eq_nil hp] at hhead
    exact List.head?_eq_none_iff.mp hhead
  · rintro name rfl
    rw [hhead]
    exact h.separated

/-- What fits before some text fits at the end. -/
theorem Piece.Fits.at_end {p : Piece} {rest : Text} (h : p.Fits f rest) : p.Fits f [] :=
  h.before (fun _ => rfl) fun _ _ => nofun

/-- A text that begins with a piece begins as that piece does. -/
theorem Piece.head?_text_append (p : Piece) (rest : Text) : (p.text ++ rest).head? = p.text.head? := by
  cases h : p.text with
  | nil => exact absurd h p.text_ne_nil
  | cons c s => rfl

theorem grammatical_cons_iff {p : Piece} {ps : List Piece} :
    Grammatical f (p :: ps) ↔ p.Fits f (ps.flatMap Piece.text) ∧ Grammatical f ps := by
  constructor
  · intro h
    cases h with
    | cons hp hps => exact ⟨hp, hps⟩
  · rintro ⟨hp, hps⟩
    exact .cons hp hps

/-- Two lists are grammatical together when both are and the last piece of the first fits before the text of the second. -/
theorem grammatical_append_iff {ps qs : List Piece} :
    Grammatical f (ps ++ qs) ↔
      Grammatical f ps ∧ Grammatical f qs ∧ ∀ p, ps.getLast? = some p → p.Fits f (qs.flatMap Piece.text) := by
  induction ps with
  | nil => simp [Grammatical.nil]
  | cons p ps ih =>
    rw [List.cons_append, grammatical_cons_iff, grammatical_cons_iff, ih, List.flatMap_append]
    cases ps with
    | nil =>
      simp only [List.flatMap_nil, List.nil_append, List.getLast?_nil, List.getLast?_singleton, Option.some.injEq]
      exact ⟨fun ⟨hp, _, hqs, _⟩ => ⟨⟨hp.at_end, .nil⟩, hqs, by rintro _ rfl; exact hp⟩,
        fun ⟨_, hqs, hp⟩ => ⟨hp p rfl, .nil, hqs, nofun⟩⟩
    | cons q ps =>
      -- `p` does not see what is behind `q`
      have hhead : ((q :: ps).flatMap Piece.text ++ qs.flatMap Piece.text).head? = ((q :: ps).flatMap Piece.text).head? := by
        rw [List.flatMap_cons, List.append_assoc, q.head?_text_append, q.head?_text_append]
      have hp : p.Fits f ((q :: ps).flatMap Piece.text ++ qs.flatMap Piece.text) ↔ p.Fits f ((q :: ps).flatMap Piece.text) :=
        ⟨fun h => h.of_head? hhead.symm, fun h => h.of_head? hhead⟩
      rw [hp, List.getLast?_cons_cons, and_assoc]

/-! ## The pieces of templates put together -/

/-- The text of the first pieces of a template has these pieces. -/
theorem pieces_of_append {input : Text} {ps qs : List Piece} (h : pieces f input = ps ++ qs) :
    pieces f (ps.flatMap Piece.text) = ps :=
  pieces_of_grammatical (grammatical_append_iff.mp (h ▸ grammatical_pieces f input)).1

/-- The text of the last pieces of a template has these pieces. -/
theorem pieces_of_append_right {input : Text} {ps qs : List Piece} (h : pieces f input = ps ++ qs) :
    pieces f (qs.flatMap Piece.text) = qs :=
  pieces_of_grammatical (grammatical_append_iff.mp (h ▸ grammatical_pieces f input)).2.1

/-- Where the last piece of a text fits before another text, the pieces of the two are those of the one and of the other. -/
theorem pieces_append {a b : Text} (hlast : ∀ p, (pieces f a).getLast? = some p → p.Fits f b) :
    pieces f (a ++ b) = pieces f a ++ pieces f b := by
  refine pieces_eq_iff.mpr ⟨?_, ?_⟩
  · refine grammatical_append_iff.mpr ⟨grammatical_pieces f a, grammatical_pieces f b, ?_⟩
    rw [text_pieces]
    exact hlast
  · rw [List.flatMap_append, text_pieces, text_pieces]

/-- Behind the first pieces of a template, one piece can be put for another that begins alike, and any text that it fits
before. -/
theorem pieces_replace {input rest : Text} {before after : List Piece} {p q : Piece}
    (h : pieces f input = before ++ q :: after) (hp : p.Fits f rest) (hhead : p.text.head? = q.text.head?) :
    pieces f (before.flatMap Piece.text ++ (p.text ++ rest)) = before ++ p :: pieces f rest := by
  have hbefore := pieces_of_append h
  obtain ⟨-, -, hlast⟩ := grammatical_append_iff.mp (h ▸ grammatical_pieces f input)
  rw [pieces_append, hbefore, pieces_text_append hp]
  intro p' hp'
  refine (hlast p' (hbefore ▸ hp')).of_head? ?_
  rw [List.flatMap_cons, p.head?_text_append, q.head?_text_append, hhead]

end Template
