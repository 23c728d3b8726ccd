import Mathlib.Logic.ExistsUnique
import Template.Proofs.Expansion
import Template.Resolver.Rule

/-!
# The grammar of templates

`Piece.Fits` says which pieces there are under the forms recognised, and what text may stand behind each; it reads nothing.
A list of pieces is `Grammatical` when each of them fits before the text of those behind it. The pieces that a template is cut
into are grammatical (`grammatical_pieces`), and they are the only grammatical list with that text (`pieces_of_grammatical`):
the grammar is unambiguous, and `Piece.read` recognises it. `Error.Rejects` says which error belongs to a malformed reference, and
`substitute_by_grammar` what substitution does.
-/

namespace Template

/-- A piece under the forms recognised, before the text that stands behind it. -/
inductive Piece.Fits (f : Forms) : Piece → Text → Prop where
  /-- A sigil written twice. -/
  | escape {s : Sigil} {rest : Text} : f.enables s = true → Fits f (.escape s) rest
  /-- A bare name runs to the end or to a character that is none of its own. -/
  | bare {name rest : Text} : f.dollar = true → name ≠ [] → (∀ c ∈ name, isBare c = true) →
      (∀ c, rest.head? = some c → isBare c = false) → Fits f (.reference (.bare name)) rest
  /-- A delimited reference has a name. -/
  | delimited {form : Delimited} {name rest : Text} : f.enables form.sigil = true → name ≠ [] →
      (∀ c ∈ name, form.isSafe c = true) → Fits f (.reference (.delimited form name)) rest
  /-- Braces without a name. -/
  | noName {rest : Text} : f.dollar = true → Fits f (.malformed .noName) rest
  /-- A name, perhaps empty, and a character that neither belongs to it nor closes it. -/
  | badCharacter {form : Delimited} {name rest : Text} {c : Char} : f.enables form.sigil = true →
      (∀ d ∈ name, form.isSafe d = true) → form.isSafe c = false → c ≠ form.closer →
        Fits f (.malformed (.badCharacter form name c)) rest
  /-- A name, perhaps empty, that runs to the end. -/
  | unterminated {form : Delimited} {name : Text} : f.enables form.sigil = true →
      (∀ c ∈ name, form.isSafe c = true) → Fits f (.malformed (.unterminated form name)) []
  /-- A dollar sign and a character that makes nothing of it. -/
  | loneDollar {c : Char} {rest : Text} : f.dollar = true → c ≠ '$' → c ≠ '{' → isBare c = false →
      Fits f (.loneDollar (some c)) rest
  /-- A dollar sign at the end. -/
  | finalDollar : f.dollar = true → Fits f (.loneDollar none) []
  /-- A character that is no sigil of a form recognised. -/
  | plain {c : Char} {rest : Text} : f.sigil? c = none → Fits f (.plain c) rest

/-- Each piece fits before the text of the pieces behind it. -/
inductive Grammatical (f : Forms) : List Piece → Prop where
  | nil : Grammatical f []
  | cons {p : Piece} {ps : List Piece} : p.Fits f (ps.flatMap Piece.text) → Grammatical f ps → Grammatical f (p :: ps)

/-! ## Sigils -/

/-- A character is a sigil of a form recognised when it is the character of a sigil whose forms are recognised. -/
theorem Forms.sigil?_eq_some_iff {f : Forms} {c : Char} {s : Sigil} :
    f.sigil? c = some s ↔ f.enables s = true ∧ c = s.char := by
  unfold Forms.sigil?
  cases s with
  | dollar => split <;> simp_all [Forms.enables, Sigil.char]
  | percent =>
    split
    · next h => simp [h.2, Sigil.char]
    · split <;> simp_all [Forms.enables, Sigil.char]

namespace Piece

theorem read_of_dollar {f : Forms} (h : f.dollar = true) (s : Text) : read f '$' s = readDollar s := by
  have hs : f.sigil? '$' = some .dollar := Forms.sigil?_eq_some_iff.mpr ⟨h, rfl⟩
  simp only [read, hs]

theorem read_of_percent {f : Forms} (h : f.percent = true) (s : Text) : read f '%' s = readPercent s := by
  have hs : f.sigil? '%' = some .percent := Forms.sigil?_eq_some_iff.mpr ⟨h, rfl⟩
  simp only [read, hs]

theorem read_of_plain {f : Forms} {c : Char} (h : f.sigil? c = none) (s : Text) : read f c s = (plain c, s) := by
  simp only [read, h]

end Piece

/-! ## Every piece that is read fits -/

/-- The name of a delimited reference runs to a character that is none of its own. -/
theorem Delimited.isSafe_of_dropWhile {form : Delimited} {s rest : Text} {c : Char}
    (h : s.dropWhile form.isSafe = c :: rest) : form.isSafe c = false := by
  have := List.head?_dropWhile_not form.isSafe s
  rw [h] at this
  simpa using this

/-- What is read behind an opener fits, unless the closing delimiter follows at once. -/
theorem Delimited.fits_read {f : Forms} {form : Delimited} {s : Text} (hf : f.enables form.sigil = true)
    (hs : ∀ rest, s ≠ form.closer :: rest) : (form.read s).1.Fits f (form.read s).2 := by
  have hname : ∀ c ∈ s.takeWhile form.isSafe, form.isSafe c = true := by
    intro c hc
    exact List.all_eq_true.mp List.all_takeWhile c hc
  unfold Delimited.read
  split
  · exact .unterminated hf hname
  · next c rest h =>
    split
    · next hc =>
      refine .delimited hf ?_ hname
      -- without a name, the text would begin with the closing delimiter
      intro hnil
      apply hs rest
      rw [← List.takeWhile_append_dropWhile (p := form.isSafe) (l := s), hnil, h, hc, List.nil_append]
    · next hc => exact .badCharacter hf hname (Delimited.isSafe_of_dropWhile h) hc

namespace Piece

theorem fits_readDollar {f : Forms} (hf : f.dollar = true) (s : Text) : (readDollar s).1.Fits f (readDollar s).2 := by
  unfold readDollar
  split
  · exact .finalDollar hf
  · next c s =>
    split
    · exact .escape hf
    · next hdollar =>
      split
      · split
        · exact .noName hf
        · next hs => exact Delimited.fits_read hf hs
      · next hbrace =>
        split
        · next hbare =>
          refine .bare hf (by simp) ?_ ?_
          · intro d hd
            rcases List.mem_cons.mp hd with rfl | hd
            · exact hbare
            · exact List.all_eq_true.mp List.all_takeWhile d hd
          · intro d hd
            have := List.head?_dropWhile_not isBare s
            rw [hd] at this
            simpa using this
        · next hbare => exact .loneDollar hf hdollar hbrace (by simpa using hbare)

theorem fits_readPercent {f : Forms} (hf : f.percent = true) (s : Text) :
    (readPercent s).1.Fits f (readPercent s).2 := by
  unfold readPercent
  split
  · exact .escape hf
  · next hs => exact Delimited.fits_read hf hs

/-- Every piece that is read fits before what is left. -/
theorem fits_read (f : Forms) (c : Char) (s : Text) : (read f c s).1.Fits f (read f c s).2 := by
  cases h : f.sigil? c with
  | none =>
    rw [read_of_plain h]
    exact .plain h
  | some sigil =>
    obtain ⟨hf, rfl⟩ := Forms.sigil?_eq_some_iff.mp h
    cases sigil with
    | dollar =>
      rw [Sigil.char, read_of_dollar hf]
      exact fits_readDollar hf s
    | percent =>
      rw [Sigil.char, read_of_percent hf]
      exact fits_readPercent hf s

end Piece

/-- The pieces that a template is cut into are grammatical. -/
theorem grammatical_pieces (f : Forms) (input : Text) : Grammatical f (pieces f input) := by
  induction h : input.length using Nat.strongRecOn generalizing input with
  | ind n ih =>
    cases input with
    | nil =>
      rw [pieces_nil]
      exact .nil
    | cons c s =>
      rw [pieces_cons]
      refine .cons ?_ (ih _ (h ▸ Piece.length_read_lt f c s) _ rfl)
      rw [text_pieces]
      exact Piece.fits_read f c s

/-! ## Every piece that fits is read -/

namespace Delimited

variable {form : Delimited} {name rest : Text}

theorem read_closed (h : ∀ c ∈ name, form.isSafe c = true) :
    form.read (name ++ form.closer :: rest) = (.reference (.delimited form name), rest) := by
  unfold read
  rw [List.takeWhile_append_of_pos h, List.dropWhile_append_of_pos h]
  simp

theorem read_badCharacter {c : Char} (h : ∀ d ∈ name, form.isSafe d = true) (hc : form.isSafe c = false)
    (hcloser : c ≠ form.closer) :
    form.read (name ++ c :: rest) = (.malformed (.badCharacter form name c), rest) := by
  unfold read
  rw [List.takeWhile_append_of_pos h, List.dropWhile_append_of_pos h]
  simp [hc, hcloser]

theorem read_unterminated (h : ∀ c ∈ name, form.isSafe c = true) :
    form.read name = (.malformed (.unterminated form name), []) := by
  unfold read
  rw [List.takeWhile_eq_self_iff.mpr h, List.dropWhile_eq_nil_iff.mpr h]

/-- A text does not begin with the closing delimiter if a name stands in front, or else if what follows does not. -/
theorem not_closer_first {t : Text} (h : ∀ c ∈ name, form.isSafe c = true)
    (ht : name = [] → ∀ rest, t ≠ form.closer :: rest) : ∀ rest, name ++ t ≠ form.closer :: rest := by
  cases name with
  | nil => exact ht rfl
  | cons c name =>
    intro rest heq
    have hc : form.isSafe c = true := h c List.mem_cons_self
    rw [List.cons_append, List.cons.injEq] at heq
    rw [heq.1, isSafe_closer] at hc
    cases hc

end Delimited

namespace Piece

/-- Behind an opener, a delimited reference is read, unless the closing delimiter follows at once. -/
theorem read_of_opener {f : Forms} {form : Delimited} {c : Char} {s t : Text} (hf : f.enables form.sigil = true)
    (ht : ∀ rest, t ≠ form.closer :: rest) (hc : form.opener ++ t = c :: s) : read f c s = form.read t := by
  cases form with
  | braced =>
    obtain ⟨rfl, rfl⟩ : '$' = c ∧ '{' :: t = s := List.cons.inj hc
    rw [read_of_dollar hf]
    unfold readDollar
    simp only [Char.reduceEq, if_false, if_true]
    split
    · next rest => exact absurd rfl (ht rest)
    · rfl
  | percent =>
    obtain ⟨rfl, rfl⟩ : '%' = c ∧ t = s := List.cons.inj hc
    rw [read_of_percent hf]
    unfold readPercent
    split
    · next rest => exact absurd rfl (ht rest)
    · rfl

theorem read_of_bare {f : Forms} {name rest : Text} (hf : f.dollar = true) (hne : name ≠ [])
    (hname : ∀ c ∈ name, isBare c = true) (hrest : ∀ c, rest.head? = some c → isBare c = false) :
    read f '$' (name ++ rest) = (reference (.bare name), rest) := by
  cases name with
  | nil => exact absurd rfl hne
  | cons d name =>
    obtain ⟨hd, hname⟩ := List.forall_mem_cons.mp hname
    have hdollar : d ≠ '$' := by
      rintro rfl
      exact absurd hd (by decide)
    have hbrace : d ≠ '{' := by
      rintro rfl
      exact absurd hd (by decide)
    rw [read_of_dollar hf, List.cons_append]
    unfold readDollar
    simp only [if_neg hdollar, if_neg hbrace, if_pos hd, List.takeWhile_append_of_pos hname,
      List.dropWhile_append_of_pos hname]
    cases rest with
    | nil => simp
    | cons c rest => simp [hrest c rfl]

/-- A piece that fits before a text is what is read of the two. -/
theorem read_of_fits {f : Forms} {p : Piece} {c : Char} {s rest : Text} (h : p.Fits f rest)
    (hc : p.text ++ rest = c :: s) : read f c s = (p, rest) := by
  cases h with
  | @escape sigil _ hf =>
    cases sigil with
    | dollar =>
      cases hc
      rw [Sigil.char, read_of_dollar hf]
      rfl
    | percent =>
      cases hc
      rw [Sigil.char, read_of_percent hf]
      rfl
  | bare hf hne hname hrest =>
    cases hc
    exact read_of_bare hf hne hname hrest
  | @delimited form name _ hf hne hname =>
    have hfirst := Delimited.not_closer_first (t := form.closer :: rest) hname fun h => absurd h hne
    simp only [text, Reference.text, List.append_assoc, List.singleton_append] at hc
    rw [read_of_opener hf hfirst hc, Delimited.read_closed hname]
  | noName hf =>
    cases hc
    rw [read_of_dollar hf]
    rfl
  | @badCharacter form name _ d hf hname hd hcloser =>
    have hfirst := Delimited.not_closer_first (t := d :: rest) hname fun _ _ h => hcloser (List.cons.inj h).1
    simp only [text, Malformed.text, List.append_assoc, List.singleton_append] at hc
    rw [read_of_opener hf hfirst hc, Delimited.read_badCharacter hname hd hcloser]
  | @unterminated form name hf hname =>
    have hfirst := Delimited.not_closer_first (t := []) hname fun _ _ h => by cases h
    rw [List.append_nil] at hfirst
    simp only [text, Malformed.text, List.append_nil] at hc
    rw [read_of_opener hf hfirst hc, Delimited.read_unterminated hname]
  | @loneDollar d _ hf hdollar hbrace hbare =>
    obtain ⟨rfl, rfl⟩ : '$' = c ∧ d :: rest = s := List.cons.inj hc
    rw [read_of_dollar hf]
    unfold readDollar
    simp only [if_neg hdollar, if_neg hbrace, hbare, Bool.false_eq_true, if_false]
  | finalDollar hf =>
    cases hc
    rw [read_of_dollar hf]
    rfl
  | plain hplain =>
    cases hc
    exact read_of_plain hplain _

end Piece

/-- A piece that fits before a text comes first in the pieces of the two. -/
theorem pieces_text_append {f : Forms} {p : Piece} {rest : Text} (hp : p.Fits f rest) :
    pieces f (p.text ++ rest) = p :: pieces f rest := by
  cases hc : p.text ++ rest with
  | nil => exact absurd (List.append_eq_nil_iff.mp hc).1 p.text_ne_nil
  | cons c s => rw [pieces_cons, Piece.read_of_fits hp hc]

/-- A grammatical list of pieces is what its text is cut into. -/
theorem pieces_of_grammatical {f : Forms} {ps : List Piece} (h : Grammatical f ps) :
    pieces f (ps.flatMap Piece.text) = ps := by
  induction h with
  | nil => exact pieces_nil f
  | cons hp _ ih => rw [List.flatMap_cons, pieces_text_append hp, ih]

/-- The pieces that a template is cut into are the only grammatical list with its text. -/
theorem pieces_eq_iff {f : Forms} {input : Text} {ps : List Piece} :
    pieces f input = ps ↔ Grammatical f ps ∧ ps.flatMap Piece.text = input := by
  constructor
  · rintro rfl
    exact ⟨grammatical_pieces f input, text_pieces f input⟩
  · rintro ⟨hps, rfl⟩
    exact pieces_of_grammatical hps

/-- Each piece of a grammatical list fits before the pieces behind it. -/
theorem Grammatical.fits {f : Forms} {before after : List Piece} {p : Piece} (h : Grammatical f (before ++ p :: after)) :
    p.Fits f (after.flatMap Piece.text) := by
  induction before with
  | nil =>
    cases h with
    | cons hp _ => exact hp
  | cons q before ih =>
    cases h with
    | cons _ hrest => exact ih hrest

/-- Each piece of a template fits before the pieces behind it. -/
theorem fits_of_pieces {f : Forms} {input : Text} {before after : List Piece} {p : Piece}
    (h : pieces f input = before ++ p :: after) : p.Fits f (after.flatMap Piece.text) :=
  (h ▸ grammatical_pieces f input).fits

/-- A template is the text of the pieces before a malformed reference, that reference and the rest. -/
theorem text_of_malformed {f : Forms} {input : Text} {before after : List Piece} {m : Malformed}
    (h : pieces f input = before ++ .malformed m :: after) :
    input = before.flatMap Piece.text ++ (m.text ++ after.flatMap Piece.text) := by
  have := text_pieces f input
  rw [h, List.flatMap_append, List.flatMap_cons] at this
  exact this.symm

/-! ## Errors in terms of the grammar -/

/-- What an error says of the part of a template that it rejects, when that part starts at a column. It is
empty braces, with the column of the opening brace;
an opener and a name, as far as its characters are allowed, and a character that neither is allowed nor closes it, with the
column of that character; or
an opener and a name. -/
def Error.Rejects (f : Forms) (start : Nat) (text : Text) : Error → Prop
  | noName column => f.dollar = true ∧ text = ['$', '{', '}'] ∧ column = start + 1
  | badCharacter name c column => ∃ form : Delimited, f.enables form.sigil = true ∧ text = form.opener ++ name ++ [c] ∧
      (∀ d ∈ name, form.isSafe d = true) ∧ form.isSafe c = false ∧ c ≠ form.closer ∧
      column = start + form.opener.length + name.length
  | unterminatedVariable name => ∃ form : Delimited, f.enables form.sigil = true ∧ text = form.opener ++ name ∧
      ∀ d ∈ name, form.isSafe d = true

/-- The error of a malformed reference rejects that reference, as it is written. -/
theorem Malformed.rejects_errorAt {f : Forms} {m : Malformed} {rest : Text} (start : Nat)
    (h : (Piece.malformed m).Fits f rest) : (m.errorAt start).Rejects f start m.text := by
  cases h with
  | noName hf => exact ⟨hf, rfl, rfl⟩
  | badCharacter hf hname hc hcloser => exact ⟨_, hf, rfl, hname, hc, hcloser, rfl⟩
  | unterminated hf hname => exact ⟨_, hf, rfl, hname⟩

/-! ## Substitution in terms of the grammar -/

/-- The grammar is unambiguous, and substitution follows it. Every template is the text of exactly one grammatical list of
pieces. For a resolver that never fails, substitution fills what the pieces say with the answers to their names, asked for in
order, unless a malformed reference is to be rejected; then the first one ends it, after the names before it, with the error
that rejects it as it is written. -/
theorem substitute_by_grammar (o : Options) (input : Text) :
    (∃! ps, Grammatical o.toForms ps ∧ ps.flatMap Piece.text = input) ∧
    ∀ ps, Grammatical o.toForms ps → ps.flatMap Piece.text = input →
      ∀ {σ ε : Type} (r : Resolver σ ε) (st : σ), r.NeverFails →
        (o.strict = false ∨ (∀ p ∈ ps, p.isMalformed = false) →
          ∃ values st', r.Answers st (Segment.names (ps.map Piece.segment)) values st' ∧
            (substitute o r st input).result = .ok (Segment.fill (ps.map Piece.segment) values) ∧
            (substitute o r st input).calls = Segment.names (ps.map Piece.segment) ∧
            (substitute o r st input).state = st') ∧
        ∀ before m after, o.strict = true → ps = before ++ .malformed m :: after →
          (∀ p ∈ before, p.isMalformed = false) →
            ∃ values st', r.Answers st (Segment.names (before.map Piece.segment)) values st' ∧
              (substitute o r st input).result =
                .error (.malformed (m.errorAt (before.flatMap Piece.text).length)) ∧
              (m.errorAt (before.flatMap Piece.text).length).Rejects o.toForms (before.flatMap Piece.text).length m.text ∧
              (substitute o r st input).calls = Segment.names (before.map Piece.segment) ∧
              (substitute o r st input).state = st' := by
  refine ⟨⟨pieces o.toForms input, pieces_eq_iff.mp rfl, fun ps h => (pieces_eq_iff.mpr h).symm⟩, ?_⟩
  intro ps hps htext σ ε r st hr
  have hpieces : pieces o.toForms input = ps := pieces_eq_iff.mpr ⟨hps, htext⟩
  refine ⟨?_, ?_⟩
  · intro hok
    have haccept : ∀ p ∈ ps, o.accepts p = true := by
      intro p hp
      rcases hok with hs | hwell
      · exact Options.accepts_of_lenient hs p
      · exact o.accepts_of_not_malformed (hwell p hp)
    obtain ⟨values, st', h⟩ := hr.answers st (Segment.names (ps.map Piece.segment))
    have hrun := expand_of_answers 0 haccept h
    refine ⟨values, st', h, ?_⟩
    simp only [substitute, hpieces, hrun, Run.completed, and_self]
  · intro before m after hs hsplit hwell
    have haccept : ∀ p ∈ before, o.accepts p = true := fun p hp => o.accepts_of_not_malformed (hwell p hp)
    obtain ⟨values, st', h⟩ := hr.answers st (Segment.names (before.map Piece.segment))
    have hrun := expand_of_malformed 0 m after hs haccept h
    have hrejects := m.rejects_errorAt (before.flatMap Piece.text).length (hsplit ▸ hps).fits
    refine ⟨values, st', h, ?_, hrejects, ?_⟩ <;>
      simp [substitute, hpieces, hsplit, hrun, Run.before, Run.completed, Run.reject, Except.map]

/-- The template `$$${A}-$B%C%${}$`, with values at every other question: the malformed braces are copied or rejected. -/
theorem substitute_by_grammar_mixed :
    let input : Text := ['$', '$', '$', '{', 'A', '}', '-', '$', 'B', '%', 'C', '%', '$', '{', '}', '$']
    (substitute .lenient (.ofRule .odd) 0 input).result = .ok ['$', 'A', '-', 'C', '$', '{', '}', '$'] ∧
      (substitute {} (.ofRule .odd) 0 input).result = .error (.malformed (.noName 13)) := by
  intro input
  let before : List Piece :=
    [.escape .dollar, .reference (.delimited .braced ['A']), .plain '-', .reference (.bare ['B']),
      .reference (.delimited .percent ['C'])]
  have hgrammar : Grammatical {} (before ++ [.malformed .noName, .loneDollar none]) :=
    .cons (.escape rfl) <| .cons (.delimited rfl nofun (List.all_eq_true.mp rfl)) <| .cons (.plain rfl) <|
      .cons (.bare rfl nofun (List.all_eq_true.mp rfl) (by rintro c ⟨⟩; rfl)) <|
      .cons (.delimited rfl nofun (List.all_eq_true.mp rfl)) <| .cons (.noName rfl) <| .cons (.finalDollar rfl) .nil
  have hfails : (Resolver.ofRule .odd).NeverFails := Resolver.neverFails_of_empty _
  have hanswers : (Resolver.ofRule .odd).Answers 0 [['A'], ['B'], ['C']] [some ['A'], none, some ['C']] 3 :=
    .cons rfl (.cons rfl (.cons rfl (.nil 3)))
  refine ⟨?_, ?_⟩
  · obtain ⟨values, st', h, hresult, -⟩ :=
      ((substitute_by_grammar .lenient input).2 _ hgrammar rfl (.ofRule .odd) 0 hfails).1 (Or.inl rfl)
    obtain ⟨rfl, -⟩ := h.unique hanswers
    exact hresult
  · obtain ⟨values, st', h, hresult, -⟩ :=
      ((substitute_by_grammar {} input).2 _ hgrammar rfl (.ofRule .odd) 0 hfails).2 before .noName [.loneDollar none]
        rfl rfl (by decide)
    exact hresult

end Template
