import Template.Proofs.Stages

/-!
# A switch matters only through its sigil

Two choices of forms that agree on the sigils in a template cut it into the same pieces (`pieces_congr`), so substitution under
them is one and the same run (`substitute_congr_forms`). In particular, where no sigil of a form recognised stands in a template,
substitution gives the template back (`substitute_plain`).
-/

namespace Template

variable {σ ε : Type}

/-! ## The cut of a template -/

/-- What opens a delimited reference begins with the sigil of its form. -/
theorem Delimited.sigil_mem_opener (form : Delimited) : form.sigil.char ∈ form.opener := by
  cases form <;> exact List.mem_cons_self

/-- Two choices of forms agree on the sigils that stand in a text. -/
def Forms.AgreeOn (f g : Forms) (t : Text) : Prop := ∀ s : Sigil, s.char ∈ t → f.enables s = g.enables s

variable {f g : Forms} {input : Text}

/-- A piece that fits under some forms fits under others that agree on the sigils in it. -/
theorem Piece.Fits.of_agreeOn {p : Piece} {rest : Text} (h : p.Fits f rest) (hagree : f.AgreeOn g p.text) : p.Fits g rest := by
  have hsigil (s : Sigil) (hs : s.char ∈ p.text) (hf : f.enables s = true) : g.enables s = true := hagree s hs ▸ hf
  cases h with
  | @escape s _ hf => exact .escape (hsigil s List.mem_cons_self hf)
  | bare hf hne hname hrest => exact .bare (hsigil .dollar List.mem_cons_self hf) hne hname hrest
  | @delimited form name _ hf hne hname =>
    have hmem := List.mem_append_left [form.closer] (List.mem_append_left name form.sigil_mem_opener)
    exact .delimited (hsigil form.sigil hmem hf) hne hname
  | noName hf => exact .noName (hsigil .dollar List.mem_cons_self hf)
  | @badCharacter form name _ c hf hname hc hcloser =>
    have hmem := List.mem_append_left [c] (List.mem_append_left name form.sigil_mem_opener)
    exact .badCharacter (hsigil form.sigil hmem hf) hname hc hcloser
  | @unterminated form _ hf hname =>
    exact .unterminated (hsigil form.sigil (List.mem_append_left _ form.sigil_mem_opener) hf) hname
  | loneDollar hf hdollar hbrace hbare => exact .loneDollar (hsigil .dollar List.mem_cons_self hf) hdollar hbrace hbare
  | finalDollar hf => exact .finalDollar (hsigil .dollar List.mem_cons_self hf)
  | @plain c _ hc =>
    refine .plain (Option.eq_none_iff_forall_ne_some.mpr fun s hs => ?_)
    -- a sigil that only the other forms recognise would be one on which the two do not agree
    obtain ⟨hg, rfl⟩ := Forms.sigil?_eq_some_iff.mp hs
    rw [Forms.sigil?_eq_some_iff.mpr ⟨(hagree s List.mem_cons_self).trans hg, rfl⟩] at hc
    cases hc

theorem Grammatical.of_agreeOn {ps : List Piece} (h : Grammatical f ps) (hagree : f.AgreeOn g (ps.flatMap Piece.text)) :
    Grammatical g ps := by
  induction h with
  | nil => exact .nil
  | cons hp _ ih =>
    rw [List.flatMap_cons] at hagree
    exact .cons (hp.of_agreeOn fun s hs => hagree s (List.mem_append_left _ hs))
      (ih fun s hs => hagree s (List.mem_append_right _ hs))

/-- Forms that agree on the sigils in a template cut it into the same pieces. -/
theorem pieces_congr (hagree : f.AgreeOn g input) : pieces f input = pieces g input := by
  refine (pieces_eq_iff.mpr ⟨(grammatical_pieces f input).of_agreeOn ?_, text_pieces f input⟩).symm
  rwa [text_pieces]

/-- Where no sigil of a form recognised stands in a template, every character is a piece. -/
theorem pieces_of_no_sigil (h : ∀ s : Sigil, f.enables s = true → s.char ∉ input) : pieces f input = input.map .plain := by
  have hplain : ∀ c ∈ input, f.sigil? c = none := by
    intro c hc
    refine Option.eq_none_iff_forall_ne_some.mpr fun s hs => ?_
    obtain ⟨hf, rfl⟩ := Forms.sigil?_eq_some_iff.mp hs
    exact h s hf hc
  have hgrammatical := Grammatical.plains .nil hplain
  rw [List.append_nil] at hgrammatical
  exact pieces_eq_iff.mpr ⟨hgrammatical, Piece.text_plains input⟩

/-! ## Substitution -/

variable {o o' : Options}

/-- Of the options, the run of a piece depends on the treatment of malformed references only. -/
theorem Piece.expand_of_strict (h : o.strict = o'.strict) (r : Resolver σ ε) (column : Nat) (st : σ) (p : Piece) :
    p.expand o r column st = p.expand o' r column st := by
  cases p with
  | malformed m => simp only [expand, h]
  | _ => rfl

theorem expand_of_strict (h : o.strict = o'.strict) (r : Resolver σ ε) (column : Nat) (st : σ) (ps : List Piece) :
    expand o r column st ps = expand o' r column st ps := by
  induction ps generalizing column st with
  | nil => rfl
  | cons p ps ih => simp only [expand_cons, Piece.expand_of_strict h, ih]

/-- Under options that agree on the sigils in a template, and on the treatment of malformed references, substitution is one and
the same run. -/
theorem substitute_congr_forms (hstrict : o.strict = o'.strict) (hagree : o.toForms.AgreeOn o'.toForms input)
    (r : Resolver σ ε) (st : σ) :
    substitute o r st input = substitute o' r st input := by
  simp only [substitute, pieces_congr hagree, expand_of_strict hstrict]

/-- Under such options, the variables of a template are the same. -/
theorem variableNames_congr_forms (hstrict : o.strict = o'.strict) (hagree : o.toForms.AgreeOn o'.toForms input) :
    survey o input = survey o' input ∧ variableNames o input = variableNames o' input := by
  have hsurvey : survey o input = survey o' input := substitute_congr_forms hstrict hagree _ _
  simp only [variableNames, hsurvey, and_self]

/-- Where no sigil of a form recognised stands in a template, substitution gives the template and does nothing else. -/
theorem substitute_plain (h : ∀ s : Sigil, o.enables s = true → s.char ∉ input) (r : Resolver σ ε) (st : σ) :
    substitute o r st input = { result := .ok input, state := st, tally := { substitute := 1 } } := by
  simp only [substitute, pieces_of_no_sigil h, expand_plains]
  rfl

/-- Such a template has no variables. -/
theorem variableNames_plain (h : ∀ s : Sigil, o.enables s = true → s.char ∉ input) : variableNames o input = .ok [] := by
  have hsurvey : survey o input = { result := .ok input, state := [], tally := { substitute := 1 } } := substitute_plain h _ _
  simp only [variableNames, hsurvey]

/-- Each switch matters only through its own sigil.
1. In a template without `$`, it makes no difference whether the forms opened by `$` are recognised: with every resolver it is one
   and the same run (the same result, state, names asked for, tally and notices), and so it is when variables are listed.
2. In a template without `%`, it makes no difference whether those opened by `%` are.
3. A template in which no sigil of a form recognised stands is given back, by a run that asks for nothing, counts nothing but
   itself and reports nothing; it has no variables.
4. With both switches off, this is so for every template. -/
theorem switches_by_sigil (input : Text) :
    ('$' ∉ input → ∀ percent strict : Bool,
      (∀ {σ ε : Type} (r : Resolver σ ε) (st : σ), substitute { percent, dollar := true, strict } r st input =
        substitute { percent, dollar := false, strict } r st input) ∧
      survey { percent, dollar := true, strict } input = survey { percent, dollar := false, strict } input ∧
      variableNames { percent, dollar := true, strict } input = variableNames { percent, dollar := false, strict } input) ∧
    ('%' ∉ input → ∀ dollar strict : Bool,
      (∀ {σ ε : Type} (r : Resolver σ ε) (st : σ), substitute { percent := true, dollar, strict } r st input =
        substitute { percent := false, dollar, strict } r st input) ∧
      survey { percent := true, dollar, strict } input = survey { percent := false, dollar, strict } input ∧
      variableNames { percent := true, dollar, strict } input = variableNames { percent := false, dollar, strict } input) ∧
    (∀ o : Options, (∀ s : Sigil, o.enables s = true → s.char ∉ input) →
      (∀ {σ ε : Type} (r : Resolver σ ε) (st : σ), substitute o r st input =
        { result := .ok input, state := st, calls := [], tally := { substitute := 1 }, notices := [] }) ∧
      variableNames o input = .ok []) ∧
    ∀ strict : Bool,
      (∀ {σ ε : Type} (r : Resolver σ ε) (st : σ), substitute { percent := false, dollar := false, strict } r st input =
        { result := .ok input, state := st, calls := [], tally := { substitute := 1 }, notices := [] }) ∧
      variableNames { percent := false, dollar := false, strict } input = .ok [] := by
  refine ⟨?_, ?_, ?_, ?_⟩
  · intro hdollar percent strict
    let on : Options := { percent, dollar := true, strict }
    let off : Options := { percent, dollar := false, strict }
    have hagree : on.toForms.AgreeOn off.toForms input := by
      intro s hs
      cases s with
      | dollar => exact absurd hs hdollar
      | percent => rfl
    have hstrict : on.strict = off.strict := rfl
    exact ⟨substitute_congr_forms hstrict hagree, variableNames_congr_forms hstrict hagree⟩
  · intro hpercent dollar strict
    let on : Options := { percent := true, dollar, strict }
    let off : Options := { percent := false, dollar, strict }
    have hagree : on.toForms.AgreeOn off.toForms input := by
      intro s hs
      cases s with
      | dollar => rfl
      | percent => exact absurd hs hpercent
    have hstrict : on.strict = off.strict := rfl
    exact ⟨substitute_congr_forms hstrict hagree, variableNames_congr_forms hstrict hagree⟩
  · intro o h
    exact ⟨fun r st => substitute_plain h r st, variableNames_plain h⟩
  · intro strict
    let off : Options := { percent := false, dollar := false, strict }
    have hplain : ∀ s : Sigil, off.enables s = true → s.char ∉ input := by
      intro s hs
      cases s <;> cases hs
    exact ⟨fun r st => substitute_plain hplain r st, variableNames_plain hplain⟩

/-- In `%A%%B=` the switch of `$` makes no difference, whether the malformed reference is a failure or not, and in `$A${}` that of
`%` makes none. With `$` switched off the second template stands as it is. -/
theorem switches_by_sigil_malformed :
    let input : Text := ['%', 'A', '%', '%', 'B', '=']
    let input' : Text := ['$', 'A', '$', '{', '}']
    '$' ∉ input ∧ '%' ∉ input' ∧
      (substitute {} .collect [] input).tally ≠ (substitute .lenient .collect [] input).tally ∧
      substitute {} .collect [] input = substitute { dollar := false } .collect [] input ∧
      substitute .lenient .collect [] input = substitute { dollar := false, strict := false } .collect [] input ∧
      variableNames {} input = variableNames { dollar := false } input ∧
      substitute {} .collect [] input' = substitute { percent := false } .collect [] input' ∧
      (substitute { dollar := false } .collect [] input').result = .ok input' := by
  intro input input'
  have hdollar : '$' ∉ input := by decide
  have hpercent : '%' ∉ input' := by decide
  have hplain : ∀ s : Sigil, Forms.enables { dollar := false } s = true → s.char ∉ input' := by
    intro s hs
    cases s with
    | dollar => cases hs
    | percent => exact hpercent
  obtain ⟨hswitch, -⟩ := switches_by_sigil input
  obtain ⟨-, hswitch', hback, -⟩ := switches_by_sigil input'
  obtain ⟨hstrict, -, hnames⟩ := hswitch hdollar true true
  obtain ⟨hlenient, -⟩ := hswitch hdollar true false
  obtain ⟨hstrict', -⟩ := hswitch' hpercent true true
  obtain ⟨hsame, -⟩ := hback { dollar := false } hplain
  refine ⟨hdollar, hpercent, by decide +kernel, hstrict _ _, hlenient _ _, hnames, hstrict' _ _, ?_⟩
  rw [hsame]

end Template
