import Template.Proofs.Rejection

/-!
# Strict errors are met as early as can be, and they are final

An error at a character is met when that character is read: whatever stands behind it, the template is rejected alike
(`pieces_append_of_malformed`), and one character earlier the same reference was only unterminated, or not even begun
(`cut_at_badCharacter`, `cut_at_noName`). An unterminated reference is no such error: it takes only a name and the closing
delimiter to make it well-formed (`pieces_closed`). So the templates that are rejected at a character are exactly those that no
more text can repair (`strict_errors_final`).
-/

namespace Template

variable {σ ε : Type} {f : Forms} {r : Resolver σ ε} {input : Text} {before after : List Piece}

/-! ## More text behind a malformed reference -/

/-- A malformed reference that does not end a template is malformed before every text. -/
theorem Piece.Fits.before_any {m : Malformed} {column : Nat} {rest : Text} (h : (malformed m).Fits f rest)
    (hm : (m.errorAt column).isUnterminated = false) (t : Text) : (malformed m).Fits f t := by
  refine h.before ?_ nofun
  intro hfinal
  cases m with
  | unterminated form name => cases hm
  | _ => cases hfinal

/-- More text behind a template leaves its first malformed reference and the pieces before it as they are, unless the
reference is unterminated. -/
theorem pieces_append_of_malformed {m : Malformed} {column : Nat} (h : pieces f input = before ++ .malformed m :: after)
    (hm : (m.errorAt column).isUnterminated = false) (t : Text) :
    pieces f (input ++ t) = before ++ .malformed m :: pieces f (after.flatMap Piece.text ++ t) := by
  rw [text_of_malformed h, List.append_assoc, List.append_assoc]
  exact pieces_replace h ((fits_of_pieces h).before_any hm _) rfl

/-- An unterminated reference ends its template. -/
theorem text_of_unterminated {form : Delimited} {name : Text}
    (h : pieces f input = before ++ .malformed (.unterminated form name) :: after) :
    input = before.flatMap Piece.text ++ (form.opener ++ name) ∧ f.enables form.sigil = true ∧
      ∀ c ∈ name, form.isSafe c = true := by
  have hfits := fits_of_pieces h
  have htext := text_of_malformed h
  generalize after.flatMap Piece.text = rest at hfits htext
  cases hfits with
  | unterminated hf hname => exact ⟨by rw [htext, List.append_nil, Malformed.text], hf, hname⟩

/-- With the rest of a name and the closing delimiter behind it, an unterminated reference becomes a well-formed one. -/
theorem pieces_closed {form : Delimited} {name more : Text}
    (h : pieces f input = before ++ .malformed (.unterminated form name) :: after) (hne : name ++ more ≠ [])
    (hmore : ∀ c ∈ more, form.isSafe c = true) :
    pieces f (input ++ (more ++ [form.closer])) = before ++ [.reference (.delimited form (name ++ more))] := by
  obtain ⟨htext, hf, hname⟩ := text_of_unterminated h
  have hall : ∀ c ∈ name ++ more, form.isSafe c = true := List.forall_mem_append.mpr ⟨hname, hmore⟩
  have hfits : (Piece.reference (.delimited form (name ++ more))).Fits f [] := .delimited hf hne hall
  have hhead : (Piece.reference (.delimited form (name ++ more))).text.head? =
      (Piece.malformed (.unterminated form name)).text.head? := by
    simp only [Piece.text, Reference.text, Malformed.text, List.append_assoc, form.head?_opener_append]
  have hreplaced := pieces_replace h hfits hhead
  rw [pieces_nil, List.append_nil] at hreplaced
  rw [htext, ← hreplaced]
  simp only [Piece.text, Reference.text, List.append_assoc]

/-- A template with an unterminated reference is accepted when a name is completed and closed. -/
theorem accepted_closed (hr : r.NeverFails) (st : σ) {form : Delimited} {name more : Text}
    (h : pieces f input = before ++ .malformed (.unterminated form name) :: after)
    (hwell : ∀ p ∈ before, p.isMalformed = false) (hne : name ++ more ≠ [])
    (hmore : ∀ c ∈ more, form.isSafe c = true) :
    (substitute f.strictly r st (input ++ (more ++ [form.closer]))).Succeeds ∧
      (substitute f.strictly r st (input ++ (more ++ [form.closer]))).calls =
        (substitute f.strictly r st input).calls ++ [name ++ more] := by
  have hwell' : ∀ p ∈ before ++ [.reference (.delimited form (name ++ more))], p.isMalformed = false :=
    List.forall_mem_append.mpr ⟨hwell, List.forall_mem_singleton.mpr rfl⟩
  obtain ⟨hsucceeds, hcalls⟩ := accepted_of_wellFormed hr st (pieces_closed h hne hmore) hwell'
  refine ⟨hsucceeds, ?_⟩
  rw [hcalls, (rejected_of_malformed hr st h hwell).2, List.map_append, Segment.names_append]
  rfl

/-! ## Less of a template -/

/-- Without its bad character, a reference is unterminated; that character is enough to reject it. -/
theorem cut_at_badCharacter (hr : r.NeverFails) (st : σ) {form : Delimited} {name : Text} {c : Char} {column : Nat}
    (h : pieces f input = before ++ .malformed (.badCharacter form name c) :: after)
    (hwell : ∀ p ∈ before, p.isMalformed = false)
    (hcolumn : column = (before.flatMap Piece.text).length + form.opener.length + name.length) :
    (substitute f.strictly r st (input.take column)).result = .error (.malformed (.unterminatedVariable name)) ∧
      (substitute f.strictly r st (input.take (column + 1))).result =
        .error (.malformed (.badCharacter name c column)) := by
  have hfits := fits_of_pieces h
  obtain ⟨hf, hname⟩ : f.enables form.sigil = true ∧ ∀ d ∈ name, form.isSafe d = true := by
    cases hfits with
    | badCharacter hf hname _ _ => exact ⟨hf, hname⟩
  have htext := text_of_malformed h
  refine ⟨?_, ?_⟩
  · have hcut : input.take column = before.flatMap Piece.text ++ ((form.opener ++ name) ++ []) := by
      rw [htext, Malformed.text, List.append_nil, List.append_assoc, ← List.append_assoc]
      refine List.take_left' ?_
      rw [hcolumn, List.length_append, List.length_append, Nat.add_assoc]
    have hhead : (Piece.malformed (.unterminated form name)).text.head? =
        (Piece.malformed (.badCharacter form name c)).text.head? := by
      simp only [Piece.text, Malformed.text, List.append_assoc, form.head?_opener_append]
    rw [hcut]
    exact (rejected_of_malformed hr st (pieces_replace h (.unterminated hf hname) hhead) hwell).1
  · have hcut : input.take (column + 1) =
        before.flatMap Piece.text ++ ((Malformed.badCharacter form name c).text ++ []) := by
      rw [htext, List.append_nil, ← List.append_assoc]
      refine List.take_left' ?_
      simp only [hcolumn, Malformed.text, List.length_append, List.length_singleton, Nat.add_assoc]
    rw [hcut, hcolumn]
    exact (rejected_of_malformed hr st (pieces_replace h hfits.at_end rfl) hwell).1

/-- Without its braces, a reference without a name is a dollar sign of its own; with the opening one, it is unterminated; and with
the closing one, it is rejected. -/
theorem cut_at_noName (hr : r.NeverFails) (st : σ) {column : Nat}
    (h : pieces f input = before ++ .malformed .noName :: after) (hwell : ∀ p ∈ before, p.isMalformed = false)
    (hcolumn : column = (before.flatMap Piece.text).length + 1) :
    (substitute f.strictly r st (input.take column)).Succeeds ∧
      (substitute f.strictly r st (input.take (column + 1))).result = .error (.malformed (.unterminatedVariable [])) ∧
      (substitute f.strictly r st (input.take (column + 2))).result = .error (.malformed (.noName column)) := by
  have hfits := fits_of_pieces h
  have hf : f.dollar = true := by
    cases hfits with
    | noName hf => exact hf
  have hcut (k : Nat) (hk : k ≤ 3) : input.take ((before.flatMap Piece.text).length + k) =
      before.flatMap Piece.text ++ (['$', '{', '}'].take k ++ []) := by
    rw [text_of_malformed h, List.append_nil, List.take_length_add_append, Malformed.text, List.take_append_of_le_length hk]
  refine ⟨?_, ?_, ?_⟩
  · rw [hcolumn, hcut 1 (by decide)]
    have hpieces := pieces_replace (p := .loneDollar none) h (.finalDollar hf) rfl
    rw [pieces_nil] at hpieces
    exact (accepted_of_wellFormed hr st hpieces
      (List.forall_mem_append.mpr ⟨hwell, List.forall_mem_singleton.mpr rfl⟩)).1
  · rw [hcolumn, Nat.add_assoc, hcut 2 (by decide)]
    have hpieces := pieces_replace (p := .malformed (.unterminated .braced [])) h (.unterminated hf (by simp)) rfl
    exact (rejected_of_malformed hr st hpieces hwell).1
  · rw [hcolumn, Nat.add_assoc, hcut 3 (by decide)]
    exact (rejected_of_malformed hr st (pieces_replace h hfits.at_end rfl) hwell).1

/-! ## Errors that are final, and one that is not -/

/-- What is rejected at a character is rejected alike with more text behind it. -/
theorem rejected_append (hr : r.NeverFails) (st : σ) {e : Error}
    (h : (substitute f.strictly r st input).result = .error (.malformed e)) (he : e.isUnterminated = false) (t : Text) :
    (substitute f.strictly r st (input ++ t)).result = .error (.malformed e) ∧
      (substitute f.strictly r st (input ++ t)).calls = (substitute f.strictly r st input).calls := by
  obtain ⟨before, m, after, hpieces, hwell, hm⟩ := malformed_of_rejected hr h
  cases hm
  obtain ⟨hresult, hcalls⟩ := rejected_of_malformed hr st (pieces_append_of_malformed hpieces he t) hwell
  exact ⟨hresult, hcalls.trans (rejected_of_malformed hr st hpieces hwell).2.symm⟩

/-- What is rejected for being unterminated ends in an opener and a name behind a part that is accepted. It is accepted when a
name is completed and closed, and that name is asked for last. -/
theorem unterminated_repaired (hr : r.NeverFails) (st : σ) {name : Text}
    (h : (substitute f.strictly r st input).result = .error (.malformed (.unterminatedVariable name))) :
    ∃ (accepted : Text) (form : Delimited), f.enables form.sigil = true ∧ input = accepted ++ (form.opener ++ name) ∧
      (substitute f.strictly r st accepted).Succeeds ∧
      ∀ more, name ++ more ≠ [] → (∀ c ∈ more, form.isSafe c = true) →
        (substitute f.strictly r st (input ++ (more ++ [form.closer]))).Succeeds ∧
        (substitute f.strictly r st (input ++ (more ++ [form.closer]))).calls =
          (substitute f.strictly r st input).calls ++ [name ++ more] := by
  obtain ⟨before, m, after, hpieces, hwell, hm⟩ := malformed_of_rejected hr h
  cases m with
  | noName => cases hm
  | badCharacter form n c => cases hm
  | unterminated form n =>
    cases hm
    obtain ⟨htext, hf, -⟩ := text_of_unterminated hpieces
    have haccepted := (accepted_of_wellFormed hr st (pieces_of_append hpieces) hwell).1
    exact ⟨_, form, hf, htext, haccepted, fun more hne hmore => accepted_closed hr st hpieces hwell hne hmore⟩

/-- There is a character that may stand in every name. -/
theorem Delimited.isSafe_a (form : Delimited) : form.isSafe 'a' = true := by
  cases form <;> rfl

/-- What is rejected for being unterminated is accepted with some text behind it. -/
theorem unterminated_extended (hr : r.NeverFails) (st : σ) {name : Text}
    (h : (substitute f.strictly r st input).result = .error (.malformed (.unterminatedVariable name))) :
    ∃ t, (substitute f.strictly r st (input ++ t)).Succeeds := by
  obtain ⟨-, form, -, -, -, hrepaired⟩ := unterminated_repaired hr st h
  exact ⟨['a'] ++ [form.closer], (hrepaired ['a'] (by simp) (by simpa using form.isSafe_a)).1⟩

/-- What is not accepted is rejected with an error. -/
theorem rejected_of_not_accepted (hr : r.NeverFails) (st : σ) (h : ¬(substitute f.strictly r st input).Succeeds) :
    ∃ e, (substitute f.strictly r st input).result = .error (.malformed e) := by
  cases hresult : (substitute f.strictly r st input).result with
  | ok text => exact absurd ⟨text, hresult⟩ h
  | error failure =>
    obtain ⟨before, m, after, -, -, rfl⟩ := malformed_of_rejected hr hresult
    exact ⟨_, rfl⟩

/-- A run that ends with a failure produces no text. -/
theorem Run.not_succeeds_of_error {run : Run σ ε} {failure : Failure ε} (h : run.result = .error failure) :
    ¬run.Succeeds := by
  rintro ⟨text, htext⟩
  rw [h] at htext
  cases htext

/-- For a resolver that never fails, strict errors are met at the earliest character, and they are final.
1. If a template is rejected at a character, it is rejected alike with more text behind it, after the same calls.
2. It is rejected at a character exactly when it is accepted with no text behind it.
3. It is rejected for being unterminated exactly when it is not accepted, but is with some text behind it.
4. Then it is an accepted part, an opener and a name; if there is a name, the closing delimiter of the form is such a text,
   and the name is asked for last.
5. Up to a bad character, the reference is unterminated, and up to behind it, it has that bad character.
6. Up to the opening one of the braces without a name, the template is accepted; up to behind it, it is unterminated; and up to
   behind the closing one, the name is missing. -/
theorem strict_errors_final (f : Forms) (r : Resolver σ ε) (hr : r.NeverFails) (st : σ) (s : Text) :
    let run (t : Text) := substitute f.strictly r st t
    (∀ e, (run s).result = .error (.malformed e) → e.isUnterminated = false → ∀ t,
      (run (s ++ t)).result = .error (.malformed e) ∧ (run (s ++ t)).calls = (run s).calls) ∧
    ((∃ e, (run s).result = .error (.malformed e) ∧ e.isUnterminated = false) ↔ ∀ t, ¬(run (s ++ t)).Succeeds) ∧
    ((∃ name, (run s).result = .error (.malformed (.unterminatedVariable name))) ↔
      ¬(run s).Succeeds ∧ ∃ t, (run (s ++ t)).Succeeds) ∧
    (∀ name, (run s).result = .error (.malformed (.unterminatedVariable name)) →
      ∃ (accepted : Text) (form : Delimited), f.enables form.sigil = true ∧ s = accepted ++ (form.opener ++ name) ∧
        (run accepted).Succeeds ∧
        (name ≠ [] → (run (s ++ [form.closer])).Succeeds ∧ (run (s ++ [form.closer])).calls = (run s).calls ++ [name])) ∧
    (∀ name c column, (run s).result = .error (.malformed (.badCharacter name c column)) →
      (run (s.take column)).result = .error (.malformed (.unterminatedVariable name)) ∧
      (run (s.take (column + 1))).result = .error (.malformed (.badCharacter name c column))) ∧
    ∀ column, (run s).result = .error (.malformed (.noName column)) →
      (run (s.take column)).Succeeds ∧
      (run (s.take (column + 1))).result = .error (.malformed (.unterminatedVariable [])) ∧
      (run (s.take (column + 2))).result = .error (.malformed (.noName column)) := by
  intro run
  have hfinal : ∀ e, (run s).result = .error (.malformed e) → e.isUnterminated = false → ∀ t, ¬(run (s ++ t)).Succeeds :=
    fun e h he t => Run.not_succeeds_of_error (rejected_append hr st h he t).1
  refine ⟨fun e h he t => rejected_append hr st h he t, ⟨?_, ?_⟩, ⟨?_, ?_⟩, ?_, ?_, ?_⟩
  · rintro ⟨e, h, he⟩
    exact hfinal e h he
  · intro hnone
    have hself : ¬(run s).Succeeds := by simpa using hnone []
    obtain ⟨e, h⟩ := rejected_of_not_accepted hr st hself
    cases e with
    | unterminatedVariable name =>
      obtain ⟨t, ht⟩ := unterminated_extended hr st h
      exact absurd ht (hnone t)
    | _ => exact ⟨_, h, rfl⟩
  · rintro ⟨name, h⟩
    exact ⟨Run.not_succeeds_of_error h, unterminated_extended hr st h⟩
  · rintro ⟨hself, t, ht⟩
    obtain ⟨e, h⟩ := rejected_of_not_accepted hr st hself
    cases e with
    | unterminatedVariable name => exact ⟨name, h⟩
    | _ => exact absurd ht (hfinal _ h rfl t)
  · intro name h
    obtain ⟨accepted, form, hf, htext, haccepted, hrepaired⟩ := unterminated_repaired hr st h
    refine ⟨accepted, form, hf, htext, haccepted, fun hne => ?_⟩
    simpa using hrepaired [] (by simpa using hne) nofun
  · intro name c column h
    obtain ⟨before, m, after, hpieces, hwell, hm⟩ := malformed_of_rejected hr h
    cases m with
    | noName => cases hm
    | badCharacter form n d =>
      cases hm
      exact cut_at_badCharacter hr st hpieces hwell rfl
    | unterminated form n => cases hm
  · intro column h
    obtain ⟨before, m, after, hpieces, hwell, hm⟩ := malformed_of_rejected hr h
    cases m with
    | noName =>
      cases hm
      exact cut_at_noName hr st hpieces hwell rfl
    | badCharacter form n d => cases hm
    | unterminated form n => cases hm

/-- The template `$A${x=` is rejected at the sign, with or without closing braces; before the sign it is unterminated. The
template `$A%B` is repaired by a percent sign. Of the template `$A${}`, the first three characters are accepted. -/
theorem strict_errors_final_braces :
    let run (t : Text) := substitute (Forms.strictly {}) (.ofRule .odd) 0 t
    let bad : Text := ['$', 'A', '$', '{', 'x', '=']
    let short : Text := ['$', 'A', '%', 'B']
    let empty : Text := ['$', 'A', '$', '{', '}']
    (run (bad ++ ['}'])).result = .error (.malformed (.badCharacter ['x'] '=' 5)) ∧ ¬(run (bad ++ ['}'])).Succeeds ∧
      (run (bad.take 5)).result = .error (.malformed (.unterminatedVariable ['x'])) ∧
      (∃ t, (run (short ++ t)).Succeeds) ∧ (∃ form : Delimited, (run (short ++ [form.closer])).calls = [['A'], ['B']]) ∧
      (run (empty.take 3)).Succeeds := by
  intro run bad short empty
  have hr : (Resolver.ofRule .odd).NeverFails := Resolver.neverFails_of_empty _
  have hbad : (run bad).result = .error (.malformed (.badCharacter ['x'] '=' 5)) := by decide +kernel
  have hshort : (run short).result = .error (.malformed (.unterminatedVariable ['B'])) := by decide +kernel
  have hcalls : (run short).calls = [['A']] := by decide +kernel
  have hempty : (run empty).result = .error (.malformed (.noName 3)) := by decide +kernel
  obtain ⟨hsame, hnever, -, -, hcut, -⟩ := strict_errors_final {} (.ofRule .odd) hr 0 bad
  obtain ⟨-, -, hrepairs, hcloses, -, -⟩ := strict_errors_final {} (.ofRule .odd) hr 0 short
  obtain ⟨-, -, -, -, -, hbraces⟩ := strict_errors_final {} (.ofRule .odd) hr 0 empty
  obtain ⟨_, form, -, -, -, hclosed⟩ := hcloses _ hshort
  refine ⟨(hsame _ hbad rfl ['}']).1, hnever.mp ⟨_, hbad, rfl⟩ ['}'], (hcut _ _ _ hbad).1, (hrepairs.mp ⟨_, hshort⟩).2,
    ⟨form, ?_⟩, (hbraces _ hempty).1⟩
  rw [(hclosed (by simp)).2]
  exact congrArg (· ++ [['B']]) hcalls

end Template
