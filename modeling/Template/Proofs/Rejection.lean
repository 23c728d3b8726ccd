import Template.Proofs.Course
import Template.Proofs.Joining
import Template.Proofs.Strictness

/-!
# Where strict substitution fails

With a resolver that never fails, strict substitution accepts a template exactly when no piece of it is malformed
(`accepted_of_wellFormed`), and otherwise rejects it at the first piece that is (`rejected_of_malformed`). What its error says
of the template is `Error.PointsAt`: a part that is accepted stands in front, and behind it begins a malformed reference, in
which the column, counted in code points from the start, is that of the character at fault. `strict_errors_located` says that
every error is of this kind, and that every template of this kind has that error.
-/

namespace Template

variable {σ ε : Type} {f : Forms} {r : Resolver σ ε} {input : Text}

/-- A run that produces a text. -/
def Run.Succeeds (run : Run σ ε) : Prop := ∃ text, run.result = .ok text

/-! ## Accepted and rejected templates -/

/-- A template without malformed pieces is accepted, and its names are what the resolver is asked for. -/
theorem accepted_of_wellFormed (hr : r.NeverFails) (st : σ) {ps : List Piece} (hpieces : pieces f input = ps)
    (hwell : ∀ p ∈ ps, p.isMalformed = false) :
    (substitute f.strictly r st input).Succeeds ∧
      (substitute f.strictly r st input).calls = Segment.names (ps.map Piece.segment) := by
  have haccept : ∀ p ∈ ps, f.strictly.accepts p = true := fun p hp => f.strictly.accepts_of_not_malformed (hwell p hp)
  obtain ⟨values, st', h⟩ := hr.answers st (Segment.names (ps.map Piece.segment))
  obtain ⟨hresult, hcalls, -⟩ := substitute_of_course (o := f.strictly) hpieces (.completes haccept h)
  exact ⟨⟨_, hresult⟩, hcalls⟩

/-- The first malformed piece of a template is rejected, after the names in front of it. -/
theorem rejected_of_malformed (hr : r.NeverFails) (st : σ) {before after : List Piece} {m : Malformed}
    (hpieces : pieces f input = before ++ .malformed m :: after) (hwell : ∀ p ∈ before, p.isMalformed = false) :
    (substitute f.strictly r st input).result = .error (.malformed (m.errorAt (before.flatMap Piece.text).length)) ∧
      (substitute f.strictly r st input).calls = Segment.names (before.map Piece.segment) := by
  have haccept : ∀ p ∈ before, f.strictly.accepts p = true :=
    fun p hp => f.strictly.accepts_of_not_malformed (hwell p hp)
  obtain ⟨values, st', h⟩ := hr.answers st (Segment.names (before.map Piece.segment))
  obtain ⟨hresult, hcalls, -⟩ := substitute_of_course (o := f.strictly) hpieces (.rejects rfl haccept h)
  exact ⟨hresult, hcalls⟩

/-- What is accepted has no malformed pieces. -/
theorem wellFormed_of_accepted (hr : r.NeverFails) {st : σ} (h : (substitute f.strictly r st input).Succeeds) :
    ∀ p ∈ pieces f input, p.isMalformed = false := by
  obtain ⟨before, rest, hpieces, hwell, rfl | ⟨m, after, rfl⟩⟩ := exists_wellFormed_prefix (pieces f input)
  · rw [List.append_nil] at hpieces
    exact hpieces ▸ hwell
  · obtain ⟨text, htext⟩ := h
    rw [(rejected_of_malformed hr st hpieces hwell).1] at htext
    cases htext

/-- What is not accepted has a first malformed piece, and its error is the failure. -/
theorem malformed_of_rejected (hr : r.NeverFails) {st : σ} {failure : Failure ε}
    (h : (substitute f.strictly r st input).result = .error failure) :
    ∃ before m after, pieces f input = before ++ .malformed m :: after ∧ (∀ p ∈ before, p.isMalformed = false) ∧
      failure = .malformed (m.errorAt (before.flatMap Piece.text).length) := by
  obtain ⟨before, rest, hpieces, hwell, rfl | ⟨m, after, rfl⟩⟩ := exists_wellFormed_prefix (pieces f input)
  · rw [List.append_nil] at hpieces
    obtain ⟨text, htext⟩ := (accepted_of_wellFormed hr st hpieces hwell).1
    rw [h] at htext
    cases htext
  · rw [(rejected_of_malformed hr st hpieces hwell).1] at h
    exact ⟨before, m, after, hpieces, hwell, (Except.error.inj h).symm⟩

/-! ## What an error points at -/

/-- An error points at what stands from a column on to the end of a template, when it rejects how that begins. What is
unterminated has nothing behind it. -/
def Error.PointsAt (f : Forms) (start : Nat) (rest : Text) (e : Error) : Prop :=
  ∃ text after, rest = text ++ after ∧ e.Rejects f start text ∧ (e.isUnterminated = true → after = [])

/-- An error points at a malformed reference that fits before what is behind it, and it is the error of that reference. -/
theorem Error.pointsAt_iff {start : Nat} {rest : Text} {e : Error} :
    e.PointsAt f start rest ↔
      ∃ m after, rest = m.text ++ after ∧ (Piece.malformed m).Fits f after ∧ e = m.errorAt start := by
  constructor
  · rintro ⟨text, after, rfl, hrejects, hafter⟩
    cases e with
    | noName column =>
      obtain ⟨hf, rfl, rfl⟩ := hrejects
      exact ⟨.noName, after, rfl, .noName hf, rfl⟩
    | badCharacter name c column =>
      obtain ⟨form, hf, rfl, hname, hc, hcloser, rfl⟩ := hrejects
      exact ⟨.badCharacter form name c, after, rfl, .badCharacter hf hname hc hcloser, rfl⟩
    | unterminatedVariable name =>
      obtain ⟨form, hf, rfl, hname⟩ := hrejects
      obtain rfl := hafter rfl
      exact ⟨.unterminated form name, [], rfl, .unterminated hf hname, rfl⟩
  · rintro ⟨m, after, rfl, hm, rfl⟩
    refine ⟨m.text, after, rfl, m.rejects_errorAt start hm, fun hend => hm.rest_eq_nil ?_⟩
    cases m with
    | unterminated form name => rfl
    | _ => cases hend

/-- The column of a bad character is where that character stands in the template. -/
theorem Error.PointsAt.getElem?_column {accepted rest name : Text} {c : Char} {column : Nat}
    (h : (Error.badCharacter name c column).PointsAt f accepted.length rest) : (accepted ++ rest)[column]? = some c := by
  obtain ⟨_, after, rfl, ⟨form, -, rfl, -, -, -, rfl⟩, -⟩ := h
  have hlen : accepted.length + form.opener.length + name.length = (accepted ++ (form.opener ++ name)).length := by
    rw [List.length_append, List.length_append, Nat.add_assoc]
  rw [← List.append_assoc, ← List.append_assoc, List.append_assoc, hlen, List.getElem?_append_right (Nat.le_refl _),
    Nat.sub_self]
  rfl

/-! ## What is accepted, and a malformed reference behind it -/

/-- The form of a reference that is malformed. -/
def Malformed.form : Malformed → Delimited
  | noName => .braced
  | badCharacter form _ _ => form
  | unterminated form _ => form

/-- What an opener opens begins with the sigil of the form. -/
theorem Delimited.head?_opener_append (form : Delimited) (t : Text) :
    (form.opener ++ t).head? = some form.sigil.char := by
  cases form <;> rfl

/-- A malformed reference begins with the sigil of its form. -/
theorem Malformed.head?_text (m : Malformed) : m.text.head? = some m.form.sigil.char := by
  cases m with
  | noName => rfl
  | badCharacter form name c => rw [text, List.append_assoc, form.head?_opener_append]; rfl
  | unterminated form name => exact form.head?_opener_append name

/-- A sigil is no character of a bare name. -/
theorem Sigil.isBare_char (s : Sigil) : isBare s.char = false := by
  cases s <;> rfl

/-- A piece that is not malformed fits before everything that begins with a sigil, unless it is a dollar sign that ends a
template. -/
theorem Piece.Fits.before_sigil {p : Piece} {rest t : Text} {s : Sigil} (h : p.Fits f rest) (hp : p.isMalformed = false)
    (hfinal : p ≠ .loneDollar none) (ht : t.head? = some s.char) : p.Fits f t := by
  refine h.before ?_ ?_
  · intro hp'
    rcases isFinal_iff.mp hp' with ⟨form, name, rfl⟩ | rfl
    · cases hp
    · exact absurd rfl hfinal
  · intro name _ c hc
    rw [ht] at hc
    cases hc
    exact s.isBare_char

/-- Behind a template without malformed pieces that does not end in a dollar sign of its own, a malformed reference is read as
such. -/
theorem pieces_append_malformed {accepted after : Text} {m : Malformed}
    (hwell : ∀ p ∈ pieces f accepted, p.isMalformed = false)
    (hfinal : (pieces f accepted).getLast? ≠ some (.loneDollar none)) (hm : (Piece.malformed m).Fits f after) :
    pieces f (accepted ++ (m.text ++ after)) = pieces f accepted ++ .malformed m :: pieces f after := by
  rw [pieces_append, ← pieces_text_append hm]
  · rfl
  · intro p hp
    have hmem : p ∈ pieces f accepted := List.mem_of_getLast? hp
    obtain ⟨init, hinit⟩ := List.getLast?_eq_some_iff.mp hp
    have hfits : p.Fits f [] := fits_of_pieces hinit
    refine hfits.before_sigil (hwell p hmem) ?_ (s := m.form.sigil) ?_
    · rintro rfl
      exact hfinal hp
    · exact ((Piece.malformed m).head?_text_append after).trans m.head?_text

/-- The errors of strict substitution point at the first malformed reference, for a resolver that never fails.
1. If substitution fails, it fails with an error, and the template is cut into a first part that is accepted after the same
   calls, and a rest that the error points at; the column of a bad character is where that character stands.
2. A first part that is accepted, and does not end in a dollar sign of its own, followed by a rest that an error points at, is
   rejected with that error, after the calls of the first part. -/
theorem strict_errors_located (f : Forms) (r : Resolver σ ε) (hr : r.NeverFails) (st : σ) :
    (∀ input failure, (substitute f.strictly r st input).result = .error failure →
      ∃ e accepted rest, failure = .malformed e ∧ input = accepted ++ rest ∧
        (substitute f.strictly r st accepted).Succeeds ∧
        (substitute f.strictly r st accepted).calls = (substitute f.strictly r st input).calls ∧
        e.PointsAt f accepted.length rest ∧
        ∀ name c column, e = .badCharacter name c column → column < input.length ∧ input[column]? = some c) ∧
    ∀ accepted rest e, (substitute f.strictly r st accepted).Succeeds →
      (pieces f accepted).getLast? ≠ some (.loneDollar none) → e.PointsAt f accepted.length rest →
        (substitute f.strictly r st (accepted ++ rest)).result = .error (.malformed e) ∧
        (substitute f.strictly r st (accepted ++ rest)).calls = (substitute f.strictly r st accepted).calls := by
  refine ⟨?_, ?_⟩
  · intro input failure h
    obtain ⟨before, m, after, hpieces, hwell, rfl⟩ := malformed_of_rejected hr h
    obtain ⟨hsucceeds, hcalls⟩ := accepted_of_wellFormed hr st (pieces_of_append hpieces) hwell
    have hm := fits_of_pieces hpieces
    have hpoints : (m.errorAt (before.flatMap Piece.text).length).PointsAt f (before.flatMap Piece.text).length
        (m.text ++ after.flatMap Piece.text) := Error.pointsAt_iff.mpr ⟨m, _, rfl, hm, rfl⟩
    refine ⟨_, _, _, rfl, text_of_malformed hpieces, hsucceeds, ?_, hpoints, ?_⟩
    · rw [hcalls, (rejected_of_malformed hr st hpieces hwell).2]
    · intro name c column he
      have hcolumn : input[column]? = some c := by
        rw [text_of_malformed hpieces]
        exact (he ▸ hpoints).getElem?_column
      exact ⟨(List.getElem?_eq_some_iff.mp hcolumn).1, hcolumn⟩
  · intro accepted rest e h hfinal hpoints
    obtain ⟨m, after, rfl, hm, rfl⟩ := Error.pointsAt_iff.mp hpoints
    have hwell := wellFormed_of_accepted hr h
    have hpieces := pieces_append_malformed hwell hfinal hm
    obtain ⟨hresult, hcalls⟩ := rejected_of_malformed hr st hpieces hwell
    rw [text_pieces] at hresult
    refine ⟨hresult, ?_⟩
    rw [hcalls, (accepted_of_wellFormed hr st rfl hwell).2]

/-- In the template `é$$$A%B%${x=}`, the part before the braces is accepted. The sign in the braces is at column 11, which in
bytes would be 12. -/
theorem strict_errors_located_bad_character :
    let accepted : Text := ['é', '$', '$', '$', 'A', '%', 'B', '%']
    let rest : Text := ['$', '{', 'x', '=', '}']
    let run := substitute (Forms.strictly {}) (.ofRule .odd) 0 (accepted ++ rest)
    run.result = .error (.malformed (.badCharacter ['x'] '=' 11)) ∧ run.calls = [['A'], ['B']] ∧
      (accepted ++ rest)[11]? = some '=' := by
  intro accepted rest run
  have hr : (Resolver.ofRule .odd).NeverFails := Resolver.neverFails_of_empty _
  have hsucceeds : (substitute (Forms.strictly {}) (.ofRule .odd) 0 accepted).Succeeds :=
    ⟨['é', '$', 'A'], by decide +kernel⟩
  have hcalls : (substitute (Forms.strictly {}) (.ofRule .odd) 0 accepted).calls = [['A'], ['B']] := by decide +kernel
  have hpoints : (Error.badCharacter ['x'] '=' 11).PointsAt {} accepted.length rest :=
    ⟨['$', '{', 'x', '='], ['}'], rfl, ⟨.braced, rfl, rfl, List.all_eq_true.mp rfl, rfl, by decide, rfl⟩, nofun⟩
  obtain ⟨hresult, hsame⟩ :=
    (strict_errors_located {} (.ofRule .odd) hr 0).2 accepted rest _ hsucceeds (by decide +kernel) hpoints
  obtain ⟨e, _, _, he, -, -, -, -, hcolumn⟩ := (strict_errors_located {} (.ofRule .odd) hr 0).1 _ _ hresult
  cases he
  exact ⟨hresult, hsame.trans hcalls, (hcolumn _ _ _ rfl).2⟩

end Template
