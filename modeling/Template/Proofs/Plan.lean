import Template.Proofs.Expansion
import Template.Resolver.Rule

/-!
# The plan of a substitution

What a substitution asks for, what it puts around the answers and where it goes wrong are settled by the template and the
options alone: this is the `plan`. A resolver only supplies the values, and `substitute_follows_plan` says how: its answers are
put in their places and never read as template text, and its first failure ends the substitution where it occurs.
-/

namespace Template

variable {σ ε : Type}

/-- What a substitution comes to, but for the values. -/
structure Plan where
  /-- The text in front of the first value. -/
  lead : Text
  /-- The names asked for, in order. -/
  names : List Text
  /-- The text behind each value. -/
  tails : List Text
  /-- There is one text for each name. -/
  length_tails : tails.length = names.length
  /-- The error that the substitution ends with, if the resolver answers all of the names. -/
  error : Option Error

namespace Plan

/-- The plan of a list of accepted pieces, behind which an error may stand. -/
def ofPieces (ps : List Piece) (error : Option Error) : Plan where
  lead := Segment.lead (ps.map Piece.segment)
  names := Segment.names (ps.map Piece.segment)
  tails := Segment.tails (ps.map Piece.segment)
  length_tails := Segment.length_tails _
  error := error

/-- What a substitution by the plan results in, when these are the answers. -/
def result (plan : Plan) (values : List (Option Text)) : Except (Failure ε) Text :=
  match plan.error with
  | some e => .error (.malformed e)
  | none => .ok (plan.lead ++ (List.zipWith (fun value tail => value.getD [] ++ tail) values plan.tails).flatten)

theorem result_ofPieces {ps : List Piece} {values : List (Option Text)}
    (h : values.length = (Segment.names (ps.map Piece.segment)).length) :
    (ofPieces ps none).result values = (.ok (Segment.fill (ps.map Piece.segment) values) : Except (Failure ε) Text) := by
  rw [Segment.fill_eq h]
  rfl

end Plan

/-- The error of the first piece that is rejected, if there is one. -/
def firstError? (o : Options) (ps : List Piece) : Option Error :=
  match ps.dropWhile o.accepts with
  | .malformed m :: _ => some (m.errorAt ((ps.takeWhile o.accepts).flatMap Piece.text).length)
  | _ => none

/-- The plan of a template: that of its pieces up to the first one that is rejected. -/
def plan (o : Options) (input : Text) : Plan :=
  .ofPieces ((pieces o.toForms input).takeWhile o.accepts) (firstError? o (pieces o.toForms input))

/-- A plan covers the whole template, or it ends with the error of the first malformed reference that is rejected. -/
theorem plan_cases (o : Options) (input : Text) :
    ((∀ p ∈ pieces o.toForms input, o.accepts p = true) ∧ plan o input = .ofPieces (pieces o.toForms input) none) ∨
      ∃ before m after, o.strict = true ∧ pieces o.toForms input = before ++ .malformed m :: after ∧
        (∀ p ∈ before, o.accepts p = true) ∧
        plan o input = .ofPieces before (some (m.errorAt (before.flatMap Piece.text).length)) := by
  rcases rejected_or_accepted o (pieces o.toForms input) with ⟨before, m, after, hs, hsplit, hbefore⟩ | hall
  · refine Or.inr ⟨before, m, after, hs, hsplit, hbefore, ?_⟩
    obtain ⟨htake, hdrop⟩ := span_accepts hs hbefore m after
    simp only [plan, firstError?, hsplit, htake, hdrop]
  · refine Or.inl ⟨hall, ?_⟩
    simp only [plan, firstError?, List.takeWhile_eq_self_iff.mpr hall, List.dropWhile_eq_nil_iff.mpr hall]

/-- If the resolver answers the names of the plan, they are what it is asked, and the plan says what comes of it. -/
theorem substitute_of_answers {o : Options} {r : Resolver σ ε} {st st' : σ} {input : Text} {values : List (Option Text)}
    (h : r.Answers st (plan o input).names values st') :
    (substitute o r st input).calls = (plan o input).names ∧ (substitute o r st input).state = st' ∧
      (substitute o r st input).result = (plan o input).result values := by
  rcases plan_cases o input with ⟨hall, hplan⟩ | ⟨before, m, after, hs, hsplit, hbefore, hplan⟩
  · rw [hplan] at h ⊢
    rw [Plan.result_ofPieces h.length_eq]
    have hrun := expand_of_answers 0 hall h
    simp only [substitute, hrun, Run.completed, Plan.ofPieces, and_self]
  · rw [hplan] at h ⊢
    have hrun := expand_of_malformed 0 m after hs hbefore h
    simp [substitute, hsplit, hrun, Run.before, Run.completed, Run.reject, Plan.ofPieces, Plan.result, Except.map]

/-- If the resolver fails at a name of the plan, that name is the last it is asked, and its failure is the result. -/
theorem substitute_of_failure {o : Options} {r : Resolver σ ε} {st st₁ st₂ : σ} {input : Text} {xs ys : List Text}
    {name : Text} {values : List (Option Text)} {e : ε} (hnames : (plan o input).names = xs ++ name :: ys)
    (h : r.Answers st xs values st₁) (hask : r.ask st₁ name = (.error e, st₂)) :
    (substitute o r st input).calls = xs ++ [name] ∧ (substitute o r st input).state = st₂ ∧
      (substitute o r st input).result = .error (.resolver e) := by
  -- the pieces that the plan covers are a part of the template, and all of them are accepted
  have hcovered : ∃ ps rest, pieces o.toForms input = ps ++ rest ∧ (∀ p ∈ ps, o.accepts p = true) ∧
      (plan o input).names = Segment.names (ps.map Piece.segment) := by
    rcases plan_cases o input with ⟨hall, hplan⟩ | ⟨before, m, after, -, hsplit, hbefore, hplan⟩
    · exact ⟨pieces o.toForms input, [], (List.append_nil _).symm, hall, by rw [hplan]; rfl⟩
    · exact ⟨before, .malformed m :: after, hsplit, hbefore, by rw [hplan]; rfl⟩
  obtain ⟨ps, rest, hpieces, hps, hplan⟩ := hcovered
  obtain ⟨before, ref, after, rfl, rfl, rfl⟩ := reference_of_names (hplan.symm.trans hnames)
  have hbefore : ∀ p ∈ before, o.accepts p = true := fun p hp => hps p (List.mem_append_left _ hp)
  have hrun := expand_of_failure 0 (after ++ rest) hbefore h hask
  rw [List.append_assoc, List.cons_append] at hpieces
  simp [substitute, hpieces, hrun, Run.before, Run.completed, Except.map]

/-- Values are never read as template text, and they do not steer the substitution. Whatever the resolver, it is asked for the
names of the plan. If it answers all of them, its values stand between the texts of the plan, or the error of the plan is the
result. If it fails at one of them, that is the last one asked, and its failure is the result, whatever comes later in the
template. So two resolvers that never fail are asked the same, and meet the same error or none. -/
theorem substitute_follows_plan (o : Options) (input : Text) :
    (∀ {σ ε : Type} (r : Resolver σ ε) (st : σ),
      (∀ values st', r.Answers st (plan o input).names values st' →
        (substitute o r st input).calls = (plan o input).names ∧ (substitute o r st input).state = st' ∧
          (substitute o r st input).result = (plan o input).result values) ∧
      ∀ before name after values st₁ e st₂, (plan o input).names = before ++ name :: after →
        r.Answers st before values st₁ → r.ask st₁ name = (.error e, st₂) →
          (substitute o r st input).calls = before ++ [name] ∧ (substitute o r st input).state = st₂ ∧
            (substitute o r st input).result = .error (.resolver e)) ∧
    ∀ {σ ε σ' ε' : Type} (r : Resolver σ ε) (r' : Resolver σ' ε') (st : σ) (st' : σ'),
      r.NeverFails → r'.NeverFails →
      (substitute o r st input).calls = (substitute o r' st' input).calls ∧
      (∀ e, (substitute o r st input).result = .error (.malformed e) ↔
        (substitute o r' st' input).result = .error (.malformed e)) ∧
      ((∃ text, (substitute o r st input).result = .ok text) ↔
        ∃ text, (substitute o r' st' input).result = .ok text) := by
  refine ⟨?_, ?_⟩
  · intro σ ε r st
    refine ⟨?_, ?_⟩
    · intro values st' h
      exact substitute_of_answers h
    · intro before name after values st₁ e st₂ hnames h hask
      exact substitute_of_failure hnames h hask
  · intro σ ε σ' ε' r r' st st' hr hr'
    obtain ⟨values, st₁, h⟩ := hr.answers st (plan o input).names
    obtain ⟨values', st₁', h'⟩ := hr'.answers st' (plan o input).names
    obtain ⟨hcalls, -, hresult⟩ := substitute_of_answers h
    obtain ⟨hcalls', -, hresult'⟩ := substitute_of_answers h'
    refine ⟨hcalls.trans hcalls'.symm, ?_⟩
    rw [hresult, hresult']
    cases he : (plan o input).error <;> simp [Plan.result, he]

/-- The template `$A%B%${}`: values that look like references stay as they are; a name that is refused comes before the
malformed braces behind it; and without a refusal, the braces are rejected whatever the values. -/
theorem substitute_follows_plan_braces :
    let input : Text := ['$', 'A', '%', 'B', '%', '$', '{', '}']
    (substitute .lenient (.ofRule .brace) 0 input).result =
        .ok ['$', '{', 'A', '}', '$', '{', 'B', '}', '$', '{', '}'] ∧
      (substitute {} (.ofGuardedRule { rule := .brace, deny := [['B']] }) 0 input).result =
        .error (.resolver (.name ['B'])) ∧
      ((substitute {} .unset () input).result = .error (.malformed (.noName 6)) ↔
        (substitute {} (.ofRule .brace) 0 input).result = .error (.malformed (.noName 6))) := by
  intro input
  have hanswers : (Resolver.ofRule .brace).Answers 0 [['A'], ['B']]
      [some ['$', '{', 'A', '}'], some ['$', '{', 'B', '}']] 2 := .cons rfl (.cons rfl (.nil 2))
  have hnames : (plan .lenient input).names = [['A'], ['B']] := by decide +kernel
  have hnames' : (plan {} input).names = [['A']] ++ ['B'] :: [] := by decide +kernel
  refine ⟨?_, ?_, ?_⟩
  · obtain ⟨-, -, hresult⟩ := ((substitute_follows_plan .lenient input).1 (.ofRule .brace) 0).1 _ 2 (hnames ▸ hanswers)
    rw [hresult]
    decide +kernel
  · exact (((substitute_follows_plan {} input).1 (.ofGuardedRule { rule := .brace, deny := [['B']] }) 0).2 _ _ _ _ _ _ _
      hnames' (.cons rfl (.nil 1)) rfl).2.2
  · exact ((substitute_follows_plan {} input).2 .unset (.ofRule .brace) () 0 (Resolver.neverFails_of_empty _)
      (Resolver.neverFails_of_empty _)).2.1 _

end Template
