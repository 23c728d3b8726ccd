import Mathlib.Algebra.Order.BigOperators.Group.List
import Mathlib.Algebra.Order.Group.Nat
import Mathlib.Data.List.Induction
import Template.Proofs.Plan
import Template.Resolver.Rule

/-!
# The variables of a template are those that substitution depends on

`variableNames` and `substitute` follow the same plan: the list of variables is the names of the plan, each at its first place
(`variableNames_eq_plan`). So it is all that matters of a map of values (`substitute_congr`), and each name on it matters: with
the name bound to some text, the result is longer than without the name (`length_lt_of_bound`).
-/

namespace Template

variable {σ ε : Type}

/-! ## Lists without their repeats -/

/-- A name behind others is a repeat if it is one of them. -/
theorem eraseDups_concat (names : List Text) (name : Text) :
    (names ++ [name]).eraseDups = if name ∈ names then names.eraseDups else names.eraseDups ++ [name] := by
  rw [List.eraseDups_append]
  by_cases h : name ∈ names
  · simp [List.removeAll, h]
  · simp [List.removeAll, h, List.eraseDups_cons]

theorem nodup_eraseDups (names : List Text) : names.eraseDups.Nodup := by
  induction names using List.reverseRecOn with
  | nil => simp
  | append_singleton names name ih =>
    rw [eraseDups_concat]
    split
    · exact ih
    · next h =>
      refine List.nodup_append.mpr ⟨ih, by simp, ?_⟩
      intro a ha b hb
      rw [List.mem_singleton.mp hb]
      rintro rfl
      exact h (List.mem_eraseDups.mp ha)

/-- The first part of a list keeps its first places. -/
theorem eraseDups_prefix {xs ys : List Text} (h : xs <+: ys) : xs.eraseDups <+: ys.eraseDups := by
  obtain ⟨zs, rfl⟩ := h
  rw [List.eraseDups_append]
  exact List.prefix_append _ _

/-! ## What the resolvers answer -/

/-- Noting names gives none of them a value, and it keeps each where it came first. -/
theorem Resolver.collect_answers (seen names : List Text) :
    collect.Answers seen.eraseDups names (names.map fun _ => none) (seen ++ names).eraseDups := by
  induction names generalizing seen with
  | nil =>
    rw [List.append_nil]
    exact .nil _
  | cons name names ih =>
    have hask : collect.ask seen.eraseDups name = (.ok none, (seen ++ [name]).eraseDups) := by
      simp only [collect, List.mem_eraseDups, eraseDups_concat]
    have hrest := ih (seen ++ [name])
    rw [List.append_assoc, List.singleton_append] at hrest
    exact .cons hask hrest

/-- Variables give names their values, and they stay as they are. -/
theorem Resolver.ofVariables_answers (vars : Variables) (names : List Text) :
    ofVariables.Answers vars names (names.map fun name => vars[name]?) vars := by
  induction names with
  | nil => exact .nil vars
  | cons name names ih => exact .cons rfl ih

/-! ## The list of variables and the plan -/

/-- The variables of a template are the names of its plan without repeats, unless the plan ends with an error. -/
theorem variableNames_eq_plan (o : Options) (input : Text) :
    variableNames o input =
      match (plan o input).error with
      | some e => .error e
      | none => .ok (plan o input).names.eraseDups := by
  have h := Resolver.collect_answers [] (plan o input).names
  rw [List.eraseDups_nil, List.nil_append] at h
  obtain ⟨-, hstate, hresult⟩ := substitute_of_answers h
  cases he : (plan o input).error with
  | some e =>
    rw [variableNames_eq_error_iff, survey, hresult, Plan.result, he]
  | none =>
    rw [variableNames_eq_ok_iff, survey, hresult, Plan.result, he]
    exact ⟨⟨_, rfl⟩, hstate⟩

/-- A template whose variables are listed has a plan without an error. -/
theorem plan_of_variableNames {o : Options} {input : Text} {names : List Text} (h : variableNames o input = .ok names) :
    (plan o input).error = none ∧ (plan o input).names.eraseDups = names := by
  rw [variableNames_eq_plan] at h
  cases he : (plan o input).error with
  | some e =>
    rw [he] at h
    cases h
  | none =>
    rw [he] at h
    exact ⟨rfl, Except.ok.inj h⟩

/-- Every resolver is asked for the names of the plan, in order, from the first on. -/
theorem calls_prefix_names (o : Options) (r : Resolver σ ε) (st : σ) (input : Text) :
    (substitute o r st input).calls <+: (plan o input).names := by
  rcases r.answers_or_fails st (plan o input).names with
    ⟨values, st', h⟩ | ⟨before, name, after, values, st₁, e, st₂, hnames, h, hask⟩
  · exact (substitute_of_answers h).1 ▸ List.prefix_rfl
  · rw [(substitute_of_failure hnames h hask).1, hnames]
    exact ⟨after, by simp⟩

/-! ## Maps of values -/

theorem substitute_ofVariables (o : Options) (vars : Variables) (input : Text) :
    (substitute o .ofVariables vars input).result =
      (plan o input).result ((plan o input).names.map fun name => vars[name]?) :=
  (substitute_of_answers (Resolver.ofVariables_answers vars _)).2.2

/-- Maps that agree on the variables of a template give the same. -/
theorem substitute_congr {o : Options} {input : Text} {names : List Text} (h : variableNames o input = .ok names)
    {vars vars' : Variables} (hagree : ∀ n ∈ names, vars[n]? = vars'[n]?) :
    (substitute o .ofVariables vars input).result = (substitute o .ofVariables vars' input).result := by
  obtain ⟨-, rfl⟩ := plan_of_variableNames h
  have hvalues : ((plan o input).names.map fun name => vars[name]?) = (plan o input).names.map fun name => vars'[name]? :=
    List.map_congr_left fun n hn => hagree n (List.mem_eraseDups.mpr hn)
  rw [substitute_ofVariables, substitute_ofVariables, hvalues]

/-- A map of values makes of a template, if its variables are listed, a text of this length. -/
theorem length_of_variables {o : Options} {input : Text} {names : List Text} (h : variableNames o input = .ok names)
    (vars : Variables) :
    ∃ text, (substitute o .ofVariables vars input).result = .ok text ∧
      text.length = (Segment.fill ((pieces o.toForms input).map Piece.segment) []).length +
        ((plan o input).names.flatMap fun name => vars[name]?.getD []).length := by
  obtain ⟨herror, -⟩ := plan_of_variableNames h
  rcases plan_cases o input with ⟨-, hplan⟩ | ⟨before, m, after, -, -, -, hplan⟩
  · have hlen : ((plan o input).names.map fun name => vars[name]?).length =
        (Segment.names ((pieces o.toForms input).map Piece.segment)).length := by
      rw [List.length_map, hplan]
      rfl
    refine ⟨Segment.fill ((pieces o.toForms input).map Piece.segment) ((plan o input).names.map fun name => vars[name]?),
      ?_, ?_⟩
    · rw [substitute_ofVariables, hplan, Plan.result_ofPieces (hplan ▸ hlen)]
    · rw [Segment.length_fill hlen, List.flatMap_map]
  · rw [hplan] at herror
    cases herror

/-- A text bound to a variable of a template is seen in the result: it is longer than without the variable. -/
theorem length_lt_of_bound {o : Options} {input : Text} {names : List Text} (h : variableNames o input = .ok names)
    {n : Text} (hn : n ∈ names) (vars : Variables) {value : Text} (hvalue : value ≠ []) :
    ∃ unbound bound, (substitute o .ofVariables (vars.erase n) input).result = .ok unbound ∧
      (substitute o .ofVariables (vars.insert n value) input).result = .ok bound ∧ unbound.length < bound.length := by
  obtain ⟨unbound, hunbound, hlen⟩ := length_of_variables h (vars.erase n)
  obtain ⟨bound, hbound, hlen'⟩ := length_of_variables h (vars.insert n value)
  refine ⟨unbound, bound, hunbound, hbound, ?_⟩
  have hmem : n ∈ (plan o input).names := by
    obtain ⟨-, rfl⟩ := plan_of_variableNames h
    exact List.mem_eraseDups.mp hn
  have hle : ∀ name : Text, ((vars.erase n)[name]?.getD []).length ≤ ((vars.insert n value)[name]?.getD []).length := by
    intro name
    rw [Std.HashMap.getElem?_erase, Std.HashMap.getElem?_insert]
    split <;> simp
  have hlt : ((vars.erase n)[n]?.getD []).length < ((vars.insert n value)[n]?.getD []).length := by
    simpa using List.length_pos_iff.mpr hvalue
  have hsum := List.sum_lt_sum (l := (plan o input).names) _ _ (fun name _ => hle name) ⟨n, hmem, hlt⟩
  rw [← List.length_flatMap, ← List.length_flatMap] at hsum
  omega

/-- The list of variables is exactly what substitution depends on. It fails where substitution by a resolver that never fails
does, with the same error. Otherwise it holds the names that such a resolver is asked for, in order and without the repeats;
and of a resolver that fails, the names that it was asked for are the first of them. Maps that agree on the list give the same,
and for each name on the list there is a difference between no value and any value but the empty one. -/
theorem variableNames_exact (o : Options) (input : Text) :
    (∀ {σ ε : Type} (r : Resolver σ ε) (st : σ), r.NeverFails → ∀ e,
      variableNames o input = .error e ↔ (substitute o r st input).result = .error (.malformed e)) ∧
    ∀ names, variableNames o input = .ok names →
      names.Nodup ∧
      (∀ {σ ε : Type} (r : Resolver σ ε) (st : σ),
        (r.NeverFails → (substitute o r st input).calls.eraseDups = names) ∧
        (substitute o r st input).calls.eraseDups <+: names) ∧
      (∀ vars vars' : Variables, (∀ n ∈ names, vars[n]? = vars'[n]?) →
        (substitute o .ofVariables vars input).result = (substitute o .ofVariables vars' input).result) ∧
      ∀ n ∈ names, ∀ (vars : Variables) (value : Text), value ≠ [] →
        ∃ unbound bound, (substitute o .ofVariables (vars.erase n) input).result = .ok unbound ∧
          (substitute o .ofVariables (vars.insert n value) input).result = .ok bound ∧ unbound ≠ bound := by
  refine ⟨?_, ?_⟩
  · intro σ ε r st hr e
    obtain ⟨values, st', h⟩ := hr.answers st (plan o input).names
    rw [(substitute_of_answers h).2.2, variableNames_eq_plan]
    cases he : (plan o input).error <;> simp [Plan.result, he]
  · intro names hnames
    obtain ⟨-, rfl⟩ := plan_of_variableNames hnames
    refine ⟨nodup_eraseDups _, ?_, ?_, ?_⟩
    · intro σ ε r st
      refine ⟨?_, eraseDups_prefix (calls_prefix_names o r st input)⟩
      intro hr
      obtain ⟨values, st', h⟩ := hr.answers st (plan o input).names
      rw [(substitute_of_answers h).1]
    · intro vars vars' hagree
      exact substitute_congr hnames hagree
    · intro n hn vars value hvalue
      obtain ⟨unbound, bound, hunbound, hbound, hlt⟩ := length_lt_of_bound hnames hn vars hvalue
      refine ⟨unbound, bound, hunbound, hbound, ?_⟩
      rintro rfl
      exact Nat.lt_irrefl _ hlt

/-- The template `$A-${B}$A` has two variables, one of them twice. Values that look like references add no variable, a third
variable does not matter, and the first one does, bound to a reference to the second. The template `$A${` has none to list. -/
theorem variableNames_exact_repeat :
    let input : Text := ['$', 'A', '-', '$', '{', 'B', '}', '$', 'A']
    let vars : Variables := Std.HashMap.ofList [(['B'], ['y'])]
    (substitute {} (.ofRule .brace) 0 input).calls.eraseDups = [['A'], ['B']] ∧
      (substitute {} (.ofGuardedRule { rule := .brace, deny := [['A']] }) 0 input).calls.eraseDups <+: [['A'], ['B']] ∧
      (substitute {} .ofVariables (vars.insert ['C'] ['z']) input).result = (substitute {} .ofVariables vars input).result ∧
      (∃ unbound bound, (substitute {} .ofVariables (vars.erase ['A']) input).result = .ok unbound ∧
        (substitute {} .ofVariables (vars.insert ['A'] ['$', '{', 'B', '}']) input).result = .ok bound ∧ unbound ≠ bound) ∧
      (substitute {} (.ofRule .brace) 0 ['$', 'A', '$', '{']).result = .error (.malformed (.unterminatedVariable [])) := by
  intro input vars
  have hnames : variableNames {} input = .ok [['A'], ['B']] := by decide +kernel
  have herror : variableNames {} ['$', 'A', '$', '{'] = .error (.unterminatedVariable []) := by decide +kernel
  have hfails : (Resolver.ofRule .brace).NeverFails := Resolver.neverFails_of_empty _
  obtain ⟨-, hcalls, hcongr, hbound⟩ := (variableNames_exact {} input).2 _ hnames
  refine ⟨(hcalls _ 0).1 hfails, (hcalls _ 0).2, hcongr _ _ ?_, hbound ['A'] (by simp) vars _ (by simp), ?_⟩
  · simp [Std.HashMap.getElem?_insert]
  · exact ((variableNames_exact {} _).1 _ 0 hfails _).mp herror

end Template
