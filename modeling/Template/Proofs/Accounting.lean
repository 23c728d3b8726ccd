import Template.Proofs.Course
import Template.Proofs.Dependencies
import Template.Resolver.Rule
import Template.Session

/-!
# What a session counts and reports

A step that substitutes, or lists variables, counts what happened on the course of that substitution and reports of it what the
collector keeps at its verbosity (`Session.Accounts`), and no other step counts or reports anything. Over a run of a session this
adds up (`Session.Balanced`): the failures counted are the answers that are the error of a malformed reference, and no more names
are counted without a value than were asked for.
-/

namespace Template

variable {σ ε : Type}

/-- The error of a malformed reference, if that is what a step answers. -/
def Answer.rejection? : Answer ε → Option Error
  | text result _ => Template.rejection? result
  | names (.error e) => some e
  | _ => none

/-- Whether a step substitutes, if only to list variables. -/
def Step.substitutes : Step σ → Bool
  | substitute _ _ => true
  | names _ _ => true
  | _ => false

/-! ## Failures -/

/-- The failures counted, of all kinds. -/
def Tally.failures (t : Tally) : Nat := t.noName + t.unterminatedVariable + t.badCharacter

theorem Tally.failures_add (a b : Tally) : (a + b).failures = a.failures + b.failures := by
  simp only [add_eq, failures]
  omega

/-- A rejection that may be there counts under the label of its kind, if it is, and under no other. -/
theorem rejection_tally (rejection : Option Error) :
    rejection.elim {} Error.tally =
      { noName := rejection.toList.countP Error.isNoName
        unterminatedVariable := rejection.toList.countP Error.isUnterminated
        badCharacter := rejection.toList.countP Error.isBadCharacter } := by
  rcases rejection with _ | e
  · rfl
  · cases e <;> rfl

/-- A rejection that may be there counts as one failure, if it is. -/
theorem rejection_failures (rejection : Option Error) :
    (rejection.elim {} Error.tally).failures = if rejection.isSome then 1 else 0 := by
  rcases rejection with _ | e
  · rfl
  · cases e <;> rfl

/-- The error that ends the listing of variables is that of the substitution that takes note of them. -/
theorem rejection?_names (o : Options) (input : Text) :
    (Answer.names (variableNames o input) : Answer ε).rejection? = rejection? (survey o input).result := by
  rcases h : (survey o input).result with (e | f) | text
  · rw [variableNames_eq_error_iff.mpr h]
    rfl
  · exact f.elim
  · rw [variableNames_eq_ok_iff.mpr ⟨⟨text, h⟩, rfl⟩]
    rfl

/-- A substitution that takes note of names has no value for any of them. -/
theorem Course.values_of_collect {o : Options} {ps done : List Piece} {values : List (Option Text)} {calls : List Text}
    {result : Except (Failure Empty) Text} (h : Course o .collect [] ps done values calls result) :
    values = calls.map fun _ => none := by
  cases h with
  | completes _ h => exact (h.unique (Resolver.collect_answers [] _)).1
  | rejects _ _ h => exact (h.unique (Resolver.collect_answers [] _)).1
  | @fails _ _ _ _ _ _ e _ _ _ => exact e.elim

/-! ## What a collector keeps -/

namespace Collector

theorem collect_append (c : Collector) (xs ys : List Notice) : c.collect (xs ++ ys) = c.collect xs ++ c.collect ys := by
  unfold collect
  split
  · exact List.filter_append _ _
  · rfl

/-- Of notices at one level, a collector keeps all or none. -/
theorem collect_of_level (c : Collector) (level : Nat) {notices : List Notice} (h : ∀ n ∈ notices, n.level = level) :
    c.collect notices = if c.registered ∧ level ≤ c.verbosity then notices else [] := by
  unfold collect
  by_cases hregistered : c.registered = true
  · by_cases hlevel : level ≤ c.verbosity
    · rw [if_pos hregistered, if_pos ⟨hregistered, hlevel⟩, List.filter_eq_self]
      intro n hn
      simpa [h n hn] using hlevel
    · rw [if_pos hregistered, if_neg fun hkept => hlevel hkept.2, List.filter_eq_nil_iff]
      intro n hn
      simpa [h n hn] using hlevel
  · rw [if_neg hregistered, if_neg fun hkept => hregistered hkept.1]

/-- Of what is reported on the course of a substitution, a collector keeps the copies at one verbosity and the rejection at
another. -/
theorem collect_course (c : Collector) (done : List Piece) (rejection : Option Error) :
    c.collect (done.filterMap Piece.notice? ++ rejection.toList.map .rejected) =
      (if c.registered ∧ 9 ≤ c.verbosity then done.filterMap Piece.notice? else []) ++
        if c.registered ∧ 3 ≤ c.verbosity then rejection.toList.map .rejected else [] := by
  rw [collect_append, c.collect_of_level 9, c.collect_of_level 3]
  · intro n hn
    obtain ⟨e, -, rfl⟩ := List.mem_map.mp hn
    rfl
  · intro n hn
    obtain ⟨p, -, hp⟩ := List.mem_filterMap.mp hn
    cases p with
    | malformed m =>
      cases hp
      rfl
    | _ => cases hp

end Collector

namespace Session

/-! ## One step -/

/-- What a step adds to a session and reports, when a substitution under the options took a course: the pieces done, the values
for their names and the names asked for. -/
structure Accounts (o : Options) (s : Session σ) (outcome : Report ε × Session σ) (done : List Piece)
    (values : List (Option Text)) (calls : List Text) : Prop where
  /-- One substitution is counted, the names asked for, the values that are none, the doubled sigils and the malformed
  references that were done, and the rejection, if there is one, under the label of its kind. -/
  counted : outcome.2.tally = s.tally +
    { substitute := 1
      resolve := calls.length
      noValue := values.countP Option.isNone
      escape := done.countP Piece.isEscape
      lenient := done.countP Piece.isMalformed
      noName := outcome.1.answer.rejection?.toList.countP Error.isNoName
      unterminatedVariable := outcome.1.answer.rejection?.toList.countP Error.isUnterminated
      badCharacter := outcome.1.answer.rejection?.toList.countP Error.isBadCharacter }
  /-- The tally reported is the tally after the step. -/
  reported : outcome.1.tally = outcome.2.tally
  /-- While notices are collected, the malformed references that were done are noticed in order, from verbosity 9 on, and then
  the rejection, from verbosity 3 on. -/
  noticed : outcome.1.notices =
    (if s.collector.registered ∧ 9 ≤ s.collector.verbosity then done.filterMap Piece.notice? else []) ++
      if s.collector.registered ∧ 3 ≤ s.collector.verbosity then
        outcome.1.answer.rejection?.toList.map .rejected
      else []
  /-- A rejection is one failure more; without one there is none. -/
  failures : outcome.2.tally.failures = s.tally.failures + if outcome.1.answer.rejection?.isSome then 1 else 0
  /-- Under strict options, no malformed reference is copied. -/
  copies_nothing : o.strict = true → outcome.2.tally.lenient = s.tally.lenient
  /-- Where malformed references are copied, none is rejected. -/
  rejects_nothing : o.strict = false → outcome.1.answer.rejection? = none
  /-- Each value is that of a name asked for. -/
  values_le_calls : values.length ≤ calls.length

/-- A step accounts for the course of a substitution, if it adds up and reports what the substitution does. -/
theorem accounts_of_course {τ δ : Type} {o : Options} {r : Resolver τ δ} {st : τ} {input : Text} {s : Session σ}
    {outcome : Report ε × Session σ} {done : List Piece} {values : List (Option Text)} {calls : List Text}
    {result : Except (Failure δ) Text} (h : Course o r st (pieces o.toForms input) done values calls result)
    (htally : outcome.2.tally = s.tally + (substitute o r st input).tally) (hreported : outcome.1.tally = outcome.2.tally)
    (hnotices : outcome.1.notices = s.collector.collect (substitute o r st input).notices)
    (hanswer : outcome.1.answer.rejection? = rejection? result) : s.Accounts o outcome done values calls := by
  obtain ⟨-, -, hcounted, hnoticed⟩ := substitute_of_course rfl h
  rw [hcounted, ← hanswer] at htally
  rw [hnoticed, ← hanswer, Collector.collect_course] at hnotices
  have hcounts := htally
  simp only [rejection_tally, Tally.add_eq, Nat.add_zero, Nat.zero_add] at hcounts
  refine ⟨hcounts, hreported, hnotices, ?_, ?_, ?_, h.length_values_le⟩
  · rw [htally, Tally.failures_add, Tally.failures_add, rejection_failures]
    exact congrArg _ (Nat.zero_add _)
  · intro hs
    simp only [hcounts, h.countP_isMalformed hs, Nat.add_zero]
  · intro hs
    exact hanswer.trans (h.rejection?_of_lenient hs)

/-- A step that substitutes accounts for the course of its substitution. -/
theorem substitute_accounts (r : Resolver σ ε) (s : Session σ) (input : Text) (options : Option Options) :
    ∃ done values calls result, (s.step r (.substitute input options)).1.answer = .text result calls ∧
      Course (options.getD s.options) r s.state (pieces (options.getD s.options).toForms input) done values calls result ∧
      s.Accounts (options.getD s.options) (s.step r (.substitute input options)) done values calls := by
  obtain ⟨done, values, calls, result, h⟩ :=
    exists_course (options.getD s.options) r s.state (pieces (options.getD s.options).toForms input)
  obtain ⟨rfl, rfl, -⟩ := substitute_of_course rfl h
  exact ⟨done, values, _, _, rfl, h, accounts_of_course h rfl rfl rfl rfl⟩

/-- A step that lists variables accounts for the course of the substitution that takes note of them; no name has a value. -/
theorem names_accounts (r : Resolver σ ε) (s : Session σ) (input : Text) (options : Option Options) :
    ∃ done values calls result,
      (s.step r (.names input options)).1.answer = .names (variableNames (options.getD s.options) input) ∧
      Course (options.getD s.options) .collect [] (pieces (options.getD s.options).toForms input) done values calls result ∧
      values = calls.map (fun _ => none) ∧
      (∀ e, variableNames (options.getD s.options) input = .error e ↔ result = .error (.malformed e)) ∧
      s.Accounts (options.getD s.options) (s.step r (.names input options)) done values calls := by
  obtain ⟨done, values, calls, result, h⟩ :=
    exists_course (options.getD s.options) .collect [] (pieces (options.getD s.options).toForms input)
  obtain ⟨rfl, rfl, -⟩ := substitute_of_course rfl h
  exact ⟨done, values, _, _, rfl, h, h.values_of_collect, fun e => variableNames_eq_error_iff,
    accounts_of_course h rfl rfl rfl (rejection?_names _ input)⟩

/-- Every other step counts nothing and reports nothing. -/
theorem step_counts_nothing (r : Resolver σ ε) (s : Session σ) {step : Step σ} (h : step.substitutes = false) :
    (s.step r step).2.tally = s.tally ∧ (s.step r step).1.tally = s.tally ∧ (s.step r step).1.notices = [] := by
  cases step with
  | substitute input options => cases h
  | names input options => cases h
  | _ => exact ⟨rfl, rfl, rfl⟩

/-! ## Many steps -/

/-- What the tally of a session has gained by some steps with their reports: a substitution for each step that substitutes, and
a failure for each answer that is the error of a malformed reference. -/
structure Balanced (s : Session σ) (steps : List (Step σ)) (reports : List (Report ε)) (s' : Session σ) : Prop where
  substitutions : s'.tally.substitute = s.tally.substitute + steps.countP Step.substitutes
  failures : s'.tally.failures = s.tally.failures + reports.countP (·.answer.rejection?.isSome)
  /-- No more names without a value are added than names. -/
  unvalued : s'.tally.noValue + s.tally.resolve ≤ s'.tally.resolve + s.tally.noValue

theorem Balanced.trans {s₁ s₂ s₃ : Session σ} {xs ys : List (Step σ)} {as bs : List (Report ε)}
    (h : Balanced s₁ xs as s₂) (h' : Balanced s₂ ys bs s₃) : Balanced s₁ (xs ++ ys) (as ++ bs) s₃ := by
  refine ⟨?_, ?_, ?_⟩
  · rw [h'.substitutions, h.substitutions, List.countP_append, Nat.add_assoc]
  · rw [h'.failures, h.failures, List.countP_append, Nat.add_assoc]
  · have := h.unvalued
    have := h'.unvalued
    omega

/-- A step that accounts for the course of a substitution is balanced. -/
theorem Accounts.balanced {o : Options} {s : Session σ} {step : Step σ} {outcome : Report ε × Session σ}
    {done : List Piece} {values : List (Option Text)} {calls : List Text} (h : s.Accounts o outcome done values calls)
    (hstep : step.substitutes = true) : Balanced s [step] [outcome.1] outcome.2 := by
  refine ⟨?_, ?_, ?_⟩
  · simp only [h.counted, Tally.add_eq, List.countP_singleton, hstep, if_true]
  · rw [h.failures, List.countP_singleton]
  · have hvalues := h.values_le_calls
    have hcount := List.countP_le_length (p := Option.isNone) (l := values)
    simp only [h.counted, Tally.add_eq]
    omega

/-- Every step is balanced. -/
theorem step_balanced (r : Resolver σ ε) (s : Session σ) (step : Step σ) :
    Balanced s [step] [(s.step r step).1] (s.step r step).2 := by
  cases step with
  | substitute input options =>
    obtain ⟨done, values, calls, result, -, -, h⟩ := substitute_accounts r s input options
    exact h.balanced rfl
  | names input options =>
    obtain ⟨done, values, calls, result, -, -, -, -, h⟩ := names_accounts r s input options
    exact h.balanced rfl
  | _ => exact ⟨rfl, rfl, Nat.le_of_eq (Nat.add_comm _ _)⟩

/-- Every run of a session is balanced. -/
theorem run_balanced (r : Resolver σ ε) (s : Session σ) (steps : List (Step σ)) :
    Balanced s steps (s.run r steps).1 (s.run r steps).2 := by
  induction steps generalizing s with
  | nil => exact ⟨rfl, rfl, Nat.le_of_eq (Nat.add_comm _ _)⟩
  | cons step steps ih => exact (step_balanced r s step).trans (ih (s.step r step).2)

/-- What a session counts and reports is exactly what happened.
1. A step that substitutes accounts for the course that the substitution takes in its template, with the resolver of the session
   from the state it is in.
2. A step that lists variables accounts for the course of the substitution that takes note of them; all its names are without a
   value.
3. Every other step counts nothing and reports nothing.
4. In a session that began with nothing counted, no more names are counted without a value than were asked for; the failures
   counted are the answers that are errors of malformed references, and the substitutions are the steps of the first two kinds. -/
theorem session_accounts (r : Resolver σ ε) :
    (∀ (s : Session σ) (input : Text) (options : Option Options), ∃ done values calls result,
      (s.step r (.substitute input options)).1.answer = .text result calls ∧
      Course (options.getD s.options) r s.state (pieces (options.getD s.options).toForms input) done values calls result ∧
      s.Accounts (options.getD s.options) (s.step r (.substitute input options)) done values calls) ∧
    (∀ (s : Session σ) (input : Text) (options : Option Options), ∃ done values calls result,
      (s.step r (.names input options)).1.answer = .names (variableNames (options.getD s.options) input) ∧
      Course (options.getD s.options) .collect [] (pieces (options.getD s.options).toForms input) done values calls result ∧
      values = calls.map (fun _ => none) ∧
      (∀ e, variableNames (options.getD s.options) input = .error e ↔ result = .error (.malformed e)) ∧
      s.Accounts (options.getD s.options) (s.step r (.names input options)) done values calls) ∧
    (∀ (s : Session σ) (step : Step σ), step.substitutes = false →
      (s.step r step).2.tally = s.tally ∧ (s.step r step).1.tally = s.tally ∧ (s.step r step).1.notices = []) ∧
    ∀ (s : Session σ) (steps : List (Step σ)), s.tally = {} →
      (s.run r steps).2.tally.noValue ≤ (s.run r steps).2.tally.resolve ∧
      (s.run r steps).2.tally.failures = (s.run r steps).1.countP (·.answer.rejection?.isSome) ∧
      (s.run r steps).2.tally.substitute = steps.countP Step.substitutes := by
  refine ⟨substitute_accounts r, names_accounts r, fun s step h => step_counts_nothing r s h, ?_⟩
  intro s steps hs
  obtain ⟨hsubstitutions, hfailures, hunvalued⟩ := run_balanced r s steps
  rw [hs] at hsubstitutions hfailures hunvalued
  refine ⟨by simpa using hunvalued, ?_, ?_⟩
  · rw [hfailures]
    exact Nat.zero_add _
  · rw [hsubstitutions]
    exact Nat.zero_add _

/-- Four steps: `$A$B$$${}` with the braces copied, a change of the verbosity, the variables of `$A%`, and `${}` with the braces
rejected. Three of them substitute, and two fail. At verbosity 9 the copy is noticed, and at verbosity 3 only the rejection. -/
theorem session_accounts_mixed :
    let s (verbosity : Nat) : Session Nat := { state := 0, collector := { verbosity } }
    let copying : Step Nat := .substitute ['$', 'A', '$', 'B', '$', '$', '$', '{', '}'] (some .lenient)
    let listing : Step Nat := .names ['$', 'A', '%'] none
    let after := ((s 9).run (.ofRule .odd) [copying, .verbosity 3, listing, .substitute ['$', '{', '}'] none]).2
    ((s 9).step (.ofRule .odd) copying).2.tally =
        { substitute := 1, resolve := 2, noValue := 1, escape := 1, lenient := 1 } ∧
      ((s 9).step (.ofRule .odd) copying).1.notices = [.copied ['$', '{', '}']] ∧
      ((s 3).step (.ofRule .odd) copying).1.notices = [] ∧
      ((s 3).step (.ofRule .odd) listing).2.tally =
        { substitute := 1, resolve := 1, noValue := 1, unterminatedVariable := 1 } ∧
      ((s 3).step (.ofRule .odd) listing).1.notices = [.rejected (.unterminatedVariable [])] ∧
      ((s 9).step (.ofRule .odd) (.verbosity 3)).2.tally = {} ∧
      after.tally.noValue ≤ after.tally.resolve ∧ after.tally.failures = 2 ∧ after.tally.substitute = 3 := by
  intro s copying listing after
  obtain ⟨hsubstitutes, hlists, hother, hrun⟩ := session_accounts (.ofRule .odd)
  have hcopying (v : Nat) : ((s v).step (.ofRule .odd) copying).2.tally =
        { substitute := 1, resolve := 2, noValue := 1, escape := 1, lenient := 1 } ∧
      ((s v).step (.ofRule .odd) copying).1.notices = if 9 ≤ v then [.copied ['$', '{', '}']] else [] := by
    let input : Text := ['$', 'A', '$', 'B', '$', '$', '$', '{', '}']
    obtain ⟨done, values, calls, result, hanswer, hcourse, haccounts⟩ := hsubstitutes (s v) input (some .lenient)
    have hresult : result = .ok ['A', '$', '$', '{', '}'] := (Answer.text.inj hanswer).1.symm.trans
      (by decide +kernel : (substitute .lenient (.ofRule .odd) 0 input).result = _)
    obtain ⟨hdone, hcalls, _, h⟩ := hcourse.done_eq fun e => e.elim
    have hdone : done = [.reference (.bare ['A']), .reference (.bare ['B']), .escape .dollar, .malformed .noName] :=
      hdone.trans (by decide +kernel : (pieces {} input).takeWhile (Options.accepts .lenient) = _)
    subst hdone hcalls hresult
    have hanswers : (Resolver.ofRule .odd).Answers 0 [['A'], ['B']] [some ['A'], none] 2 := .cons rfl (.cons rfl (.nil 2))
    obtain ⟨rfl, -⟩ := h.unique hanswers
    refine ⟨haccounts.counted.trans ?_, haccounts.noticed.trans ?_⟩
    · rw [hanswer]
      rfl
    · rw [hanswer]
      simp [s, Answer.rejection?, rejection?, Piece.notice?, Malformed.text, List.filterMap_cons]
  have hlisting : ((s 3).step (.ofRule .odd) listing).2.tally =
        { substitute := 1, resolve := 1, noValue := 1, unterminatedVariable := 1 } ∧
      ((s 3).step (.ofRule .odd) listing).1.notices = [.rejected (.unterminatedVariable [])] := by
    let input : Text := ['$', 'A', '%']
    obtain ⟨done, values, calls, result, hanswer, hcourse, hvalues, hfails, haccounts⟩ := hlists (s 3) input none
    have hnames : variableNames {} input = .error (.unterminatedVariable []) := by decide +kernel
    have hresult : result = .error (.malformed (.unterminatedVariable [])) := (hfails _).mp hnames
    obtain ⟨hdone, hcalls, -⟩ := hcourse.done_eq fun e => e.elim
    have hdone : done = [.reference (.bare ['A'])] :=
      hdone.trans (by decide +kernel : (pieces {} input).takeWhile (Options.accepts {}) = _)
    subst hvalues hcalls hdone
    have hrejection : ((s 3).step (.ofRule .odd) listing).1.answer.rejection? = some (.unterminatedVariable []) :=
      congrArg Answer.rejection? (hanswer.trans (congrArg Answer.names hnames))
    refine ⟨haccounts.counted.trans ?_, haccounts.noticed.trans ?_⟩
    · rw [hrejection]
      rfl
    · rw [hrejection]
      rfl
  obtain ⟨hunvalued, hfailures, hsubstitutions⟩ :=
    hrun (s 9) [copying, .verbosity 3, listing, .substitute ['$', '{', '}'] none] rfl
  refine ⟨(hcopying 9).1, (hcopying 9).2, (hcopying 3).2, hlisting.1, hlisting.2, (hother (s 9) (.verbosity 3) rfl).1,
    hunvalued, hfailures.trans ?_, hsubstitutions⟩
  decide +kernel

end Session

end Template
