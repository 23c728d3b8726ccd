import Template.Proofs.Joining
import Template.Proofs.Plan
import Template.Resolver.Rule

/-!
# Strict and lenient substitution

Under strict options the first malformed reference ends a substitution; under lenient options it is copied, and the
substitution goes on. Up to there the two do the same: either they are one and the same run, because nothing malformed is
reached, or they part at one malformed reference (`modes_agree_or_part`). The strict run ends with its error, and the lenient
run copies it and goes on with what stands behind (`Run.GoesOn`).
-/

namespace Template

variable {σ ε : Type}

namespace Forms

/-- The forms recognised, and the first malformed reference is a failure. -/
def strictly (f : Forms) : Options := { toForms := f, strict := true }

/-- The forms recognised, and malformed references are copied. -/
def leniently (f : Forms) : Options := { toForms := f, strict := false }

end Forms

/-! ## Where nothing is malformed -/

/-- A run that copies no malformed reference and rejects none. -/
structure Run.Quiet (run : Run σ ε) : Prop where
  copies_nothing : run.tally.lenient = 0
  reports_nothing : run.notices = []
  rejects_nothing : ∀ e, run.result ≠ .error (.malformed e)

theorem Run.Quiet.before {run later : Run σ ε} (h : run.Quiet) (h' : later.Quiet) : (run.before later).Quiet := by
  cases hr : run.result with
  | error e =>
    rw [before_of_error hr]
    exact h
  | ok text =>
    rw [before_of_ok hr]
    refine ⟨?_, ?_, ?_⟩
    · simp only [Tally.add_eq, h.copies_nothing, h'.copies_nothing]
    · simp only [h.reports_nothing, h'.reports_nothing, List.append_nil]
    · intro e he
      cases hl : later.result with
      | error e' =>
        simp only [hl, Except.map, Except.error.injEq] at he
        exact h'.rejects_nothing e (hl.trans (congrArg Except.error he))
      | ok t => simp [hl, Except.map] at he

/-- A piece that is not malformed runs quietly, and alike under all options. -/
theorem Piece.expand_of_not_malformed {p : Piece} (hp : p.isMalformed = false) (o o' : Options) (r : Resolver σ ε)
    (column : Nat) (st : σ) : (p.expand o r column st).Quiet ∧ p.expand o r column st = p.expand o' r column st := by
  cases p with
  | malformed m => cases hp
  | reference ref =>
    refine ⟨?_, rfl⟩
    rcases hask : r.ask st ref.name with ⟨e | value | value, st'⟩ <;>
      exact ⟨by simp [expand, Run.resolve, hask], by simp [expand, Run.resolve, hask], by simp [expand, Run.resolve, hask]⟩
  | _ => exact ⟨⟨rfl, rfl, fun e he => by cases he⟩, rfl⟩

/-- Pieces none of which is malformed run quietly, and alike under all options. -/
theorem expand_of_not_malformed {ps : List Piece} (hps : ∀ p ∈ ps, p.isMalformed = false) (o o' : Options)
    (r : Resolver σ ε) (column : Nat) (st : σ) :
    (expand o r column st ps).Quiet ∧ expand o r column st ps = expand o' r column st ps := by
  induction ps generalizing column st with
  | nil => exact ⟨⟨rfl, rfl, nofun⟩, rfl⟩
  | cons p ps ih =>
    obtain ⟨hp, hrest⟩ := List.forall_mem_cons.mp hps
    obtain ⟨hquiet, hsame⟩ := Piece.expand_of_not_malformed hp o o' r column st
    obtain ⟨hquiet', hsame'⟩ := ih hrest (column + p.text.length) (p.expand o r column st).state
    rw [expand_cons, expand_cons, Run.andThen, Run.andThen, ← hsame, ← hsame']
    exact ⟨hquiet.before hquiet', rfl⟩

/-- A list of pieces begins with some that are not malformed, and behind them it ends or a malformed reference stands. -/
theorem exists_wellFormed_prefix (ps : List Piece) :
    ∃ before rest, ps = before ++ rest ∧ (∀ p ∈ before, p.isMalformed = false) ∧
      (rest = [] ∨ ∃ m after, rest = .malformed m :: after) := by
  rcases rejected_or_accepted {} ps with ⟨before, m, after, -, hsplit, hbefore⟩ | hall
  · refine ⟨before, .malformed m :: after, hsplit, ?_, Or.inr ⟨m, after, rfl⟩⟩
    intro p hp
    simpa [Options.accepts] using hbefore p hp
  · refine ⟨ps, [], (List.append_nil ps).symm, ?_, Or.inl rfl⟩
    intro p hp
    simpa [Options.accepts] using hall p hp

theorem substitute_quiet {o : Options} {r : Resolver σ ε} {st : σ} {input : Text}
    (h : (expand o r 0 st (pieces o.toForms input)).Quiet) : (substitute o r st input).Quiet := by
  refine ⟨?_, h.reports_nothing, h.rejects_nothing⟩
  simp only [substitute, Tally.add_eq, h.copies_nothing]

/-! ## Where the two part -/

/-- A run goes on where another one ended: it copies a text behind what was done, and then does what a later run does. -/
structure Run.GoesOn (run ended : Run σ ε) (done text : Text) (later : Run σ ε) : Prop where
  /-- It produces what was done, the text as it is, and what the later run produces; or it fails as that one does. -/
  result : run.result = later.result.map (done ++ text ++ ·)
  calls : run.calls = ended.calls ++ later.calls
  state : run.state = later.state
  /-- The copy is reported before anything else. -/
  notices : run.notices = .copied text :: later.notices
  copies : run.tally.lenient = later.tally.lenient + 1

/-- A rejection behind a run that produces a text ends it, and it asks for nothing more. -/
theorem Run.before_reject {run : Run σ ε} {done : Text} (hdone : run.result = .ok done) (e : Error) :
    (run.before (reject e run.state)).result = .error (.malformed e) ∧
      (run.before (reject e run.state)).calls = run.calls ∧ (run.before (reject e run.state)).state = run.state := by
  rw [before_of_ok hdone]
  exact ⟨rfl, List.append_nil _, rfl⟩

/-- A quiet run, with a copy and a later run behind it, goes on where the same run ended with a rejection behind it. -/
theorem Run.Quiet.goesOn {run : Run σ ε} (h : run.Quiet) {done : Text} (hdone : run.result = .ok done) (text : Text)
    (e : Error) (later : Run σ ε) :
    (run.before ((copy text run.state).before later)).GoesOn (run.before (reject e run.state)) done text later := by
  have hcopy : (copy text run.state : Run σ ε).result = .ok text := rfl
  have hcalls := (before_reject hdone e).2.1
  rw [before_of_ok hdone ((copy text run.state).before later), before_of_ok hcopy]
  refine ⟨?_, ?_, rfl, ?_, ?_⟩
  · cases later.result <;> simp [Except.map]
  · simp [copy, hcalls]
  · simp [copy, h.reports_nothing]
  · simp [copy, Tally.add_eq, h.copies_nothing, Nat.add_comm]

theorem substitute_goesOn {o o' : Options} {r : Resolver σ ε} {st st' : σ} {input rest done text : Text}
    (h : (expand o r 0 st (pieces o.toForms input)).GoesOn (expand o' r 0 st (pieces o'.toForms input)) done text
      (expand o r 0 st' (pieces o.toForms rest))) :
    (substitute o r st input).GoesOn (substitute o' r st input) done text (substitute o r st' rest) := by
  refine ⟨h.result, h.calls, h.state, h.notices, ?_⟩
  simp only [substitute, Tally.add_eq, h.copies, Nat.add_assoc]

/-- Where malformed references are copied, it does not matter at which column the pieces start. -/
theorem expand_at_any_column {o : Options} (hs : o.strict = false) (r : Resolver σ ε) (column column' : Nat) (st : σ)
    (ps : List Piece) : expand o r column st ps = expand o r column' st ps := by
  induction ps generalizing column column' st with
  | nil => rfl
  | cons p ps ih =>
    have hp : p.expand o r column st = p.expand o r column' st := by
      cases p with
      | malformed m => simp only [Piece.expand, hs, Bool.false_eq_true, if_false]
      | _ => rfl
    simp only [expand_cons, hp, Run.andThen]
    rw [ih]

/-- A strict run is ended by a malformed reference behind the pieces that it does. -/
theorem expand_rejected (f : Forms) (r : Resolver σ ε) (st : σ) (before : List Piece) (m : Malformed) (after : List Piece) :
    expand f.strictly r 0 st (before ++ .malformed m :: after) =
      (expand f.strictly r 0 st before).andThen (.reject (m.errorAt (before.flatMap Piece.text).length)) := by
  have hreject (column : Nat) (st : σ) :
      expand f.strictly r column st (.malformed m :: after) = .reject (m.errorAt column) st := by
    rw [expand_cons]
    exact Run.before_of_error rfl _
  simp only [expand_append, hreject, Nat.zero_add]

/-- A lenient run copies a malformed reference behind the pieces that it does, and goes on as if it began there. -/
theorem expand_copied (f : Forms) (r : Resolver σ ε) (st : σ) (before : List Piece) (m : Malformed) (after : List Piece) :
    expand f.leniently r 0 st (before ++ .malformed m :: after) =
      (expand f.leniently r 0 st before).andThen fun st =>
        (Run.copy m.text st).andThen fun st => expand f.leniently r 0 st after := by
  simp only [expand_append, expand_cons, expand_at_any_column (o := f.leniently) rfl r _ 0]
  rfl

/-- Behind pieces that produce a text, a malformed reference ends the strict run, and the lenient run goes on. -/
theorem part_at_malformed {f : Forms} {r : Resolver σ ε} {st : σ} {input done : Text} {before after : List Piece}
    {m : Malformed} (hpieces : pieces f input = before ++ .malformed m :: after)
    (hwell : ∀ p ∈ before, p.isMalformed = false) (hdone : (expand f.strictly r 0 st before).result = .ok done) :
    let strict := substitute f.strictly r st input
    let first := substitute f.strictly r st (before.flatMap Piece.text)
    first.result = .ok done ∧
      strict.result = .error (.malformed (m.errorAt (before.flatMap Piece.text).length)) ∧
      strict.calls = first.calls ∧ strict.state = first.state ∧
      (substitute f.leniently r st input).GoesOn strict done m.text
        (substitute f.leniently r strict.state (after.flatMap Piece.text)) := by
  intro strict first
  obtain ⟨hquiet, hsame⟩ := expand_of_not_malformed hwell f.strictly f.leniently r 0 st
  have hfirst : expand f.strictly r 0 st (pieces f.strictly.toForms (before.flatMap Piece.text)) =
      expand f.strictly r 0 st before := congrArg _ (pieces_of_append hpieces)
  have hstrict : expand f.strictly r 0 st (pieces f.strictly.toForms input) = _ :=
    (congrArg _ hpieces).trans (expand_rejected f r st before m after)
  have hlenient : expand f.leniently r 0 st (pieces f.leniently.toForms input) = _ :=
    (congrArg _ hpieces).trans (expand_copied f r st before m after)
  have hlater (st : σ) : expand f.leniently r 0 st (pieces f.leniently.toForms (after.flatMap Piece.text)) =
      expand f.leniently r 0 st after := congrArg _ (pieces_of_append_right (List.append_cons _ _ _ ▸ hpieces))
  -- up to the malformed reference, both runs are this one
  rw [← hsame] at hlenient
  generalize expand f.strictly r 0 st before = run at hquiet hsame hdone hfirst hstrict hlenient
  obtain ⟨hresult, hcalls, hstate⟩ := Run.before_reject hdone (m.errorAt (before.flatMap Piece.text).length)
  have hcalls : strict.calls = run.calls := (congrArg Run.calls hstrict).trans hcalls
  have hstate : strict.state = run.state := (congrArg Run.state hstrict).trans hstate
  refine ⟨(congrArg Run.result hfirst).trans hdone, (congrArg Run.result hstrict).trans hresult,
    hcalls.trans (congrArg Run.calls hfirst).symm, hstate.trans (congrArg Run.state hfirst).symm, ?_⟩
  rw [hstate]
  apply substitute_goesOn
  rw [hlenient, hstrict, hlater]
  exact hquiet.goesOn hdone m.text _ _

/-- The strict and the lenient run are the same, and neither copies nor rejects anything; or they part at a malformed
reference, which the one rejects and the other copies, to go on with what stands behind. -/
theorem modes_agree_or_part (f : Forms) (r : Resolver σ ε) (st : σ) (input : Text) :
    let strict := substitute f.strictly r st input
    let lenient := substitute f.leniently r st input
    (strict = lenient ∧ lenient.Quiet) ∨
    ∃ before m after done, pieces f input = before ++ .malformed m :: after ∧
      (substitute f.strictly r st (before.flatMap Piece.text)).result = .ok done ∧
      strict.result = .error (.malformed (m.errorAt (before.flatMap Piece.text).length)) ∧
      strict.calls = (substitute f.strictly r st (before.flatMap Piece.text)).calls ∧
      strict.state = (substitute f.strictly r st (before.flatMap Piece.text)).state ∧
      lenient.GoesOn strict done m.text (substitute f.leniently r strict.state (after.flatMap Piece.text)) := by
  intro strict lenient
  obtain ⟨before, rest, hpieces, hwell, hrest⟩ := exists_wellFormed_prefix (pieces f input)
  obtain ⟨hquiet, hsame⟩ := expand_of_not_malformed hwell f.strictly f.leniently r 0 st
  -- the two agree where both are the run of what stands in front
  have hagree (h : expand f.strictly r 0 st (before ++ rest) = expand f.strictly r 0 st before)
      (h' : expand f.leniently r 0 st (before ++ rest) = expand f.leniently r 0 st before) :
      strict = lenient ∧ lenient.Quiet := by
    rw [← hpieces] at h h'
    refine ⟨?_, substitute_quiet (o := f.leniently) (h'.trans hsame.symm ▸ hquiet)⟩
    have hrun := h.trans (hsame.trans h'.symm)
    simp only [strict, lenient, substitute, Forms.strictly, Forms.leniently] at hrun ⊢
    rw [hrun]
  rcases hrest with rfl | ⟨m, after, rfl⟩
  · rw [List.append_nil] at hagree
    exact Or.inl (hagree rfl rfl)
  · cases hresult : (expand f.strictly r 0 st before).result with
    | error e =>
      refine Or.inl (hagree ?_ ?_)
      · rw [expand_append, Run.andThen, Run.before_of_error hresult]
      · rw [expand_append, Run.andThen, Run.before_of_error (hsame ▸ hresult)]
    | ok done =>
      exact Or.inr ⟨before, m, after, done, hpieces, part_at_malformed hpieces hwell hresult⟩

/-- Where malformed references are copied, none is the result. -/
theorem lenient_rejects_nothing (f : Forms) (r : Resolver σ ε) (st : σ) (input : Text) (e : Error) :
    (substitute f.leniently r st input).result ≠ .error (.malformed e) := by
  rcases plan_cases f.leniently input with ⟨-, hplan⟩ | ⟨_, _, _, hs, -⟩
  · rcases Resolver.answers_or_fails r st (plan f.leniently input).names with
      ⟨values, st', h⟩ | ⟨xs, name, ys, values, st₁, e', st₂, hnames, h, hask⟩
    · rw [(substitute_of_answers h).2.2, hplan]
      nofun
    · rw [(substitute_of_failure hnames h hask).2.2]
      nofun
  · cases hs

/-- Strict and lenient substitution simulate each other up to the first malformed reference.
1. If the strict run succeeds, the lenient run does the same, and nothing is copied.
2. If the strict run ends with a failure of the resolver, the lenient run ends with it too, after the same calls.
3. If the strict run ends with the error of a malformed reference, the lenient run asks at least for the same names, copies
   something, and what it copies first is the part of the template that the error rejects. What stands before that part is
   accepted and was done by the strict run; the lenient run goes on behind it. It produces what stands before with its values, the
   part itself, and what it produces of the rest as a template of its own, with the resolver in the state in which the strict run
   left it; or it fails as that does.
4. If the lenient run copies nothing, the strict run does the same.
5. The lenient run never ends with the error of a malformed reference, and it copies nothing exactly when the strict run does
   not end with one. -/
theorem strict_lenient_simulation (f : Forms) (r : Resolver σ ε) (st : σ) (input : Text) :
    let strict := substitute f.strictly r st input
    let lenient := substitute f.leniently r st input
    (∀ text, strict.result = .ok text → lenient.result = .ok text ∧ lenient.calls = strict.calls ∧
      lenient.state = strict.state ∧ lenient.tally = strict.tally ∧ strict.tally.lenient = 0 ∧
      lenient.tally.lenient = 0) ∧
    (∀ e, strict.result = .error (.resolver e) → lenient.result = .error (.resolver e) ∧ lenient.calls = strict.calls ∧
      lenient.state = strict.state) ∧
    (∀ e, strict.result = .error (.malformed e) → strict.calls <+: lenient.calls ∧ 0 < lenient.tally.lenient ∧
      ∃ before text after done, input = before ++ text ++ after ∧ e.Rejects f before.length text ∧
        lenient.notices.head? = some (.copied text) ∧
        (substitute f.strictly r st before).result = .ok done ∧
        strict.calls = (substitute f.strictly r st before).calls ∧
        strict.state = (substitute f.strictly r st before).state ∧
        lenient.GoesOn strict done text (substitute f.leniently r strict.state after)) ∧
    (lenient.tally.lenient = 0 → strict.result = lenient.result ∧ strict.calls = lenient.calls ∧
      strict.state = lenient.state) ∧
    (∀ e, lenient.result ≠ .error (.malformed e)) ∧
    (lenient.tally.lenient = 0 ↔ ∀ e, strict.result ≠ .error (.malformed e)) := by
  intro strict lenient
  have htotal : ∀ e, lenient.result ≠ .error (.malformed e) := lenient_rejects_nothing f r st input
  rcases modes_agree_or_part f r st input with
    ⟨hsame, hquiet⟩ | ⟨before, m, after, done, hpieces, hdone, hresult, hcalls, hstate, hgoes⟩
  · have hsame : strict = lenient := hsame
    rw [hsame]
    refine ⟨?_, fun e h => ⟨h, rfl, rfl⟩, fun e h => absurd h (htotal e), fun _ => ⟨rfl, rfl, rfl⟩, htotal, ?_⟩
    · intro text h
      exact ⟨h, rfl, rfl, rfl, hquiet.copies_nothing, hquiet.copies_nothing⟩
    · exact ⟨fun _ => htotal, fun _ => hquiet.copies_nothing⟩
  · have hcopies : 0 < lenient.tally.lenient := by
      rw [hgoes.copies]
      exact Nat.succ_pos _
    have hinput : input = before.flatMap Piece.text ++ m.text ++ after.flatMap Piece.text := by
      rw [List.append_assoc]
      exact text_of_malformed hpieces
    refine ⟨?_, ?_, ?_, fun h => absurd h (Nat.ne_of_gt hcopies), htotal, ?_⟩
    · intro text h
      cases hresult.symm.trans h
    · intro e h
      cases hresult.symm.trans h
    · intro e h
      obtain rfl : m.errorAt (before.flatMap Piece.text).length = e := by
        cases hresult.symm.trans h
        rfl
      refine ⟨hgoes.calls ▸ List.prefix_append _ _, hcopies, _, m.text, _, done, hinput,
        m.rejects_errorAt _ (fits_of_pieces hpieces), ?_, hdone, hcalls, hstate, hgoes⟩
      rw [hgoes.notices, List.head?_cons]
    · exact ⟨fun h => absurd h (Nat.ne_of_gt hcopies), fun h => absurd hresult (h _)⟩

/-- The four ways in which the two runs go: the template `$A-%%` has nothing malformed, in `$A%B%${}` a name is refused before
the braces, and in `$A${}%B` the braces come first. They are copied behind the value of `A`, and then what is behind them, which
is malformed too. -/
theorem strict_lenient_simulation_braces :
    let f : Forms := {}
    let refused : GuardedRule := { rule := .identity, deny := [['B']] }
    let lenient := substitute f.leniently (.ofRule .odd) 0 ['$', 'A', '$', '{', '}', '%', 'B']
    (substitute f.leniently (.ofRule .odd) 0 ['$', 'A', '-', '%', '%']).result = .ok ['A', '-', '%'] ∧
      (substitute f.strictly (.ofRule .odd) 0 ['$', 'A', '-', '%', '%']).calls =
        (substitute f.leniently (.ofRule .odd) 0 ['$', 'A', '-', '%', '%']).calls ∧
      (substitute f.leniently (.ofGuardedRule refused) 0 ['$', 'A', '%', 'B', '%', '$', '{', '}']).result =
        .error (.resolver (.name ['B'])) ∧
      lenient.result = .ok ['A', '$', '{', '}', '%', 'B'] ∧
      lenient.notices = [.copied ['$', '{', '}'], .copied ['%', 'B']] := by
  intro f refused lenient
  refine ⟨?_, ?_, ?_, ?_⟩
  · exact ((strict_lenient_simulation f (.ofRule .odd) 0 _).1 _ (by decide +kernel)).1
  · exact ((strict_lenient_simulation f (.ofRule .odd) 0 _).2.2.2.1 (by decide +kernel)).2.1
  · exact ((strict_lenient_simulation f (.ofGuardedRule refused) 0 _).2.1 _ (by decide +kernel)).1
  · have hresult : (substitute f.strictly (.ofRule .odd) 0 ['$', 'A', '$', '{', '}', '%', 'B']).result =
        .error (.malformed (.noName 3)) := by decide +kernel
    have hfirst : (substitute f.strictly (.ofRule .odd) 0 ['$', 'A']).result = .ok ['A'] := by decide +kernel
    obtain ⟨-, -, before, text, after, done, hinput, ⟨-, rfl, hcolumn⟩, -, hdone, -, -, hgoes⟩ :=
      (strict_lenient_simulation f (.ofRule .odd) 0 _).2.2.1 _ hresult
    -- the column says how much stands before the braces
    have hsplit : ['$', 'A'] ++ ['$', '{', '}', '%', 'B'] = before ++ (['$', '{', '}'] ++ after) := by
      rw [← List.append_assoc]
      exact hinput
    obtain ⟨rfl, hrest⟩ := List.append_inj hsplit (Nat.succ.inj hcolumn)
    cases hrest
    cases hfirst.symm.trans hdone
    refine ⟨?_, ?_⟩
    · rw [hgoes.result]
      decide +kernel
    · rw [hgoes.notices]
      decide +kernel

end Template
