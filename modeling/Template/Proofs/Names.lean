import Template.Proofs.Dependencies
import Template.Proofs.Grammar

/-!
# The names that are asked for

Whatever the template and the options, a name that a substitution asks for is one that a process can have a variable of: it is
not empty, and it holds printable ASCII characters other than `=` (`Text.IsName`). Two resolvers that answer such names alike
make the same of every template (`substitute_alike`). So the variables of a process and a map of their values can stand for each
other, whatever the map says of other names (`environment_interchangeable`).
-/

namespace Template

variable {σ τ ε : Type}

/-! ## Names in references -/

/-- A text by which a reference can name a variable. -/
structure Text.IsName (t : Text) : Prop where
  ne_nil : t ≠ []
  chars : ∀ c ∈ t, isPrintable c = true ∧ c ≠ '='

/-- A character that cannot be printed stands in no name. -/
theorem Text.IsName.not_mem {t : Text} (h : t.IsName) {c : Char} (hc : isPrintable c = false) : c ∉ t := by
  intro hmem
  rw [(h.chars c hmem).1] at hc
  cases hc

/-- No `=` stands in a name. -/
theorem Text.IsName.equals_not_mem {t : Text} (h : t.IsName) : '=' ∉ t :=
  fun hmem => (h.chars _ hmem).2 rfl

/-- A name holds characters from U+0020 to U+007E other than `=`. -/
theorem Text.IsName.codes {t : Text} (h : t.IsName) : ∀ c ∈ t, 0x20 ≤ c.toNat ∧ c.toNat ≤ 0x7e ∧ c ≠ '=' := by
  intro c hc
  obtain ⟨hprintable, hequals⟩ := h.chars c hc
  obtain ⟨hlow, hhigh⟩ := isPrintable_iff.mp hprintable
  exact ⟨hlow, hhigh, hequals⟩

/-- A character that a delimited name may hold is printable, and it is not `=`. -/
theorem Delimited.printable_of_isSafe {form : Delimited} {c : Char} (h : form.isSafe c = true) :
    isPrintable c = true ∧ c ≠ '=' := by
  simp only [isSafe, Bool.and_eq_true, bne_iff_ne] at h
  exact ⟨h.1.1, h.2⟩

/-- A reference that fits has a name. -/
theorem Piece.Fits.isName {f : Forms} {ref : Reference} {rest : Text} (h : (Piece.reference ref).Fits f rest) :
    ref.name.IsName := by
  cases h with
  | bare _ hne hname _ =>
    exact ⟨hne, fun c hc => Delimited.braced.printable_of_isSafe (Delimited.isSafe_of_isBare _ (hname c hc))⟩
  | delimited _ hne hname => exact ⟨hne, fun c hc => Delimited.printable_of_isSafe (hname c hc)⟩

/-- What the pieces of a template ask for are names. -/
theorem isName_of_mem_pieces {f : Forms} {input name : Text}
    (h : name ∈ Segment.names ((pieces f input).map Piece.segment)) : name.IsName := by
  obtain ⟨xs, ys, hnames⟩ := List.append_of_mem h
  obtain ⟨before, ref, after, hpieces, -, rfl⟩ := reference_of_names hnames
  exact (fits_of_pieces hpieces).isName

/-- What a template is planned to ask for are names. -/
theorem isName_of_mem_plan {o : Options} {input name : Text} (h : name ∈ (plan o input).names) : name.IsName := by
  have hsublist : (plan o input).names.Sublist (Segment.names ((pieces o.toForms input).map Piece.segment)) :=
    ((List.takeWhile_sublist _).map _).filterMap _
  exact isName_of_mem_pieces (hsublist.subset h)

/-- Every resolver is asked for names only. -/
theorem isName_of_mem_calls {o : Options} {r : Resolver σ ε} {st : σ} {input name : Text}
    (h : name ∈ (substitute o r st input).calls) : name.IsName :=
  isName_of_mem_plan ((calls_prefix_names o r st input).subset h)

/-! ## Resolvers that answer alike -/

/-- Two resolvers, in states that are related, answer a name alike, and their states are related after it. -/
def Resolver.AnswerAlike (R : σ → τ → Prop) (r : Resolver σ ε) (r' : Resolver τ ε) (name : Text) : Prop :=
  ∀ st st', R st st' → (r.ask st name).1 = (r'.ask st' name).1 ∧ R (r.ask st name).2 (r'.ask st' name).2

/-- Two runs that are the same but for the states of their resolvers, which are related. -/
structure Run.Alike (R : σ → τ → Prop) (run : Run σ ε) (run' : Run τ ε) : Prop where
  result : run.result = run'.result
  state : R run.state run'.state
  calls : run.calls = run'.calls
  tally : run.tally = run'.tally
  notices : run.notices = run'.notices

variable {R : σ → τ → Prop} {r : Resolver σ ε} {r' : Resolver τ ε} {st : σ} {st' : τ}

theorem Run.Alike.before {run later : Run σ ε} {run' later' : Run τ ε} (h : run.Alike R run')
    (hlater : later.Alike R later') : (run.before later).Alike R (run'.before later') := by
  cases hr : run.result with
  | error e =>
    rw [before_of_error hr, before_of_error (h.result.symm.trans hr)]
    exact h
  | ok text =>
    rw [before_of_ok hr, before_of_ok (h.result.symm.trans hr)]
    refine ⟨?_, hlater.state, ?_, ?_, ?_⟩
    · simp only [hlater.result]
    · simp only [h.calls, hlater.calls]
    · simp only [h.tally, hlater.tally]
    · simp only [h.notices, hlater.notices]

/-- A name that is answered alike is resolved alike. -/
theorem Run.resolve_alike {name : Text} (h : Resolver.AnswerAlike R r r' name) (hst : R st st') :
    (Run.resolve r st name).Alike R (Run.resolve r' st' name) := by
  have halike := h st st' hst
  unfold Run.resolve
  generalize r.ask st name = answer at halike
  generalize r'.ask st' name = answer' at halike
  obtain ⟨answer, st₁⟩ := answer
  obtain ⟨answer', st₁'⟩ := answer'
  obtain ⟨rfl, hstate⟩ := halike
  rcases answer with e | value | value <;> exact ⟨rfl, hstate, rfl, rfl, rfl⟩

/-- A piece runs alike with resolvers that answer its name alike. -/
theorem Piece.expand_alike {p : Piece} (h : ∀ name ∈ Segment.names [p.segment], Resolver.AnswerAlike R r r' name)
    (o : Options) (column : Nat) (hst : R st st') : (p.expand o r column st).Alike R (p.expand o r' column st') := by
  cases p with
  | reference ref => exact Run.resolve_alike (h ref.name (List.mem_singleton_self _)) hst
  | malformed m =>
    simp only [expand]
    split <;> exact ⟨rfl, hst, rfl, rfl, rfl⟩
  | _ => exact ⟨rfl, hst, rfl, rfl, rfl⟩

/-- Pieces run alike with resolvers that answer their names alike. -/
theorem expand_alike {ps : List Piece}
    (h : ∀ name ∈ Segment.names (ps.map Piece.segment), Resolver.AnswerAlike R r r' name)
    (o : Options) (column : Nat) (hst : R st st') : (expand o r column st ps).Alike R (expand o r' column st' ps) := by
  induction ps generalizing column st st' with
  | nil => exact ⟨rfl, hst, rfl, rfl, rfl⟩
  | cons p ps ih =>
    rw [List.map_cons, ← List.singleton_append, Segment.names_append, List.forall_mem_append] at h
    have hfirst := Piece.expand_alike h.1 o column hst
    rw [expand_cons, expand_cons]
    exact hfirst.before (ih h.2 _ hfirst.state)

/-- Resolvers that answer every name alike make the same of a template. -/
theorem substitute_alike (h : ∀ name : Text, name.IsName → Resolver.AnswerAlike R r r' name) (o : Options) (input : Text)
    (hst : R st st') : (substitute o r st input).Alike R (substitute o r' st' input) := by
  have hpieces : ∀ name ∈ Segment.names ((pieces o.toForms input).map Piece.segment), Resolver.AnswerAlike R r r' name :=
    fun name hname => h name (isName_of_mem_pieces hname)
  have hrun := expand_alike hpieces o 0 hst
  exact ⟨hrun.result, hrun.state, hrun.calls, congrArg (({ substitute := 1 } : Tally) + ·) hrun.tally, hrun.notices⟩

/-! ## The variables of a process, and a map of their values -/

/-- A name passes the guard against texts that no variable of a process can have as its name. -/
theorem Text.IsName.passes {name : Text} (h : name.IsName) :
    (name.isEmpty || name.contains '=' || name.contains '\x00') = false := by
  have hnul : '\x00' ∉ name := h.not_mem (by decide)
  simp [h.ne_nil, h.equals_not_mem, hnul]

/-- The value that a process gives a name is that of its variable, if that is a text. -/
theorem Environment.value?_of_isName (env : Environment) {name : Text} (h : name.IsName) :
    env.value? name = env[name]?.bind Text.decode? := by
  unfold Environment.value?
  rw [h.passes]
  rfl

/-- The variables of a process and a map of their values can stand for each other.
1. Whatever the resolver, what it is asked for is not empty and holds characters from U+0020 to U+007E other than `=`, so it
   passes the guard of the environment.
2. Let a map hold the variables of a process whose values are texts, and say anything of names that no variable can have. Then
   substitution by the process and substitution by the map have the same result, ask for the same names, and count and report the
   same; and they change neither. -/
theorem environment_interchangeable (o : Options) (input : Text) :
    (∀ {σ ε : Type} (r : Resolver σ ε) (st : σ), ∀ name ∈ (substitute o r st input).calls,
      name ≠ [] ∧ (∀ c ∈ name, 0x20 ≤ c.toNat ∧ c.toNat ≤ 0x7e ∧ c ≠ '=') ∧
        (name.isEmpty || name.contains '=' || name.contains '\x00') = false) ∧
    ∀ (env : Environment) (vars : Variables),
      (∀ name : Text, name ≠ [] → '=' ∉ name → '\x00' ∉ name → vars[name]? = env[name]?.bind Text.decode?) →
        (substitute o .environment env input).result = (substitute o .ofVariables vars input).result ∧
        (substitute o .environment env input).calls = (substitute o .ofVariables vars input).calls ∧
        (substitute o .environment env input).tally = (substitute o .ofVariables vars input).tally ∧
        (substitute o .environment env input).notices = (substitute o .ofVariables vars input).notices ∧
        (substitute o .environment env input).state = env ∧ (substitute o .ofVariables vars input).state = vars := by
  refine ⟨?_, ?_⟩
  · intro σ ε r st name hname
    have h := isName_of_mem_calls hname
    exact ⟨h.ne_nil, h.codes, h.passes⟩
  · intro env vars hvars
    -- neither resolver changes its state, so the states stay these two
    have halike : ∀ name : Text, name.IsName → Resolver.AnswerAlike (fun env' vars' => env' = env ∧ vars' = vars)
        .environment .ofVariables name := by
      rintro name hname _ _ ⟨rfl, rfl⟩
      refine ⟨congrArg Except.ok ?_, rfl, rfl⟩
      rw [Environment.value?_of_isName _ hname, hvars name hname.ne_nil hname.equals_not_mem (hname.not_mem (by decide))]
    have h := substitute_alike halike o input ⟨rfl, rfl⟩
    exact ⟨h.result, h.calls, h.tally, h.notices, h.state⟩

/-- A process in which one variable is a text and one is not, and the map of its values, to which entries are added for the empty
name and for a name with `=`. In the template `$A%B%` the two make the same, though they do not answer the empty name alike. -/
theorem environment_interchangeable_added :
    let input : Text := ['$', 'A', '%', 'B', '%']
    let env : Environment := Std.HashMap.ofList [(['A'], "x".toUTF8), (['B'], ⟨#[0xff]⟩)]
    let vars : Variables := ((env.filterMap fun _ bytes => Text.decode? bytes).insert [] ['y']).insert ['A', '='] ['z']
    env.value? [] ≠ vars[([] : Text)]? ∧ (['B'].isEmpty || ['B'].contains '=' || ['B'].contains '\x00') = false ∧
      (substitute {} .environment env input).result = (substitute {} .ofVariables vars input).result ∧
      (substitute {} .environment env input).calls = (substitute {} .ofVariables vars input).calls := by
  intro input env vars
  obtain ⟨hnames, hmaps⟩ := environment_interchangeable {} input
  have hvars : ∀ name : Text, name ≠ [] → '=' ∉ name → '\x00' ∉ name → vars[name]? = env[name]?.bind Text.decode? := by
    intro name hne hequals _
    have hne' : ['A', '='] ≠ name := by
      rintro rfl
      exact hequals (by simp)
    simp [vars, Std.HashMap.getElem?_insert, hne, hne']
  obtain ⟨hresult, hcalls, -⟩ := hmaps env vars hvars
  refine ⟨?_, (hnames .unset () ['B'] (by decide +kernel)).2.2, hresult, hcalls⟩
  simp [vars, Environment.value?]

end Template
