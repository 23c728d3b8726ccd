import Template.Proofs.Concatenation
import Template.Proofs.Course

/-!
# Substitution in stages

In a first stage, the names whose values are known get them, and the other references are only rewritten to the braced form
(`Resolver.braced`). In a second stage, a resolver is asked for what is left. Where the values known hold no sigil, no sigil was
doubled in the template and every name can stand in braces, the first stage leaves each piece of the template to be read again
as what it was (`pieces_staged`). So the two stages together do what one substitution does in which the values known stand in
front of the answers of the resolver (`substitute_staged`).
-/

namespace Template

variable {σ ε : Type}

namespace Resolver

/-- Values that are known, in front of the answers of a resolver: it is asked for the other names only. -/
def prefer (known : Text → Option Text) (r : Resolver σ ε) : Resolver σ ε where
  ask st name :=
    match known name with
    | some value => (.ok (some value), st)
    | none => r.ask st name

/-- Every name has as its value the braced reference to it. -/
def braced : Resolver Unit Empty where
  ask st name := (.ok (some (Reference.delimited .braced name).text), st)

variable {known : Text → Option Text} {r : Resolver σ ε} {name : Text}

theorem prefer_ask_of_some {value : Text} (h : known name = some value) (st : σ) :
    (prefer known r).ask st name = (.ok (some value), st) := by
  simp only [prefer, h]

theorem prefer_ask_of_none (h : known name = none) (st : σ) : (prefer known r).ask st name = r.ask st name := by
  simp only [prefer, h]

/-- Values that are known twice are known. -/
theorem prefer_prefer (known : Text → Option Text) (r : Resolver σ ε) : prefer known (prefer known r) = prefer known r := by
  simp only [prefer]
  congr 1
  funext st name
  cases known name <;> rfl

/-- Where no value is known, the resolver is asked for every name. -/
theorem prefer_of_none (h : ∀ name, known name = none) (r : Resolver σ ε) : prefer known r = r := by
  unfold prefer
  simp only [h]

/-- With values in front of it, a resolver that never fails does not fail either. -/
theorem NeverFails.prefer (h : r.NeverFails) (known : Text → Option Text) : (prefer known r).NeverFails := by
  intro st name
  cases hname : known name with
  | some value => exact ⟨some value, st, prefer_ask_of_some hname st⟩
  | none =>
    obtain ⟨value, st', hask⟩ := h st name
    exact ⟨value, st', (prefer_ask_of_none hname st).trans hask⟩

end Resolver

/-! ## What becomes of a piece in the first stage -/

/-- The pieces that a piece becomes when the values known are put in and every other reference is written in braces. -/
def Piece.staged (known : Text → Option Text) : Piece → List Piece
  | reference r =>
    match known r.name with
    | some value => value.map plain
    | none => [reference (.delimited .braced r.name)]
  | p => [p]

namespace Piece

theorem staged_of_some {known : Text → Option Text} {ref : Reference} {value : Text} (h : known ref.name = some value) :
    (reference ref).staged known = value.map plain := by
  simp only [staged, h]

theorem staged_of_none {known : Text → Option Text} {ref : Reference} (h : known ref.name = none) :
    (reference ref).staged known = [reference (.delimited .braced ref.name)] := by
  simp only [staged, h]

/-- The text of characters that stand for themselves. -/
theorem text_plains (t : Text) : (t.map plain).flatMap text = t := by
  induction t with
  | nil => rfl
  | cons c t ih => rw [List.map_cons, List.flatMap_cons, ih]; rfl

end Piece

/-! ## The second stage does the rest of the whole -/

/-- A run that does what another does, except that of the names which that one asks for, it asks for these only. -/
structure Run.Residual (asked : Text → Bool) (run whole : Run σ ε) : Prop where
  result : run.result = whole.result
  state : run.state = whole.state
  calls : run.calls = whole.calls.filter asked
  notices : run.notices = whole.notices

theorem Run.Residual.before {asked : Text → Bool} {run whole later laterWhole : Run σ ε} (h : run.Residual asked whole)
    (h' : later.Residual asked laterWhole) : (run.before later).Residual asked (whole.before laterWhole) := by
  cases hr : run.result with
  | error e =>
    rw [before_of_error hr, before_of_error (h.result.symm.trans hr)]
    exact h
  | ok text =>
    rw [before_of_ok hr, before_of_ok (h.result.symm.trans hr)]
    refine ⟨?_, h'.state, ?_, ?_⟩
    · simp only [h'.result]
    · simp only [h.calls, h'.calls, List.filter_append]
    · simp only [h.notices, h'.notices]

/-- The name that is to be resolved is the one asked for. -/
theorem Run.calls_resolve (r : Resolver σ ε) (st : σ) (name : Text) : (resolve r st name).calls = [name] := by
  unfold resolve
  rcases r.ask st name with ⟨e | value | value, st'⟩ <;> rfl

/-- Characters that stand for themselves are produced. -/
theorem expand_plains (o : Options) (r : Resolver σ ε) (column : Nat) (st : σ) (t : Text) :
    expand o r column st (t.map .plain) = .produce t st := by
  induction t generalizing column with
  | nil => rfl
  | cons c t ih =>
    have hc : (Piece.plain c).expand o r column st = .produce [c] st := rfl
    have hstate : (Run.produce [c] st : Run σ ε).state = st := rfl
    rw [List.map_cons, expand_cons, hc, Run.andThen, hstate, ih, Run.produce_before_produce]
    rfl

variable {o : Options}

/-- What a piece becomes runs like the piece does with the values known, but for the names that they are known for. -/
theorem Piece.expand_staged {p : Piece} (hp : o.accepts p = true) (known : Text → Option Text) (r : Resolver σ ε)
    (column column' : Nat) (st : σ) :
    (Template.expand o r column st (p.staged known)).Residual (fun name => (known name).isNone)
      (p.expand o (.prefer known r) column' st) := by
  cases p with
  | reference ref =>
    cases hname : known ref.name with
    | some value =>
      rw [staged_of_some hname, expand_plains]
      simp only [expand, Run.resolve, Resolver.prefer_ask_of_some hname]
      exact ⟨rfl, rfl, by simp [Run.produce, hname], rfl⟩
    | none =>
      have hsame : Run.resolve (.prefer known r) st ref.name = .resolve r st ref.name := by
        simp only [Run.resolve, Resolver.prefer_ask_of_none hname]
      rw [staged_of_none hname, expand_singleton]
      change (Run.resolve r st ref.name).Residual _ (Run.resolve (.prefer known r) st ref.name)
      rw [hsame]
      refine ⟨rfl, rfl, ?_, rfl⟩
      simp [Run.calls_resolve, hname]
  | malformed m =>
    have hs : o.strict = false := by simpa [Options.accepts, isMalformed] using hp
    simp only [staged, expand_singleton, expand, hs]
    exact ⟨rfl, rfl, rfl, rfl⟩
  | _ =>
    simp only [staged, expand_singleton]
    exact ⟨rfl, rfl, rfl, rfl⟩

/-- What pieces become runs like the pieces do with the values known, but for the names that they are known for. -/
theorem expand_staged {ps : List Piece} (hps : ∀ p ∈ ps, o.accepts p = true) (known : Text → Option Text)
    (r : Resolver σ ε) (column column' : Nat) (st : σ) :
    (expand o r column st (ps.flatMap (Piece.staged known))).Residual (fun name => (known name).isNone)
      (expand o (.prefer known r) column' st ps) := by
  induction ps generalizing column column' st with
  | nil => exact ⟨rfl, rfl, rfl, rfl⟩
  | cons p ps ih =>
    obtain ⟨hp, hrest⟩ := List.forall_mem_cons.mp hps
    have hfirst := p.expand_staged hp known r column column' st
    rw [List.flatMap_cons, expand_append, expand_cons, Run.andThen, Run.andThen, ← hfirst.state]
    exact hfirst.before (ih hrest _ _ _)

/-! ## The first stage writes what the second stage reads -/

/-- What the first stage makes of a piece, other than a doubled sigil, is the text of what it becomes. -/
theorem Piece.result_braced {p : Piece} (hp : o.accepts p = true) (hescape : p.isEscape = false)
    (known : Text → Option Text) (column : Nat) :
    (p.expand o (.prefer known .braced) column ()).result = .ok ((p.staged known).flatMap text) := by
  cases p with
  | escape s => cases hescape
  | reference ref =>
    cases hname : known ref.name with
    | some value =>
      rw [staged_of_some hname, text_plains]
      simp only [expand, Run.resolve, Resolver.prefer_ask_of_some hname]
    | none =>
      rw [staged_of_none hname]
      simp only [expand, Run.resolve, Resolver.prefer_ask_of_none hname, Resolver.braced, List.flatMap_cons, text,
        List.flatMap_nil, List.append_nil]
  | malformed m =>
    have hs : o.strict = false := by simpa [Options.accepts, isMalformed] using hp
    simp [expand, hs, Run.copy, staged, text]
  | _ => simp [expand, Run.produce, staged, text]

/-- What the first stage makes of pieces without doubled sigils is the text of what they become. -/
theorem result_braced {ps : List Piece} (hps : ∀ p ∈ ps, o.accepts p = true) (hescape : ∀ p ∈ ps, p.isEscape = false)
    (known : Text → Option Text) (column : Nat) :
    (expand o (.prefer known .braced) column () ps).result =
      .ok ((ps.flatMap (Piece.staged known)).flatMap Piece.text) := by
  induction ps generalizing column with
  | nil => rfl
  | cons p ps ih =>
    obtain ⟨hp, hrest⟩ := List.forall_mem_cons.mp hps
    obtain ⟨hpe, hrestEscape⟩ := List.forall_mem_cons.mp hescape
    rw [expand_cons, Run.andThen, Run.before_of_ok (Piece.result_braced hp hpe known column), ih hrest hrestEscape,
      List.flatMap_cons, List.flatMap_append]
    rfl

variable {f : Forms} {known : Text → Option Text}

/-- The name of a reference that fits can stand in braces, if it holds no closing one. -/
theorem Piece.Fits.braced_name {ref : Reference} {rest : Text} (h : (reference ref).Fits f rest) (hname : '}' ∉ ref.name) :
    ref.name ≠ [] ∧ ∀ c ∈ ref.name, Delimited.braced.isSafe c = true := by
  cases h with
  | bare _ hne hbare _ => exact ⟨hne, fun c hc => Delimited.braced.isSafe_of_isBare (hbare c hc)⟩
  | delimited _ hne hsafe =>
    refine ⟨hne, fun c hc => Delimited.isSafe_braced (hsafe c hc) ?_⟩
    rintro rfl
    exact hname hc

/-- Characters that are no sigils are grammatical in front of pieces that are. -/
theorem Grammatical.plains {ps : List Piece} (h : Grammatical f ps) {t : Text} (ht : ∀ c ∈ t, f.sigil? c = none) :
    Grammatical f (t.map .plain ++ ps) := by
  induction t with
  | nil => exact h
  | cons c t ih =>
    obtain ⟨hc, hrest⟩ := List.forall_mem_cons.mp ht
    exact .cons (.plain hc) (ih hrest)

/-- A piece that is no reference fits before what the pieces behind it become. -/
theorem Piece.Fits.before_staged {p : Piece} {ps : List Piece} (h : p.Fits f (ps.flatMap text))
    (hp : ∀ ref, p ≠ .reference ref) : p.Fits f ((ps.flatMap (staged known)).flatMap text) := by
  cases ps with
  | nil => exact h
  | cons q ps =>
    have hne : (q :: ps).flatMap text ≠ [] := by
      rw [List.flatMap_cons]
      exact List.append_ne_nil_of_left_ne_nil q.text_ne_nil _
    refine h.before ?_ ?_
    · intro hfinal
      exact absurd (h.rest_eq_nil hfinal) hne
    · intro name hname
      exact absurd hname (hp _)

/-- What grammatical pieces become is grammatical, if no sigil is doubled, every name can stand in braces, and the values known
hold no sigils. -/
theorem grammatical_staged (hdollar : f.dollar = true)
    (hknown : ∀ name value, known name = some value → ∀ c ∈ value, f.sigil? c = none) {ps : List Piece}
    (h : Grammatical f ps) (hescape : ∀ p ∈ ps, p.isEscape = false)
    (hnames : ∀ name ∈ Segment.names (ps.map Piece.segment), '}' ∉ name) :
    Grammatical f (ps.flatMap (Piece.staged known)) := by
  induction h with
  | nil => exact .nil
  | @cons p ps hp _ ih =>
    obtain ⟨hpe, hrestEscape⟩ := List.forall_mem_cons.mp hescape
    have hrest : ∀ name ∈ Segment.names (ps.map Piece.segment), '}' ∉ name := by
      intro name hname
      refine hnames name ?_
      rw [List.map_cons, ← List.singleton_append, Segment.names_append]
      exact List.mem_append_right _ hname
    have ih := ih hrestEscape hrest
    rw [List.flatMap_cons]
    cases p with
    | reference ref =>
      cases hname : known ref.name with
      | some value =>
        rw [Piece.staged_of_some hname]
        exact ih.plains (hknown _ _ hname)
      | none =>
        rw [Piece.staged_of_none hname]
        obtain ⟨hne, hsafe⟩ := hp.braced_name (hnames ref.name List.mem_cons_self)
        exact .cons (.delimited hdollar hne hsafe) ih
    | escape s => cases hpe
    | _ => exact .cons (hp.before_staged nofun) ih

/-- A character other than the two sigils is no sigil of a form recognised. -/
theorem Forms.sigil?_eq_none (f : Forms) {c : Char} (hdollar : c ≠ '$') (hpercent : c ≠ '%') : f.sigil? c = none := by
  simp [sigil?, hdollar, hpercent]

/-- The pieces of the text of what the pieces of a template become are just these. -/
theorem pieces_staged (hdollar : f.dollar = true)
    (hknown : ∀ name value, known name = some value → '$' ∉ value ∧ '%' ∉ value) {s : Text}
    (hescape : ∀ p ∈ pieces f s, p.isEscape = false)
    (hnames : ∀ name ∈ Segment.names ((pieces f s).map Piece.segment), '}' ∉ name) :
    pieces f (((pieces f s).flatMap (Piece.staged known)).flatMap Piece.text) =
      (pieces f s).flatMap (Piece.staged known) := by
  refine pieces_of_grammatical (grammatical_staged hdollar ?_ (grammatical_pieces f s) hescape hnames)
  intro name value hvalue c hc
  obtain ⟨hd, hp⟩ := hknown name value hvalue
  refine f.sigil?_eq_none ?_ ?_
  · rintro rfl
    exact hd hc
  · rintro rfl
    exact hp hc

/-! ## The two stages and the whole -/

/-- Where substitution produces a text, every piece is accepted. -/
theorem accepts_of_ok {r : Resolver σ ε} {st : σ} {input text : Text} (h : (substitute o r st input).result = .ok text) :
    ∀ p ∈ pieces o.toForms input, o.accepts p = true := by
  obtain ⟨done, values, calls, result, hcourse⟩ := exists_course o r st (pieces o.toForms input)
  obtain ⟨hresult, -⟩ := substitute_of_course rfl hcourse
  rw [h] at hresult
  generalize pieces o.toForms input = ps at hcourse
  cases hcourse with
  | completes hdone _ => exact hdone
  | rejects _ _ _ => cases hresult
  | fails _ _ _ => cases hresult

/-- What a resolver that never fails is asked for by accepted pieces, what is counted and what is reported. -/
theorem substitute_of_accepts {r : Resolver σ ε} (hr : r.NeverFails) (st : σ) {input : Text}
    (h : ∀ p ∈ pieces o.toForms input, o.accepts p = true) :
    (∃ text, (substitute o r st input).result = .ok text) ∧
      (substitute o r st input).calls = Segment.names ((pieces o.toForms input).map Piece.segment) ∧
      (substitute o r st input).tally.escape = (pieces o.toForms input).countP Piece.isEscape ∧
      (substitute o r st input).notices = (pieces o.toForms input).filterMap Piece.notice? := by
  obtain ⟨values, st', hanswers⟩ := hr.answers st (Segment.names ((pieces o.toForms input).map Piece.segment))
  have hrun := expand_of_answers 0 h hanswers
  simp [substitute, hrun, Run.completed, Tally.add_eq]

/-- Two stages are one substitution. Let the values known hold no sigil, and let the first stage produce a text from a template
without doubled sigils, each of whose names can stand in braces.
1. Under the same options and for every resolver, the second stage, in that text, does what substitution in the template does in
   which the values known stand in front of the resolver: the same result, the same state, the same malformed references
   copied. It asks for those of the names only that have no known value.
2. For a resolver that never fails, the second stage produces a text, asks for the names of the first stage without a known
   value, in order and with repeats, and copies the malformed references that the first stage copied.
3. The first stage changes nothing in its own text.
4. If no value is known, the first stage only rewrites references, and the text that it produces means the same as the
   template. -/
theorem substitute_staged {o : Options} (hdollar : o.dollar = true) {known : Text → Option Text}
    (hknown : ∀ name value, known name = some value → '$' ∉ value ∧ '%' ∉ value) {s t : Text}
    (hfirst : (substitute o (.prefer known .braced) () s).result = .ok t)
    (hescape : (substitute o (.prefer known .braced) () s).tally.escape = 0)
    (hnames : ∀ name ∈ (substitute o (.prefer known .braced) () s).calls, '}' ∉ name) :
    (∀ {σ ε : Type} (r : Resolver σ ε) (st : σ),
      let first := substitute o (.prefer known .braced) () s
      let second := substitute o r st t
      let whole := substitute o (.prefer known r) st s
      (second.result = whole.result ∧ second.state = whole.state ∧ second.notices = whole.notices ∧
        second.calls = whole.calls.filter fun name => (known name).isNone) ∧
      (r.NeverFails → (∃ text, second.result = .ok text) ∧
        second.calls = (first.calls.filter fun name => (known name).isNone) ∧ second.notices = first.notices) ∧
      ((∀ name, known name = none) → second.result = (substitute o r st s).result ∧
        second.calls = (substitute o r st s).calls)) ∧
    (substitute o (.prefer known .braced) () t).result = .ok t := by
  have haccepts := accepts_of_ok hfirst
  have hbraced : Resolver.braced.NeverFails := Resolver.neverFails_of_empty _
  obtain ⟨-, hcalls, hcount, hnotices⟩ := substitute_of_accepts (hbraced.prefer known) () haccepts
  rw [hcount, List.countP_eq_zero] at hescape
  have hplain : ∀ p ∈ pieces o.toForms s, p.isEscape = false := by
    intro p hp
    simpa using hescape p hp
  have ht : t = ((pieces o.toForms s).flatMap (Piece.staged known)).flatMap Piece.text := by
    have h := result_braced haccepts hplain known 0
    exact Except.ok.inj (hfirst.symm.trans h)
  have hpieces : pieces o.toForms t = (pieces o.toForms s).flatMap (Piece.staged known) := by
    rw [ht]
    exact pieces_staged hdollar hknown hplain (hcalls ▸ hnames)
  have hresidual {σ ε : Type} (r : Resolver σ ε) (st : σ) :
      (substitute o r st t).Residual (fun name => (known name).isNone) (substitute o (.prefer known r) st s) := by
    have h := expand_staged haccepts known r 0 0 st
    rw [← hpieces] at h
    exact ⟨h.result, h.state, h.calls, h.notices⟩
  refine ⟨?_, ?_⟩
  · intro σ ε r st first second whole
    have h := hresidual r st
    refine ⟨⟨h.result, h.state, h.notices, h.calls⟩, ?_, ?_⟩
    · intro hr
      obtain ⟨⟨text, htext⟩, hcalls', -, hnotices'⟩ := substitute_of_accepts (hr.prefer known) st haccepts
      refine ⟨⟨text, h.result.trans htext⟩, ?_, ?_⟩
      · exact h.calls.trans (congrArg _ (hcalls'.trans hcalls.symm))
      · exact h.notices.trans (hnotices'.trans hnotices.symm)
    · intro hnone
      have hall : (fun name => (known name).isNone) = fun _ => true := by
        funext name
        rw [hnone name]
        rfl
      rw [Resolver.prefer_of_none hnone r, hall] at h
      exact ⟨h.result, h.calls.trans (List.filter_eq_self.mpr fun _ _ => rfl)⟩
  · rw [(hresidual (.prefer known .braced) ()).result, Resolver.prefer_prefer]
    exact hfirst

/-- Of the template `$A${B}%C%${}$-$B`, the first stage makes `x{${B}${C}${}$-${B}` when only `A` is known, to be `x{`. The second
stage asks for the other names, one of them twice, and copies the empty braces; done again, the first stage changes nothing. -/
theorem substitute_staged_partly :
    let o : Options := .lenient
    let known (name : Text) : Option Text := if name = ['A'] then some ['x', '{'] else none
    let s : Text := ['$', 'A', '$', '{', 'B', '}', '%', 'C', '%', '$', '{', '}', '$', '-', '$', 'B']
    let t : Text :=
      ['x', '{', '$', '{', 'B', '}', '$', '{', 'C', '}', '$', '{', '}', '$', '-', '$', '{', 'B', '}']
    (substitute o (.prefer known .braced) () s).result = .ok t ∧
      (substitute o (.ofRule .odd) 0 t).result = (substitute o (.prefer known (.ofRule .odd)) 0 s).result ∧
      (substitute o (.ofRule .odd) 0 t).calls = [['B'], ['C'], ['B']] ∧
      (substitute o (.ofRule .odd) 0 t).notices = [.copied ['$', '{', '}']] ∧
      (substitute o (.prefer known .braced) () t).result = .ok t := by
  intro o known s t
  have hknown : ∀ name value, known name = some value → '$' ∉ value ∧ '%' ∉ value := by
    intro name value h
    simp only [known] at h
    split at h
    · cases h
      decide
    · cases h
  have hfirst : (substitute o (.prefer known .braced) () s).result = .ok t := by decide +kernel
  have hescape : (substitute o (.prefer known .braced) () s).tally.escape = 0 := by decide +kernel
  have hcalls : (substitute o (.prefer known .braced) () s).calls = [['A'], ['B'], ['C'], ['B']] := by decide +kernel
  have hnotices : (substitute o (.prefer known .braced) () s).notices = [.copied ['$', '{', '}']] := by decide +kernel
  have hnames : ∀ name ∈ (substitute o (.prefer known .braced) () s).calls, '}' ∉ name := by
    rw [hcalls]
    decide
  obtain ⟨hstages, hagain⟩ := substitute_staged (o := o) rfl hknown hfirst hescape hnames
  obtain ⟨⟨hresult, -⟩, hanswered, -⟩ := hstages (.ofRule .odd) 0
  obtain ⟨-, hasked, hcopied⟩ := hanswered (Resolver.neverFails_of_empty _)
  refine ⟨hfirst, hresult, ?_, hcopied.trans hnotices, hagain⟩
  rw [hasked, hcalls]
  rfl

end Template
