import Template.Proofs.Names
import Template.Proofs.Unwritable

/-!
# Listings: the variables of inputs, one a line

A line break stands in no name, so a listing cut at its line breaks is the names again, none of them blank
(`ReadsBack.of_names`). A run that lists variables prints the names of one input after another, up to the end or to the first
input that has a flaw, and what it printed can be read back (`run_list_reads_back`).
-/

namespace Template

namespace Text

/-! ## Lines -/

/-- Texts without a line break, one a line, are cut apart again at the line breaks; nothing stands behind the last one. -/
theorem splitOn_unlines {ts : List Text} (h : ∀ t ∈ ts, '\n' ∉ t) : (unlines ts).splitOn '\n' = ts ++ [[]] := by
  induction ts with
  | nil => rfl
  | cons t ts ih =>
    obtain ⟨ht, hrest⟩ := List.forall_mem_cons.mp h
    have hcons : unlines (t :: ts) = t ++ '\n' :: unlines ts := by simp [unlines]
    rw [hcons, List.splitOn_append_cons_self_of_not_mem ht, ih hrest, List.cons_append]

/-- Texts one a line are nothing, or they end in a line break. -/
theorem unlines_ends (ts : List Text) : unlines ts = [] ∨ (unlines ts).getLast? = some '\n' := by
  induction ts using List.reverseRecOn with
  | nil => exact .inl rfl
  | append_singleton ts t _ =>
    right
    rw [unlines, List.flatMap_append, List.flatMap_singleton, ← List.append_assoc, List.getLast?_concat]

/-- Without a line break, texts one a line are nothing. -/
theorem unlines_eq_nil {ts : List Text} (h : '\n' ∉ unlines ts) : unlines ts = [] :=
  (unlines_ends ts).resolve_right fun hlast => h (List.mem_of_getLast? hlast)

/-- Listings put one behind the other are the listing of all. -/
theorem flatten_unlines (blocks : List (List Text)) : (blocks.map unlines).flatten = unlines blocks.flatten := by
  simp only [unlines, List.flatMap_def, List.map_flatten, List.flatten_flatten, List.map_map]
  rfl

end Text

/-! ## What is read back -/

/-- A text from which blocks of names can be read back. -/
structure ReadsBack (text : Text) (blocks : List (List Text)) : Prop where
  /-- There is no text, or its last line is whole. -/
  ends : text = [] ∨ text.getLast? = some '\n'
  /-- Cut at its line breaks, the text is the names, block behind block, and nothing behind the last break. -/
  lines : text.splitOn '\n' = blocks.flatten ++ [[]]
  /-- No line is blank, and each consists of characters from U+0020 to U+007E other than `=`. -/
  names : ∀ name ∈ blocks.flatten, name ≠ [] ∧ ∀ c ∈ name, 0x20 ≤ c.toNat ∧ c.toNat ≤ 0x7e ∧ c ≠ '='
  /-- No name is repeated in its block. -/
  nodup : ∀ block ∈ blocks, block.Nodup

/-- Blocks of names can be read back from their listing. -/
theorem ReadsBack.of_names {blocks : List (List Text)} (hnames : ∀ block ∈ blocks, ∀ name ∈ block, name.IsName)
    (hnodup : ∀ block ∈ blocks, block.Nodup) : ReadsBack (Text.unlines blocks.flatten) blocks := by
  have hflat : ∀ name ∈ blocks.flatten, name.IsName := List.forall_mem_flatten.mpr hnames
  refine ⟨Text.unlines_ends _, ?_, ?_, hnodup⟩
  · exact Text.splitOn_unlines fun name hname => (hflat name hname).not_mem (by decide)
  · intro name hname
    exact ⟨(hflat name hname).ne_nil, (hflat name hname).codes⟩

/-- The variables of a template are names, each once. -/
theorem isName_of_variableNames {o : Options} {input : Text} {names : List Text} (h : variableNames o input = .ok names) :
    (∀ name ∈ names, name.IsName) ∧ names.Nodup := by
  obtain ⟨-, rfl⟩ := plan_of_variableNames h
  exact ⟨fun name hname => isName_of_mem_plan (List.mem_eraseDups.mp hname), nodup_eraseDups _⟩

namespace Program

variable {host : Host} {s : Switches} {o : Options} {paths before outputs : List Text} {blocks : List (List Text)}
  {path : Text} {flaw : Flaw}

/-- Inputs, and the variables of each. -/
inductive Lists (host : Host) (o : Options) : List Text → List (List Text) → Prop where
  | nothing : Lists host o [] []
  | next {before names : List Text} {blocks : List (List Text)} {path input : Text} : Lists host o before blocks →
      host.text before path = .ok input → variableNames o input = .ok names →
        Lists host o (before ++ [path]) (blocks ++ [names])

/-- What inputs are listed as can be read back. -/
theorem Lists.reads_back (h : Lists host o paths blocks) : ReadsBack (Text.unlines blocks.flatten) blocks := by
  have hblocks : ∀ block ∈ blocks, (∀ name ∈ block, name.IsName) ∧ block.Nodup := by
    induction h with
    | nothing => nofun
    | next _ _ hnames ih =>
      rw [List.forall_mem_append, List.forall_mem_singleton]
      exact ⟨ih, isName_of_variableNames hnames⟩
  exact .of_names (fun block hmem => (hblocks block hmem).1) fun block hmem => (hblocks block hmem).2

/-- The output for an input, when variables are listed, is its variables, one a line. -/
theorem output_of_list {text : Text} (hlist : s.list = true) (h : output host s before path = .ok text) :
    ∃ input names, host.text before path = .ok input ∧ variableNames s.options input = .ok names ∧
      text = Text.unlines names := by
  unfold output at h
  cases hinput : host.text before path with
  | error e => simp [hinput] at h
  | ok input =>
    simp only [hinput, hlist, if_true] at h
    cases hnames : variableNames s.options input with
    | error e => simp [hnames] at h
    | ok names =>
      simp only [hnames, Except.ok.injEq] at h
      exact ⟨input, names, rfl, hnames, h.symm⟩

/-- The outputs of inputs, when variables are listed, are the listings of each. -/
theorem Renders.lists (h : Renders host s paths outputs) (hlist : s.list = true) :
    ∃ blocks, Lists host s.options paths blocks ∧ outputs = blocks.map Text.unlines := by
  induction h with
  | nothing => exact ⟨[], .nothing, rfl⟩
  | next _ houtput ih =>
    obtain ⟨blocks, hblocks, rfl⟩ := ih
    obtain ⟨input, names, hinput, hnames, rfl⟩ := output_of_list hlist houtput
    exact ⟨blocks ++ [names], hblocks.next hinput hnames, by simp⟩

/-- The outputs before an input that has a flaw, when variables are listed, are the listings of each. -/
theorem Stops.lists (h : Stops host s paths outputs path flaw) (hlist : s.list = true) :
    ∃ before after blocks, paths = before ++ path :: after ∧ output host s before path = .error flaw ∧
      Lists host s.options before blocks ∧ outputs = blocks.map Text.unlines := by
  cases h with
  | flawed after hrenders houtput =>
    obtain ⟨blocks, hblocks, rfl⟩ := hrenders.lists hlist
    exact ⟨_, after, blocks, rfl, houtput, hblocks, rfl⟩

/-- Listings that can be held back are nothing. -/
theorem flatten_of_held {blocks : List (List Text)} (h : Output.HoldsAll (blocks.map Text.unlines)) :
    Text.unlines blocks.flatten = [] := by
  rw [← Text.flatten_unlines, List.flatten_eq_nil_iff]
  intro text htext
  obtain ⟨names, -, rfl⟩ := List.mem_map.mp htext
  exact Text.unlines_eq_nil (h.unbroken _ htext)

/-! ## How a run ends that lists variables -/

/-- On whatever device, inputs that can all be listed are printed, or the output is refused. -/
theorem Renders.takeAll_of_list (h : Renders host s paths outputs) (device : Device) :
    takeAll host s ⟨host.unread [], { device }⟩ paths = { code := 0, stdout := outputs.flatten, stderr := [] } ∨
      device = .full ∧ takeAll host s ⟨host.unread [], { device }⟩ paths = refusal := by
  cases device with
  | accepting => exact .inl h.takeAll_eq
  | full =>
    by_cases hnil : outputs.flatten = []
    · rw [hnil]
      exact .inl (h.takeAll_full_of_nil hnil)
    · exact .inr ⟨rfl, h.takeAll_full_of_ne_nil hnil⟩

/-- On whatever device, the listings before an input that has a flaw are printed, or the output is refused. -/
theorem Stops.takeAll_of_list (h : Stops host s paths outputs path flaw) (hlist : s.list = true) (device : Device) :
    takeAll host s ⟨host.unread [], { device }⟩ paths =
        { code := 1, stdout := outputs.flatten, stderr := flaw.line path } ∨
      device = .full ∧ takeAll host s ⟨host.unread [], { device }⟩ paths = refusal := by
  cases device with
  | accepting => exact .inl h.takeAll_eq
  | full =>
    by_cases hroom : Output.HoldsAll outputs
    · -- every line that is printed ends in a line break, so what is held back is nothing
      have hnil : outputs.flatten = [] := by
        obtain ⟨_, _, blocks, -, -, -, rfl⟩ := h.lists hlist
        rw [Text.flatten_unlines, flatten_of_held hroom]
      rw [hnil]
      exact .inl (h.takeAll_held hroom)
    · exact .inr ⟨rfl, h.takeAll_refused hroom⟩

/-- What is said of a flaw is not what is said when the output is refused: a second colon stands in it. -/
theorem Flaw.line_ne_refusal (flaw : Flaw) (path : Text) : flaw.line path ≠ refusal.stderr := by
  have hrefusal : refusal.stderr = "varsubst: ".toList ++ "No space left on device (os error 28)\n".toList := by
    decide +kernel
  intro heq
  unfold Flaw.line at heq
  rw [hrefusal, List.append_assoc, List.append_assoc, List.append_assoc] at heq
  have hrest := List.append_cancel_left heq
  have hcolon : ':' ∈ path ++ (": ".toList ++ (flaw.message ++ ['\n'])) :=
    List.mem_append_right _ (List.mem_append_left _ (by decide +kernel))
  rw [hrest] at hcolon
  exact absurd hcolon (by decide +kernel)

/-- What is printed before the flaw that a run ends with can be read back. -/
theorem Stops.reads_back (h : Stops host s paths outputs path flaw) (hlist : s.list = true) {device : Device}
    (hstderr : (takeAll host s ⟨host.unread [], { device }⟩ paths).stderr = flaw.line path) :
    ∃ before after blocks, paths = before ++ path :: after ∧ output host s before path = .error flaw ∧
      Lists host s.options before blocks ∧ ReadsBack (takeAll host s ⟨host.unread [], { device }⟩ paths).stdout blocks := by
  rcases h.takeAll_of_list hlist device with hrun | ⟨-, hrun⟩
  · obtain ⟨before, after, blocks, hpaths, houtput, hblocks, rfl⟩ := h.lists hlist
    rw [hrun, Text.flatten_unlines]
    exact ⟨before, after, blocks, hpaths, houtput, hblocks, hblocks.reads_back⟩
  · rw [hrun] at hstderr
    exact absurd hstderr.symm (flaw.line_ne_refusal path)

/-- A run that lists variables prints them all, or it ends with the flaw of an input, or its output is refused. -/
theorem takeAll_list_cases (host : Host) (hlist : s.list = true) (device : Device) (paths : List Text) :
    (∃ blocks, Lists host s.options paths blocks ∧ takeAll host s ⟨host.unread [], { device }⟩ paths =
      { code := 0, stdout := Text.unlines blocks.flatten, stderr := [] }) ∨
    (∃ outputs path flaw, Stops host s paths outputs path flaw ∧ takeAll host s ⟨host.unread [], { device }⟩ paths =
      { code := 1, stdout := outputs.flatten, stderr := flaw.line path }) ∨
    device = .full ∧ takeAll host s ⟨host.unread [], { device }⟩ paths = refusal := by
  rcases renders_or_stops host s paths with ⟨outputs, h⟩ | ⟨outputs, path, flaw, h⟩
  · rcases h.takeAll_of_list device with hrun | hrefused
    · obtain ⟨blocks, hblocks, rfl⟩ := h.lists hlist
      exact .inl ⟨blocks, hblocks, by rw [hrun, Text.flatten_unlines]⟩
    · exact .inr (.inr hrefused)
  · rcases h.takeAll_of_list hlist device with hrun | hrefused
    · exact .inr (.inl ⟨outputs, path, flaw, h, hrun⟩)
    · exact .inr (.inr hrefused)

/-- A listing can be read back without ambiguity, whatever the host.
1. When a run that lists variables succeeds, what it printed can be read back as the variables of its inputs, in order.
2. When it ends with the flaw of an input, what it printed can be read back as the variables of the inputs before that one.
3. When it fails, it ends with the flaw of an input, unless standard output is full and that is what it says. -/
theorem run_list_reads_back {args : List Text} {invocation : CommandLine.Invocation}
    (hparse : CommandLine.parse args = .ok invocation) (hlist : invocation.switches.list = true) (host : Host) :
    ((run host args).code = 0 → ∃ blocks,
      Lists host invocation.switches.options (inputs invocation.inputs) blocks ∧ ReadsBack (run host args).stdout blocks) ∧
    (∀ outputs path flaw, Stops host invocation.switches (inputs invocation.inputs) outputs path flaw →
      (run host args).stderr = flaw.line path → ∃ before after blocks,
        inputs invocation.inputs = before ++ path :: after ∧ output host invocation.switches before path = .error flaw ∧
        Lists host invocation.switches.options before blocks ∧ ReadsBack (run host args).stdout blocks) ∧
    ((run host args).code ≠ 0 →
      (∃ outputs path flaw, Stops host invocation.switches (inputs invocation.inputs) outputs path flaw ∧
        (run host args).stderr = flaw.line path) ∨
      host.stdout = .full ∧ (run host args).stderr = "varsubst: No space left on device (os error 28)\n".toList) := by
  rw [run_of_parse hparse host]
  have hcases := takeAll_list_cases host hlist host.stdout (inputs invocation.inputs)
  refine ⟨?_, fun _ _ _ h hstderr => h.reads_back hlist hstderr, ?_⟩
  · intro hcode
    rcases hcases with ⟨blocks, hblocks, hrun⟩ | ⟨_, _, _, -, hrun⟩ | ⟨-, hrun⟩
    · rw [hrun]
      exact ⟨blocks, hblocks, hblocks.reads_back⟩
    · rw [hrun] at hcode
      cases hcode
    · rw [hrun] at hcode
      cases hcode
  · intro hcode
    rcases hcases with ⟨_, -, hrun⟩ | ⟨outputs, path, flaw, h, hrun⟩ | ⟨hfull, hrun⟩
    · rw [hrun] at hcode
      exact absurd rfl hcode
    · rw [hrun]
      exact .inl ⟨outputs, path, flaw, h, rfl⟩
    · rw [hrun]
      exact .inr ⟨hfull, rfl⟩

/-- The variables of `$A%B C%$A` and of `$A` are listed, and then those of the first one again, before a file that does not
exist. -/
theorem run_list_reads_back_twice :
    let host : Host := {
      read := fun path =>
        if path = ['a'] then .ok "$A%B C%$A".toUTF8 else if path = ['b'] then .ok "$A".toUTF8 else .error .notFound }
    let args := ["--list".toList, "a".toList, "b".toList]
    let args' := ["--list".toList, "--lenient".toList, "a".toList, "lost".toList, "b".toList]
    let s : Switches := { lenient := true, list := true }
    CommandLine.parse args = .ok { switches := { list := true }, inputs := ["a".toList, "b".toList] } ∧
      CommandLine.parse args' = .ok { switches := s, inputs := ["a".toList, "lost".toList, "b".toList] } ∧
      (run host args).code = 0 ∧ (run host args).stdout = "A\nB C\nA\n".toList ∧
      (∃ blocks, Lists host {} ["a".toList, "b".toList] blocks ∧ ReadsBack (run host args).stdout blocks) ∧
      (run host args').stdout = "A\nB C\n".toList ∧
      ∃ before after blocks, ["a".toList, "lost".toList, "b".toList] = before ++ "lost".toList :: after ∧
        output host s before "lost".toList = .error (.unreadable (.system .notFound)) ∧
        Lists host s.options before blocks ∧ ReadsBack (run host args').stdout blocks := by
  intro host args args' s
  have hparse : CommandLine.parse args = .ok { switches := { list := true }, inputs := ["a".toList, "b".toList] } := by
    decide +kernel
  have hparse' : CommandLine.parse args' = .ok { switches := s, inputs := ["a".toList, "lost".toList, "b".toList] } := by
    decide +kernel
  have hcode : (run host args).code = 0 := by decide +kernel
  have ha : output host s [] "a".toList = .ok "A\nB C\n".toList := by decide +kernel
  have hstops : Stops host s ["a".toList, "lost".toList, "b".toList] ["A\nB C\n".toList] "lost".toList
      (.unreadable (.system .notFound)) := .flawed ["b".toList] (Renders.nothing.next ha) rfl
  refine ⟨hparse, hparse', hcode, by decide +kernel, ?_, by decide +kernel, ?_⟩
  · exact (run_list_reads_back hparse rfl host).1 hcode
  · exact (run_list_reads_back hparse' rfl host).2.1 _ _ _ hstops (by decide +kernel)

end Program

end Template
