import Mathlib.Data.List.Basic
import Template.Program
import Template.Proofs.Delivery
import Template.Proofs.Plan

/-!
# Inputs, one after another

What an input gives is its text with the values of the environment in it, or the list of its variables, or else a flaw; it depends
on the inputs before it only as far as one of them was standard input (`output`). A list of inputs gives one output after another (`Renders`) up to the first input that has a flaw (`Stops`). A run whose output
is accepted prints these outputs and, if there is one, that flaw (`run_in_order`).
-/

namespace Template

namespace CommandLine

/-! ## More inputs on a command line -/

/-- Behind an input there are only inputs. -/
theorem readFlags_append {args inputs : List Text} {flags : List Flag} (h : readFlags args = .ok (flags, inputs))
    (hinputs : inputs ≠ []) (more : List Text) : readFlags (args ++ more) = .ok (flags, inputs ++ more) := by
  fun_induction readFlags args generalizing flags with
  | case1 =>
    cases h
    exact absurd rfl hinputs
  | case2 args =>
    cases h
    rfl
  | case3 arg args hdashes hflag e hread => nomatch h
  | case4 arg args hdashes hflag flag hread ih =>
    rw [List.cons_append, readFlags, if_neg hdashes, if_pos hflag, hread]
    cases hargs : readFlags args with
    | error e => rw [hargs] at h; nomatch h
    | ok split =>
      rw [hargs] at h
      cases h
      rw [ih hargs]
      rfl
  | case5 arg args hdashes hflag =>
    cases h
    rw [List.cons_append, readFlags, if_neg hdashes, if_neg hflag]

/-- Arguments behind an input are inputs. -/
theorem parse_append {args : List Text} {invocation : Invocation} (h : parse args = .ok invocation)
    (hinputs : invocation.inputs ≠ []) (more : List Text) :
    parse (args ++ more) = .ok { invocation with inputs := invocation.inputs ++ more } := by
  unfold parse at h ⊢
  split at h
  · nomatch h
  · next flags inputs hread =>
    split at h
    · nomatch h
    · next hrepeated =>
      split at h
      · nomatch h
      · next hhelp =>
        cases h
        rw [readFlags_append hread hinputs]
        simp only [hrepeated, if_neg hhelp]

end CommandLine

/-! ## What one input gives -/

/-- What is left of standard input behind some inputs. -/
def Host.unread (host : Host) (earlier : List Text) : ByteArray :=
  if earlier.any (· = ['-']) then .empty else host.stdin

/-- The bytes of an input behind others: a dash stands for all of standard input the first time, and for nothing after that. -/
def Host.bytes (host : Host) (earlier : List Text) (path : Text) : Except SystemError ByteArray :=
  if path = ['-'] then .ok (host.unread earlier) else host.read path

/-- The text of an input behind others, if its bytes are valid UTF-8. -/
def Host.text (host : Host) (earlier : List Text) (path : Text) : Except ReadError Text :=
  match host.bytes earlier path with
  | .error e => .error (.system e)
  | .ok bytes =>
    match String.fromUTF8? bytes with
    | some text => .ok text.toList
    | none => .error .notText

namespace Program

/-- Why an input gives no output. -/
inductive Flaw where
  /-- It cannot be read. -/
  | unreadable (error : ReadError)
  /-- It has a malformed reference. -/
  | malformed (error : Error)
  deriving DecidableEq, Repr

/-- The wording of a flaw, whichever input has it. -/
def Flaw.message : Flaw → Text
  | unreadable e => e.message
  | malformed e => e.message

/-- The fault that a flaw of an input is. -/
def Flaw.fault (path : Text) : Flaw → Fault
  | unreadable e => .read path e
  | malformed e => .malformed path e

/-- A fault of an input says which input it is, then what is wrong with it. -/
theorem Flaw.message_fault (flaw : Flaw) (path : Text) :
    (flaw.fault path).message = path ++ ": ".toList ++ flaw.message := by
  cases flaw <;> rfl

/-- What an input gives behind others: the names of its variables, one a line, if they are to be listed, and otherwise its text
with the values that the environment has for them. -/
def output (host : Host) (s : Switches) (earlier : List Text) (path : Text) : Except Flaw Text :=
  match host.text earlier path with
  | .error e => .error (.unreadable e)
  | .ok input =>
    if s.list then
      match variableNames s.options input with
      | .ok names => .ok (names.flatMap (· ++ ['\n']))
      | .error e => .error (.malformed e)
    else
      match (substitute s.options .environment host.environment input).result with
      | .ok text => .ok text
      | .error (.malformed e) => .error (.malformed e)

variable {host : Host} {s : Switches} {paths before outputs : List Text} {path text : Text} {flaw : Flaw} {out : Output}

/-! ## One step -/

/-- What is read of an input, and what is then left of standard input, goes by the inputs before it. -/
theorem load_unread (host : Host) (earlier : List Text) (path : Text) :
    load host (host.unread earlier) path = (host.text earlier path, host.unread (earlier ++ [path])) := by
  by_cases hpath : path = ['-']
  · have hunread : host.unread (earlier ++ [path]) = .empty := by simp [Host.unread, hpath]
    simp only [load, Host.text, Host.bytes, hunread, if_pos hpath]
    unfold Text.decode?
    cases String.fromUTF8? (host.unread earlier) <;> rfl
  · have hunread : host.unread (earlier ++ [path]) = host.unread earlier := by simp [Host.unread, hpath]
    simp only [load, Host.text, Host.bytes, hunread, if_neg hpath]
    cases host.read path with
    | error e => rfl
    | ok bytes =>
      dsimp only [Text.decode?]
      cases String.fromUTF8? bytes <;> rfl

/-- What is rendered of the text of an input is what the input gives. -/
theorem output_of_text {earlier : List Text} {input : Text} (h : host.text earlier path = .ok input) :
    output host s earlier path = (render s host.environment input).mapError .malformed := by
  unfold output render
  rw [h]
  dsimp only
  split
  · cases variableNames s.options input <;> rfl
  · rcases (substitute s.options .environment host.environment input).result with (e | e) | text
    · rfl
    · exact e.elim
    · rfl

/-- An input whose names the environment answers gives the text that the plan of its substitution makes of the values. -/
theorem output_of_answers {input : Text} {env : Environment} {values : List (Option Text)} (hlist : s.list = false)
    (hinput : host.text before path = .ok input)
    (h : Resolver.environment.Answers host.environment (plan s.options input).names values env)
    (hresult : (plan s.options input).result values = (.ok text : Except (Failure Empty) Text)) :
    output host s before path = .ok text := by
  have hrun : (substitute s.options .environment host.environment input).result = .ok text :=
    (substitute_of_answers h).2.2.trans hresult
  simp only [output, hinput, hlist, hrun, Bool.false_eq_true, if_false]

/-- An input is taken by what it gives: a flaw ends the run, and an output is written. -/
theorem take_unread (host : Host) (s : Switches) (earlier : List Text) (path : Text) (out : Output) :
    take host s ⟨host.unread earlier, out⟩ path =
      match output host s earlier path with
      | .error flaw => .error (flaw.fault path)
      | .ok text =>
        match out.write text with
        | .error e => .error (.write e)
        | .ok out => .ok ⟨host.unread (earlier ++ [path]), out⟩ := by
  unfold take
  rw [load_unread]
  cases htext : host.text earlier path with
  | error e => simp only [output, htext]; rfl
  | ok input =>
    rw [output_of_text htext]
    dsimp only
    cases render s host.environment input <;> rfl

/-- The line on standard error for a flaw of an input. -/
def Flaw.line (flaw : Flaw) (path : Text) : Text :=
  "varsubst: ".toList ++ path ++ ": ".toList ++ flaw.message ++ ['\n']

theorem fail_fault (p : Progress) (flaw : Flaw) (path : Text) :
    fail p (flaw.fault path) = { code := 1, stdout := p.output.received, stderr := flaw.line path } := by
  unfold fail Flaw.line
  rw [Flaw.message_fault, ← List.append_assoc, ← List.append_assoc]

/-- An input that has a flaw ends the run. -/
theorem takeAll_of_flaw (h : output host s before path = .error flaw) (out : Output) (after : List Text) :
    takeAll host s ⟨host.unread before, out⟩ (path :: after) =
      { code := 1, stdout := out.received, stderr := flaw.line path } := by
  rw [takeAll, take_unread, h]
  exact fail_fault _ flaw path

/-- An output that can be written leads to the next input. -/
theorem takeAll_of_write {out' : Output} (h : output host s before path = .ok text) (hwrite : out.write text = .ok out')
    (after : List Text) :
    takeAll host s ⟨host.unread before, out⟩ (path :: after) = takeAll host s ⟨host.unread (before ++ [path]), out'⟩ after := by
  rw [takeAll, take_unread, h]
  simp only [hwrite]

/-! ## Inputs up to the first that has a flaw -/

/-- Inputs give outputs, one each. -/
inductive Renders (host : Host) (s : Switches) : List Text → List Text → Prop where
  | nothing : Renders host s [] []
  | next {before outputs : List Text} {path text : Text} : Renders host s before outputs → output host s before path = .ok text →
      Renders host s (before ++ [path]) (outputs ++ [text])

/-- One of the inputs has a flaw, and those before it give outputs. -/
inductive Stops (host : Host) (s : Switches) : List Text → List Text → Text → Flaw → Prop where
  | flawed {before outputs : List Text} {path : Text} {flaw : Flaw} (after : List Text) : Renders host s before outputs →
      output host s before path = .error flaw → Stops host s (before ++ path :: after) outputs path flaw

/-- More inputs give more outputs, or stop at one of them. -/
theorem Renders.extend (h : Renders host s before outputs) (more : List Text) :
    (∃ outputs', Renders host s (before ++ more) (outputs ++ outputs')) ∨
      ∃ outputs' path flaw, Stops host s (before ++ more) (outputs ++ outputs') path flaw := by
  induction more generalizing before outputs with
  | nil => exact .inl ⟨[], by simpa only [List.append_nil] using h⟩
  | cons path more ih =>
    cases houtput : output host s before path with
    | error flaw => exact .inr ⟨[], path, flaw, by simpa only [List.append_nil] using .flawed more h houtput⟩
    | ok text =>
      have hmore := ih (h.next houtput)
      simp only [List.append_assoc, List.singleton_append] at hmore
      rcases hmore with ⟨outputs', hrenders⟩ | ⟨outputs', path', flaw, hstops⟩
      · exact .inl ⟨_, hrenders⟩
      · exact .inr ⟨_, path', flaw, hstops⟩

/-- All inputs give outputs, or one of them is the first that has a flaw. -/
theorem renders_or_stops (host : Host) (s : Switches) (paths : List Text) :
    (∃ outputs, Renders host s paths outputs) ∨ ∃ outputs path flaw, Stops host s paths outputs path flaw := by
  simpa only [List.nil_append] using Renders.nothing.extend paths

/-- Inputs behind one that has a flaw change nothing. -/
theorem Stops.extend (h : Stops host s paths outputs path flaw) (more : List Text) :
    Stops host s (paths ++ more) outputs path flaw := by
  cases h with
  | flawed after hrenders houtput =>
    rw [List.append_assoc]
    exact .flawed (after ++ more) hrenders houtput

/-! ## A device that accepts everything -/

/-- Inputs that give outputs are taken, and their outputs arrive. -/
theorem Renders.takeAll_of_accepting (h : Renders host s before outputs) :
    ∃ out : Output, out.device = .accepting ∧ out.received = outputs.flatten ∧ ∀ rest,
      takeAll host s ⟨host.unread [], { device := .accepting }⟩ (before ++ rest) =
        takeAll host s ⟨host.unread before, out⟩ rest := by
  induction h with
  | nothing => exact ⟨_, rfl, Output.received_nothing _, fun _ => rfl⟩
  | @next before outputs path text _ houtput ih =>
    -- the inputs grow at their end, and the ones before the last are taken first whatever comes behind them
    obtain ⟨out, hdevice, hreceived, htake⟩ := ih
    obtain ⟨out', hwrite, hdevice', hreceived'⟩ := Output.write_of_accepting hdevice text
    refine ⟨out', hdevice', by rw [hreceived', hreceived, List.flatten_concat], fun rest => ?_⟩
    rw [List.append_assoc, htake, List.singleton_append, takeAll_of_write houtput hwrite]

/-- When all inputs give outputs, they are what is printed. -/
theorem Renders.takeAll_eq (h : Renders host s paths outputs) :
    takeAll host s ⟨host.unread [], { device := .accepting }⟩ paths =
      { code := 0, stdout := outputs.flatten, stderr := [] } := by
  obtain ⟨out, hdevice, hreceived, htake⟩ := h.takeAll_of_accepting
  obtain ⟨out', hflush, -, -, hreceived'⟩ := Output.flush_of_accepting hdevice
  have hrest := htake []
  rw [List.append_nil] at hrest
  rw [hrest, takeAll, hflush]
  simp only [hreceived', hreceived]

/-- When an input has a flaw, the outputs before it are what is printed, and the flaw is told. -/
theorem Stops.takeAll_eq (h : Stops host s paths outputs path flaw) :
    takeAll host s ⟨host.unread [], { device := .accepting }⟩ paths =
      { code := 1, stdout := outputs.flatten, stderr := flaw.line path } := by
  cases h with
  | flawed after hrenders houtput =>
    obtain ⟨out, -, hreceived, htake⟩ := hrenders.takeAll_of_accepting
    rw [htake, takeAll_of_flaw houtput, hreceived]

/-- A run takes its inputs, with all of standard input unread. -/
theorem run_of_parse {args : List Text} {invocation : CommandLine.Invocation}
    (h : CommandLine.parse args = .ok invocation) (host : Host) :
    run host args = takeAll host invocation.switches ⟨host.unread [], { device := host.stdout }⟩ (inputs invocation.inputs) := by
  unfold run Host.unread
  rw [h]
  rfl

/-- Inputs are taken in order, each whole or not at all. The inputs are those of the command line, or standard input if it names
none. On a host where standard output accepts everything, a run whose command line asks for no help ends in one of two ways.
1. If all inputs give outputs, the exit status is 0, standard output receives the outputs, one behind the other, and standard
   error receives nothing.
2. If an input has a flaw and those before it give outputs, the exit status is 1, standard output receives the outputs before
   it, and standard error one line: the name of the input and its flaw.
3. One of the two is the case.
4. With more arguments behind the inputs of the command line, a run that failed ends the same, and a run that did not has
   printed the beginning of what is printed now. -/
theorem run_in_order {args : List Text} {invocation : CommandLine.Invocation}
    (hparse : CommandLine.parse args = .ok invocation) (hstdout : host.stdout = .accepting) :
    let paths := if invocation.inputs = [] then [['-']] else invocation.inputs
    (∀ outputs, Renders host invocation.switches paths outputs →
      run host args = { code := 0, stdout := outputs.flatten, stderr := [] }) ∧
    (∀ outputs path flaw, Stops host invocation.switches paths outputs path flaw →
      run host args = {
        code := 1, stdout := outputs.flatten, stderr := "varsubst: ".toList ++ path ++ ": ".toList ++ flaw.message ++ ['\n'] }) ∧
    ((∃ outputs, Renders host invocation.switches paths outputs) ∨
      ∃ outputs path flaw, Stops host invocation.switches paths outputs path flaw) ∧
    ∀ more, invocation.inputs ≠ [] →
      ((run host args).code ≠ 0 → run host (args ++ more) = run host args) ∧
        (run host args).stdout <+: (run host (args ++ more)).stdout := by
  intro paths
  have hrun : run host args = takeAll host invocation.switches ⟨host.unread [], { device := host.stdout }⟩ paths :=
    run_of_parse hparse host
  have hcases := renders_or_stops host invocation.switches paths
  rw [hstdout] at hrun
  refine ⟨fun outputs h => hrun.trans h.takeAll_eq, fun outputs path flaw h => hrun.trans h.takeAll_eq, hcases, ?_⟩
  intro more hinputs
  have hrun' := run_of_parse (CommandLine.parse_append hparse hinputs more) host
  have hmore : inputs (invocation.inputs ++ more) = paths ++ more := by simp [inputs, paths, hinputs]
  rw [hstdout, hmore] at hrun'
  rcases hcases with ⟨outputs, h⟩ | ⟨outputs, path, flaw, h⟩
  · rw [hrun, hrun', h.takeAll_eq]
    refine ⟨fun hcode => absurd rfl hcode, ?_⟩
    rcases h.extend more with ⟨outputs', h'⟩ | ⟨outputs', path, flaw, h'⟩ <;>
    · rw [h'.takeAll_eq, List.flatten_append]
      exact List.prefix_append _ _
  · rw [hrun, hrun', h.takeAll_eq, (h.extend more).takeAll_eq]
    exact ⟨fun _ => rfl, List.prefix_refl _⟩

/-- A file and standard input refer to a variable of the process, another file holds braces without a name, and a third one does
not exist. Standard input is what is taken where no input is named; with two dashes, it is there for the first. -/
theorem run_in_order_references :
    let host : Host := {
      read := fun path => if path = ['a'] then .ok "<$A>".toUTF8 else if path = ['b'] then .ok "${}".toUTF8 else .error .notFound
      stdin := "%A%".toUTF8
      environment := .ofList [(['A'], "1".toUTF8)] }
    let args := ["a".toList, "-".toList, "-".toList, "b".toList]
    run host [] = { code := 0, stdout := "1".toList, stderr := [] } ∧
      run host ["--list".toList, "a".toList, "-".toList] = { code := 0, stdout := "A\nA\n".toList, stderr := [] } ∧
      run host args = {
        code := 1, stdout := "<1>1".toList, stderr := "varsubst: b: variable with no name at column 1\n".toList } ∧
      run host (args ++ ["lost".toList]) = run host args ∧
      run host ["a".toList, "lost".toList] = {
        code := 1, stdout := "<1>".toList, stderr := "varsubst: lost: No such file or directory (os error 2)\n".toList } := by
  intro host args
  have hvalue : host.environment.value? ['A'] = some ['1'] := by
    have hvariable : host.environment[(['A'] : Text)]? = some "1".toUTF8 := by simp [host]
    rw [Environment.value?, hvariable]
    decide +kernel
  have hask : Resolver.environment.ask host.environment ['A'] = (.ok (some ['1']), host.environment) := by
    simp only [Resolver.environment, hvalue]
  have hanswers {input : Text} (hnames : (plan {} input).names = [['A']]) :
      Resolver.environment.Answers host.environment (plan {} input).names [some ['1']] host.environment := by
    rw [hnames]
    exact .cons hask (.nil _)
  have hfile : output host {} [] "a".toList = .ok "<1>".toList := by
    have hinput : host.text [] "a".toList = .ok "<$A>".toList := by decide +kernel
    exact output_of_answers rfl hinput (hanswers (by decide +kernel)) (by decide +kernel)
  have hdash {before : List Text} (h : host.unread before = host.stdin) : output host {} before "-".toList = .ok "1".toList := by
    have hinput : host.text before "-".toList = .ok "%A%".toList := by
      unfold Host.text Host.bytes
      rw [h]
      decide +kernel
    exact output_of_answers rfl hinput (hanswers (by decide +kernel)) (by decide +kernel)
  have hagain : output host {} ["a".toList, "-".toList] "-".toList = .ok [] := by decide +kernel
  have hbraces : output host {} ["a".toList, "-".toList, "-".toList] "b".toList = .error (.malformed (.noName 1)) := by
    decide +kernel
  have hlost {before : List Text} : output host {} before "lost".toList = .error (.unreadable (.system .notFound)) := rfl
  have hnames : output host { list := true } [] "a".toList = .ok "A\n".toList := by decide +kernel
  have hnames' : output host { list := true } ["a".toList] "-".toList = .ok "A\n".toList := by decide +kernel
  have hstdout : host.stdout = .accepting := rfl
  obtain ⟨hdefault, -⟩ := run_in_order (rfl : CommandLine.parse [] = .ok {}) hstdout
  obtain ⟨hlists, -⟩ := run_in_order (rfl : CommandLine.parse ["--list".toList, "a".toList, "-".toList] = .ok _) hstdout
  obtain ⟨-, hstops, -, hmore⟩ := run_in_order (rfl : CommandLine.parse args = .ok { inputs := args }) hstdout
  obtain ⟨-, hunread, -⟩ := run_in_order (rfl : CommandLine.parse ["a".toList, "lost".toList] = .ok _) hstdout
  have hrun := hstops _ _ _ (.flawed [] (((Renders.nothing.next hfile).next (hdash rfl)).next hagain) hbraces)
  refine ⟨?_, ?_, ?_, ?_, ?_⟩
  · exact hdefault _ (Renders.nothing.next (hdash rfl))
  · exact hlists _ ((Renders.nothing.next hnames).next hnames')
  · exact hrun.trans (by decide +kernel)
  · exact (hmore ["lost".toList] nofun).1 (by rw [hrun]; decide)
  · exact (hunread _ _ _ (.flawed [] (Renders.nothing.next hfile) hlost)).trans (by decide +kernel)

end Program

end Template
