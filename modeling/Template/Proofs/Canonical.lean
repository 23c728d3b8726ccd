import Mathlib.Data.List.Forall2
import Mathlib.Data.List.Nodup
import Template.Proofs.Inputs
import Template.Proofs.Switching

/-!
# Command lines that mean the same

An argument gives a flag if a name of the flag is all that stands behind one dash or two (`Spells`). Flags at the front of a
command line may be given in any order and with either number of dashes (`parse_of_perm`), and what a command line asks for can
be written down in one fixed way that is read back as what it was (`parse_canonical`). So a run depends on no more than what is
asked for, and where nothing is asked for, it depends on nothing that the host holds (`run_canonical`).
-/

namespace Template

namespace CommandLine

/-! ## Arguments that give a flag -/

theorem Flag.mem_all (flag : Flag) : flag ∈ Flag.all := by
  cases flag <;> decide

/-- The names of a flag: help has a short one beside the long one. -/
def Flag.names : Flag → List Text
  | help => [help.name, ['h']]
  | flag => [flag.name]

theorem Flag.name_mem_names (flag : Flag) : flag.name ∈ flag.names := by
  cases flag <;> exact List.mem_cons_self

/-- No name of a flag is empty, begins with a dash or has an `=` in it. -/
theorem Flag.plain_of_mem_names {flag : Flag} :
    ∀ name ∈ flag.names, name ≠ [] ∧ name.head? ≠ some '-' ∧ '=' ∉ name := by
  cases flag <;> decide

theorem Flag.ofName?_of_mem_names {flag : Flag} : ∀ name ∈ flag.names, Flag.ofName? name = some flag := by
  cases flag <;> decide

/-- A flag is found under its names, and under no others. -/
theorem Flag.ofName?_eq_some_iff {flag : Flag} {name : Text} : Flag.ofName? name = some flag ↔ name ∈ flag.names := by
  refine ⟨fun h => ?_, Flag.ofName?_of_mem_names name⟩
  unfold Flag.ofName? at h
  split at h
  · next hshort =>
    cases h
    rw [hshort]
    exact List.mem_cons_of_mem _ List.mem_cons_self
  · have hname : flag.name = name := by simpa using List.find?_some h
    exact hname ▸ flag.name_mem_names

/-- An argument gives a flag: behind one dash or two there is a name of the flag, and nothing else. -/
inductive Spells : Text → Flag → Prop where
  | one {name : Text} {flag : Flag} : name ∈ flag.names → Spells ('-' :: name) flag
  | two {name : Text} {flag : Flag} : name ∈ flag.names → Spells ('-' :: '-' :: name) flag

variable {arg : Text} {args front front' : List Text} {flag : Flag} {flags flags' : List Flag}

/-- One dash is dropped of an argument that has no more. -/
theorem dropDashes_one {body : Text} (h : body.head? ≠ some '-') : dropDashes ('-' :: body) = body := by
  unfold dropDashes
  split
  · next heq => exact absurd (by cases heq; rfl) h
  · next heq => cases heq; rfl
  · next heq => exact absurd rfl (heq body)

/-- Without an argument of its own, a flag has all of the text for its name. -/
theorem takeWhile_of_not_mem {body : Text} (h : '=' ∉ body) : body.takeWhile (· ≠ '=') = body :=
  List.takeWhile_eq_self_iff.mpr fun _ hc => decide_eq_true fun heq => h (heq ▸ hc)

/-- Without its dashes, an argument that gives a flag is a name of the flag. -/
theorem Spells.dropDashes_mem (h : Spells arg flag) : dropDashes arg ∈ flag.names := by
  cases h with
  | one hname =>
    obtain ⟨-, hhead, -⟩ := Flag.plain_of_mem_names _ hname
    rwa [dropDashes_one hhead]
  | two hname => exact hname

/-- An argument that gives a flag is read as one, and it is not two dashes alone. -/
theorem Spells.isFlag (h : Spells arg flag) : isFlag arg = true ∧ arg ≠ ['-', '-'] := by
  cases h with
  | @one name _ hname =>
    obtain ⟨hne, hhead, -⟩ := Flag.plain_of_mem_names _ hname
    cases name with
    | nil => exact absurd rfl hne
    | cons c name => exact ⟨rfl, fun heq => hhead (by cases heq; rfl)⟩
  | @two name _ hname =>
    obtain ⟨hne, -, -⟩ := Flag.plain_of_mem_names _ hname
    exact ⟨rfl, fun heq => hne (by cases heq; rfl)⟩

/-- An argument that gives a flag is read as that flag. -/
theorem Spells.readFlag_eq (h : Spells arg flag) : readFlag arg = .ok flag := by
  obtain ⟨-, -, hequals⟩ := Flag.plain_of_mem_names _ h.dropDashes_mem
  simp only [readFlag, takeWhile_of_not_mem hequals, Flag.ofName?_eq_some_iff.mpr h.dropDashes_mem, if_neg hequals]

/-- An argument that is read as a flag gives it. -/
theorem spells_of_readFlag (hflag : isFlag arg = true) (h : readFlag arg = .ok flag) : Spells arg flag := by
  have hname : dropDashes arg ∈ flag.names := by
    simp only [readFlag] at h
    split at h
    · nomatch h
    · next found hfound =>
      split at h
      · nomatch h
      · next hequals =>
        cases h
        rwa [takeWhile_of_not_mem hequals, Flag.ofName?_eq_some_iff] at hfound
  -- what was dropped of the argument is two dashes if its second character is one, and one otherwise
  unfold isFlag at hflag
  split at hflag
  · next c body =>
    by_cases hc : c = '-'
    · subst hc
      exact .two hname
    · have hhead : (c :: body).head? ≠ some '-' := fun heq => hc (Option.some.inj heq)
      rw [dropDashes_one hhead] at hname
      exact .one hname
  · nomatch hflag

/-! ## Flags at the front -/

/-- Flags at the front of an argument list are read before what is behind them. -/
theorem readFlags_of_spells (h : List.Forall₂ Spells front flags) (rest : List Text) :
    readFlags (front ++ rest) = (readFlags rest).map fun (more, inputs) => (flags ++ more, inputs) := by
  induction h with
  | nil =>
    rw [List.nil_append]
    cases readFlags rest <;> rfl
  | cons harg _ ih =>
    obtain ⟨hflag, hdashes⟩ := harg.isFlag
    rw [List.cons_append, readFlags, if_neg hdashes, if_pos hflag, harg.readFlag_eq]
    dsimp only
    rw [ih]
    cases readFlags rest <;> rfl

/-- Where an argument list can be read, the arguments at the front that are read as flags give flags. -/
theorem exists_spells_of_readFlags {rest : List Text} {read : List Flag × List Text} (h : readFlags (front ++ rest) = .ok read)
    (hfront : ∀ arg ∈ front, isFlag arg = true ∧ arg ≠ ['-', '-']) : ∃ flags, List.Forall₂ Spells front flags := by
  induction front generalizing read with
  | nil => exact ⟨[], .nil⟩
  | cons arg front ih =>
    obtain ⟨⟨hflag, hdashes⟩, hrest⟩ := List.forall_mem_cons.mp hfront
    rw [List.cons_append, readFlags, if_neg hdashes, if_pos hflag] at h
    cases hread : readFlag arg with
    | error e =>
      rw [hread] at h
      cases h
    | ok flag =>
      rw [hread] at h
      cases hmore : readFlags (front ++ rest) with
      | error e =>
        rw [hmore] at h
        cases h
      | ok more =>
        obtain ⟨flags, hspells⟩ := ih hmore hrest
        exact ⟨flag :: flags, .cons (spells_of_readFlag hflag hread) hspells⟩

/-! ## The order of flags -/

/-- Whether a flag is repeated, and which, does not depend on the order. -/
theorem repeated?_of_perm (h : flags'.Perm flags) : repeated? flags' = repeated? flags := by
  simp only [repeated?, h.count_eq]

theorem switches_of_perm (h : flags'.Perm flags) : switches flags' = switches flags := by
  simp only [switches, h.contains_eq]

/-- Flags at the front of a command line may be given in another order, and with another number of dashes each. -/
theorem parse_of_perm (h : List.Forall₂ Spells front flags) (h' : List.Forall₂ Spells front' flags') (hperm : flags'.Perm flags)
    (rest : List Text) : parse (front' ++ rest) = parse (front ++ rest) := by
  unfold parse
  rw [readFlags_of_spells h, readFlags_of_spells h']
  cases readFlags rest with
  | error e => rfl
  | ok read =>
    -- the flags behind the front are the same, so all flags together are the same up to their order
    have hmore := hperm.append_right read.1
    simp only [Except.map, repeated?_of_perm hmore, switches_of_perm hmore, hmore.contains_eq]

/-! ## The canonical command line -/

/-- Every flag is checked for being given more than once. -/
theorem repeated?_eq_none_iff : repeated? flags = none ↔ flags.Nodup := by
  rw [repeated?, List.find?_eq_none, List.nodup_iff_count_le_one]
  constructor
  · intro h flag
    simpa using h flag flag.mem_all
  · intro h flag _
    simpa using h flag

/-- Whether a flag is among those that turn switches on. Help turns on none. -/
def Flag.isIn (s : Switches) : Flag → Bool
  | help => false
  | noPercent => s.noPercent
  | noDollar => s.noDollar
  | lenient => s.lenient
  | list => s.list

/-- The flags that turn switches on, each once. -/
def flagsOf (s : Switches) : List Flag := Flag.all.filter (Flag.isIn s)

theorem contains_flagsOf (s : Switches) (flag : Flag) : (flagsOf s).contains flag = flag.isIn s := by
  rw [Bool.eq_iff_iff, List.contains_iff_mem, flagsOf, List.mem_filter, and_iff_right flag.mem_all]

theorem switches_flagsOf (s : Switches) : switches (flagsOf s) = s := by
  simp only [switches, contains_flagsOf, Flag.isIn]

/-- Switches are written as their flags, with two dashes each. -/
theorem canonical_eq_map (s : Switches) : s.canonical = (flagsOf s).map fun flag => '-' :: '-' :: flag.name := by
  obtain ⟨noPercent, noDollar, lenient, list⟩ := s
  cases noPercent <;> cases noDollar <;> cases lenient <;> cases list <;> rfl

theorem spells_canonical (s : Switches) : List.Forall₂ Spells s.canonical (flagsOf s) := by
  rw [canonical_eq_map, List.forall₂_map_left_iff, List.forall₂_same]
  exact fun flag _ => .two flag.name_mem_names

/-- The canonical command line: the switches as flags, two dashes, and then the inputs. -/
def Invocation.canonical (invocation : Invocation) : List Text :=
  invocation.switches.canonical ++ ['-', '-'] :: invocation.inputs

/-- A canonical command line asks for what it was written for, whatever the inputs look like. -/
theorem parse_canonical (invocation : Invocation) : parse invocation.canonical = .ok invocation := by
  obtain ⟨s, inputs⟩ := invocation
  have hread : readFlags (s.canonical ++ ['-', '-'] :: inputs) = .ok (flagsOf s, inputs) := by
    rw [readFlags_of_spells (spells_canonical s), readFlags, if_pos rfl]
    simp only [Except.map, List.append_nil]
  have hnodup : repeated? (flagsOf s) = none := repeated?_eq_none_iff.mpr (List.Nodup.filter _ (by decide))
  have hhelp : (flagsOf s).contains .help = false := contains_flagsOf s .help
  simp only [parse, Invocation.canonical, hread, hnodup, hhelp, switches_flagsOf, Bool.false_eq_true, if_false]

/-- Different invocations have different canonical command lines. -/
theorem canonical_injective : Function.Injective Invocation.canonical := by
  intro i j h
  have hparse := (parse_canonical i).symm.trans ((congrArg parse h).trans (parse_canonical j))
  exact Except.ok.inj hparse

/-- The flags of a command line that is accepted can be read. -/
theorem exists_readFlags_of_parse {invocation : Invocation} (h : parse args = .ok invocation) :
    ∃ read, readFlags args = .ok read := by
  unfold parse at h
  split at h
  · nomatch h
  · next hread => exact ⟨_, hread⟩

end CommandLine

/-! ## What a run depends on -/

/-- A host where every input is empty. -/
def Host.blank : Host where
  read _ := .ok .empty

/-- A host where no input can be read. -/
def Host.unreadable : Host where
  read _ := .error .notFound
  stdin := ⟨#[0xff]⟩

namespace Program

variable {args : List Text} {invocation : CommandLine.Invocation}

/-- Argument lists that ask for the same lead to the same run. -/
theorem run_of_parse_eq {args' : List Text} (h : CommandLine.parse args' = CommandLine.parse args) (host : Host) :
    run host args' = run host args := by
  unfold run
  rw [h]

/-- A command line that is refused leads to a message, whatever the host. -/
theorem run_of_refusal {refusal : CommandLine.Refusal} (h : CommandLine.parse args = .error refusal) (host : Host) :
    run host args = { code := refusal.status, stdout := [], stderr := Text.unlines refusal.messages } := by
  unfold run
  rw [h]

/-- An empty input gives an empty output. -/
theorem render_nil (s : Switches) (env : Environment) : render s env [] = .ok [] := by
  have hnone : ∀ sigil : Sigil, s.options.enables sigil = true → sigil.char ∉ ([] : Text) := fun _ _ => List.not_mem_nil
  unfold render
  rw [substitute_plain hnone, variableNames_plain hnone]
  cases s.list <;> rfl

theorem output_blank (s : Switches) (earlier : List Text) (path : Text) : output .blank s earlier path = .ok [] := by
  have hbytes : Host.blank.bytes earlier path = .ok .empty := by
    unfold Host.bytes Host.unread
    split
    · split <;> rfl
    · rfl
  have htext : Host.blank.text earlier path = .ok [] := by
    rw [Host.text, hbytes]
    rfl
  rw [output_of_text htext, render_nil]
  rfl

theorem output_unreadable (s : Switches) (path : Text) : ∃ flaw, output .unreadable s [] path = .error flaw := by
  by_cases hpath : path = ['-']
  · have htext : Host.unreadable.text [] path = .error .notText := by
      rw [hpath]
      decide +kernel
    exact ⟨.unreadable .notText, by rw [output, htext]⟩
  · have htext : Host.unreadable.text [] path = .error (.system .notFound) := by
      rw [Host.text, Host.bytes, if_neg hpath]
      rfl
    exact ⟨.unreadable (.system .notFound), by rw [output, htext]⟩

/-- No input has a flaw where all are empty. -/
theorem renders_blank (s : Switches) (paths : List Text) : ∃ outputs, Renders .blank s paths outputs := by
  refine (renders_or_stops .blank s paths).resolve_right ?_
  rintro ⟨_, _, _, ⟨_, _, houtput⟩⟩
  rw [output_blank] at houtput
  nomatch houtput

/-- Whatever the inputs are, a run succeeds where they are all empty. -/
theorem run_blank (h : CommandLine.parse args = .ok invocation) : (run .blank args).code = 0 := by
  obtain ⟨outputs, hrenders⟩ := renders_blank invocation.switches (inputs invocation.inputs)
  rw [run_of_parse h]
  exact congrArg Exit.code hrenders.takeAll_eq

/-- A run has an input, also where the command line names none. -/
theorem inputs_ne_nil (free : List Text) : inputs free ≠ [] := by
  unfold inputs
  split
  · exact List.cons_ne_nil _ _
  · assumption

/-- Whatever the inputs are, a run fails where the first of them cannot be read. -/
theorem run_unreadable (h : CommandLine.parse args = .ok invocation) : (run .unreadable args).code = 1 := by
  obtain ⟨path, after, hinputs⟩ := List.exists_cons_of_ne_nil (inputs_ne_nil invocation.inputs)
  obtain ⟨flaw, hflaw⟩ := output_unreadable invocation.switches path
  rw [run_of_parse h, hinputs, takeAll_of_flaw hflaw]

/-- What a command line asks for is all that matters of it, and there is a canonical command line that asks for it.
1. A command line that is accepted asks for the same as its canonical one: the flags of its switches in a fixed order, two
   dashes, and its inputs, whatever they look like. On every host, the canonical one leads to the same run. Two command lines
   have the same canonical one when they ask for the same, and only then.
   In a command line that is accepted, each argument before the first input or two dashes is one dash or two and a name of a flag.
2. In the place of such arguments others may stand that give the same flags, in any order and with one dash or two each. They
   change neither what the command line asks for, nor why it is refused, nor the run on any host.
3. A command line that is refused, for an error or because it asks for help, makes no use of its host: no input is read. This
   is so for no other command line.
4. A command line that is refused leads to nothing on standard output. -/
theorem run_canonical (args : List Text) :
    (∀ invocation, CommandLine.parse args = .ok invocation →
      CommandLine.parse invocation.canonical = .ok invocation ∧
      (∀ host, run host invocation.canonical = run host args) ∧
      (∀ args' invocation', CommandLine.parse args' = .ok invocation' →
        (invocation'.canonical = invocation.canonical ↔ CommandLine.parse args' = CommandLine.parse args)) ∧
      ∀ front rest, args = front ++ rest → (∀ arg ∈ front, CommandLine.isFlag arg = true ∧ arg ≠ ['-', '-']) →
        ∃ flags, List.Forall₂ CommandLine.Spells front flags) ∧
    (∀ front rest flags front' flags', args = front ++ rest → List.Forall₂ CommandLine.Spells front flags →
      List.Forall₂ CommandLine.Spells front' flags' → flags'.Perm flags →
      CommandLine.parse (front' ++ rest) = CommandLine.parse args ∧ ∀ host, run host (front' ++ rest) = run host args) ∧
    ((∃ refusal, CommandLine.parse args = .error refusal) ↔ ∀ host host', run host args = run host' args) ∧
    ∀ refusal, CommandLine.parse args = .error refusal → ∀ host, (run host args).stdout = [] := by
  refine ⟨fun invocation hparse => ⟨?_, ?_, ?_, ?_⟩, ?_, ⟨?_, ?_⟩, ?_⟩
  · exact CommandLine.parse_canonical invocation
  · exact run_of_parse_eq ((CommandLine.parse_canonical invocation).trans hparse.symm)
  · intro args' invocation' hparse'
    rw [CommandLine.canonical_injective.eq_iff, hparse', hparse, Except.ok.injEq]
  · rintro front rest rfl hfront
    obtain ⟨read, hread⟩ := CommandLine.exists_readFlags_of_parse hparse
    exact CommandLine.exists_spells_of_readFlags hread hfront
  · rintro front rest flags front' flags' rfl hspells hspells' hperm
    have hsame := CommandLine.parse_of_perm hspells hspells' hperm rest
    exact ⟨hsame, run_of_parse_eq hsame⟩
  · rintro ⟨refusal, hrefusal⟩ host host'
    rw [run_of_refusal hrefusal, run_of_refusal hrefusal]
  · intro hsame
    cases hparse : CommandLine.parse args with
    | error refusal => exact ⟨refusal, rfl⟩
    | ok invocation =>
      -- the inputs are empty on one of these hosts, and the first of them cannot be read on the other
      have hcode := congrArg Exit.code (hsame .blank .unreadable)
      rw [run_blank hparse, run_unreadable hparse] at hcode
      cases hcode
  · intro refusal hrefusal host
    rw [run_of_refusal hrefusal]

/-- Flags with one dash and with two stand before inputs that look like a flag, or are two dashes, or are empty; another command
line has one flag less; and one is refused, since its flag has an argument. -/
theorem run_canonical_dashes :
    let files : List Text := ["a".toList, "--".toList, "-x".toList, []]
    let front := ["-list".toList, "--lenient".toList]
    let canonical := "--lenient".toList :: "--list".toList :: "--".toList :: files
    let invocation : CommandLine.Invocation := { switches := { lenient := true, list := true }, inputs := files }
    let invocation' : CommandLine.Invocation := { switches := { lenient := true }, inputs := files }
    let refused := ["-list=".toList, "a".toList]
    CommandLine.parse (front ++ files) = .ok invocation ∧ CommandLine.parse ("--lenient".toList :: files) = .ok invocation' ∧
      CommandLine.parse canonical = .ok invocation ∧ (∀ host, run host canonical = run host (front ++ files)) ∧
      invocation'.canonical ≠ invocation.canonical ∧ (∃ flags, List.Forall₂ CommandLine.Spells front flags) ∧
      CommandLine.parse ("-lenient".toList :: "-list".toList :: files) = CommandLine.parse (front ++ files) ∧
      (∀ host, run host ("-lenient".toList :: "-list".toList :: files) = run host (front ++ files)) ∧
      CommandLine.parse refused = .error (.invalid (.unexpectedArgument "list".toList)) ∧
      (∀ host host', run host refused = run host' refused) ∧ ∀ host, (run host refused).stdout = [] := by
  intro files front canonical invocation invocation' refused
  have hparse : CommandLine.parse (front ++ files) = .ok invocation := rfl
  have hparse' : CommandLine.parse ("--lenient".toList :: files) = .ok invocation' := rfl
  have hrefused : CommandLine.parse refused = .error (.invalid (.unexpectedArgument "list".toList)) := rfl
  have hspells : List.Forall₂ CommandLine.Spells front [.list, .lenient] :=
    .cons (.one (by decide)) (.cons (.two (by decide)) .nil)
  have hspells' : List.Forall₂ CommandLine.Spells ["-lenient".toList, "-list".toList] [.lenient, .list] :=
    .cons (.one (by decide)) (.cons (.one (by decide)) .nil)
  obtain ⟨haccepted, hrespelled, -⟩ := run_canonical (front ++ files)
  obtain ⟨hcanonical, hrun, hother, hfront⟩ := haccepted _ hparse
  obtain ⟨hsame, hrun'⟩ := hrespelled _ _ _ _ _ rfl hspells hspells' (.swap _ _ _)
  obtain ⟨-, -, hhosts, hstdout⟩ := run_canonical refused
  have hne : invocation'.canonical ≠ invocation.canonical := by
    rw [ne_eq, hother _ _ hparse', hparse, hparse']
    decide
  exact ⟨hparse, hparse', hcanonical, hrun, hne, hfront _ _ rfl (by decide), hsame, hrun', hrefused, hhosts.mp ⟨_, hrefused⟩,
    hstdout _ hrefused⟩

end Program

end Template
