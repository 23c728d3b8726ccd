import Template.Options
import Template.Text

/-!
# The command line: flags, then the inputs

Flags come first. An argument is read as a flag if it starts with a dash and is longer than that; the first that does not
starts the inputs, and so does `--`, which is dropped. A flag has one dash or two and takes no argument, and each flag is given
at most once. `parse` reads an argument list, and `Switches.canonical` writes switches as flags.
-/

namespace Template

/-- What the flags of a command line switch on. -/
structure Switches where
  /-- Leave `%NAME%` references alone. -/
  noPercent : Bool := false
  /-- Leave `$NAME` and `${NAME}` references alone. -/
  noDollar : Bool := false
  /-- Copy malformed references instead of failing. -/
  lenient : Bool := false
  /-- List the variables instead of substituting. -/
  list : Bool := false
  deriving DecidableEq, Repr

/-- The options that switches select. -/
def Switches.options (s : Switches) : Options where
  percent := !s.noPercent
  dollar := !s.noDollar
  strict := !s.lenient

namespace CommandLine

/-- The flags that the command line knows. -/
inductive Flag where
  | help
  | noPercent
  | noDollar
  | lenient
  | list
  deriving DecidableEq, Repr

namespace Flag

/-- Every flag, in the order in which they are checked and listed. -/
def all : List Flag := [help, noPercent, noDollar, lenient, list]

/-- The long name of a flag. -/
def name : Flag → Text
  | help => "help".toList
  | noPercent => "no-percent".toList
  | noDollar => "no-dollar".toList
  | lenient => "lenient".toList
  | list => "list".toList

/-- The flag of a name; help has a short name too. -/
def ofName? (name : Text) : Option Flag :=
  if name = ['h'] then some help else all.find? (·.name = name)

end Flag

/-- Why a command line is refused. -/
inductive UsageError where
  /-- No flag has the name. -/
  | unrecognized (name : Text)
  /-- The flag of the name was given an argument. -/
  | unexpectedArgument (name : Text)
  /-- The flag was given more than once. -/
  | repeated (flag : Flag)
  deriving DecidableEq, Repr

/-- The wording of a usage error. -/
def UsageError.message : UsageError → Text
  | unrecognized name => "Unrecognized option: '".toList ++ name ++ "'".toList
  | unexpectedArgument name => "Option '".toList ++ name ++ "' does not take an argument".toList
  | repeated flag => "Option '".toList ++ flag.name ++ "' given more than once".toList

/-- Whether an argument is read as a flag, when no input came before it. -/
def isFlag : Text → Bool
  | '-' :: _ :: _ => true
  | _ => false

/-- An argument that is read as a flag, without its dashes. -/
def dropDashes : Text → Text
  | '-' :: '-' :: body => body
  | '-' :: body => body
  | body => body

/-- The flag that an argument stands for. The name ends at the first `=`, and what follows that is an argument of the flag,
even when it is empty. -/
def readFlag (arg : Text) : Except UsageError Flag :=
  let body := dropDashes arg
  let name := body.takeWhile (· ≠ '=')
  match Flag.ofName? name with
  | none => .error (.unrecognized name)
  | some flag => if '=' ∈ body then .error (.unexpectedArgument name) else .ok flag

/-- The flags at the front of an argument list, and the inputs behind them. -/
def readFlags : List Text → Except UsageError (List Flag × List Text)
  | [] => .ok ([], [])
  | arg :: args =>
    if arg = ['-', '-'] then .ok ([], args)
    else if isFlag arg then
      match readFlag arg with
      | .error e => .error e
      | .ok flag => (readFlags args).map fun (flags, inputs) => (flag :: flags, inputs)
    else .ok ([], arg :: args)

/-- The first flag that is given more than once. -/
def repeated? (flags : List Flag) : Option Flag := Flag.all.find? (1 < flags.count ·)

/-- The switches that flags turn on. -/
def switches (flags : List Flag) : Switches where
  noPercent := flags.contains .noPercent
  noDollar := flags.contains .noDollar
  lenient := flags.contains .lenient
  list := flags.contains .list

/-- What a command line asks for: switches, and inputs to apply them to. -/
structure Invocation where
  switches : Switches := {}
  inputs : List Text := []
  deriving DecidableEq, Repr

/-- Why a command line leads to no run. -/
inductive Refusal where
  /-- It could not be understood. -/
  | invalid (error : UsageError)
  /-- It asks for help. -/
  | help
  deriving DecidableEq, Repr

/-- What a command line asks for. An error found while reading the flags comes before a flag given more than once, and either
comes before help. -/
def parse (args : List Text) : Except Refusal Invocation :=
  match readFlags args with
  | .error e => .error (.invalid e)
  | .ok (flags, inputs) =>
    match repeated? flags with
    | some flag => .error (.invalid (.repeated flag))
    | none => if flags.contains .help then .error .help else .ok { switches := switches flags, inputs }

/-- The help text. -/
def usage : Text :=
  "USAGE: varsubst [--no-percent] [--no-dollar] [--lenient] [--list] [FILE ...]

Options:
    -h, -help           Print this help menu.
        -no-percent     Leave %NAME% references alone.
        -no-dollar      Leave $NAME and ${NAME} references alone.
        -lenient        Copy malformed references to the output instead of
                        failing.
        -list           List the referenced variables instead of substituting.
".toList

/-- The messages of a refusal. -/
def Refusal.messages : Refusal → List Text
  | invalid e => ["could not parse command line: ".toList ++ e.message]
  | help => [usage]

/-- The exit status of a refusal. -/
def Refusal.status : Refusal → Nat
  | invalid _ => 64
  | help => 1

end CommandLine

/-- The switches written as flags, in a fixed order. -/
def Switches.canonical (s : Switches) : List Text :=
  [ (s.noPercent, CommandLine.Flag.noPercent), (s.noDollar, .noDollar), (s.lenient, .lenient), (s.list, .list) ].filterMap
    fun (on, flag) => if on then some (['-', '-'] ++ flag.name) else none

end Template
