import Template.CommandLine
import Template.Output
import Template.Substitute

/-!
# The program: templates from files to standard output

The inputs of a command line are taken one after another: each is read, then substituted (or its variables are listed), then
written. The first failure ends the program; what was written before it stays written.
-/

namespace Template

/-- What is left behind when the program ends. -/
structure Exit where
  /-- The exit status. -/
  code : Nat
  /-- What standard output received. -/
  stdout : Text
  /-- What standard error received. -/
  stderr : Text
  deriving DecidableEq, Repr

namespace Program

/-- Why a run of the program fails. -/
inductive Fault where
  /-- An input cannot be read. -/
  | read (path : Text) (error : ReadError)
  /-- An input has a malformed reference. -/
  | malformed (path : Text) (error : Error)
  /-- The output cannot be written. -/
  | write (error : SystemError)
  deriving DecidableEq, Repr

/-- The wording of a fault. -/
def Fault.message : Fault → Text
  | read path e => path ++ ": ".toList ++ e.message
  | malformed path e => path ++ ": ".toList ++ e.message
  | write e => e.message

/-- How far a run has come. -/
structure Progress where
  /-- What is left of standard input. -/
  unread : ByteArray
  /-- What became of the output so far. -/
  output : Output

/-- The output for an input: the names of its variables, one a line, or the input with their values. -/
def render (s : Switches) (env : Environment) (input : Text) : Except Error Text :=
  if s.list then (variableNames s.options input).map Text.unlines
  else
    match (substitute s.options .environment env input).result with
    | .ok text => .ok text
    | .error e => .error e.error

/-- The text of an input, and what is left of standard input after it is read. A dash stands for standard input, which is
read to its end; a second dash finds nothing there. -/
def load (host : Host) (unread : ByteArray) (path : Text) : Except ReadError Text × ByteArray :=
  let (bytes, unread) := if path = ['-'] then (.ok unread, .empty) else (host.read path, unread)
  match bytes with
  | .error e => (.error (.system e), unread)
  | .ok bytes =>
    match Text.decode? bytes with
    | some text => (.ok text, unread)
    | none => (.error .notText, unread)

/-- Takes one input: reads it, renders it and writes the outcome. -/
def take (host : Host) (s : Switches) (p : Progress) (path : Text) : Except Fault Progress :=
  match load host p.unread path with
  | (.error e, _) => .error (.read path e)
  | (.ok input, unread) =>
    match render s host.environment input with
    | .error e => .error (.malformed path e)
    | .ok text =>
      match p.output.write text with
      | .error e => .error (.write e)
      | .ok output => .ok { unread, output }

/-- The end of a run that fails: one line on standard error. -/
def fail (p : Progress) (fault : Fault) : Exit where
  code := 1
  stdout := p.output.received
  stderr := "varsubst: ".toList ++ fault.message ++ ['\n']

/-- Takes inputs in order; when all are taken, what is held back of the output is delivered. -/
def takeAll (host : Host) (s : Switches) (p : Progress) : List Text → Exit
  | [] =>
    match p.output.flush with
    | .error e => fail p (.write e)
    | .ok output => { code := 0, stdout := output.received, stderr := [] }
  | path :: paths =>
    match take host s p path with
    | .error fault => fail p fault
    | .ok p => takeAll host s p paths

/-- The inputs to take: standard input if the command line names none. -/
def inputs (free : List Text) : List Text := if free = [] then [['-']] else free

/-- A run of the program. -/
def run (host : Host) (args : List Text) : Exit :=
  match CommandLine.parse args with
  | .error refusal => { code := refusal.status, stdout := [], stderr := Text.unlines refusal.messages }
  | .ok invocation =>
    takeAll host invocation.switches { unread := host.stdin, output := { device := host.stdout } } (inputs invocation.inputs)

end Program

end Template
