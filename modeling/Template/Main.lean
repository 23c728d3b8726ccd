import Template.Program

/-!
# The command line program

What the program may need of its host is gathered first: its inputs, and the variables that they refer to. The run itself is
`Program.run`; here its outcome is written out.
-/

namespace Template.Program

/-- The number and the description that the operating system gives for a failure. -/
def systemError : IO.Error → SystemError
  | .alreadyExists _ code details => ⟨code.toNat, details.toList⟩
  | .otherError code details => ⟨code.toNat, details.toList⟩
  | .resourceBusy code details => ⟨code.toNat, details.toList⟩
  | .resourceVanished code details => ⟨code.toNat, details.toList⟩
  | .unsupportedOperation code details => ⟨code.toNat, details.toList⟩
  | .hardwareFault code details => ⟨code.toNat, details.toList⟩
  | .unsatisfiedConstraints code details => ⟨code.toNat, details.toList⟩
  | .illegalOperation code details => ⟨code.toNat, details.toList⟩
  | .protocolError code details => ⟨code.toNat, details.toList⟩
  | .timeExpired code details => ⟨code.toNat, details.toList⟩
  | .interrupted _ code details => ⟨code.toNat, details.toList⟩
  | .noFileOrDirectory _ code details => ⟨code.toNat, details.toList⟩
  | .invalidArgument _ code details => ⟨code.toNat, details.toList⟩
  | .permissionDenied _ code details => ⟨code.toNat, details.toList⟩
  | .resourceExhausted _ code details => ⟨code.toNat, details.toList⟩
  | .inappropriateType _ code details => ⟨code.toNat, details.toList⟩
  | .noSuchThing _ code details => ⟨code.toNat, details.toList⟩
  | e => ⟨0, e.toString.toList⟩

/-- The bytes of a file. -/
def readFile (path : Text) : IO (Except SystemError ByteArray) := do
  try
    let file ← IO.FS.Handle.mk (String.ofList path) .read
    return .ok (← file.readBinToEnd)
  catch e => return .error (systemError e)

/-- The variables that a file refers to, and their values. -/
def readVariables (o : Options) (content : ByteArray) : IO (List (Text × ByteArray)) := do
  let names := ((Text.decode? content).map (variableNames { o with strict := false })).getD (.ok [])
  names.toOption.getD [] |>.filterMapM fun name => do
    return (← IO.getEnv (String.ofList name)).map fun value => (name, value.toUTF8)

/-- The host as far as a command line needs it. -/
def gather (invocation : CommandLine.Invocation) : IO Host := do
  let paths := inputs invocation.inputs
  let stdin ← if paths.contains ['-'] then (← IO.getStdin).readBinToEnd else pure ByteArray.empty
  let files ← (paths.filter (· ≠ ['-'])).mapM fun path => return (path, ← readFile path)
  let contents := stdin :: files.filterMap fun (_, content) => content.toOption
  let values ← contents.mapM (readVariables invocation.switches.options)
  return {
    read := fun path => (files.lookup path).getD (.error .notFound)
    stdin
    environment := .ofList values.flatten }

/-- Writes out how a run ended. -/
def finish (exit : Exit) : IO UInt32 := do
  try
    let stdout ← IO.getStdout
    stdout.putStr (String.ofList exit.stdout)
    stdout.flush
    IO.eprint (String.ofList exit.stderr)
    return exit.code.toUInt32
  catch e =>
    IO.eprint (String.ofList ("varsubst: ".toList ++ (Fault.write (systemError e)).message ++ ['\n']))
    return 1

end Template.Program

/-- Runs the program. -/
def main (args : List String) : IO UInt32 := do
  let args := args.map String.toList
  match Template.CommandLine.parse args with
  | .error _ => Template.Program.finish (Template.Program.run { read := fun _ => .error .notFound } args)
  | .ok invocation => Template.Program.finish (Template.Program.run (← Template.Program.gather invocation) args)
