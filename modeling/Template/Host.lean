import Template.Resolver

/-!
# The host: what a program finds around it

A program reads files and standard input, asks for variables of its process, and writes to standard output. The host gives
all of that as data, so that a run of the program is a function of its arguments and its host.
-/

namespace Template

/-- A failure of the operating system, by number and description. -/
structure SystemError where
  code : Nat
  description : Text
  deriving DecidableEq, Repr

namespace SystemError

/-- The wording of a failure of the operating system. -/
def message (e : SystemError) : Text := e.description ++ " (os error ".toList ++ Text.ofNat e.code ++ [')']

/-- Nothing has the name. -/
def notFound : SystemError := ⟨2, "No such file or directory".toList⟩

/-- Something other than a directory stands where a directory is needed. -/
def notADirectory : SystemError := ⟨20, "Not a directory".toList⟩

/-- A directory stands where a file is needed. -/
def isADirectory : SystemError := ⟨21, "Is a directory".toList⟩

/-- A name is longer than names of files can be. -/
def nameTooLong : SystemError := ⟨36, "File name too long".toList⟩

/-- There is no room for what is written. -/
def noSpace : SystemError := ⟨28, "No space left on device".toList⟩

end SystemError

/-- Why an input cannot be read as text. -/
inductive ReadError where
  /-- The operating system does not give its bytes. -/
  | system (error : SystemError)
  /-- Its bytes are not valid UTF-8. -/
  | notText
  deriving DecidableEq, Repr

/-- The wording of a failed read. -/
def ReadError.message : ReadError → Text
  | system e => e.message
  | notText => "stream did not contain valid UTF-8".toList

/-- What standard output is connected to. -/
inductive Device where
  /-- Everything that is written arrives. -/
  | accepting
  /-- There is no room: whatever is written is refused, unless it is empty. -/
  | full
  deriving DecidableEq, Repr

/-- What a program finds around it. -/
structure Host where
  /-- The bytes of the file at a path. -/
  read : Text → Except SystemError ByteArray
  /-- The bytes of standard input. -/
  stdin : ByteArray := .empty
  /-- The variables of the process. -/
  environment : Environment := {}
  /-- Where standard output goes. -/
  stdout : Device := .accepting

end Template
