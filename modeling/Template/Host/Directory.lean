import Template.Host

/-!
# A directory of files, and the paths that lead into it

The working directory holds files and empty directories. A path leads from there through its components to a file, and fails
where a component is missing or too long, or where something other than a directory is to be entered.
-/

namespace Template

/-- What a directory holds under a name. -/
inductive Entry where
  | file (content : ByteArray)
  | directory

/-- A working directory: its entries by name. -/
abbrev Directory := Std.HashMap Text Entry

/-- The components of a path, which stand between its slashes; some may be empty. -/
def components (path : Text) : List Text :=
  path.foldr (fun c parts => if c = '/' then [] :: parts else parts.modifyHead (c :: ·)) [[]]

namespace Directory

/-- How many bytes a component of a path can have. -/
def maxName : Nat := 255

/-- How many bytes a path can have. -/
def maxPath : Nat := 4095

/-- Where a path has led to. -/
inductive Place where
  /-- The working directory. -/
  | here
  /-- A directory in the working directory, which is empty. -/
  | below
  /-- A directory outside the working directory, of which no entry is known. -/
  | outside
  /-- A file. -/
  | file (content : ByteArray)

/-- Follows one component of a path. An empty one and a dot stay in a directory, and two dots leave it. -/
def enter (d : Directory) (place : Place) (component : Text) : Except SystemError Place :=
  match place with
  | .file _ => .error .notADirectory
  | _ =>
    if component = [] ∨ component = ['.'] then .ok place
    else if maxName < Text.utf8Size component then .error .nameTooLong
    else
      match place, component with
      | .below, ['.', '.'] => .ok .here
      | _, ['.', '.'] => .ok .outside
      | .here, name =>
        match d[name]? with
        | some (.file content) => .ok (.file content)
        | some .directory => .ok .below
        | none => .error .notFound
      | _, _ => .error .notFound

/-- The content of the file that a path leads to. The empty path leads nowhere, and a path that starts with a slash starts
outside the working directory. -/
def read (d : Directory) (path : Text) : Except SystemError ByteArray :=
  if path = [] then .error .notFound
  else if maxPath < Text.utf8Size path then .error .nameTooLong
  else
    match (components path).foldlM d.enter (if path.head? = some '/' then .outside else .here) with
    | .ok (.file content) => .ok content
    | .ok _ => .error .isADirectory
    | .error e => .error e

end Directory

end Template
