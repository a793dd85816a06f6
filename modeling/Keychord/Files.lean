/-!
# Files

The files below a directory, as far as the program reads and changes them: texts are read,
and directories are made where they are missing. A path is followed name by name, the way
the operating system does it: each name before the last has to lead to a directory, and an
empty name or a dot stays where it is. What lies outside the directory is known to be there
as directories, but nothing can be found in it.
-/
namespace Keychord

/-- Why a file cannot be read or a directory not be made. -/
inductive FileError where
  | missing
  | occupied
  | notDirectory
  | isDirectory
  | nameTooLong
  | zeroInName
  | notText
  deriving DecidableEq

def FileError.message : FileError → String
  | missing => "No such file or directory (os error 2)"
  | occupied => "File exists (os error 17)"
  | notDirectory => "Not a directory (os error 20)"
  | isDirectory => "Is a directory (os error 21)"
  | nameTooLong => "File name too long (os error 36)"
  | zeroInName => "file name contained an unexpected NUL byte"
  | notText => "stream did not contain valid UTF-8"

inductive FileKind where
  | file (content : ByteArray)
  | directory

/-- What there is below a directory, by the names that lead to it. -/
structure Files where
  entries : List (List String × FileKind) := []

/-- A place that a path leads to. -/
inductive FilePlace where
  | inside (names : List String)
  | outside
  deriving DecidableEq

namespace Files

/-- What there is under these names; under no names, the directory itself. -/
def kind? (names : List String) (files : Files) : Option FileKind :=
  if names.isEmpty then some .directory else files.entries.lookup names

/-- Adds an entry, and the directories it lies in. -/
def put (names : List String) (kind : FileKind) (files : Files) : Files :=
  let parents := (List.range names.length).map names.take
  let missing := parents.filter fun parent => (files.kind? parent).isNone
  ⟨files.entries.filter (·.1 != names) ++ missing.map (·, .directory) ++ [(names, kind)]⟩

/-- How many bytes a name may have. -/
def nameLimit : Nat := 255

/-- How many bytes a path has to be shorter than. -/
def pathLimit : Nat := 4096

/-- One name further from a place. -/
def step (files : Files) : FilePlace → String → Except FileError FilePlace
  | .outside, name =>
    if name = "" || name = "." || name = ".." then .ok .outside else .error .missing
  | .inside names, name =>
    match files.kind? names with
    | none => .error .missing
    | some (.file _) => .error .notDirectory
    | some .directory =>
      if name = "" || name = "." then .ok (.inside names)
      else if name = ".." then
        .ok (if names.isEmpty then .outside else .inside (names.take (names.length - 1)))
      else if nameLimit < name.utf8ByteSize then .error .nameTooLong
      else if (files.kind? (names ++ [name])).isSome then .ok (.inside (names ++ [name]))
      else .error .missing

/-- Where the names lead from a place. -/
def follow (files : Files) (start : FilePlace) (names : List String) : Except FileError FilePlace :=
  names.foldlM files.step start

/-- The names of a path and where they start. -/
def split (path : String) : FilePlace × List String :=
  let names := (path.splitOn "/")
  if path.startsWith "/" then (.outside, names.drop 1) else (.inside [], names)

/-- The text of the file at a path. -/
def readText (path : String) (files : Files) : Except FileError String :=
  if path.toList.contains '\x00' then .error .zeroInName
  else if path.isEmpty then .error .missing
  else if pathLimit ≤ path.utf8ByteSize then .error .nameTooLong
  else do
    let (start, names) := split path
    match ← files.follow start names with
    | .outside => .error .isDirectory
    | .inside names =>
      match files.kind? names with
      | some (.file content) => (String.fromUTF8? content).elim (.error .notText) .ok
      | some .directory => .error .isDirectory
      | none => .error .missing

/-- Makes the directory that the names lead to from a place; all but the last have to be there. -/
def makeDirectory (start : FilePlace) (names : List String) (files : Files) :
    Except FileError Files := do
  match names.getLast? with
  | none => .error .occupied
  | some last =>
    let before ← files.follow start names.dropLast
    match files.step before last with
    | .ok _ => .error .occupied
    | .error .missing =>
      match before with
      | .inside place => .ok (files.put (place ++ [last]) .directory)
      | .outside => .error .missing
    | .error problem => .error problem

/-- There is a directory where the names lead. -/
def isDirectory (start : FilePlace) (names : List String) (files : Files) : Bool :=
  match files.follow start names with
  | .ok .outside => true
  | .ok (.inside place) => (files.kind? place).any (· matches .directory)
  | .error _ => false

/-- Makes a directory and, before it, those it lies in, as far as they are missing. What has
been made before a failure stays. The number bounds how many are made. -/
def makeAllFrom (start : FilePlace) : Nat → List String → Files → Option FileError × Files
  | 0, _, files => (none, files)
  | bound + 1, names, files =>
    let settle (problem : FileError) (files : Files) : Option FileError × Files :=
      if files.isDirectory start names then (none, files) else (some problem, files)
    match files.makeDirectory start names with
    | .ok files => (none, files)
    | .error .missing =>
      match makeAllFrom start bound names.dropLast files with
      | (some problem, files) => (some problem, files)
      | (none, files) =>
        match files.makeDirectory start names with
        | .ok files => (none, files)
        | .error problem => settle problem files
    | .error problem => settle problem files

/-- Makes the directory at a path with all the directories it lies in. Repeated slashes, and
dots after the beginning, count for nothing. -/
def makeDirectories (path : String) (files : Files) : Option FileError × Files :=
  let (start, names) := split path
  let names := names.filter fun name => name ≠ "" && name ≠ "."
  makeAllFrom start names.length names files

end Files
end Keychord
