import SpinWait.Report
import SpinWait.Text.Utf8

namespace SpinWait.CommandLine

/-! Paths, and a tree of files below a working directory with what comes of opening a path in it. The
tree is one instance of what reading a log may answer: no file outside is known to it, so a path that
leaves it leads to none. -/

/-- Why a path is not read. -/
inductive OpenError
  | notFound
  | notDirectory
  | isDirectory
  | nameTooLong
deriving DecidableEq, Repr

namespace OpenError

/-- The number under which the system knows the error. -/
def number : OpenError → Nat
  | notFound => 2
  | notDirectory => 20
  | isDirectory => 21
  | nameTooLong => 36

def description : OpenError → Text
  | notFound => "No such file or directory".toList
  | notDirectory => "Not a directory".toList
  | isDirectory => "Is a directory".toList
  | nameTooLong => "File name too long".toList

end OpenError

def OpenError.report (error : OpenError) (path : Text) : Text :=
  systemReport error.number error.description path

/-- The names of a path, without empty ones and `.`. -/
def pathNames (path : Text) : List Text :=
  (path.fields '/').filter fun name => !name.isEmpty && name != ".".toList

/-- What a path begins with: two slashes stay two, other numbers of slashes become one. -/
def pathRoot (path : Text) : Text :=
  match path.takeWhile (· == '/') with
  | [] => []
  | ['/', '/'] => "//".toList
  | _ => "/".toList

/-- The path without what does not matter: repeated slashes, `.`, and a slash at its end. -/
def normalPath (path : Text) : Text :=
  match pathRoot path ++ "/".toList.intercalate (pathNames path) with
  | [] => ".".toList
  | text => text

/-- Files by the names on the way to them from the working directory, and directories likewise. The
directories on the way to a file need not be listed. -/
structure FileTree where
  files : List (List Text × List UInt8)
  directories : List (List Text)

namespace FileTree

def isDirectory (tree : FileTree) (names : List Text) : Bool :=
  names.isEmpty || (tree.directories ++ tree.files.map fun file => file.1.dropLast).any
    names.isPrefixOf

/-- Where a path has led so far: below the working directory, or outside. Outside, directories lead
upwards and nothing else is known. -/
inductive Place
  | inside (names : List Text)
  | outside

def maxNameBytes : Nat := 255

def maxPathBytes : Nat := 4096

/-- Follows the names of a path one after the other. Each name must be looked up in a directory. -/
def follow (tree : FileTree) : Place → List Text → Except OpenError (List UInt8)
  | .outside, [] => .error .isDirectory
  | .outside, name :: others =>
    if name = "..".toList then follow tree .outside others
    else if name.utf8.length > maxNameBytes then .error .nameTooLong
    else .error .notFound
  | .inside names, [] =>
    match tree.files.lookup names with
    | some bytes => .ok bytes
    | none => if tree.isDirectory names then .error .isDirectory else .error .notFound
  | .inside names, name :: others =>
    if (tree.files.lookup names).isSome then .error .notDirectory
    else if !tree.isDirectory names then .error .notFound
    else if name = "..".toList then
      match names with
      | [] => follow tree .outside others
      | _ => follow tree (.inside names.dropLast) others
    else if name.utf8.length > maxNameBytes then .error .nameTooLong
    else follow tree (.inside (names ++ [name])) others

/-- The bytes of the file at a path, as far as the tree knows of it. -/
def read (tree : FileTree) (path : Text) : Except OpenError (List UInt8) :=
  if path.utf8.length ≥ maxPathBytes then .error .nameTooLong
  else tree.follow (if (pathRoot path).isEmpty then .inside [] else .outside) (pathNames path)

end FileTree

end SpinWait.CommandLine
