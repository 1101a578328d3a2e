import CdGraphics.Frame

/-!
# File systems

What the commands need of a file system, whatever keeps the files. Paths are texts; directories are
made together with those that they lie in.
-/

namespace CdGraphics

/-- Why a file system refused. -/
inductive FileError where
  | notFound
  | exists
  | notDirectory
  | isDirectory
  | nameTooLong
  | nulInName
  | other (text : String)
deriving DecidableEq, Repr

def FileError.message : FileError → String
  | .notFound => "No such file or directory (os error 2)"
  | .exists => "File exists (os error 17)"
  | .notDirectory => "Not a directory (os error 20)"
  | .isDirectory => "Is a directory (os error 21)"
  | .nameTooLong => "File name too long (os error 36)"
  | .nulInName => "file name contained an unexpected NUL byte"
  | .other text => text

/-- What commands do with files. -/
structure FileSystem (m : Type → Type) where
  readFile : String → m (Except FileError (List UInt8))
  isDirectory : String → m Bool
  makeDirectory : String → m (Except FileError Unit)
  writePicture : String → Frame → m (Except FileError Unit)

namespace Path

/-- The characters of a path with the names in it taken off the end: blank names, and single dots
but for a leading one, name nothing. Gives the names from the last to the first, each with the
part of the path up to its end. -/
def namesFrom (before name : List Char) (first : Bool) : List Char → List (List Char × List Char)
  | [] => if name = [] ∨ (name = ['.'] ∧ !first) then [] else [(before ++ name, name)]
  | c :: rest =>
    if c = '/' then
      let passed := before ++ name ++ ['/']
      if name = [] ∨ (name = ['.'] ∧ !first) then namesFrom passed [] false rest
      else (before ++ name, name) :: namesFrom passed [] false rest
    else namesFrom before (name ++ [c]) first rest

/-- The parts of a path up to the end of each of its names. -/
def stems (path : String) : List String :=
  (namesFrom [] [] true path.toList).map fun p => String.ofList p.1

/-- The path of the directory that a path lies in. It is empty for a lone name, and a root lies in
none. -/
def parent? (path : String) : Option String :=
  match (stems path).reverse with
  | [] => none
  | [_] => some (if path.toList.head? = some '/' then "/" else "")
  | _ :: stem :: _ => some stem

/-- The texts between the slashes of a path. -/
def names (path : String) : List String := (path.toList.splitOn '/').map String.ofList

/-- A name in a directory. -/
def join (directory name : String) : String :=
  if directory.toList.getLast? = some '/' ∨ directory.isEmpty then directory ++ name
  else directory ++ "/" ++ name

end Path

namespace FileSystem

variable {m : Type → Type} [Monad m]

/-- Makes a directory that may be there already. -/
def ensureDirectory (fs : FileSystem m) (path : String) : m (Except FileError Unit) := do
  match ← fs.makeDirectory path with
  | .ok () => return .ok ()
  | .error e => if ← fs.isDirectory path then return .ok () else return .error e

/-- Makes a directory and those that it lies in, of which there are at most `count`. -/
def makeDirectoriesWithin (fs : FileSystem m) : (count : Nat) → String → m (Except FileError Unit)
  | 0, _ => return .ok ()
  | count + 1, path => do
    if path.isEmpty then return .ok ()
    match ← fs.ensureDirectory path with
    | .error .notFound =>
      match Path.parent? path with
      | none => return .error .notFound
      | some parent =>
        match ← makeDirectoriesWithin fs count parent with
        | .ok () => fs.ensureDirectory path
        | .error e => return .error e
    | result => return result

/-- Makes a directory and those that it lies in. -/
def makeDirectories (fs : FileSystem m) (path : String) : m (Except FileError Unit) :=
  makeDirectoriesWithin fs (path.length + 1) path

end FileSystem

end CdGraphics
