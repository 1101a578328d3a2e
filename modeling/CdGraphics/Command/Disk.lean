import CdGraphics.Command.FileSystem
import CdGraphics.Picture.Png

/-!
# A disk in memory

A tree of directories and files with a place to start from, on which commands run as pure
functions. A path is walked name by name: a dot stays, two dots go up, and a trailing slash asks
for a directory. Names and paths have greatest lengths, counted in bytes.
-/

namespace CdGraphics

/-- What a name stands for. -/
inductive Entry where
  | directory
  | file (bytes : List UInt8)
  | picture (frame : Frame)
deriving DecidableEq

/-- The entries of a disk by the names that lead to them, and the names that lead to the working
directory. -/
structure Disk where
  entries : List (List String × Entry)
  workingDirectory : List String
deriving DecidableEq

namespace Disk

/-- The entry at names; the root is a directory. -/
def get? (d : Disk) (names : List String) : Option Entry :=
  if names = [] then some .directory
  else (d.entries.find? fun e => e.1 == names).map Prod.snd

/-- Changes or adds the entry at names. -/
def put (d : Disk) (names : List String) (entry : Entry) : Disk :=
  { d with entries := d.entries.filter (fun e => e.1 != names) ++ [(names, entry)] }

/-- Where a path leads. -/
inductive Place where
  | present (names : List String) (entry : Entry)
  /-- Nothing yet, in a directory that is there. -/
  | absent (names : List String)
deriving DecidableEq

/-- The bytes of the longest name. -/
def longestName : Nat := 255

/-- The bytes of the longest path. -/
def longestPath : Nat := 4095

/-- Walks names from an entry. -/
def walk (d : Disk) (here : List String) (entry : Entry) : List String → Except FileError Place
  | [] => .ok (.present here entry)
  | name :: rest =>
    if entry ≠ .directory then .error .notDirectory
    else if name = "" ∨ name = "." then walk d here entry rest
    else if name = ".." then walk d here.dropLast .directory rest
    else if longestName < name.utf8ByteSize then .error .nameTooLong
    else
      let names := here ++ [name]
      match d.get? names with
      | some entry => walk d names entry rest
      | none => if rest.isEmpty then .ok (.absent names) else .error .notFound

/-- Refuses a text that is no path, whatever the disk holds. -/
def checkPath (path : String) : Except FileError Unit :=
  if path.toList.contains (Char.ofNat 0) then .error .nulInName
  else if path.isEmpty then .error .notFound
  else if longestPath < path.utf8ByteSize then .error .nameTooLong
  else .ok ()

/-- Where names lead from the root or the working directory, wherever the path starts. -/
def follow (d : Disk) (path : String) (names : List String) : Except FileError Place := do
  checkPath path
  d.walk (if path.toList.head? = some '/' then [] else d.workingDirectory) .directory names

/-- Where a path leads. -/
def find (d : Disk) (path : String) : Except FileError Place := d.follow path (Path.names path)

/-- The names of a path without the slashes at its end. -/
def trimmedNames (path : String) : List String :=
  Path.names (String.ofList (path.toList.reverse.dropWhile (· == '/')).reverse)

def readFile (d : Disk) (path : String) : Except FileError (List UInt8) := do
  match ← d.find path with
  | .present _ .directory => throw .isDirectory
  | .present _ (.file bytes) => return bytes
  | .present _ (.picture frame) => return Png.encode frame
  | .absent _ => throw .notFound

def isDirectory (d : Disk) (path : String) : Bool :=
  match d.find path with
  | .ok (.present _ .directory) => true
  | _ => false

/-- Makes a directory where nothing is. -/
def makeDirectory (d : Disk) (path : String) : Except FileError Disk := do
  match ← d.follow path (trimmedNames path) with
  | .present _ _ => throw .exists
  | .absent names => return d.put names .directory

/-- Writes a picture, over a file if there is one. A path with a slash at its end is refused in any
directory that is there. -/
def writePicture (d : Disk) (path : String) (frame : Frame) : Except FileError Disk := do
  if path.toList.getLast? = some '/' then
    let _ ← d.follow path ((trimmedNames path).dropLast ++ [""])
    throw .isDirectory
  match ← d.find path with
  | .present _ .directory => throw .isDirectory
  | .present names _ | .absent names => return d.put names (.picture frame)

/-- Changes the disk, or leaves it as it was. -/
def attempt (change : Disk → Except FileError Disk) : StateM Disk (Except FileError Unit) := do
  match change (← get) with
  | .ok d =>
    set d
    return .ok ()
  | .error e => return .error e

/-- The disk as a file system. -/
def fileSystem : FileSystem (StateM Disk) where
  readFile path := return (← get).readFile path
  isDirectory path := return (← get).isDirectory path
  makeDirectory path := attempt fun d => d.makeDirectory path
  writePicture path frame := attempt fun d => d.writePicture path frame

end Disk

end CdGraphics
