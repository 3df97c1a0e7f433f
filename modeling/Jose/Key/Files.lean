import Jose.Json.Members
import Jose.Bytes
import Jose.Text.Pieces

/-!
A file tree as far as reading from it goes. A path is walked component by component from the working
folder; what lies outside that folder is unknown but for being folders on the way to it.
-/

namespace Jose

inductive FileError where
  | missing
  | notFolder
  | isFolder
  | nameTooLong
  | nulInName
  | notText
  deriving DecidableEq, Repr

namespace FileError

def message : FileError → String
  | missing => "No such file or directory (os error 2)"
  | notFolder => "Not a directory (os error 20)"
  | isFolder => "Is a directory (os error 21)"
  | nameTooLong => "File name too long (os error 36)"
  | nulInName => "file name contained an unexpected NUL byte"
  | notText => "stream did not contain valid UTF-8"

end FileError

abbrev FilePlace := List String

structure Files where
  contents : List (FilePlace × Bytes)
  folders : List FilePlace
  deriving Repr

namespace Files

def components (path : String) : List String := (Text.pieces '/' path.toList).map String.ofList

def place (path : String) : FilePlace := (components path).filter fun part => part ≠ ""

def foldersAbove (target : FilePlace) : List FilePlace :=
  (List.range target.length).map target.take

def empty : Files := ⟨[], []⟩

def write (path : String) (bytes : Bytes) (files : Files) : Files :=
  let target := place path
  let others := files.contents.filter fun entry => entry.1 ≠ target
  ⟨(target, bytes) :: others, foldersAbove target ++ files.folders⟩

def remove (path : String) (files : Files) : Files :=
  { files with contents := files.contents.filter fun entry => entry.1 ≠ place path }

inductive Spot where
  | inside (folder : FilePlace)
  | outside
  | file (bytes : Bytes)

/-- The longest name of a component, in octets. -/
def longestName : Nat := 255

/-- The longest path, in octets. -/
def longestPath : Nat := 4095

def walkPart (files : Files) (spot : Spot) (part : String) : Except FileError Spot :=
  match spot with
  | .file _ => .error .notFolder
  | .outside =>
      if part = "" ∨ part = "." ∨ part = ".." then .ok .outside
      else if longestName < part.utf8ByteSize then .error .nameTooLong
      else .error .missing
  | .inside folder =>
      if part = "" ∨ part = "." then .ok spot
      else if part = ".." then .ok (if folder = [] then .outside else .inside folder.dropLast)
      else if longestName < part.utf8ByteSize then .error .nameTooLong
      else
        let target := folder ++ [part]
        match files.contents.lookup target with
        | some bytes => .ok (.file bytes)
        | none => if files.folders.contains target then .ok (.inside target) else .error .missing

def walk (files : Files) : Spot → List String → Except FileError Spot
  | spot, [] => .ok spot
  | spot, part :: rest => do
      let next ← files.walkPart spot part
      walk files next rest

def read (path : String) (files : Files) : Except FileError Bytes :=
  if path.toList.contains '\x00' then .error .nulInName
  else if path = "" then .error .missing
  else if longestPath < path.utf8ByteSize then .error .nameTooLong
  else
    let start := if path.toList.head? = some '/' then Spot.outside else Spot.inside []
    match files.walk start (components path) with
    | .error problem => .error problem
    | .ok (.file bytes) => .ok bytes
    | .ok _ => .error .isFolder

def readText (path : String) (files : Files) : Except FileError String := do
  let bytes ← files.read path
  match Bytes.text? bytes with
  | some text => .ok text
  | none => .error .notText

/-- A location below a base folder; slashes in front of the location do not count. -/
def join (base location : String) : String :=
  let below := String.ofList (location.toList.dropWhile (· = '/'))
  if base = "" ∨ base.toList.getLast? = some '/' then base ++ below
  else base ++ "/" ++ below

end Files

end Jose
