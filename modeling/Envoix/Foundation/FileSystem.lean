import Mathlib.Tactic

/-! # A file system

What a program sees at a path, and the calls that read or remove it.  Links are followed: a path
stands for the object it leads to. -/

namespace FileSystem

/-- Components of a path from the root. -/
abbrev Path := List String

instance lawfulPath : LawfulBEq Path := inferInstance

def Path.join (path : Path) (component : String) : Path := path ++ [component]

inductive Node where
  | missing
  | file (content : List UInt8)
  | directory
  | failing (message : String)
deriving DecidableEq

abbrev Files := Path → Node

inductive IoError where
  | notFound
  | other (message : String)
deriving DecidableEq

def IoError.text : IoError → String
  | .notFound => "No such file or directory"
  | .other message => message

structure Metadata where
  isFile : Bool
  len : Nat

namespace Files

/-- The length of a directory has no meaning and is not looked at. -/
def metadata (files : Files) (path : Path) : Except IoError Metadata :=
  match files path with
  | .missing => .error .notFound
  | .file content => .ok { isFile := true, len := content.length }
  | .directory => .ok { isFile := false, len := 0 }
  | .failing message => .error (.other message)

/-- Opens a file and reads it to its end. -/
def read (files : Files) (path : Path) : Except IoError (List UInt8) :=
  match files path with
  | .missing => .error .notFound
  | .file content => .ok content
  | .directory => .error (.other "Is a directory")
  | .failing message => .error (.other message)

def tryExists (files : Files) (path : Path) : Except IoError Bool :=
  match files path with
  | .missing => .ok false
  | .failing message => .error (.other message)
  | _ => .ok true

def put (files : Files) (path : Path) (node : Node) : Files :=
  fun other => if other = path then node else files other

@[simp] theorem put_self (files : Files) (path : Path) (node : Node) :
    files.put path node path = node := by
  simp [put]

@[simp] theorem put_put (files : Files) (path : Path) (first second : Node) :
    (files.put path first).put path second = files.put path second := by
  funext other
  by_cases same : other = path <;> simp [put, same]

/-- A path stays missing when something is stored, unless that is where it is stored. -/
theorem put_eq_missing_iff {files : Files} {path other : Path} {node : Node}
    (stored : node ≠ .missing) :
    files.put path node other = .missing ↔ files other = .missing ∧ other ≠ path := by
  by_cases same : other = path <;> simp [put, same, stored]

/-- Removes a file; a directory is refused. -/
def removeFile (files : Files) (path : Path) : Except IoError Unit × Files :=
  match files path with
  | .missing => (.error .notFound, files)
  | .file _ => (.ok (), files.put path .missing)
  | .directory => (.error (.other "Is a directory"), files)
  | .failing message => (.error (.other message), files)

/-- The path holds a file of this many bytes. -/
def HasFile (files : Files) (path : Path) (length : Nat) : Prop :=
  ∃ content, files path = .file content ∧ content.length = length

theorem metadata_eq_file_iff {files : Files} {path : Path} {length : Nat} :
    (∃ found, files.metadata path = .ok found ∧ found.isFile = true ∧ found.len = length) ↔
      files.HasFile path length := by
  unfold metadata HasFile
  cases files path <;> simp

end Files

end FileSystem
