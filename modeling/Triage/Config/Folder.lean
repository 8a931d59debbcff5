import Triage.Config.Load

/-!
# Folders of files

A folder holds files and no folders.  It is the working directory, and of the
world around it nothing is known but that the root and the folders above exist.
-/

namespace Triage.Config

/-- A folder: its files by name, with their texts. -/
structure Folder where
  files : Entries String

namespace Folder

/-- Where a walk along a path has come to. -/
inductive Position where
  | missing
  | folder
  | outside
  | file (name : String) (text : String)
deriving DecidableEq, Repr

/-- One step of a walk.  Nothing lies beyond a file. -/
def walk (folder : Folder) (position : Position) (piece : List Char) : Position :=
  match position with
  | .missing => .missing
  | .file _ _ => .missing
  | .folder =>
      if piece = [] ∨ piece = ['.'] then .folder
      else if piece = ['.', '.'] then .outside
      else
        let name := String.ofList piece
        match Entries.get? folder.files name with
        | some text => .file name text
        | none => .missing
  | .outside =>
      if piece = [] ∨ piece = ['.'] ∨ piece = ['.', '.'] then .outside else .missing

/-- Paths have fewer bytes than this. -/
def pathLimit : Nat := 4096

/-- What a path leads to. -/
def lookUp (folder : Folder) (path : String) : Target :=
  let start : Position :=
    match path.toList with
    | [] => .missing
    | '/' :: _ => if path.utf8ByteSize < pathLimit then .outside else .missing
    | _ => if path.utf8ByteSize < pathLimit then .folder else .missing
  match (path.toList.splitOnP (· = '/')).foldl folder.walk start with
  | .missing => .missing
  | .folder => .noFile
  | .outside => .noFile
  | .file name text => .file name text

end Folder

end Triage.Config
