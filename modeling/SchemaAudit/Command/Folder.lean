/-
The working folder of a run and what is known of the world around it. A
path is followed part by part: every part but the last must lead to a
folder, two dots lead back, and no part may be too long.
-/
import SchemaAudit.Catalog
import SchemaAudit.Text.Path

namespace SchemaAudit

/-- Why nothing can be stored at a path. -/
inductive StoreFault where
  | missing (path : String)
  | directory (path : String)
  | underFile (path : String)
  | nameTooLong (path : String)
  | zeroByte
  deriving DecidableEq

/-- The wording of the reason. -/
def StoreFault.message : StoreFault → String
  | .missing path =>
      "[Errno 2] No such file or directory: " ++ Text.quoted path
  | .directory path => "[Errno 21] Is a directory: " ++ Text.quoted path
  | .underFile path => "[Errno 20] Not a directory: " ++ Text.quoted path
  | .nameTooLong path =>
      "[Errno 36] File name too long: " ++ Text.quoted path
  | .zeroByte => "embedded null byte"

/-- A working folder: the files in it and below it, by their paths from
it. -/
structure Folder where
  files : List (String × List UInt8)

namespace Folder

/-- What is found at the end of a path. -/
inductive Entry where
  | folder
  | file (content : List UInt8)
  | nothing
  deriving DecidableEq

/-- Why a path cannot be followed to its end. -/
inductive Obstacle where
  | missing
  | underFile
  | nameTooLong
  | zeroByte
  deriving DecidableEq

/-- The place of the working folder in the world, as names from the root.
Its own name is not known; no part of a path equals the empty name that
stands for it. -/
def home : List String := ["tmp", ""]

/-- The folders around the working folder that are always there. -/
def outerFolders : List (List String) :=
  [[], ["tmp"], ["dev"], ["etc"], ["usr"], ["var"], ["bin"], ["root"],
   ["home"], ["proc"], ["sys"], ["opt"], ["lib"]]

/-- The file around the working folder that is always there: what is
written to it is lost, and nothing can be read from it. -/
def sink : List String := ["dev", "null"]

/-- What stands at a place inside the working folder, given by names from
there. -/
def entryInside (f : Folder) (names : List String) : Entry :=
  match f.files.find? fun e => Text.pathParts e.1 == names with
  | some (_, content) => .file content
  | none =>
      if names.isEmpty
          || f.files.any fun e => names.isPrefixOf (Text.pathParts e.1) then
        .folder
      else .nothing

/-- What stands at a place, given by names from the root. -/
def entryAt (f : Folder) (place : List String) : Entry :=
  if home.isPrefixOf place then f.entryInside (place.drop home.length)
  else if outerFolders.contains place then .folder
  else if place = sink then .file []
  else .nothing

/-- The most bytes of a part of a path. -/
def maxNameBytes : Nat := 255

/-- The most bytes of a path. -/
def maxPathBytes : Nat := 4095

/-- The place that a part of a path leads to. -/
def step (place : List String) (part : String) : List String :=
  if part = ".." then place.dropLast else place ++ [part]

/-- Follow the parts of a path from a place. -/
def follow (f : Folder) (place : List String) :
    List String → Except Obstacle Entry
  | [] => .ok (f.entryAt place)
  | part :: rest =>
      match f.entryAt place with
      | .file _ => .error .underFile
      | .nothing => .error .missing
      | .folder =>
          if maxNameBytes < part.utf8ByteSize then .error .nameTooLong
          else follow f (step place part) rest

/-- What a path leads to. -/
def find (f : Folder) (path : String) : Except Obstacle Entry :=
  if path.contains '\x00' then .error .zeroByte
  else if maxPathBytes < path.utf8ByteSize then .error .nameTooLong
  else
    f.follow (if path.toList.head? = some '/' then [] else home)
      (Text.pathParts path)

/-- What can be read at a path. -/
def contentAt (f : Folder) (path : String) : FileContent :=
  match f.find path with
  | .ok .folder => .directory
  | .ok (.file content) => .bytes content
  | .error .nameTooLong => .nameTooLong
  | _ => .missing

/-- Why nothing can be stored at a path. -/
def storeFault? (f : Folder) (path : String) : Option StoreFault :=
  match f.find path with
  | .ok .folder => some (.directory path)
  | .ok _ => none
  | .error .missing => some (.missing path)
  | .error .underFile => some (.underFile path)
  | .error .nameTooLong => some (.nameTooLong path)
  | .error .zeroByte => some .zeroByte

end Folder

end SchemaAudit
