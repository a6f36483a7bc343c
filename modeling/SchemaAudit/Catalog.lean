/-
Catalogs of metadata fields: a list of definitions at hand, or a file
that holds one as JSON and is read again each time. A file that is not
there, cannot be read, is no UTF-8, no JSON or no list of definitions is
refused whole.

What stands at the path is part of the catalog here (`FileContent`),
since the files of a system are no part of the program: whoever builds a
catalog says what is found when it is read. What stands there may change
between two loads, and then there is another catalog behind the same
cache. The reasons for which the system refuses to read are kept apart,
for some of them are caught by one caller and by another not.
-/
import SchemaAudit.Data.Json.Reader
import SchemaAudit.Definition
import SchemaAudit.Text.Utf8

namespace SchemaAudit

/-- What stands at a path. -/
inductive FileContent where
  | missing
  | directory
  | nameTooLong
  /-- The system will not look at it or read it, for a reason of its
  own. -/
  | unreadable (reason : String)
  | bytes (content : List UInt8)

/-- A catalog of metadata fields. -/
inductive Catalog where
  | listed (definitions : List Definition)
  | file (path : String) (content : FileContent)

/-- Why a catalog cannot be read. -/
inductive CatalogFault where
  | missingFile (path : String)
  | isDirectory (path : String)
  | nameTooLong (path : String)
  | unreadable (reason : String)
  | undecodable (fault : Text.Utf8Fault)
  | malformed (fault : Json.ReadFault)
  | invalid (issues : List Issue)

/-- The wording of a fault of a catalog. -/
def CatalogFault.message : CatalogFault → String
  | .missingFile path => "Metadata catalog not found: " ++ path
  | .isDirectory path =>
      "[Errno 21] Is a directory: " ++ Text.quoted path
  | .nameTooLong path =>
      "[Errno 36] File name too long: " ++ Text.quoted path
  | .unreadable reason => reason
  | .undecodable fault => fault.message
  | .malformed fault => fault.message
  | .invalid issues =>
      issueSummary "list[MetadataFieldDefinition]" issues

namespace Catalog

/-- Read the definitions in the bytes of a file. -/
def readBytes (content : List UInt8) :
    Except CatalogFault (List Definition) := do
  let text ← (Text.decodeUtf8 content).mapError .undecodable
  let lines := String.ofList (Text.unifyLineEnds text.toList)
  let value ← (Json.read lines).mapError .malformed
  (Definition.readList value).mapError .invalid

/-- The definitions of a catalog as they stand in it. -/
def entries : Catalog → Except CatalogFault (List Definition)
  | .listed definitions => .ok definitions
  | .file path .missing => .error (.missingFile path)
  | .file path .directory => .error (.isDirectory path)
  | .file path .nameTooLong => .error (.nameTooLong path)
  | .file _ (.unreadable reason) => .error (.unreadable reason)
  | .file _ (.bytes content) => readBytes content

/-- The definitions of a catalog in ascending order of their names. -/
def definitions (c : Catalog) : Except CatalogFault (List Definition) :=
  c.entries.map Definition.sortByName

end Catalog

end SchemaAudit
