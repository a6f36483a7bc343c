/-
Faults that are attached to records and spans: a kind and what the fault
was made of. A fault of the system is made of a number and a text, and
its number may give it a narrower kind.
-/
import SchemaAudit.Data.Json

namespace SchemaAudit

/-- Items between brackets; a single one is followed by a comma. -/
def tupleLiteral : List String → String
  | [] => "()"
  | [s] => "(" ++ s ++ ",)"
  | ss => "(" ++ ", ".intercalate ss ++ ")"

/-- A fault that was raised: its kind and what it was made of. -/
structure Raised where
  kind : String
  args : List Json

namespace Raised

-- ================================================= faults of the system

/-- The kinds of faults of the system that a number stands for. -/
def systemKinds : List (Int × String) :=
  [(1, "PermissionError"), (2, "FileNotFoundError"),
   (3, "ProcessLookupError"), (4, "InterruptedError"),
   (10, "ChildProcessError"), (11, "BlockingIOError"),
   (13, "PermissionError"), (17, "FileExistsError"),
   (20, "NotADirectoryError"), (21, "IsADirectoryError"),
   (32, "BrokenPipeError"), (103, "ConnectionAbortedError"),
   (104, "ConnectionResetError"), (108, "BrokenPipeError"),
   (110, "TimeoutError"), (111, "ConnectionRefusedError"),
   (114, "BlockingIOError"), (115, "BlockingIOError")]

/-- The names of faults of the system in general. -/
def systemNames : List String :=
  ["OSError", "IOError", "EnvironmentError"]

/-- Whether a kind is one of faults of the system. -/
def isSystemKind (kind : String) : Bool :=
  systemNames.contains kind || kind == "ConnectionError"
    || systemKinds.any fun e => e.2 == kind

/-- The kind of a fault of the system in general, by its number. -/
def systemKind : List Json → String
  | .int n :: _ :: _ =>
      ((systemKinds.find? fun e => e.1 == n).map Prod.snd).getD "OSError"
  | _ => "OSError"

/-- A fault of a kind, made of some values. -/
def make (kind : String) (args : List Json) : Raised :=
  ⟨if systemNames.contains kind then systemKind args else kind, args⟩

/-- The text of a fault of the system: its number and its text, and the
files that it is about. -/
def systemText (number text : Json) (files : List Json) : String :=
  let files := files.filter (· != .null)
  "[Errno " ++ number.shown ++ "] " ++ text.shown
    ++ (if files.isEmpty then ""
      else ": " ++ " -> ".intercalate (files.map Json.literal))

/-- The files among the values behind the number and the text of a fault
of the system; the second of the three is no file. -/
def systemFiles : List Json → List Json
  | [] => []
  | [file] => [file]
  | [file, _] => [file]
  | file :: _ :: other :: _ => [file, other]

-- ================================================================ texts

/-- The text of a fault. A missing key is shown as a literal. -/
def text (r : Raised) : String :=
  match r.args with
  | [] => ""
  | [v] => if r.kind = "KeyError" then v.literal else v.shown
  | number :: text :: rest =>
      if isSystemKind r.kind then systemText number text (systemFiles rest)
      else tupleLiteral (r.args.map Json.literal)

/-- The line of a fault: its kind and its text if it has one. -/
def line (r : Raised) : String :=
  if r.text = "" then r.kind else r.kind ++ ": " ++ r.text

/-- What a fault prints. -/
def literal (r : Raised) : String :=
  let args := if isSystemKind r.kind then r.args.take 2 else r.args
  r.kind ++ "(" ++ ", ".intercalate (args.map Json.literal) ++ ")"

/-- Whether a fault is an ordinary one, and not a request to stop. -/
def isOrdinary (r : Raised) : Bool :=
  ! ["BaseException", "KeyboardInterrupt", "SystemExit",
    "GeneratorExit"].contains r.kind

end Raised

end SchemaAudit
