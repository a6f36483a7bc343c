/-
How the log is set up: the level of the root logger, the form of its
lines, and the levels of single loggers. The two loggers of the HTTP
library pass warnings only.

A level is given by its word in any case, and a word that is none stands
for information. Two words are looked up successfully and are no levels,
since the table they are found in holds other things too; these are
refused (`LevelFault`).
-/
import SchemaAudit.Data.Table
import SchemaAudit.Text.Letter
import SchemaAudit.Text.Quoted

namespace SchemaAudit

/-- What a word names that is no level: the usual format of lines, or the
table of the styles that formats are written in. -/
inductive LevelFault where
  | format
  | styles
  deriving DecidableEq, Repr

/-- The usual format of lines, written in the three styles. -/
def LevelFault.usualFormat : Char → String
  | '%' => "%(levelname)s:%(name)s:%(message)s"
  | '$' =>
      "$\x7blevelname\x7d:$\x7bname\x7d:$\x7bmessage\x7d"
  | _ => "\x7blevelname\x7d:\x7bname\x7d:\x7bmessage\x7d"

/-- The entry of the table of styles for a style. -/
def LevelFault.styleEntry (mark : Char) (name : String) : String :=
  Text.quoted mark.toString ++ ": (<class 'logging." ++ name ++ "'>, "
    ++ Text.quoted (usualFormat mark) ++ ")"

/-- The wording of the refusal of a word. -/
def LevelFault.message : LevelFault → String
  | .format => "Unknown level: " ++ Text.quoted (usualFormat '%')
  | .styles =>
      "Level not an integer or a valid string: \x7b"
        ++ ", ".intercalate
          [styleEntry '%' "PercentStyle",
           styleEntry '\x7b' "StrFormatStyle",
           styleEntry '$' "StringTemplateStyle"]
        ++ "\x7d"

/-- The words for levels. -/
def levelWords : List (String × Int) :=
  [("CRITICAL", 50), ("FATAL", 50), ("ERROR", 40), ("WARNING", 30),
   ("WARN", 30), ("INFO", 20), ("DEBUG", 10), ("NOTSET", 0)]

/-- The level of a word in any case; an unknown word stands for
information. -/
def readLevel (word : String) : Except LevelFault Int :=
  let word := Text.upper word
  if word = "BASIC_FORMAT" then .error .format
  else if word = "_STYLES" then .error .styles
  else .ok (((levelWords.find? fun e => e.1 == word).map Prod.snd).getD 20)

/-- How the log is set up. -/
structure LogSetup where
  root : Int
  json : Bool
  loggers : Table String Int

namespace LogSetup

/-- The set-up before anything was asked for. -/
def initial : LogSetup := ⟨30, false, Table.empty⟩

/-- Whether a name is that of the root logger. -/
def isRoot (name : String) : Bool := name == "" || name == "root"

/-- Set the level of a logger. -/
def setLevel (s : LogSetup) (name : String) (level : Int) : LogSetup :=
  { s with
    root := if isRoot name then level else s.root
    loggers := s.loggers.put name level }

/-- Set the levels of loggers by their words. -/
def setLevels (s : LogSetup) :
    List (String × String) → Except LevelFault LogSetup
  | [] => .ok s
  | (name, word) :: rest => do
      let level ← readLevel word
      setLevels (s.setLevel name level) rest

/-- Set up the log. -/
def configure (s : LogSetup) (level : String) (json : Bool)
    (levels : List (String × String)) : Except LevelFault LogSetup := do
  let root ← readLevel level
  let s := ({ s with root, json }.setLevel "httpx" 30).setLevel
    "httpcore" 30
  s.setLevels levels

/-- The level of a logger that was set. -/
def levelOf (s : LogSetup) (name : String) : Int :=
  if isRoot name then s.root else (s.loggers.get? name).getD 0

/-- The format of the lines. -/
def format (s : LogSetup) : String :=
  if s.json then "%(message)s"
  else "%(asctime)s %(levelname)s [%(name)s] %(message)s"

end LogSetup

end SchemaAudit
