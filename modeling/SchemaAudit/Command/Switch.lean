/-
The switches of the command line and how a word of the line is taken for
one. A long switch may be cut short as long as the rest of its name is
not in doubt, and may carry its value behind an equals sign.
-/
import SchemaAudit.Text.Digit

namespace SchemaAudit

/-- The switches of the command line. -/
inductive Switch where
  | help
  | solrUrl
  | collection
  | catalog
  | timeout
  | json
  | failOnWarning
  | metricsFile
  deriving DecidableEq, Repr

namespace Switch

/-- Every spelling of a switch, in the order of the help text. -/
def spellings : List (String × Switch) :=
  [("-h", .help), ("--help", .help), ("--solr-url", .solrUrl),
   ("--collection", .collection), ("--catalog", .catalog),
   ("--timeout", .timeout), ("--json", .json),
   ("--fail-on-warning", .failOnWarning), ("--metrics-file", .metricsFile)]

/-- The name of a switch in messages: all its spellings. -/
def name (s : Switch) : String :=
  "/".intercalate ((spellings.filter fun e => e.2 == s).map Prod.fst)

/-- Whether a switch is followed by a value. -/
def takesValue : Switch → Bool
  | .help | .json | .failOnWarning => false
  | _ => true

/-- The switch of a spelling in full. -/
def ofSpelling? (s : String) : Option Switch :=
  (spellings.find? fun e => e.1 == s).map Prod.snd

end Switch

-- ================================================================ words

/-- What a word of the command line is taken for. -/
inductive CommandWord where
  /-- A value of a switch, or nothing that the program takes. -/
  | plain (text : String)
  /-- A switch and the value written in the same word. -/
  | switch (switch : Switch) (value : Option String)
  /-- The short switch for help with letters behind it, right there or
  behind an equals sign. -/
  | helpLetters (letters : List Char)
  /-- A switch that the program does not have. -/
  | unknown (text : String)

/-- A word that may be the beginning of several switches. -/
structure AmbiguousWord where
  text : String
  spellings : List String
  deriving DecidableEq

namespace CommandWord

/-- A word parted at its first equals sign. -/
def partAtEquals (s : String) : String × Option String :=
  let cs := s.toList
  let front := cs.takeWhile (· != '=')
  match cs.drop front.length with
  | _ :: rest => (String.ofList front, some (String.ofList rest))
  | [] => (s, none)

/-- The spellings that a word is the beginning of. -/
def completions (s : String) : List (String × Switch) :=
  Switch.spellings.filter fun e => s.toList.isPrefixOf e.1.toList

/-- Whether characters are a row of digits. -/
def areDigits (cs : List Char) : Bool :=
  !cs.isEmpty && cs.all fun c => (Text.digitValue? c).isSome

/-- Whether a word is a minus with an integer or a fraction. -/
def isNegativeNumber (s : String) : Bool :=
  match s.toList with
  | '-' :: cs =>
      let cs := if cs.getLast? == some '\n' then cs.dropLast else cs
      let ints := cs.takeWhile fun c => (Text.digitValue? c).isSome
      match cs.drop ints.length with
      | [] => areDigits ints
      | '.' :: fracs => areDigits fracs
      | _ => false
  | _ => false

/-- What a word is taken for that no switch begins with. -/
def fallback (s : String) : CommandWord :=
  if isNegativeNumber s || s.contains ' ' then .plain s else .unknown s

/-- What a word that starts with a dash and has no spelling in full is
taken for. -/
def guess (s : String) : Except AmbiguousWord CommandWord :=
  match s.toList with
  | '-' :: '-' :: _ =>
      let (front, value) := partAtEquals s
      match completions front with
      | [] => .ok (fallback s)
      | [(_, found)] => .ok (.switch found value)
      | several => .error ⟨s, several.map Prod.fst⟩
  | '-' :: 'h' :: letters => .ok (.helpLetters letters)
  | _ => .ok (fallback s)

/-- What a word is taken for. -/
def read (s : String) : Except AmbiguousWord CommandWord :=
  if s.toList.head? != some '-' || s == "-" then .ok (.plain s)
  else
    match Switch.ofSpelling? s with
    | some found => .ok (.switch found none)
    | none =>
        match partAtEquals s with
        | (front, some value) =>
            if front = "-h" ∧ value ≠ "" then .ok (.helpLetters value.toList)
            else
              match Switch.ofSpelling? front with
              | some found => .ok (.switch found (some value))
              | none => guess s
        | (_, none) => guess s

end CommandWord

end SchemaAudit
