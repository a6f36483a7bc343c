/-
Writing JSON text: compact, on one line, characters outside ASCII as they
are. An integer must fit in 64 bits, signed or unsigned, and values may
not be nested too deep; infinities and the number that is no number are
written as null.
-/
import SchemaAudit.Data.Json

namespace SchemaAudit.Json

/-- In JSON text a double stands without an exponent from 0.00001 up to
sixteen digits before the point; an exponent is not filled with zeros. -/
def jsonDecimals : DecimalLayout :=
  ⟨-5, 15, 1, "null", false, "null"⟩

/-- Whether an integer fits in 64 bits. -/
def fitsWord (n : Int) : Bool :=
  -0x8000000000000000 ≤ n && n < 0x10000000000000000

/-- Why a value cannot be written. -/
inductive WriteFault where
  | integerRange
  | halfCharacter
  | tooDeep
  deriving DecidableEq, Repr

/-- The wording of a refusal to write. -/
def WriteFault.message : WriteFault → String
  | .integerRange => "Integer exceeds 64-bit range"
  | .halfCharacter => "str is not valid UTF-8: surrogates not allowed"
  | .tooDeep => "Recursion limit reached"

/-- How many arrays and objects may stand in one another, empty ones not
counted. -/
def maxNesting : Nat := 254

mutual

/-- The first reason not to write a value, given how many arrays and
objects it may open. -/
def fault? (room : Nat) : Json → Option WriteFault
  | .int n => if fitsWord n then none else some .integerRange
  | .arr [] => none
  | .arr (v :: rest) =>
      match room with
      | 0 => some .tooDeep
      | room + 1 => (fault? room v).or (itemsFault? room rest)
  | .obj [] => none
  | .obj ((_, v) :: rest) =>
      match room with
      | 0 => some .tooDeep
      | room + 1 => (fault? room v).or (entriesFault? room rest)
  | _ => none

/-- The first reason not to write some values. -/
def itemsFault? (room : Nat) : List Json → Option WriteFault
  | [] => none
  | v :: rest => (fault? room v).or (itemsFault? room rest)

/-- The first reason not to write some entries. -/
def entriesFault? (room : Nat) : List (String × Json) → Option WriteFault
  | [] => none
  | (_, v) :: rest => (fault? room v).or (entriesFault? room rest)

end

/-- A character between the quotes of a JSON string. -/
def escapeChar (c : Char) : List Char :=
  if c = '"' then ['\\', '"']
  else if c = '\\' then ['\\', '\\']
  else if c = '\x08' then ['\\', 'b']
  else if c = '\t' then ['\\', 't']
  else if c = '\n' then ['\\', 'n']
  else if c = '\x0c' then ['\\', 'f']
  else if c = '\r' then ['\\', 'r']
  else if c.toNat < 0x20 then '\\' :: 'u' :: Text.hex 4 c.toNat
  else [c]

/-- A JSON string. -/
def quoteChars (s : String) : List Char :=
  '"' :: s.toList.flatMap escapeChar ++ ['"']

mutual

/-- The characters of a value. -/
def chars : Json → List Char
  | .null => "null".toList
  | .bool true => "true".toList
  | .bool false => "false".toList
  | .int n => (toString n).toList
  | .float x => (jsonDecimals.render x).toList
  | .str s => quoteChars s
  | .arr items => '[' :: itemChars items ++ [']']
  | .obj entries => '\x7b' :: entryChars entries ++ ['\x7d']

/-- The characters of the items of an array. -/
def itemChars : List Json → List Char
  | [] => []
  | [v] => chars v
  | v :: rest => chars v ++ ',' :: itemChars rest

/-- The characters of the entries of an object. -/
def entryChars : List (String × Json) → List Char
  | [] => []
  | [(k, v)] => quoteChars k ++ ':' :: chars v
  | (k, v) :: rest =>
      quoteChars k ++ ':' :: chars v ++ ',' :: entryChars rest

end

/-- The text of a value, if it can be written. -/
def write (v : Json) : Except WriteFault String :=
  match v.fault? maxNesting with
  | none => .ok (String.ofList v.chars)
  | some fault => .error fault

/-- Insert an entry in front of the first greater key. -/
def insertByKey (e : String × Json) :
    List (String × Json) → List (String × Json)
  | [] => [e]
  | f :: rest => if e.1 < f.1 then e :: f :: rest else f :: insertByKey e rest

mutual

/-- The value with the keys of every object in ascending order. -/
def sortKeys : Json → Json
  | .arr items => .arr (sortItems items)
  | .obj entries => .obj (sortEntries entries)
  | v => v

/-- Items with sorted keys. -/
def sortItems : List Json → List Json
  | [] => []
  | v :: rest => sortKeys v :: sortItems rest

/-- Entries in ascending order of their keys. -/
def sortEntries : List (String × Json) → List (String × Json)
  | [] => []
  | (k, v) :: rest => insertByKey (k, sortKeys v) (sortEntries rest)

end

end SchemaAudit.Json
