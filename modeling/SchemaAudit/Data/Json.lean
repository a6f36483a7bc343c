/-
JSON values. Integers and doubles are kept apart, and the entries of an
object stand in the order in which they were written.

`literal` is the text of a value inside a message, `shown` the same but
for a string, which stands for itself.
-/
import SchemaAudit.Number.Shortest
import SchemaAudit.Text.Quoted

namespace SchemaAudit

/-- A JSON value. -/
inductive Json where
  | null
  | bool (b : Bool)
  | int (n : Int)
  | float (x : Binary64)
  | str (s : String)
  | arr (items : List Json)
  | obj (entries : List (String × Json))
  deriving BEq, Inhabited

/-- In messages a double stands without an exponent from 0.0001 up to
sixteen digits before the point; an exponent has at least two digits. -/
def messageDecimals : DecimalLayout :=
  ⟨-4, 15, 2, "inf", true, "nan"⟩

namespace Json

-- ============================================================= access

/-- The first value of a key among the entries of an object. -/
def find? (key : String) : List (String × Json) → Option Json
  | [] => none
  | e :: rest => if e.1 = key then some e.2 else find? key rest

/-- The value of a key of an object. -/
def field? (key : String) : Json → Option Json
  | .obj entries => find? key entries
  | _ => none

/-- The text of a string value. -/
def str? : Json → Option String
  | .str s => some s
  | _ => none

/-- Whether a value counts as present: not null, false, zero or empty. -/
def isTruthy : Json → Bool
  | .null => false
  | .bool b => b
  | .int n => n != 0
  | .float x => x.isNaN || !x.equalsInt 0
  | .str s => !s.isEmpty
  | .arr items => !items.isEmpty
  | .obj entries => !entries.isEmpty

/-- The word for the kind of a value in messages. -/
def kindWord : Json → String
  | .null => "NoneType"
  | .bool _ => "bool"
  | .int _ => "int"
  | .float _ => "float"
  | .str _ => "str"
  | .arr _ => "list"
  | .obj _ => "dict"

-- =================================================== text in messages

mutual

/-- The text of a value inside a message. -/
def literal : Json → String
  | .null => "None"
  | .bool true => "True"
  | .bool false => "False"
  | .int n => toString n
  | .float x => messageDecimals.render x
  | .str s => Text.quoted s
  | .arr items => "[" ++ literalItems items ++ "]"
  | .obj entries => "\x7b" ++ literalEntries entries ++ "\x7d"

/-- The items of an array, separated by commas. -/
def literalItems : List Json → String
  | [] => ""
  | [v] => literal v
  | v :: rest => literal v ++ ", " ++ literalItems rest

/-- The entries of an object, separated by commas. -/
def literalEntries : List (String × Json) → String
  | [] => ""
  | [(k, v)] => Text.quoted k ++ ": " ++ literal v
  | (k, v) :: rest =>
      Text.quoted k ++ ": " ++ literal v ++ ", " ++ literalEntries rest

end

/-- The text of a value on its own: a string stands for itself. -/
def shown : Json → String
  | .str s => s
  | v => v.literal

-- ========================================================= same value

/-- Whether two scalars are the same number, `true` counting as one and
`false` as zero. -/
def sameNumber : Json → Json → Bool
  | .float x, .float y => x.same y
  | .float x, .int n => x.equalsInt n
  | .float x, .bool b => x.equalsInt b.toInt
  | .int n, .float x => x.equalsInt n
  | .bool b, .float x => x.equalsInt b.toInt
  | .int n, .int m => n == m
  | .int n, .bool b => n == b.toInt
  | .bool b, .int n => n == b.toInt
  | .bool a, .bool b => a == b
  | _, _ => false

mutual

/-- Whether two values are equal by value: numbers across their kinds,
arrays item by item, objects key by key in any order. -/
def same : Json → Json → Bool
  | .null, .null => true
  | .str s, .str t => s == t
  | .arr xs, .arr ys => sameItems xs ys
  | .obj xs, .obj ys => xs.length == ys.length && sameEntries xs ys
  | x, y => sameNumber x y

/-- Whether two lists of values agree item by item. -/
def sameItems : List Json → List Json → Bool
  | [], [] => true
  | x :: xs, y :: ys => same x y && sameItems xs ys
  | _, _ => false

/-- Whether every entry has a partner of the same value. -/
def sameEntries : List (String × Json) → List (String × Json) → Bool
  | [], _ => true
  | (k, v) :: xs, ys =>
      (match find? k ys with
        | some w => same v w
        | none => false) && sameEntries xs ys

end

end Json

end SchemaAudit
