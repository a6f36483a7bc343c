/-
Files of variables. A line binds a name to a value; the value may stand
in quotes, and then go over several lines, and a comment may follow. A
statement that does not fit is passed over, and its line is noted.

In a value, the name of another variable in braces behind a dollar sign
stands for its value, or for what is given as its default.
-/
import SchemaAudit.Text.Blank
import SchemaAudit.Text.Utf8

namespace SchemaAudit.Dotenv

/-- A statement: a binding, nothing, or text that does not fit. A name
without a sign of equality behind it is bound to nothing. -/
inductive Statement where
  | binding (name : String) (value : Option String)
  | nothing
  | misfit
  deriving DecidableEq

/-- A blank that ends no line. -/
def isGap (c : Char) : Bool := Text.isBlank c && c != '\n' && c != '\r'

/-- Whether a character ends a line. -/
def endsLine (c : Char) : Bool := c == '\n' || c == '\r'

/-- What is left behind the blanks in front. -/
def skipGap (cs : List Char) : List Char := cs.dropWhile isGap

-- ============================================================== escapes

/-- The character that a letter stands for behind a backslash. -/
def escape? : Char → Option Char
  | '\\' => some '\\'
  | '\'' => some '\''
  | '"' => some '"'
  | 'a' => some '\x07'
  | 'b' => some '\x08'
  | 'f' => some '\x0c'
  | 'n' => some '\n'
  | 'r' => some '\r'
  | 't' => some '\t'
  | 'v' => some '\x0b'
  | _ => none

/-- The characters that a backslash escapes between single quotes. -/
def singleEscape? (c : Char) : Option Char :=
  if c = '\\' ∨ c = '\'' then some c else none

/-- A text with its escapes taken out. -/
def unescape (escape? : Char → Option Char) : List Char → List Char
  | '\\' :: c :: rest =>
      match escape? c with
      | some d => d :: unescape escape? rest
      | none => '\\' :: unescape escape? (c :: rest)
  | c :: rest => c :: unescape escape? rest
  | [] => []
termination_by cs => cs.length

-- =============================================================== quotes

/-- The text up to the closing quote and what follows it. A backslash
takes the character behind it along, which may not be a line feed. -/
def quoted? (quote : Char) : List Char → Option (List Char × List Char)
  | [] => none
  | '\\' :: c :: rest =>
      if c = '\n' then none
      else (quoted? quote rest).map fun (inside, behind) =>
        ('\\' :: c :: inside, behind)
  | c :: rest =>
      if c = quote then some ([], rest)
      else (quoted? quote rest).map fun (inside, behind) =>
        (c :: inside, behind)

-- =============================================================== values

/-- A value without the comment behind it: blanks and a number sign. -/
def dropComment : List Char → List Char
  | [] => []
  | c :: rest =>
      if Text.isBlank c
          && (rest.dropWhile Text.isBlank).head? == some '#' then []
      else c :: dropComment rest

/-- A value without quotes, given all of its line behind the sign of
equality. -/
def bareValue (line : List Char) : List Char :=
  Text.trimBoth Text.isBlank (dropComment line)

/-- The value behind a sign of equality, and what follows it; what
follows is left for a misfit. -/
def readValue (cs : List Char) :
    Except (List Char) (List Char × List Char) :=
  match skipGap cs with
  | '\'' :: rest =>
      match quoted? '\'' rest with
      | some (value, rest) => .ok (unescape singleEscape? value, rest)
      | none => .error cs
  | '"' :: rest =>
      match quoted? '"' rest with
      | some (value, rest) => .ok (unescape escape? value, rest)
      | none => .error cs
  | _ =>
      let line := cs.takeWhile fun c => !endsLine c
      .ok (bareValue line, cs.drop line.length)

/-- The name in front of a statement, none before a comment, and what
follows it. -/
def readName (cs : List Char) :
    Except (List Char) (Option String × List Char) :=
  match cs with
  | '#' :: _ => .ok (none, cs)
  | '\'' :: rest =>
      let name := rest.takeWhile (· != '\'')
      match rest.drop name.length with
      | _ :: behind =>
          if name.isEmpty then .error cs
          else .ok (some (String.ofList name), behind)
      | [] => .error cs
  | _ =>
      let name := cs.takeWhile fun c =>
        c != '=' && c != '#' && !Text.isBlank c
      if name.isEmpty then .error cs
      else .ok (some (String.ofList name), cs.drop name.length)

/-- The word `export` and the blanks behind it, if both are there. -/
def skipExport (cs : List Char) : List Char :=
  let word := "export".toList
  if word.isPrefixOf cs then
    let rest := cs.drop word.length
    if (rest.head?.map isGap).getD false then skipGap rest else cs
  else cs

/-- What is left behind a comment. -/
def skipComment (cs : List Char) : List Char :=
  match skipGap cs with
  | '#' :: rest => rest.dropWhile fun c => !endsLine c
  | _ => cs

/-- What is left behind the end of a line; anything else does not
fit. -/
def skipLineEnd (cs : List Char) : Except (List Char) (List Char) :=
  match skipGap cs with
  | [] => .ok []
  | '\r' :: '\n' :: rest => .ok rest
  | c :: rest => if endsLine c then .ok rest else .error cs

/-- The value of a statement behind its name. -/
def readBinding (cs : List Char) :
    Except (List Char) (Option String × List Char) :=
  match cs with
  | '=' :: rest => do
      let (value, rest) ← readValue rest
      .ok (some (String.ofList value), rest)
  | _ => .ok (none, cs)

/-- The statement in front and what follows it. -/
def readStatement (cs : List Char) :
    Except (List Char) (Statement × List Char) :=
  match cs.dropWhile Text.isBlank with
  | [] => .ok (.nothing, [])
  | cs => do
      let (name, rest) ← readName (skipExport cs)
      let (value, rest) ← readBinding (skipGap rest)
      let rest ← skipLineEnd (skipComment rest)
      match name with
      | some name => .ok (.binding name value, rest)
      | none => .ok (.nothing, rest)

/-- What is left behind the rest of a line. -/
def skipLine (cs : List Char) : List Char :=
  (cs.dropWhile fun c => !endsLine c).drop 1

-- ================================================================ files

/-- A statement with the number of the line on which it starts. -/
structure Numbered where
  line : Nat
  statement : Statement

/-- How many lines end in characters. -/
def lineEnds (cs : List Char) : Nat := cs.countP (· == '\n')

/-- Read statements, at most as many as told. -/
def readAll : (most line : Nat) → List Char → List Numbered
  | 0, _, _ => []
  | _, _, [] => []
  | most + 1, line, cs =>
      let (statement, rest) :=
        match readStatement cs with
        | .ok result => result
        | .error rest => (.misfit, skipLine rest)
      let next := line + lineEnds (cs.take (cs.length - rest.length))
      ⟨line, statement⟩ :: readAll most next rest

/-- The characters of a file's text: its lines end in line feeds, and a
byte order mark in front is left out. -/
def charsOf (text : String) : List Char :=
  match Text.unifyLineEnds text.toList with
  | '\ufeff' :: rest => rest
  | cs => cs

/-- The statements of a file's text. -/
def statements (text : String) : List Numbered :=
  let cs := charsOf text
  readAll (cs.length + 1) 1 cs

/-- The lines on which statements that do not fit start. -/
def misfits (ss : List Numbered) : List Nat :=
  (ss.filter fun s => s.statement == .misfit).map Numbered.line

/-- The warning on a statement that does not fit. -/
def misfitMessage (line : Nat) : String :=
  "python-dotenv could not parse statement starting at line "
    ++ toString line

/-- The bindings among statements. -/
def bindings (ss : List Numbered) : List (String × Option String) :=
  ss.filterMap fun s =>
    match s.statement with
    | .binding name value => some (name, value)
    | _ => none

-- ============================================================ variables

/-- A reference to a variable, given what stands behind the dollar sign
and the brace: its name, its default, and what follows. -/
def readReference? (cs : List Char) :
    Option (String × String × List Char) :=
  let name := cs.takeWhile fun c => c != '\x7d' && c != ':'
  match cs.drop name.length with
  | ':' :: '-' :: rest =>
      let other := rest.takeWhile (· != '\x7d')
      match rest.drop other.length with
      | _ :: rest =>
          some (String.ofList name, String.ofList other, rest)
      | [] => none
  | '\x7d' :: rest => some (String.ofList name, "", rest)
  | _ => none

/-- The value of a variable; one bound to nothing is empty, and one that
is not bound takes its default. -/
def valueOr (vars : List (String × Option String))
    (name other : String) : String :=
  match vars.find? fun e => e.1 == name with
  | some (_, some value) => value
  | some (_, none) => ""
  | none => other

/-- A value with its references replaced, at most as many as told. -/
def expand (vars : List (String × Option String)) :
    (most : Nat) → List Char → List Char
  | 0, cs => cs
  | _, [] => []
  | most + 1, '$' :: '\x7b' :: rest =>
      match readReference? rest with
      | some (name, other, rest) =>
          (valueOr vars name other).toList ++ expand vars most rest
      | none => '$' :: expand vars most ('\x7b' :: rest)
  | most + 1, c :: rest => c :: expand vars most rest

/-- Resolve the references in bindings. A reference looks among the
bindings before it, the last of a name first, and then at `outer`. -/
def resolve (outer : List (String × Option String)) :
    (before : List (String × Option String)) →
      List (String × Option String) → List (String × Option String)
  | _, [] => []
  | before, (name, value) :: rest =>
      let value := value.map fun v =>
        String.ofList (expand (before ++ outer) (v.length + 1) v.toList)
      (name, value) :: resolve outer ((name, value) :: before) rest

/-- The variables in the text of a file, given those of the
environment. -/
def read (environment : List (String × String)) (text : String) :
    List (String × Option String) :=
  resolve (environment.map fun e => (e.1, some e.2)) []
    (bindings (statements text))

end SchemaAudit.Dotenv
