/-
The arguments of the program. First every word of the command line is
taken for a value or a switch; then the switches act one after another,
each with the value behind it. What stands behind a word of two dashes is
never a switch. Words that no switch uses are refused in the end, all of
them at once.
-/
import SchemaAudit.Command.Switch
import SchemaAudit.Number.Numeral
import SchemaAudit.Text.Quoted

namespace SchemaAudit

/-- What the command line asks for. -/
structure Arguments where
  solrUrl : Option String
  collection : Option String
  catalog : Option String
  timeout : Option Binary64
  json : Bool
  failOnWarning : Bool
  metricsFile : Option String

/-- What is wrong with a command line. -/
inductive ArgumentFault where
  | ambiguous (word : AmbiguousWord)
  | withoutValue (switch : Switch)
  | withValue (switch : Switch) (value : String)
  | notANumber (switch : Switch) (value : String)
  | unrecognized (words : List String)
  deriving DecidableEq

/-- The wording of a fault of the command line. -/
def ArgumentFault.message : ArgumentFault → String
  | .ambiguous word =>
      "ambiguous option: " ++ word.text ++ " could match "
        ++ ", ".intercalate word.spellings
  | .withoutValue s => "argument " ++ s.name ++ ": expected one argument"
  | .withValue s value =>
      "argument " ++ s.name ++ ": ignored explicit argument "
        ++ Text.quoted value
  | .notANumber s value =>
      "argument " ++ s.name ++ ": invalid float value: " ++ Text.quoted value
  | .unrecognized words =>
      "unrecognized arguments: " ++ " ".intercalate words

/-- What a command line comes to. -/
inductive CommandLine where
  | help
  | refused (fault : ArgumentFault)
  /-- The value written with a switch was the mark of two dashes, which
  counts as no word at all. -/
  | valueLost
  | run (arguments : Arguments)

/-- The wording for a value that was lost. -/
def CommandLine.valueLostMessage : String :=
  "not enough values to unpack (expected 1, got 0)"

namespace Arguments

/-- The arguments of an empty command line. -/
def none : Arguments :=
  ⟨.none, .none, .none, .none, false, false, .none⟩

-- =============================================================== words

/-- A word with what stood for it on the command line. -/
structure Read where
  text : String
  word : CommandWord

/-- The words of a command line, each taken for what it is. -/
def readWords : List String → Except AmbiguousWord (List Read)
  | [] => .ok []
  | s :: rest =>
      if s = "--" then
        .ok (⟨s, .unknown s⟩ :: rest.map fun s => ⟨s, .plain s⟩)
      else do
        let word ← CommandWord.read s
        let others ← readWords rest
        .ok (⟨s, word⟩ :: others)

-- ============================================================= switches

/-- Set what a switch with a value stands for. -/
def assign (a : Arguments) (s : Switch) (value : String) :
    Except ArgumentFault Arguments :=
  match s with
  | .solrUrl => .ok { a with solrUrl := some value }
  | .collection => .ok { a with collection := some value }
  | .catalog => .ok { a with catalog := some value }
  | .metricsFile => .ok { a with metricsFile := some value }
  | .timeout =>
      match Number.readArgument? value with
      | some x => .ok { a with timeout := some x }
      | .none => .error (.notANumber s value)
  | _ => .ok a

/-- Set what a switch without a value stands for. -/
def raise (a : Arguments) : Switch → Arguments
  | .json => { a with json := true }
  | .failOnWarning => { a with failOnWarning := true }
  | _ => a

/-- The value that letters behind the short switch for help give it. More
letters for help give none; any other is the beginning of a value. -/
def lettersValue? (letters : List Char) : Option (List Char) :=
  match letters.dropWhile (· == 'h') with
  | [] => .none
  | value => some value

/-- Let the switches act in order; `extras` are the words so far that no
switch used. -/
def act (a : Arguments) (extras : List String) : List Read → CommandLine
  | [] =>
      if extras.isEmpty then .run a else .refused (.unrecognized extras)
  | ⟨_, .helpLetters letters⟩ :: _ =>
      match lettersValue? letters with
      | some value => .refused (.withValue .help (String.ofList value))
      | .none => .help
  | ⟨_, .switch s value⟩ :: rest =>
      if s.takesValue then
        match value, rest with
        | some "--", _ => .valueLost
        | some value, rest =>
            match a.assign s value with
            | .ok a => act a extras rest
            | .error fault => .refused fault
        | .none, ⟨_, .plain value⟩ :: rest =>
            match a.assign s value with
            | .ok a => act a extras rest
            | .error fault => .refused fault
        | .none, _ => .refused (.withoutValue s)
      else
        match value with
        | some value => .refused (.withValue s value)
        | .none =>
            if s = .help then .help else act (a.raise s) extras rest
  | ⟨text, _⟩ :: rest => act a (extras ++ [text]) rest

/-- What a command line comes to. -/
def read (words : List String) : CommandLine :=
  match readWords words with
  | .error word => .refused (.ambiguous word)
  | .ok words => act none [] words

end Arguments

end SchemaAudit
