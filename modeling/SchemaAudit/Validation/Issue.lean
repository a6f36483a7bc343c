/-
What is wrong with a value that should have a given shape. Checking a
record collects every issue, each with the path to the value it is
about; the path grows at its front as an issue is handed from a part to
the whole.
-/

namespace SchemaAudit

/-- The kinds of issues. -/
inductive IssueKind where
  | missing
  | textExpected
  | textTooShort
  | flagExpected
  | flagUnknown
  | integerExpected
  | integerUnknown
  | integerTooLong
  | integerFraction
  | numberInfinite
  | numberExpected
  | numberUnknown
  | notGreater (bound : Nat)
  | notAtLeast (bound : Nat)
  | notAtMost (bound : Nat)
  | noChoice (choices : List String)
  | listExpected
  | recordExpected (name : String)
  | pathExpected
  | refused (reason : String)
  deriving DecidableEq, Repr

namespace IssueKind

/-- The code of a kind of issue. -/
def code : IssueKind → String
  | .missing => "missing"
  | .textExpected => "string_type"
  | .textTooShort => "string_too_short"
  | .flagExpected => "bool_type"
  | .flagUnknown => "bool_parsing"
  | .integerExpected => "int_type"
  | .integerUnknown => "int_parsing"
  | .integerTooLong => "int_parsing_size"
  | .integerFraction => "int_from_float"
  | .numberInfinite => "finite_number"
  | .numberExpected => "float_type"
  | .numberUnknown => "float_parsing"
  | .notGreater _ => "greater_than"
  | .notAtLeast _ => "greater_than_equal"
  | .notAtMost _ => "less_than_equal"
  | .noChoice _ => "enum"
  | .listExpected => "list_type"
  | .recordExpected _ => "model_type"
  | .pathExpected => "path_type"
  | .refused _ => "value_error"

/-- Choices in quotes, the last one behind the word `or`. -/
def choicesText : List String → String
  | [] => ""
  | [a] => "'" ++ a ++ "'"
  | [a, b] => "'" ++ a ++ "' or '" ++ b ++ "'"
  | a :: rest => "'" ++ a ++ "', " ++ choicesText rest

/-- The wording of a kind of issue. -/
def message : IssueKind → String
  | .missing => "Field required"
  | .textExpected => "Input should be a valid string"
  | .textTooShort => "String should have at least 1 character"
  | .flagExpected => "Input should be a valid boolean"
  | .flagUnknown =>
      "Input should be a valid boolean, unable to interpret input"
  | .integerExpected => "Input should be a valid integer"
  | .integerUnknown =>
      "Input should be a valid integer, unable to parse string as an "
        ++ "integer"
  | .integerTooLong =>
      "Unable to parse input string as an integer, exceeded maximum size"
  | .integerFraction =>
      "Input should be a valid integer, got a number with a fractional "
        ++ "part"
  | .numberInfinite => "Input should be a finite number"
  | .numberExpected => "Input should be a valid number"
  | .numberUnknown =>
      "Input should be a valid number, unable to parse string as a number"
  | .notGreater bound =>
      "Input should be greater than " ++ toString bound
  | .notAtLeast bound =>
      "Input should be greater than or equal to " ++ toString bound
  | .notAtMost bound =>
      "Input should be less than or equal to " ++ toString bound
  | .noChoice choices => "Input should be " ++ choicesText choices
  | .listExpected => "Input should be a valid list"
  | .recordExpected name =>
      "Input should be a valid dictionary or instance of " ++ name
  | .pathExpected =>
      "Input is not a valid path for <class 'pathlib.Path'>"
  | .refused reason => "Value error, " ++ reason

end IssueKind

/-- An issue with the path to the value it is about. -/
structure Issue where
  kind : IssueKind
  path : List String
  deriving DecidableEq

/-- An issue under one more step of its path. -/
def Issue.under (step : String) (i : Issue) : Issue :=
  { i with path := step :: i.path }

/-- The lines of an issue in a summary. -/
def Issue.lines (i : Issue) : List String :=
  let line := "  " ++ i.kind.message ++ " [type=" ++ i.kind.code ++ "]"
  if i.path.isEmpty then [line] else [".".intercalate i.path, line]

/-- The summary of the issues of a record. -/
def issueSummary (title : String) (issues : List Issue) : String :=
  let count := issues.length
  let head := toString count
    ++ (if count = 1 then " validation error for "
        else " validation errors for ") ++ title
  "\n".intercalate (head :: issues.flatMap Issue.lines)

end SchemaAudit
