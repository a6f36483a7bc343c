/-
Lower case of text in any script. Two letters need care: the capital I
with a dot becomes two characters, and the capital sigma has a form of its
own at the end of a word.
-/
import SchemaAudit.Text.Case.Table
import SchemaAudit.Text.Ranges

namespace SchemaAudit.Text

/-- Whether a character has a case. -/
def isCased (c : Char) : Bool := inRanges c.toNat casedRanges

/-- Whether a character is passed over when the end of a word is looked
for. -/
def isCaseIgnorable (c : Char) : Bool :=
  inRanges c.toNat caseIgnorableRanges

/-- The lower case of a code point by runs of letters. -/
def lowerPoint (n : Nat) : List (Nat × Nat × Nat × Nat) → Nat
  | [] => n
  | (first, last, step, lower) :: rest =>
      if n < first then n
      else if n ≤ last ∧ (n - first) % step = 0 then lower + (n - first)
      else lowerPoint n rest

/-- Whether the first character that is not passed over has a case. -/
def startsCased (cs : List Char) : Bool :=
  ((cs.dropWhile isCaseIgnorable).head?.map isCased).getD false

/-- The lower case of characters, given those in front of them from the
last to the first. -/
def lowerChars (before : List Char) : List Char → List Char
  | [] => []
  | c :: rest =>
      let here :=
        if c = '\u0130' then ['i', '\u0307']
        else if c = '\u03a3' then
          [if startsCased before && !startsCased rest then '\u03c2'
            else '\u03c3']
        else [Char.ofNat (lowerPoint c.toNat lowerRuns)]
      here ++ lowerChars (c :: before) rest

/-- A text in lower case. -/
def lowerCase (s : String) : String :=
  String.ofList (lowerChars [] s.toList)

end SchemaAudit.Text
