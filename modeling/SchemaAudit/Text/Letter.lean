/-
Letter case, as far as the result can be ASCII. Words of the program are
ASCII, so a text can only be such a word after a change of case if each
of its characters maps into ASCII: the letters themselves, and the few
characters outside ASCII listed here.
-/

namespace SchemaAudit.Text

/-- The lower case of a character; the Kelvin sign is the one character
outside ASCII whose lower case is an ASCII letter. -/
def lowerChar (c : Char) : Char :=
  if c = '\u212a' then 'k' else c.toLower

/-- A text in lower case, exact wherever the result is ASCII. -/
def lower (s : String) : String := s.map lowerChar

/-- The upper case of a character: the dotless i, the long s, the sharp s
and the Latin ligatures have ASCII upper cases, some of several
letters. -/
def upperChar (c : Char) : List Char :=
  match c.toNat with
  | 0x131 => ['I']
  | 0x17f => ['S']
  | 0xdf => ['S', 'S']
  | 0xfb00 => ['F', 'F']
  | 0xfb01 => ['F', 'I']
  | 0xfb02 => ['F', 'L']
  | 0xfb03 => ['F', 'F', 'I']
  | 0xfb04 => ['F', 'F', 'L']
  | 0xfb05 => ['S', 'T']
  | 0xfb06 => ['S', 'T']
  | _ => [c.toUpper]

/-- A text in upper case, exact wherever the result is ASCII. -/
def upper (s : String) : String :=
  String.ofList (s.toList.flatMap upperChar)

/-- Whether two texts agree but for the case of ASCII letters. -/
def sameLetters (s t : String) : Bool :=
  s.toList.map Char.toLower == t.toList.map Char.toLower

end SchemaAudit.Text
