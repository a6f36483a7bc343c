/-
Quoting in URLs: a character outside the set of its part is written as
bytes in hexadecimal after percent signs. What is quoted already stays,
and bytes that are no UTF-8 are read as the replacement character.
-/
import SchemaAudit.Http.Host
import SchemaAudit.Text.Quoted
import SchemaAudit.Text.Utf8

namespace SchemaAudit.Http

/-- A byte as a percent sign and two digits in upper case. -/
def percentByte (b : UInt8) : List Char :=
  '%' :: (Text.hex 2 b.toNat).map Char.toUpper

/-- A character as its UTF-8 bytes after percent signs. -/
def percentChar (c : Char) : List Char :=
  c.toString.toUTF8.toList.flatMap percentByte

/-- The characters that stand for themselves in every part. -/
def isUnreserved (c : Char) : Bool :=
  c.isAlphanum || c == '-' || c == '.' || c == '_' || c == '~'

/-- Quote the characters outside a set; what is quoted already stays. -/
def quoteChars (safe : Char → Bool) : List Char → List Char
  | '%' :: a :: b :: rest =>
      if isHexDigit a && isHexDigit b then
        '%' :: a :: b :: quoteChars safe rest
      else
        (if safe '%' then ['%'] else percentChar '%')
          ++ quoteChars safe (a :: b :: rest)
  | c :: rest =>
      (if isUnreserved c || safe c then [c] else percentChar c)
        ++ quoteChars safe rest
  | [] => []
termination_by cs => cs.length

/-- Quote the characters of a text outside a set. -/
def quote (safe : Char → Bool) (cs : List Char) : String :=
  String.ofList (quoteChars safe cs)

/-- Whether a character is printed ASCII, the space included. -/
def isPrintedAscii (c : Char) : Bool := 0x20 ≤ c.toNat && c.toNat < 0x7f

/-- Printed ASCII less some characters. -/
def allBut (out : List Char) (c : Char) : Bool :=
  isPrintedAscii c && !out.contains c

/-- The characters left as they are in a fragment. -/
def fragmentSafe : Char → Bool := allBut [' ', '"', '<', '>', '`']

/-- The characters left as they are in a query. -/
def querySafe : Char → Bool := allBut [' ', '"', '#', '<', '>']

/-- The characters left as they are in a path. -/
def pathSafe : Char → Bool :=
  allBut [' ', '"', '#', '<', '>', '?', '`', '\x7b', '\x7d']

/-- The characters left as they are before the host. -/
def userinfoSafe : Char → Bool :=
  allBut [' ', '"', '#', '<', '>', '?', '`', '\x7b', '\x7d', '/', ';',
    '=', '@', '[', '\\', ']', '^', '|']

/-- The characters left as they are in the name of a host. -/
def hostSafe (c : Char) : Bool :=
  ['!', '$', '&', '\'', '(', ')', '*', '+', ',', ';', '=', '"', '`',
    '\x7b', '\x7d', '%', '|', '\\'].contains c

-- ============================================================ unquoting

/-- The byte of two hexadecimal digits. -/
def byteOf (a b : Char) : UInt8 :=
  let value (c : Char) : Nat :=
    if c.isDigit then c.toNat - 0x30
    else if c.isUpper then c.toNat - 0x41 + 10
    else c.toNat - 0x61 + 10
  UInt8.ofNat (16 * value a + value b)

/-- The bytes of a text with its quoted bytes among them. -/
def unquotedBytes : List Char → List UInt8
  | '%' :: a :: b :: rest =>
      if isHexDigit a && isHexDigit b then
        byteOf a b :: unquotedBytes rest
      else 0x25 :: unquotedBytes (a :: b :: rest)
  | c :: rest => c.toString.toUTF8.toList ++ unquotedBytes rest
  | [] => []
termination_by cs => cs.length

/-- A text without quoting. -/
def unquote (s : String) : List Char :=
  Text.decodeLossy (unquotedBytes s.toList)

end SchemaAudit.Http
