/-
Strict reading of UTF-8. A refusal tells which bytes do not fit and why:
a byte that starts nothing, a byte that does not continue what was begun,
or an end in the middle of a character. Surrogates and overlong forms are
refused at their second byte.
-/
import SchemaAudit.Text.Quoted

namespace SchemaAudit.Text

/-- Why bytes are no UTF-8. -/
inductive Utf8Problem where
  | startByte
  | continuationByte
  | unexpectedEnd
  deriving DecidableEq

/-- The wording of a problem. -/
def Utf8Problem.text : Utf8Problem → String
  | .startByte => "invalid start byte"
  | .continuationByte => "invalid continuation byte"
  | .unexpectedEnd => "unexpected end of data"

/-- Bytes that are no UTF-8: the first of them with its position, how
many there are, and why. -/
structure Utf8Fault where
  byte : Nat
  position : Nat
  count : Nat
  problem : Utf8Problem
  deriving DecidableEq

/-- The wording of a refusal. -/
def Utf8Fault.message (f : Utf8Fault) : String :=
  if f.count = 1 then
    "'utf-8' codec can't decode byte 0x"
      ++ String.ofList (hex 2 f.byte) ++ " in position "
      ++ toString f.position ++ ": " ++ f.problem.text
  else
    "'utf-8' codec can't decode bytes in position "
      ++ toString f.position ++ "-" ++ toString (f.position + f.count - 1)
      ++ ": " ++ f.problem.text

/-- The range that the byte after a first byte must lie in. -/
def secondRange (b : Nat) : Nat × Nat :=
  if b = 0xe0 then (0xa0, 0xbf)
  else if b = 0xed then (0x80, 0x9f)
  else if b = 0xf0 then (0x90, 0xbf)
  else if b = 0xf4 then (0x80, 0x8f)
  else (0x80, 0xbf)

/-- How many bytes a first byte announces, and its share of the code
point. -/
def leadByte (b : Nat) : Nat × Nat :=
  if b < 0x80 then (1, b)
  else if b < 0xc2 then (0, 0)
  else if b < 0xe0 then (2, b - 0xc0)
  else if b < 0xf0 then (3, b - 0xe0)
  else if b < 0xf5 then (4, b - 0xf0)
  else (0, 0)

/-- Read the bytes behind a first byte: the code point, or how many bytes
of the character were good and whether the text ended. -/
def continueChar (low high : Nat) : (missing value good : Nat) →
    List UInt8 → Except (Nat × Bool) Nat
  | 0, value, _, _ => .ok value
  | _ + 1, _, good, [] => .error (good, true)
  | missing + 1, value, good, b :: rest =>
      let n := b.toNat
      if low ≤ n ∧ n ≤ high then
        continueChar 0x80 0xbf missing (value * 64 + (n - 0x80))
          (good + 1) rest
      else .error (good, false)

/-- Read UTF-8 from a position on. -/
def decodeFrom (position : Nat) : (skip : Nat) → List UInt8 →
    Except Utf8Fault (List Char)
  | _, [] => .ok []
  | skip + 1, _ :: rest => decodeFrom (position + 1) skip rest
  | 0, b :: rest =>
      let n := b.toNat
      let (size, value) := leadByte n
      if size = 0 then .error ⟨n, position, 1, .startByte⟩
      else
        let (low, high) := secondRange n
        match continueChar low high (size - 1) value 1 rest with
        | .ok code => do
            let cs ← decodeFrom (position + 1) (size - 1) rest
            .ok (Char.ofNat code :: cs)
        | .error (good, ended) =>
            .error ⟨n, position, good,
              if ended then .unexpectedEnd else .continuationByte⟩

/-- Read a byte sequence as UTF-8. -/
def decodeUtf8 (bytes : List UInt8) : Except Utf8Fault String :=
  (decodeFrom 0 0 bytes).map String.ofList

/-- Read UTF-8 with the replacement character for what is none; the bytes
of a character that was begun and not ended make one of them. -/
def decodeLossyFrom : (skip : Nat) → List UInt8 → List Char
  | _, [] => []
  | skip + 1, _ :: rest => decodeLossyFrom skip rest
  | 0, b :: rest =>
      let (size, value) := leadByte b.toNat
      if size = 0 then '\ufffd' :: decodeLossyFrom 0 rest
      else
        let (low, high) := secondRange b.toNat
        match continueChar low high (size - 1) value 1 rest with
        | .ok code => Char.ofNat code :: decodeLossyFrom (size - 1) rest
        | .error (good, _) => '\ufffd' :: decodeLossyFrom (good - 1) rest

/-- Read a byte sequence as UTF-8 with replacements. -/
def decodeLossy (bytes : List UInt8) : List Char := decodeLossyFrom 0 bytes

/-- Line ends of all three kinds as line feeds. -/
def unifyLineEnds : List Char → List Char
  | [] => []
  | '\r' :: '\n' :: rest => '\n' :: unifyLineEnds rest
  | '\r' :: rest => '\n' :: unifyLineEnds rest
  | c :: rest => c :: unifyLineEnds rest

end SchemaAudit.Text
