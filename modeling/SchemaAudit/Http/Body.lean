/-
Bodies of answers. The encoding of JSON bytes shows in the first of
them: a byte order mark, or where the zero bytes stand. Half a surrogate
pair is read as the replacement character.

A body that does not decode and one that is no JSON are refused alike,
as no JSON. One that is nested too deep is refused in a way of its own,
since this is a limit of the reader and not a fault of the body.
-/
import SchemaAudit.Data.Json.Reader
import SchemaAudit.Text.Utf8

namespace SchemaAudit.Http

/-- The order of the bytes of a unit. -/
inductive ByteOrder where
  | big
  | little
  deriving DecidableEq, Repr

/-- The encodings of JSON bytes; `skip` bytes are a mark in front. -/
inductive Encoding where
  | utf8 (skip : Nat)
  | utf16 (order : ByteOrder) (skip : Nat)
  | utf32 (order : ByteOrder) (skip : Nat)
  deriving DecidableEq, Repr

/-- The encoding that a mark in front of bytes announces. -/
def markedEncoding? : List UInt8 → Option Encoding
  | 0x00 :: 0x00 :: 0xfe :: 0xff :: _ => some (.utf32 .big 4)
  | 0xff :: 0xfe :: 0x00 :: 0x00 :: _ => some (.utf32 .little 4)
  | 0xfe :: 0xff :: _ => some (.utf16 .big 2)
  | 0xff :: 0xfe :: _ => some (.utf16 .little 2)
  | 0xef :: 0xbb :: 0xbf :: _ => some (.utf8 3)
  | _ => none

/-- The encoding that the zeros among the first bytes show. -/
def plainEncoding : List UInt8 → Encoding
  | a :: b :: c :: d :: _ =>
      if a = 0 then (if b = 0 then .utf32 .big 0 else .utf16 .big 0)
      else if b = 0 then
        (if c = 0 ∧ d = 0 then .utf32 .little 0 else .utf16 .little 0)
      else .utf8 0
  | [a, b] =>
      if a = 0 then .utf16 .big 0
      else if b = 0 then .utf16 .little 0
      else .utf8 0
  | _ => .utf8 0

/-- The encoding of bytes. -/
def encodingOf (bytes : List UInt8) : Encoding :=
  (markedEncoding? bytes).getD (plainEncoding bytes)

-- ============================================================== decoding

/-- The character of a code point, half a pair and all. -/
def codeChar (n : Nat) : Char :=
  if 0xd800 ≤ n ∧ n ≤ 0xdfff then '\ufffd' else Char.ofNat n

/-- Bytes with every half of a surrogate pair replaced. -/
def replaceHalves : List UInt8 → List UInt8
  | 0xed :: b :: c :: rest =>
      if 0xa0 ≤ b ∧ b ≤ 0xbf ∧ 0x80 ≤ c ∧ c ≤ 0xbf then
        0xef :: 0xbf :: 0xbd :: replaceHalves rest
      else 0xed :: replaceHalves (b :: c :: rest)
  | b :: rest => b :: replaceHalves rest
  | [] => []
termination_by bs => bs.length

/-- The value of two bytes. -/
def unit16 (order : ByteOrder) (a b : UInt8) : Nat :=
  match order with
  | .big => a.toNat * 256 + b.toNat
  | .little => b.toNat * 256 + a.toNat

/-- The units of two bytes each; a byte may not be left over. -/
def units16? (order : ByteOrder) : List UInt8 → Option (List Nat)
  | [] => some []
  | a :: b :: rest => (units16? order rest).map (unit16 order a b :: ·)
  | [_] => none

/-- The characters of units of 16 bits. -/
def chars16 : List Nat → List Char
  | high :: low :: rest =>
      if Json.isHighHalf high && Json.isLowHalf low then
        Char.ofNat (Json.joinHalves high low) :: chars16 rest
      else codeChar high :: chars16 (low :: rest)
  | [unit] => [codeChar unit]
  | [] => []
termination_by us => us.length

/-- The value of four bytes. -/
def unit32 (order : ByteOrder) (a b c d : UInt8) : Nat :=
  match order with
  | .big => unit16 .big a b * 65536 + unit16 .big c d
  | .little => unit16 .little c d * 65536 + unit16 .little a b

/-- The characters of units of 32 bits. -/
def chars32? (order : ByteOrder) : List UInt8 → Option (List Char)
  | [] => some []
  | a :: b :: c :: d :: rest =>
      let n := unit32 order a b c d
      if 0x110000 ≤ n then none
      else (chars32? order rest).map (codeChar n :: ·)
  | _ => none

/-- The characters of bytes in an encoding. -/
def decode? (bytes : List UInt8) : Encoding → Option (List Char)
  | .utf8 skip =>
      ((Text.decodeUtf8 (replaceHalves (bytes.drop skip))).toOption).map
        String.toList
  | .utf16 order skip =>
      (units16? order (bytes.drop skip)).map chars16
  | .utf32 order skip => chars32? order (bytes.drop skip)

/-- Why a body holds no value: it is no JSON, or a container in it stands
too deep in others. -/
inductive BodyFault where
  | notJson
  | tooDeep (container : Json.Container)
  deriving DecidableEq, Repr

/-- The JSON value in a body. -/
def readBody (bytes : List UInt8) : Except BodyFault Json :=
  match decode? bytes (encodingOf bytes) with
  | none => .error .notJson
  | some cs =>
      (Json.readChars cs).mapError fun refusal =>
        match refusal with
        | .tooDeep container => .tooDeep container
        | _ => .notJson

end SchemaAudit.Http
