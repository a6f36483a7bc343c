/-
The headers of an answer and the codings that its body is in. Names and
values of headers are ASCII. The codings stand in the order in which they
were applied and are taken off from the last to the first; one that is not
known is passed over.
-/
import SchemaAudit.Data.Deflate.Wrapped
import SchemaAudit.Http.Host
import SchemaAudit.Text.Blank
import SchemaAudit.Text.Letter
import SchemaAudit.Text.Quoted

namespace SchemaAudit.Http

-- ================================================================ headers

/-- A row of characters outside ASCII in a header: the first of them, its
position and how many there are. -/
structure HeaderFault where
  first : Char
  position : Nat
  count : Nat
  deriving DecidableEq

/-- The wording of a fault of a header. -/
def HeaderFault.message (f : HeaderFault) : String :=
  let place := if f.count = 1 then
      "character '" ++ String.ofList (Text.codePointEscape f.first.toNat)
        ++ "' in position " ++ toString f.position
    else
      "characters in position " ++ toString f.position ++ "-"
        ++ toString (f.position + f.count - 1)
  "'ascii' codec can't encode " ++ place
    ++ ": ordinal not in range(128)"

/-- Refuse a text that is not ASCII. -/
def checkAscii (s : String) : Except HeaderFault Unit :=
  let isAscii (c : Char) : Bool := c.toNat < 0x80
  let before := s.toList.takeWhile isAscii
  match s.toList.drop before.length with
  | [] => .ok ()
  | c :: rest =>
      .error ⟨c, before.length,
        (rest.takeWhile fun c => !isAscii c).length + 1⟩

/-- The headers of an answer, in order. -/
abbrev Headers := List (String × String)

namespace Headers

/-- Refuse headers that are not ASCII. -/
def check : Headers → Except HeaderFault Unit
  | [] => .ok ()
  | (name, value) :: rest => do
      checkAscii name
      checkAscii value
      check rest

/-- The values of the headers of a name, in any case. -/
def valuesOf (hs : Headers) (name : String) : List String :=
  (hs.filter fun h => Text.lower h.1 == name).map Prod.snd

/-- The values of the headers of a name as one, if there are any. -/
def value? (hs : Headers) (name : String) : Option String :=
  match hs.valuesOf name with
  | [] => none
  | values => some (", ".intercalate values)

end Headers

-- ================================================================ codings

/-- The codings of bodies that are known. -/
inductive Coding where
  | full
  | slim
  deriving DecidableEq, Repr

/-- The coding of a word. -/
def Coding.ofWord? (word : String) : Option Coding :=
  if word = "gzip" then some .full
  else if word = "deflate" then some .slim
  else none

/-- The codings that headers tell. -/
def Headers.codings (hs : Headers) : List Coding :=
  (hs.valuesOf "content-encoding").flatMap fun value =>
    (value.splitOn ",").filterMap fun word =>
      Coding.ofWord? (Text.lower
        (String.ofList (Text.trimBoth Text.isBlank word.toList)))

/-- Take a coding off. Where a slim wrapper was promised there may be
none. -/
def Coding.remove (bytes : List UInt8) :
    Coding → Except Deflate.WrapperFault (List UInt8)
  | .full => Deflate.readFull bytes
  | .slim =>
      match Deflate.readSlim bytes with
      | .ok content => .ok content
      | .error _ => Deflate.readBare bytes

/-- The content of a body. -/
def decodeBody (hs : Headers) (body : List UInt8) :
    Except Deflate.WrapperFault (List UInt8) :=
  hs.codings.reverse.foldlM Coding.remove body

end SchemaAudit.Http
