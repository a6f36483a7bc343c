/-
Deflated bytes in a wrapper: a head in front and checksums behind. The
slim wrapper has a head of two bytes, the full one a head with flags and
parts that the flags announce. Bytes that end too early are no fault, nor
are bytes behind the wrapper.
-/
import SchemaAudit.Data.Checksum
import SchemaAudit.Data.Deflate

namespace SchemaAudit.Deflate

/-- What is wrong with wrapped bytes. -/
inductive WrapperFault where
  | head
  | method
  | flags
  | headChecksum
  | window
  | dictionary
  | content (fault : Fault)
  | checksum
  | length
  deriving DecidableEq, Repr

/-- The wording of a fault. -/
def WrapperFault.message (f : WrapperFault) : String :=
  let refused (reason : String) : String :=
    "Error -3 while decompressing data: " ++ reason
  match f with
  | .head => refused "incorrect header check"
  | .method => refused "unknown compression method"
  | .flags => refused "unknown header flags set"
  | .headChecksum => refused "header crc mismatch"
  | .window => refused "invalid window size"
  | .dictionary => "Error 2 while decompressing data"
  | .content fault => refused fault.message
  | .checksum => refused "incorrect data check"
  | .length => refused "incorrect length check"

/-- Why reading a head stopped: the bytes end, or something is wrong. -/
inductive HeadHalt where
  | ended
  | broken (fault : WrapperFault)
  deriving DecidableEq, Repr

/-- The number that some bytes make, the lowest first. -/
def littleEndian (bytes : List UInt8) : Nat :=
  bytes.foldr (fun b n => b.toNat + 256 * n) 0

/-- The number that some bytes make, the highest first. -/
def bigEndian (bytes : List UInt8) : Nat :=
  bytes.foldl (fun n b => 256 * n + b.toNat) 0

/-- A number of bytes in front and what follows them. -/
def takeBytes (count : Nat) (bytes : List UInt8) :
    Except HeadHalt (List UInt8 × List UInt8) :=
  if bytes.length < count then .error .ended
  else .ok (bytes.take count, bytes.drop count)

-- ==================================================== the slim wrapper

/-- What follows a slim head. -/
def skipSlimHead (bytes : List UInt8) :
    Except HeadHalt (List UInt8) := do
  let (head, rest) ← takeBytes 2 bytes
  let first := (bigEndian head) / 256
  if bigEndian head % 31 ≠ 0 then .error (.broken .head)
  else if first % 16 ≠ 8 then .error (.broken .method)
  else if 7 < first / 16 then .error (.broken .window)
  else if bigEndian head / 32 % 2 = 1 then do
    let _ ← takeBytes 4 rest
    .error (.broken .dictionary)
  else .ok rest

-- ==================================================== the full wrapper

/-- Whether a flag is up. -/
def hasFlag (flags bit : Nat) : Bool := flags / Nat.pow 2 bit % 2 == 1

/-- What follows a text that ends in a zero byte, if it is there. -/
def skipText (there : Bool) (bytes : List UInt8) :
    Except HeadHalt (List UInt8) :=
  if !there then .ok bytes
  else
    match bytes.dropWhile (· != 0) with
    | [] => .error .ended
    | _ :: rest => .ok rest

/-- What follows a part that tells its length in two bytes, if it is
there. -/
def skipPart (there : Bool) (bytes : List UInt8) :
    Except HeadHalt (List UInt8) :=
  if !there then .ok bytes
  else do
    let (size, rest) ← takeBytes 2 bytes
    let (_, rest) ← takeBytes (littleEndian size) rest
    .ok rest

/-- What follows a checksum of a head, if it is there. -/
def skipHeadChecksum (there : Bool) (whole bytes : List UInt8) :
    Except HeadHalt (List UInt8) :=
  if !there then .ok bytes
  else do
    let (told, rest) ← takeBytes 2 bytes
    let head := whole.take (whole.length - bytes.length)
    if littleEndian told = Checksum.remainder head % 65536 then .ok rest
    else .error (.broken .headChecksum)

/-- What follows a full head. -/
def skipFullHead (bytes : List UInt8) :
    Except HeadHalt (List UInt8) := do
  let (mark, rest) ← takeBytes 2 bytes
  if mark ≠ [0x1f, 0x8b] then .error (.broken .head)
  else do
    let (kind, rest) ← takeBytes 2 rest
    let flags := littleEndian kind / 256
    if littleEndian kind % 256 ≠ 8 then .error (.broken .method)
    else if 32 ≤ flags then .error (.broken .flags)
    else do
      let (_, rest) ← takeBytes 6 rest
      let rest ← skipPart (hasFlag flags 2) rest
      let rest ← skipText (hasFlag flags 3) rest
      let rest ← skipText (hasFlag flags 4) rest
      skipHeadChecksum (hasFlag flags 1) bytes rest

-- ============================================================== checksums

/-- Check the checksum behind a slim wrapper, if all of it is there. -/
def checkSlim (out : List UInt8) (rest : List UInt8) :
    Except WrapperFault Unit :=
  if rest.length < 4 ∨ bigEndian (rest.take 4) = Checksum.sums out then
    .ok ()
  else .error .checksum

/-- Check the checksum and the length behind a full wrapper, as far as
they are there. -/
def checkFull (out : List UInt8) (rest : List UInt8) :
    Except WrapperFault Unit :=
  if rest.length < 4 then .ok ()
  else if littleEndian (rest.take 4) ≠ Checksum.remainder out then
    .error .checksum
  else if rest.length < 8
      ∨ littleEndian ((rest.drop 4).take 4)
        = out.length % Nat.pow 2 32 then
    .ok ()
  else .error .length

/-- The bytes in a wrapper, given how its head is passed over and what is
checked behind it. -/
def unwrap (skipHead : List UInt8 → Except HeadHalt (List UInt8))
    (check : List UInt8 → List UInt8 → Except WrapperFault Unit)
    (bytes : List UInt8) : Except WrapperFault (List UInt8) :=
  match skipHead bytes with
  | .error .ended => .ok []
  | .error (.broken fault) => .error fault
  | .ok rest =>
      match inflate ⟨0, rest⟩ with
      | (out, .error .ended) => .ok out.toList
      | (_, .error (.broken fault)) => .error (.content fault)
      | (out, .ok b) => do
          check out.toList b.align.bytes
          .ok out.toList

/-- The bytes in a slim wrapper. -/
def readSlim (bytes : List UInt8) : Except WrapperFault (List UInt8) :=
  unwrap skipSlimHead checkSlim bytes

/-- The bytes in a full wrapper. -/
def readFull (bytes : List UInt8) : Except WrapperFault (List UInt8) :=
  unwrap skipFullHead checkFull bytes

/-- The bytes without a wrapper. -/
def readBare (bytes : List UInt8) : Except WrapperFault (List UInt8) :=
  unwrap .ok (fun _ _ => .ok ()) bytes

end SchemaAudit.Deflate
