/-
Bytes read bit by bit, the lowest bit of a byte first. Reading ends short
where the bytes do; that is no fault, since the rest may be on its way.
-/

namespace SchemaAudit.Deflate

/-- Bytes of which some bits of the first are used up, fewer than
eight. -/
structure Bits where
  used : Nat
  bytes : List UInt8

namespace Bits

/-- How many bits are left. -/
def left (b : Bits) : Nat := 8 * b.bytes.length - b.used

/-- The next bit, as zero or one. -/
def next? (b : Bits) : Option (Nat × Bits) :=
  match b.bytes with
  | [] => none
  | byte :: rest =>
      let bit := byte.toNat >>> b.used % 2
      some (bit, if b.used = 7 then ⟨0, rest⟩ else ⟨b.used + 1, b.bytes⟩)

/-- A number of some bits, the lowest first. -/
def number? : (width : Nat) → Bits → Option (Nat × Bits)
  | 0, b => some (0, b)
  | width + 1, b => do
      let (bit, b) ← b.next?
      let (high, b) ← number? width b
      some (bit + 2 * high, b)

/-- Leave out the bits up to the next whole byte. -/
def align (b : Bits) : Bits :=
  if b.used = 0 then b else ⟨0, b.bytes.drop 1⟩

/-- A number of some whole bytes, the lowest first. -/
def bytes? (count : Nat) (b : Bits) : Option (Nat × Bits) :=
  number? (8 * count) b.align

end Bits

end SchemaAudit.Deflate
