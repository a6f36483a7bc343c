/-
Two checksums of bytes: the remainder of a division of polynomials, and a
sum of sums.
-/

namespace SchemaAudit.Checksum

/-- The divisor of the remainder, its bits turned around. -/
def divisor : UInt32 := 0xedb88320

/-- One bit of the division. -/
def divideBit (r : UInt32) : UInt32 :=
  if r &&& 1 = 1 then (r >>> 1) ^^^ divisor else r >>> 1

/-- One byte of the division. -/
def divideByte (r : UInt32) (b : UInt8) : UInt32 :=
  Nat.repeat divideBit 8 (r ^^^ b.toUInt32)

/-- The remainder of bytes. -/
def remainder (bytes : List UInt8) : Nat :=
  ((bytes.foldl divideByte 0xffffffff) ^^^ 0xffffffff).toNat

/-- The prime that sums are taken by. -/
def prime : Nat := 65521

/-- The sum of bytes in the lower half, and the sum of those sums in the
upper. -/
def sums (bytes : List UInt8) : Nat :=
  let (low, high) := bytes.foldl
    (fun (s : Nat × Nat) b =>
      let low := (s.1 + b.toNat) % prime
      (low, (s.2 + low) % prime))
    (1, 0)
  high * 65536 + low

end SchemaAudit.Checksum
