/-
Labels of domain names in ASCII. The ASCII characters of a label come
first; behind a hyphen the others are told by where they are put in, one
after the other in ascending order, as numbers of base 36 whose digits
grow longer or shorter with those before.
-/
import SchemaAudit.Text.Ranges

namespace SchemaAudit.Domain.Punycode

/-- The digit of a value: the letters, then the numerals. -/
def digitChar (d : Nat) : Char :=
  if d < 26 then Char.ofNat (0x61 + d) else Char.ofNat (0x30 + d - 26)

/-- The value of a digit, in either case. -/
def digitValue? (c : Char) : Option Nat :=
  if c.isLower then some (c.toNat - 0x61)
  else if c.isUpper then some (c.toNat - 0x41)
  else if c.isDigit then some (c.toNat - 0x30 + 26)
  else none

/-- The least value of a digit that is not the last, given its place,
which counts in steps of 36. -/
def threshold (place bias : Nat) : Nat :=
  if place ≤ bias then 1 else if bias + 26 ≤ place then 26
  else place - bias

theorem threshold_pos (place bias : Nat) : 1 ≤ threshold place bias := by
  unfold threshold
  split
  · omega
  · split <;> omega

theorem threshold_le (place bias : Nat) : threshold place bias ≤ 26 := by
  unfold threshold
  split
  · omega
  · split <;> omega

/-- Divide a number until it is small, counting in steps of 36. -/
def shrink (delta steps : Nat) : Nat × Nat :=
  if 455 < delta then shrink (delta / 35) (steps + 36) else (delta, steps)
termination_by delta
decreasing_by exact Nat.div_lt_self (by omega) (by omega)

/-- The bias after a number, of which there are now `count` with the
ASCII characters. -/
def adapt (delta count : Nat) (isFirst : Bool) : Nat :=
  let delta := if isFirst then delta / 700 else delta / 2
  let (delta, steps) := shrink (delta + delta / count) 0
  steps + 36 * delta / (delta + 38)

-- =============================================================== encoding

/-- The digits of a number. -/
def digits (bias place n : Nat) : List Char :=
  let t := threshold place bias
  if n < t then [digitChar n]
  else
    digitChar (t + (n - t) % (36 - t))
      :: digits bias (place + 36) ((n - t) / (36 - t))
termination_by n
decreasing_by
  have _ := threshold_pos place bias
  have _ := threshold_le place bias
  calc (n - threshold place bias) / (36 - threshold place bias)
      ≤ n - threshold place bias := Nat.div_le_self _ _
    _ < n := by omega

/-- An encoding on its way: what is written, how far the place to put the
next code point in has moved, the bias, and how many code points are
done. -/
structure Progress where
  written : List Char
  delta : Nat
  bias : Nat
  done : Nat

/-- Go past one code point of a label; those equal to `m` are written. -/
def pass (basic m : Nat) (p : Progress) (n : Nat) : Progress :=
  if n < m then { p with delta := p.delta + 1 }
  else if n = m then
    ⟨p.written ++ digits p.bias 36 p.delta, 0,
      adapt p.delta (p.done + 1) (p.done == basic), p.done + 1⟩
  else p

/-- Write the code points of a label that are among ascending ones;
`least` is the least that can come. -/
def writeAll (label : List Nat) (basic : Nat) :
    (least : Nat) → Progress → List Nat → Progress
  | _, p, [] => p
  | least, p, m :: rest =>
      let p := { p with delta := p.delta + (m - least) * (p.done + 1) }
      let p := label.foldl (pass basic m) p
      writeAll label basic (m + 1) { p with delta := p.delta + 1 } rest

/-- The code points of a label outside ASCII, each once, ascending. -/
def extended (label : List Nat) : List Nat :=
  ((label.filter fun n => 0x80 ≤ n).mergeSort).eraseDups

/-- A label in ASCII. -/
def encode (label : List Nat) : List Char :=
  let basic := (label.filter fun n => n < 0x80).map Char.ofNat
  let p := writeAll label basic.length 0x80 ⟨[], 0, 72, basic.length⟩
    (extended label)
  basic ++ (if basic.isEmpty then [] else ['-']) ++ p.written

-- =============================================================== decoding

/-- Read a number from its digits; `weight` is that of the first and `n`
the value before it. -/
def readNumber? (bias : Nat) : (place weight n : Nat) → List Char →
    Option (Nat × List Char)
  | _, _, _, [] => none
  | place, weight, n, c :: rest => do
      let d ← digitValue? c
      let t := threshold place bias
      let n := n + d * weight
      if d < t then some (n, rest)
      else readNumber? bias (place + 36) (weight * (36 - t)) n rest

/-- Put in code points, at most as many as told; the place to put the
next in counts on from `at` through the code points from `point` on. -/
def putIn? : (most bias point place : Nat) → (isFirst : Bool) →
    List Nat → List Char → Option (List Nat)
  | _, _, _, _, _, label, [] => some label
  | 0, _, _, _, _, _, _ :: _ => none
  | most + 1, bias, point, place, isFirst, label, c :: cs => do
      let (delta, rest) ← readNumber? bias 36 1 0 (c :: cs)
      let size := label.length + 1
      let place := place + delta
      let point := point + place / size
      let place := place % size
      if 0x10ffff < point then none
      else
        putIn? most (adapt delta size isFirst) point (place + 1) false
          (label.insertIdx place point) rest

/-- The code points of a label that was written in ASCII. -/
def decode? (cs : List Char) : Option (List Nat) :=
  let tail := (cs.reverse.takeWhile (· != '-')).reverse
  let basic := (cs.take (cs.length - tail.length)).dropLast
  putIn? tail.length 72 0x80 0 true (basic.map Char.toNat) tail

end SchemaAudit.Domain.Punycode
