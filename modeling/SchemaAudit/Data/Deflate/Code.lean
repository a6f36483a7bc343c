/-
Codes of bits for numbered symbols, told by the lengths of the codes
alone: shorter codes come first, and among those of one length the symbols
go in order. The lengths must neither ask for more codes than there are
nor leave some unused; only a single code of one bit may stand alone, and
there may be none at all.
-/
import SchemaAudit.Data.Deflate.Bits

namespace SchemaAudit.Deflate

/-- A code: the symbols of each length from one on, in order. -/
structure Code where
  rows : List (List Nat)

namespace Code

/-- The greatest length of a code. -/
def maxLength : Nat := 15

/-- The symbols with codes of a length, given the lengths of all. -/
def symbolsOf (lengths : List Nat) (length : Nat) : List Nat :=
  (lengths.zipIdx.filter fun e => e.1 == length).map Prod.snd

/-- The code that lengths tell. -/
def ofLengths (lengths : List Nat) : Code :=
  ⟨(List.range maxLength).map fun n => symbolsOf lengths (n + 1)⟩

/-- How many codes of the greatest length are left unused, if there are
enough; `free` is how many there are of the length in front. -/
def unused? (free : Nat) : List (List Nat) → Option Nat
  | [] => some free
  | row :: rest =>
      if 2 * free < row.length then none
      else unused? (2 * free - row.length) rest

/-- Whether no symbol has a code longer than one bit. -/
def isShort (c : Code) : Bool := (c.rows.drop 1).all List.isEmpty

/-- Whether a code uses all there are, no more and no less. -/
def isComplete (c : Code) : Bool := unused? 1 c.rows == some 0

/-- Whether a code has no symbol at all. -/
def isEmpty (c : Code) : Bool := c.rows.all List.isEmpty

/-- Whether a code may be used: it is complete, or has at most one symbol
and a code of one bit for it. -/
def isUsable (c : Code) : Bool :=
  c.isComplete || (c.isShort && (unused? 1 c.rows).isSome)

/-- How reading a symbol ends: the bits end, no symbol has the code, or a
symbol is found. -/
inductive Outcome where
  | ended
  | unknown (rest : Bits)
  | symbol (s : Nat) (rest : Bits)

/-- Read a symbol by the rows of each length from that at hand on; `code`
is what was read, less the first code of the row before. -/
def readFrom (code : Nat) (b : Bits) : List (List Nat) → Outcome
  | [] => .unknown b
  | row :: rest =>
      match b.next? with
      | none => .ended
      | some (bit, b) =>
          let code := 2 * code + bit
          match row[code]? with
          | some s => .symbol s b
          | none => readFrom (code - row.length) b rest

/-- Read a symbol. In a code that is not complete one bit tells. -/
def read (c : Code) (b : Bits) : Outcome :=
  readFrom 0 b (if c.isComplete then c.rows else c.rows.take 1)

end Code

end SchemaAudit.Deflate
