/-
Deflated bytes: blocks of bytes as they are, or of literal bytes and
references to what came before, in a code of the block's own or the usual
one. Bytes that end too early are no fault: what was read so far stands.
-/
import SchemaAudit.Data.Deflate.Code

namespace SchemaAudit.Deflate

/-- What is wrong with deflated bytes. -/
inductive Fault where
  | blockKind
  | storedLengths
  | tooManySymbols
  | codeLengths
  | lengthRepeat
  | withoutEnd
  | literalLengths
  | distanceLengths
  | literalCode
  | distanceCode
  | distanceTooFar
  deriving DecidableEq, Repr

/-- The wording of a fault. -/
def Fault.message : Fault → String
  | .blockKind => "invalid block type"
  | .storedLengths => "invalid stored block lengths"
  | .tooManySymbols => "too many length or distance symbols"
  | .codeLengths => "invalid code lengths set"
  | .lengthRepeat => "invalid bit length repeat"
  | .withoutEnd => "invalid code -- missing end-of-block"
  | .literalLengths => "invalid literal/lengths set"
  | .distanceLengths => "invalid distances set"
  | .literalCode => "invalid literal/length code"
  | .distanceCode => "invalid distance code"
  | .distanceTooFar => "invalid distance too far back"

/-- Why reading stopped: the bytes end, or something is wrong. -/
inductive Halt where
  | ended
  | broken (fault : Fault)
  deriving DecidableEq, Repr

/-- What was read so far, and what is left or why reading stopped. -/
abbrev Writing := Array UInt8 × Except Halt Bits

/-- A number of some bits. -/
def readNumber (width : Nat) (b : Bits) : Except Halt (Nat × Bits) :=
  match b.number? width with
  | some found => .ok found
  | none => .error .ended

/-- A symbol of a code; `fault` is what an unknown one is. -/
def readSymbol (c : Code) (fault : Fault) (b : Bits) :
    Except Halt (Nat × Bits) :=
  match c.read b with
  | .symbol s b => .ok (s, b)
  | .unknown _ => .error (.broken fault)
  | .ended => .error .ended

-- ========================================================= stored blocks

/-- Copy bytes as they are. -/
def copyStored (out : Array UInt8) : (count : Nat) → List UInt8 → Writing
  | 0, bytes => (out, .ok ⟨0, bytes⟩)
  | _ + 1, [] => (out, .error .ended)
  | count + 1, byte :: rest => copyStored (out.push byte) count rest

/-- The length of a stored block, which stands there twice, the second
time with every bit turned over. -/
def readStoredLength (b : Bits) : Except Halt (Nat × Bits) :=
  match b.bytes? 4 with
  | none => .error .ended
  | some (n, b) =>
      let length := n % 65536
      if length + n / 65536 = 65535 then .ok (length, b)
      else .error (.broken .storedLengths)

/-- Read a stored block. -/
def readStored (out : Array UInt8) (b : Bits) : Writing :=
  match readStoredLength b with
  | .error halt => (out, .error halt)
  | .ok (length, b) => copyStored out length b.bytes

-- ============================================================ references

/-- The least length of each symbol for lengths, and how many bits are
added to it. -/
def lengthRows : List (Nat × Nat) :=
  [(3, 0), (4, 0), (5, 0), (6, 0), (7, 0), (8, 0), (9, 0), (10, 0),
   (11, 1), (13, 1), (15, 1), (17, 1), (19, 2), (23, 2), (27, 2), (31, 2),
   (35, 3), (43, 3), (51, 3), (59, 3), (67, 4), (83, 4), (99, 4),
   (115, 4), (131, 5), (163, 5), (195, 5), (227, 5), (258, 0)]

/-- The least distance of each symbol for distances, and how many bits are
added to it. -/
def distanceRows : List (Nat × Nat) :=
  [(1, 0), (2, 0), (3, 0), (4, 0), (5, 1), (7, 1), (9, 2), (13, 2),
   (17, 3), (25, 3), (33, 4), (49, 4), (65, 5), (97, 5), (129, 6),
   (193, 6), (257, 7), (385, 7), (513, 8), (769, 8), (1025, 9), (1537, 9),
   (2049, 10), (3073, 10), (4097, 11), (6145, 11), (8193, 12),
   (12289, 12), (16385, 13), (24577, 13)]

/-- The value of a symbol by its row, or a fault if it has none. -/
def readRow (rows : List (Nat × Nat)) (fault : Fault) (s : Nat)
    (b : Bits) : Except Halt (Nat × Bits) :=
  match rows[s]? with
  | none => .error (.broken fault)
  | some (least, width) => do
      let (more, b) ← readNumber width b
      .ok (least + more, b)

/-- The length and the distance of a reference, given the symbol of its
length. -/
def readReference (distances : Code) (symbol : Nat) (b : Bits) :
    Except Halt ((Nat × Nat) × Bits) := do
  let (length, b) ← readRow lengthRows .literalCode (symbol - 257) b
  let (s, b) ← readSymbol distances .distanceCode b
  let (distance, b) ← readRow distanceRows .distanceCode s b
  .ok ((length, distance), b)

/-- Copy bytes from a distance back. -/
def copyBack (distance : Nat) : (count : Nat) → Array UInt8 → Array UInt8
  | 0, out => out
  | count + 1, out =>
      copyBack distance count
        (out.push ((out[out.size - distance]?).getD 0))

/-- Read the symbols of a block up to its end, at most as many as
told. -/
def readSymbols (literals distances : Code) :
    (most : Nat) → Array UInt8 → Bits → Writing
  | 0, out, _ => (out, .error .ended)
  | most + 1, out, b =>
      match readSymbol literals .literalCode b with
      | .error halt => (out, .error halt)
      | .ok (s, b) =>
          if s < 256 then
            readSymbols literals distances most (out.push s.toUInt8) b
          else if s = 256 then (out, .ok b)
          else
            match readReference distances s b with
            | .error halt => (out, .error halt)
            | .ok ((length, distance), b) =>
                if out.size < distance then
                  (out, .error (.broken .distanceTooFar))
                else
                  readSymbols literals distances most
                    (copyBack distance length out) b

-- ================================================================= codes

/-- The usual code for literals and lengths. -/
def usualLiterals : Code :=
  .ofLengths (List.replicate 144 8 ++ List.replicate 112 9
    ++ List.replicate 24 7 ++ List.replicate 8 8)

/-- The usual code for distances. -/
def usualDistances : Code := .ofLengths (List.replicate 32 5)

/-- The order in which the lengths of the code for lengths stand. -/
def lengthOrder : List Nat :=
  [16, 17, 18, 0, 8, 7, 9, 6, 10, 5, 11, 4, 12, 3, 13, 2, 14, 1, 15]

/-- Some numbers of three bits each. -/
def readTriples : (count : Nat) → Bits → Except Halt (List Nat × Bits)
  | 0, b => .ok ([], b)
  | count + 1, b => do
      let (n, b) ← readNumber 3 b
      let (rest, b) ← readTriples count b
      .ok (n :: rest, b)

/-- The code for lengths, given how many of its own lengths are told. -/
def readLengthCode (count : Nat) (b : Bits) : Except Halt (Code × Bits) := do
  let (told, b) ← readTriples count b
  let pairs := lengthOrder.zip told
  let lengths := (List.range 19).map fun s =>
    ((pairs.find? fun e => e.1 == s).map Prod.snd).getD 0
  let code := Code.ofLengths lengths
  if code.isComplete || code.isEmpty then .ok (code, b)
  else .error (.broken .codeLengths)

/-- The next symbol of the code for lengths. A code without symbols gives
a zero for every bit. -/
def readLengthSymbol (code : Code) (b : Bits) : Except Halt (Nat × Bits) :=
  match code.read b with
  | .symbol s b => .ok (s, b)
  | .unknown b => .ok (0, b)
  | .ended => .error .ended

/-- What a symbol for a repeat says: the length that is repeated, the
least count, and how many bits are added to it; the last length is in
front. -/
def repeatRow (symbol : Nat) (done : List Nat) : Nat × Nat × Nat :=
  if symbol = 16 then (done.headD 0, 3, 2)
  else if symbol = 17 then (0, 3, 3)
  else (0, 11, 7)

/-- Read lengths up to a number of them, at most as many symbols as told;
those read so far stand in reverse. -/
def readLengths (code : Code) (total : Nat) :
    (most : Nat) → List Nat → Bits → Except Halt (List Nat × Bits)
  | 0, _, _ => .error .ended
  | most + 1, done, b =>
      if total ≤ done.length then .ok (done.reverse, b)
      else do
        let (s, b) ← readLengthSymbol code b
        if s < 16 then readLengths code total most (s :: done) b
        else
          let (length, least, width) := repeatRow s done
          let (more, b) ← readNumber width b
          let count := least + more
          if (s = 16 ∧ done = []) ∨ total < done.length + count then
            .error (.broken .lengthRepeat)
          else
            readLengths code total most
              (List.replicate count length ++ done) b

/-- The codes for literals and for distances that a block tells. -/
def readCodes (b : Bits) : Except Halt ((Code × Code) × Bits) := do
  let (literals, b) ← readNumber 5 b
  let (distances, b) ← readNumber 5 b
  let (told, b) ← readNumber 4 b
  let literals := literals + 257
  let distances := distances + 1
  if 286 < literals ∨ 30 < distances then
    .error (.broken .tooManySymbols)
  else
    let (code, b) ← readLengthCode (told + 4) b
    let total := literals + distances
    let (lengths, b) ← readLengths code total (total + 1) [] b
    if lengths[256]?.getD 0 = 0 then .error (.broken .withoutEnd)
    else
      let first := Code.ofLengths (lengths.take literals)
      let second := Code.ofLengths (lengths.drop literals)
      if !first.isUsable then .error (.broken .literalLengths)
      else if !second.isUsable then .error (.broken .distanceLengths)
      else .ok ((first, second), b)

-- ================================================================ blocks

/-- Read the block behind its kind. -/
def readBlock (kind : Nat) (out : Array UInt8) (b : Bits) : Writing :=
  match kind with
  | 0 => readStored out b
  | 1 => readSymbols usualLiterals usualDistances (b.left + 1) out b
  | 2 =>
      match readCodes b with
      | .error halt => (out, .error halt)
      | .ok ((literals, distances), b) =>
          readSymbols literals distances (b.left + 1) out b
  | _ => (out, .error (.broken .blockKind))

/-- Read blocks up to the last, at most as many as told. -/
def readBlocks : (most : Nat) → Array UInt8 → Bits → Writing
  | 0, out, _ => (out, .error .ended)
  | most + 1, out, b =>
      match b.number? 3 with
      | none => (out, .error .ended)
      | some (head, b) =>
          match readBlock (head / 2) out b with
          | (out, .error halt) => (out, .error halt)
          | (out, .ok b) =>
              if head % 2 = 1 then (out, .ok b)
              else readBlocks most out b

/-- The bytes that deflated bytes stand for, and what is left behind them
or why reading stopped. -/
def inflate (b : Bits) : Writing := readBlocks (b.left + 1) #[] b

end SchemaAudit.Deflate
