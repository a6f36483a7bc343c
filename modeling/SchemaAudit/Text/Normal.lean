/-
The canonical form of text: every character that can be put together from
a character and marks is, and marks stand in the order of their classes.
`isNormal` says whether code points are in that form: taken apart, put in
order and put together again they are the same.
-/
import SchemaAudit.Text.Normal.Table
import SchemaAudit.Text.Ranges

namespace SchemaAudit.Text

-- ======================================================== combining class

/-- The combining class of a code point by ascending ranges. -/
def classIn (n : Nat) : List (Nat × Nat × Nat) → Nat
  | [] => 0
  | (low, high, k) :: rest =>
      if n < low then 0 else if n ≤ high then k else classIn n rest

/-- The combining class of a code point; zero if it combines with none. -/
def combiningClass (n : Nat) : Nat := classIn n classRanges

-- ============================================================== syllables

/-- The first syllable of Hangul. -/
def syllableBase : Nat := 0xac00

/-- The parts of a syllable of Hangul: a syllable without its last
consonant and that consonant, or a consonant and a vowel. -/
def syllableParts? (n : Nat) : Option (Nat × Nat) :=
  if syllableBase ≤ n ∧ n ≤ 0xd7a3 then
    let s := n - syllableBase
    if s % 28 = 0 then some (0x1100 + s / 588, 0x1161 + s % 588 / 28)
    else some (n - s % 28, 0x11a7 + s % 28)
  else none

/-- The syllable of Hangul that two parts make. -/
def syllable? (a b : Nat) : Option Nat :=
  if 0x1100 ≤ a ∧ a ≤ 0x1112 ∧ 0x1161 ≤ b ∧ b ≤ 0x1175 then
    some (syllableBase + ((a - 0x1100) * 21 + (b - 0x1161)) * 28)
  else if syllableBase ≤ a ∧ a ≤ 0xd7a3 ∧ (a - syllableBase) % 28 = 0
      ∧ 0x11a8 ≤ b ∧ b ≤ 0x11c2 then
    some (a + (b - 0x11a7))
  else none

-- ================================================================== parts

/-- The two parts of a code point, if it comes apart. -/
def parts? (n : Nat) : Option (Nat × Nat) :=
  ((pairRows.find? fun row => row.1 == n).map Prod.snd).or
    (syllableParts? n)

/-- The code point that two parts make, if they make one. -/
def join? (a b : Nat) : Option Nat :=
  ((pairRows.find? fun row => row.2 == (a, b)).map Prod.fst).or
    (syllable? a b)

/-- A code point taken apart, again and again in front, at most as often
as told. -/
def takeApart : (most : Nat) → Nat → List Nat
  | 0, n => [n]
  | most + 1, n =>
      match parts? n with
      | some (a, b) => takeApart most a ++ [b]
      | none => [n]

/-- No code point comes apart more often than this. -/
def maxParts : Nat := 4

-- ================================================================== order

/-- Put a mark behind those before it, in reverse; marks of greater
classes stay behind it. -/
def insertMark (n : Nat) : List Nat → List Nat
  | [] => [n]
  | m :: rest =>
      if combiningClass n ≠ 0 ∧ combiningClass n < combiningClass m then
        m :: insertMark n rest
      else n :: m :: rest

/-- Code points with their marks in the order of the classes. -/
def orderMarks (ns : List Nat) : List Nat :=
  (ns.foldl (fun done n => insertMark n done) []).reverse

-- ============================================================ composition

/-- Put together what follows a code point that marks combine with;
`marks` stand behind it in reverse and did not combine. -/
def putTogether (start : Nat) (marks : List Nat) :
    List Nat → List Nat
  | [] => start :: marks.reverse
  | n :: rest =>
      let k := combiningClass n
      let blocked : Bool :=
        match marks with
        | m :: _ => k ≤ combiningClass m
        | [] => false
      match if blocked then none else join? start n with
      | some whole => putTogether whole marks rest
      | none =>
          if k = 0 then start :: marks.reverse ++ putTogether n [] rest
          else putTogether start (n :: marks) rest

/-- Code points put together; marks in front combine with nothing. -/
def composed : List Nat → List Nat
  | [] => []
  | n :: rest =>
      if combiningClass n = 0 then putTogether n [] rest
      else n :: composed rest

/-- Whether code points are in the canonical form. -/
def isNormal (ns : List Nat) : Bool :=
  !(ns.any fun n => inRanges n unstableRanges)
    && composed (orderMarks (ns.flatMap (takeApart maxParts))) == ns

end SchemaAudit.Text
