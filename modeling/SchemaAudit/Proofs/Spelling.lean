/-
What texts spell. A text spells an integer if it holds, with white space
around them, a sign or none, and digits of any script with single
underscores between them (`Text.Spells`); it spells a word in any case
if every letter of the word stands in it, small or as a capital
(`Text.SpellsWord`).

# Numerals

The reader of numerals reads exactly the spellings of at most 4300
digits, each as the integer it spells (`Text.readInt_eq_ok`). It works
on a form of the text in which every digit is an ASCII one and every
white space a blank (`numeralChar`); the grammar speaks of the text
itself. The two are brought together character by character: a form is a
digit exactly if the character is one of some script
(`digitValue?_of_isDigit`), and a blank exactly if it is white space. No
script but ASCII has its digits where this could go wrong, which the
table of the zeros shows (`zero_of_mem_digitZeros`).

# Words

A text in lower case is a word exactly if it spells the word in any case
(`Text.lower_eq_iff`). The letter k is left out, because there is a
third character with this lower case.
-/
import Mathlib.Data.List.Forall2
import Mathlib.Data.List.Induction
import Mathlib.Data.Nat.Digits.Defs
import SchemaAudit.Proofs.Numeral
import SchemaAudit.Text.Letter

namespace SchemaAudit.Text

-- ========================================================= the grammar

/-- Digits of any script with single underscores between them, and the
values of the digits. Digits of different scripts may stand side by side.
-/
inductive SpellsDigits : List Char → List Nat → Prop where
  | last {c : Char} {d : Nat} (h : digitValue? c = some d) :
      SpellsDigits [c] [d]
  | next {c : Char} {d : Nat} {cs : List Char} {ds : List Nat}
      (h : digitValue? c = some d) (rest : SpellsDigits cs ds) :
      SpellsDigits (c :: cs) (d :: ds)
  | underscore {c : Char} {d : Nat} {cs : List Char} {ds : List Nat}
      (h : digitValue? c = some d) (rest : SpellsDigits cs ds) :
      SpellsDigits (c :: '_' :: cs) (d :: ds)

/-- A sign or none, and whether it is a minus. -/
inductive IsSign : List Char → Bool → Prop where
  | none : IsSign [] false
  | plus : IsSign ['+'] false
  | minus : IsSign ['-'] true

/-- The integer of a row of decimal digits behind a sign. -/
def signedValue (neg : Bool) (ds : List Nat) : Int :=
  if neg then -(Nat.ofDigits 10 ds.reverse : Nat)
  else (Nat.ofDigits 10 ds.reverse : Nat)

/-- A text spells an integer with a number of digits. Zeros in front are
digits like others and count. -/
inductive Spells (s : String) : Int → Nat → Prop where
  | of {front sign body back : List Char} {neg : Bool} {ds : List Nat}
      (split : s.toList = front ++ (sign ++ (body ++ back)))
      (front_blank : ∀ c ∈ front, isWhiteSpace c = true)
      (sign_is : IsSign sign neg) (digits : SpellsDigits body ds)
      (back_blank : ∀ c ∈ back, isWhiteSpace c = true) :
      Spells s (signedValue neg ds) ds.length

/-- A text spells a word in any case: each letter of the word stands in
it, small or as a capital. -/
def SpellsWord (word s : String) : Prop :=
  List.Forall₂ (fun w c => c = w ∨ c = w.toUpper) word.toList s.toList

-- ========================================================== characters

/-- The ASCII digit of a value. -/
def digitChar (d : Nat) : Char := Char.ofNat (0x30 + d)

theorem isDigit_digitChar {d : Nat} (h : d < 10) :
    (digitChar d).isDigit = true ∧ (digitChar d).toNat = 0x30 + d := by
  have hall : ∀ d < 10, (digitChar d).isDigit = true
      ∧ (digitChar d).toNat = 0x30 + d := by decide
  exact hall d h

/-- Beside those of ASCII, no script has its digits among ASCII or among
white space. -/
theorem zero_of_mem_digitZeros {z : Nat} (h : z ∈ digitZeros) :
    z = 0x30 ∨ 0x660 ≤ z ∧ (z + 9 < 0x1680 ∨ 0x1680 < z)
      ∧ (z + 9 < 0x2000 ∨ 0x3000 < z) := by
  have hall : ∀ z ∈ digitZeros,
      z = 0x30 ∨ 0x660 ≤ z ∧ (z + 9 < 0x1680 ∨ 0x1680 < z)
        ∧ (z + 9 < 0x2000 ∨ 0x3000 < z) := by decide
  exact hall z h

/-- The value of a digit is its distance from the zero of its script, and
less than ten. -/
theorem exists_zero_of_digitValue? {c : Char} {d : Nat}
    (h : digitValue? c = some d) :
    ∃ z ∈ digitZeros, c.toNat = z + d ∧ d < 10 := by
  obtain ⟨z, hz, rfl⟩ := Option.map_eq_some_iff.1 h
  have hrange := List.find?_some hz
  simp only [Bool.and_eq_true, decide_eq_true_eq] at hrange
  exact ⟨z, List.mem_of_find?_eq_some hz, by omega, by omega⟩

/-- The digits among ASCII are the usual ones, from the first entry of the
table. -/
theorem digitValue?_of_lt {c : Char} (hc : c.toNat < 127) {d : Nat} :
    digitValue? c = some d ↔ c.toNat = 0x30 + d ∧ d < 10 := by
  constructor
  · intro h
    obtain ⟨z, hz, hcz, hd⟩ := exists_zero_of_digitValue? h
    rcases zero_of_mem_digitZeros hz with rfl | ⟨hlarge, -⟩
    · exact ⟨hcz, hd⟩
    · omega
  · intro h
    have hfirst : (0x30 ≤ c.toNat && c.toNat < 0x30 + 10) = true := by
      simp only [Bool.and_eq_true, decide_eq_true_eq]
      omega
    -- the table begins with the zero of ASCII
    have hfind : digitZeros.find?
        (fun z => z ≤ c.toNat && c.toNat < z + 10) = some 0x30 :=
      List.find?_cons_of_pos hfirst
    unfold digitValue?
    rw [hfind, Option.map_some]
    congr 1
    omega

/-- A digit is no white space, so that the row of digits ends where white
space begins. -/
theorem isWhiteSpace_of_digitValue? {c : Char} {d : Nat}
    (h : digitValue? c = some d) : isWhiteSpace c = false := by
  obtain ⟨z, hz, hcz, hd⟩ := exists_zero_of_digitValue? h
  have hplace := zero_of_mem_digitZeros hz
  rw [← Bool.not_eq_true]
  simp only [isWhiteSpace, Bool.or_eq_true, Bool.and_eq_true,
    decide_eq_true_eq, beq_iff_eq]
  omega

/-- A digit of any script takes its ASCII form in a numeral, which has the
same value. -/
theorem numeralChar_of_digitValue? {c : Char} {d : Nat}
    (h : digitValue? c = some d) : numeralChar c = digitChar d := by
  unfold numeralChar
  by_cases hc : c.toNat < 127
  · rw [if_pos hc, ← Char.toNat_inj]
    obtain ⟨hv, hd⟩ := (digitValue?_of_lt hc).1 h
    rw [hv, (isDigit_digitChar hd).2]
  · have hblank : isBlank c = false := by
      unfold isBlank
      rw [isWhiteSpace_of_digitValue? h]
      simp only [Bool.false_or, Bool.and_eq_false_iff,
        decide_eq_false_iff_not]
      omega
    rw [if_neg hc, hblank, h]
    rfl

/-- What is a digit in a numeral is one of some script: no other character
takes that form. -/
theorem digitValue?_of_isDigit {c : Char}
    (h : (numeralChar c).isDigit = true) :
    ∃ d, digitValue? c = some d := by
  unfold numeralChar at h
  split at h
  case isTrue hc =>
      have hd := Char.isDigit_iff_toNat.1 h
      have h0 : '0'.toNat = 48 := rfl
      have h9 : '9'.toNat = 57 := rfl
      exact ⟨c.toNat - 0x30, (digitValue?_of_lt hc).2 (by omega)⟩
  case isFalse hc =>
      split at h
      case isTrue => exact absurd h (by decide)
      case isFalse =>
          split at h
          case h_1 d hd => exact ⟨d, hd⟩
          case h_2 => exact absurd h (by decide)

/-- The form of a character outside ASCII in a numeral: a blank for white
space, and otherwise a digit or the mark for what no numeral holds. -/
theorem numeralChar_of_not_lt {c : Char} (hc : ¬ c.toNat < 127) :
    (isWhiteSpace c = true ∧ numeralChar c = ' ')
      ∨ isWhiteSpace c = false
        ∧ (numeralChar c = '?' ∨ ∃ d < 10, numeralChar c = digitChar d) := by
  have hblank : isBlank c = isWhiteSpace c := by
    unfold isBlank
    rw [Bool.or_eq_left_iff_imp]
    simp only [Bool.and_eq_true, decide_eq_true_eq]
    omega
  unfold numeralChar
  rw [if_neg hc, hblank]
  cases hw : isWhiteSpace c with
  | true => exact Or.inl ⟨rfl, rfl⟩
  | false =>
      refine Or.inr ⟨rfl, ?_⟩
      cases hd : digitValue? c with
      | none => exact Or.inl rfl
      | some d =>
          obtain ⟨-, -, -, hlt⟩ := exists_zero_of_digitValue? hd
          exact Or.inr ⟨d, hlt, rfl⟩

/-- White space, and nothing else, is a blank around a numeral. Of the
four information separators, which are blanks elsewhere, none is. -/
theorem isNumeralBlank_numeralChar (c : Char) :
    isNumeralBlank (numeralChar c) = isWhiteSpace c := by
  by_cases hc : c.toNat < 127
  · have hsame : numeralChar c = c := if_pos hc
    rw [hsame, Bool.eq_iff_iff]
    simp only [isNumeralBlank, isWhiteSpace, Bool.or_eq_true,
      Bool.and_eq_true, decide_eq_true_eq, beq_iff_eq]
    omega
  · rcases numeralChar_of_not_lt hc with
      ⟨hw, hn⟩ | ⟨hw, hn | ⟨d, hd, hn⟩⟩
    · rw [hw, hn]
      rfl
    · rw [hw, hn]
      rfl
    · rw [hw, hn]
      exact isNumeralBlank_of_isDigit (isDigit_digitChar hd).1

/-- An ASCII character that stands neither for digits, nor for white
space, nor for what no numeral holds, stands for itself alone. -/
theorem numeralChar_eq_iff {c x : Char} (hx : x.toNat < 127)
    (hdigit : x.isDigit = false) (hblank : x ≠ ' ') (hmark : x ≠ '?') :
    numeralChar c = x ↔ c = x := by
  constructor
  · intro h
    by_cases hc : c.toNat < 127
    · exact (if_pos hc).symm.trans h
    · rcases numeralChar_of_not_lt hc with
        ⟨-, hn⟩ | ⟨-, hn | ⟨d, hd, hn⟩⟩
      · exact absurd (h.symm.trans hn) hblank
      · exact absurd (h.symm.trans hn) hmark
      · have hd := (isDigit_digitChar hd).1
        rw [← hn, h, hdigit] at hd
        cases hd
  · intro h
    subst h
    exact if_pos hx

/-- An underscore stands for itself alone. -/
theorem numeralChar_eq_underscore {c : Char} :
    numeralChar c = '_' ↔ c = '_' :=
  numeralChar_eq_iff (by decide) (by decide) (by decide) (by decide)

/-- The characters inside the digits of a numeral: digits of any script
and underscores. -/
theorem isNumeralBody_numeralChar {c : Char} :
    isNumeralBody (numeralChar c) = true ↔
      (∃ d, digitValue? c = some d) ∨ c = '_' := by
  unfold isNumeralBody
  rw [Bool.or_eq_true, beq_iff_eq, numeralChar_eq_underscore]
  apply or_congr_left
  constructor
  · exact digitValue?_of_isDigit
  · intro h
    obtain ⟨d, hd⟩ := h
    obtain ⟨-, -, -, hlt⟩ := exists_zero_of_digitValue? hd
    rw [numeralChar_of_digitValue? hd]
    exact (isDigit_digitChar hlt).1

-- ============================================================== digits

theorem SpellsDigits.head {cs : List Char} {ds : List Nat}
    (h : SpellsDigits cs ds) :
    ∃ c rest d, cs = c :: rest ∧ digitValue? c = some d := by
  cases h with
  | last h => exact ⟨_, _, _, rfl, h⟩
  | next h _ => exact ⟨_, _, _, rfl, h⟩
  | underscore h _ => exact ⟨_, _, _, rfl, h⟩

/-- Every character in a row of digits is one that may stand inside the
digits of a numeral. -/
theorem SpellsDigits.body {cs : List Char} {ds : List Nat}
    (h : SpellsDigits cs ds) :
    ∀ c ∈ cs, isNumeralBody (numeralChar c) = true := by
  have hdigit : ∀ {c : Char} {d : Nat}, digitValue? c = some d →
      isNumeralBody (numeralChar c) = true :=
    fun h => isNumeralBody_numeralChar.2 (Or.inl ⟨_, h⟩)
  induction h with
  | last h => simpa using hdigit h
  | next h _ ih => exact List.forall_mem_cons.2 ⟨hdigit h, ih⟩
  | underscore h _ ih =>
      exact List.forall_mem_cons.2
        ⟨hdigit h, List.forall_mem_cons.2 ⟨by decide, ih⟩⟩

/-- Behind a digit that is not the last come digits, or an underscore and
digits. The reader takes two characters at a time in the second case. -/
theorem numeralDigits?_cons_cons {c e : Char} {rest : List Char}
    (h : c.isDigit = true) :
    numeralDigits? (c :: e :: rest)
      = (numeralDigits? (if e = '_' then rest else e :: rest)).map
          (c :: ·) := by
  by_cases he : e = '_'
  · subst he
    show (if c.isDigit then _ else _) = _
    rw [if_pos h, if_pos rfl]
  · rw [if_neg he]
    conv => lhs; unfold numeralDigits?
    split <;> simp_all

/-- What is read as digits begins with a digit, and not with an
underscore. -/
theorem isDigit_head {c : Char} {rest es : List Char}
    (h : numeralDigits? (c :: rest) = some es) : c.isDigit = true := by
  unfold numeralDigits? at h
  split at h <;> simp_all

/-- What is read as digits spells digits, and is read as those. The
recursion is that of the reader. -/
theorem spellsDigits_of_numeralDigits? : ∀ {cs es : List Char},
    numeralDigits? (cs.map numeralChar) = some es →
      ∃ ds, SpellsDigits cs ds ∧ es = ds.map digitChar
  | [], _, h => by cases h
  | [c], es, h => by
      have hc := isDigit_head h
      obtain ⟨d, hd⟩ := digitValue?_of_isDigit hc
      have h : (if (numeralChar c).isDigit then some [numeralChar c]
        else none) = some es := h
      rw [if_pos hc, numeralChar_of_digitValue? hd] at h
      injection h with h
      exact ⟨[d], .last hd, h.symm⟩
  | c :: e :: rest, es, h => by
      have hc := isDigit_head h
      obtain ⟨d, hd⟩ := digitValue?_of_isDigit hc
      rw [List.map_cons, List.map_cons, numeralDigits?_cons_cons hc,
        numeralChar_of_digitValue? hd] at h
      obtain ⟨tail, htail, rfl⟩ := Option.map_eq_some_iff.1 h
      by_cases he : e = '_'
      · rw [if_pos (numeralChar_eq_underscore.2 he)] at htail
        obtain ⟨ds, hds, rfl⟩ := spellsDigits_of_numeralDigits? htail
        exact ⟨d :: ds, he ▸ .underscore hd hds, rfl⟩
      · rw [if_neg (mt numeralChar_eq_underscore.1 he),
          ← List.map_cons] at htail
        obtain ⟨ds, hds, rfl⟩ := spellsDigits_of_numeralDigits? htail
        exact ⟨d :: ds, .next hd hds, rfl⟩

/-- What spells digits is read as those, by induction on the spelling. -/
theorem SpellsDigits.numeralDigits? {cs : List Char} {ds : List Nat}
    (h : SpellsDigits cs ds) :
    Text.numeralDigits? (cs.map numeralChar)
      = some (ds.map digitChar) := by
  have hdigit : ∀ {c : Char} {d : Nat}, digitValue? c = some d →
      (digitChar d).isDigit = true := by
    intro c d h
    obtain ⟨-, -, -, hlt⟩ := exists_zero_of_digitValue? h
    exact (isDigit_digitChar hlt).1
  induction h with
  | last h =>
      rw [List.map_singleton, numeralChar_of_digitValue? h]
      exact if_pos (hdigit h)
  | @next c d cs ds h rest ih =>
      obtain ⟨e, tail, d', rfl, he⟩ := rest.head
      have hne : numeralChar e ≠ '_' := by
        rw [numeralChar_of_digitValue? he]
        intro hu
        exact absurd (hu ▸ hdigit he) (by decide)
      rw [List.map_cons, List.map_cons, numeralChar_of_digitValue? h,
        numeralDigits?_cons_cons (hdigit h), if_neg hne, ← List.map_cons,
        ih]
      rfl
  | underscore h _ ih =>
      rw [List.map_cons, List.map_cons, numeralChar_of_digitValue? h,
        numeralDigits?_cons_cons (hdigit h), if_pos (by decide), ih]
      rfl

/-- The value of ASCII digits is that of the digits they stand for, with
the last one counting once. -/
theorem digitsValue_map_digitChar {ds : List Nat} (h : ∀ d ∈ ds, d < 10) :
    digitsValue (ds.map digitChar) = Nat.ofDigits 10 ds.reverse := by
  unfold digitsValue
  induction ds using List.reverseRecOn with
  | nil => rfl
  | append_singleton ds d ih =>
      have hd : d < 10 := h d (by simp)
      have hds : ∀ e ∈ ds, e < 10 := fun e he => h e (by simp [he])
      rw [List.map_append, List.foldl_append, ih hds,
        List.reverse_append, List.map_singleton, List.foldl_cons,
        List.foldl_nil, (isDigit_digitChar hd).2, List.reverse_singleton,
        List.singleton_append, Nat.ofDigits_cons]
      omega

theorem SpellsDigits.lt {cs : List Char} {ds : List Nat}
    (h : SpellsDigits cs ds) : ∀ d ∈ ds, d < 10 := by
  have hdigit : ∀ {c : Char} {d : Nat}, digitValue? c = some d →
      d < 10 := fun h => by
    obtain ⟨-, -, -, hlt⟩ := exists_zero_of_digitValue? h
    exact hlt
  induction h with
  | last h => simpa using hdigit h
  | next h _ ih => exact List.forall_mem_cons.2 ⟨hdigit h, ih⟩
  | underscore h _ ih => exact List.forall_mem_cons.2 ⟨hdigit h, ih⟩

-- ============================================================ numerals

theorem splitSign_cons_of_ne {c : Char} (hminus : c ≠ '-')
    (hplus : c ≠ '+') (rest : List Char) :
    splitSign (c :: rest) = (false, c :: rest) := by
  unfold splitSign
  split <;> simp_all

/-- A sign is split off in front of a row with its numeral's form as it is
in front of the row, since signs are their own form and no one else's. -/
theorem splitSign_map (cs : List Char) :
    splitSign (cs.map numeralChar)
      = ((splitSign cs).1, (splitSign cs).2.map numeralChar) := by
  cases cs with
  | nil => rfl
  | cons c rest =>
      by_cases hminus : c = '-'
      · subst hminus
        rfl
      by_cases hplus : c = '+'
      · subst hplus
        rfl
      have hiff : ∀ {x : Char}, x = '-' ∨ x = '+' →
          (numeralChar c = x ↔ c = x) := by
        intro x hx
        rcases hx with rfl | rfl
        · exact numeralChar_eq_iff (by decide) (by decide) (by decide)
            (by decide)
        · exact numeralChar_eq_iff (by decide) (by decide) (by decide)
            (by decide)
      rw [splitSign_cons_of_ne hminus hplus, List.map_cons]
      exact splitSign_cons_of_ne (mt (hiff (Or.inl rfl)).1 hminus)
        (mt (hiff (Or.inr rfl)).1 hplus) _

/-- What is split off in front of a row is a sign or nothing, and it tells
whether that was a minus. -/
theorem exists_isSign (cs : List Char) :
    ∃ sign, cs = sign ++ (splitSign cs).2
      ∧ IsSign sign (splitSign cs).1 := by
  unfold splitSign
  split
  · exact ⟨['-'], rfl, .minus⟩
  · exact ⟨['+'], rfl, .plus⟩
  · exact ⟨[], rfl, .none⟩

/-- A sign in front of digits is split off, and no digit with it. -/
theorem splitSign_append {sign body : List Char} {neg : Bool}
    {ds : List Nat} (hsign : IsSign sign neg) (hbody : SpellsDigits body ds)
    (back : List Char) :
    splitSign (sign ++ (body ++ back)) = (neg, body ++ back) := by
  obtain ⟨c, rest, d, rfl, hd⟩ := hbody.head
  cases hsign with
  | plus => rfl
  | minus => rfl
  | none =>
      have hne : ∀ x : Char, digitValue? x = none → c ≠ x := by
        rintro x hx rfl
        rw [hx] at hd
        cases hd
      exact splitSign_cons_of_ne (hne '-' (by decide))
        (hne '+' (by decide)) _

/-- How a text is read: behind the white space in front of it a sign is
split off, and the row of digits and underscores behind that is read as
digits, with white space behind it. -/
theorem readInt_eq (s : String) :
    readInt s
      = let signed := splitSign (s.toList.dropWhile isWhiteSpace)
        let inBody := fun c => isNumeralBody (numeralChar c)
        match numeralDigits?
            ((signed.2.takeWhile inBody).map numeralChar) with
        | none => .error (.notInteger s)
        | some ds =>
            if maxNumeralDigits < ds.length then
              .error (.tooManyDigits ds.length)
            else if (signed.2.dropWhile inBody).all isWhiteSpace then
              .ok (if signed.1 then -(digitsValue ds : Int)
                else digitsValue ds)
            else .error (.notInteger s) := by
  have hblank : isNumeralBlank ∘ numeralChar = isWhiteSpace :=
    funext isNumeralBlank_numeralChar
  unfold readInt
  simp only [List.dropWhile_map, List.takeWhile_map, splitSign_map,
    List.all_map, hblank]
  rfl

/-- A text that is read as an integer spells it with at most 4300 digits:
what was dropped, split off and taken are the parts of the spelling. -/
theorem spells_of_readInt {s : String} {n : Int} (h : readInt s = .ok n) :
    ∃ count ≤ maxNumeralDigits, Spells s n count := by
  rw [readInt_eq] at h
  dsimp only at h
  split at h
  case h_1 => cases h
  case h_2 es hes =>
      obtain ⟨ds, hds, rfl⟩ := spellsDigits_of_numeralDigits? hes
      rw [List.length_map, digitsValue_map_digitChar hds.lt] at h
      split at h
      case isTrue => cases h
      case isFalse hlen =>
          split at h
          case isFalse => cases h
          case isTrue hback =>
              injection h with h
              subst h
              -- what was dropped, split off, taken and left is all of the
              -- text
              obtain ⟨sign, hsplit, hsign⟩ :=
                exists_isSign (s.toList.dropWhile isWhiteSpace)
              have hfront : ∀ c ∈ s.toList.takeWhile isWhiteSpace,
                  isWhiteSpace c = true := fun _ => List.mem_takeWhile_imp
              refine ⟨ds.length, Nat.not_lt.1 hlen, .of ?_ hfront hsign hds
                (List.all_eq_true.1 hback)⟩
              rw [List.takeWhile_append_dropWhile, ← hsplit,
                List.takeWhile_append_dropWhile]

/-- White space in front of a sign and digits, and no more, is dropped,
since neither a sign nor a digit is white space. -/
theorem dropWhile_isWhiteSpace {front sign body : List Char}
    {neg : Bool} {ds : List Nat}
    (hfront : ∀ c ∈ front, isWhiteSpace c = true)
    (hsign : IsSign sign neg) (hbody : SpellsDigits body ds)
    (back : List Char) :
    (front ++ (sign ++ (body ++ back))).dropWhile isWhiteSpace
      = sign ++ (body ++ back) := by
  rw [List.dropWhile_append_of_pos hfront]
  obtain ⟨c, rest, d, rfl, hd⟩ := hbody.head
  cases hsign with
  | none =>
      exact List.dropWhile_cons_of_neg
        (Bool.not_eq_true _ ▸ isWhiteSpace_of_digitValue? hd)
  | plus => rfl
  | minus => rfl

/-- No white space stands inside digits, and what is behind them is not
taken for more. -/
theorem isNumeralBody_of_isWhiteSpace {c : Char}
    (h : isWhiteSpace c = true) : isNumeralBody (numeralChar c) = false := by
  rw [← Bool.not_eq_true, isNumeralBody_numeralChar]
  rintro (⟨d, hd⟩ | rfl)
  · rw [isWhiteSpace_of_digitValue? hd] at h
    cases h
  · exact absurd h (by decide)

/-- A text that spells an integer with at most 4300 digits is read as the
integer: the parts of the spelling are found one after the other. -/
theorem Spells.readInt {s : String} {n : Int} {count : Nat}
    (h : Spells s n count) (hcount : count ≤ maxNumeralDigits) :
    Text.readInt s = .ok n := by
  cases h with
  | @of front sign body back neg ds split hfront hsign hbody hback =>
      have hdrop := dropWhile_isWhiteSpace hfront hsign hbody back
      -- the row of digits ends where the white space behind it begins
      have hstop : back.takeWhile
            (fun c => isNumeralBody (numeralChar c)) = []
          ∧ back.dropWhile
            (fun c => isNumeralBody (numeralChar c)) = back := by
        cases back with
        | nil => exact ⟨rfl, rfl⟩
        | cons c rest =>
            have hc := isNumeralBody_of_isWhiteSpace
              (hback c (List.mem_cons_self ..))
            simp [hc]
      rw [readInt_eq, split, hdrop, splitSign_append hsign hbody]
      dsimp only
      rw [List.takeWhile_append_of_pos hbody.body,
        List.dropWhile_append_of_pos hbody.body, hstop.1, hstop.2,
        List.append_nil, hbody.numeralDigits?]
      dsimp only
      rw [List.length_map, if_neg (Nat.not_lt.2 hcount),
        if_pos (List.all_eq_true.2 hback),
        digitsValue_map_digitChar hbody.lt]
      rfl

/-- A text is read as an integer exactly if it spells the integer with at
most 4300 digits. Hence a text spells one integer at most, as far as it
can be read at all. -/
theorem readInt_eq_ok {s : String} {n : Int} :
    readInt s = .ok n ↔ ∃ count ≤ maxNumeralDigits, Spells s n count := by
  constructor
  · exact spells_of_readInt
  · intro h
    obtain ⟨count, hcount, hs⟩ := h
    exact hs.readInt hcount

-- =============================================================== words

/-- Capitals of ASCII have their small letters thirty-two places further
on, and all else stays. -/
theorem toNat_toLower (c : Char) :
    c.toLower.toNat
      = if 65 ≤ c.toNat ∧ c.toNat ≤ 90 then c.toNat + 32 else c.toNat := by
  have hrange : (c.val ≥ 'A'.val ∧ c.val ≤ 'Z'.val) ↔
      65 ≤ c.toNat ∧ c.toNat ≤ 90 := Iff.rfl
  unfold Char.toLower
  split
  case isTrue h =>
      have hle := (hrange.1 h).2
      rw [if_pos (hrange.1 h)]
      show (c.val + 32).toNat = _
      rw [UInt32.toNat_add]
      show (c.toNat + 32) % 2 ^ 32 = _
      omega
  case isFalse h => rw [if_neg (mt hrange.2 h)]

/-- Small letters of ASCII have their capitals thirty-two places before
them, and all else stays. -/
theorem toNat_toUpper (c : Char) :
    c.toUpper.toNat
      = if 97 ≤ c.toNat ∧ c.toNat ≤ 122 then c.toNat - 32
        else c.toNat := by
  have hrange : ('a'.val ≤ c.val ∧ c.val ≤ 'z'.val) ↔
      97 ≤ c.toNat ∧ c.toNat ≤ 122 := Iff.rfl
  unfold Char.toUpper
  split
  case isTrue h =>
      obtain ⟨hge, hle⟩ := hrange.1 h
      rw [if_pos (hrange.1 h)]
      show (c.val + ('A'.val - 'a'.val)).toNat = _
      rw [UInt32.toNat_add]
      show (c.toNat + 4294967264) % 2 ^ 32 = _
      omega
  case isFalse h => rw [if_neg (mt hrange.2 h)]

/-- The lower case of a character is a small letter exactly if the
character is the letter or its capital. The Kelvin sign makes k the one
exception. -/
theorem lowerChar_eq_iff {w c : Char} (hw : 97 ≤ w.toNat ∧ w.toNat ≤ 122)
    (hk : w ≠ 'k') : lowerChar c = w ↔ c = w ∨ c = w.toUpper := by
  have hkelvin : '\u212a'.toNat = 0x212a := rfl
  unfold lowerChar
  rw [← Char.toNat_inj (c := c) (d := w),
    ← Char.toNat_inj (c := c) (d := w.toUpper), toNat_toUpper, if_pos hw]
  split
  case isTrue hc =>
      subst hc
      rw [hkelvin]
      constructor
      · intro h
        exact absurd h.symm hk
      · omega
  case isFalse hc =>
      rw [← Char.toNat_inj, toNat_toLower]
      split <;> omega

/-- A text is a word in lower case exactly if it spells the word in any
case, provided that the word is of small letters and without a k. -/
theorem lower_eq_iff {word s : String}
    (hword : ∀ w ∈ word.toList,
      (97 ≤ w.toNat ∧ w.toNat ≤ 122) ∧ w ≠ 'k') :
    lower s = word ↔ SpellsWord word s := by
  unfold lower SpellsWord
  rw [← String.toList_inj, String.toList_map, ← List.forall₂_eq_eq_eq,
    List.forall₂_map_left_iff]
  generalize word.toList = ws at hword ⊢
  generalize s.toList = cs
  induction ws generalizing cs with
  | nil => cases cs <;> simp
  | cons w ws ih =>
      cases cs with
      | nil => simp
      | cons c cs =>
          obtain ⟨hw, hws⟩ := List.forall_mem_cons.1 hword
          rw [List.forall₂_cons, List.forall₂_cons,
            lowerChar_eq_iff hw.1 hw.2, ih hws]

end SchemaAudit.Text
