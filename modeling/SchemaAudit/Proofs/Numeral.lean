/-
Numerals and the integers they stand for. An integer of at most 4300
digits, and no other, is read back from its own text
(`readInt_toString_eq_ok`), and whatever is read has no more digits than
that (`natAbs_lt_of_readInt`): the texts of integers are the normal
forms of numerals.

The text of an integer is a sign or none and ASCII digits (`signed`),
and on such a text every step of the reader has nothing to do: there are
no blanks to drop, each character is its own form in a numeral, and no
underscore stands between the digits. What is left is the number of
digits, which the reader limits, and their value.
-/
import Mathlib.Algebra.Group.Nat.Defs
import Mathlib.Data.List.TakeWhile
import SchemaAudit.Text.Numeral

namespace SchemaAudit.Text

-- ============================================================== digits

/-- A digit of a numeral is ASCII: it is its own form in a numeral. -/
theorem numeralChar_of_isDigit {c : Char} (h : c.isDigit = true) :
    numeralChar c = c := by
  have hc := Char.isDigit_iff_toNat.1 h
  have hlt : c.toNat < 127 := by
    have h9 : '9'.toNat = 57 := rfl
    omega
  unfold numeralChar
  rw [if_pos hlt]

theorem isNumeralBody_of_isDigit {c : Char} (h : c.isDigit = true) :
    isNumeralBody c = true := by
  unfold isNumeralBody
  rw [h]
  rfl

theorem isNumeralBlank_of_isDigit {c : Char} (h : c.isDigit = true) :
    isNumeralBlank c = false := by
  have hc := Char.isDigit_iff_toNat.1 h
  have h0 : '0'.toNat = 48 := rfl
  have h9 : '9'.toNat = 57 := rfl
  simp only [isNumeralBlank, Bool.or_eq_false_iff, beq_eq_false_iff_ne,
    Bool.and_eq_false_iff, decide_eq_false_iff_not]
  omega

/-- A row of digits without underscores is all of its digits, as long as
it is not empty. -/
theorem numeralDigits?_of_isDigit {ds : List Char} (hne : ds ≠ [])
    (hd : ∀ c ∈ ds, c.isDigit = true) : numeralDigits? ds = some ds := by
  induction ds with
  | nil => exact absurd rfl hne
  | cons c rest ih =>
      have hc : c.isDigit = true := hd c (List.mem_cons_self ..)
      have hrest : ∀ d ∈ rest, d.isDigit = true := fun d hm =>
        hd d (List.mem_cons_of_mem _ hm)
      cases rest with
      | nil => simp [numeralDigits?, hc]
      | cons d rest =>
          have hdd : d.isDigit = true := hrest d (List.mem_cons_self ..)
          have hu : d ≠ '_' := by
            intro h
            subst h
            exact absurd hdd (by decide)
          have hi := ih (List.cons_ne_nil d rest) hrest
          unfold numeralDigits?
          split <;> simp_all

/-- Every member of the digits that a row is read as is a digit: the
underscores are left out. The cases are those of the reader. -/
theorem isDigit_of_numeralDigits? {cs ds : List Char}
    (h : numeralDigits? cs = some ds) : ∀ c ∈ ds, c.isDigit = true := by
  fun_induction numeralDigits? cs generalizing ds with
  | case1 => cases h
  | case2 c hc =>
      injection h with h
      subst h
      simpa using hc
  | case3 => cases h
  | case4 c rest hc ih =>
      obtain ⟨es, hes, rfl⟩ := Option.map_eq_some_iff.1 h
      intro d hd
      rcases List.mem_cons.1 hd with rfl | hd
      · exact hc
      · exact ih hes d hd
  | case5 => cases h
  | case6 c rest _ _ hc ih =>
      obtain ⟨es, hes, rfl⟩ := Option.map_eq_some_iff.1 h
      intro d hd
      rcases List.mem_cons.1 hd with rfl | hd
      · exact hc
      · exact ih hes d hd
  | case7 => cases h

/-- The value of a row of digits is below the power of ten that has one
digit more, so that few digits make a small integer. -/
theorem digitsValue_lt {ds : List Char}
    (hd : ∀ c ∈ ds, c.isDigit = true) :
    digitsValue ds < 10 ^ ds.length := by
  suffices general : ∀ (ds : List Char) (n : Nat),
      (∀ c ∈ ds, c.isDigit = true) →
      ds.foldl (fun n c => 10 * n + (c.toNat - 0x30)) n
        < (n + 1) * 10 ^ ds.length by
    unfold digitsValue
    simpa using general ds 0 hd
  intro ds
  induction ds with
  | nil => intro n _; simp
  | cons c rest ih =>
      intro n hd
      have hc := Char.isDigit_iff_toNat.1 (hd c (List.mem_cons_self ..))
      have h9 : '9'.toNat = 57 := rfl
      have hv : 10 * n + (c.toNat - 0x30) + 1 ≤ (n + 1) * 10 := by omega
      have hi := ih (10 * n + (c.toNat - 0x30)) fun d hm =>
        hd d (List.mem_cons_of_mem _ hm)
      rw [List.foldl_cons, List.length_cons, Nat.pow_succ',
        ← Nat.mul_assoc]
      exact Nat.lt_of_lt_of_le hi (Nat.mul_le_mul_right _ hv)

-- ==================================================== reading numerals

/-- Digits behind an optional minus sign. -/
def signed (neg : Bool) (ds : List Char) : List Char :=
  if neg then '-' :: ds else ds

/-- The minus in front of digits is split off, and nothing where there is
none. -/
theorem splitSign_signed (neg : Bool) {ds : List Char}
    (hd : ∀ c ∈ ds, c.isDigit = true) :
    splitSign (signed neg ds) = (neg, ds) := by
  cases neg with
  | true => rfl
  | false =>
      show splitSign ds = (false, ds)
      cases ds with
      | nil => rfl
      | cons c rest =>
          have hc : c.isDigit = true := hd c (List.mem_cons_self ..)
          have hm : c ≠ '-' := by
            intro h
            subst h
            exact absurd hc (by decide)
          have hp : c ≠ '+' := by
            intro h
            subst h
            exact absurd hc (by decide)
          unfold splitSign
          split <;> simp_all

/-- A sign and digits have their numeral form already, and no blank in
front. -/
theorem dropBlanks_signed (neg : Bool) {ds : List Char} (hne : ds ≠ [])
    (hd : ∀ c ∈ ds, c.isDigit = true) :
    ((signed neg ds).map numeralChar).dropWhile isNumeralBlank
      = signed neg ds := by
  have hmap : ds.map numeralChar = ds := by
    rw [List.map_congr_left fun c hc => numeralChar_of_isDigit (hd c hc),
      List.map_id']
  cases neg with
  | true =>
      show (numeralChar '-' :: ds.map numeralChar).dropWhile
        isNumeralBlank = '-' :: ds
      rw [hmap]
      rfl
  | false =>
      show (ds.map numeralChar).dropWhile isNumeralBlank = ds
      rw [hmap]
      cases ds with
      | nil => exact absurd rfl hne
      | cons c rest =>
          have hc := isNumeralBlank_of_isDigit
            (hd c (List.mem_cons_self ..))
          rw [List.dropWhile_cons, hc]
          rfl

/-- A sign and digits are read as what they say, unless there are more
than 4300 of them. -/
theorem readInt_signed (neg : Bool) {ds : List Char} (hne : ds ≠ [])
    (hd : ∀ c ∈ ds, c.isDigit = true) :
    readInt (String.ofList (signed neg ds))
      = if maxNumeralDigits < ds.length then
          .error (.tooManyDigits ds.length)
        else .ok (if neg then -(digitsValue ds : Int)
          else digitsValue ds) := by
  have hbody : ∀ c ∈ ds, isNumeralBody c = true := fun c hc =>
    isNumeralBody_of_isDigit (hd c hc)
  unfold readInt
  simp only [String.toList_ofList, dropBlanks_signed neg hne hd,
    splitSign_signed neg hd,
    List.takeWhile_eq_self_iff.2 hbody, numeralDigits?_of_isDigit hne hd,
    List.dropWhile_eq_nil_iff.2 hbody]
  rfl

-- ======================================================= normal forms

/-- The characters of the text of an integer: a minus if it is negative,
and the digits of its magnitude. -/
theorem toString_eq_signed (n : Int) :
    toString n = String.ofList
      (signed (n < 0) (Nat.toDigits 10 n.natAbs)) := by
  cases n with
  | ofNat m => rfl
  | negSucc m =>
      have hneg : decide (Int.negSucc m < 0) = true :=
        decide_eq_true (Int.negSucc_lt_zero m)
      show "-" ++ (m + 1).repr = _
      rw [hneg, ← String.toList_inj, String.toList_append,
        Nat.toList_repr, String.toList_ofList, String.toList_ofList]
      rfl

/-- The text of an integer is read as the integer, unless that has more
than 4300 digits. Such an integer has a text, and no reader for it. -/
theorem readInt_toString_eq_ok {n m : Int} :
    readInt (toString n) = .ok m ↔
      m = n ∧ n.natAbs < 10 ^ maxNumeralDigits := by
  have hd : ∀ c ∈ Nat.toDigits 10 n.natAbs, c.isDigit = true :=
    fun c hc => Nat.isDigit_of_mem_toDigits (by decide) (by decide) hc
  have hlen : (Nat.toDigits 10 n.natAbs).length ≤ maxNumeralDigits ↔
      n.natAbs < 10 ^ maxNumeralDigits :=
    Nat.length_toDigits_le_iff (by decide) (by decide)
  have hv : digitsValue (Nat.toDigits 10 n.natAbs) = n.natAbs :=
    Nat.ofDigitChars_ten_toDigits
  rw [toString_eq_signed, readInt_signed _ Nat.toDigits_ne_nil hd, hv,
    ← hlen]
  split
  case isTrue hlong => simp [hlong]
  case isFalse hshort =>
      rw [and_iff_left (Nat.not_lt.1 hshort), Except.ok.injEq]
      by_cases hn : n < 0
      · simp only [hn, decide_true, if_true]
        omega
      · simp only [hn, decide_false, Bool.false_eq_true, if_false]
        omega

/-- The text of an integer with at most 4300 digits is read as the
integer. -/
theorem readInt_toString {n : Int}
    (h : n.natAbs < 10 ^ maxNumeralDigits) :
    readInt (toString n) = .ok n :=
  readInt_toString_eq_ok.2 ⟨rfl, h⟩

/-- An integer that was read has at most 4300 digits, and can hence be
written and read again. -/
theorem natAbs_lt_of_readInt {s : String} {n : Int}
    (h : readInt s = .ok n) : n.natAbs < 10 ^ maxNumeralDigits := by
  unfold readInt at h
  simp only at h
  split at h
  case h_1 => cases h
  case h_2 ds hds =>
      split at h
      case isTrue => cases h
      case isFalse hlen =>
          split at h
          case isFalse => cases h
          case isTrue =>
              injection h with h
              have hv : n.natAbs = digitsValue ds := by
                rw [← h]
                split <;> simp
              rw [hv]
              exact Nat.lt_of_lt_of_le
                (digitsValue_lt (isDigit_of_numeralDigits? hds))
                (Nat.pow_le_pow_right (by decide) (Nat.not_lt.1 hlen))

end SchemaAudit.Text
