/-
Numbers in JSON text. The reader takes a number apart where its parts
end: an integer part, digits behind a point, an exponent. So what is
written of these parts is found again, provided that what follows the
number is neither a digit nor a mark of one (`EndsNumber`).

# Integers

An integer that fits in 64 bits is read back as the integer
(`readScalar_int`). Its digits are an integer part, with no zero in
front of others, and neither a point nor an exponent follows them.

# Doubles

A double is written as its shortest decimal, whose digits stand on the
two sides of a point somewhere (`IsPointed`), with zeros between them
and the point or an exponent behind them. The reader makes a decimal of
these, which need not be the one that was written, since zeros may have
been added or an exponent taken in. But its value is the same, and
whatever decimal of that value the reader makes is read as the double
(`readScalar_float`).

# Scalars

A sign stands in front, and a number is tried only where no word begins.
No word begins with a digit, and the only one with a sign has a letter
next (`find?_words_signed`).
-/
import SchemaAudit.Data.Json.Reader
import SchemaAudit.Data.Json.Writer
import SchemaAudit.Proofs.Number.Shortest
import SchemaAudit.Proofs.Numeral

namespace SchemaAudit

-- =============================================================== digits

namespace Text

/-- The value of two rows of digits behind one another: those in front
count as often as the others have places. -/
theorem digitsValue_append (ds es : List Char) :
    digitsValue (ds ++ es)
      = digitsValue ds * 10 ^ es.length + digitsValue es := by
  have general : ∀ (es : List Char) (n : Nat),
      es.foldl (fun n c => 10 * n + (c.toNat - 0x30)) n
        = n * 10 ^ es.length + digitsValue es := by
    intro es
    induction es with
    | nil => intro n; simp [digitsValue]
    | cons c rest ih =>
        intro n
        have hc : digitsValue (c :: rest)
            = (c.toNat - 0x30) * 10 ^ rest.length + digitsValue rest := by
          show rest.foldl _ (10 * 0 + (c.toNat - 0x30)) = _
          rw [ih, Nat.mul_zero, Nat.zero_add]
        rw [List.foldl_cons, ih, hc, List.length_cons, Nat.pow_succ]
        ring
  show (ds ++ es).foldl _ 0 = _
  rw [List.foldl_append]
  exact general es (digitsValue ds)

theorem digitsValue_zeros (n : Nat) :
    digitsValue (List.replicate n '0') = 0 := by
  induction n with
  | zero => rfl
  | succ n ih => exact ih

theorem digitsValue_toDigits (n : Nat) :
    digitsValue (Nat.toDigits 10 n) = n :=
  Nat.ofDigitChars_ten_toDigits

theorem isDigit_of_mem_toDigits {n : Nat} {c : Char}
    (h : c ∈ Nat.toDigits 10 n) : c.isDigit = true :=
  Nat.isDigit_of_mem_toDigits (by decide) (by decide) h

/-- The digits of a number other than zero do not start with a zero. -/
theorem head?_toDigits {n : Nat} (hn : 0 < n) :
    (Nat.toDigits 10 n).head? ≠ some '0' := by
  intro h
  obtain ⟨rest, hrest⟩ := List.head?_eq_some_iff.1 h
  have hvalue := digitsValue_toDigits n
  have hlt : digitsValue rest < 10 ^ rest.length := digitsValue_lt fun c hc =>
    isDigit_of_mem_toDigits (hrest ▸ List.mem_cons_of_mem _ hc)
  have hlow := (Binary64.toDigits_bounds hn).1
  rw [hrest, List.length_cons, Nat.add_sub_cancel] at hlow
  rw [hrest] at hvalue
  have hsame : digitsValue ('0' :: rest) = digitsValue rest := rfl
  omega

end Text

namespace Json

open Text

-- ================================================================ parts

/-- Whether a number ends in front of some characters: they are none, or
the first of them cannot go on with it. -/
def EndsNumber (rest : List Char) : Prop :=
  ∀ c ∈ rest.head?, c.isDigit = false ∧ c ≠ '.' ∧ c ≠ 'e' ∧ c ≠ 'E'

theorem endsNumber_nil : EndsNumber [] := fun _ hc => nomatch hc

/-- The marks of containers end a number, so that one can be read inside
them. -/
theorem endsNumber_of_mark {c : Char} (h : c = ',' ∨ c = ']' ∨ c = '\x7d')
    (rest : List Char) : EndsNumber (c :: rest) := by
  intro d hd
  cases Option.some.inj hd
  rcases h with rfl | rfl | rfl <;> decide

/-- Whether a row of digits ends in front of some characters. -/
def EndsDigits (rest : List Char) : Prop :=
  ∀ c ∈ rest.head?, c.isDigit = false

/-- Whether a fraction ends in front of some characters. -/
def EndsFraction (rest : List Char) : Prop :=
  ∀ c ∈ rest.head?, c.isDigit = false ∧ c ≠ '.'

theorem EndsFraction.endsDigits {rest : List Char} (h : EndsFraction rest) :
    EndsDigits rest := fun c hc => (h c hc).1

theorem EndsNumber.endsFraction {rest : List Char} (h : EndsNumber rest) :
    EndsFraction rest := fun c hc => ⟨(h c hc).1, (h c hc).2.1⟩

theorem takeWhile_digits {ds rest : List Char}
    (hd : ∀ c ∈ ds, c.isDigit = true) (hrest : EndsDigits rest) :
    (ds ++ rest).takeWhile Char.isDigit = ds := by
  rw [List.takeWhile_append_of_pos hd]
  cases rest with
  | nil => exact List.append_nil _
  | cons c rest =>
      rw [List.takeWhile_cons_of_neg (by simp [hrest c rfl]),
        List.append_nil]

/-- Whether a row of digits is the integer part of a number: a zero, or
digits that do not start with one. -/
def IsIntegerPart (ds : List Char) : Prop :=
  ds = ['0']
    ∨ ds ≠ [] ∧ (∀ c ∈ ds, c.isDigit = true) ∧ ds.head? ≠ some '0'

theorem isIntegerPart_toDigits (n : Nat) :
    IsIntegerPart (Nat.toDigits 10 n) := by
  rcases Nat.eq_zero_or_pos n with rfl | hn
  · exact Or.inl rfl
  · exact Or.inr ⟨Nat.toDigits_ne_nil,
      fun c hc => isDigit_of_mem_toDigits hc, head?_toDigits hn⟩

/-- The integer part is read up to its end, a zero alone without looking
further. -/
theorem integerPart?_append {ds rest : List Char} (h : IsIntegerPart ds)
    (hrest : EndsDigits rest) :
    integerPart? (ds ++ rest) = some (ds, rest) := by
  rcases h with rfl | ⟨hne, hd, hlead⟩
  · rfl
  · unfold integerPart?
    split
    case h_1 tail heq =>
        obtain ⟨d, ds, rfl⟩ := List.exists_cons_of_ne_nil hne
        exact absurd (congrArg some (List.cons.inj heq).1) hlead
    case h_2 =>
        simp only
        rw [takeWhile_digits hd hrest, if_neg (by simpa using hne),
          List.drop_left]

/-- Digits behind a point, if there are any. -/
def pointText (fracs : List Char) : List Char :=
  if fracs.isEmpty then [] else '.' :: fracs

/-- The fraction is read up to its end, and where there is no point, there
is none. -/
theorem fractionPart_pointText {fracs rest : List Char}
    (hd : ∀ c ∈ fracs, c.isDigit = true) (hrest : EndsFraction rest) :
    fractionPart (pointText fracs ++ rest) = (fracs, rest) := by
  cases fracs with
  | nil =>
      show fractionPart rest = ([], rest)
      unfold fractionPart
      split
      case h_1 => exact absurd rfl (hrest '.' rfl).2
      case h_2 => rfl
  | cons f fracs =>
      show fractionPart ('.' :: (f :: fracs ++ rest)) = _
      unfold fractionPart
      simp only
      rw [takeWhile_digits hd hrest.endsDigits, if_neg (by simp),
        List.drop_left]

theorem endsDigits_pointText {fracs rest : List Char}
    (hrest : EndsFraction rest) : EndsDigits (pointText fracs ++ rest) := by
  cases fracs with
  | nil => exact hrest.endsDigits
  | cons f fracs =>
      intro c hc
      cases Option.some.inj hc
      rfl

theorem exponentPart_none {rest : List Char} (h : EndsNumber rest) :
    exponentPart rest = (none, rest) := by
  cases rest with
  | nil => rfl
  | cons c rest =>
      obtain ⟨-, -, he, hE⟩ := h c rfl
      exact if_neg fun h => h.elim he hE

/-- The exponent that a sign and digits stand for. The writer puts a sign
there in any case. -/
theorem exponentPart_digits (neg : Bool) {ds rest : List Char}
    (hne : ds ≠ []) (hd : ∀ c ∈ ds, c.isDigit = true)
    (hrest : EndsDigits rest) :
    exponentPart ('e' :: (if neg then '-' else '+') :: (ds ++ rest))
      = (some (if neg then -(digitsValue ds : Int) else digitsValue ds),
        rest) := by
  unfold exponentPart
  cases neg
  all_goals
    simp only [if_true, true_or, Bool.false_eq_true, if_false]
    rw [takeWhile_digits hd hrest, if_neg (by simpa using hne),
      List.drop_left]
    rfl

-- ============================================================== numbers

/-- Digits alone are an integer, with the sign that was read in front of
them, if there are no more of them than the reader takes. -/
theorem readUnsigned_int (neg : Bool) (n : Nat)
    (hn : n < 10 ^ maxIntegerDigits) {rest : List Char}
    (hrest : EndsNumber rest) :
    readUnsigned neg (Nat.toDigits 10 n ++ rest)
      = some (.ok (.int (if neg then -(n : Int) else n), rest)) := by
  have hlen : ¬ maxIntegerDigits < (Nat.toDigits 10 n).length :=
    Nat.not_lt.2 ((Nat.length_toDigits_le_iff (by decide) (by decide)).2 hn)
  have hvalue : (Nat.toDigits 10 n).foldl
      (fun n d => 10 * n + (d.toNat - 0x30)) 0 = n := digitsValue_toDigits n
  have hfraction : fractionPart rest = ([], rest) :=
    fractionPart_pointText (List.forall_mem_nil _) hrest.endsFraction
  unfold readUnsigned
  rw [integerPart?_append (isIntegerPart_toDigits n)
    hrest.endsFraction.endsDigits]
  simp only [Option.bind_eq_bind, Option.bind_some]
  rw [hfraction]
  simp only
  rw [exponentPart_none hrest]
  simp only [List.append_nil, hvalue, if_neg hlen]
  rfl

/-- The digits of a number on the two sides of its point, which together
have its value. -/
structure IsPointed (v : ℚ) (ints fracs : List Char) : Prop where
  integer : IsIntegerPart ints
  fraction : ∀ c ∈ fracs, c.isDigit = true
  value : (digitsValue (ints ++ fracs) : ℚ) * 10 ^ (-(fracs.length : Int))
    = v

/-- A number with a point or an exponent is read as a decimal of its
value: the digits of both sides are one number, and the exponent is less
by those behind the point. -/
theorem readUnsigned_pointed (neg : Bool) {v : ℚ}
    {ints fracs back rest : List Char} (h : IsPointed v ints fracs)
    (hback : EndsFraction back) {exp? : Option Int}
    (hexp : exponentPart back = (exp?, rest))
    (hmark : fracs ≠ [] ∨ exp?.isSome = true) :
    ∃ (digits : Nat) (exponent : Int),
      readUnsigned neg (ints ++ (pointText fracs ++ back))
        = some (.ok (.float (Binary64.ofDecimal neg digits exponent), rest))
      ∧ (digits : ℚ) * 10 ^ exponent = v * 10 ^ exp?.getD 0 := by
  have hfloat : ¬ (fracs.isEmpty = true ∧ exp?.isNone = true) := by
    rintro ⟨hnil, hnone⟩
    rcases hmark with hmark | hmark
    · exact hmark (List.isEmpty_iff.1 hnil)
    · rw [Option.isNone_iff_eq_none.1 hnone] at hmark
      cases hmark
  refine ⟨digitsValue (ints ++ fracs), exp?.getD 0 - fracs.length, ?_, ?_⟩
  · unfold readUnsigned
    rw [integerPart?_append h.integer (endsDigits_pointText hback)]
    simp only [Option.bind_eq_bind, Option.bind_some]
    rw [fractionPart_pointText h.fraction hback]
    simp only
    rw [hexp]
    simp only
    rw [if_neg hfloat]
    rfl
  · rw [← h.value, sub_eq_neg_add, zpow_add₀ (by norm_num), mul_assoc]

-- ===================================================== written decimals

/-- Zeros between the point and the digits, for a number far below one. -/
theorem isPointed_zeros (n k : Nat) :
    IsPointed (n * 10 ^ (-(k + (Nat.toDigits 10 n).length : Int))) ['0']
      (List.replicate k '0' ++ Nat.toDigits 10 n) where
  integer := Or.inl rfl
  fraction := by
    intro c hc
    rcases List.mem_append.1 hc with hc | hc
    · rw [(List.mem_replicate.1 hc).2]
      rfl
    · exact isDigit_of_mem_toDigits hc
  value := by
    have hdigits : digitsValue (['0']
        ++ (List.replicate k '0' ++ Nat.toDigits 10 n)) = n := by
      rw [digitsValue_append, digitsValue_append, digitsValue_zeros,
        digitsValue_toDigits, Nat.zero_mul, Nat.zero_add]
      show 0 * _ + n = n
      rw [Nat.zero_mul, Nat.zero_add]
    rw [hdigits, List.length_append, List.length_replicate, Nat.cast_add]

section Digits

variable {n : Nat} (hn : 0 < n)

include hn

/-- Zeros between the digits and the point, and one behind it, for a
number that is whole. -/
theorem isPointed_whole (k : Nat) :
    IsPointed (n * 10 ^ k) (Nat.toDigits 10 n ++ List.replicate k '0')
      ['0'] where
  integer := by
    refine Or.inr ⟨by simp [Nat.toDigits_ne_nil], fun c hc => ?_, ?_⟩
    · rcases List.mem_append.1 hc with hc | hc
      · exact isDigit_of_mem_toDigits hc
      · rw [(List.mem_replicate.1 hc).2]
        rfl
    · rw [List.head?_append_of_ne_nil _ Nat.toDigits_ne_nil]
      exact head?_toDigits hn
  fraction := by simp
  value := by
    have hdigits : digitsValue (Nat.toDigits 10 n ++ List.replicate k '0'
        ++ ['0']) = n * 10 ^ k * 10 := by
      rw [digitsValue_append, digitsValue_append, digitsValue_zeros,
        digitsValue_toDigits, List.length_replicate]
      rfl
    rw [hdigits, List.length_singleton, Nat.cast_one, zpow_neg_one]
    push_cast
    ring

/-- The point among the digits, or behind the last of them where nothing
is on its other side. -/
theorem isPointed_split {k : Nat} (hk : 0 < k) :
    IsPointed (n * 10 ^ (-((Nat.toDigits 10 n).length - k : ℕ) : Int))
      ((Nat.toDigits 10 n).take k) ((Nat.toDigits 10 n).drop k) where
  integer := by
    refine Or.inr ⟨?_, fun c hc => ?_, ?_⟩
    · simp only [ne_eq, List.take_eq_nil_iff, not_or]
      exact ⟨hk.ne', Nat.toDigits_ne_nil⟩
    · exact isDigit_of_mem_toDigits (List.mem_of_mem_take hc)
    · rw [List.head?_take, if_neg hk.ne']
      exact head?_toDigits hn
  fraction := fun c hc => isDigit_of_mem_toDigits (List.mem_of_mem_drop hc)
  value := by
    rw [List.take_append_drop, digitsValue_toDigits, List.length_drop]

/-- What stands for digits with a point at some place, in front of them,
among them or behind them. -/
theorem exists_isPointed_pointed (point : Int) :
    ∃ ints fracs,
      (DecimalLayout.pointed (Nat.toDigits 10 n) point).toList
        = ints ++ pointText fracs
      ∧ fracs ≠ []
      ∧ IsPointed (n * 10 ^ (point - (Nat.toDigits 10 n).length)) ints
        fracs := by
  unfold DecimalLayout.pointed
  split
  case isTrue hpoint =>
      -- the point in front of all digits
      have h := isPointed_zeros n (-point).toNat
      have he : -(((-point).toNat : Int) + (Nat.toDigits 10 n).length)
          = point - (Nat.toDigits 10 n).length := by omega
      rw [he] at h
      exact ⟨_, _, by simp [pointText, Nat.toDigits_ne_nil],
        by simp [Nat.toDigits_ne_nil], h⟩
  case isFalse hpoint =>
      simp only
      split
      case isTrue hlong =>
          -- behind all of them
          have h := isPointed_whole hn
            (point.toNat - (Nat.toDigits 10 n).length)
          have he : point - (Nat.toDigits 10 n).length
              = (point.toNat - (Nat.toDigits 10 n).length : ℕ) := by omega
          rw [← zpow_natCast, ← he] at h
          exact ⟨_, _, by simp [pointText], by simp, h⟩
      case isFalse hshort =>
          -- among them, so that some are left behind it
          have hdrop : (Nat.toDigits 10 n).drop point.toNat ≠ [] := by
            simp only [ne_eq, List.drop_eq_nil_iff]
            omega
          have h := isPointed_split hn (show 0 < point.toNat by omega)
          have he : (-((Nat.toDigits 10 n).length - point.toNat : ℕ) : Int)
              = point - (Nat.toDigits 10 n).length := by omega
          rw [he] at h
          exact ⟨_, _, by simp [pointText, hdrop], hdrop, h⟩

end Digits

/-- A written exponent: the mark, a sign, and digits of the value, with
zeros in front of them to fill their width. -/
theorem exists_exponentText (l : DecimalLayout) (e : Int) :
    ∃ ds, (l.exponentText e).toList
        = 'e' :: (if decide (e < 0) then '-' else '+') :: ds
      ∧ ds ≠ [] ∧ (∀ c ∈ ds, c.isDigit = true)
      ∧ digitsValue ds = e.natAbs := by
  refine ⟨List.replicate (l.exponentDigits - (toString e.natAbs).length) '0'
    ++ Nat.toDigits 10 e.natAbs, ?_, by simp [Nat.toDigits_ne_nil],
    fun c hc => ?_, ?_⟩
  · unfold DecimalLayout.exponentText DecimalLayout.padZeros
    rw [String.toList_append, String.toList_append, String.toList_ofList]
    show _ ++ (_ ++ (Nat.repr e.natAbs).toList) = _
    rw [Nat.toList_repr]
    by_cases h : e < 0
    · simp [h]
    · simp [h]
  · rcases List.mem_append.1 hc with hc | hc
    · rw [(List.mem_replicate.1 hc).2]
      rfl
    · exact isDigit_of_mem_toDigits hc
  · rw [digitsValue_append, digitsValue_zeros, Nat.zero_mul, Nat.zero_add,
      digitsValue_toDigits]

/-- A written exponent is read back, whatever the width of its digits. -/
theorem exponentPart_exponentText (l : DecimalLayout) (e : Int)
    {rest : List Char} (hrest : EndsDigits rest) :
    exponentPart ((l.exponentText e).toList ++ rest) = (some e, rest) := by
  obtain ⟨ds, hds, hne, hdigits, hvalue⟩ := exists_exponentText l e
  rw [hds, List.cons_append, List.cons_append,
    exponentPart_digits (decide (e < 0)) hne hdigits hrest, hvalue]
  by_cases h : e < 0
  · simp only [h, decide_true, if_true]
    congr 2
    omega
  · simp only [h, decide_false, Bool.false_eq_true, if_false]
    congr 2
    omega

theorem endsFraction_exponentText (l : DecimalLayout) (e : Int)
    (rest : List Char) :
    EndsFraction ((l.exponentText e).toList ++ rest) := by
  obtain ⟨ds, hds, -⟩ := exists_exponentText l e
  rw [hds]
  intro c hc
  cases Option.some.inj hc
  decide

/-- What is written for a decimal is read as one of its value, whichever
layout it is written in. -/
theorem readUnsigned_decimal (l : DecimalLayout) (neg : Bool) (d : Decimal)
    {rest : List Char} (hrest : EndsNumber rest) :
    ∃ (digits : Nat) (exponent : Int),
      readUnsigned neg ((l.unsigned d).toList ++ rest)
        = some (.ok (.float (Binary64.ofDecimal neg digits exponent), rest))
      ∧ (digits : ℚ) * 10 ^ exponent = Binary64.decimalValue d := by
  have hnone := exponentPart_none hrest
  have hstring : (toString d.digits).toList = Nat.toDigits 10 d.digits :=
    Nat.toList_repr
  unfold DecimalLayout.unsigned Binary64.decimalValue
  split
  case isTrue hzero =>
      obtain ⟨digits, exponent, hread, hvalue⟩ := readUnsigned_pointed neg
        (isPointed_zeros 0 0) hrest.endsFraction hnone (Or.inl (by simp))
      refine ⟨digits, exponent, hread, ?_⟩
      rw [hvalue, hzero, Nat.cast_zero, zero_mul, zero_mul, zero_mul]
  case isFalse hpos =>
      have hpos : 0 < d.digits := Nat.pos_of_ne_zero hpos
      rw [hstring]
      simp only
      split
      · -- the point where it belongs
        obtain ⟨ints, fracs, htext, hne, hparts⟩ :=
          exists_isPointed_pointed hpos
            (d.exponent + (Nat.toDigits 10 d.digits).length - 1 + 1)
        obtain ⟨digits, exponent, hread, hvalue⟩ := readUnsigned_pointed
          neg hparts hrest.endsFraction hnone (Or.inl hne)
        rw [htext, List.append_assoc]
        refine ⟨digits, exponent, hread, ?_⟩
        rw [hvalue, Option.getD_none, zpow_zero, mul_one]
        congr 2
        omega
      · -- the point behind the first digit, and an exponent
        have hback := endsFraction_exponentText l
          (d.exponent + (Nat.toDigits 10 d.digits).length - 1) rest
        obtain ⟨digits, exponent, hread, hvalue⟩ := readUnsigned_pointed
          neg (isPointed_split hpos one_pos) hback
          (exponentPart_exponentText l _ hrest.endsFraction.endsDigits)
          (Or.inr rfl)
        refine ⟨digits, exponent, ?_, ?_⟩
        · rw [← hread, String.toList_append, String.toList_append,
            String.toList_ofList, List.append_assoc, List.append_assoc]
          congr 3
          unfold pointText
          split <;> simp
        · rw [hvalue, Option.getD_some, mul_assoc,
            ← zpow_add₀ (by norm_num)]
          congr 2
          have hlen : 0 < (Nat.toDigits 10 d.digits).length :=
            List.length_pos_iff.2 Nat.toDigits_ne_nil
          omega

/-- The digits of a finite double are read as the double, with the sign
that was read in front of them. -/
theorem readUnsigned_unsigned (l : DecimalLayout) {x : Binary64}
    {d : Decimal} (hd : x.shortest? = some d) {rest : List Char}
    (hrest : EndsNumber rest) :
    readUnsigned x.negative ((l.unsigned d).toList ++ rest)
      = some (.ok (.float x, rest)) := by
  obtain ⟨digits, exponent, hread, hvalue⟩ :=
    readUnsigned_decimal l x.negative d hrest
  rw [hread, Binary64.ofDecimal_shortest hd hvalue]

-- ============================================================== scalars

/-- What is read as a number begins with a digit, since it begins with an
integer part. -/
theorem head_isDigit_of_readUnsigned {neg : Bool} {cs : List Char}
    {outcome : Except Refusal (Json × List Char)}
    (h : readUnsigned neg cs = some outcome) :
    ∃ c rest, cs = c :: rest ∧ c.isDigit = true := by
  obtain ⟨parts, hparts, -⟩ := Option.bind_eq_some_iff.1 h
  unfold integerPart? at hparts
  split at hparts
  case h_1 rest => exact ⟨'0', rest, rfl, rfl⟩
  case h_2 =>
      simp only at hparts
      split at hparts
      case isTrue => cases hparts
      case isFalse hne =>
          cases cs with
          | nil => exact absurd rfl hne
          | cons c rest =>
              refine ⟨c, rest, rfl, ?_⟩
              by_contra hc
              rw [List.takeWhile_cons_of_neg hc] at hne
              exact hne rfl

/-- A sign in front of digits is in front of all that follows them. -/
theorem signed_append (neg : Bool) (ds rest : List Char) :
    signed neg ds ++ rest = signed neg (ds ++ rest) := by
  unfold signed
  split <;> rfl

/-- No word begins with a digit, and the one that begins with a sign has
a letter next. -/
theorem find?_words_signed (neg : Bool) {c : Char} (hc : c.isDigit = true)
    (rest : List Char) :
    words.find? (fun w => w.1.isPrefixOf (signed neg (c :: rest)))
      = none := by
  -- the words are few: none begins with a digit, nor has one behind a sign
  have hwords : ∀ w ∈ words, ∃ a t, w.1 = a :: t ∧ a.isDigit = false
      ∧ (a = '-' → ∃ b t', t = b :: t' ∧ b.isDigit = false) := by
    simp [words]
  rw [List.find?_eq_none]
  intro w hw hprefix
  obtain ⟨a, t, hat, ha, hsign⟩ := hwords w hw
  rw [hat] at hprefix
  cases neg with
  | false =>
      have heq : a = c := by
        simp only [signed, Bool.false_eq_true, if_false,
          List.isPrefixOf_cons_cons, Bool.and_eq_true, beq_iff_eq] at hprefix
        exact hprefix.1
      rw [heq, hc] at ha
      cases ha
  | true =>
      simp only [signed, if_true, List.isPrefixOf_cons_cons, Bool.and_eq_true,
        beq_iff_eq] at hprefix
      obtain ⟨b, t', rfl, hb⟩ := hsign hprefix.1
      have heq : b = c := by
        have h := hprefix.2
        simp only [List.isPrefixOf_cons_cons, Bool.and_eq_true,
          beq_iff_eq] at h
        exact h.1
      rw [heq, hc] at hb
      cases hb

/-- A number without a sign is read as it stands, and refused if it is
none. -/
theorem readNumber_cons_of_ne {c : Char} (hc : c ≠ '-') (rest : List Char) :
    readNumber (c :: rest)
      = (readUnsigned false (c :: rest)).getD
          (refuse .expectingValue (c :: rest)) := by
  unfold readNumber
  simp only
  split
  case h_1 heq => exact absurd (List.cons.inj heq).1 hc
  case h_2 => rfl

/-- A sign and what is read as a number behind it are read as a value, and
not taken for a word. -/
theorem readScalar_signed {neg : Bool} {cs rest : List Char} {v : Json}
    (h : readUnsigned neg cs = some (.ok (v, rest))) :
    readScalar (signed neg cs) = .ok (v, rest) := by
  obtain ⟨c, tail, rfl, hc⟩ := head_isDigit_of_readUnsigned h
  unfold readScalar
  rw [find?_words_signed neg hc]
  simp only
  cases neg with
  | true =>
      show (readUnsigned true (c :: tail)).getD _ = _
      rw [h]
      rfl
  | false =>
      have hsign : c ≠ '-' := by
        rintro rfl
        cases hc
      show readNumber (c :: tail) = _
      rw [readNumber_cons_of_ne hsign, h]
      rfl

/-- An integer that can be written is read back, whatever follows that
ends a number. -/
theorem readScalar_int {n : Int} (hn : fitsWord n = true)
    {rest : List Char} (hrest : EndsNumber rest) :
    readScalar ((toString n).toList ++ rest) = .ok (.int n, rest) := by
  have habs : n.natAbs < 10 ^ maxIntegerDigits := by
    have hword : n.natAbs < 2 ^ 64 := by
      unfold fitsWord at hn
      simp only [Bool.and_eq_true, decide_eq_true_eq] at hn
      omega
    exact hword.trans_le ((show 2 ^ 64 ≤ 10 ^ 20 by norm_num).trans
      (Nat.pow_le_pow_right (by norm_num) (by decide)))
  have hread := readUnsigned_int (decide (n < 0)) n.natAbs habs hrest
  have hvalue : (if decide (n < 0) = true then -(n.natAbs : Int)
      else n.natAbs) = n := by
    by_cases h : n < 0
    · simp only [h, decide_true, if_true]
      omega
    · simp only [h, decide_false, Bool.false_eq_true, if_false]
      omega
  rw [hvalue] at hread
  rw [toString_eq_signed, String.toList_ofList, signed_append]
  exact readScalar_signed hread

/-- The characters of a finite double: its sign, and its digits. Zero has
a sign as well. -/
theorem toList_render (l : DecimalLayout) {x : Binary64} {d : Decimal}
    (hd : x.shortest? = some d) :
    (l.render x).toList = signed x.negative (l.unsigned d).toList := by
  unfold DecimalLayout.render
  rw [hd]
  simp only [String.toList_append]
  unfold signed
  split <;> rfl

/-- A finite double is read back, bit by bit, whatever follows that ends a
number. -/
theorem readScalar_float {x : Binary64} {d : Decimal}
    (hd : x.shortest? = some d) {rest : List Char}
    (hrest : EndsNumber rest) :
    readScalar ((jsonDecimals.render x).toList ++ rest)
      = .ok (.float x, rest) := by
  rw [toList_render _ hd, signed_append]
  exact readScalar_signed (readUnsigned_unsigned _ hd hrest)

end Json

end SchemaAudit
