/-
JSON text is one line. Between the quotes of a string a control
character stands as an escape, and nothing else that is written holds
one: not the digits of a number, nor the marks between values. So no
line ends inside the text of a value (`isPlain_chars`).

The proof follows the writer. `IsPlain` passes through appending, taking
and dropping, so that each part of a text is plain if the characters are
from which it is put together.
-/
import SchemaAudit.Data.Json.Writer
import SchemaAudit.Proofs.Json.Number

namespace SchemaAudit.Json

-- =========================================================== characters

theorem hex_control : ∀ n < 0x20,
    Text.hex 4 n = ['0', '0', (n / 16).digitChar, (n % 16).digitChar] := by
  decide

/-- Whether no control character is among some characters. -/
def IsPlain (cs : List Char) : Prop := ∀ c ∈ cs, 0x20 ≤ c.toNat

theorem isPlain_nil : IsPlain [] := fun _ hc => nomatch hc

theorem isPlain_cons {c : Char} {cs : List Char} :
    IsPlain (c :: cs) ↔ 0x20 ≤ c.toNat ∧ IsPlain cs :=
  List.forall_mem_cons

theorem isPlain_append {cs ds : List Char} :
    IsPlain (cs ++ ds) ↔ IsPlain cs ∧ IsPlain ds :=
  List.forall_mem_append

theorem isPlain_text_append {s t : String} :
    IsPlain (s ++ t).toList ↔ IsPlain s.toList ∧ IsPlain t.toList := by
  rw [String.toList_append, isPlain_append]

theorem IsPlain.text {cs : List Char} (h : IsPlain cs) :
    IsPlain (String.ofList cs).toList := by
  rwa [String.toList_ofList]

theorem IsPlain.take {cs : List Char} (h : IsPlain cs) (n : Nat) :
    IsPlain (cs.take n) := fun c hc => h c (List.mem_of_mem_take hc)

theorem IsPlain.drop {cs : List Char} (h : IsPlain cs) (n : Nat) :
    IsPlain (cs.drop n) := fun c hc => h c (List.mem_of_mem_drop hc)

theorem isPlain_of_digits {ds : List Char}
    (h : ∀ c ∈ ds, c.isDigit = true) : IsPlain ds := by
  intro c hc
  have hdigit := h c hc
  simp only [Char.isDigit, Bool.and_eq_true, decide_eq_true_eq] at hdigit
  exact le_trans (by decide) (Nat.le_of_lt_succ (Nat.lt_succ_of_le hdigit.1))

theorem isPlain_toDigits (n : Nat) : IsPlain (Nat.toDigits 10 n) :=
  isPlain_of_digits fun _ hc => Text.isDigit_of_mem_toDigits hc

/-- A row of zeros is plain, which is put before or behind the digits of a
number. -/
theorem isPlain_zeros (n : Nat) : IsPlain (List.replicate n '0') := by
  intro c hc
  rw [(List.mem_replicate.1 hc).2]
  decide

/-- The digits that stand for a control character are plain, though the
character is not. -/
theorem isPlain_hex {n : Nat} (hn : n < 0x20) : IsPlain (Text.hex 4 n) := by
  have hdigit : ∀ d < 0x10, 0x20 ≤ d.digitChar.toNat := by decide
  rw [hex_control n hn]
  simp only [isPlain_cons]
  exact ⟨by decide, by decide, hdigit _ (by omega), hdigit _ (by omega),
    isPlain_nil⟩

-- ============================================================== strings

/-- What stands for a character in a string is plain: a control character
is escaped, and any other one is plain itself or escaped as well. -/
theorem isPlain_escapeChar (c : Char) : IsPlain (escapeChar c) := by
  unfold escapeChar
  iterate 7
    refine iteInduction (fun _ => by simp [IsPlain]) fun _ => ?_
  split
  case isTrue h =>
      rw [isPlain_cons, isPlain_cons]
      exact ⟨by decide, by decide, isPlain_hex h⟩
  case isFalse h =>
      exact isPlain_cons.2 ⟨Nat.not_lt.1 h, isPlain_nil⟩

/-- A string with its quotes is plain, as each of its characters is. -/
theorem isPlain_quoteChars (s : String) : IsPlain (quoteChars s) := by
  unfold quoteChars
  rw [isPlain_append, isPlain_cons]
  refine ⟨⟨by decide, fun c hc => ?_⟩, by simp [IsPlain]⟩
  obtain ⟨d, -, hd⟩ := List.mem_flatMap.1 hc
  exact isPlain_escapeChar d c hd

-- ============================================================== numbers

theorem isPlain_int (n : Int) : IsPlain (toString n).toList := by
  rw [Text.toString_eq_signed, String.toList_ofList]
  cases decide (n < 0) with
  | true => exact isPlain_cons.2 ⟨by decide, isPlain_toDigits _⟩
  | false => exact isPlain_toDigits _

/-- The exponent behind a mantissa is plain: its letter, its sign and its
digits. -/
theorem isPlain_exponentText (l : DecimalLayout) (e : Int) :
    IsPlain (l.exponentText e).toList := by
  unfold DecimalLayout.exponentText DecimalLayout.padZeros
  rw [isPlain_text_append, isPlain_text_append]
  refine ⟨?_, (isPlain_zeros _).text, ?_⟩
  · split <;> simp [IsPlain]
  · show IsPlain (Nat.repr e.natAbs).toList
    rw [Nat.toList_repr]
    exact isPlain_toDigits _

/-- Digits with a point among them are plain, wherever the point stands. -/
theorem isPlain_pointed {ds : List Char} (h : IsPlain ds) (point : Int) :
    IsPlain (DecimalLayout.pointed ds point).toList := by
  unfold DecimalLayout.pointed
  split
  · rw [isPlain_text_append]
    exact ⟨by simp [IsPlain],
      (isPlain_append.2 ⟨isPlain_zeros _, h⟩).text⟩
  · simp only
    split
    · rw [isPlain_text_append]
      exact ⟨(isPlain_append.2 ⟨h, isPlain_zeros _⟩).text,
        by simp [IsPlain]⟩
    · rw [isPlain_text_append, isPlain_text_append]
      exact ⟨⟨(h.take _).text, by simp [IsPlain]⟩, (h.drop _).text⟩

theorem isPlain_unsigned (l : DecimalLayout) (d : Decimal) :
    IsPlain (l.unsigned d).toList := by
  unfold DecimalLayout.unsigned
  split
  · simp [IsPlain]
  · have hds : IsPlain (toString d.digits).toList := by
      show IsPlain (Nat.repr d.digits).toList
      rw [Nat.toList_repr]
      exact isPlain_toDigits _
    simp only
    split
    · exact isPlain_pointed hds _
    · rw [isPlain_text_append, isPlain_text_append]
      refine ⟨⟨(hds.take 1).text, ?_⟩, isPlain_exponentText l _⟩
      split
      · simp [IsPlain]
      · rw [isPlain_text_append]
        exact ⟨by simp [IsPlain], (hds.drop 1).text⟩

theorem isPlain_float (x : Binary64) :
    IsPlain (jsonDecimals.render x).toList := by
  unfold DecimalLayout.render
  simp only
  split
  · rw [isPlain_text_append]
    refine ⟨?_, isPlain_unsigned _ _⟩
    split <;> simp [IsPlain]
  · split <;> simp [IsPlain, jsonDecimals]

-- =============================================================== values

mutual

/-- No control character stands in the text of a value. The recursion is
that of the writer, on values, items and entries together. -/
theorem isPlain_chars : ∀ v : Json, IsPlain v.chars
  | .null | .bool true | .bool false => by simp [IsPlain, chars]
  | .int n => isPlain_int n
  | .float x => isPlain_float x
  | .str s => isPlain_quoteChars s
  | .arr items => by
      show IsPlain ('[' :: itemChars items ++ [']'])
      rw [isPlain_append, isPlain_cons]
      exact ⟨⟨by decide, isPlain_itemChars items⟩, by simp [IsPlain]⟩
  | .obj entries => by
      show IsPlain ('\x7b' :: entryChars entries ++ ['\x7d'])
      rw [isPlain_append, isPlain_cons]
      exact ⟨⟨by decide, isPlain_entryChars entries⟩, by simp [IsPlain]⟩

/-- Nor does one in the items of a list and the marks between them. -/
theorem isPlain_itemChars : ∀ items : List Json, IsPlain (itemChars items)
  | [] => isPlain_nil
  | [v] => isPlain_chars v
  | v :: u :: more => by
      show IsPlain (v.chars ++ ',' :: itemChars (u :: more))
      rw [isPlain_append, isPlain_cons]
      exact ⟨isPlain_chars v, by decide, isPlain_itemChars (u :: more)⟩

/-- Nor does one in the entries of an object, keys and values alike. -/
theorem isPlain_entryChars : ∀ entries : List (String × Json),
    IsPlain (entryChars entries)
  | [] => isPlain_nil
  | [(k, v)] => by
      show IsPlain (quoteChars k ++ ':' :: v.chars)
      rw [isPlain_append, isPlain_cons]
      exact ⟨isPlain_quoteChars k, by decide, isPlain_chars v⟩
  | (k, v) :: e :: more => by
      show IsPlain
        (quoteChars k ++ ':' :: v.chars ++ ',' :: entryChars (e :: more))
      rw [isPlain_append, isPlain_append, isPlain_cons, isPlain_cons]
      exact ⟨⟨isPlain_quoteChars k, by decide, isPlain_chars v⟩, by decide,
        isPlain_entryChars (e :: more)⟩

end

end SchemaAudit.Json
