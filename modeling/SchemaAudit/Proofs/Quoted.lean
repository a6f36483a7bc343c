/-
Quoted texts in messages. Whatever stands for a character between
quotes, the character is read back from it, and what follows with it
(`readEscaped_escapeChar`); and nothing that stands for a character
begins with the quote. So a quoted text ends where it ends, and no two
texts are quoted alike, whatever follows them (`eq_of_quoted_append`).

The reader here has no part in the program, where quoted texts are only
written for people. It is the inverse that shows the writer to lose
nothing: a character stands for itself, behind a backslash, or as a code
point in digits whose number the letter before them tells. Which quote
encloses a text depends on the text, but is the first character of what
is written, so that texts that are quoted alike have the same.
-/
import Mathlib.Algebra.Group.Nat.Defs
import SchemaAudit.Data.Json.Reader
import SchemaAudit.Text.Quoted

namespace SchemaAudit.Text

-- ================================================== hexadecimal digits

/-- The value of a row of hexadecimal digits. -/
def hexValue (ds : List Char) : Nat :=
  ds.foldl (fun n c => 16 * n + (Json.hexValue? c).getD 0) 0

/-- A further digit counts once, and those before it sixteen times. -/
theorem hexValue_concat (ds : List Char) (c : Char) :
    hexValue (ds ++ [c])
      = 16 * hexValue ds + (Json.hexValue? c).getD 0 := by
  unfold hexValue
  rw [List.foldl_append]
  rfl

theorem hexValue?_digitChar :
    ∀ n < 16, (Json.hexValue? n.digitChar).getD 0 = n := by decide

/-- The digits of a number have the number as their value, by induction on
what is left of it when the last one is taken away. -/
theorem hexValue_toDigits (n : Nat) : hexValue (Nat.toDigits 16 n) = n := by
  induction n using Nat.strongRecOn with
  | ind n ih =>
      rw [Nat.toDigits_eq_if (by decide)]
      split
      case isTrue h =>
          show 16 * 0 + (Json.hexValue? n.digitChar).getD 0 = n
          rw [hexValue?_digitChar n h, Nat.mul_zero, Nat.zero_add]
      case isFalse h =>
          have hdigit : n % 16 < 16 := Nat.mod_lt n (by decide)
          rw [hexValue_concat, ih (n / 16) (by omega),
            hexValue?_digitChar _ hdigit]
          exact Nat.div_add_mod n 16

/-- Zeros in front change no value, so that a width is filled without
harm. -/
theorem hexValue_hex (width n : Nat) : hexValue (hex width n) = n := by
  have hzeros : ∀ k, hexValue (List.replicate k '0') = 0 := by
    intro k
    induction k with
    | zero => rfl
    | succ k ih =>
        rw [List.replicate_succ', hexValue_concat, ih]
        rfl
  unfold hex
  show hexValue (_ ++ Nat.toDigits 16 n) = n
  unfold hexValue at hzeros ⊢
  rw [List.foldl_append, hzeros]
  exact hexValue_toDigits n

/-- Digits fill their width exactly, if the number has no more digits than
that. -/
theorem length_hex {width n : Nat} (hw : 0 < width)
    (hn : n < 16 ^ width) : (hex width n).length = width := by
  have hlength : (Nat.toDigits 16 n).length ≤ width :=
    (Nat.length_toDigits_le_iff (by decide) hw).2 hn
  unfold hex
  rw [List.length_append, List.length_replicate]
  omega

/-- What follows digits that fill a width begins behind that width, so
that the reader knows where to stop. -/
theorem take_drop_hex {width n : Nat} (hw : 0 < width)
    (hn : n < 16 ^ width) (rest : List Char) :
    (hex width n ++ rest).take width = hex width n
      ∧ (hex width n ++ rest).drop width = rest :=
  ⟨List.take_left' (length_hex hw hn), List.drop_left' (length_hex hw hn)⟩

-- ============================================================ characters

/-- The character that the letter behind a backslash announces, and what
is left. -/
def readBehind (letter : Char) (rest : List Char) : Char × List Char :=
  let coded (width : Nat) : Char × List Char :=
    (Char.ofNat (hexValue (rest.take width)), rest.drop width)
  match letter with
  | 'n' => ('\n', rest)
  | 'r' => ('\r', rest)
  | 't' => ('\t', rest)
  | 'x' => coded 2
  | 'u' => coded 4
  | 'U' => coded 8
  | c => (c, rest)

/-- The character at the front of an escaped text, and what is left. -/
def readEscaped : List Char → Option (Char × List Char)
  | [] => none
  | c :: rest =>
      if c = '\\' then
        match rest with
        | [] => none
        | letter :: rest => some (readBehind letter rest)
      else some (c, rest)

/-- The quotes that may enclose a text. -/
def IsQuote (c : Char) : Prop := c = '\'' ∨ c = '"'

theorem isQuote_quoteFor (cs : List Char) : IsQuote (quoteFor cs) := by
  unfold quoteFor
  split
  · exact Or.inr rfl
  · exact Or.inl rfl

/-- A code point is read back from the digits that stand for it, whether
they are two, four or eight. -/
theorem readEscaped_codePointEscape (c : Char) (rest : List Char) :
    readEscaped (codePointEscape c.toNat ++ rest) = some (c, rest) := by
  have hbound : c.toNat < 16 ^ 8 := c.val.toNat_lt
  have hread : ∀ {letter : Char} {width : Nat}, 0 < width →
      c.toNat < 16 ^ width →
      readBehind letter (hex width c.toNat ++ rest)
        = (Char.ofNat (hexValue ((hex width c.toNat ++ rest).take width)),
          (hex width c.toNat ++ rest).drop width) →
      readBehind letter (hex width c.toNat ++ rest) = (c, rest) := by
    intro letter width hw hn hletter
    obtain ⟨htake, hdrop⟩ := take_drop_hex hw hn rest
    rw [hletter, htake, hdrop, hexValue_hex, Char.ofNat_toNat]
  unfold codePointEscape
  split
  case isTrue h => exact congrArg some (hread (by decide) h rfl)
  case isFalse =>
      split
      case isTrue h => exact congrArg some (hread (by decide) h rfl)
      case isFalse => exact congrArg some (hread (by decide) hbound rfl)

/-- A character is read back from what stands for it between quotes,
whatever follows it. -/
theorem readEscaped_escapeChar {quote : Char} (hquote : IsQuote quote)
    (c : Char) (rest : List Char) :
    readEscaped (escapeChar quote c ++ rest) = some (c, rest) := by
  unfold escapeChar
  split
  case isTrue h =>
      have hc : c = '\\' ∨ IsQuote c := h.imp_right fun hc => by
        rw [hc]
        exact hquote
      rcases hc with rfl | rfl | rfl
      · rfl
      · rfl
      · rfl
  case isFalse h =>
      rw [not_or] at h
      split
      case isTrue hc => rw [hc]; rfl
      case isFalse =>
          split
          case isTrue hc => rw [hc]; rfl
          case isFalse =>
              split
              case isTrue hc => rw [hc]; rfl
              case isFalse =>
                  split
                  case isTrue => exact if_neg h.1
                  case isFalse => exact readEscaped_codePointEscape c rest

/-- What stands for a character does not begin with the quote: a quote
inside a text stands behind a backslash. -/
theorem escapeChar_append_ne {quote : Char} (hquote : IsQuote quote)
    (c : Char) (rest rest' : List Char) :
    escapeChar quote c ++ rest ≠ quote :: rest' := by
  intro h
  have hread := readEscaped_escapeChar hquote c rest
  rw [h] at hread
  have hne : quote ≠ '\\' := by
    rcases hquote with rfl | rfl
    · decide
    · decide
  rw [show readEscaped (quote :: rest') = some (quote, rest') from
    if_neg hne] at hread
  obtain ⟨rfl, -⟩ := Prod.mk.inj (Option.some.inj hread)
  unfold escapeChar at h
  rw [if_pos (Or.inr rfl)] at h
  exact hne (List.cons.inj h).1.symm

-- ================================================================= texts

/-- Up to the quote at its end, an escaped text tells the text, character
by character. -/
theorem eq_of_escaped_append {quote : Char} (hquote : IsQuote quote)
    {cs ds rest rest' : List Char}
    (h : cs.flatMap (escapeChar quote) ++ quote :: rest
      = ds.flatMap (escapeChar quote) ++ quote :: rest') : cs = ds := by
  induction cs generalizing ds with
  | nil =>
      cases ds with
      | nil => rfl
      | cons d ds =>
          rw [List.flatMap_cons, List.append_assoc] at h
          exact absurd h.symm (escapeChar_append_ne hquote _ _ _)
  | cons c cs ih =>
      rw [List.flatMap_cons, List.append_assoc] at h
      cases ds with
      | nil => exact absurd h (escapeChar_append_ne hquote _ _ _)
      | cons d ds =>
          rw [List.flatMap_cons, List.append_assoc] at h
          have hread := congrArg readEscaped h
          rw [readEscaped_escapeChar hquote, readEscaped_escapeChar hquote]
            at hread
          obtain ⟨rfl, hrest⟩ := Prod.mk.inj (Option.some.inj hread)
          rw [ih hrest]

/-- A quoted text is its quote, what stands for each character, and the
quote again. -/
theorem toList_quoted (s : String) :
    (quoted s).toList
      = quoteFor s.toList
        :: (s.toList.flatMap (escapeChar (quoteFor s.toList))
          ++ [quoteFor s.toList]) := by
  unfold quoted
  rw [String.toList_ofList, List.cons_append]

/-- What is quoted in front of anything is known from it. Hence a list of
quoted texts tells its members without a separator. -/
theorem eq_of_quoted_append {s t : String} {rest rest' : List Char}
    (h : (quoted s).toList ++ rest = (quoted t).toList ++ rest') :
    s = t := by
  rw [toList_quoted, toList_quoted] at h
  obtain ⟨hquote, htail⟩ := List.cons.inj h
  rw [← hquote] at htail
  simp only [List.append_eq, List.append_assoc, List.singleton_append]
    at htail
  exact String.toList_inj.1
    (eq_of_escaped_append (isQuote_quoteFor s.toList) htail)

end SchemaAudit.Text
