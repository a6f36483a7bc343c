/-
What is written as JSON is read back.

# Strings

A character of a string is read back from what stands for it
(`readString_escapeChar`), and so is a string, up to its closing quote.
The reader collects the characters in reverse, and the lemmas speak of
any number collected before.

# Values

A value is read back whatever follows it, if only its end can be seen
(`ReadsBack`): scalars by themselves, and the rows of items and entries
by induction along the row, from the values in them (`readItems_chars`,
`readEntries_chars`). For an object its keys have to differ, for
otherwise the reader drops an entry; and a double has to be finite, for
the others are written as null (`isExact`).

# Room and fuel

The reader has more room for containers than the writer takes, and two
units of fuel for each character: a container, an item and an entry cost
one each beside what is in them, and each has a mark of its own. So
neither room nor fuel is ever the reason why a text that was written is
not read (`read_chars`).
-/
import SchemaAudit.Proofs.Json.Line
import SchemaAudit.Proofs.Json.Number
import SchemaAudit.Proofs.Table

namespace SchemaAudit.Json

-- ============================================================== strings

/-- The digits of a control character are read as its code, which is no
half of a pair. -/
theorem hex4?_control : ∀ n < 0x20,
    hex4? '0' '0' (n / 16).digitChar (n % 16).digitChar = some n
      ∧ isHighHalf n = false ∧ unitChar n = Char.ofNat n := by
  decide

section Characters

variable (opening : Nat) (acc : List Char)

/-- Behind a backslash a letter is read as the character that it
announces. -/
theorem readString_letter {c x : Char} (hu : c ≠ 'u')
    (hx : letterEscape? c = some x) (rest : List Char) :
    readString opening acc ('\\' :: c :: rest)
      = readString opening (x :: acc) rest := by
  rw [readString.eq_5 _ _ _ _ fun _ _ _ _ _ _ h _ => hu h, if_neg hu, hx]

/-- Behind a backslash and the letter for a code, four digits are read as
the control character. -/
theorem readString_control {c : Char} (hc : c.toNat < 0x20) (d : Char)
    (rest : List Char) :
    readString opening acc ('\\' :: 'u' :: Text.hex 4 c.toNat ++ d :: rest)
      = readString opening (c :: acc) (d :: rest) := by
  obtain ⟨hread, hhalf, hunit⟩ := hex4?_control c.toNat hc
  rw [hex_control c.toNat hc]
  simp only [List.cons_append, List.nil_append]
  rw [readString.eq_4, hread]
  simp only
  rw [if_neg (by simp [hhalf]), hunit, Char.ofNat_toNat]

/-- Any other character stands for itself, unless it is a quote or a
backslash. -/
theorem readString_plain {c : Char} (hquote : c ≠ '"') (hslash : c ≠ '\\')
    (hc : ¬ c.toNat < 0x20) (rest : List Char) :
    readString opening acc (c :: rest)
      = readString opening (c :: acc) rest := by
  rw [readString.eq_6 _ _ _ _ hquote (fun h _ => hslash h)
    (fun _ _ _ _ _ _ h _ => hslash h) (fun _ _ h _ => hslash h),
    if_neg hc]

/-- What stands for a character is read as the character, and no more of
what follows than the next character is looked at. -/
theorem readString_escapeChar (c d : Char) (rest : List Char) :
    readString opening acc (escapeChar c ++ d :: rest)
      = readString opening (c :: acc) (d :: rest) := by
  have hletter : ∀ letter : Char, letter ≠ 'u' →
      letterEscape? letter = some c →
      readString opening acc (['\\', letter] ++ d :: rest)
        = readString opening (c :: acc) (d :: rest) := fun letter hu hx =>
    readString_letter opening acc hu hx (d :: rest)
  unfold escapeChar
  split
  case isTrue h => exact hletter '"' (by decide) (by rw [h]; rfl)
  case isFalse hquote =>
  split
  case isTrue h => exact hletter '\\' (by decide) (by rw [h]; rfl)
  case isFalse hslash =>
  split
  case isTrue h => exact hletter 'b' (by decide) (by rw [h]; rfl)
  case isFalse =>
  split
  case isTrue h => exact hletter 't' (by decide) (by rw [h]; rfl)
  case isFalse =>
  split
  case isTrue h => exact hletter 'n' (by decide) (by rw [h]; rfl)
  case isFalse =>
  split
  case isTrue h => exact hletter 'f' (by decide) (by rw [h]; rfl)
  case isFalse =>
  split
  case isTrue h => exact hletter 'r' (by decide) (by rw [h]; rfl)
  case isFalse =>
  split
  -- no letter of its own: a control character, or one that stands for itself
  case isTrue h => exact readString_control opening acc h d rest
  case isFalse h =>
    exact readString_plain opening acc hquote hslash h (d :: rest)

end Characters

/-- What stands for some characters is read as these, up to the quote. The
induction is along the characters, for any that were read before. -/
theorem readString_flatMap_escapeChar (opening : Nat) (cs : List Char)
    (rest : List Char) :
    ∀ acc : List Char,
      readString opening acc (cs.flatMap escapeChar ++ '"' :: rest)
        = .ok (String.ofList (acc.reverse ++ cs), rest) := by
  induction cs with
  | nil =>
      intro acc
      rw [List.flatMap_nil, List.nil_append, readString.eq_2,
        List.append_nil]
  | cons c cs ih =>
      intro acc
      obtain ⟨d, tail, htail⟩ : ∃ d tail,
          cs.flatMap escapeChar ++ '"' :: rest = d :: tail :=
        List.exists_cons_of_ne_nil (by simp)
      rw [List.flatMap_cons, List.append_assoc, htail,
        readString_escapeChar, ← htail, ih, List.reverse_cons,
        List.append_assoc, List.singleton_append]

/-- A text between quotes is read back, and what follows the closing quote
is left. -/
theorem readString_quoteChars (opening : Nat) (s : String)
    (rest : List Char) :
    readString opening [] ((quoteChars s).tail ++ rest) = .ok (s, rest) := by
  show readString opening []
    (s.toList.flatMap escapeChar ++ ['"'] ++ rest) = _
  rw [List.append_assoc, List.singleton_append,
    readString_flatMap_escapeChar]
  show Except.ok (String.ofList s.toList, rest) = _
  rw [String.ofList_toList]

-- =============================================================== values

mutual

/-- Whether the text of a value tells all of it: the doubles in it are
finite, and the keys of an object differ. Only such a value can be read
back. -/
def isExact : Json → Bool
  | .float x => x.magnitude?.isSome
  | .arr items => itemsExact items
  | .obj entries =>
      decide (entries.map Prod.fst).Nodup && entriesExact entries
  | _ => true

/-- Whether the texts of some values tell all of them. -/
def itemsExact : List Json → Bool
  | [] => true
  | v :: rest => isExact v && itemsExact rest

/-- Whether the texts of the values of some entries tell all of them. -/
def entriesExact : List (String × Json) → Bool
  | [] => true
  | (_, v) :: rest => isExact v && entriesExact rest

end

theorem itemsExact_iff {items : List Json} :
    itemsExact items = true ↔ ∀ v ∈ items, v.isExact = true := by
  induction items with
  | nil => simp [itemsExact]
  | cons v items ih =>
      rw [itemsExact, Bool.and_eq_true, ih, List.forall_mem_cons]

theorem itemsFault?_eq_none {room : Nat} {items : List Json} :
    itemsFault? room items = none ↔ ∀ v ∈ items, v.fault? room = none := by
  induction items with
  | nil => simp [itemsFault?]
  | cons v items ih =>
      rw [itemsFault?, Option.or_eq_none_iff, ih, List.forall_mem_cons]

/-- The texts of the values of entries tell all of them if each does. -/
theorem entriesExact_iff {entries : List (String × Json)} :
    entriesExact entries = true ↔ ∀ e ∈ entries, e.2.isExact = true := by
  induction entries with
  | nil => simp [entriesExact]
  | cons e entries ih =>
      rw [entriesExact, Bool.and_eq_true, ih, List.forall_mem_cons]

theorem entriesFault?_eq_none {room : Nat}
    {entries : List (String × Json)} :
    entriesFault? room entries = none
      ↔ ∀ e ∈ entries, e.2.fault? room = none := by
  induction entries with
  | nil => simp [entriesFault?]
  | cons e entries ih =>
      rw [entriesFault?, Option.or_eq_none_iff, ih, List.forall_mem_cons]

-- =========================================================== beginnings

/-- Whether some characters begin as a value does: not with a blank, a
bracket that closes an array, or the mark of a byte order. These are what
the reader looks for where a value may stand. -/
def StartsValue (cs : List Char) : Prop :=
  ∃ c rest, cs = c :: rest ∧ isGap c = false ∧ c ≠ ']' ∧ c ≠ '\ufeff'

theorem StartsValue.append {cs : List Char} (h : StartsValue cs)
    (rest : List Char) : StartsValue (cs ++ rest) := by
  obtain ⟨c, tail, rfl, hc⟩ := h
  exact ⟨c, tail ++ rest, rfl, hc⟩

theorem StartsValue.skipGap_eq {cs : List Char} (h : StartsValue cs) :
    skipGap cs = cs := by
  obtain ⟨c, rest, rfl, hgap, -⟩ := h
  exact List.dropWhile_cons_of_neg (by simp [hgap])

/-- Whether a character may begin a number. -/
def IsNumberStart (c : Char) : Prop := c.isDigit = true ∨ c = '-'

/-- What a number begins with is none of the marks of other values. -/
theorem IsNumberStart.not_mark {c : Char} (h : IsNumberStart c) :
    isGap c = false ∧ c ≠ ']' ∧ c ≠ '\ufeff' ∧ c ≠ '"' ∧ c ≠ '['
      ∧ c ≠ '\x7b' := by
  have hne : ∀ d : Char, d.isDigit = false → d ≠ '-' → c ≠ d := by
    rintro d hd hsign rfl
    rcases h with h | h
    · rw [hd] at h
      cases h
    · exact hsign h
  refine ⟨?_, hne _ rfl (by decide), hne _ rfl (by decide),
    hne _ rfl (by decide), hne _ rfl (by decide), hne _ rfl (by decide)⟩
  unfold isGap
  simp [hne ' ' rfl (by decide), hne '\t' rfl (by decide),
    hne '\n' rfl (by decide), hne '\r' rfl (by decide)]

/-- Whether some characters begin as a number does. -/
def StartsNumber (cs : List Char) : Prop :=
  ∃ c rest, cs = c :: rest ∧ IsNumberStart c

theorem StartsNumber.startsValue {cs : List Char} (h : StartsNumber cs) :
    StartsValue cs := by
  obtain ⟨c, rest, heq, hc⟩ := h
  obtain ⟨hgap, hbracket, hmark, -⟩ := hc.not_mark
  exact ⟨c, rest, heq, hgap, hbracket, hmark⟩

/-- Digits begin as a number does, be there a sign or not. -/
theorem startsNumber_signed (neg : Bool) {d : Char}
    (hd : d.isDigit = true) (rest : List Char) :
    StartsNumber (Text.signed neg (d :: rest)) := by
  cases neg with
  | true => exact ⟨'-', d :: rest, rfl, Or.inr rfl⟩
  | false => exact ⟨d, rest, rfl, Or.inl hd⟩

theorem startsNumber_int (n : Int) : StartsNumber (Json.int n).chars := by
  obtain ⟨d, rest, hrest⟩ := List.exists_cons_of_ne_nil
    (Nat.toDigits_ne_nil (b := 10) (n := n.natAbs))
  have hd : d.isDigit = true :=
    Text.isDigit_of_mem_toDigits (hrest ▸ List.mem_cons_self ..)
  show StartsNumber (toString n).toList
  rw [Text.toString_eq_signed, String.toList_ofList, hrest]
  exact startsNumber_signed _ hd rest

theorem startsNumber_float {x : Binary64} {d : Decimal}
    (hd : x.shortest? = some d) : StartsNumber (Json.float x).chars := by
  have hread := readUnsigned_unsigned jsonDecimals hd endsNumber_nil
  rw [List.append_nil] at hread
  obtain ⟨c, rest, hrest, hc⟩ := head_isDigit_of_readUnsigned hread
  show StartsNumber (jsonDecimals.render x).toList
  rw [toList_render _ hd, hrest]
  exact startsNumber_signed _ hc rest

theorem exists_shortest? {x : Binary64} (h : (Json.float x).isExact = true) :
    ∃ d, x.shortest? = some d := by
  obtain ⟨p, hp⟩ := Option.isSome_iff_exists.1 h
  exact ⟨_, congrArg (Option.map _) hp⟩

/-- The text of a value begins as a value does, whatever sort of value it
is. -/
theorem startsValue_chars {v : Json} (h : v.isExact = true) :
    StartsValue v.chars := by
  cases v with
  | null => exact ⟨'n', _, rfl, by decide⟩
  | bool b => cases b with
    | true => exact ⟨'t', _, rfl, by decide⟩
    | false => exact ⟨'f', _, rfl, by decide⟩
  | int n => exact (startsNumber_int n).startsValue
  | float x =>
      obtain ⟨d, hd⟩ := exists_shortest? h
      exact (startsNumber_float hd).startsValue
  | str s => exact ⟨'"', _, rfl, by decide⟩
  | arr items => exact ⟨'[', _, rfl, by decide⟩
  | obj entries => exact ⟨'\x7b', _, rfl, by decide⟩

-- ============================================================= one step

section Steps

variable (fuel room : Nat)

/-- What begins as a number is read as a scalar, since none of the marks
of other values is there. -/
theorem readValue_of_number {c : Char} (h : IsNumberStart c)
    (rest : List Char) :
    readValue (fuel + 1) room (c :: rest) = readScalar (c :: rest) := by
  obtain ⟨-, -, -, hquote, hbracket, hbrace⟩ := h.not_mark
  unfold readValue
  rw [if_neg hquote, if_neg hbracket, if_neg hbrace]

/-- A text between quotes is read as a string, whatever follows it. -/
theorem readValue_quoteChars (s : String) (rest : List Char) :
    readValue (fuel + 1) room (quoteChars s ++ rest)
      = .ok (.str s, rest) := by
  show Except.bind (readString _ [] ((quoteChars s).tail ++ rest)) _ = _
  rw [readString_quoteChars]
  rfl

/-- Behind the opening bracket of an array its items are read, with less
room by one; an array that is not empty is meant. -/
theorem readValue_array {cs : List Char} (hcs : StartsValue cs) :
    readValue (fuel + 1) (room + 1) ('[' :: cs)
      = readItems fuel room [] cs := by
  obtain ⟨c, tail, rfl, hgap, hbracket, -⟩ := hcs
  have hskip : skipGap (c :: tail) = c :: tail :=
    List.dropWhile_cons_of_neg (by simp [hgap])
  unfold readValue
  rw [if_neg (by decide), if_pos rfl, hskip]
  split
  case h_1 => contradiction
  case h_2 heq => exact absurd (List.cons.inj heq).1 hbracket
  case h_3 heq _ => cases heq; rfl

/-- Behind the opening brace of an object its entries are read, with less
room by one. -/
theorem readValue_object (k : String) (cs : List Char) :
    readValue (fuel + 1) (room + 1) ('\x7b' :: (quoteChars k ++ cs))
      = readEntries fuel room [] (quoteChars k ++ cs) := rfl

variable {fuel room}

theorem readItems_last {acc : List Json} {cs rest : List Char} {v : Json}
    (h : readValue fuel room cs = .ok (v, ']' :: rest)) :
    readItems (fuel + 1) room acc cs
      = .ok (.arr (acc.reverse ++ [v]), rest) := by
  rw [readItems, h, ← List.reverse_cons]
  rfl

theorem readItems_cons {acc : List Json} {cs rest : List Char} {v : Json}
    (h : readValue fuel room cs = .ok (v, ',' :: rest))
    (hrest : StartsValue rest) :
    readItems (fuel + 1) room acc cs
      = readItems fuel room (v :: acc) rest := by
  rw [readItems, h]
  show readItems fuel room (v :: acc) (skipGap rest) = _
  rw [hrest.skipGap_eq]

/-- An entry is a key, a colon and a value; what is behind the value
decides how the row goes on. -/
theorem readEntries_step {acc : List (String × Json)} {k : String}
    {cs rest : List Char} {v : Json} (hcs : StartsValue cs)
    (h : readValue fuel room cs = .ok (v, rest)) :
    readEntries (fuel + 1) room acc (quoteChars k ++ ':' :: cs)
      = match skipGap rest with
        | '\x7d' :: rest => .ok (.obj (Table.putEntry k v acc), rest)
        | ',' :: rest =>
            readEntries fuel room (Table.putEntry k v acc) (skipGap rest)
        | cs => refuse .expectingComma cs := by
  conv_lhs => unfold readEntries
  show Except.bind (readString _ [] ((quoteChars k).tail ++ ':' :: cs)) _
    = _
  rw [readString_quoteChars]
  show (readValue fuel room (skipGap cs) >>= _) = _
  rw [hcs.skipGap_eq, h]
  rfl

/-- An entry under a new key with the closing brace behind it is the last.
-/
theorem readEntries_last {acc : List (String × Json)} {k : String}
    {cs rest : List Char} {v : Json} (hk : k ∉ acc.map Prod.fst)
    (hcs : StartsValue cs)
    (h : readValue fuel room cs = .ok (v, '\x7d' :: rest)) :
    readEntries (fuel + 1) room acc (quoteChars k ++ ':' :: cs)
      = .ok (.obj (acc ++ [(k, v)]), rest) := by
  rw [readEntries_step hcs h, Table.putEntry_of_notMem hk]
  rfl

/-- An entry under a new key with a comma behind it has others behind
that, the first of which begins with its key. -/
theorem readEntries_cons {acc : List (String × Json)} {k j : String}
    {cs rest : List Char} {v : Json} (hk : k ∉ acc.map Prod.fst)
    (hcs : StartsValue cs)
    (h : readValue fuel room cs = .ok (v, ',' :: (quoteChars j ++ rest))) :
    readEntries (fuel + 1) room acc (quoteChars k ++ ':' :: cs)
      = readEntries fuel room (acc ++ [(k, v)]) (quoteChars j ++ rest) := by
  rw [readEntries_step hcs h, Table.putEntry_of_notMem hk]
  rfl

end Steps

-- ========================================================= whole values

/-- Whether the text of a value is read back as the value, whatever
follows it, with room for one container more than it needs and two units
of fuel for each of its characters. It holds of every value; as a
definition it lets the rows assume it of the values in them. -/
def ReadsBack (v : Json) : Prop :=
  v.isExact = true → ∀ {w fuel room : Nat} {rest : List Char},
    v.fault? w = none → w < room → 2 * v.chars.length ≤ fuel →
    EndsNumber rest → readValue fuel room (v.chars ++ rest) = .ok (v, rest)

/-- A value takes a step to read: its text is not empty, and hence the
fuel for it is not nothing. -/
theorem exists_fuel_of_chars {v : Json} (hexact : v.isExact = true)
    {fuel : Nat} (hfuel : 2 * v.chars.length ≤ fuel) :
    ∃ left, fuel = left + 1 := by
  obtain ⟨c, rest, heq, -⟩ := startsValue_chars hexact
  rw [heq, List.length_cons] at hfuel
  exact ⟨fuel - 1, by omega⟩

theorem readsBack_null : ReadsBack .null := by
  intro hexact w fuel room rest _ _ hfuel _
  obtain ⟨fuel, rfl⟩ := exists_fuel_of_chars hexact hfuel
  rfl

theorem readsBack_bool (b : Bool) : ReadsBack (.bool b) := by
  intro hexact w fuel room rest _ _ hfuel _
  obtain ⟨fuel, rfl⟩ := exists_fuel_of_chars hexact hfuel
  cases b <;> rfl

theorem readsBack_str (s : String) : ReadsBack (.str s) := by
  intro hexact w fuel room rest _ _ hfuel _
  obtain ⟨fuel, rfl⟩ := exists_fuel_of_chars hexact hfuel
  exact readValue_quoteChars fuel room s rest

/-- What begins as a number and is read back as a scalar is read back as a
value. Both sorts of numbers go this way. -/
theorem readValue_chars_of_number {v : Json} (hexact : v.isExact = true)
    (hstart : StartsNumber v.chars)
    {fuel : Nat} (hfuel : 2 * v.chars.length ≤ fuel) (room : Nat)
    {rest : List Char}
    (hread : readScalar (v.chars ++ rest) = .ok (v, rest)) :
    readValue fuel room (v.chars ++ rest) = .ok (v, rest) := by
  obtain ⟨fuel, rfl⟩ := exists_fuel_of_chars hexact hfuel
  obtain ⟨c, tail, heq, hc⟩ := hstart
  rw [heq] at hread ⊢
  rw [List.cons_append, readValue_of_number _ _ hc]
  exact hread

theorem readsBack_int (n : Int) : ReadsBack (.int n) := by
  intro hexact w fuel room rest hfault _ hfuel hrest
  have hfits : fitsWord n = true := by
    unfold fault? at hfault
    split at hfault
    case isTrue h => exact h
    case isFalse => cases hfault
  exact readValue_chars_of_number hexact (startsNumber_int n) hfuel room
    (readScalar_int hfits hrest)

theorem readsBack_float (x : Binary64) : ReadsBack (.float x) := by
  intro hexact w fuel room rest _ _ hfuel hrest
  obtain ⟨d, hd⟩ := exists_shortest? hexact
  exact readValue_chars_of_number hexact (startsNumber_float hd) hfuel room
    (readScalar_float hd hrest)

theorem itemChars_cons (v : Json) {items : List Json} (h : items ≠ []) :
    itemChars (v :: items) = v.chars ++ ',' :: itemChars items := by
  cases items with
  | nil => exact absurd rfl h
  | cons u items => rfl

theorem startsValue_itemChars {items : List Json} (hne : items ≠ [])
    (hexact : itemsExact items = true) : StartsValue (itemChars items) := by
  cases items with
  | nil => exact absurd rfl hne
  | cons v items =>
      have hv := startsValue_chars (Bool.and_eq_true_iff.1 hexact).1
      cases items with
      | nil => exact hv
      | cons u items => exact hv.append _

/-- Items that are read back one by one are read back as a row, behind
those that were read before. -/
theorem readItems_chars {items : List Json}
    (hread : ∀ v ∈ items, ReadsBack v) (hne : items ≠ [])
    (hexact : itemsExact items = true) {w fuel room : Nat}
    (hfault : itemsFault? w items = none) (hroom : w < room)
    (hfuel : 2 * (itemChars items).length < fuel) (acc : List Json)
    (rest : List Char) :
    readItems fuel room acc (itemChars items ++ ']' :: rest)
      = .ok (.arr (acc.reverse ++ items), rest) := by
  induction items generalizing acc fuel with
  | nil => exact absurd rfl hne
  | cons v items ih =>
      obtain ⟨fuel, rfl⟩ : ∃ left, fuel = left + 1 :=
        ⟨fuel - 1, by omega⟩
      obtain ⟨hreadv, hread⟩ := List.forall_mem_cons.1 hread
      obtain ⟨hexactv, hexact⟩ := Bool.and_eq_true_iff.1 hexact
      obtain ⟨hfaultv, hfault⟩ := Option.or_eq_none_iff.1 hfault
      by_cases hlast : items = []
      · subst hlast
        exact readItems_last (hreadv hexactv hfaultv hroom
          (Nat.le_of_lt_succ hfuel)
          (endsNumber_of_mark (Or.inr (Or.inl rfl)) rest))
      · rw [itemChars_cons v hlast, List.length_append,
          List.length_cons] at hfuel
        rw [itemChars_cons v hlast, List.append_assoc, List.cons_append,
          readItems_cons (hreadv hexactv hfaultv hroom (by omega)
              (endsNumber_of_mark (Or.inl rfl) _))
            ((startsValue_itemChars hlast hexact).append _),
          ih hread hlast hexact hfault (by omega) (v :: acc),
          List.reverse_cons, List.append_assoc, List.singleton_append]

theorem entryChars_cons (k : String) (v : Json)
    {entries : List (String × Json)} (h : entries ≠ []) :
    entryChars ((k, v) :: entries)
      = quoteChars k ++ ':' :: v.chars ++ ',' :: entryChars entries := by
  cases entries with
  | nil => exact absurd rfl h
  | cons f entries => rfl

/-- The text of entries begins with the key of the first in quotes. -/
theorem exists_entryChars {entries : List (String × Json)}
    (hne : entries ≠ []) :
    ∃ k tail, entryChars entries = quoteChars k ++ tail := by
  obtain ⟨⟨k, v⟩, entries, rfl⟩ := List.exists_cons_of_ne_nil hne
  refine ⟨k, ?_⟩
  cases entries with
  | nil => exact ⟨_, rfl⟩
  | cons f entries =>
      rw [entryChars_cons k v (by simp), List.append_assoc]
      exact ⟨_, rfl⟩

/-- Entries that are read back one by one are read back as a row, if
their keys differ from one another and from what was read before. -/
theorem readEntries_chars {entries : List (String × Json)}
    (hread : ∀ e ∈ entries, ReadsBack e.2) (hne : entries ≠ [])
    (hexact : entriesExact entries = true) {w fuel room : Nat}
    (hfault : entriesFault? w entries = none) (hroom : w < room)
    (hfuel : 2 * (entryChars entries).length < fuel)
    (acc : List (String × Json))
    (hnodup : ((acc ++ entries).map Prod.fst).Nodup) (rest : List Char) :
    readEntries fuel room acc (entryChars entries ++ '\x7d' :: rest)
      = .ok (.obj (acc ++ entries), rest) := by
  induction entries generalizing acc fuel with
  | nil => exact absurd rfl hne
  | cons e entries ih =>
      obtain ⟨k, v⟩ := e
      obtain ⟨fuel, rfl⟩ : ∃ left, fuel = left + 1 :=
        ⟨fuel - 1, by omega⟩
      have hreadv : ReadsBack v := hread (k, v) (List.mem_cons_self ..)
      replace hread := (List.forall_mem_cons.1 hread).2
      obtain ⟨hexactv, hexact⟩ := Bool.and_eq_true_iff.1 hexact
      obtain ⟨hfaultv, hfault⟩ := Option.or_eq_none_iff.1 hfault
      have hstart := startsValue_chars hexactv
      -- a key that comes again would replace the entry read before
      have hk : k ∉ acc.map Prod.fst := by
        intro hk
        rw [List.map_append, List.nodup_append] at hnodup
        exact hnodup.2.2 k hk k (List.mem_cons_self ..) rfl
      by_cases hlast : entries = []
      · subst hlast
        have hlen : (entryChars [(k, v)]).length
            = (quoteChars k).length + v.chars.length + 1 := by
          show (quoteChars k ++ ':' :: v.chars).length = _
          rw [List.length_append, List.length_cons]
          omega
        show readEntries (fuel + 1) room acc
          ((quoteChars k ++ ':' :: v.chars) ++ '\x7d' :: rest) = _
        rw [List.append_assoc, List.cons_append]
        exact readEntries_last hk (hstart.append _)
          (hreadv hexactv hfaultv hroom (by omega)
            (endsNumber_of_mark (Or.inr (Or.inr rfl)) rest))
      · obtain ⟨j, tail, hj⟩ := exists_entryChars hlast
        -- the next entry begins with a key, as the reader asks of it
        have hrow : entryChars entries ++ '\x7d' :: rest
            = quoteChars j ++ (tail ++ '\x7d' :: rest) := by
          rw [hj, List.append_assoc]
        rw [entryChars_cons k v hlast, List.length_append,
          List.length_append, List.length_cons, List.length_cons] at hfuel
        rw [entryChars_cons k v hlast, List.append_assoc, List.append_assoc,
          List.cons_append, List.cons_append, hrow,
          readEntries_cons hk (hstart.append _)
            (hreadv hexactv hfaultv hroom (by omega)
              (endsNumber_of_mark (Or.inl rfl) _)),
          ← hrow, ih hread hlast hexact hfault (by omega) (acc ++ [(k, v)])
            (by rwa [List.append_assoc]), List.append_assoc]
        rfl

/-- An array is read back if its items are; with none of them it is two
brackets. -/
theorem readsBack_arr {items : List Json}
    (h : ∀ v ∈ items, ReadsBack v) : ReadsBack (.arr items) := by
  intro hexact w fuel room rest hfault hroom hfuel _
  obtain ⟨fuel, rfl⟩ := exists_fuel_of_chars hexact hfuel
  obtain ⟨room, rfl⟩ : ∃ left, room = left + 1 := ⟨room - 1, by omega⟩
  cases items with
  | nil => rfl
  | cons v items =>
      cases w with
      | zero => cases hfault
      | succ w =>
          have hlen : (Json.arr (v :: items)).chars.length
              = (itemChars (v :: items)).length + 2 := by simp [chars]
          show readValue (fuel + 1) (room + 1)
            ('[' :: itemChars (v :: items) ++ [']'] ++ rest) = _
          rw [List.append_assoc, List.cons_append, List.singleton_append,
            readValue_array _ _
              ((startsValue_itemChars (by simp) hexact).append _)]
          exact readItems_chars h (by simp) hexact hfault (by omega)
            (by omega) [] rest

/-- An object is read back if the values in it are; with none of them it
is two braces. -/
theorem readsBack_obj {entries : List (String × Json)}
    (h : ∀ e ∈ entries, ReadsBack e.2) : ReadsBack (.obj entries) := by
  intro hexact w fuel room rest hfault hroom hfuel _
  obtain ⟨fuel, rfl⟩ := exists_fuel_of_chars hexact hfuel
  obtain ⟨room, rfl⟩ : ∃ left, room = left + 1 := ⟨room - 1, by omega⟩
  cases entries with
  | nil => rfl
  | cons e entries =>
      cases w with
      | zero => cases hfault
      | succ w =>
          have hlen : (Json.obj (e :: entries)).chars.length
              = (entryChars (e :: entries)).length + 2 := by simp [chars]
          obtain ⟨hnodup, hexact⟩ := Bool.and_eq_true_iff.1 hexact
          obtain ⟨k, tail, hk⟩ := exists_entryChars
            (List.cons_ne_nil e entries)
          -- the marks around the entries cost a unit of fuel and one of room
          have hread := readEntries_chars h (by simp) hexact hfault
            (show w < room by omega) (show _ < fuel by omega) []
            (of_decide_eq_true hnodup) rest
          show readValue (fuel + 1) (room + 1)
            ('\x7b' :: entryChars (e :: entries) ++ ['\x7d'] ++ rest) = _
          rw [List.append_assoc, List.cons_append, List.singleton_append]
          rw [hk, List.append_assoc] at hread ⊢
          rw [readValue_object]
          exact hread

/-- Every value is read back from its text. The recursion is over the
value, with the rows taken as they are. -/
theorem readsBack : ∀ v : Json, ReadsBack v
  | .null => readsBack_null
  | .bool b => readsBack_bool b
  | .int n => readsBack_int n
  | .float x => readsBack_float x
  | .str s => readsBack_str s
  | .arr items => readsBack_arr fun v _ => readsBack v
  | .obj entries => readsBack_obj fun e _ => readsBack e.2
termination_by v => sizeOf v
decreasing_by
  · have := List.sizeOf_lt_of_mem ‹v ∈ items›
    simp
    omega
  · have := List.sizeOf_lt_of_mem ‹e ∈ entries›
    obtain ⟨k, v⟩ := e
    simp at this ⊢
    omega

-- ================================================================ texts

/-- What is written of a value is read back as the value: the room and the
fuel of the reader are enough for whatever the writer takes. -/
theorem read_chars {v : Json} (hexact : v.isExact = true)
    (hfault : v.fault? maxNesting = none) :
    read (String.ofList v.chars) = .ok v := by
  have hread := readsBack v hexact hfault
    (show maxNesting < maxDepth by decide)
    (show 2 * v.chars.length ≤ 2 * v.chars.length + 1 by omega)
    endsNumber_nil
  rw [List.append_nil] at hread
  have hchars : readChars v.chars = .ok v := by
    unfold readChars
    split
    case h_1 heq =>
        obtain ⟨c, rest, hcons, -, -, hmark⟩ := startsValue_chars hexact
        rw [hcons] at heq
        exact absurd (List.cons.inj heq).1 hmark
    case h_2 =>
        rw [(startsValue_chars hexact).skipGap_eq, hread]
        rfl
  unfold read
  rw [String.toList_ofList, hchars]
  rfl

end SchemaAudit.Json
