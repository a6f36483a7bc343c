/-
What wire values mean. A flag may be given as a word in any case, an
integer as a numeral of any spelling, and a text as any scalar but null
(`ValueKind.StandsFor`). A property accepts exactly what stands for a
value of its kind, and the canonical text it gets depends on the value
that is stood for alone: it is a normal form (`Property.HasNormalForm`).

# One value

The meaning of a wire value is given apart from the codec, by one
inductive type for each kind of values. The codec is then described by
it (`canonical?_eq_some`): a value has a canonical text exactly if it
stands for a value that has one, and it has the text of this value. That
the text is kept, that it becomes the typed value stood for, and that
two values share it exactly if they stand for the same, are
consequences.

# Whole objects

An object is converted entry by entry, and what comes out is converted
into itself again (`Bag.ConvertsEntrywise`); both are put together in
`codec_isNormalForm`. The keys of an object are distinct, and its
integers have a text, since otherwise there is no text to be read again.
-/
import SchemaAudit.Proofs.Field.Refusal
import SchemaAudit.Proofs.Spelling

namespace SchemaAudit

open Outcome

-- ============================================================== meaning

/-- What a wire value stands for where a flag is expected: a flag for
itself, and a word in any case for the flag it names. Numbers stand for
none. -/
inductive Json.StandsForFlag : Json → Bool → Prop where
  | flag (b : Bool) : StandsForFlag (.bool b) b
  | word {s : String} {b : Bool} (h : Text.SpellsWord (flagText b) s) :
      StandsForFlag (.str s) b

/-- What a wire value stands for where an integer is expected: an integer
for itself, and a text for the integer that it spells with at most 4300
digits. Neither a flag nor a double stands for one. -/
inductive Json.StandsForInteger : Json → Int → Prop where
  | integer (n : Int) : StandsForInteger (.int n) n
  | numeral {s : String} {n : Int} {count : Nat}
      (hcount : count ≤ Text.maxNumeralDigits)
      (h : Text.Spells s n count) : StandsForInteger (.str s) n

/-- What a wire value stands for where a text is expected: any scalar but
null stands for the text that it is shown as. -/
inductive Json.StandsForText : Json → String → Prop where
  | text (s : String) : StandsForText (.str s) s
  | flag (b : Bool) : StandsForText (.bool b) (flagText b)
  | integer (n : Int) : StandsForText (.int n) (toString n)
  | double (x : Binary64) :
      StandsForText (.float x) (messageDecimals.render x)

/-- What a wire value stands for where a value of a kind is expected. -/
inductive ValueKind.StandsFor : ValueKind → Json → Json → Prop where
  | flag {v : Json} {b : Bool} (h : v.StandsForFlag b) :
      StandsFor .flag v (.bool b)
  | int {v : Json} {n : Int} (h : v.StandsForInteger n) :
      StandsFor .int v (.int n)
  | long {v : Json} {n : Int} (h : v.StandsForInteger n) :
      StandsFor .long v (.int n)
  | text {v : Json} {s : String} (h : v.StandsForText s) :
      StandsFor .text v (.str s)

namespace Property

/-- The canonical texts of a property are the normal forms of its values:
whatever is accepted has one, keeps it on the way to the typed value and
back, and shares it with exactly what stands for the same value. -/
structure HasNormalForm (p : Property) : Prop where
  accepts : ∀ v, (∃ c, p.canonical v = .ok c) ↔
    ∃ w, p.kind.StandsFor v w
  refuses : ∀ v, (∀ w, ¬ p.kind.StandsFor v w) →
    p.canonical v = .error (.invalidValue v p)
  again : ∀ v c, v.HasText → p.canonical v = .ok c →
    p.canonical (.str c) = .ok c
      ∧ ∃ w, p.kind.StandsFor v w ∧ p.typed c = .ok w
        ∧ p.canonical w = .ok c
  faithful : ∀ a b c d, a.HasText → b.HasText →
    p.canonical a = .ok c → p.canonical b = .ok d →
      (c = d ↔ p.typed c = p.typed d)
  shared : ∀ a b w, p.kind.StandsFor a w → p.kind.StandsFor b w →
    p.canonical a = p.canonical b

-- ============================================================= one value

/-- The canonical text of a flag is the word for the flag that is stood
for, and there is one exactly if one is. -/
theorem canonicalFlag?_eq_some {v : Json} {c : String} :
    canonicalFlag? v = some c ↔ ∃ b, v.StandsForFlag b ∧ flagText b = c := by
  -- neither word has a letter for which the lower case is ambiguous
  have hletters : ∀ b, (flagText b).toList.all (fun w =>
      (97 ≤ w.toNat ∧ w.toNat ≤ 122) ∧ w ≠ 'k') = true := by decide
  have hword : ∀ b s, Text.lower s = flagText b ↔
      Text.SpellsWord (flagText b) s := fun b _ =>
    Text.lower_eq_iff fun w hw =>
      of_decide_eq_true (List.all_eq_true.1 (hletters b) w hw)
  constructor
  · intro h
    cases v with
    | bool b => exact ⟨b, .flag b, Option.some.inj h⟩
    | str s =>
        simp only [canonicalFlag?] at h
        split at h
        case isFalse => cases h
        case isTrue hs =>
            injection h with h
            rcases hs with hs | hs
            · exact ⟨true, .word ((hword true s).1 hs), hs.symm.trans h⟩
            · exact ⟨false, .word ((hword false s).1 hs), hs.symm.trans h⟩
    | _ => cases h
  · intro h
    obtain ⟨b, hv, rfl⟩ := h
    cases hv with
    | flag => rfl
    | word hs =>
        simp only [canonicalFlag?, (hword b _).2 hs]
        cases b <;> rfl

/-- An integer is found in a value exactly if the value stands for it. -/
theorem integer?_eq_some {v : Json} {n : Int} :
    integer? v = some n ↔ v.StandsForInteger n := by
  constructor
  · intro h
    cases v with
    | int m => exact Option.some.inj h ▸ .integer m
    | str s =>
        obtain ⟨count, hcount, hs⟩ :=
          Text.readInt_eq_ok.1 (integer?_str.1 h)
        exact .numeral hcount hs
    | _ => cases h
  · intro h
    cases h with
    | integer => rfl
    | numeral hcount hs => exact integer?_str.2 (hs.readInt hcount)

/-- The canonical text of an integer is the text of the integer that is
stood for, without the signs, zeros and underscores it may have been
spelled with. -/
theorem canonicalInt?_eq_some {v : Json} {c : String} :
    canonicalInt? v = some c ↔
      ∃ n, v.StandsForInteger n ∧ toString n = c := by
  unfold canonicalInt?
  simp only [Option.map_eq_some_iff, integer?_eq_some]

theorem canonicalText?_eq_some {v : Json} {c : String} :
    canonicalText? v = some c ↔ v.StandsForText c := by
  constructor
  · intro h
    cases v with
    | str s => exact Option.some.inj h ▸ .text s
    | bool b => exact Option.some.inj h ▸ .flag b
    | int n => exact Option.some.inj h ▸ .integer n
    | float x => exact Option.some.inj h ▸ .double x
    | _ => cases h
  · intro h
    cases h <;> rfl

/-- The canonical text of a value that can be stood for. -/
def kindText? : Json → Option String
  | .bool b => some (flagText b)
  | .int n => some (toString n)
  | .str s => some s
  | _ => none

/-- Every value that is stood for has a text: null, doubles, lists and
objects never are. -/
theorem exists_kindText? {k : ValueKind} {v w : Json}
    (h : k.StandsFor v w) : ∃ c, kindText? w = some c := by
  cases h <;> exact ⟨_, rfl⟩

/-- Both kinds of integers stand for the same, since neither is bounded. -/
theorem standsFor_integer {k : ValueKind} (hk : k = .int ∨ k = .long)
    {v w : Json} :
    k.StandsFor v w ↔ ∃ n, v.StandsForInteger n ∧ w = .int n := by
  constructor
  · intro h
    cases h with
    | flag => rcases hk with h | h <;> cases h
    | text => rcases hk with h | h <;> cases h
    | int h => exact ⟨_, h, rfl⟩
    | long h => exact ⟨_, h, rfl⟩
  · intro h
    obtain ⟨n, hn, rfl⟩ := h
    rcases hk with rfl | rfl
    · exact .int hn
    · exact .long hn

/-- The canonical text of what is accepted is that of the value it stands
for. All that the codec does to one value is said here, for the four kinds
together. -/
theorem canonical?_eq_some {p : Property} {v : Json} {c : String} :
    p.canonical? v = some c ↔
      ∃ w, p.kind.StandsFor v w ∧ kindText? w = some c := by
  -- both kinds of integers are read by one reader
  have hint : ∀ {k : ValueKind}, k = .int ∨ k = .long →
      (canonicalInt? v = some c ↔
        ∃ w, k.StandsFor v w ∧ kindText? w = some c) := by
    intro k hk
    rw [canonicalInt?_eq_some]
    constructor
    · intro h
      obtain ⟨n, hn, hc⟩ := h
      exact ⟨.int n, (standsFor_integer hk).2 ⟨n, hn, rfl⟩,
        congrArg some hc⟩
    · intro h
      obtain ⟨w, hw, hc⟩ := h
      obtain ⟨n, hn, rfl⟩ := (standsFor_integer hk).1 hw
      exact ⟨n, hn, Option.some.inj hc⟩
  unfold canonical?
  cases p.kind with
  | flag =>
      show canonicalFlag? v = some c ↔ _
      rw [canonicalFlag?_eq_some]
      constructor
      · intro h
        obtain ⟨b, hb, hc⟩ := h
        exact ⟨.bool b, .flag hb, congrArg some hc⟩
      · intro h
        obtain ⟨w, hw, hc⟩ := h
        cases hw with
        | flag hb => exact ⟨_, hb, Option.some.inj hc⟩
  | int => exact hint (Or.inl rfl)
  | long => exact hint (Or.inr rfl)
  | text =>
      show canonicalText? v = some c ↔ _
      rw [canonicalText?_eq_some]
      constructor
      · intro h
        exact ⟨.str c, .text h, rfl⟩
      · intro h
        obtain ⟨w, hw, hc⟩ := h
        cases hw with
        | text hs => exact Option.some.inj hc ▸ hs

/-- The typed value of the canonical text is the value stood for, so that
nothing of it is lost in the text. -/
theorem typed_of_standsFor {p : Property} {v w : Json} {c : String}
    (hv : v.HasText) (hw : p.kind.StandsFor v w)
    (hc : kindText? w = some c) : p.typed c = .ok w := by
  have hint : ∀ {n : Int}, v.StandsForInteger n →
      (Text.readInt (toString n)).map Json.int = .ok (.int n) := by
    intro n hn
    have hshort := hasText_of_integer? hv (integer?_eq_some.2 hn)
    rw [Text.readInt_toString hshort]
    rfl
  unfold typed
  generalize p.kind = k at hw ⊢
  cases hw with
  | @flag _ b =>
      obtain rfl := Option.some.inj hc
      cases b <;> rfl
  | int hn => exact Option.some.inj hc ▸ hint hn
  | long hn => exact Option.some.inj hc ▸ hint hn
  | text => exact Option.some.inj hc ▸ rfl

/-- What stands for one value has one canonical text, however it is
spelled. -/
theorem canonical_of_standsFor {p : Property} {v w : Json}
    (h : p.kind.StandsFor v w) {c : String} (hc : kindText? w = some c) :
    p.canonical v = .ok c :=
  canonical_eq_ok.2 (canonical?_eq_some.2 ⟨w, h, hc⟩)

/-- A value that is accepted keeps its canonical text: on being read once
more, and on the way to the typed value and back. -/
theorem canonical_again {p : Property} {v : Json} {c : String}
    (hv : v.HasText) (h : p.canonical v = .ok c) :
    p.canonical (.str c) = .ok c
      ∧ ∃ w, p.kind.StandsFor v w ∧ p.typed c = .ok w
        ∧ p.canonical w = .ok c := by
  have hsome := canonical_eq_ok.1 h
  have hcanon := isCanonical_of_canonical? hv hsome
  obtain ⟨w, hw, hc⟩ := canonical?_eq_some.1 hsome
  have htyped := typed_of_standsFor hv hw hc
  obtain ⟨u, hu, hback⟩ := canonical?_of_typed hcanon
  obtain rfl : u = w := Except.ok.inj (hu.symm.trans htyped)
  exact ⟨canonical_eq_ok.2 hcanon, u, hw, hu, canonical_eq_ok.2 hback⟩

/-- The codec of every property is a normal form. -/
theorem hasNormalForm (p : Property) : p.HasNormalForm where
  accepts v := by
    constructor
    · intro h
      obtain ⟨c, hc⟩ := h
      obtain ⟨w, hw, -⟩ := canonical?_eq_some.1 (canonical_eq_ok.1 hc)
      exact ⟨w, hw⟩
    · intro h
      obtain ⟨w, hw⟩ := h
      obtain ⟨c, hc⟩ := exists_kindText? hw
      exact ⟨c, canonical_of_standsFor hw hc⟩
  refuses v h := by
    cases hc : p.canonical? v with
    | none => exact canonical_eq_error.2 ⟨hc, rfl⟩
    | some c =>
        obtain ⟨w, hw, -⟩ := canonical?_eq_some.1 hc
        exact absurd hw (h w)
  again _ _ := canonical_again
  faithful a b c d ha hb hc hd := by
    constructor
    · exact congrArg p.typed
    · intro heq
      -- the typed values are those stood for, and these have one text
      obtain ⟨-, w, -, hw, hwc⟩ := canonical_again ha hc
      obtain ⟨-, u, -, hu, hud⟩ := canonical_again hb hd
      obtain rfl : w = u :=
        Except.ok.inj (hw.symm.trans (heq.trans hu))
      exact Except.ok.inj (hwc.symm.trans hud)
  shared a b w ha hb := by
    obtain ⟨c, hc⟩ := exists_kindText? ha
    rw [canonical_of_standsFor ha hc, canonical_of_standsFor hb hc]

end Property

-- =========================================================== whole objects

/-- The wire object of a bag, in its order. -/
def Bag.toWire (bag : Bag) :
    Except Text.NumeralFault (List (String × Json)) :=
  bag.entries.mapM fun (p, value) =>
    (p.typed value).map fun v => (p.key, v)

/-- An object is converted entry by entry, in its order: it is converted
exactly if every key is that of a property that accepts the value under
it, and the typed values of what comes out are converted into the same
again. -/
structure Bag.ConvertsEntrywise (raw : List (String × Json)) : Prop where
  converts : (∃ bag, Bag.ofWire raw = .ok bag) ↔
    ∀ e ∈ raw, ∃ p c, Property.ofKey? e.1 = some p
      ∧ p.canonical e.2 = .ok c
  entries : ∀ bag, Bag.ofWire raw = .ok bag →
    List.Forall₂ (fun e x => e.1 = x.1.key ∧ x.1.canonical e.2 = .ok x.2)
      raw bag.entries
  again : ∀ bag, Bag.ofWire raw = .ok bag →
    ∃ wire, bag.toWire = .ok wire ∧ Bag.ofWire wire = .ok bag

namespace Bag

/-- An object is converted exactly if every key is that of a property that
accepts the value under it; the first entry of which this is not so ends
the conversion. -/
theorem exists_ofWire_eq_ok {raw : List (String × Json)} :
    (∃ bag, ofWire raw = .ok bag) ↔
      ∀ e ∈ raw, ∃ p c, Property.ofKey? e.1 = some p
        ∧ p.canonical e.2 = .ok c := by
  have hmap : (∃ bag, ofWire raw = .ok bag) ↔
      ∃ given, raw.mapM readEntry = .ok given := by
    simp only [ofWire, map_eq_ok]
    constructor
    · intro h
      obtain ⟨_, given, h, -⟩ := h
      exact ⟨given, h⟩
    · intro h
      obtain ⟨given, h⟩ := h
      exact ⟨_, given, h, rfl⟩
  rw [hmap, exists_mapM_iff]
  simp only [Prod.exists, readEntry_eq_ok, Property.canonical_eq_ok]

/-- What an object with distinct keys is converted into has an entry for
each of its entries, in their order, since distinct keys are keys of
distinct properties. -/
theorem mapM_readEntry_of_ofWire {raw : List (String × Json)} {bag : Bag}
    (hkeys : (raw.map Prod.fst).Nodup) (h : ofWire raw = .ok bag) :
    raw.mapM readEntry = .ok bag.entries := by
  obtain ⟨given, hgiven, rfl⟩ := map_eq_ok.1 h
  rw [Table.entries_ofList (Field.nodup_given hgiven hkeys)]
  exact hgiven

/-- A bag of canonical texts is what its wire object is converted into.
Every text goes to the wire, and comes back under the key of its property.
-/
theorem exists_ofWire_toWire {bag : Bag}
    (h : ∀ e ∈ bag.entries, e.1.IsCanonical e.2) :
    ∃ wire, bag.toWire = .ok wire ∧ ofWire wire = .ok bag := by
  obtain ⟨wire, hwire, hR⟩ := Field.exists_mapM_typed_eq_ok h
  refine ⟨wire, hwire, map_eq_ok.2
    ⟨bag.entries, Field.mapM_readEntry_of_forall₂ hR, ?_⟩⟩
  exact Table.ext_entries (Table.entries_ofList bag.nodup_keys)

/-- Every object with distinct keys, and with no integer too long to have
a text, is converted entry by entry. -/
theorem convertsEntrywise {raw : List (String × Json)}
    (hkeys : (raw.map Prod.fst).Nodup)
    (hraw : ∀ e ∈ raw, e.2.HasText) : ConvertsEntrywise raw where
  converts := exists_ofWire_eq_ok
  entries bag h := by
    have hread := mapM_eq_ok.1 (mapM_readEntry_of_ofWire hkeys h)
    refine hread.imp fun e x hx => ?_
    obtain ⟨hk, hc⟩ := readEntry_eq_ok.1 hx
    exact ⟨(Property.key_of_ofKey? hk).symm, Property.canonical_eq_ok.2 hc⟩
  again bag h := by
    apply exists_ofWire_toWire
    intro x hx
    obtain ⟨v, hv, hc⟩ :=
      Field.fst_of_mapM_readEntry (mapM_readEntry_of_ofWire hkeys h) hx
    exact Property.isCanonical_of_canonical? (hraw _ hv) hc

end Bag

/-- The codec is a normal form, property by property and over every object
with distinct keys: what is accepted, what canonical text it gets, and
that both forms are read and written as one another, are told by what wire
values stand for. -/
theorem codec_isNormalForm :
    (∀ p : Property, p.HasNormalForm)
      ∧ ∀ raw : List (String × Json), (raw.map Prod.fst).Nodup →
          (∀ e ∈ raw, e.2.HasText) → Bag.ConvertsEntrywise raw :=
  ⟨Property.hasNormalForm, fun _ => Bag.convertsEntrywise⟩

/-- A flag in capitals and a numeral with a sign, an underscore and blanks
around it are converted to what the plain values are converted to. -/
theorem codec_isNormalForm_spellings :
    ∃ bag, Bag.ofWire [("stored", .str "TRUE"),
        ("precisionStep", .str " +0_8 ")] = .ok bag
      ∧ ∃ wire, bag.toWire = .ok wire ∧ Bag.ofWire wire = .ok bag := by
  have hraw : Bag.ConvertsEntrywise [("stored", .str "TRUE"),
      ("precisionStep", .str " +0_8 ")] :=
    codec_isNormalForm.2 _ (by decide) (by decide +kernel)
  obtain ⟨bag, hbag⟩ := hraw.converts.2 (by
    intro e he
    rcases List.mem_pair.1 he with rfl | rfl
    · exact ⟨.stored, "true", by decide +kernel,
        Property.canonical_eq_ok.2 (by decide +kernel)⟩
    · exact ⟨.precisionStep, "8", by decide +kernel,
        Property.canonical_eq_ok.2 (by decide +kernel)⟩)
  exact ⟨bag, hbag, hraw.again bag hbag⟩

end SchemaAudit
