/-
The canonical texts of property values. A text is canonical for a
property if reading it gives it back; whatever is read is canonical
(`isCanonical_of_canonical?`), and a canonical text survives the way to
the wire and back (`canonical?_of_typed`).

There are three sorts of values, and each has its own reason for this. A
flag is one of two words, which are read as themselves; the text of an
integer spells this integer; and any other text stands for itself.

# Huge integers

Integers of more than 4300 digits are the exception: they have a text
that no reader takes, which cannot go to the wire. Every text read that
can go there is canonical (`isCanonical_of_typed`). A value that came as
a text has no such integer, so that the exception concerns numbers alone
(`hasText_of_integer?`).
-/
import SchemaAudit.Proofs.Numeral
import SchemaAudit.Proofs.Outcome
import SchemaAudit.Property.Codec

namespace SchemaAudit

/-- Whether a value has a text of its own: an integer needs at most 4300
digits. -/
def Json.HasText : Json → Prop
  | .int n => n.natAbs < 10 ^ Text.maxNumeralDigits
  | _ => True

instance : (v : Json) → Decidable v.HasText
  | .int n =>
      inferInstanceAs (Decidable (n.natAbs < 10 ^ Text.maxNumeralDigits))
  | .null | .bool _ | .float _ | .str _ | .arr _ | .obj _ => isTrue trivial

namespace Property

/-- Whether a text is the canonical one of the value it stands for: read
as a value it gives itself. -/
def IsCanonical (p : Property) (value : String) : Prop :=
  p.canonical? (.str value) = some value

instance (p : Property) (value : String) :
    Decidable (p.IsCanonical value) :=
  inferInstanceAs (Decidable (_ = _))

/-- A property accepts a value exactly if there is a text for it, and then
gives this text. -/
theorem canonical_eq_ok {p : Property} {raw : Json} {c : String} :
    p.canonical raw = .ok c ↔ p.canonical? raw = some c := by
  unfold canonical
  cases p.canonical? raw <;> simp

-- ======================================================= kinds of values

/-- The canonical text of a flag is one of the two words, whichever
spelling of the flag was given. -/
theorem flag_of_canonicalFlag? {raw : Json} {c : String}
    (h : canonicalFlag? raw = some c) : c = "true" ∨ c = "false" := by
  unfold canonicalFlag? at h
  split at h
  case h_1 b =>
      injection h with h
      subst h
      cases b
      · exact Or.inr rfl
      · exact Or.inl rfl
  case h_2 s =>
      simp only at h
      split at h
      case isTrue hw =>
          injection h with h
          exact h ▸ hw
      case isFalse => cases h
  case h_3 => cases h

/-- Both words are read as themselves, so that a flag is canonical once it
was read. -/
theorem canonicalFlag?_word {c : String}
    (h : c = "true" ∨ c = "false") : canonicalFlag? (.str c) = some c := by
  rcases h with rfl | rfl
  · decide +kernel
  · decide +kernel

/-- A text stands for the integer it is read as, and for none if it is not
read. -/
theorem integer?_str {s : String} {n : Int} :
    integer? (.str s) = some n ↔ Text.readInt s = .ok n := by
  show (Text.readInt s).toOption = some n ↔ _
  cases Text.readInt s <;> simp [Except.toOption]

/-- The text of a short integer is read as itself: without zeros in front
it is the one that the integer is written with. -/
theorem canonicalInt?_toString {n : Int} (h : (Json.int n).HasText) :
    canonicalInt? (.str (toString n)) = some (toString n) := by
  have hn : integer? (.str (toString n)) = some n :=
    integer?_str.2 (Text.readInt_toString h)
  unfold canonicalInt?
  rw [hn]
  rfl

/-- What is taken for an integer has at most 4300 digits, unless it was an
integer that has more: a text with more digits is not read. -/
theorem hasText_of_integer? {raw : Json} {n : Int} (hr : raw.HasText)
    (h : integer? raw = some n) : (Json.int n).HasText := by
  cases raw with
  | int m =>
      injection h with h
      exact h ▸ hr
  | str s => exact Text.natAbs_lt_of_readInt (integer?_str.1 h)
  | _ => cases h

-- ========================================================= normal form

/-- The canonical text of a value is canonical, if the value has a text
that can be read. Reading a value twice hence gives what reading it once
gives. -/
theorem isCanonical_of_canonical? {p : Property} {raw : Json}
    {c : String} (hr : raw.HasText) (h : p.canonical? raw = some c) :
    p.IsCanonical c := by
  have hint : canonicalInt? raw = some c →
      canonicalInt? (.str c) = some c := by
    intro h
    obtain ⟨n, hn, rfl⟩ := Option.map_eq_some_iff.1 h
    exact canonicalInt?_toString (hasText_of_integer? hr hn)
  unfold IsCanonical
  unfold canonical? at h ⊢
  cases hk : p.kind with
  | flag =>
      rw [hk] at h
      exact canonicalFlag?_word (flag_of_canonicalFlag? h)
  | text => rfl
  | int =>
      rw [hk] at h
      exact hint h
  | long =>
      rw [hk] at h
      exact hint h

/-- The canonical text of a value is canonical if it can go to the wire,
since it is read on the way there. -/
theorem isCanonical_of_typed {p : Property} {raw v : Json} {c : String}
    (h : p.canonical? raw = some c) (hv : p.typed c = .ok v) :
    p.IsCanonical c := by
  have hint : canonicalInt? raw = some c →
      (Text.readInt c).map Json.int = .ok v →
      canonicalInt? (.str c) = some c := by
    intro h hv
    obtain ⟨n, -, rfl⟩ := Option.map_eq_some_iff.1 h
    obtain ⟨m, hm, -⟩ := Outcome.map_eq_ok.1 hv
    exact canonicalInt?_toString (Text.readInt_toString_eq_ok.1 hm).2
  unfold IsCanonical
  unfold typed at hv
  unfold canonical? at h ⊢
  cases hk : p.kind with
  | flag =>
      rw [hk] at h
      exact canonicalFlag?_word (flag_of_canonicalFlag? h)
  | text => rfl
  | int =>
      rw [hk] at h hv
      exact hint h hv
  | long =>
      rw [hk] at h hv
      exact hint h hv

/-- A canonical text goes to the wire, and comes back as it was: the typed
value has this text, and no other. -/
theorem canonical?_of_typed {p : Property} {value : String}
    (h : p.IsCanonical value) :
    ∃ v, p.typed value = .ok v ∧ p.canonical? v = some value := by
  -- the text of an integer is canonical only as the text of what it is read
  -- as
  have hint : canonicalInt? (.str value) = some value →
      ∃ v, (Text.readInt value).map Json.int = .ok v
        ∧ canonicalInt? v = some value := by
    intro h
    obtain ⟨n, hn, hv⟩ := Option.map_eq_some_iff.1 h
    rw [integer?_str.1 hn]
    exact ⟨.int n, rfl, congrArg some hv⟩
  unfold IsCanonical at h
  unfold typed
  unfold canonical? at h ⊢
  cases hk : p.kind with
  | flag =>
      rw [hk] at h
      refine ⟨.bool (value == "true"), rfl, ?_⟩
      rcases flag_of_canonicalFlag? h with rfl | rfl
      · rfl
      · rfl
  | text => exact ⟨.str value, rfl, rfl⟩
  | int =>
      rw [hk] at h
      exact hint h
  | long =>
      rw [hk] at h
      exact hint h

end Property

end SchemaAudit
