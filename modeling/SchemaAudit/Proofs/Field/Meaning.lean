/-
The wire keeps the meaning of a field. A field that was built is written
and read again as a field of its name and type with the same value in
effect for every property (`reread_of_make`), even if it leaves its
storage flags open: the flags that reading fills in are those that are
in effect anyway.

It comes back with just the values it had exactly if there was nothing
to fill in (`isExplicit_iff`). The two are not the same thing: a field
that leaves a flag open and the one that is read back agree in all that
they do, but the one says less than the other, and writing the second
gives a longer object.

Completing a field is looked at through its look-ups: a completed field
finds its own value, else the flag filled in (`get?_completed`). From
that law both follow, what is kept in effect and when nothing was added.
-/
import SchemaAudit.Proofs.Field.Difference

namespace SchemaAudit.Field

/-- Whether a field sets, itself or through its type, every flag that the
wire may leave out. -/
def IsExplicit (f : Field) : Prop :=
  ∀ e ∈ Preset.storedIndexed.settings,
    f.type.get? e.1 = none → f.get? e.1 ≠ none

/-- The values of a field with its flags filled in: its own, else those
filled in. -/
theorem get?_completed (f : Field) (p : Property) :
    f.completed.get? p
      = (f.get? p).or (Table.valueOf p (presumed f.type)) := by
  by_cases hn : p = .name
  · subst hn
    rfl
  by_cases ht : p = .type
  · subst ht
    rfl
  rw [get?_of_ne _ hn ht, get?_of_ne _ hn ht,
    ← Table.get?_ofList (nodup_presumed f.type)]
  exact Table.get?_putAll_of_nodup _ f.settings.nodup_keys p

/-- Filling in the flags leaves the values as they are exactly if none was
open, of those that the type does not set either. -/
theorem isExplicit_iff (f : Field) :
    f.IsExplicit ↔ ∀ p, f.completed.get? p = f.get? p := by
  constructor
  · intro h p
    rw [get?_completed]
    cases hp : f.get? p with
    | some v => rfl
    | none =>
        rw [Option.none_or, Table.valueOf_eq_none]
        intro hmem
        obtain ⟨e, he, rfl⟩ := List.mem_map.1 hmem
        obtain ⟨hset, hopen⟩ := List.mem_filter.1 he
        exact h e hset (Option.isNone_iff_eq_none.1 hopen) hp
  · intro h e he hopen hget
    have hmem : e ∈ presumed f.type :=
      List.mem_filter.2 ⟨he, Option.isNone_iff_eq_none.2 hopen⟩
    have hfilled := h e.1
    rw [get?_completed, hget, Option.none_or, Table.valueOf_eq_none]
      at hfilled
    exact hfilled (List.mem_map_of_mem hmem)

/-- A field with a type of the catalog does not differ from itself with
its flags filled in, in either direction. -/
theorem differences_completed {f : Field}
    (ht : f.type ∈ FieldType.catalog) : f.differences f.completed = [] :=
  (differences_eq_nil ht (show f.completed.type ∈ _ from ht)).2
    ⟨rfl, fun p _ => (effective_completed f p).symm⟩

/-- A field of a type of the catalog, built from any overlay that is
accepted - an integer needs a text for that - can be written and is read
again with its name, its type and all that it has in effect; it has the
values it had exactly if none of its flags was open. -/
theorem reread_of_make {kind : FieldKind} {name : Json}
    {type : FieldType} {overlay : Option Overlay} {f : Field}
    (h : make kind name type overlay = .ok f)
    (ht : type ∈ FieldType.catalog)
    (ho : ∀ e ∈ overlayOf overlay, e.2.HasText) :
    ∃ raw g, f.toWire = .ok raw ∧ ofWire kind raw = .ok g
      ∧ g.name = f.name ∧ g.type = f.type
      ∧ (∀ p, g.effective p = f.effective p)
      ∧ f.differences g = []
      ∧ g.isMultivalued = f.isMultivalued
      ∧ (f.IsExplicit ↔ ∀ p, g.get? p = f.get? p) := by
  obtain ⟨hwf, rfl, rfl⟩ := wellFormed_of_make h ho
  obtain ⟨raw, hraw, -, hread⟩ := ofWire_toWire hwf ht
  exact ⟨raw, f.completed, hraw, hread, rfl, rfl, effective_completed f,
    differences_completed ht, isMultivalued_completed f, isExplicit_iff f⟩

/-- A template over texts of several values that sets no storage flag, with
a step given as a numeral. -/
theorem reread_of_make_bare :
    ∃ f raw g, make .dynamic (.str "*_note") FieldType.textGeneral
          (some [(.known .precisionStep, .str " +0_7 "),
            (.known .termVectors, .str "TRUE")]) = .ok f
      ∧ f.toWire = .ok raw ∧ ofWire .dynamic raw = .ok g
      ∧ g.name = f.name ∧ g.type = f.type
      ∧ (∀ p, g.effective p = f.effective p)
      ∧ f.differences g = []
      ∧ g.isMultivalued = f.isMultivalued
      ∧ (f.IsExplicit ↔ ∀ p, g.get? p = f.get? p) := by
  have hmake : make .dynamic (.str "*_note") FieldType.textGeneral
      (some [(.known .precisionStep, .str " +0_7 "),
        (.known .termVectors, .str "TRUE")])
        = .ok ⟨.dynamic, "*_note", FieldType.textGeneral, Table.ofList
          [(.precisionStep, "7"), (.termVectors, "true")]⟩ := by
    with_unfolding_all rfl
  obtain ⟨raw, g, hreread⟩ := reread_of_make hmake
    (by simp [FieldType.catalog]) (by decide)
  exact ⟨_, raw, g, hmake, hreread⟩

end SchemaAudit.Field
