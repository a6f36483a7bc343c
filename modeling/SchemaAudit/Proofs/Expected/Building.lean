/-
What a catalog gives to a cache. It depends on the catalog, the
full-text field and the limit of copy fields alone, and not on what the
cache holds already (`value_build`): the indexed metadata fields in the
order of their names, and one copy of each into the full-text field
(`yield_eq_ok`, `copies_of_yield`).

`Catalog.yield` is that as a function of its own. Building goes through
the definitions once and logs what it skips; without the log it is one
step for each definition, less those that are not indexed, and then one
step for each field. So a catalog gives something exactly if each step
succeeds, and the reasons why it gives nothing are told by the first
step that fails.

Everything else that is said of loading speaks of what a catalog gives,
and never of how a cache builds it.
-/
import Mathlib.Data.List.ReduceOption
import SchemaAudit.Expected
import SchemaAudit.Proofs.CopyField
import SchemaAudit.Proofs.Field.Wire

namespace SchemaAudit

open Outcome

-- ============================================================== fields

/-- The type that values are indexed with is one of the catalog of types.
-/
theorem DeclaredType.indexType?_mem_catalog {d : DeclaredType}
    {t : FieldType} (h : d.indexType? = some t) :
    t ∈ FieldType.catalog := by
  cases d <;> cases h <;> simp [FieldType.catalog]

/-- The field of a metadata field is a static one as it should be:
well-formed and of a type of the catalog. -/
theorem Definition.of_field? {d : Definition} {f : Field}
    (h : d.field? = .ok (some f)) :
    f.IsStandard .static := by
  unfold Definition.field? at h
  cases ht : d.type.indexType? with
  | none =>
      rw [ht] at h
      cases h
  | some t =>
      have hcat := DeclaredType.indexType?_mem_catalog ht
      simp only [ht] at h
      split at h
      case isTrue =>
          obtain ⟨g, hg, hfg⟩ := map_eq_ok.1 h
          injection hfg with hfg
          subst hfg
          apply Field.isStandard_of_make hg hcat
          intro e he
          obtain ⟨p, -, rfl⟩ := List.mem_map.1 he
          exact trivial
      case isFalse => cases h

/-- The fields built are those of all metadata fields, each of which is
built, less those that are not indexed. The log lines on the way have no
part in it. -/
theorem value_buildFields (ds : List Definition) :
    (buildFields ds).value
      = (ds.mapM Definition.field?).map List.reduceOption := by
  induction ds with
  | nil => rfl
  | cons d rest ih =>
      unfold buildFields
      rw [List.mapM_cons]
      cases d.field? with
      | error fault => rfl
      | ok built =>
          cases built with
          | none =>
              show (buildFields rest).value = _
              rw [ih]
              cases rest.mapM Definition.field? <;> rfl
          | some f =>
              show (buildFields rest).value.map (f :: ·) = _
              rw [ih]
              cases rest.mapM Definition.field? <;> rfl

-- ============================================================= catalogs

/-- What a catalog gives: the fields of its metadata fields in the order
of their names, and a copy of each into the full-text field. It gives
nothing if it cannot be read, or one of these cannot be built. -/
def Catalog.yield (catalog : Catalog) (fullText : Field)
    (maxChars : Json) :
    Except BuildFault (List Field × List CopyField) := do
  let definitions ← catalog.definitions.mapError .catalog
  let built ← (definitions.mapM Definition.field?).mapError .entry
  let copies ← (built.reduceOption.mapM fun f =>
    CopyField.make (.field f) (.field fullText) maxChars).mapError .entry
  .ok (built.reduceOption, copies)

/-- What a cache builds from a catalog is what the catalog gives, whatever
the cache holds. This is the only place where the pass over the catalog is
opened. -/
theorem Cache.value_build (c : Cache) (catalog : Catalog) :
    (c.build catalog).value = catalog.yield c.fullText c.maxChars := by
  unfold build Catalog.yield
  cases catalog.definitions with
  | error fault => rfl
  | ok definitions =>
      rw [Logged.value_bind, value_buildFields]
      show _ = (definitions.mapM Definition.field?).mapError _ >>= _
      cases definitions.mapM Definition.field? with
      | error fault => rfl
      | ok built =>
          show _ = (built.reduceOption.mapM fun f =>
            c.copyOf (.field f)).mapError _ >>= _
          simp only [Except.map]
          cases built.reduceOption.mapM fun f => c.copyOf (.field f) with
          | error fault => rfl
          | ok copies => rfl

namespace Catalog

variable {catalog : Catalog} {fullText : Field} {maxChars : Json}
variable {fields : List Field} {copies : List CopyField}

/-- When a catalog gives something, and what: its definitions can be read,
each of them has its field or none, and each field can be copied. -/
theorem yield_eq_ok :
    catalog.yield fullText maxChars = .ok (fields, copies) ↔
      ∃ ds built, catalog.definitions = .ok ds
        ∧ ds.mapM Definition.field? = .ok built
        ∧ fields = built.reduceOption
        ∧ fields.mapM (fun f =>
            CopyField.make (.field f) (.field fullText) maxChars)
          = .ok copies := by
  unfold yield
  constructor
  · intro h
    obtain ⟨ds, hds, h⟩ := bind_eq_ok.1 h
    obtain ⟨built, hbuilt, h⟩ := bind_eq_ok.1 h
    obtain ⟨made, hmade, h⟩ := bind_eq_ok.1 h
    injection h with h
    injection h with hfields hcopies
    subst hfields hcopies
    exact ⟨ds, built, mapError_eq_ok.1 hds, mapError_eq_ok.1 hbuilt, rfl,
      mapError_eq_ok.1 hmade⟩
  · intro h
    obtain ⟨ds, built, hds, hbuilt, rfl, hmade⟩ := h
    exact bind_eq_ok.2 ⟨ds, mapError_eq_ok.2 hds,
      bind_eq_ok.2 ⟨built, mapError_eq_ok.2 hbuilt,
        bind_eq_ok.2 ⟨copies, mapError_eq_ok.2 hmade, rfl⟩⟩⟩

/-- The fields that a catalog gives are static ones as they should be, so
nothing that is loaded has to be checked again. -/
theorem isStandard_of_yield
    (h : catalog.yield fullText maxChars = .ok (fields, copies)) :
    ∀ f ∈ fields, f.IsStandard .static := by
  obtain ⟨ds, built, -, hbuilt, rfl, -⟩ := yield_eq_ok.1 h
  intro f hf
  obtain ⟨d, -, hd⟩ :=
    exists_of_forall₂ (mapM_eq_ok.1 hbuilt) (List.reduceOption_mem_iff.1 hf)
  exact Definition.of_field? hd

/-- The copies that a catalog gives: one of each of its fields, in order,
into the full-text field and with the limit that was given, which is then
a positive integer. -/
theorem copies_of_yield
    (h : catalog.yield fullText maxChars = .ok (fields, copies)) :
    copies.map CopyField.source = fields
      ∧ ∀ copy ∈ copies, copy.dest = fullText ∧ 1 ≤ copy.maxChars
        ∧ maxChars = .int copy.maxChars := by
  obtain ⟨-, -, -, -, -, hmade⟩ := yield_eq_ok.1 h
  have hR : List.Forall₂ (fun f copy => copy.source = f
      ∧ copy.dest = fullText ∧ 1 ≤ copy.maxChars
        ∧ maxChars = .int copy.maxChars) fields copies := by
    refine (mapM_eq_ok.1 hmade).imp fun f copy hcopy => ?_
    obtain ⟨-, -, n, hn, rfl⟩ := CopyField.ofFields_eq_ok.1 hcopy
    exact ⟨rfl, rfl, CopyField.limit_eq_ok.1 hn⟩
  refine ⟨?_, fun copy hcopy => ?_⟩
  · rw [← List.forall₂_eq_eq_eq, List.forall₂_map_left_iff]
    exact hR.flip.imp fun copy f h => h.1
  · obtain ⟨f, -, -, hc⟩ := exists_of_forall₂ hR hcopy
    exact hc

end Catalog

end SchemaAudit
