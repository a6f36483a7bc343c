/-
The catalog of types, closed under its names: no two types share a name
(`eq_of_name_eq`), so that a name from outside means one type or none
(`resolve_eq_ok`).

Fields refer to their types as wholes, while the wire and the comparison
only know the name of a type. The two agree as long as types come from
the catalog, and this is where the theory of fields gets that from.
-/
import Mathlib.Data.List.Nodup
import SchemaAudit.FieldType

namespace SchemaAudit

theorem Json.str?_eq_some {value : Json} {s : String} :
    value.str? = some s ↔ value = .str s := by
  cases value <;> simp [Json.str?]

namespace FieldType

theorem nodup_names : (catalog.map name).Nodup := by decide

/-- Types of the catalog are told apart by their names, so that two fields
whose types have one name have one type. -/
theorem eq_of_name_eq {s t : FieldType} (hs : s ∈ catalog)
    (ht : t ∈ catalog) (h : s.name = t.name) : s = t :=
  List.inj_on_of_nodup_map nodup_names hs ht h

/-- A name finds the type of the catalog that has it. -/
theorem find?_eq_some {s : String} {t : FieldType} :
    find? s = some t ↔ t ∈ catalog ∧ t.name = s := by
  constructor
  · intro h
    exact ⟨List.mem_of_find?_eq_some h, by simpa using List.find?_some h⟩
  · intro h
    obtain ⟨ht, rfl⟩ := h
    cases h : find? t.name with
    | none =>
        have hn := List.find?_eq_none.1 h t ht
        simp at hn
    | some u =>
        have hu : u ∈ catalog := List.mem_of_find?_eq_some h
        have he : u.name = t.name := by simpa using List.find?_some h
        rw [eq_of_name_eq hu ht he]

/-- A value means a type exactly if it is the name of one. A name in other
letters, or a value that is no string, means none. -/
theorem resolve_eq_ok {value : Json} {t : FieldType} :
    resolve value = .ok t ↔ value = .str t.name ∧ t ∈ catalog := by
  have hb : resolve value = .ok t ↔ value.str?.bind find? = some t := by
    unfold resolve
    cases value.str?.bind find? <;> simp
  rw [hb, Option.bind_eq_some_iff]
  constructor
  · intro h
    obtain ⟨s, hs, h⟩ := h
    obtain ⟨ht, rfl⟩ := find?_eq_some.1 h
    exact ⟨Json.str?_eq_some.1 hs, ht⟩
  · intro h
    obtain ⟨rfl, ht⟩ := h
    exact ⟨t.name, rfl, find?_eq_some.2 ⟨ht, rfl⟩⟩

end FieldType

end SchemaAudit
