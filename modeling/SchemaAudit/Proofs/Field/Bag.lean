/-
The bags of fields, however the fields are obtained: built from an
overlay, read from the wire, or given by a template for a name
(`Obtained`). A bag begins with the name and the type, has no property
twice and holds canonical texts only. Because of this a field can always
be written, with one wire entry for each property in their order
(`exists_toWire`), any of its properties can be had as a value
(`exists_typed`), and building it anew from what its bag holds gives it
again (`make_others`).

The one invariant behind it is that every field that can be obtained is
well-formed (`Obtained.wellFormed`). It goes by induction on how the
field was obtained: a field that a copy field means is one of those that
are there, or what a template among them gives for a name, and a
template hands its settings down as they are (`WellFormed.instantiate`).
`HasSoundBag` collects what follows for the bag, and
`hasSoundBag_of_obtained` puts it together.
-/
import SchemaAudit.Proofs.Reference

namespace SchemaAudit.Field

open Outcome

-- ================================================================ origin

/-- How a field is obtained: it is built or read, or it is what the end of
a copy field means among fields that were obtained. -/
inductive Obtained : Field → Prop where
  | made {f : Field} (h : f.Made) : Obtained f
  | resolved {role : String} {name : Json}
      {statics dynamics : Table String Field} {f : Field}
      (h : resolveReference role name statics dynamics = .ok f)
      (hs : ∀ g ∈ statics.values, Obtained g)
      (hd : ∀ g ∈ dynamics.values, Obtained g) : Obtained f

/-- What a template gives for a name that a static field may have is
well-formed if the template is. -/
theorem WellFormed.instantiate {template : Field} (h : template.WellFormed)
    {name : String} (hname : EntryKind.static.admits name = true) :
    (template.instantiate name).WellFormed where
  admitted := hname
  unnamed := h.unnamed
  untyped := h.untyped
  canonical := h.canonical

/-- A resolved field is one of the fields that are there, or what one of
the dynamic ones gives for a name that a static field may have. -/
theorem of_resolveReference {role : String} {value : Json}
    {statics dynamics : Table String Field} {f : Field}
    (h : resolveReference role value statics dynamics = .ok f) :
    f ∈ statics.values ∨ f ∈ dynamics.values
      ∨ ∃ template ∈ dynamics.values, ∃ name,
        EntryKind.static.admits name = true
          ∧ f = template.instantiate name := by
  obtain ⟨name, -, h⟩ := resolveReference_eq_ok.1 h
  unfold fieldNamed? at h
  rw [Option.or_eq_some_iff, Option.or_eq_some_iff] at h
  rcases h with (h | ⟨-, h⟩) | ⟨-, h⟩
  · exact Or.inl ((Table.mem_values _).2 ⟨name, h⟩)
  · exact Or.inr (Or.inl ((Table.mem_values _).2 ⟨name, h⟩))
  · unfold caught? at h
    split at h
    case isFalse => cases h
    case isTrue hname =>
        obtain ⟨template, ht, rfl⟩ := Option.map_eq_some_iff.1 h
        have hmem := (longest?_eq_some ht).1
        exact Or.inr (Or.inr ⟨template, (List.mem_filter.1 hmem).1, name,
          hname, rfl⟩)

/-- A field that can be obtained is well-formed, by induction on how it
was obtained. -/
theorem Obtained.wellFormed {f : Field} (h : f.Obtained) :
    f.WellFormed := by
  induction h with
  | made h => exact h.wellFormed
  | resolved h _ _ ihs ihd =>
      rcases of_resolveReference h with hf | hf | ⟨t, ht, name, hname, rfl⟩
      · exact ihs _ hf
      · exact ihd _ hf
      · exact (ihd t ht).instantiate hname

-- =================================================================== bags

/-- What the bag of a field holds beside its name and type. -/
def others (f : Field) : List (Property × String) :=
  f.properties.filter fun e => e.1 ≠ .name ∧ e.1 ≠ .type

section

variable {f : Field} (h : f.WellFormed)

include h

/-- No property is in the bag of a field twice: settings hold neither the
name nor the type, and are themselves a table. -/
theorem nodup_properties : (f.properties.map Prod.fst).Nodup := by
  show (Property.name :: Property.type :: f.settings.keys).Nodup
  rw [List.nodup_cons, List.nodup_cons, List.mem_cons]
  refine ⟨?_, h.untyped, f.settings.nodup_keys⟩
  rintro (hname | hname)
  · cases hname
  · exact h.unnamed hname

/-- Every text in the bag of a field is canonical, those of the name and
the type included. -/
theorem isCanonical_of_mem {e : Property × String}
    (he : e ∈ f.properties) : e.1.IsCanonical e.2 := by
  rcases List.mem_cons.1 he with rfl | he
  · rfl
  rcases List.mem_cons.1 he with rfl | he
  · rfl
  · exact h.canonical e.1 e.2 (f.settings.mem_entries.1 he)

/-- The value of a property in the bag of a field is what its text stands
for. -/
theorem typed_of_mem {e : Property × String} (he : e ∈ f.properties) :
    f.typed e.1 = e.1.typed e.2 := by
  have hget : f.get? e.1 = some e.2 :=
    (Table.valueOf_eq_some (nodup_properties h)).2 he
  unfold typed
  rw [hget]

/-- Every property of a field can be had as a value; one that the field
does not have is null. -/
theorem exists_typed (p : Property) : ∃ v, f.typed p = .ok v := by
  unfold typed
  cases hp : f.get? p with
  | none => exact ⟨.null, rfl⟩
  | some value =>
      have hmem := Table.mem_of_valueOf hp
      obtain ⟨v, hv, -⟩ :=
        Property.canonical?_of_typed (isCanonical_of_mem h hmem)
      exact ⟨v, hv⟩

/-- A field can be written: one wire entry for each property of its bag,
in their order, under the key of the property and with its value. -/
theorem exists_toWire :
    ∃ ws, f.toWire = .ok ws
      ∧ List.Forall₂ (fun e w => w.1 = e.1.key ∧ f.typed e.1 = .ok w.2)
        f.properties ws := by
  apply exists_mapM_eq_ok
  intro e he
  obtain ⟨v, hv⟩ := exists_typed h e.1
  refine ⟨(e.1.key, v), ?_, rfl, hv⟩
  rw [typed_of_mem h he] at hv
  exact map_eq_ok.2 ⟨v, hv, rfl⟩

/-- Beside its name and type, a field has its settings. -/
theorem others_eq : f.others = f.settings.entries := by
  show (f.settings.entries.filter _) = _
  rw [List.filter_eq_self]
  intro e he
  have hmem : e.1 ∈ f.settings.keys := List.mem_map.2 ⟨e, he, rfl⟩
  rw [decide_eq_true_eq]
  constructor
  · exact fun hn => h.unnamed (hn ▸ hmem)
  · exact fun ht => h.untyped (ht ▸ hmem)

/-- Building a field anew from its name, its type and the rest of its bag
gives the field again, since canonical texts are taken over as they stand.
-/
theorem make_others :
    make f.kind (.str f.name) f.type (some (Overlay.ofTexts f.others))
      = .ok f := by
  rw [others_eq h, make_settings h.canonical h.unnamed h.untyped]
  exact bind_eq_ok.2 ⟨f.name, EntryKind.name_eq_ok.2 ⟨rfl, h.admitted⟩, rfl⟩

end

-- ============================================================= invariant

/-- What holds of the bag of every field. It begins with name and type,
has no property twice, and its texts are canonical; each of them can be
read as a typed value and written, under keys that are all distinct; and
what stands behind name and type is enough to build the same field again.
-/
structure HasSoundBag (f : Field) : Prop where
  nodup : (f.properties.map Prod.fst).Nodup
  identity : ∃ rest,
    f.properties = (.name, f.name) :: (.type, f.type.name) :: rest
  canonical : ∀ e ∈ f.properties, e.1.canonical (.str e.2) = .ok e.2
  typed : ∀ p, ∃ v, f.typed p = .ok v
  written : ∃ ws, f.toWire = .ok ws
    ∧ List.Forall₂ (fun e w => w.1 = e.1.key ∧ f.typed e.1 = .ok w.2)
      f.properties ws
    ∧ (ws.map Prod.fst).Nodup
  rebuilt : make f.kind (.str f.name) f.type
    (some (Overlay.ofTexts f.others)) = .ok f

/-- Wire entries under the keys of distinct properties have distinct keys,
so a written field is an object in which no key hides another. -/
theorem nodup_keys_of_forall₂ {es : List (Property × String)}
    {ws : List (String × Json)}
    {R : Property × String → String × Json → Prop}
    (h : List.Forall₂ R es ws) (hkey : ∀ e w, R e w → w.1 = e.1.key)
    (hn : (es.map Prod.fst).Nodup) : (ws.map Prod.fst).Nodup := by
  have hkeys : ws.map Prod.fst = (es.map Prod.fst).map Property.key := by
    induction h with
    | nil => rfl
    | cons hew _ ih =>
        rw [List.map_cons, List.nodup_cons] at hn
        exact congrArg₂ List.cons (hkey _ _ hew) (ih hn.2)
  rw [hkeys]
  exact hn.map fun _ _ => Property.key_injective

/-- However a field is obtained, its bag is sound: begun by name and type,
without repetition, canonical, readable, writable, and enough to build the
field again. -/
theorem hasSoundBag_of_obtained {f : Field} (h : f.Obtained) :
    f.HasSoundBag := by
  have hwf := h.wellFormed
  have hnodup := nodup_properties hwf
  obtain ⟨ws, hws, hR⟩ := exists_toWire hwf
  exact {
    nodup := hnodup
    identity := ⟨_, rfl⟩
    canonical := fun e he =>
      Property.canonical_eq_ok.2 (isCanonical_of_mem hwf he)
    typed := exists_typed hwf
    written := ⟨ws, hws, hR,
      nodup_keys_of_forall₂ hR (fun _ _ hew => hew.1) hnodup⟩
    rebuilt := make_others hwf }

/-- A map of one template. -/
def oneTemplate : Table String Field :=
  Table.ofList [("*_en", englishTemplate "*_en")]

/-- What a template gives for a name has a sound bag: it is a field that
was neither built by a caller nor read from an entry. -/
theorem hasSoundBag_of_obtained_instance :
    ((englishTemplate "*_en").instantiate "title_en").Obtained
      ∧ ((englishTemplate "*_en").instantiate "title_en").HasSoundBag := by
  have hmade : ∀ t ∈ oneTemplate.values, Obtained t := by
    intro t ht
    rw [List.mem_singleton.1 ht]
    exact .made (made_englishTemplate (by decide))
  have hresolve : resolveReference "source" (.str "title_en") Table.empty
      oneTemplate
        = .ok ((englishTemplate "*_en").instantiate "title_en") := by
    with_unfolding_all rfl
  have hobtained := Obtained.resolved hresolve (fun _ hg => nomatch hg) hmade
  exact ⟨hobtained, hasSoundBag_of_obtained hobtained⟩

end SchemaAudit.Field
