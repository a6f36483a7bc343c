/-
Fields on the wire.

# Reading

`ofWire_eq_ok` says when a wire object is read and what the field is
made of: its type is found in the catalog, every key beside name and
type is that of a property whose value fits, and the kind admits the
name. Whatever is read is well-formed and has a type of the catalog
(`of_ofWire`, `wellFormed_of_ofWire`); only an integer that is too long
to have a text gets in the way, and then the field cannot be written
either (`wellFormed_of_toWire`).

The settings of such a field are the flags that an entry may leave out,
with what the entry gives written over them. So each setting comes from
one of the two places (`origin_of_ofWire`), and what holds of both holds
of all settings.

# Writing

The wire object of a well-formed field is read back as the field with
the flags filled in that it leaves open (`ofWire_toWire`). The argument
goes entry by entry: what is written under the key of a property is a
value that is read as the text of the setting, by the round trip of each
kind of property; no entry can be mistaken for the name or the type,
since settings never hold them.

# What is in effect

Filling in the flags changes no property that the field has in effect
(`effective_completed`): the flags filled in are those that the engine
assumes anyway, and those that the type sets are left to it. So a field
that was written and read again differs from itself in nothing that is
compared.
-/
import SchemaAudit.Proofs.Field.WellFormed
import SchemaAudit.Proofs.FieldType

namespace SchemaAudit

open Outcome

/-- Distinct properties have distinct keys, so that a wire object tells
them apart. -/
theorem Property.key_injective {p q : Property} (h : p.key = q.key) :
    p = q := by
  have hp := Property.ofKey?_key p
  rw [h, Property.ofKey?_key q] at hp
  injection hp with hp
  exact hp.symm

/-- An entry is read as a property and a text exactly if its key is that
of the property and the text the canonical one of its value. -/
theorem readEntry_eq_ok {e : String × Json} {p : Property} {c : String} :
    readEntry e = .ok (p, c) ↔
      Property.ofKey? e.1 = some p ∧ p.canonical? e.2 = some c := by
  unfold readEntry
  cases hk : Property.ofKey? e.1 with
  | none => simp
  | some q =>
      show (q.canonical e.2).map (fun c => (q, c)) = .ok (p, c) ↔ _
      rw [map_eq_ok]
      constructor
      · intro h
        obtain ⟨d, hd, h⟩ := h
        injection h with h1 h2
        subst h1 h2
        exact ⟨rfl, Property.canonical_eq_ok.1 hd⟩
      · intro h
        obtain ⟨hq, hc⟩ := h
        injection hq with hq
        subst hq
        exact ⟨c, Property.canonical_eq_ok.2 hc, rfl⟩

namespace Field

-- ============================================================== reading

/-- The entries of a wire object beside its name and type. -/
def ownEntries (raw : List (String × Json)) : List (String × Json) :=
  raw.filter fun e =>
    e.1 != Property.name.key && e.1 != Property.type.key

/-- Reading a field, stage by stage: the type, then the entries beside
name and type, then the name. Stated with the names that the later lemmas
use. -/
theorem ofWire_eq (kind : FieldKind) (raw : List (String × Json)) :
    ofWire kind raw
      = FieldType.resolve ((Json.find? Property.type.key raw).getD .null)
          >>= fun type => Bag.ofWire (ownEntries raw) >>= fun given =>
            kind.entry.name
                ((Json.find? Property.name.key raw).getD .null)
              >>= fun s => .ok ⟨kind, s, type,
                (Table.ofList (presumed type)).putAll given.entries⟩ :=
  rfl

/-- What a field is made of when reading it succeeds. Both directions are
used: to take apart a field that was read, and to show that what was
written is read. -/
theorem ofWire_eq_ok {kind : FieldKind} {raw : List (String × Json)}
    {f : Field} :
    ofWire kind raw = .ok f ↔
      ∃ type given s, type ∈ FieldType.catalog
        ∧ (Json.find? Property.type.key raw).getD .null = .str type.name
        ∧ (ownEntries raw).mapM readEntry = .ok given
        ∧ (Json.find? Property.name.key raw).getD .null = .str s
        ∧ kind.entry.admits s = true
        ∧ f = ⟨kind, s, type,
            (Table.ofList (presumed type)).putAll
              (Table.ofList given).entries⟩ := by
  rw [ofWire_eq]
  constructor
  · intro h
    obtain ⟨type, ht, h⟩ := bind_eq_ok.1 h
    obtain ⟨bag, hbag, h⟩ := bind_eq_ok.1 h
    obtain ⟨s, hs, h⟩ := bind_eq_ok.1 h
    injection h with h
    obtain ⟨given, hgiven, rfl⟩ := map_eq_ok.1 hbag
    obtain ⟨htn, htc⟩ := FieldType.resolve_eq_ok.1 ht
    obtain ⟨hsn, hsa⟩ := EntryKind.name_eq_ok.1 hs
    exact ⟨type, given, s, htc, htn, hgiven, hsn, hsa, h.symm⟩
  · intro h
    obtain ⟨type, given, s, htc, htn, hgiven, hsn, hsa, rfl⟩ := h
    exact bind_eq_ok.2 ⟨type, FieldType.resolve_eq_ok.2 ⟨htn, htc⟩,
      bind_eq_ok.2 ⟨Table.ofList given, map_eq_ok.2 ⟨given, hgiven, rfl⟩,
        bind_eq_ok.2 ⟨s, EntryKind.name_eq_ok.2 ⟨hsn, hsa⟩, rfl⟩⟩⟩

/-- A field that was read is of the kind asked for, has a type of the
catalog and a name that the kind admits. -/
theorem of_ofWire {kind : FieldKind} {raw : List (String × Json)}
    {f : Field} (h : ofWire kind raw = .ok f) :
    f.kind = kind ∧ f.type ∈ FieldType.catalog
      ∧ kind.entry.admits f.name = true := by
  obtain ⟨type, given, s, htc, -, -, -, hsa, rfl⟩ := ofWire_eq_ok.1 h
  exact ⟨rfl, htc, hsa⟩

/-- The keys of what is read from entries are those of the entries, and
each text is that of the value which stands there. -/
theorem fst_of_mapM_readEntry {raw : List (String × Json)}
    {given : List (Property × String)}
    (h : raw.mapM readEntry = .ok given) {e : Property × String}
    (he : e ∈ given) :
    ∃ v, (e.1.key, v) ∈ raw ∧ e.1.canonical? v = some e.2 := by
  obtain ⟨w, hw, hread⟩ := exists_of_forall₂ (mapM_eq_ok.1 h) he
  obtain ⟨hk, hc⟩ := readEntry_eq_ok.1 hread
  refine ⟨w.2, ?_, hc⟩
  rw [Property.key_of_ofKey? hk]
  exact hw

theorem nodup_presumed (type : FieldType) :
    ((presumed type).map Prod.fst).Nodup :=
  List.Nodup.sublist (List.filter_sublist.map _) (by decide)

/-- The flags that may be left out are canonical: each is a text that a
reader would have made. -/
theorem isCanonical_presumed (type : FieldType) :
    ∀ e ∈ presumed type, e.1.IsCanonical e.2 := by
  intro e he
  have hall : ∀ e ∈ Preset.storedIndexed.settings,
      e.1.IsCanonical e.2 := by decide +kernel
  exact hall e (List.mem_of_mem_filter he)

/-- Settings read from the wire, over the flags that it may leave out. -/
def filled (type : FieldType) (given : List (Property × String)) : Bag :=
  (Table.ofList (presumed type)).putAll (Table.ofList given).entries

section filled

variable {type : FieldType} {raw : List (String × Json)}
  {given : List (Property × String)}

/-- Where settings come from: a flag that was left out, or an entry beside
the name and the type. -/
theorem origin_of_filled (h : (ownEntries raw).mapM readEntry = .ok given)
    {p : Property} {v : String}
    (hv : (filled type given).get? p = some v) :
    (p, v) ∈ presumed type
      ∨ ∃ w, (p.key, w) ∈ ownEntries raw ∧ p.canonical? w = some v := by
  unfold filled at hv
  rw [Table.get?_putAll, Option.or_eq_some_iff] at hv
  rcases hv with hv | ⟨-, hv⟩
  · right
    have hmem := List.mem_reverse.1 (Table.mem_of_valueOf hv)
    exact fst_of_mapM_readEntry h (Table.mem_of_mem_ofList hmem)
  · left
    exact Table.mem_of_mem_ofList ((Table.mem_entries _).2 hv)

/-- The name and the type are neither left out nor read as settings, since
their keys are passed over. -/
theorem notMem_keys_filled
    (h : (ownEntries raw).mapM readEntry = .ok given) {p : Property}
    (hp : p = .name ∨ p = .type) : p ∉ (filled type given).keys := by
  intro hk
  obtain ⟨v, hv⟩ := (Table.mem_keys _).1 hk
  rcases origin_of_filled h hv with hpre | ⟨w, hw, -⟩
  · have hne : ∀ e ∈ Preset.storedIndexed.settings,
        ¬ (e.1 = Property.name ∨ e.1 = Property.type) := by decide
    exact hne _ (List.mem_of_mem_filter hpre) hp
  · have hkeep := (List.mem_filter.1 hw).2
    rcases hp with rfl | rfl
    · cases hkeep
    · cases hkeep

/-- What an entry gives has canonical texts, if none of its integers is
too long to have one. -/
theorem isCanonical_filled
    (h : (ownEntries raw).mapM readEntry = .ok given)
    (hraw : ∀ e ∈ raw, e.2.HasText) : (filled type given).IsCanonical := by
  intro p v hv
  rcases origin_of_filled h hv with hpre | ⟨w, hw, hc⟩
  · exact isCanonical_presumed _ _ hpre
  · exact Property.isCanonical_of_canonical?
      (hraw _ (List.mem_of_mem_filter hw)) hc

end filled

/-- Where the settings of a field that was read come from: a flag that
was left out, or an entry beside the name and the type. -/
theorem origin_of_ofWire {kind : FieldKind} {raw : List (String × Json)}
    {f : Field} (h : ofWire kind raw = .ok f) {p : Property} {v : String}
    (hv : f.settings.get? p = some v) :
    (p, v) ∈ presumed f.type
      ∨ ∃ w, (p.key, w) ∈ ownEntries raw ∧ p.canonical? w = some v := by
  obtain ⟨type, given, s, -, -, hgiven, -, -, rfl⟩ := ofWire_eq_ok.1 h
  exact origin_of_filled hgiven hv

/-- A field that was read is well-formed if its texts are canonical. The
rest of being well-formed needs no condition on the entry. -/
theorem wellFormed_of_isCanonical {kind : FieldKind}
    {raw : List (String × Json)} {f : Field}
    (h : ofWire kind raw = .ok f) (hf : f.settings.IsCanonical) :
    f.WellFormed := by
  obtain ⟨type, given, s, -, -, hgiven, -, hadmits, rfl⟩ :=
    ofWire_eq_ok.1 h
  exact ⟨hadmits, notMem_keys_filled hgiven (Or.inl rfl),
    notMem_keys_filled hgiven (Or.inr rfl), hf⟩

/-- A field that was read from values all of which have a text is
well-formed. -/
theorem wellFormed_of_ofWire {kind : FieldKind}
    {raw : List (String × Json)} {f : Field}
    (h : ofWire kind raw = .ok f) (hraw : ∀ e ∈ raw, e.2.HasText) :
    f.WellFormed := by
  apply wellFormed_of_isCanonical h
  obtain ⟨type, given, s, -, -, hgiven, -, -, rfl⟩ := ofWire_eq_ok.1 h
  exact isCanonical_filled hgiven hraw

/-- A field that was read and can be written is well-formed: writing it
shows that no text in it is out of reach. -/
theorem wellFormed_of_toWire {kind : FieldKind}
    {raw ws : List (String × Json)} {f : Field}
    (h : ofWire kind raw = .ok f) (hws : f.toWire = .ok ws) :
    f.WellFormed := by
  apply wellFormed_of_isCanonical h
  intro p v hv
  rcases origin_of_ofWire h hv with hpre | ⟨w, -, hc⟩
  · exact isCanonical_presumed _ _ hpre
  · have hmem : (p, v) ∈ f.properties :=
      List.mem_cons_of_mem _ (List.mem_cons_of_mem _
        (f.settings.mem_entries.2 hv))
    obtain ⟨e, -, he⟩ := exists_of_forall₂ (mapM_eq_ok.1 hws).flip hmem
    obtain ⟨value, hvalue, -⟩ := map_eq_ok.1 he
    exact Property.isCanonical_of_typed hc hvalue

-- ================================================================ origin

/-- How fields come about: built from an overlay, or read from the wire,
with no integer too long to have a text. -/
inductive Made : Field → Prop where
  | built {kind : FieldKind} {name : Json} {type : FieldType}
      {overlay : Option Overlay} {f : Field}
      (h : make kind name type overlay = .ok f)
      (ho : ∀ e ∈ overlayOf overlay, e.2.HasText) : Made f
  | read {kind : FieldKind} {raw : List (String × Json)} {f : Field}
      (h : ofWire kind raw = .ok f) (hraw : ∀ e ∈ raw, e.2.HasText) :
      Made f

/-- However a field comes about, it is well-formed. -/
theorem Made.wellFormed {f : Field} (h : f.Made) : f.WellFormed := by
  cases h with
  | built h ho => exact (wellFormed_of_make h ho).1
  | read h hraw => exact wellFormed_of_ofWire h hraw

/-- A well-formed field of a kind with a type of the catalog. These are
the fields that can be read back, since a type is known by its name there.
-/
structure IsStandard (f : Field) (kind : FieldKind) : Prop where
  kind_eq : f.kind = kind
  wellFormed : f.WellFormed
  type_mem : f.type ∈ FieldType.catalog

/-- A field that is built of a type of the catalog is a standard one of
its kind. -/
theorem isStandard_of_make {kind : FieldKind} {name : Json}
    {type : FieldType} {overlay : Option Overlay} {f : Field}
    (h : make kind name type overlay = .ok f)
    (ht : type ∈ FieldType.catalog)
    (ho : ∀ e ∈ overlayOf overlay, e.2.HasText) : f.IsStandard kind := by
  obtain ⟨hwf, hkind, htype⟩ := wellFormed_of_make h ho
  exact ⟨hkind, hwf, htype ▸ ht⟩

-- ============================================================== writing

/-- Canonical texts have wire entries: each under the key of its property,
with a value that is read as the text. Stated for any list of entries, so
that fields and whole objects share it. -/
theorem exists_mapM_typed_eq_ok {es : List (Property × String)}
    (h : ∀ e ∈ es, e.1.IsCanonical e.2) :
    ∃ ws, es.mapM (fun e => (e.1.typed e.2).map fun v => (e.1.key, v))
        = .ok ws
      ∧ List.Forall₂
          (fun e w => w.1 = e.1.key ∧ e.1.canonical? w.2 = some e.2)
          es ws := by
  apply exists_mapM_eq_ok
  intro e he
  obtain ⟨v, hv, hc⟩ := Property.canonical?_of_typed (h e he)
  exact ⟨(e.1.key, v), map_eq_ok.2 ⟨v, hv, rfl⟩, rfl, hc⟩

/-- Entries under the keys of properties, with values that are read as
their texts, are read one by one. -/
theorem mapM_readEntry_of_forall₂ {es : List (Property × String)}
    {ws : List (String × Json)}
    (h : List.Forall₂
      (fun e w => w.1 = e.1.key ∧ e.1.canonical? w.2 = some e.2) es ws) :
    ws.mapM readEntry = .ok es := by
  rw [mapM_eq_ok]
  refine h.flip.imp fun w e hew => readEntry_eq_ok.2 ⟨?_, hew.2⟩
  rw [hew.1, Property.ofKey?_key]

/-- A well-formed field has a wire object: its name, its type, and each
setting under the key of its property with a value that is read as the
text of the setting. -/
theorem toWire_eq_ok {f : Field} (h : f.WellFormed) :
    ∃ ws, f.toWire = .ok
        ((Property.name.key, .str f.name)
          :: (Property.type.key, .str f.type.name) :: ws)
      ∧ List.Forall₂
          (fun e w => w.1 = e.1.key ∧ e.1.canonical? w.2 = some e.2)
          f.settings.entries ws := by
  obtain ⟨ws, hws, hR⟩ := exists_mapM_typed_eq_ok fun e he =>
    h.canonical e.1 e.2 (f.settings.mem_entries.1 he)
  refine ⟨ws, ?_, hR⟩
  unfold toWire properties
  exact mapM_eq_ok.2 (.cons rfl (.cons rfl (mapM_eq_ok.1 hws)))

/-- The field with the flags filled in that a wire object may leave out.
The flags come first, and what the field sets itself is written over them.
-/
def completed (f : Field) : Field :=
  ⟨f.kind, f.name, f.type,
    (Table.ofList (presumed f.type)).putAll f.settings.entries⟩

/-- The wire object of a well-formed field of a type of the catalog is
read as the field with its flags filled in. Its name can be looked up in
the object, which is what a schema needs to find the entry again. -/
theorem ofWire_toWire {f : Field} (h : f.WellFormed)
    (ht : f.type ∈ FieldType.catalog) :
    ∃ raw, f.toWire = .ok raw
      ∧ Json.find? Property.name.key raw = some (.str f.name)
      ∧ ofWire f.kind raw = .ok f.completed := by
  obtain ⟨ws, hwire, hR⟩ := toWire_eq_ok h
  refine ⟨_, hwire, rfl, ofWire_eq_ok.2 ?_⟩
  -- the settings are read back one by one
  have hread : ws.mapM readEntry = .ok f.settings.entries :=
    mapM_readEntry_of_forall₂ hR
  -- and none of them is mistaken for the name or the type
  have hown : ownEntries ((Property.name.key, .str f.name)
      :: (Property.type.key, .str f.type.name) :: ws) = ws := by
    have hkeep : ∀ w ∈ ws, (w.1 != Property.name.key
        && w.1 != Property.type.key) = true := by
      intro w hw
      obtain ⟨e, he, hkey, -⟩ := exists_of_forall₂ hR hw
      have hmem : e.1 ∈ f.settings.keys := List.mem_map.2 ⟨e, he, rfl⟩
      rw [hkey, Bool.and_eq_true, bne_iff_ne, bne_iff_ne]
      constructor
      · intro hk
        exact h.unnamed (Property.key_injective hk ▸ hmem)
      · intro hk
        exact h.untyped (Property.key_injective hk ▸ hmem)
    show ownEntries ws = ws
    exact List.filter_eq_self.2 hkeep
  refine ⟨f.type, f.settings.entries, f.name, ht, rfl, ?_, rfl,
    h.admitted, ?_⟩
  · rw [hown, hread]
  · rw [Table.entries_ofList f.settings.nodup_keys]
    rfl

-- ====================================================== what is in effect

/-- Beside its name and type, a field has what it sets. -/
theorem get?_of_ne (f : Field) {p : Property} (hn : p ≠ .name)
    (ht : p ≠ .type) : f.get? p = f.settings.get? p := by
  unfold get? properties Table.valueOf Table.valueOf
  rw [if_neg hn.symm, if_neg ht.symm]
  rfl

/-- A flag that is filled in is one that the type leaves open, with the
value that the engine assumes. So looking there first, then at the type
and the engine, is no different from not looking there. -/
theorem get?_presumed (type : FieldType) (p : Property) :
    ((Table.ofList (presumed type)).get? p).or
        ((type.get? p).or p.assumed?)
      = (type.get? p).or p.assumed? := by
  rw [Table.get?_ofList (nodup_presumed type)]
  cases hv : Table.valueOf p (presumed type) with
  | none => rfl
  | some v =>
      have hmem := (Table.valueOf_eq_some (nodup_presumed type)).1 hv
      obtain ⟨hset, hopen⟩ := List.mem_filter.1 hmem
      have hnone : type.get? p = none := by simpa using hopen
      have hassumed : p.assumed? = some v := by
        simp only [Preset.settings, List.mem_cons, List.not_mem_nil,
          or_false, Prod.mk.injEq] at hset
        rcases hset with ⟨rfl, rfl⟩ | ⟨rfl, rfl⟩ | ⟨rfl, rfl⟩
        · rfl
        · rfl
        · rfl
      rw [hnone, hassumed]
      rfl

/-- Filling in the flags changes no property in effect, of whichever name.
-/
theorem effective_completed (f : Field) (p : Property) :
    f.completed.effective p = f.effective p := by
  by_cases hn : p = .name
  · subst hn
    rfl
  by_cases ht : p = .type
  · subst ht
    rfl
  unfold effective
  rw [get?_of_ne _ hn ht, get?_of_ne _ hn ht]
  show (((Table.ofList (presumed f.type)).putAll
      f.settings.entries).get? p).or ((f.type.get? p).or p.assumed?) = _
  rw [Table.get?_putAll_of_nodup _ f.settings.nodup_keys, Option.or_assoc,
    get?_presumed]
  rfl

/-- Filling in the flags does not change how many values a field has, and
with it not which copies may feed it. -/
theorem isMultivalued_completed (f : Field) :
    f.completed.isMultivalued = f.isMultivalued := by
  unfold isMultivalued
  rw [effective_completed]

end Field

end SchemaAudit
