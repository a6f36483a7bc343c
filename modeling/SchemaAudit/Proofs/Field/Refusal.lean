/-
How reading a field from the wire ends. An entry can be wrong in several
ways at once, and one of them decides: the type comes first, whatever
else is wrong, then the first property that is unknown or whose value
does not fit, in the order of the entry, and last the name. An entry
with nothing wrong gives the field that it describes (`ofWire_eq_iff`).

# What is described

`Reads` lists the four ways to end, each with what must be the case
before it and what decides it; it mentions the raw entry only.
`IsReadingOf` says which field an entry describes: name and type, a
canonical text for every other key, the flags that are filled in, and
nothing else, in a fixed order. An entry describes at most one field
(`IsReadingOf.unique`), so that the equivalence pins the result down and
not only its shape.

# Two ways to build

The field could as well be built by `make`, which refuses settings that
are reserved and converts every value once more: nothing is reserved
among the settings that are left, and what has been converted is
converted to itself (`ofWireByMake_eq_ofWire`).

# Conditions

Keys are distinct, as in any object that was read from a text: of two
values under one key the last would count, and the entry would not say
so. Values have texts, that is, no integer among them is too long to be
written down.
-/
import SchemaAudit.Live
import SchemaAudit.Proofs.Field.Wire

namespace SchemaAudit

open Outcome

-- ====================================================== entries one by one

/-- Whether an entry gives a property a value that fits it: its key is
that of a property, and its value has a canonical text there. -/
def Fits (e : String × Json) : Prop :=
  ∃ p c, p.key = e.1 ∧ Property.canonical? p e.2 = some c

/-- What is wrong with an entry: its key is that of no property, or its
value does not fit the property. -/
inductive Unfit : String × Json → Fault → Prop where
  | unknown {key : String} {value : Json}
      (h : ∀ p : Property, p.key ≠ key) :
      Unfit (key, value) (.unknownProperty (.str key))
  | misfit {p : Property} {value : Json}
      (h : p.canonical? value = none) :
      Unfit (p.key, value) (.invalidValue value p)

theorem Property.ofKey?_eq_none {key : String} :
    ofKey? key = none ↔ ∀ p : Property, p.key ≠ key := by
  constructor
  · intro h p hp
    rw [← hp, ofKey?_key] at h
    cases h
  · intro h
    cases hk : ofKey? key with
    | none => rfl
    | some p => exact absurd (key_of_ofKey? hk) (h p)

/-- An entry is read exactly if it gives a property a value that fits. -/
theorem exists_readEntry_eq_ok {e : String × Json} :
    (∃ x, readEntry e = .ok x) ↔ Fits e := by
  constructor
  · intro h
    obtain ⟨⟨p, c⟩, h⟩ := h
    obtain ⟨hk, hc⟩ := readEntry_eq_ok.1 h
    exact ⟨p, c, Property.key_of_ofKey? hk, hc⟩
  · intro h
    obtain ⟨p, c, hk, hc⟩ := h
    exact ⟨(p, c), readEntry_eq_ok.2 ⟨hk ▸ Property.ofKey?_key p, hc⟩⟩

/-- A value is refused exactly if it has no canonical text for the
property, and then with the value and the property in the fault. -/
theorem Property.canonical_eq_error {p : Property} {raw : Json}
    {fault : Fault} :
    p.canonical raw = .error fault ↔
      p.canonical? raw = none ∧ fault = .invalidValue raw p := by
  unfold canonical
  cases p.canonical? raw with
  | none => simp [eq_comm]
  | some c => simp

/-- An entry is refused exactly with what is wrong with it, of which there
is never more than one thing. -/
theorem readEntry_eq_error {e : String × Json} {fault : Fault} :
    readEntry e = .error fault ↔ Unfit e fault := by
  obtain ⟨key, value⟩ := e
  constructor
  · intro h
    unfold readEntry at h
    cases hk : Property.ofKey? key with
    | none =>
        rw [hk] at h
        injection h with h
        exact h ▸ .unknown (Property.ofKey?_eq_none.1 hk)
    | some p =>
        rw [hk] at h
        obtain ⟨hc, rfl⟩ := Property.canonical_eq_error.1 (map_eq_error.1 h)
        obtain rfl := Property.key_of_ofKey? hk
        exact .misfit hc
  · intro h
    cases h with
    | unknown h =>
        unfold readEntry
        rw [Property.ofKey?_eq_none.2 h]
    | misfit h =>
        unfold readEntry
        rw [Property.ofKey?_key]
        exact map_eq_error.2 (Property.canonical_eq_error.2 ⟨h, rfl⟩)

/-- Entries are read if, and only if, each of them fits. -/
theorem exists_mapM_readEntry_eq_ok {es : List (String × Json)} :
    (∃ given, es.mapM readEntry = .ok given) ↔ ∀ e ∈ es, Fits e := by
  rw [exists_mapM_iff]
  simp only [exists_readEntry_eq_ok]

/-- Entries are refused with what is wrong with the first that does not
fit; what stands behind it is not looked at. -/
theorem mapM_readEntry_eq_error {es : List (String × Json)}
    {fault : Fault} :
    es.mapM readEntry = .error fault ↔
      ∃ before e after, es = before ++ e :: after
        ∧ (∀ b ∈ before, Fits b) ∧ Unfit e fault := by
  rw [mapM_eq_error]
  simp only [exists_readEntry_eq_ok, readEntry_eq_error]

-- ======================================================= type and name

/-- A type is refused exactly if the value is the name of no type of the
catalog, and then with the value. -/
theorem FieldType.resolve_eq_error {value : Json} {fault : Fault} :
    resolve value = .error fault ↔
      (∀ t ∈ catalog, value ≠ .str t.name)
        ∧ fault = .unknownType value := by
  constructor
  · intro h
    refine ⟨fun t ht hv => ?_, ?_⟩
    · rw [resolve_eq_ok.2 ⟨hv, ht⟩] at h
      cases h
    · unfold resolve at h
      split at h
      case h_1 => cases h
      case h_2 =>
          injection h with h
          exact h.symm
  · intro h
    obtain ⟨hnone, rfl⟩ := h
    cases hr : resolve value with
    | ok t =>
        obtain ⟨hv, ht⟩ := resolve_eq_ok.1 hr
        exact absurd hv (hnone t ht)
    | error d =>
        unfold resolve at hr
        split at hr
        case h_1 => cases hr
        case h_2 => exact hr.symm

/-- A name is refused exactly if the value is no string that the kind
admits, and then with the value and the kind. -/
theorem EntryKind.name_eq_error {kind : EntryKind} {value : Json}
    {fault : Fault} :
    kind.name value = .error fault ↔
      (∀ s, value = .str s → kind.admits s = false)
        ∧ fault = .invalidName value kind := by
  constructor
  · intro h
    refine ⟨fun s hs => ?_, ?_⟩
    · cases hadm : kind.admits s with
      | false => rfl
      | true =>
          rw [name_eq_ok.2 ⟨hs, hadm⟩] at h
          cases h
    · unfold name at h
      split at h
      case h_1 s =>
          split at h
          case isTrue => cases h
          case isFalse =>
              injection h with h
              exact h.symm
      case h_2 =>
          injection h with h
          exact h.symm
  · intro h
    obtain ⟨hnone, rfl⟩ := h
    unfold name
    split
    case h_1 s =>
        rw [if_neg (by rw [hnone s rfl]; exact Bool.false_ne_true)]
    case h_2 => rfl

/-- Looking up a key in an object is looking it up in its entries. -/
theorem Json.find?_eq_valueOf (key : String) (es : List (String × Json)) :
    Json.find? key es = Table.valueOf key es := by
  induction es with
  | nil => rfl
  | cons e rest ih =>
      unfold Json.find? Table.valueOf
      rw [ih]

namespace Field

-- ==================================================== the settings read

section given

variable {type : FieldType} {es : List (String × Json)}
  {given : List (Property × String)}

/-- Entries that are read keep their keys, each property standing where
its entry stood. -/
theorem map_key_given (h : es.mapM readEntry = .ok given) :
    given.map (fun e => e.1.key) = es.map Prod.fst := by
  have hR := mapM_eq_ok.1 h
  clear h
  induction hR with
  | nil => rfl
  | cons he _ ih =>
      rw [List.map_cons, List.map_cons, ih,
        Property.key_of_ofKey? (readEntry_eq_ok.1 he).1]

theorem nodup_given (h : es.mapM readEntry = .ok given)
    (hn : (es.map Prod.fst).Nodup) : (given.map Prod.fst).Nodup := by
  rw [← map_key_given h] at hn
  apply List.Nodup.of_map Property.key
  rw [List.map_map]
  exact hn

/-- What is read for a property is the text of the value under its key,
and nothing if there is no such key. -/
theorem valueOf_given (h : es.mapM readEntry = .ok given) (p : Property) :
    Table.valueOf p given
      = (Json.find? p.key es).bind p.canonical? := by
  have hR := mapM_eq_ok.1 h
  clear h
  induction hR with
  | nil => rfl
  | @cons e x rest xs he _ ih =>
      obtain ⟨q, c⟩ := x
      obtain ⟨hk, hc⟩ := readEntry_eq_ok.1 he
      have hkey := Property.key_of_ofKey? hk
      unfold Table.valueOf Json.find?
      by_cases hq : q = p
      · subst hq
        rw [if_pos rfl, if_pos hkey.symm]
        exact hc.symm
      · have hne : ¬ e.1 = p.key := fun he =>
          hq (Property.key_injective (hkey.trans he))
        rw [if_neg hq, if_neg hne, ih]

/-- The settings read are the texts of the values given, and under them
the flags that may be left out: what an entry says goes before what is
filled in. -/
theorem get?_filled (h : es.mapM readEntry = .ok given)
    (hn : (es.map Prod.fst).Nodup) (p : Property) :
    (filled type given).get? p
      = ((Json.find? p.key es).bind p.canonical?).or
          (Table.valueOf p (presumed type)) := by
  have hgiven := nodup_given h hn
  unfold filled
  rw [Table.entries_ofList hgiven, Table.get?_putAll_of_nodup _ hgiven,
    Table.get?_ofList (nodup_presumed type), valueOf_given h]

/-- The keys of the settings read: the flags that may be left out, and
then those of the other properties as they are given. It fixes the order
of the field that an entry describes. -/
theorem keys_filled (h : es.mapM readEntry = .ok given)
    (hn : (es.map Prod.fst).Nodup) :
    (filled type given).keys.map Property.key
      = (presumed type).map (fun e => e.1.key)
        ++ (es.map Prod.fst).filter
          fun k => k ∉ (presumed type).map fun e => e.1.key := by
  have hgiven := nodup_given h hn
  have hpresumed : (Table.ofList (presumed type)).keys
      = (presumed type).map Prod.fst := by
    unfold Table.keys
    rw [Table.entries_ofList (nodup_presumed type)]
  have hmem : ∀ q : Property, q ∈ (presumed type).map Prod.fst ↔
      q.key ∈ (presumed type).map fun e => e.1.key := by
    intro q
    rw [← List.mem_map_of_injective
      (f := Property.key) fun _ _ => Property.key_injective, List.map_map]
    rfl
  unfold filled
  rw [Table.entries_ofList hgiven, Table.keys_putAll _ hgiven, hpresumed,
    List.map_append, List.map_map, ← map_key_given h]
  have hmap : given.map (fun e => e.1.key)
      = (given.map Prod.fst).map Property.key := by
    rw [List.map_map]
    rfl
  rw [hmap, List.filter_map (f := Property.key)]
  simp only [hmem]
  rfl

end given

-- ===================================================== how reading ends

/-- The flags that are filled in if neither the entry nor the type sets
them, with their values. The engine leaves them out when they are as here.
-/
def fillIns : List (Property × String) :=
  [(.stored, "true"), (.indexed, "true"), (.multiValued, "false")]

/-- A field is the one that an entry describes: it has the name and the
type of the entry; every other key has set its property to the canonical
text of its value; a flag that neither the entry nor the type sets is
filled in; and there is nothing else. The flags come first, the other
properties follow as in the entry. -/
structure IsReadingOf (f : Field) (kind : FieldKind) (raw : RawEntry) :
    Prop where
  kind_eq : f.kind = kind
  name : rawValue .name raw = .str f.name
  admits : kind.entry.admits f.name = true
  type : rawValue .type raw = .str f.type.name
  type_mem : f.type ∈ FieldType.catalog
  fits : ∀ e ∈ ownEntries raw, Fits e
  written : ∀ p v, (p.key, v) ∈ ownEntries raw →
    f.settings.get? p = p.canonical? v
  filled : ∀ p c, (p, c) ∈ fillIns →
    p.key ∉ (ownEntries raw).map Prod.fst → f.type.get? p = none →
    f.settings.get? p = some c
  nothing : ∀ p, p.key ∉ (ownEntries raw).map Prod.fst →
    (∀ c, (p, c) ∈ fillIns → f.type.get? p ≠ none) →
    f.settings.get? p = none
  order : f.settings.keys.map Property.key
    = (presumed f.type).map (fun e => e.1.key)
      ++ ((ownEntries raw).map Prod.fst).filter
        fun k => k ∉ (presumed f.type).map fun e => e.1.key

/-- How reading an entry as a field of a kind ends. Each way rules out
those before it and says nothing of what else may be wrong. -/
inductive Reads (kind : FieldKind) (raw : RawEntry) :
    Except Fault Field → Prop where
  | unknownType
      (h : ∀ t ∈ FieldType.catalog, rawValue .type raw ≠ .str t.name) :
      Reads kind raw (.error (.unknownType (rawValue .type raw)))
  | unfit {type : FieldType} {before after : RawEntry}
      {e : String × Json} {fault : Fault}
      (htype : rawValue .type raw = .str type.name)
      (hmem : type ∈ FieldType.catalog)
      (hsplit : ownEntries raw = before ++ e :: after)
      (hbefore : ∀ b ∈ before, Fits b) (he : Unfit e fault) :
      Reads kind raw (.error fault)
  | invalidName {type : FieldType}
      (htype : rawValue .type raw = .str type.name)
      (hmem : type ∈ FieldType.catalog)
      (hfits : ∀ e ∈ ownEntries raw, Fits e)
      (hname : ∀ s, rawValue .name raw = .str s →
        kind.entry.admits s = false) :
      Reads kind raw
        (.error (.invalidName (rawValue .name raw) kind.entry))
  | read {f : Field} (h : f.IsReadingOf kind raw) :
      Reads kind raw (.ok f)

variable {kind : FieldKind} {raw : RawEntry} {f g : Field}

/-- An entry describes at most one field: name and type are given, and the
settings have the same keys in order and the same look-ups. -/
theorem IsReadingOf.unique (hf : f.IsReadingOf kind raw)
    (hg : g.IsReadingOf kind raw) : f = g := by
  have hname : f.name = g.name :=
    Json.str.inj (hf.name.symm.trans hg.name)
  have htype : f.type = g.type :=
    FieldType.eq_of_name_eq hf.type_mem hg.type_mem
      (Json.str.inj (hf.type.symm.trans hg.type))
  have hkeys : f.settings.keys = g.settings.keys := by
    apply List.map_injective_iff.2 fun _ _ => Property.key_injective
    rw [hf.order, hg.order, htype]
  have hget : ∀ p, f.settings.get? p = g.settings.get? p := by
    intro p
    by_cases hown : p.key ∈ (ownEntries raw).map Prod.fst
    · obtain ⟨⟨k, v⟩, hv, rfl⟩ := List.mem_map.1 hown
      rw [hf.written p v hv, hg.written p v hv]
    -- what is not written is filled in, or not there at all
    by_cases hopen : ∃ c, (p, c) ∈ fillIns ∧ f.type.get? p = none
    · obtain ⟨c, hc, hnone⟩ := hopen
      rw [hf.filled p c hc hown hnone,
        hg.filled p c hc hown (htype ▸ hnone)]
    · have hset : ∀ c, (p, c) ∈ fillIns → f.type.get? p ≠ none :=
        fun c hc hnone => hopen ⟨c, hc, hnone⟩
      rw [hf.nothing p hown hset, hg.nothing p hown (htype ▸ hset)]
  obtain ⟨fkind, fname, ftype, fsettings⟩ := f
  obtain ⟨gkind, gname, gtype, gsettings⟩ := g
  obtain rfl : fkind = gkind := hf.kind_eq.trans hg.kind_eq.symm
  obtain rfl : fname = gname := hname
  obtain rfl : ftype = gtype := htype
  obtain rfl : fsettings = gsettings := Table.ext_get? hkeys hget
  rfl

/-- What is read from an entry is the field that it describes. This is
where the settings are taken apart into what was given and what was filled
in. -/
theorem isReadingOf_of_ofWire (hkeys : (raw.map Prod.fst).Nodup)
    (h : ofWire kind raw = .ok f) : f.IsReadingOf kind raw := by
  obtain ⟨type, given, s, hmem, htype, hgiven, hname, hadmits, rfl⟩ :=
    ofWire_eq_ok.1 h
  have hn : ((ownEntries raw).map Prod.fst).Nodup :=
    hkeys.sublist (List.filter_sublist.map _)
  have hfits := exists_mapM_readEntry_eq_ok.1 ⟨given, hgiven⟩
  -- a look-up sees what is written, and where nothing is, what the type has
  have hget : ∀ p, (Field.filled type given).get? p
      = ((Json.find? p.key (ownEntries raw)).bind p.canonical?).or
          (Table.valueOf p (presumed type)) := get?_filled hgiven hn
  have hnone : ∀ p : Property, p.key ∉ (ownEntries raw).map Prod.fst →
      (Field.filled type given).get? p
        = Table.valueOf p (presumed type) := by
    intro p hp
    rw [hget, Json.find?_eq_valueOf, Table.valueOf_eq_none.2 hp]
    rfl
  exact {
    kind_eq := rfl
    name := hname
    admits := hadmits
    type := htype
    type_mem := hmem
    fits := hfits
    -- what the entry sets comes from the one entry of its key
    written := by
      intro p v hv
      obtain ⟨q, c, hq, hc⟩ := hfits _ hv
      obtain rfl := Property.key_injective hq
      show (Field.filled type given).get? q = _
      rw [hget, Json.find?_eq_valueOf, (Table.valueOf_eq_some hn).2 hv]
      show (q.canonical? v).or _ = _
      rw [hc]
      rfl
    -- an open flag that is not set is the one of the type
    filled := by
      intro p c hc hp hopen
      show (Field.filled type given).get? p = _
      rw [hnone p hp, Table.valueOf_eq_some (nodup_presumed type)]
      exact List.mem_filter.2 ⟨hc, Option.isNone_iff_eq_none.2 hopen⟩
    nothing := by
      intro p hp hset
      show (Field.filled type given).get? p = _
      rw [hnone p hp, Table.valueOf_eq_none]
      intro hpre
      obtain ⟨⟨q, c⟩, hq, rfl⟩ := List.mem_map.1 hpre
      obtain ⟨hc, hopen⟩ := List.mem_filter.1 hq
      exact hset c hc (Option.isNone_iff_eq_none.1 hopen)
    order := keys_filled hgiven hn }

/-- The field that an entry describes is what is read from it: each stage
passes, and there is no other field that it could give. -/
theorem ofWire_of_isReadingOf (hkeys : (raw.map Prod.fst).Nodup)
    (h : f.IsReadingOf kind raw) : ofWire kind raw = .ok f := by
  obtain ⟨given, hgiven⟩ := exists_mapM_readEntry_eq_ok.2 h.fits
  have hread := ofWire_eq_ok.2 ⟨f.type, given, f.name, h.type_mem, h.type,
    hgiven, h.name, h.admits, rfl⟩
  rw [hread, (isReadingOf_of_ofWire hkeys hread).unique h]

/-- What an entry is refused with, as one case for each stage of the
reading: a stage is reached if those before it passed. -/
theorem ofWire_eq_error {fault : Fault} :
    ofWire kind raw = .error fault ↔ Reads kind raw (.error fault) := by
  rw [ofWire_eq]
  constructor
  · intro h
    rcases bind_eq_error.1 h with htype | ⟨type, htype, h⟩
    · obtain ⟨hnone, rfl⟩ := FieldType.resolve_eq_error.1 htype
      exact .unknownType hnone
    obtain ⟨htype, hmem⟩ := FieldType.resolve_eq_ok.1 htype
    rcases bind_eq_error.1 h with hgiven | ⟨bag, hgiven, h⟩
    · obtain ⟨before, e, after, hsplit, hbefore, he⟩ :=
        mapM_readEntry_eq_error.1 (map_eq_error.1 hgiven)
      exact .unfit htype hmem hsplit hbefore he
    obtain ⟨given, hgiven, -⟩ := map_eq_ok.1 hgiven
    rcases bind_eq_error.1 h with hname | ⟨_, _, h⟩
    · obtain ⟨hnone, rfl⟩ := EntryKind.name_eq_error.1 hname
      exact .invalidName htype hmem
        (exists_mapM_readEntry_eq_ok.1 ⟨given, hgiven⟩) hnone
    · cases h
  · intro h
    cases h with
    | unknownType h =>
        exact bind_eq_error.2 (Or.inl
          (FieldType.resolve_eq_error.2 ⟨h, rfl⟩))
    | @unfit type _ _ _ _ htype hmem hsplit hbefore he =>
        refine bind_eq_error.2 (Or.inr ⟨type,
          FieldType.resolve_eq_ok.2 ⟨htype, hmem⟩, ?_⟩)
        exact bind_eq_error.2 (Or.inl (map_eq_error.2
          (mapM_readEntry_eq_error.2 ⟨_, _, _, hsplit, hbefore, he⟩)))
    | @invalidName type htype hmem hfits hname =>
        refine bind_eq_error.2 (Or.inr ⟨type,
          FieldType.resolve_eq_ok.2 ⟨htype, hmem⟩, ?_⟩)
        obtain ⟨given, hgiven⟩ := exists_mapM_readEntry_eq_ok.2 hfits
        exact bind_eq_error.2 (Or.inr ⟨_, map_eq_ok.2 ⟨_, hgiven, rfl⟩,
          bind_eq_error.2 (Or.inl
            (EntryKind.name_eq_error.2 ⟨hname, rfl⟩))⟩)

-- ==================================================== building it again

/-- A field read as `ofWire` does up to its name, and then built by
`make` from the settings that have been read. -/
def ofWireByMake (kind : FieldKind) (raw : RawEntry) :
    Except Fault Field := do
  let type ← FieldType.resolve (rawValue .type raw)
  let given ← Bag.ofWire (ownEntries raw)
  let settings := (Table.ofList (presumed type)).putAll given.entries
  make kind (rawValue .name raw) type
    (some (Overlay.ofTexts settings.entries))

/-- Building the field again from what has been read changes nothing,
neither the field nor the fault: the only check that is left to `make` is
that of the name. -/
theorem ofWireByMake_eq_ofWire (hraw : ∀ e ∈ raw, e.2.HasText) :
    ofWireByMake kind raw = ofWire kind raw := by
  rw [ofWire_eq]
  show (FieldType.resolve _ >>= fun type => Bag.ofWire _ >>= fun given =>
    make kind _ type _) = _
  congr 1
  funext type
  unfold Bag.ofWire
  cases hgiven : (ownEntries raw).mapM readEntry with
  | error fault => rfl
  | ok given =>
      exact make_settings (isCanonical_filled hgiven hraw)
        (notMem_keys_filled hgiven (Or.inl rfl))
        (notMem_keys_filled hgiven (Or.inr rfl)) kind _ type

/-- Reading an entry with distinct keys, all values of which have a text,
ends in one way only: the first of the four that applies. Whether the
field is built at once or by `make` makes no difference. -/
theorem ofWire_eq_iff (hkeys : (raw.map Prod.fst).Nodup)
    (hraw : ∀ e ∈ raw, e.2.HasText) (result : Except Fault Field) :
    (ofWire kind raw = result ↔ Reads kind raw result)
      ∧ (ofWireByMake kind raw = result ↔ Reads kind raw result) := by
  have hiff : ofWire kind raw = result ↔ Reads kind raw result := by
    cases result with
    | error fault => exact ofWire_eq_error
    | ok f =>
        constructor
        · intro h
          exact .read (isReadingOf_of_ofWire hkeys h)
        · intro h
          cases h with
          | read h => exact ofWire_of_isReadingOf hkeys h
  exact ⟨hiff, ofWireByMake_eq_ofWire hraw ▸ hiff⟩

/-- An entry whose name is no string, with a flag that is neither true nor
false and a property that does not exist: the flag decides. -/
theorem ofWire_eq_iff_misfit :
    ofWire .static [("name", .int 3), ("stored", .str "perhaps"),
        ("size", .null), ("type", .str "pint")]
      = .error (.invalidValue (.str "perhaps") .stored) := by
  refine (ofWire_eq_iff (by decide) (by decide +kernel) _).1.2 ?_
  have htype : FieldType.integer ∈ FieldType.catalog := by
    simp [FieldType.catalog]
  have hmisfit : Unfit ("stored", .str "perhaps")
      (.invalidValue (.str "perhaps") .stored) :=
    .misfit (p := .stored) (by decide +kernel)
  exact .unfit rfl htype (List.nil_append _).symm
    (List.forall_mem_nil _) hmisfit

end Field

end SchemaAudit
