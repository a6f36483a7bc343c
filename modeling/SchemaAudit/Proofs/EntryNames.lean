/-
What an entry is called. A field and a type are built from a name that
must fit the rule of their kind, and from properties. A field refuses
properties that set its name; the overrides of a type may set it, and
the last name among them, of whatever form, is the one that the type has
(`entryName_eq_ok`). So every field is called what was given, and a type
exactly if no override calls it anything else (`entryName_keeps_iff`).

# Overlays

An overlay is a row of keys and values, in which a property may come
more than once and a key may be no property at all. What a bag holds
once it is filled depends on the last value for each property
(`Overlay.get?_fill`), but whether it is filled depends on all of them:
the first that does not fit ends the building
(`Overlay.exists_fill_eq_ok`).

# Constructions

Both ways to build an entry are members of one type (`Construction`). A
construction permits its properties or does not (`Permits`), and says
what the entry comes to be called (`Calls`); the given name is checked
before any of this, and the name that is written over it is not checked
at all. `overrides_rename_type` is a type with a name that does not fit.
-/
import SchemaAudit.Proofs.Field.Refusal

namespace SchemaAudit

open Outcome

-- ============================================= the last value of a property

namespace Overlay

/-- The values that an overlay gives for a property, in order. A foreign
key gives none, whatever it looks like. -/
def valuesOf (p : Property) (o : Overlay) : List Json :=
  o.filterMap fun e => if e.1.same (.known p) then some e.2 else none

variable {p : Property} {o : Overlay} {key : OverlayKey} {value : Json}

/-- A key is the same as a property exactly if it is this property; no
foreign key is. -/
theorem same_known : key.same (.known p) = true ↔ key = .known p := by
  cases key with
  | known q =>
      show (q == p) = true ↔ _
      rw [beq_iff_eq, OverlayKey.known.injEq]
  | foreign key =>
      constructor
      · intro h
        cases h
      · intro h
        cases h

theorem valuesOf_cons_self :
    valuesOf p ((.known p, value) :: o) = value :: valuesOf p o := by
  unfold valuesOf
  rw [List.filterMap_cons, if_pos (same_known.2 rfl)]

theorem valuesOf_cons_of_ne (h : key ≠ .known p) :
    valuesOf p ((key, value) :: o) = valuesOf p o := by
  unfold valuesOf
  rw [List.filterMap_cons, if_neg fun hs => h (same_known.1 hs)]

/-- A value that is written takes the place of the first there is, and of
no other that may stand behind it. -/
theorem valuesOf_put_self :
    valuesOf p (o.put (.known p) value) = value :: (valuesOf p o).tail := by
  induction o with
  | nil => exact valuesOf_cons_self
  | cons e rest ih =>
      obtain ⟨key, old⟩ := e
      unfold put
      by_cases hk : key = .known p
      · subst hk
        rw [if_pos (same_known.2 rfl), valuesOf_cons_self,
          valuesOf_cons_self, List.tail_cons]
      · rw [if_neg fun hs => hk (same_known.1 hs), valuesOf_cons_of_ne hk,
          valuesOf_cons_of_ne hk, ih]

/-- Writing under another key leaves the values of a property alone. -/
theorem valuesOf_put_of_ne (h : key ≠ .known p) :
    valuesOf p (o.put key value) = valuesOf p o := by
  induction o with
  | nil => exact valuesOf_cons_of_ne h
  | cons e rest ih =>
      obtain ⟨old, v⟩ := e
      unfold put
      split
      case isTrue hs =>
          -- both keys are the same, so neither is the property
          have hold : old ≠ .known p := by
            rintro rfl
            cases key with
            | known q => exact h (congrArg _ (beq_iff_eq.1 hs).symm)
            | foreign key => cases hs
          rw [valuesOf_cons_of_ne hold, valuesOf_cons_of_ne hold]
      case isFalse hs =>
          by_cases hold : old = .known p
          · subst hold
            rw [valuesOf_cons_self, valuesOf_cons_self, ih]
          · rw [valuesOf_cons_of_ne hold, valuesOf_cons_of_ne hold, ih]

/-- Of the entries written over an overlay that gives a property at most
once, the last to give it counts. Where none does, the value stays that
was there. -/
theorem valuesOf_putAll {x : Option Json} (h : valuesOf p o = x.toList)
    (es : Overlay) :
    valuesOf p (o.putAll es)
      = ((valuesOf p es).getLast?.or x).toList := by
  induction es generalizing o x with
  | nil => exact h
  | cons e rest ih =>
      obtain ⟨key, value⟩ := e
      show valuesOf p (putAll (o.put key value) rest) = _
      by_cases hk : key = .known p
      · subst hk
        have hone : valuesOf p (o.put (.known p) value)
            = (some value).toList := by
          rw [valuesOf_put_self, h]
          cases x <;> rfl
        rw [ih hone, valuesOf_cons_self, List.getLast?_cons]
        cases (valuesOf p rest).getLast? <;> rfl
      · rw [ih ((valuesOf_put_of_ne hk).trans h), valuesOf_cons_of_ne hk]

/-- Whether each key of an overlay is a property that accepts the value
under it, also where a later entry replaces the value. -/
def AllFit (o : Overlay) : Prop :=
  ∀ e ∈ o, ∃ p c, e.1 = .known p ∧ p.canonical e.2 = .ok c

/-- If all entries fit, every value for a property is one that it accepts.
-/
theorem AllFit.canonical_eq_ok (h : o.AllFit) (hv : value ∈ valuesOf p o) :
    ∃ c, p.canonical value = .ok c := by
  obtain ⟨e, he, hsome⟩ := List.mem_filterMap.1 hv
  split at hsome
  case isTrue hs =>
      obtain ⟨q, c, hq, hc⟩ := h e he
      obtain rfl : q = p := OverlayKey.known.inj (hq.symm.trans
        (same_known.1 hs))
      exact ⟨c, Option.some.inj hsome ▸ hc⟩
  case isFalse => cases hsome

/-- A bag is filled exactly if all entries fit, whatever it held before. -/
theorem exists_fill_eq_ok {bag : Bag} :
    (∃ bag', o.fill bag = .ok bag') ↔ o.AllFit := by
  induction o generalizing bag with
  | nil => exact ⟨fun _ => List.forall_mem_nil _, fun _ => ⟨bag, rfl⟩⟩
  | cons e rest ih =>
      obtain ⟨key, value⟩ := e
      unfold AllFit
      rw [List.forall_mem_cons]
      constructor
      · intro h
        obtain ⟨bag', h⟩ := h
        cases key with
        | foreign key => cases h
        | known p =>
            obtain ⟨c, hc, h⟩ := bind_eq_ok.1 h
            exact ⟨⟨p, c, rfl, hc⟩, ih.1 ⟨bag', h⟩⟩
      · intro h
        obtain ⟨⟨p, c, rfl, hc⟩, hrest⟩ := h
        obtain ⟨bag', h⟩ := ih.2 hrest
        exact ⟨bag', bind_eq_ok.2 ⟨c, hc, h⟩⟩

/-- After a bag is filled, a property has the text of the last value that
is given for it, or else what it had. This is all that a filled bag
depends on. -/
theorem get?_fill {bag bag' : Bag} (h : o.fill bag = .ok bag')
    (p : Property) :
    bag'.get? p
      = ((valuesOf p o).getLast?.map p.canonical?).getD (bag.get? p) := by
  induction o generalizing bag with
  | nil =>
      injection h with h
      exact h ▸ rfl
  | cons e rest ih =>
      obtain ⟨key, value⟩ := e
      cases key with
      | foreign key => cases h
      | known q =>
          obtain ⟨c, hc, h⟩ := bind_eq_ok.1 h
          have hc := Property.canonical_eq_ok.1 hc
          -- a later value for the property, if there is one, overrides this
          rw [ih h, Table.get?_put]
          by_cases hq : q = p
          · subst hq
            rw [if_pos rfl, valuesOf_cons_self, List.getLast?_cons]
            cases (valuesOf q rest).getLast? with
            | none => exact hc.symm
            | some v => rfl
          · have hne : OverlayKey.known q ≠ .known p := fun he =>
              hq (OverlayKey.known.inj he)
            rw [if_neg (Ne.symm hq), valuesOf_cons_of_ne hne]

end Overlay

-- ======================================================= building entries

/-- What an entry is built from beside its name. A field has a type and
may have properties set; a type has a class, properties and a mark of
deprecation. -/
inductive Construction where
  | field (kind : FieldKind) (type : FieldType) (overlay : Option Overlay)
  | type (implementation : Json) (overrides : Overlay)
      (deprecated : Bool)

/-- A type is built exactly if its name fits and the class, with the
overrides written over it, fills the bag that holds the name; the bag is
then that of the type. -/
theorem FieldType.make_eq_ok {name implementation : Json}
    {overrides : Overlay} {deprecated : Bool} {t : FieldType} :
    FieldType.make name implementation overrides deprecated = .ok t ↔
      ∃ given bag, EntryKind.type.name name = .ok given
        ∧ (Overlay.putAll [(.known .implementation, implementation)]
            overrides).fill (Table.empty.put .name given) = .ok bag
        ∧ t = ⟨bag, deprecated⟩ := by
  unfold FieldType.make
  rw [bind_eq_ok]
  constructor
  · intro h
    obtain ⟨given, hgiven, h⟩ := h
    obtain ⟨bag, hbag, h⟩ := bind_eq_ok.1 h
    injection h with h
    exact ⟨given, bag, hgiven, hbag, h.symm⟩
  · intro h
    obtain ⟨given, bag, hgiven, hbag, rfl⟩ := h
    exact ⟨given, hgiven, bind_eq_ok.2 ⟨bag, hbag, rfl⟩⟩

namespace Construction

/-- The kind of the entry that is built. -/
def kind : Construction → EntryKind
  | .field kind _ _ => kind.entry
  | .type _ _ _ => .type

/-- The name of the entry that is built from a given name. -/
def entryName (name : Json) : Construction → Except Fault String
  | .field kind t overlay =>
      (Field.make kind name t overlay).map Field.name
  | .type implementation overrides deprecated =>
      (FieldType.make name implementation overrides deprecated).map
        FieldType.name

/-- The properties that are written into the entry. For a type its class
is the first of them, and may be overridden like any other. -/
def written : Construction → Overlay
  | .field _ _ overlay => Field.overlayOf overlay
  | .type implementation overrides _ =>
      Overlay.putAll [(.known .implementation, implementation)] overrides

/-- The name that is written over the given one: the last that the
overrides give. Nothing is written over the name of a field, whatever its
properties are, since one that sets it is not built. -/
def rename? : Construction → Option Json
  | .field _ _ _ => none
  | .type _ overrides _ => (Overlay.valuesOf .name overrides).getLast?

/-- Whether the properties can be written: they fit, and those of a field
set neither its name nor its type. -/
structure Permits (c : Construction) : Prop where
  allFit : c.written.AllFit
  free : c.kind ≠ .type →
    c.written.sets .name = false ∧ c.written.sets .type = false

/-- What an entry with a given name comes to be called: the name, unless
another is written over it. -/
inductive Calls (c : Construction) (given : String) : String → Prop where
  | kept (h : c.rename? = none) : Calls c given given
  | renamed {v : Json} {s : String} (h : c.rename? = some v)
      (hs : Property.name.canonical v = .ok s) : Calls c given s

section building

variable {name : Json} {given s : String}

/-- With no name written over it, an entry is called what was given, and
nothing else. -/
theorem calls_of_none {c : Construction} (h : c.rename? = none) :
    c.Calls given s ↔ given = s := by
  constructor
  · intro hcalls
    cases hcalls with
    | kept => rfl
    | renamed hv => exact nomatch h.symm.trans hv
  · intro hs
    exact hs ▸ .kept h

/-- With a name written over it, an entry is called this name, whatever
was given. -/
theorem calls_of_some {c : Construction} {v : Json} {text : String}
    (h : c.rename? = some v) (hv : Property.name.canonical v = .ok text) :
    c.Calls given s ↔ text = s := by
  constructor
  · intro hcalls
    cases hcalls with
    | kept hnone => exact nomatch h.symm.trans hnone
    | renamed hw hs =>
        obtain rfl := Option.some.inj (h.symm.trans hw)
        exact Except.ok.inj (hv.symm.trans hs)
  · intro hs
    exact hs ▸ .renamed h hv

/-- A field is called what was given. It is built exactly if the name fits
the kind and the properties may be written, which excludes a name among
them. -/
theorem entryName_field_eq_ok {kind : FieldKind} {t : FieldType}
    {overlay : Option Overlay} :
    (field kind t overlay).entryName name = .ok s ↔
      kind.entry.name name = .ok s ∧ (field kind t overlay).Permits := by
  have hkind : (field kind t overlay).kind ≠ .type := by
    cases kind
    · exact EntryKind.noConfusion
    · exact EntryKind.noConfusion
  show (Field.make kind name t overlay).map Field.name = .ok s ↔ _
  rw [map_eq_ok]
  constructor
  · intro h
    obtain ⟨f, hf, rfl⟩ := h
    obtain ⟨hn, ht, given, settings, hgiven, hfill, rfl⟩ :=
      Field.make_eq_ok.1 hf
    exact ⟨hgiven, Overlay.exists_fill_eq_ok.1 ⟨settings, hfill⟩,
      fun _ => ⟨hn, ht⟩⟩
  · intro h
    obtain ⟨hgiven, hfit, hfree⟩ := h
    obtain ⟨hn, ht⟩ := hfree hkind
    obtain ⟨settings, hfill⟩ := Overlay.exists_fill_eq_ok.2 hfit
    exact ⟨⟨kind, s, t, settings⟩, Field.make_eq_ok.2
      ⟨hn, ht, s, settings, hgiven, hfill, rfl⟩, rfl⟩

/-- Under the class and the overrides of a type, only its last name is
one, since an override replaces what was written before it. -/
theorem valuesOf_written {implementation : Json} {overrides : Overlay}
    {deprecated : Bool} :
    Overlay.valuesOf .name (type implementation overrides deprecated).written
      = (type implementation overrides deprecated).rename?.toList := by
  have hclass : Overlay.valuesOf .name
      [(.known .implementation, implementation)] = none.toList :=
    Overlay.valuesOf_cons_of_ne fun h => nomatch OverlayKey.known.inj h
  show Overlay.valuesOf .name (Overlay.putAll _ overrides) = _
  rw [Overlay.valuesOf_putAll hclass, Option.or_none]
  rfl

/-- The name in the bag that a type is built with is what the type comes
to be called: the bag begins with the given name, and the overrides are
written behind it. -/
theorem calls_of_fill {implementation : Json} {overrides : Overlay}
    {deprecated : Bool} {bag : Bag}
    (h : (type implementation overrides deprecated).written.fill
      (Table.empty.put .name given) = .ok bag) :
    (type implementation overrides deprecated).Calls given s ↔
      FieldType.name ⟨bag, deprecated⟩ = s := by
  have hget := Overlay.get?_fill h .name
  have hfit := Overlay.exists_fill_eq_ok.1 ⟨bag, h⟩
  show _ ↔ (bag.get? .name).getD "" = s
  cases hr : (type implementation overrides deprecated).rename? with
  | none =>
      rw [valuesOf_written, hr] at hget
      rw [calls_of_none hr, hget]
      rfl
  | some v =>
      have hmem : v ∈ Overlay.valuesOf .name
          (type implementation overrides deprecated).written := by
        rw [valuesOf_written, hr]
        exact List.mem_singleton_self v
      obtain ⟨text, hv⟩ := hfit.canonical_eq_ok hmem
      rw [valuesOf_written, hr] at hget
      have hname : bag.get? .name = some text :=
        hget.trans (Property.canonical_eq_ok.1 hv)
      rw [calls_of_some hr hv, hname]
      rfl

/-- A type is called what was given, or what its overrides call it. Only
the given name has to fit the rule. -/
theorem entryName_type_eq_ok {implementation : Json} {overrides : Overlay}
    {deprecated : Bool} :
    (type implementation overrides deprecated).entryName name = .ok s ↔
      ∃ given, EntryKind.type.name name = .ok given
        ∧ (type implementation overrides deprecated).Permits
        ∧ (type implementation overrides deprecated).Calls given s := by
  show (FieldType.make name implementation overrides deprecated).map
    FieldType.name = .ok s ↔ _
  rw [map_eq_ok]
  constructor
  · intro h
    obtain ⟨t, ht, hs⟩ := h
    obtain ⟨given, bag, hgiven, hfill, rfl⟩ := FieldType.make_eq_ok.1 ht
    exact ⟨given, hgiven, ⟨Overlay.exists_fill_eq_ok.1 ⟨bag, hfill⟩,
      fun hne => absurd rfl hne⟩, (calls_of_fill hfill).2 hs⟩
  · intro h
    obtain ⟨given, hgiven, hpermits, hcalls⟩ := h
    obtain ⟨bag, hfill⟩ := Overlay.exists_fill_eq_ok.2 hpermits.allFit
    exact ⟨⟨bag, deprecated⟩, FieldType.make_eq_ok.2
      ⟨given, bag, hgiven, hfill, rfl⟩, (calls_of_fill hfill).1 hcalls⟩

/-- What building an entry succeeds with, and when: the given name is a
string that fits the rule of the kind, the properties may be written, and
the result is what these call the entry. -/
theorem entryName_eq_ok {c : Construction} :
    c.entryName name = .ok s ↔
      ∃ given, name = .str given ∧ c.kind.admits given = true
        ∧ c.Permits ∧ c.Calls given s := by
  cases c with
  | field kind t overlay =>
      rw [entryName_field_eq_ok, EntryKind.name_eq_ok]
      constructor
      · intro h
        obtain ⟨⟨hs, hadm⟩, hpermits⟩ := h
        exact ⟨s, hs, hadm, hpermits, .kept rfl⟩
      · intro h
        obtain ⟨given, hgiven, hadm, hpermits, hcalls⟩ := h
        obtain rfl := (calls_of_none rfl).1 hcalls
        exact ⟨⟨hgiven, hadm⟩, hpermits⟩
  | type implementation overrides deprecated =>
      simp only [entryName_type_eq_ok, EntryKind.name_eq_ok, and_assoc]
      rfl

end building

-- ============================================== when the given name stays

/-- Whether no other name is written over a given one. The same name may
be written over it, as its own text. -/
def KeepsName (c : Construction) (given : String) : Prop :=
  ∀ v, c.rename? = some v → Property.name.canonical v = .ok given

/-- Over the name of a field nothing is written, since its properties may
not set it. -/
theorem keepsName_of_kind_ne {c : Construction} (h : c.kind ≠ .type)
    (given : String) : c.KeepsName given := by
  intro v hv
  cases c with
  | field => cases hv
  | type => exact absurd rfl h

/-- An entry is called what was given exactly if nothing else is written
over the name. -/
theorem Calls.eq_iff {c : Construction} {given s : String}
    (h : c.Calls given s) : s = given ↔ c.KeepsName given := by
  unfold KeepsName
  cases h with
  | kept hnone => simp [hnone]
  | renamed hv hs => simp [hv, hs]

/-- A name that does not fit the rule of the kind builds nothing. An entry
that is built was given a name that fits, and has this name exactly if
nothing else is written over it; over the name of a field nothing ever
is. -/
theorem entryName_keeps_iff (c : Construction) (name : Json) :
    ((∀ given, name = .str given → c.kind.admits given = false) →
        ∃ fault, c.entryName name = .error fault)
      ∧ (c.kind ≠ .type → ∀ given, c.KeepsName given)
      ∧ ∀ s, c.entryName name = .ok s →
          ∃ given, name = .str given ∧ c.kind.admits given = true
            ∧ c.Calls given s
            ∧ (s = given ∧ c.kind.admits s = true ↔
                c.KeepsName given) := by
  refine ⟨fun h => ?_, fun h => keepsName_of_kind_ne h, fun s h => ?_⟩
  · cases hc : c.entryName name with
    | error fault => exact ⟨fault, rfl⟩
    | ok s =>
        obtain ⟨given, hgiven, hadm, -⟩ := entryName_eq_ok.1 hc
        exact nomatch hadm.symm.trans (h given hgiven)
  · obtain ⟨given, hgiven, hadm, -, hcalls⟩ := entryName_eq_ok.1 h
    refine ⟨given, hgiven, hadm, hcalls, ?_⟩
    rw [← hcalls.eq_iff]
    exact ⟨And.left, fun heq => ⟨heq, heq ▸ hadm⟩⟩

/-- A type whose overrides give the name once more, between two of its
flags, keeps it; without a name that fits, there is no such type. -/
theorem entryName_keeps_iff_given_twice :
    let c : Construction := .type (.str "solr.StrField")
      [(.known .stored, .bool true), (.known .name, .str "custom"),
        (.known .indexed, .bool false)] false
    (∃ fault, c.entryName (.str "1 custom") = .error fault)
      ∧ c.entryName (.str "custom") = .ok "custom"
      ∧ c.KeepsName "custom" := by
  intro c
  have hnot : ∀ given, Json.str "1 custom" = .str given →
      c.kind.admits given = false := by
    rintro _ ⟨⟩
    decide
  have hbuilt : c.entryName (.str "custom") = .ok "custom" := rfl
  obtain ⟨given, hgiven, -, -, hkeeps⟩ :=
    (entryName_keeps_iff c (.str "custom")).2.2 "custom" hbuilt
  obtain rfl := Json.str.inj hgiven
  exact ⟨(entryName_keeps_iff c (.str "1 custom")).1 hnot, hbuilt,
    hkeeps.1 ⟨rfl, by decide⟩⟩

/-- A type that is given a name that fits, and is called another that does
not. -/
theorem overrides_rename_type :
    (Construction.type (.str "solr.StrField")
        [(.known .name, .str "1 bad name")] false).entryName (.str "custom")
      = .ok "1 bad name"
      ∧ EntryKind.type.admits "custom" = true
      ∧ EntryKind.type.admits "1 bad name" = false := by
  refine ⟨rfl, ?_, ?_⟩
  · decide
  · decide

end Construction

end SchemaAudit
