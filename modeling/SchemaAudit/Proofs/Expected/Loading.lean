/-
What a new cache is loaded with.

# One definition

A metadata field is built unless its type is not supported or its name
is none for a static field (`Definition.field?_eq_error`). `Passes` and
`Fails` say this of the definition: it passes, or it fails in one way
(`passes_or_fails`), so that what is shown in either case is an
equivalence. A definition that is not indexed passes whatever its name
is.

# All definitions

The first in name order that cannot be built stops a load, and only if
every one is built, a field of several values that meets a full-text
field of one does (`LoadFails`). All fields are built before the first
copy, hence the two stages. When nothing fails is said of the
definitions in any order (`exists_yield_iff`), which one fails depends
on the order.

# The cache

Otherwise the cache holds, behind the full-text field, one field for
each indexed name and one copy of each, in ascending order, made from
the first definition of the name as the catalog has them (`load_new`). A
new cache that was loaded once was given just the fields of that catalog
(`given_load`), and as these stand in name order, keeping the first of
each name leaves the names in strictly ascending order (`lists_firsts`).
Sorting is stable, so the first in name order is the first as listed.
-/
import SchemaAudit.Proofs.Expected.Coherence
import SchemaAudit.Proofs.Sorted

namespace SchemaAudit

open Outcome

-- ================================================== one metadata field

namespace Definition

/-- The field of a metadata field that is built. -/
def field (d : Definition) : Field :=
  ⟨.static, d.name, FieldType.textEn, Table.ofList d.preset.settings⟩

/-- What keeps the field of a metadata field from being built: two
declared types have no field type yet, and a name may break the rule of
static fields. Fields declared as addresses are not indexed, and their
names are never looked at. -/
inductive Fails : Definition → Fault → Prop where
  | int {d : Definition} (h : d.type = .int) :
      Fails d (.unsupportedType "pint" d.name)
  | float {d : Definition} (h : d.type = .float) :
      Fails d (.unsupportedType "pfloat" d.name)
  | name {d : Definition} (hint : d.type ≠ .int)
      (hfloat : d.type ≠ .float) (hemail : d.type ≠ .email)
      (h : EntryKind.static.admits d.name = false) :
      Fails d (.invalidName (.str d.name) .static)

/-- Nothing keeps the field of a metadata field from being built, if it is
indexed at all. -/
structure Passes (d : Definition) : Prop where
  not_int : d.type ≠ .int
  not_float : d.type ≠ .float
  admits : d.type ≠ .email → EntryKind.static.admits d.name = true

instance (d : Definition) : Decidable d.Passes :=
  decidable_of_iff (d.type ≠ .int ∧ d.type ≠ .float
      ∧ (d.type ≠ .email → EntryKind.static.admits d.name = true))
    ⟨fun h => ⟨h.1, h.2.1, h.2.2⟩,
      fun h => ⟨h.not_int, h.not_float, h.admits⟩⟩

/-- The flags of a metadata field are taken over as they are, so nothing
can go wrong in building it but its name. -/
theorem make_preset (d : Definition) :
    Field.make .static (.str d.name) FieldType.textEn
        (some (Overlay.ofTexts d.preset.settings))
      = EntryKind.static.name (.str d.name) >>= fun s =>
          .ok ⟨.static, s, FieldType.textEn,
            Table.ofList d.preset.settings⟩ := by
  have hall : ∀ preset : Preset,
      (preset.settings.map Prod.fst).Nodup
        ∧ Property.name ∉ preset.settings.map Prod.fst
        ∧ Property.type ∉ preset.settings.map Prod.fst
        ∧ ∀ e ∈ preset.settings, e.1.IsCanonical e.2 := by
    intro preset
    cases preset <;> decide +kernel
  obtain ⟨hnodup, hn, ht, hcanon⟩ := hall d.preset
  have hentries := Table.entries_ofList hnodup
  have hsettings :
      Bag.IsCanonical (Table.ofList d.preset.settings) :=
    fun p v hv => hcanon (p, v) (Table.mem_of_mem_ofList
      ((Table.mem_entries _).2 hv))
  have hmake := Field.make_settings hsettings
    (by unfold Table.keys; rw [hentries]; exact hn)
    (by unfold Table.keys; rw [hentries]; exact ht)
    .static (.str d.name) FieldType.textEn
  rw [hentries] at hmake
  exact hmake

/-- What becomes of a metadata field, as one case distinction: it is
skipped, its type is not supported, its field is built, or its name is
refused. -/
theorem field?_eq (d : Definition) :
    d.field?
      = if d.type = .email then .ok none
        else if d.type = .int then
          .error (.unsupportedType "pint" d.name)
        else if d.type = .float then
          .error (.unsupportedType "pfloat" d.name)
        else if EntryKind.static.admits d.name then .ok (some d.field)
        else .error (.invalidName (.str d.name) .static) := by
  have htext : d.type.indexType? = some FieldType.textEn →
      d.field? = if EntryKind.static.admits d.name
        then .ok (some d.field)
        else .error (.invalidName (.str d.name) .static) := by
    intro h
    have hsupported : FieldType.textEn.isSupported = true := by decide
    unfold field?
    simp only [h, hsupported, if_true, make_preset]
    show ((if EntryKind.static.admits d.name then Except.ok d.name
      else Except.error _) >>= _).map some = _
    split
    case isTrue => rfl
    case isFalse => rfl
  obtain ⟨name, type, multiple⟩ := d
  cases type with
  | email => rfl
  | int => rfl
  | float => rfl
  | _ => exact htext rfl

/-- A definition that passes has its field, or none if it is not indexed.
-/
theorem field?_of_passes {d : Definition} (h : d.Passes) :
    d.field?
      = .ok (if d.type = .email then none else some d.field) := by
  rw [field?_eq]
  by_cases hemail : d.type = .email
  · rw [if_pos hemail, if_pos hemail]
  · rw [if_neg hemail, if_neg h.not_int, if_neg h.not_float,
      if_pos (h.admits hemail), if_neg hemail]

theorem field?_of_fails {d : Definition} {fault : Fault}
    (h : d.Fails fault) : d.field? = .error fault := by
  rw [field?_eq]
  cases h with
  | int h => rw [if_neg (by rw [h]; decide), if_pos h]
  | float h =>
      rw [if_neg (by rw [h]; decide), if_neg (by rw [h]; decide),
        if_pos h]
  | name hint hfloat hemail h =>
      rw [if_neg hemail, if_neg hint, if_neg hfloat,
        if_neg (Bool.eq_false_iff.1 h)]

/-- Nothing keeps a field from being built, or one thing does. With it the
two implications above are equivalences. -/
theorem passes_or_fails (d : Definition) :
    d.Passes ∨ ∃ fault, d.Fails fault := by
  by_cases hint : d.type = .int
  · exact Or.inr ⟨_, .int hint⟩
  by_cases hfloat : d.type = .float
  · exact Or.inr ⟨_, .float hfloat⟩
  by_cases hname :
      d.type ≠ .email → EntryKind.static.admits d.name = true
  · exact Or.inl ⟨hint, hfloat, hname⟩
  · obtain ⟨hemail, hadmits⟩ := Classical.not_imp.1 hname
    exact Or.inr ⟨_, .name hint hfloat hemail
      (Bool.eq_false_iff.2 hadmits)⟩

/-- A definition is refused with a fault exactly if it fails with it. -/
theorem field?_eq_error {d : Definition} {fault : Fault} :
    d.field? = .error fault ↔ d.Fails fault := by
  refine ⟨fun h => ?_, field?_of_fails⟩
  rcases passes_or_fails d with hpasses | ⟨other, hfails⟩
  · rw [field?_of_passes hpasses] at h
    cases h
  · rw [field?_of_fails hfails] at h
    injection h with h
    exact h ▸ hfails

/-- A definition has a result exactly if it passes, and then its field, or
none. -/
theorem field?_eq_ok {d : Definition} {built : Option Field} :
    d.field? = .ok built ↔
      d.Passes ∧ built = if d.type = .email then none else some d.field := by
  constructor
  · intro h
    rcases passes_or_fails d with hpasses | ⟨other, hfails⟩
    · rw [field?_of_passes hpasses] at h
      injection h with h
      exact ⟨hpasses, h.symm⟩
    · rw [field?_of_fails hfails] at h
      cases h
  · intro h
    obtain ⟨hpasses, rfl⟩ := h
    exact field?_of_passes hpasses

/-- The field of a definition: named after it, of analyzed text, stored
and indexed, and of several values if the definition says so. -/
structure Describes (d : Definition) (f : Field) : Prop where
  kind : f.kind = .static
  name : f.name = d.name
  type : f.type = FieldType.textEn
  stored : f.effective .stored = some "true"
  indexed : f.effective .indexed = some "true"
  multiValued : f.effective .multiValued = some (flagText d.multiple)

/-- The field of a definition is what the definition describes: the flags
that it sets are in effect. -/
theorem describes_field (d : Definition) : d.Describes d.field := by
  obtain ⟨name, type, multiple⟩ := d
  cases multiple with
  | true => exact ⟨rfl, rfl, rfl, rfl, rfl, rfl⟩
  | false => exact ⟨rfl, rfl, rfl, rfl, rfl, rfl⟩

/-- The field of a definition holds several values exactly if the
definition says so. -/
theorem isMultivalued_field (d : Definition) :
    d.field.isMultivalued = d.multiple := by
  unfold Field.isMultivalued
  rw [(describes_field d).multiValued]
  cases d.multiple <;> rfl

-- ===================================================== all definitions

/-- The definitions that are indexed. -/
def indexed (ds : List Definition) : List Definition :=
  ds.filter fun d => d.type ≠ .email

/-- A definition is built exactly if it passes. -/
theorem exists_field?_eq_ok {d : Definition} :
    (∃ built, d.field? = .ok built) ↔ d.Passes := by
  simp only [field?_eq_ok, exists_and_left, exists_eq, and_true]

/-- Definitions are built together exactly if each of them passes, in
whichever order they stand. -/
theorem exists_mapM_field? {ds : List Definition} :
    (∃ built, ds.mapM field? = .ok built) ↔ ∀ d ∈ ds, d.Passes := by
  rw [exists_mapM_iff]
  simp only [exists_field?_eq_ok]

/-- The fields built are those of the indexed definitions, in order. -/
theorem fields_of_mapM {ds : List Definition} {built : List (Option Field)}
    (h : ds.mapM field? = .ok built) :
    built.reduceOption = (indexed ds).map field := by
  have hR := mapM_eq_ok.1 h
  clear h
  induction hR with
  | nil => rfl
  | @cons d x rest xs hd _ ih =>
      obtain ⟨-, rfl⟩ := field?_eq_ok.1 hd
      unfold indexed
      by_cases hemail : d.type = .email
      · rw [if_pos hemail, List.filter_cons_of_neg (by simpa using hemail),
          List.reduceOption_cons_of_none]
        exact ih
      · rw [if_neg hemail, List.filter_cons_of_pos (by simpa using hemail),
          List.reduceOption_cons_of_some, List.map_cons]
        exact congrArg _ ih

/-- Definitions stop at the first whose field cannot be built; those
before it pass, those behind it are not looked at. -/
theorem mapM_field?_eq_error {ds : List Definition} {fault : Fault} :
    ds.mapM field? = .error fault ↔
      ∃ before d after, ds = before ++ d :: after
        ∧ (∀ b ∈ before, b.Passes) ∧ d.Fails fault := by
  rw [mapM_eq_error]
  simp only [exists_field?_eq_ok, field?_eq_error]

end Definition

-- ============================================================= catalogs

/-- Why a load fails: because of the first definition in name order whose
field cannot be built; or, if there is none, because of the first of
several values, if the full-text field holds one. -/
inductive LoadFails (fullText : Field) (sorted : List Definition) :
    BuildFault → Prop where
  | unbuilt {before after : List Definition} {d : Definition}
      {fault : Fault} (hsplit : sorted = before ++ d :: after)
      (hbefore : ∀ b ∈ before, b.Passes) (hd : d.Fails fault) :
      LoadFails fullText sorted (.entry fault)
  | uncopied {before after : List Definition} {d : Definition}
      (hpasses : ∀ d ∈ sorted, d.Passes)
      (hsplit : Definition.indexed sorted = before ++ d :: after)
      (hbefore : ∀ b ∈ before, b.multiple = false)
      (hd : d.multiple = true) (hsingle : fullText.isMultivalued = false) :
      LoadFails fullText sorted
        (.entry (.singleValuedDest fullText.name d.name))

section

variable {catalog : Catalog} {fullText : Field} {m : Nat}
variable {sorted : List Definition}

/-- What becomes of the copy of a metadata field: only several values that
meet a full-text field of one can keep it from being built, given a
full-text field that is static and a positive limit. -/
theorem make_copy (hstatic : fullText.kind = .static) (hm : 1 ≤ m)
    (d : Definition) :
    CopyField.make (.field d.field) (.field fullText) (.int m)
      = if d.multiple = true ∧ fullText.isMultivalued = false then
          .error (.singleValuedDest fullText.name d.name)
        else .ok ⟨d.field, fullText, m⟩ := by
  have hdest : fullText.isWildcard = false := by
    unfold Field.isWildcard
    rw [hstatic]
    rfl
  show CopyField.ofFields _ _ _ = _
  rw [CopyField.ofFields_eq, Definition.isMultivalued_field, hdest,
    CopyField.limit_eq_ok.2 ⟨hm, rfl⟩]
  cases d.multiple <;> cases fullText.isMultivalued <;> rfl

/-- A copy cannot be built exactly if several values meet a full-text
field of one. -/
theorem make_copy_eq_error (hstatic : fullText.kind = .static)
    (hm : 1 ≤ m) {d : Definition} {fault : Fault} :
    CopyField.make (.field d.field) (.field fullText) (.int m)
        = .error fault ↔
      (d.multiple = true ∧ fullText.isMultivalued = false)
        ∧ fault = .singleValuedDest fullText.name d.name := by
  rw [make_copy hstatic hm]
  split
  case isTrue h => rw [and_iff_right h, Except.error.injEq, eq_comm]
  case isFalse h => simp [h]

/-- A copy can be built unless several values meet a full-text field of
one. -/
theorem exists_make_copy (hstatic : fullText.kind = .static)
    (hm : 1 ≤ m) {d : Definition} :
    (∃ copy, CopyField.make (.field d.field) (.field fullText) (.int m)
        = .ok copy) ↔
      (d.multiple = true → fullText.isMultivalued = true) := by
  rw [make_copy hstatic hm]
  split
  case isTrue h => simp [h]
  case isFalse h => simpa using h

/-- What a catalog gives, stage by stage, once its definitions are known.
-/
theorem yield_eq (h : catalog.definitions = .ok sorted)
    (maxChars : Json) :
    catalog.yield fullText maxChars
      = (sorted.mapM Definition.field?).mapError .entry >>= fun built =>
          (built.reduceOption.mapM fun f =>
            CopyField.make (.field f) (.field fullText)
              maxChars).mapError .entry >>= fun copies =>
            .ok (built.reduceOption, copies) := by
  unfold Catalog.yield
  rw [h]
  rfl

/-- Why a catalog gives nothing: the first definition that fails, or the
first copy that cannot be built. -/
theorem yield_eq_error (h : catalog.definitions = .ok sorted)
    (hstatic : fullText.kind = .static) (hm : 1 ≤ m)
    {fault : BuildFault} :
    catalog.yield fullText (.int m) = .error fault ↔
      LoadFails fullText sorted fault := by
  rw [yield_eq h]
  constructor
  · intro hy
    rcases bind_eq_error.1 hy with hbuilt | ⟨built, hbuilt, hy⟩
    · obtain ⟨e, he, rfl⟩ := mapError_eq_error.1 hbuilt
      obtain ⟨before, d, after, hsplit, hbefore, hd⟩ :=
        Definition.mapM_field?_eq_error.1 he
      exact .unbuilt hsplit hbefore hd
    -- all definitions pass, so that it is a copy field that fails
    have hbuilt := mapError_eq_ok.1 hbuilt
    rw [Definition.fields_of_mapM hbuilt] at hy
    rcases bind_eq_error.1 hy with hcopies | ⟨_, _, hy⟩
    · obtain ⟨e, he, rfl⟩ := mapError_eq_error.1 hcopies
      rw [List.mapM_map] at he
      obtain ⟨before, d, after, hsplit, hbefore, hd⟩ :=
        mapM_eq_error.1 he
      obtain ⟨⟨hmultiple, hsingle⟩, rfl⟩ :=
        (make_copy_eq_error hstatic hm).1 hd
      refine .uncopied
        (Definition.exists_mapM_field?.1 ⟨built, hbuilt⟩) hsplit
        (fun b hb => ?_) hmultiple hsingle
      have hcopy := (exists_make_copy hstatic hm).1 (hbefore b hb)
      rw [hsingle] at hcopy
      exact Bool.eq_false_iff.2 fun hmult => Bool.false_ne_true (hcopy hmult)
    · cases hy
  · intro hfails
    cases hfails with
    | unbuilt hsplit hbefore hd =>
        exact bind_eq_error.2 (Or.inl (mapError_eq_error.2 ⟨_,
          Definition.mapM_field?_eq_error.2
            ⟨_, _, _, hsplit, hbefore, hd⟩, rfl⟩))
    | @uncopied before after d hpasses hsplit hbefore hmultiple hsingle =>
        obtain ⟨built, hbuilt⟩ := Definition.exists_mapM_field?.2 hpasses
        refine bind_eq_error.2 (Or.inr ⟨built, mapError_eq_ok.2 hbuilt,
          bind_eq_error.2 (Or.inl (mapError_eq_error.2 ⟨_, ?_, rfl⟩))⟩)
        rw [Definition.fields_of_mapM hbuilt, List.mapM_map]
        refine mapM_eq_error.2 ⟨before, d, after, hsplit,
          fun b hb => (exists_make_copy hstatic hm).2 fun hmult => ?_,
          (make_copy_eq_error hstatic hm).2
            ⟨⟨hmultiple, hsingle⟩, rfl⟩⟩
        rw [hbefore b hb] at hmult
        cases hmult

/-- When a catalog gives something: all definitions pass, and those of
several values find a full-text field of several. -/
theorem exists_yield_iff (h : catalog.definitions = .ok sorted)
    (hstatic : fullText.kind = .static) (hm : 1 ≤ m) :
    (∃ given, catalog.yield fullText (.int m) = .ok given) ↔
      (∀ d ∈ sorted, d.Passes)
        ∧ ∀ d ∈ Definition.indexed sorted, d.multiple = true →
          fullText.isMultivalued = true := by
  constructor
  · intro hy
    obtain ⟨⟨fields, copies⟩, hy⟩ := hy
    obtain ⟨ds, built, hds, hbuilt, rfl, hmade⟩ :=
      Catalog.yield_eq_ok.1 hy
    obtain rfl : sorted = ds := Except.ok.inj (h.symm.trans hds)
    rw [Definition.fields_of_mapM hbuilt, List.mapM_map] at hmade
    exact ⟨Definition.exists_mapM_field?.1 ⟨built, hbuilt⟩,
      fun d hd => (exists_make_copy hstatic hm).1
        (exists_mapM_iff.1 ⟨copies, hmade⟩ d hd)⟩
  · intro hpasses
    obtain ⟨hpasses, hmultiple⟩ := hpasses
    obtain ⟨built, hbuilt⟩ := Definition.exists_mapM_field?.2 hpasses
    obtain ⟨copies, hmade⟩ := exists_mapM_iff.2 fun d hd =>
      (exists_make_copy hstatic hm).2 (hmultiple d hd)
    refine ⟨(built.reduceOption, copies), Catalog.yield_eq_ok.2
      ⟨sorted, built, h, hbuilt, rfl, ?_⟩⟩
    rw [Definition.fields_of_mapM hbuilt, List.mapM_map]
    exact hmade

/-- The fields that a catalog gives are those of the indexed definitions,
in name order. -/
theorem fields_of_yield (h : catalog.definitions = .ok sorted)
    {maxChars : Json} {fields : List Field} {copies : List CopyField}
    (hy : catalog.yield fullText maxChars = .ok (fields, copies)) :
    fields = (Definition.indexed sorted).map Definition.field := by
  obtain ⟨ds, built, hds, hbuilt, rfl, -⟩ := Catalog.yield_eq_ok.1 hy
  obtain rfl : sorted = ds := Except.ok.inj (h.symm.trans hds)
  exact Definition.fields_of_mapM hbuilt

end

-- ============================================================= the cache

/-- Whether a name is that of an indexed definition. -/
def Definition.Names (ds : List Definition) (name : String) : Prop :=
  ∃ d ∈ ds, d.type ≠ .email ∧ d.name = name

/-- The first indexed definition of a name. -/
def Definition.first? (ds : List Definition) (name : String) :
    Option Definition :=
  ds.find? fun d => d.name = name ∧ d.type ≠ .email

namespace Cache

/-- What a new cache holds that was loaded with definitions: the full-text
field, a field for each other indexed name, and a copy of each indexed
name into the full-text field, in ascending order of the names. Field and
source are those of the first definition of the name. -/
structure IsLoadedWith (c : Cache) (fullText : Field) (m : Nat)
    (ds : List Definition) : Prop where
  isLoaded : c.isLoaded = true
  dynamics : c.content.dynamics = Table.empty
  statics : ∃ names,
    Lists names (fun name =>
      name ≠ fullText.name ∧ Definition.Names ds name)
      ∧ c.content.statics.keys = fullText.name :: names
  copies : ∃ names, Lists names (Definition.Names ds)
    ∧ c.content.copyKeys = names.map fun name => (name, fullText.name)
  fullText_eq : c.content.statics.get? fullText.name = some fullText
  field : ∀ name f, name ≠ fullText.name →
    c.content.statics.get? name = some f →
    ∃ d, Definition.first? ds name = some d ∧ d.Describes f
  copy : ∀ copy ∈ c.content.copies,
    copy.dest = fullText ∧ copy.maxChars = m
      ∧ ∃ d, Definition.first? ds copy.source.name = some d
        ∧ d.Describes copy.source

variable {catalog : Catalog} {fullText : Field} {m : Nat}
variable {ds sorted : List Definition}

/-- What a new cache was given by the one catalog it was loaded with: that
catalog's fields and copies. -/
theorem given_load {maxChars : Json} {fields : List Field}
    {copies : List CopyField}
    (hy : catalog.yield fullText maxChars = .ok (fields, copies)) :
    given fullText maxChars [.load catalog] = fields
      ∧ givenCopies fullText maxChars [.load catalog] = copies := by
  have hcall : calls fullText maxChars [.load catalog]
      = [⟨false, fields, copies⟩] :=
    List.filterMap_cons_some (callWith?_eq_some.2 ⟨rfl, hy⟩)
  unfold given givenCopies
  rw [hcall]
  exact ⟨List.flatMap_singleton .., List.flatMap_singleton ..⟩

/-- The firsts of fields in the order of their names list the names: once
each, in strictly ascending order. -/
theorem lists_firsts {fs : List Field} {P : String → Prop}
    (h : fs.Pairwise fun f g => f.name ≤ g.name)
    (hP : ∀ name, name ∈ fs.map Field.name ↔ P name) :
    Lists ((firsts Field.name fs).map Field.name) P where
  ascending := by
    have hne : (firsts Field.name fs).Pairwise fun f g =>
        f.name ≠ g.name := List.pairwise_map.1 (nodup_keys_firsts fs)
    rw [List.pairwise_map]
    exact ((h.sublist (firsts_sublist fs)).and hne).imp fun h =>
      Std.lt_of_le_of_ne h.1 h.2
  mem_iff name := mem_keys_firsts.trans (hP name)

/-- Behind a field that comes first they list the other names: that field
hides those of its name wherever they stand. -/
theorem exists_lists_firsts_cons {fs : List Field} {P : String → Prop}
    (h : fs.Pairwise fun f g => f.name ≤ g.name)
    (hP : ∀ name, name ∈ fs.map Field.name ↔ P name) (f : Field) :
    ∃ names, Lists names (fun name => name ≠ f.name ∧ P name)
      ∧ (firsts Field.name (f :: fs)).map Field.name = f.name :: names := by
  refine ⟨_, lists_firsts (h.filter _) ?_, by rw [firsts_cons]; rfl⟩
  intro name
  rw [← hP, List.mem_map, List.mem_map]
  constructor
  · intro hmem
    obtain ⟨g, hg, rfl⟩ := hmem
    obtain ⟨hg, hne⟩ := List.mem_filter.1 hg
    exact ⟨of_decide_eq_true hne, g, hg, rfl⟩
  · intro hmem
    obtain ⟨hne, g, hg, rfl⟩ := hmem
    exact ⟨g, List.mem_filter.2 ⟨hg, decide_eq_true hne⟩, rfl⟩

theorem pairwise_fields (h : StablySorted Definition.name ds sorted) :
    ((Definition.indexed sorted).map Definition.field).Pairwise
      fun f g => f.name ≤ g.name := by
  rw [List.pairwise_map]
  exact h.ascending.filter _

/-- The names of the fields given are those of indexed definitions, in
whichever order these were listed. -/
theorem mem_names_fields (h : StablySorted Definition.name ds sorted)
    {name : String} :
    name ∈ ((Definition.indexed sorted).map Definition.field).map Field.name
      ↔ Definition.Names ds name := by
  rw [List.map_map, List.mem_map]
  apply exists_congr
  intro d
  unfold Definition.indexed
  rw [List.mem_filter, decide_eq_true_eq, h.perm.mem_iff, and_assoc]
  rfl

/-- The first field given for a name is that of the first definition,
since the stable order keeps the definitions of a name as they stood. -/
theorem firstNamed?_fields (h : StablySorted Definition.name ds sorted)
    (name : String) :
    firstNamed? ((Definition.indexed sorted).map Definition.field) name
      = (Definition.first? ds name).map Definition.field := by
  unfold firstNamed? Definition.first? Definition.indexed
  rw [List.find?_map, List.find?_filter, ← h.find?_eq]
  congr 2
  funext d
  apply decide_eq_decide.2
  rw [and_comm, decide_eq_true_eq]
  apply and_congr_left
  intro _
  exact beq_iff_eq

/-- The first field given for a name is what the first definition of the
name describes. -/
theorem exists_first?_of_firstNamed?
    (h : StablySorted Definition.name ds sorted) {name : String} {f : Field}
    (hf : firstNamed? ((Definition.indexed sorted).map Definition.field)
      name = some f) :
    ∃ d, Definition.first? ds name = some d ∧ d.Describes f := by
  rw [firstNamed?_fields h] at hf
  obtain ⟨d, hd, rfl⟩ := Option.map_eq_some_iff.1 hf
  exact ⟨d, hd, d.describes_field⟩

/-- What a new cache holds that was loaded with what a catalog gives.
Names, order and contents are put together here. -/
theorem isLoadedWith_extended (hdefs : catalog.definitions = .ok sorted)
    (hsorted : StablySorted Definition.name ds sorted)
    {fields : List Field} {copies : List CopyField}
    (hy : catalog.yield fullText (.int m) = .ok (fields, copies)) :
    ((new fullText (.int m)).extended fields copies).IsLoadedWith
      fullText m ds := by
  obtain rfl := fields_of_yield hdefs hy
  let c := (new fullText (.int m)).extended
    ((Definition.indexed sorted).map Definition.field) copies
  -- one load is a history, so what holds after any history holds of its
  -- result
  have hrun : (new fullText (.int m)).run [.load catalog] = c :=
    after_load_of_ok hy
  have hfollows : Follows fullText (.int m) [.load catalog] c :=
    hrun ▸ Follows.run fullText (.int m) [.load catalog]
  have hnamed : Named c.content.statics :=
    named_addFields (named_seed fullText) _
  have hgiven := (given_load hy).1
  have hcopies : ∀ copy ∈ c.content.copies,
      copy.dest = fullText ∧ copy.maxChars = m := by
    intro copy hcopy
    rw [hfollows.copies] at hcopy
    obtain ⟨hdest, hlimit⟩ :=
      of_mem_givenCopies (mem_of_mem_firsts hcopy)
    exact ⟨hdest, Int.ofNat.inj (Json.int.inj hlimit).symm⟩
  -- each copy field starts from a field given, in the order of these
  have hsources := hfollows.sources
  rw [hgiven] at hsources
  have hordered := pairwise_fields hsorted
  have hnames : ∀ name, name ∈ ((Definition.indexed sorted).map
      Definition.field).map Field.name ↔ Definition.Names ds name :=
    fun _ => mem_names_fields hsorted
  exact {
    isLoaded := rfl
    dynamics := rfl
    statics := by
      obtain ⟨names, hlists, hkeys⟩ :=
        exists_lists_firsts_cons hordered hnames fullText
      refine ⟨names, hlists, ?_⟩
      show c.content.statics.keys = _
      rw [← hnamed.map_name_values, hfollows.statics, hgiven, hkeys]
    copies := by
      refine ⟨_, lists_firsts hordered hnames, ?_⟩
      rw [← hsources, List.map_map, List.map_map]
      apply List.map_congr_left
      intro copy hcopy
      show (_, copy.dest.name) = _
      rw [(hcopies copy hcopy).1]
      rfl
    -- it was there first, and a first field is never replaced
    fullText_eq := by
      rw [hfollows.get?_statics hnamed]
      exact firstNamed?_cons_self ..
    -- a look-up finds the first field given under the name, and that is the
    -- field of the first definition
    field := by
      intro name f hne hf
      rw [hfollows.get?_statics hnamed, hgiven,
        firstNamed?_cons_of_ne hne.symm] at hf
      exact exists_first?_of_firstNamed? hsorted hf
    copy := by
      intro copy hcopy
      obtain ⟨hdest, hlimit⟩ := hcopies copy hcopy
      refine ⟨hdest, hlimit, exists_first?_of_firstNamed? hsorted ?_⟩
      have hsource := List.mem_map_of_mem (f := CopyField.source) hcopy
      rw [hsources] at hsource
      rw [← (firstNamed?_eq_some (nodup_keys_firsts _)).2 ⟨hsource, rfl⟩]
      exact (find?_firsts _ fun key => key == copy.source.name).symm }

/-- When a new cache is loaded, why it is not, and what it holds then. The
definitions are those of the catalog as it lists them, and the order by
name is any that is stable, of which there is only one. -/
theorem load_new (hstatic : fullText.kind = .static) (hm : 1 ≤ m)
    (hentries : catalog.entries = .ok ds)
    (hsorted : StablySorted Definition.name ds sorted) :
    let outcome := ((new fullText (.int m)).load catalog).value
    ((∃ c, outcome = .ok c) ↔ (∀ d ∈ ds, d.Passes)
        ∧ ∀ d ∈ Definition.indexed ds, d.multiple = true →
          fullText.isMultivalued = true)
      ∧ (∀ fault, outcome = .error fault ↔ LoadFails fullText sorted fault)
      ∧ ∀ c, outcome = .ok c → c.IsLoadedWith fullText m ds := by
  intro outcome
  -- any stable order by name is the one in which they are loaded
  have hdefs : catalog.definitions = .ok sorted := by
    unfold Catalog.definitions
    rw [hentries]
    exact congrArg _ ((stablySorted_mergeSort ds).unique hsorted)
  have hyield : outcome = (catalog.yield fullText (.int m)).map fun e =>
      (new fullText (.int m)).extended e.1 e.2 := value_load _ catalog
  refine ⟨?_, fun fault => ?_, fun c hc => ?_⟩
  · -- what has to hold of the definitions does not look at their order
    have hindexed : ∀ d, d ∈ Definition.indexed sorted
        ↔ d ∈ Definition.indexed ds := fun d =>
      (hsorted.perm.filter _).mem_iff
    have hiff := exists_yield_iff hdefs hstatic hm
    simp only [hsorted.perm.mem_iff, hindexed] at hiff
    rw [← hiff, hyield]
    simp only [map_eq_ok]
    constructor
    · intro h
      obtain ⟨c, given, hgiven, -⟩ := h
      exact ⟨given, hgiven⟩
    · intro h
      obtain ⟨given, hgiven⟩ := h
      exact ⟨_, given, hgiven, rfl⟩
  · rw [hyield, map_eq_error]
    exact yield_eq_error hdefs hstatic hm
  · rw [hyield] at hc
    obtain ⟨⟨fields, copies⟩, hy, rfl⟩ := map_eq_ok.1 hc
    exact isLoadedWith_extended hdefs hsorted hy

/-- Definitions with a name that comes twice, first of several values and
then of one. -/
def repeated : List Definition :=
  [⟨"topic", .text, true⟩, ⟨"mail", .email, false⟩,
    ⟨"topic", .url, false⟩, ⟨"place", .date, false⟩]

/-- A name that comes twice, first of several values and then of one, and
a definition that is not indexed: the cache holds the first of each
indexed name. -/
theorem load_new_repeated :
    ∃ c, ((new usualFullText (.int 100)).load (.listed repeated)).value
        = .ok c
      ∧ c.IsLoadedWith usualFullText 100 repeated := by
  have hentries : (Catalog.listed repeated).entries = .ok repeated := rfl
  have hstatic : usualFullText.kind = .static := rfl
  have hlimit : 1 ≤ 100 := by decide
  have h := load_new hstatic hlimit hentries
    (stablySorted_mergeSort repeated)
  obtain ⟨c, hc⟩ := h.1.2 (by decide +kernel)
  exact ⟨c, hc, h.2.2 c hc⟩

end Cache

end SchemaAudit
