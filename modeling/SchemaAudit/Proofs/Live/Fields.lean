/-
What reading a section of fields yields. The fields read are, name by
name, the first entry that converts (`fst_readFieldsOnto`,
`get?_addFields`); the errors among the findings are the refusals of the
entries that do not convert (`errors_readFieldsOnto`), and if no two
converted entries share a name there is nothing else
(`snd_readFieldsOnto`).

# Fields under their names

The first part is about tables of fields to which fields are added
unless their names are taken. The expected schema grows in the same way,
so these laws serve both sides: `Named` says that a table holds each
field under its own name, and `firstNamed?` finds in a list what such a
table finds.

# One entry

An entry can become one of three things (`fieldOutcome_cases`): it is
refused, it is passed over because its name is taken, or it is its
field. There is one lemma for what each of them does to an entry, and
one for what it does to a section; whatever holds of a whole section is
proved along these, by induction on the entries with any fields read
before.
-/
import SchemaAudit.Expected
import SchemaAudit.Live
import SchemaAudit.Proofs.Field.Wire
import SchemaAudit.Proofs.Firsts
import SchemaAudit.Proofs.Table

namespace SchemaAudit

-- ======================================================= first of a name

/-- Fields under their own names. Tables are looked up by names and listed
as fields, and this is what makes the two agree. -/
def Named (t : Table String Field) : Prop :=
  ∀ name f, t.get? name = some f → f.name = name

theorem Named.map_name_values {t : Table String Field} (h : Named t) :
    t.values.map Field.name = t.keys := by
  unfold Table.values Table.keys
  rw [List.map_map]
  apply List.map_congr_left
  intro e he
  exact h e.1 e.2 (t.mem_entries.1 he)

/-- The first of the fields with a name. -/
def firstNamed? (fs : List Field) (name : String) : Option Field :=
  fs.find? fun f => f.name == name

theorem firstNamed?_cons_self (f : Field) (fs : List Field) :
    firstNamed? (f :: fs) f.name = some f :=
  List.find?_cons_of_pos (beq_self_eq_true f.name)

theorem firstNamed?_cons_of_ne {f : Field} {name : String}
    (h : f.name ≠ name) (fs : List Field) :
    firstNamed? (f :: fs) name = firstNamed? fs name :=
  List.find?_cons_of_neg (by simpa using h)

/-- Of two lists, one behind the other, the first that has a name gives
the field. -/
theorem firstNamed?_append (fs gs : List Field) (name : String) :
    firstNamed? (fs ++ gs) name
      = (firstNamed? fs name).or (firstNamed? gs name) :=
  List.find?_append

theorem firstNamed?_eq_none {fs : List Field} {name : String} :
    firstNamed? fs name = none ↔ name ∉ fs.map Field.name := by
  unfold firstNamed?
  rw [List.find?_eq_none, List.mem_map, not_exists]
  exact forall_congr' fun f => by simp

/-- With distinct names, a field is the one of its name. -/
theorem firstNamed?_eq_some {fs : List Field}
    (hn : (fs.map Field.name).Nodup) {name : String} {f : Field} :
    firstNamed? fs name = some f ↔ f ∈ fs ∧ f.name = name := by
  constructor
  · intro h
    exact ⟨List.mem_of_find?_eq_some h, by simpa using List.find?_some h⟩
  · intro h
    obtain ⟨hf, rfl⟩ := h
    cases h : firstNamed? fs f.name with
    | none =>
        exact absurd (List.mem_map.2 ⟨f, hf, rfl⟩)
          (firstNamed?_eq_none.1 h)
    | some g =>
        have hg : g ∈ fs := List.mem_of_find?_eq_some h
        have hk : g.name = f.name := by simpa using List.find?_some h
        rw [List.inj_on_of_nodup_map hn hg hf hk]

namespace Cache

/-- The empty table has no field under a name that is not its own. -/
theorem named_empty : Named Table.empty := by
  intro name f h
  cases h

/-- Adding fields whose names are new: a name keeps its field, or gets
the first of those added. -/
theorem get?_addFields (t : Table String Field) (fs : List Field)
    (name : String) :
    (addFields t fs).get? name
      = (t.get? name).or (firstNamed? fs name) := by
  induction fs generalizing t with
  | nil => exact (Option.or_none ..).symm
  | cons f rest ih =>
      have step : addFields t (f :: rest)
          = addFields (t.insertNew f.name f) rest := rfl
      rw [step, ih, Table.get?_insertNew, Option.or_assoc]
      congr 1
      unfold firstNamed?
      rw [List.find?_cons]
      by_cases h : f.name = name
      · simp [h]
      · rw [if_neg h, Option.none_or, beq_false_of_ne h]

theorem named_addFields {t : Table String Field} (ht : Named t)
    (fs : List Field) : Named (addFields t fs) := by
  intro name f h
  rw [get?_addFields, Option.or_eq_some_iff] at h
  rcases h with h | ⟨-, h⟩
  · exact ht name f h
  · simpa using List.find?_some h

/-- Fields under their own names, to which fields are added: in order,
each unless its name is taken. It leads the table back to lists of first
members. -/
theorem values_addFields {t : Table String Field} (ht : Named t)
    (fs : List Field) :
    (addFields t fs).values = fs.foldl (keepNew Field.name) t.values := by
  induction fs generalizing t with
  | nil => rfl
  | cons f rest ih =>
      have step : addFields t (f :: rest)
          = addFields (t.insertNew f.name f) rest := rfl
      have hnew : (t.insertNew f.name f).values
          = keepNew Field.name t.values f := by
        unfold keepNew
        rw [ht.map_name_values]
        by_cases h : f.name ∈ t.keys
        · have hsame : t.insertNew f.name f = t := dif_pos h
          rw [if_pos h, hsame]
        · rw [if_neg h]
          unfold Table.values
          rw [Table.entries_insertNew f h, List.map_append]
          rfl
      have hnamed : Named (t.insertNew f.name f) := named_addFields ht [f]
      rw [step, ih hnamed, hnew]
      rfl

theorem mem_of_mem_values_addFields {t : Table String Field}
    {fs : List Field} {f : Field} (h : f ∈ (addFields t fs).values) :
    f ∈ t.values ∨ f ∈ fs := by
  obtain ⟨name, h⟩ := (Table.mem_values _).1 h
  rw [get?_addFields, Option.or_eq_some_iff] at h
  rcases h with h | ⟨-, h⟩
  · exact Or.inl ((Table.mem_values _).2 ⟨name, h⟩)
  · exact Or.inr (List.mem_of_find?_eq_some h)

/-- The names after adding fields are the old ones and those added. -/
theorem mem_keys_addFields {t : Table String Field} {fs : List Field}
    {name : String} :
    name ∈ (addFields t fs).keys ↔
      name ∈ t.keys ∨ name ∈ fs.map Field.name := by
  rw [← not_iff_not, not_or, ← Table.get?_eq_none, ← Table.get?_eq_none,
    ← firstNamed?_eq_none, get?_addFields, Option.or_eq_none_iff]

/-- Fields whose names are all there add nothing, whatever they are. -/
theorem addFields_of_subset {t : Table String Field} {fs : List Field}
    (h : ∀ f ∈ fs, f.name ∈ t.keys) : addFields t fs = t := by
  induction fs with
  | nil => rfl
  | cons f rest ih =>
      have hsame : t.insertNew f.name f = t :=
        dif_pos (h f (List.mem_cons_self ..))
      show addFields (t.insertNew f.name f) rest = t
      rw [hsame]
      exact ih fun g hg => h g (List.mem_cons_of_mem _ hg)

theorem entries_addFields {t : Table String Field} {fs : List Field}
    (hn : (fs.map Field.name).Nodup)
    (ht : ∀ f ∈ fs, f.name ∉ t.keys) :
    (addFields t fs).entries
      = t.entries ++ fs.map fun f => (f.name, f) := by
  induction fs generalizing t with
  | nil => exact (List.append_nil _).symm
  | cons f rest ih =>
      rw [List.map_cons, List.nodup_cons] at hn
      have hf := ht f (List.mem_cons_self ..)
      have step : addFields t (f :: rest)
          = addFields (t.insertNew f.name f) rest := rfl
      rw [step, ih hn.2 ?_, Table.entries_insertNew _ hf,
        List.append_assoc]
      · rfl
      · intro g hg hk
        rw [Table.keys_insertNew, if_neg hf, List.mem_append,
          List.mem_singleton] at hk
        rcases hk with hk | hk
        · exact ht g (List.mem_cons_of_mem _ hg) hk
        · exact hn.1 (List.mem_map.2 ⟨g, hg, hk⟩)

end Cache

-- ====================================================== one entry at once

/-- The fields that entries convert to, in their order, repetitions
included. -/
def converted (kind : FieldKind) (entries : List RawEntry) : List Field :=
  entries.filterMap fun raw => (Field.ofWire kind raw).toOption

/-- The finding for an entry that does not convert. -/
def refusal? (kind : FieldKind) (raw : RawEntry) : Option Finding :=
  match Field.ofWire kind raw with
  | .ok _ => none
  | .error fault =>
      some (refusedField kind (rawValue .name raw).shown fault)

/-- Whether a finding is an error. -/
def Finding.isError (f : Finding) : Bool := f.severity == .error

/-- Findings without an error among them, which is what the verdict asks
for. -/
def ErrorFree (fs : List Finding) : Prop := ∀ f ∈ fs, f.isError = false

/-- No error is in two lists of findings exactly if none is in either,
which splits a report into its stages. -/
theorem errorFree_append {fs gs : List Finding} :
    ErrorFree (fs ++ gs) ↔ ErrorFree fs ∧ ErrorFree gs :=
  List.forall_mem_append

/-- Findings that are all errors have no error among them exactly if there
are none. -/
theorem errorFree_iff_eq_nil {fs : List Finding}
    (h : ∀ f ∈ fs, f.isError = true) : ErrorFree fs ↔ fs = [] := by
  constructor
  · intro hfree
    apply List.eq_nil_iff_forall_not_mem.2
    intro f hf
    have hno := hfree f hf
    rw [h f hf] at hno
    cases hno
  · intro hnil f hf
    rw [hnil] at hf
    cases hf

/-- Findings have no error among them exactly if no error is left when
the rest is dropped. -/
theorem errorFree_iff_filter {fs : List Finding} :
    ErrorFree fs ↔ fs.filter Finding.isError = [] := by
  rw [List.filter_eq_nil_iff]
  exact forall₂_congr fun f _ => Bool.not_eq_true _ ▸ Iff.rfl

theorem mem_converted {kind : FieldKind} {entries : List RawEntry}
    {f : Field} :
    f ∈ converted kind entries ↔
      ∃ raw ∈ entries, Field.ofWire kind raw = .ok f := by
  unfold converted
  rw [List.mem_filterMap]
  apply exists_congr
  intro raw
  apply and_congr_right
  intro _
  cases Field.ofWire kind raw <;> simp [Except.toOption]

theorem converted_append (kind : FieldKind) (xs ys : List RawEntry) :
    converted kind (xs ++ ys) = converted kind xs ++ converted kind ys :=
  List.filterMap_append ..

theorem converted_cons_of_ok {kind : FieldKind} {raw : RawEntry}
    {f : Field} (h : Field.ofWire kind raw = .ok f)
    (rest : List RawEntry) :
    converted kind (raw :: rest) = f :: converted kind rest := by
  unfold converted
  rw [List.filterMap_cons, h]
  rfl

theorem converted_cons_of_error {kind : FieldKind} {raw : RawEntry}
    {fault : Fault} (h : Field.ofWire kind raw = .error fault)
    (rest : List RawEntry) :
    converted kind (raw :: rest) = converted kind rest := by
  unfold converted
  rw [List.filterMap_cons, h]
  rfl

theorem Field.rawValue_name_of_ofWire {kind : FieldKind} {raw : RawEntry}
    {f : Field} (h : Field.ofWire kind raw = .ok f) :
    rawValue .name raw = .str f.name := by
  obtain ⟨type, given, s, -, -, -, hname, -, rfl⟩ := Field.ofWire_eq_ok.1 h
  exact hname

theorem refusal?_of_ok {kind : FieldKind} {raw : RawEntry} {f : Field}
    (h : Field.ofWire kind raw = .ok f) : refusal? kind raw = none := by
  unfold refusal?
  rw [h]

theorem refusal?_of_error {kind : FieldKind} {raw : RawEntry}
    {fault : Fault} (h : Field.ofWire kind raw = .error fault) :
    refusal? kind raw
      = some (refusedField kind (rawValue .name raw).shown fault) := by
  unfold refusal?
  rw [h]

/-- An entry is refused exactly if it does not convert. -/
theorem refusal?_eq_none {kind : FieldKind} {raw : RawEntry} :
    refusal? kind raw = none ↔ ∃ f, Field.ofWire kind raw = .ok f := by
  unfold refusal?
  cases Field.ofWire kind raw <;> simp

section

variable {kind : FieldKind} {parsed : Table String Field} {raw : RawEntry}

/-- An entry that does not convert is refused, whatever was read before
it. -/
theorem fieldOutcome_of_error {fault : Fault}
    (h : Field.ofWire kind raw = .error fault) :
    fieldOutcome kind parsed raw
      = .error (refusedField kind (rawValue .name raw).shown fault) := by
  unfold fieldOutcome
  rw [h]

theorem fieldOutcome_of_mem {f : Field} (h : Field.ofWire kind raw = .ok f)
    (hk : f.name ∈ parsed.keys) :
    fieldOutcome kind parsed raw
      = .error (repeatedField kind (rawValue .name raw).shown) := by
  unfold fieldOutcome
  rw [h]
  simp only [(parsed.contains_iff f.name).2 hk, if_true]

theorem fieldOutcome_of_notMem {f : Field}
    (h : Field.ofWire kind raw = .ok f) (hk : f.name ∉ parsed.keys) :
    fieldOutcome kind parsed raw = .ok f := by
  have hc : parsed.contains f.name = false := by
    rw [← Bool.not_eq_true, Table.contains_iff]
    exact hk
  unfold fieldOutcome
  rw [h]
  simp only [hc, Bool.false_eq_true, if_false]

end

/-- What an entry becomes: its refusal, or its field unless the name is
taken. Every induction over a section splits into these three cases. -/
theorem fieldOutcome_cases (kind : FieldKind)
    (parsed : Table String Field) (raw : RawEntry) :
    (∃ fault, Field.ofWire kind raw = .error fault
        ∧ fieldOutcome kind parsed raw = .error
          (refusedField kind (rawValue .name raw).shown fault))
      ∨ (∃ f, Field.ofWire kind raw = .ok f ∧ f.name ∈ parsed.keys
          ∧ fieldOutcome kind parsed raw = .error
            (repeatedField kind (rawValue .name raw).shown))
      ∨ ∃ f, Field.ofWire kind raw = .ok f ∧ f.name ∉ parsed.keys
          ∧ fieldOutcome kind parsed raw = .ok f := by
  cases h : Field.ofWire kind raw with
  | error fault => exact Or.inl ⟨fault, rfl, fieldOutcome_of_error h⟩
  | ok f =>
      right
      by_cases hk : f.name ∈ parsed.keys
      · exact Or.inl ⟨f, rfl, hk, fieldOutcome_of_mem h hk⟩
      · exact Or.inr ⟨f, rfl, hk, fieldOutcome_of_notMem h hk⟩

-- ============================================================== sections

section

variable {kind : FieldKind} {parsed : Table String Field} {raw : RawEntry}

theorem readFieldsOnto_cons_of_ok {f : Field}
    (h : fieldOutcome kind parsed raw = .ok f) (rest : List RawEntry) :
    readFieldsOnto kind parsed (raw :: rest)
      = readFieldsOnto kind (parsed.insertNew f.name f) rest := by
  rw [readFieldsOnto, h]

/-- An entry that is no field leaves its finding, and the others are read
as if it were not there. -/
theorem readFieldsOnto_cons_of_error {finding : Finding}
    (h : fieldOutcome kind parsed raw = .error finding)
    (rest : List RawEntry) :
    readFieldsOnto kind parsed (raw :: rest)
      = ((readFieldsOnto kind parsed rest).1,
        finding :: (readFieldsOnto kind parsed rest).2) := by
  rw [readFieldsOnto, h]

end

/-- The fields read are those that entries convert to, the first of a name
winning. By induction on the entries, with any fields read before. -/
theorem fst_readFieldsOnto (kind : FieldKind) (parsed : Table String Field)
    (entries : List RawEntry) :
    (readFieldsOnto kind parsed entries).1
      = Cache.addFields parsed (converted kind entries) := by
  induction entries generalizing parsed with
  | nil => rfl
  | cons raw rest ih =>
      rcases fieldOutcome_cases kind parsed raw with
        ⟨fault, hw, ho⟩ | ⟨f, hw, hk, ho⟩ | ⟨f, hw, hk, ho⟩
      · rw [readFieldsOnto_cons_of_error ho, converted_cons_of_error hw]
        exact ih parsed
      · have hsame : parsed.insertNew f.name f = parsed := dif_pos hk
        rw [readFieldsOnto_cons_of_error ho, converted_cons_of_ok hw]
        show (readFieldsOnto kind parsed rest).1
          = Cache.addFields (parsed.insertNew f.name f) _
        rw [hsame]
        exact ih parsed
      · rw [readFieldsOnto_cons_of_ok ho, converted_cons_of_ok hw]
        exact ih _

/-- Reading entries one after the other is reading the first ones and then
the others behind them, so that a section can be cut at any entry. -/
theorem readFieldsOnto_append (kind : FieldKind)
    (parsed : Table String Field) (xs ys : List RawEntry) :
    readFieldsOnto kind parsed (xs ++ ys)
      = ((readFieldsOnto kind (readFieldsOnto kind parsed xs).1 ys).1,
        (readFieldsOnto kind parsed xs).2
          ++ (readFieldsOnto kind (readFieldsOnto kind parsed xs).1
            ys).2) := by
  induction xs generalizing parsed with
  | nil => rfl
  | cons raw rest ih =>
      rw [List.cons_append]
      cases ho : fieldOutcome kind parsed raw with
      | ok f =>
          rw [readFieldsOnto_cons_of_ok ho, readFieldsOnto_cons_of_ok ho]
          exact ih _
      | error finding =>
          rw [readFieldsOnto_cons_of_error ho,
            readFieldsOnto_cons_of_error ho, ih parsed]
          rfl

/-- What is found on entries depends on the names that were read before
only as far as fields that entries convert to have them. So a field that
shares its name with none of them cannot be noticed. -/
theorem snd_readFieldsOnto_congr {kind : FieldKind}
    {parsed parsed' : Table String Field} {entries : List RawEntry}
    (h : ∀ f ∈ converted kind entries,
      f.name ∈ parsed.keys ↔ f.name ∈ parsed'.keys) :
    (readFieldsOnto kind parsed entries).2
      = (readFieldsOnto kind parsed' entries).2 := by
  induction entries generalizing parsed parsed' with
  | nil => rfl
  | cons raw rest ih =>
      have hrest : ∀ f ∈ converted kind rest,
          f ∈ converted kind (raw :: rest) := by
        intro f hf
        obtain ⟨entry, hentry, hread⟩ := mem_converted.1 hf
        exact mem_converted.2
          ⟨entry, List.mem_cons_of_mem _ hentry, hread⟩
      have hsame := ih fun f hf => h f (hrest f hf)
      rcases fieldOutcome_cases kind parsed raw with
        ⟨fault, hf, ho⟩ | ⟨f, hf, hk, ho⟩ | ⟨f, hf, hk, ho⟩
      · rw [readFieldsOnto_cons_of_error ho,
          readFieldsOnto_cons_of_error (fieldOutcome_of_error hf)]
        exact congrArg (List.cons _) hsame
      · have hf' := (h f (mem_converted.2
          ⟨raw, List.mem_cons_self .., hf⟩)).1 hk
        rw [readFieldsOnto_cons_of_error ho,
          readFieldsOnto_cons_of_error (fieldOutcome_of_mem hf hf')]
        exact congrArg (List.cons _) hsame
      · have hf' := (h f (mem_converted.2
          ⟨raw, List.mem_cons_self .., hf⟩)).not.1 hk
        rw [readFieldsOnto_cons_of_ok ho,
          readFieldsOnto_cons_of_ok (fieldOutcome_of_notMem hf hf')]
        -- the name is added to both tables
        apply ih
        intro g hg
        rw [Table.keys_insertNew, Table.keys_insertNew, if_neg hk,
          if_neg hf', List.mem_append, List.mem_append,
          h g (hrest g hg)]

/-- The names of a section are those of the fields that its entries
convert to. -/
theorem mem_keys_readFieldsOnto {kind : FieldKind}
    {entries : List RawEntry} {name : String} :
    name ∈ (readFieldsOnto kind Table.empty entries).1.keys ↔
      name ∈ (converted kind entries).map Field.name := by
  rw [fst_readFieldsOnto, Cache.mem_keys_addFields, Table.keys_empty,
    or_iff_right List.not_mem_nil]

theorem named_readFieldsOnto (kind : FieldKind) (entries : List RawEntry) :
    Named (readFieldsOnto kind Table.empty entries).1 := by
  rw [fst_readFieldsOnto]
  exact Cache.named_addFields Cache.named_empty _

theorem admits_of_mem_keys {kind : FieldKind} {entries : List RawEntry}
    {name : String}
    (h : name ∈ (readFieldsOnto kind Table.empty entries).1.keys) :
    kind.entry.admits name = true := by
  obtain ⟨f, hf, rfl⟩ := List.mem_map.1 (mem_keys_readFieldsOnto.1 h)
  obtain ⟨raw, -, hread⟩ := mem_converted.1 hf
  exact (Field.of_ofWire hread).2.2

/-- Every field of a section comes from an entry of it. -/
theorem exists_entry_of_mem_values {kind : FieldKind}
    {entries : List RawEntry} {f : Field}
    (hf : f ∈ (readFieldsOnto kind Table.empty entries).1.values) :
    ∃ raw ∈ entries, Field.ofWire kind raw = .ok f := by
  rw [fst_readFieldsOnto] at hf
  rcases Cache.mem_of_mem_values_addFields hf with hf | hf
  · cases hf
  · exact mem_converted.1 hf

/-- The errors among the findings are the refusals, in the order of the
entries. What is left out are the warnings on names that are taken. -/
theorem errors_readFieldsOnto (kind : FieldKind)
    (parsed : Table String Field) (entries : List RawEntry) :
    (readFieldsOnto kind parsed entries).2.filter Finding.isError
      = entries.filterMap (refusal? kind) := by
  induction entries generalizing parsed with
  | nil => rfl
  | cons raw rest ih =>
      rcases fieldOutcome_cases kind parsed raw with
        ⟨fault, hw, ho⟩ | ⟨f, hw, hk, ho⟩ | ⟨f, hw, hk, ho⟩
      · rw [readFieldsOnto_cons_of_error ho,
          List.filterMap_cons_some (refusal?_of_error hw),
          List.filter_cons_of_pos rfl, ih parsed]
      · rw [readFieldsOnto_cons_of_error ho,
          List.filterMap_cons_none (refusal?_of_ok hw),
          List.filter_cons_of_neg Bool.false_ne_true, ih parsed]
      · rw [readFieldsOnto_cons_of_ok ho,
          List.filterMap_cons_none (refusal?_of_ok hw)]
        exact ih _

/-- A section is read without an error exactly if every entry converts. -/
theorem errorFree_readFieldsOnto {kind : FieldKind}
    {parsed : Table String Field} {entries : List RawEntry} :
    ErrorFree (readFieldsOnto kind parsed entries).2 ↔
      ∀ raw ∈ entries, ∃ f, Field.ofWire kind raw = .ok f := by
  rw [errorFree_iff_filter, errors_readFieldsOnto,
    List.filterMap_eq_nil_iff]
  exact forall₂_congr fun raw _ => refusal?_eq_none

/-- If no name comes twice, the findings are the refusals. -/
theorem snd_readFieldsOnto {kind : FieldKind}
    {parsed : Table String Field} {entries : List RawEntry}
    (hn : ((converted kind entries).map Field.name).Nodup)
    (hp : ∀ f ∈ converted kind entries, f.name ∉ parsed.keys) :
    (readFieldsOnto kind parsed entries).2
      = entries.filterMap (refusal? kind) := by
  induction entries generalizing parsed with
  | nil => rfl
  | cons raw rest ih =>
      rcases fieldOutcome_cases kind parsed raw with
        ⟨fault, hw, ho⟩ | ⟨f, hw, hk, ho⟩ | ⟨f, hw, hk, ho⟩
      · rw [converted_cons_of_error hw] at hn hp
        rw [readFieldsOnto_cons_of_error ho,
          List.filterMap_cons_some (refusal?_of_error hw)]
        exact congrArg _ (ih hn hp)
      · rw [converted_cons_of_ok hw] at hp
        exact absurd hk (hp f (List.mem_cons_self ..))
      · rw [converted_cons_of_ok hw] at hn hp
        rw [readFieldsOnto_cons_of_ok ho,
          List.filterMap_cons_none (refusal?_of_ok hw)]
        have hc := List.nodup_cons.1 hn
        apply ih hc.2
        -- a name that is added is none of those still to come
        intro g hg hkg
        rw [Table.keys_insertNew, if_neg hk, List.mem_append,
          List.mem_singleton] at hkg
        rcases hkg with hkg | hkg
        · exact hp g (List.mem_cons_of_mem _ hg) hkg
        · exact hc.1 (List.mem_map.2 ⟨g, hg, hkg⟩)

/-- If no name comes twice, a section is read into its fields, in order,
with the refusals for findings. Both halves are stated together because
they have the same condition. -/
theorem readFieldsOnto_empty {kind : FieldKind} {entries : List RawEntry}
    (hn : ((converted kind entries).map Field.name).Nodup) :
    (readFieldsOnto kind Table.empty entries).1.entries
        = ((converted kind entries).map fun f => (f.name, f))
      ∧ (readFieldsOnto kind Table.empty entries).2
        = entries.filterMap (refusal? kind) := by
  have hempty : ∀ f ∈ converted kind entries,
      f.name ∉ (Table.empty : Table String Field).keys := by
    intro f _
    rw [Table.keys_empty]
    exact List.not_mem_nil
  refine ⟨?_, snd_readFieldsOnto hn hempty⟩
  rw [fst_readFieldsOnto, Cache.entries_addFields hn hempty]
  rfl

end SchemaAudit
