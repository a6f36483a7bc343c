/-
What reading a whole schema yields. The reading comes to its end exactly
if no dynamic entry has a list or an object for a name, and then it
gives the schema `Representation.live` with the findings
`Representation.complaints` (`readLive_eq_ok`).

The reader is one pass that logs on its way and can break off. The
definitions here say what it gives section by section, without the log
and for every representation, also for one on which it breaks off: the
static fields, the dynamic ones but for the stock templates, and the
copy fields, whose ends mean fields of the two. So the theory of reading
speaks of `live` and `complaints`, and `HasKeys` is a condition on the
entries that stands beside it.

Whatever the entries are, the names in what is read fit their kinds
(`wellNamed_live`), no stock template is among the dynamic fields
(`notMem_stockTemplates`), and the ends of a copy field are fields that
are meant by a name (`exists_ends_of_mem_copies`).
-/
import SchemaAudit.Proofs.Live.Copies
import SchemaAudit.Proofs.Names
import SchemaAudit.Proofs.Outcome
import SchemaAudit.Proofs.Reference

namespace SchemaAudit

open Outcome

-- ==================================================== the managed entries

/-- Whether an entry is for a template that is managed. -/
def isManaged (raw : RawEntry) : Bool :=
  !((rawValue .name raw).str?.map stockTemplates.contains).getD false

/-- An entry with a name is managed exactly if that is the name of no
stock template. -/
theorem isManaged_iff {raw : RawEntry} {name : String}
    (h : rawValue .name raw = .str name) :
    isManaged raw = true ↔ name ∉ stockTemplates := by
  unfold isManaged
  rw [h]
  show (!stockTemplates.contains name) = true ↔ _
  rw [Bool.not_eq_true', ← Bool.not_eq_true, List.contains_iff_mem]

/-- A value that can be looked up: no list and no object. -/
def Json.IsKey (v : Json) : Prop :=
  (∀ items, v ≠ .arr items) ∧ ∀ entries, v ≠ .obj entries

/-- A value passes the check of keys exactly if it is one that can be
looked up. -/
theorem Json.checkKey_eq_ok {v : Json} :
    v.checkKey = .ok () ↔ v.IsKey := by
  unfold IsKey
  cases v <;> simp [Json.checkKey]

/-- Whether a value names a stock template is known exactly if it can be
looked up. -/
theorem isStock_eq_ok {v : Json} {b : Bool} :
    isStock v = .ok b ↔ v.IsKey
      ∧ (v.str?.map stockTemplates.contains).getD false = b := by
  rw [← Json.checkKey_eq_ok]
  unfold isStock
  rw [bind_eq_ok]
  constructor
  · intro h
    obtain ⟨u, hu, h⟩ := h
    injection h with h
    exact ⟨hu, h⟩
  · intro h
    obtain ⟨hu, rfl⟩ := h
    exact ⟨(), hu, rfl⟩

/-- The managed entries are found exactly if every name can be looked up,
those of stock templates included; by induction on the entries. -/
theorem managedEntries_eq_ok {entries managed : List RawEntry} :
    managedEntries entries = .ok managed ↔
      (∀ raw ∈ entries, (rawValue .name raw).IsKey)
        ∧ managed = entries.filter isManaged := by
  induction entries generalizing managed with
  | nil =>
      show Except.ok [] = Except.ok managed ↔ _
      rw [Except.ok.injEq, eq_comm]
      simp
  | cons raw rest ih =>
      -- every entry is asked for its name, those that are left out as well
      unfold managedEntries
      rw [bind_eq_ok, List.forall_mem_cons, List.filter_cons]
      constructor
      · intro h
        obtain ⟨stock, hstock, h⟩ := h
        obtain ⟨kept, hkept, h⟩ := bind_eq_ok.1 h
        obtain ⟨hkeys, rfl⟩ := ih.1 hkept
        obtain ⟨hkey, hs⟩ := isStock_eq_ok.1 hstock
        injection h with h
        refine ⟨⟨hkey, hkeys⟩, ?_⟩
        rw [← h]
        unfold isManaged
        rw [hs]
        cases stock <;> rfl
      · intro h
        obtain ⟨⟨hkey, hkeys⟩, rfl⟩ := h
        refine ⟨_, isStock_eq_ok.2 ⟨hkey, rfl⟩, bind_eq_ok.2
          ⟨_, ih.2 ⟨hkeys, rfl⟩, ?_⟩⟩
        unfold isManaged
        cases ((rawValue .name raw).str?.map stockTemplates.contains).getD
          false <;> rfl

namespace Representation

-- ============================================================== sections

variable (r : Representation)

/-- The dynamic entries for templates that are managed. -/
def managed : List RawEntry := r.dynamicFields.filter isManaged

/-- The static fields that are read. -/
def statics : Table String Field :=
  (readFieldsOnto .static Table.empty r.fields).1

/-- The dynamic fields that are read. -/
def dynamics : Table String Field :=
  (readFieldsOnto .dynamic Table.empty r.managed).1

/-- The copy fields that are read. -/
def copies : List CopyField :=
  (readCopiesOnto r.statics r.dynamics [] r.copyFields).1

/-- The schema that is read: whatever converts, without what was refused.
-/
def live : Schema := ⟨r.statics, r.dynamics, r.copies⟩

/-- The findings on entries that do not fit, section by section and in the
order of the entries. -/
def complaints : List Finding :=
  (readFieldsOnto .static Table.empty r.fields).2
    ++ (readFieldsOnto .dynamic Table.empty r.managed).2
    ++ (readCopiesOnto r.statics r.dynamics [] r.copyFields).2

/-- Every dynamic entry has a name that can be looked up. A list or an
object in its place ends the reading before anything is read. -/
def HasKeys : Prop :=
  ∀ raw ∈ r.dynamicFields, (rawValue .name raw).IsKey

variable {r}

/-- The static field of a name is the first that an entry of it converts
to. -/
theorem get?_statics (name : String) :
    r.statics.get? name
      = firstNamed? (converted .static r.fields) name := by
  unfold statics
  rw [fst_readFieldsOnto, Cache.get?_addFields, Table.get?_empty,
    Option.none_or]

/-- The dynamic field of a name is the first that a managed entry of it
converts to. -/
theorem get?_dynamics (name : String) :
    r.dynamics.get? name
      = firstNamed? (converted .dynamic r.managed) name := by
  unfold dynamics
  rw [fst_readFieldsOnto, Cache.get?_addFields, Table.get?_empty,
    Option.none_or]

/-- No stock template is read. A field that was read has the name of its
entry, and entries with the names of stock templates are passed over. -/
theorem notMem_stockTemplates {f : Field} (hf : f ∈ r.dynamics.values) :
    f.name ∉ stockTemplates := by
  obtain ⟨raw, hraw, hread⟩ := exists_entry_of_mem_values hf
  exact (isManaged_iff (Field.rawValue_name_of_ofWire hread)).1
    (List.mem_filter.1 hraw).2

/-- The names of the dynamic fields that are read are those of the
entries that convert, but for the stock templates. -/
theorem mem_keys_dynamics {name : String} :
    name ∈ r.dynamics.keys ↔
      name ∉ stockTemplates
        ∧ ∃ raw ∈ r.dynamicFields, ∃ f,
          Field.ofWire .dynamic raw = .ok f ∧ f.name = name := by
  unfold dynamics
  rw [mem_keys_readFieldsOnto, List.mem_map]
  constructor
  · intro h
    obtain ⟨f, hf, rfl⟩ := h
    obtain ⟨raw, hraw, hread⟩ := mem_converted.1 hf
    obtain ⟨hraw, hmanaged⟩ := List.mem_filter.1 hraw
    rw [isManaged_iff (Field.rawValue_name_of_ofWire hread)] at hmanaged
    exact ⟨hmanaged, raw, hraw, f, hread, rfl⟩
  · intro h
    obtain ⟨hstock, raw, hraw, f, hread, rfl⟩ := h
    rw [← isManaged_iff (Field.rawValue_name_of_ofWire hread)] at hstock
    exact ⟨f, mem_converted.2
      ⟨raw, List.mem_filter.2 ⟨hraw, hstock⟩, hread⟩, rfl⟩

/-- The copy fields are those that entries are accepted as, the first of
each key. -/
theorem copies_eq :
    r.copies
      = Cache.addCopies [] (accepted r.statics r.dynamics r.copyFields) :=
  fst_readCopiesOnto ..

/-- The ends of every copy field that is read are fields that are meant,
and a copy field can be built of them. All that is known of meaning and
building is thereby known of what was read. -/
theorem exists_ends_of_mem_copies {c : CopyField} (hc : c ∈ r.copies) :
    (∃ value, resolveReference "source" value r.statics r.dynamics
        = .ok c.source)
      ∧ (∃ value, resolveReference "dest" value r.statics r.dynamics
        = .ok c.dest)
      ∧ ∃ limit, CopyField.ofFields c.source c.dest limit = .ok c := by
  rw [copies_eq] at hc
  rcases Cache.mem_of_mem_addCopies hc with hc | hc
  · cases hc
  · obtain ⟨raw, -, hraw⟩ := mem_accepted.1 hc
    obtain ⟨-, s, d, hs, hd, hbuilt⟩ := copyOutcome_eq_ok.1 hraw
    obtain ⟨limit, -, hbuilt⟩ := bind_eq_ok.1 hbuilt
    obtain ⟨-, -, n, -, hc⟩ := CopyField.ofFields_eq_ok.1 hbuilt
    subst hc
    exact ⟨⟨_, hs⟩, ⟨_, hd⟩, _, hbuilt⟩

/-- The entries that are read have names of their kinds. For the source of
a copy field, which may be what a template gives for a name, it follows
from what a name can mean. -/
theorem wellNamed_live (r : Representation) : r.live.WellNamed where
  statics _ hname := admits_of_mem_keys hname
  dynamics _ hname := admits_of_mem_keys hname
  sources key hkey := by
    obtain ⟨c, hc, rfl⟩ := List.mem_map.1 hkey
    obtain ⟨⟨value, hvalue⟩, -⟩ := exists_ends_of_mem_copies hc
    obtain ⟨name, -, hname⟩ := resolveReference_eq_ok.1 hvalue
    obtain ⟨kind, hadmits⟩ := admits_name_of_fieldNamed?
      (named_readFieldsOnto .static r.fields)
      (named_readFieldsOnto .dynamic r.managed)
      (fun _ h => admits_of_mem_keys h) (fun _ h => admits_of_mem_keys h)
      hname
    exact EntryKind.blank_notMem_of_admits hadmits

end Representation

/-- The reading comes to its end exactly if every dynamic entry has a name
that can be looked up, and then with the schema and the complaints as they
are defined above. -/
theorem readLive_eq_ok {r : Representation}
    {result : Schema × List Finding} :
    (readLive r).value = .ok result ↔
      r.HasKeys ∧ result = (r.live, r.complaints) := by
  unfold readLive
  rw [Logged.value_bind]
  cases h : managedEntries r.dynamicFields with
  | error fault =>
      refine iff_of_false (fun hok => by cases hok) ?_
      intro h
      obtain ⟨hkeys, -⟩ := h
      rw [managedEntries_eq_ok.2 ⟨hkeys, rfl⟩] at h
      cases h
  | ok entries =>
      obtain ⟨hkeys, rfl⟩ := managedEntries_eq_ok.1 h
      rw [and_iff_right (show r.HasKeys from hkeys)]
      show Except.ok (r.live, r.complaints) = .ok result ↔ _
      rw [Except.ok.injEq, eq_comm]

-- ============================================================= a sample

namespace Representation

/-- A live schema with a title that is copied into the full-text field,
and a stock template. -/
def sample : Representation where
  version := none
  name := .null
  uniqueKey := .null
  fields :=
    [[("name", .str "title"), ("type", .str "text_en")],
     [("name", .str "_text_"), ("type", .str "text_general"),
      ("stored", .bool false), ("multiValued", .bool true)]]
  dynamicFields := [[("name", .str "*_s"), ("type", .str "string")]]
  copyFields := [[("source", .str "title"), ("dest", .str "_text_")]]
  fieldTypes := []

theorem hasKeys_sample : sample.HasKeys := by
  intro raw hraw
  rw [List.mem_singleton.1 hraw]
  exact Json.checkKey_eq_ok.1 rfl

end Representation

end SchemaAudit
