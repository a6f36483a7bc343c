/-
Tables that remember the order in which their keys arrived. A key occurs
once; writing to a key that is present keeps its place and changes its
value, writing to a new key puts it last.

That keys are distinct is part of the type, so every operation carries
its own proof of it and no later one asks for it again. Two ways to
write are told apart: `put` lets the last value win, `insertNew` the
first one.

`keys_put` and `keys_insertNew` say what a write does to the order,
`get?_put` and `get?_insertNew` what it does to the values. What whole
rows of writes leave behind is told in the theory of tables.
-/

namespace SchemaAudit

/-- An insertion-ordered table: entries in order of arrival, no key
twice. -/
structure Table (κ : Type) (ν : Type) where
  entries : List (κ × ν)
  nodup_keys : (entries.map Prod.fst).Nodup

namespace Table

variable {κ ν : Type}

/-- The table without entries. -/
def empty : Table κ ν := ⟨[], by simp⟩

instance : EmptyCollection (Table κ ν) := ⟨empty⟩

instance : Inhabited (Table κ ν) := ⟨empty⟩

/-- The keys in order of arrival. -/
def keys (t : Table κ ν) : List κ := t.entries.map Prod.fst

/-- The values in order of arrival of their keys. -/
def values (t : Table κ ν) : List ν := t.entries.map Prod.snd

/-- The number of entries. -/
def size (t : Table κ ν) : Nat := t.entries.length

/-- Tables with the same entries in the same order are equal, whatever
proves their keys distinct. -/
theorem ext_entries {s t : Table κ ν} (h : s.entries = t.entries) :
    s = t := by
  cases s
  cases t
  cases h
  rfl

theorem keys_empty : (empty : Table κ ν).keys = [] := rfl

/-- Appending a key that is absent keeps keys distinct: this is what both
ways to write at the end have to show. -/
theorem nodup_append_singleton {ks : List κ} {k : κ} (h : ks.Nodup)
    (hk : k ∉ ks) : (ks ++ [k]).Nodup := by
  rw [List.nodup_append]
  refine ⟨h, by simp, ?_⟩
  intro a ha b hb
  simp only [List.mem_singleton] at hb
  subst hb
  exact fun he => hk (he ▸ ha)

variable [DecidableEq κ]

-- ============================================================ look-up

/-- The value of the first entry with a key. -/
def valueOf (k : κ) : List (κ × ν) → Option ν
  | [] => none
  | e :: rest => if e.1 = k then some e.2 else valueOf k rest

/-- The value stored under a key. -/
def get? (t : Table κ ν) (k : κ) : Option ν := valueOf k t.entries

/-- Whether a key is present. -/
def contains (t : Table κ ν) (k : κ) : Bool := t.keys.contains k

-- ============================================================= writing

/-- Overwrite the first entry of a key, or append one. -/
def putEntry (k : κ) (v : ν) : List (κ × ν) → List (κ × ν)
  | [] => [(k, v)]
  | e :: rest =>
      if e.1 = k then (k, v) :: rest else e :: putEntry k v rest

/-- A write to a list of entries leaves its keys as they were if the key
is among them, and puts it last otherwise. -/
theorem fst_putEntry (k : κ) (v : ν) (es : List (κ × ν)) :
    (putEntry k v es).map Prod.fst
      = if k ∈ es.map Prod.fst then es.map Prod.fst
        else es.map Prod.fst ++ [k] := by
  induction es with
  | nil => simp [putEntry]
  | cons e rest ih =>
      by_cases h : e.1 = k
      · simp [putEntry, h]
      · have h' : ¬ k = e.1 := fun he => h he.symm
        simp only [putEntry, if_neg h, List.map_cons, ih, List.mem_cons,
          h', false_or]
        split <;> simp

/-- Write a value: an old key keeps its place, a new one comes last. -/
def put (t : Table κ ν) (k : κ) (v : ν) : Table κ ν where
  entries := putEntry k v t.entries
  nodup_keys := by
    rw [fst_putEntry]
    split
    · exact t.nodup_keys
    · rename_i h
      exact nodup_append_singleton t.nodup_keys h

/-- Write a value only if its key is absent. -/
def insertNew (t : Table κ ν) (k : κ) (v : ν) : Table κ ν :=
  if h : k ∈ t.keys then t
  else ⟨t.entries ++ [(k, v)], by
    rw [List.map_append]
    exact nodup_append_singleton t.nodup_keys h⟩

/-- Remove a key. -/
def erase (t : Table κ ν) (k : κ) : Table κ ν where
  entries := t.entries.filter fun e => e.1 ≠ k
  nodup_keys := t.nodup_keys.sublist (List.filter_sublist.map _)

/-- Write the entries of a list one after the other. -/
def putAll (t : Table κ ν) (es : List (κ × ν)) : Table κ ν :=
  es.foldl (fun t e => t.put e.1 e.2) t

/-- The table that results from writing the entries of a list: first
positions, last values. -/
def ofList (es : List (κ × ν)) : Table κ ν := empty.putAll es

-- ================================================== laws of the writes

/-- A write leaves the keys of a table as they were if the key is among
them, and puts it last otherwise. -/
theorem keys_put (t : Table κ ν) (k : κ) (v : ν) :
    (t.put k v).keys = if k ∈ t.keys then t.keys else t.keys ++ [k] :=
  fst_putEntry k v t.entries

/-- The order of the keys cannot tell the two ways to write apart: they
differ in the values alone. -/
theorem keys_insertNew (t : Table κ ν) (k : κ) (v : ν) :
    (t.insertNew k v).keys
      = if k ∈ t.keys then t.keys else t.keys ++ [k] := by
  unfold insertNew
  split <;> simp_all [keys]

/-- A write to a list of entries is seen under its own key and under no
other. -/
theorem valueOf_putEntry (k j : κ) (v : ν) (es : List (κ × ν)) :
    valueOf j (putEntry k v es)
      = if j = k then some v else valueOf j es := by
  induction es with
  | nil =>
      by_cases h : j = k
      · simp [putEntry, valueOf, h]
      · have hk : ¬ k = j := fun he => h he.symm
        simp [putEntry, valueOf, h, hk]
  | cons e rest ih =>
      by_cases h : e.1 = k
      · by_cases hj : j = k
        · simp [putEntry, valueOf, h, hj]
        · have hk : ¬ k = j := fun he => hj he.symm
          simp [putEntry, valueOf, h, hj, hk]
      · by_cases hj : e.1 = j
        · have hjk : ¬ j = k := fun he => h (hj.trans he)
          simp [putEntry, valueOf, hj, hjk]
        · simp [putEntry, valueOf, h, hj, ih]

/-- A write is seen under its own key and under no other. -/
theorem get?_put (t : Table κ ν) (k j : κ) (v : ν) :
    (t.put k v).get? j = if j = k then some v else t.get? j :=
  valueOf_putEntry k j v t.entries

theorem contains_iff (t : Table κ ν) (k : κ) :
    t.contains k = true ↔ k ∈ t.keys := by
  simp [contains]

theorem get?_empty (k : κ) : (empty : Table κ ν).get? k = none := rfl

end Table

end SchemaAudit
