/-
Tables as finite maps. A table is known by its look-ups up to the order
of its keys, and by its keys in order and its look-ups altogether
(`ext_get?`).

# Look-ups

`mem_entries` ties the entries to the look-ups, and with it the values
and the keys; `get?_eq_of_perm` says that the order of arrival does not
matter to a look-up. The laws are stated on lists of entries first
(`valueOf`), where the induction is, and hold for tables because their
keys are distinct.

# Rows of writes

The laws of `insertNew` and `putAll` say what a whole list of writes
leaves behind: the first value where only absent keys are written, the
last where every write counts. For the keys it is the same in both
cases: those that were there stay in their places
(`keys_prefix_putAll`), and new ones come behind them in order
(`keys_putAll`).

Writing over a table what was written over it before changes nothing
(`putAll_entries_putAll`). That is why a field that was read and is
written with everything filled in is read again as it is.
-/
import Mathlib.Data.List.Nodup
import SchemaAudit.Data.Table

namespace SchemaAudit.Table

variable {κ ν : Type}

/-- Two orders of the same entries have the same keys, in some order. -/
theorem keys_perm {s t : Table κ ν} (h : s.entries.Perm t.entries) :
    s.keys.Perm t.keys :=
  h.map Prod.fst

/-- Two orders of the same entries have the same values, in some order. -/
theorem values_perm {s t : Table κ ν} (h : s.entries.Perm t.entries) :
    s.values.Perm t.values :=
  h.map Prod.snd

variable [DecidableEq κ]

-- ============================================================ look-up

/-- The value of a key stands with it. The converse needs the keys to be
distinct, since the first entry of a key hides later ones. -/
theorem mem_of_valueOf {es : List (κ × ν)} {k : κ} {v : ν}
    (h : valueOf k es = some v) : (k, v) ∈ es := by
  induction es with
  | nil => cases h
  | cons e rest ih =>
      obtain ⟨k', v'⟩ := e
      unfold valueOf at h
      split at h
      case isTrue hk =>
          injection h with h
          subst hk h
          exact List.mem_cons_self ..
      case isFalse => exact List.mem_cons_of_mem _ (ih h)

/-- With distinct keys, the value of a key is the one it stands with: the
first entry of a key is then its only one. -/
theorem valueOf_eq_some {es : List (κ × ν)}
    (hn : (es.map Prod.fst).Nodup) {k : κ} {v : ν} :
    valueOf k es = some v ↔ (k, v) ∈ es := by
  induction es with
  | nil => simp [valueOf]
  | cons e rest ih =>
      obtain ⟨k', v'⟩ := e
      rw [List.map_cons, List.nodup_cons] at hn
      by_cases h : k' = k
      · subst h
        have hv : (k', v) ∉ rest := fun hm =>
          hn.1 (List.mem_map.2 ⟨_, hm, rfl⟩)
        simp [valueOf, hv, eq_comm]
      · have h' : ¬ k = k' := fun he => h he.symm
        simp [valueOf, h, h', ih hn.2]

/-- A key has no value exactly if it is not there; this holds of any list,
with keys distinct or not. -/
theorem valueOf_eq_none {es : List (κ × ν)} {k : κ} :
    valueOf k es = none ↔ k ∉ es.map Prod.fst := by
  induction es with
  | nil => simp [valueOf]
  | cons e rest ih =>
      by_cases h : e.1 = k
      · simp [valueOf, h]
      · have h' : ¬ k = e.1 := fun he => h he.symm
        simp only [valueOf, if_neg h, ih, List.map_cons, List.mem_cons,
          h', false_or]

/-- In two lists, one behind the other, the first that has a key tells its
value. -/
theorem valueOf_append (k : κ) (es fs : List (κ × ν)) :
    valueOf k (es ++ fs) = (valueOf k es).or (valueOf k fs) := by
  induction es with
  | nil => simp [valueOf]
  | cons e rest ih =>
      by_cases h : e.1 = k
      · simp [valueOf, h]
      · simp [valueOf, h, ih]

/-- The entries of a table are its look-ups: an entry is there exactly if
its value is found under its key. -/
theorem mem_entries (t : Table κ ν) {k : κ} {v : ν} :
    (k, v) ∈ t.entries ↔ t.get? k = some v :=
  (valueOf_eq_some t.nodup_keys).symm

/-- Nothing is found under a key exactly if it is none of the table. -/
theorem get?_eq_none (t : Table κ ν) {k : κ} :
    t.get? k = none ↔ k ∉ t.keys :=
  valueOf_eq_none

/-- The keys of a table are what its look-ups find something under. -/
theorem mem_keys (t : Table κ ν) {k : κ} :
    k ∈ t.keys ↔ ∃ v, t.get? k = some v := by
  rw [← Option.ne_none_iff_exists', ne_eq, get?_eq_none, not_not]

theorem contains_eq_isSome (t : Table κ ν) (k : κ) :
    t.contains k = (t.get? k).isSome := by
  rw [Bool.eq_iff_iff, contains_iff, Option.isSome_iff_ne_none, ne_eq,
    get?_eq_none, not_not]

/-- The values of a table are what its look-ups find. Each of them comes
with a key under which it is found, which is how a property of all values
is proved from one of look-ups. -/
theorem mem_values (t : Table κ ν) {v : ν} :
    v ∈ t.values ↔ ∃ k, t.get? k = some v := by
  unfold values
  rw [List.mem_map]
  constructor
  · intro h
    obtain ⟨⟨k, w⟩, hm, rfl⟩ := h
    exact ⟨k, t.mem_entries.1 hm⟩
  · intro h
    obtain ⟨k, hk⟩ := h
    exact ⟨(k, v), t.mem_entries.2 hk, rfl⟩

/-- The keys in order and what is found under them make up the entries, so
nothing else can be told of a table. -/
theorem entries_eq_filterMap (t : Table κ ν) :
    t.entries
      = t.keys.filterMap fun k => (t.get? k).map fun v => (k, v) := by
  unfold keys
  rw [List.filterMap_map]
  symm
  refine (List.filterMap_congr fun e he => ?_).trans List.filterMap_some
  show (t.get? e.1).map (fun v => (e.1, v)) = some e
  rw [t.mem_entries.1 he]
  rfl

/-- Tables with the same keys in order and the same look-ups are one. -/
theorem ext_get? {s t : Table κ ν} (hk : s.keys = t.keys)
    (hg : ∀ k, s.get? k = t.get? k) : s = t := by
  apply ext_entries
  rw [entries_eq_filterMap, entries_eq_filterMap, hk]
  simp only [hg]

-- =============================================================== order

/-- Two orders of the same entries have the same look-ups, for no key has
an earlier entry that could hide another. -/
theorem get?_eq_of_perm {s t : Table κ ν}
    (h : s.entries.Perm t.entries) (k : κ) : s.get? k = t.get? k := by
  apply Option.ext
  intro v
  rw [← mem_entries, ← mem_entries, h.mem_iff]

-- ============================================== writing to absent keys

/-- A write to an absent key is seen under that key only, and one to a key
that is there is not seen at all. Both are said at once by trying the old
table first. -/
theorem get?_insertNew (t : Table κ ν) (k j : κ) (v : ν) :
    (t.insertNew k v).get? j
      = (t.get? j).or (if k = j then some v else none) := by
  unfold insertNew
  split
  case isTrue h =>
      by_cases hj : k = j
      · subst hj
        have hs : (t.get? k).isSome = true := by
          rw [← contains_eq_isSome, contains_iff]
          exact h
        rw [Option.or_of_isSome hs]
      · rw [if_neg hj, Option.or_none]
  case isFalse h =>
      show valueOf j (t.entries ++ [(k, v)]) = _
      rw [valueOf_append]
      rfl

theorem entries_insertNew {t : Table κ ν} {k : κ} (v : ν)
    (h : k ∉ t.keys) :
    (t.insertNew k v).entries = t.entries ++ [(k, v)] := by
  unfold insertNew
  rw [dif_neg h]

-- =================================================== writing every key

/-- The value that a row of writes leaves under a key: the last one
written there, else what was there before. By induction on the row, with
any table to begin with. -/
theorem get?_putAll (t : Table κ ν) (es : List (κ × ν)) (k : κ) :
    (t.putAll es).get? k = (valueOf k es.reverse).or (t.get? k) := by
  induction es generalizing t with
  | nil => rfl
  | cons e rest ih =>
      have step : t.putAll (e :: rest) = (t.put e.1 e.2).putAll rest := rfl
      rw [step, ih, List.reverse_cons, valueOf_append, get?_put]
      by_cases h : k = e.1
      · subst h
        cases valueOf e.1 rest.reverse <;> simp [valueOf]
      · have h' : ¬ e.1 = k := fun he => h he.symm
        simp [valueOf, h, h']

/-- Writes under distinct keys are all seen, whichever way the row is gone
through. -/
theorem get?_putAll_of_nodup (t : Table κ ν) {es : List (κ × ν)}
    (hn : (es.map Prod.fst).Nodup) (k : κ) :
    (t.putAll es).get? k = (valueOf k es).or (t.get? k) := by
  rw [get?_putAll]
  congr 1
  apply Option.ext
  intro v
  have hr : (es.reverse.map Prod.fst).Nodup := by
    rw [List.map_reverse, List.nodup_reverse]
    exact hn
  rw [valueOf_eq_some hr, valueOf_eq_some hn, List.mem_reverse]

theorem mem_of_mem_ofList {es : List (κ × ν)} {e : κ × ν}
    (h : e ∈ (ofList es).entries) : e ∈ es := by
  have hget := (mem_entries (ofList es)).1 h
  unfold ofList at hget
  rw [get?_putAll, get?_empty, Option.or_none] at hget
  exact List.mem_reverse.1 (mem_of_valueOf hget)

/-- A table made of entries with distinct keys finds what the entries
tell. -/
theorem get?_ofList {es : List (κ × ν)} (hn : (es.map Prod.fst).Nodup)
    (k : κ) : (ofList es).get? k = valueOf k es := by
  unfold ofList
  rw [get?_putAll_of_nodup empty hn, get?_empty, Option.or_none]

theorem mem_keys_put (t : Table κ ν) {k j : κ} {v : ν} :
    j ∈ (t.put k v).keys ↔ j ∈ t.keys ∨ j = k := by
  rw [keys_put]
  split
  case isTrue h =>
      constructor
      · exact Or.inl
      · intro h
        rcases h with hj | rfl
        · exact hj
        · exact h
  case isFalse => rw [List.mem_append, List.mem_singleton]

/-- A write under a new key comes last. The reader of objects uses it as
long as the keys of an object are distinct. -/
theorem putEntry_of_notMem {k : κ} {v : ν} {es : List (κ × ν)}
    (h : k ∉ es.map Prod.fst) : putEntry k v es = es ++ [(k, v)] := by
  induction es with
  | nil => rfl
  | cons e rest ih =>
      rw [List.map_cons, List.mem_cons, not_or] at h
      have hk : ¬ e.1 = k := fun he => h.1 he.symm
      unfold putEntry
      rw [if_neg hk, ih h.2, List.cons_append]

/-- Writes under distinct new keys come last, in order, so that what was
written can be read off the end of the table. -/
theorem entries_putAll {t : Table κ ν} {es : List (κ × ν)}
    (hn : (es.map Prod.fst).Nodup) (hd : ∀ e ∈ es, e.1 ∉ t.keys) :
    (t.putAll es).entries = t.entries ++ es := by
  induction es generalizing t with
  | nil => exact (List.append_nil _).symm
  | cons e rest ih =>
      rw [List.map_cons, List.nodup_cons] at hn
      have hput : (t.put e.1 e.2).entries = t.entries ++ [e] :=
        putEntry_of_notMem (hd e (List.mem_cons_self ..))
      have step : t.putAll (e :: rest) = (t.put e.1 e.2).putAll rest := rfl
      rw [step, ih hn.2 ?_, hput, List.append_assoc, List.singleton_append]
      intro d hdm hk
      rcases (mem_keys_put t).1 hk with hk | hk
      · exact hd d (List.mem_cons_of_mem _ hdm) hk
      · exact hn.1 (List.mem_map.2 ⟨d, hdm, hk⟩)

/-- Writes leave the keys that are there in their places, whatever is
written. -/
theorem keys_prefix_putAll (t : Table κ ν) (es : List (κ × ν)) :
    t.keys <+: (t.putAll es).keys := by
  induction es generalizing t with
  | nil => exact List.prefix_refl _
  | cons e rest ih =>
      have hput : t.keys <+: (t.put e.1 e.2).keys := by
        rw [keys_put]
        split
        case isTrue => exact List.prefix_refl _
        case isFalse => exact List.prefix_append ..
      exact hput.trans (ih _)

/-- Writes under distinct keys add those that are not there, in order. The
induction takes the table after the first write, in which the key just
written is there already. -/
theorem keys_putAll (t : Table κ ν) {es : List (κ × ν)}
    (hn : (es.map Prod.fst).Nodup) :
    (t.putAll es).keys
      = t.keys ++ (es.map Prod.fst).filter fun k => k ∉ t.keys := by
  induction es generalizing t with
  | nil => exact (List.append_nil _).symm
  | cons e rest ih =>
      rw [List.map_cons, List.nodup_cons] at hn
      have step : t.putAll (e :: rest) = (t.put e.1 e.2).putAll rest := rfl
      rw [step, ih _ hn.2, keys_put, List.map_cons]
      by_cases he : e.1 ∈ t.keys
      · rw [if_pos he, List.filter_cons_of_neg (by simpa using he)]
      · rw [if_neg he, List.filter_cons_of_pos (by simpa using he),
          List.append_assoc, List.singleton_append]
        congr 2
        -- the key just written does not come again
        apply List.filter_congr
        intro k hk
        have hne : k ≠ e.1 := fun hke => hn.1 (hke ▸ hk)
        simp [hne]

theorem keys_putAll_of_subset {t : Table κ ν} {es : List (κ × ν)}
    (h : ∀ e ∈ es, e.1 ∈ t.keys) : (t.putAll es).keys = t.keys := by
  induction es generalizing t with
  | nil => rfl
  | cons e rest ih =>
      have hput : (t.put e.1 e.2).keys = t.keys := by
        rw [keys_put, if_pos (h e (List.mem_cons_self ..))]
      rw [← hput]
      apply ih
      intro d hd
      rw [hput]
      exact h d (List.mem_cons_of_mem _ hd)

/-- To write all of a table over one whose keys it begins with gives that
table: its keys are then in place, and every value is the last one
written. -/
theorem putAll_entries_of_prefix {s t : Table κ ν}
    (h : s.keys <+: t.keys) : s.putAll t.entries = t := by
  apply ext_get?
  · obtain ⟨new, hnew⟩ := h
    obtain ⟨old, fresh, hsplit, hold, hfresh⟩ :=
      List.map_eq_append_iff.1 hnew.symm
    have hnodup := t.nodup_keys
    rw [hsplit, List.map_append, List.nodup_append] at hnodup
    obtain ⟨-, hn, hdisjoint⟩ := hnodup
    have hkeys : (s.putAll old).keys = s.keys :=
      keys_putAll_of_subset fun e he => hold ▸ List.mem_map_of_mem he
    -- the old keys are written over in place, the others come last
    have hsteps : s.putAll t.entries = (s.putAll old).putAll fresh := by
      rw [hsplit]
      exact List.foldl_append
    have hlast := entries_putAll (t := s.putAll old) hn fun e he hk => by
      rw [hkeys, ← hold] at hk
      exact hdisjoint _ hk _ (List.mem_map_of_mem he) rfl
    rw [hsteps, ← hnew, ← hkeys, ← hfresh]
    unfold keys
    rw [hlast, List.map_append]
  · intro k
    rw [get?_putAll_of_nodup s t.nodup_keys]
    show (t.get? k).or (s.get? k) = t.get? k
    cases ht : t.get? k with
    | some v => rfl
    | none =>
        have hs : k ∉ s.keys := fun hk =>
          (get?_eq_none t).1 ht (h.subset hk)
        exact (get?_eq_none s).2 hs

/-- To write over a table what was written over it changes nothing, since
it begins with the keys of that table. -/
theorem putAll_entries_putAll (t : Table κ ν) (es : List (κ × ν)) :
    t.putAll (t.putAll es).entries = t.putAll es :=
  putAll_entries_of_prefix (keys_prefix_putAll t es)

/-- A list with distinct keys is the entries of the table it gives, in the
same order. -/
theorem entries_ofList {es : List (κ × ν)}
    (hn : (es.map Prod.fst).Nodup) : (ofList es).entries = es :=
  entries_putAll hn fun _ _ => by
    rw [keys_empty]
    exact List.not_mem_nil

end SchemaAudit.Table
