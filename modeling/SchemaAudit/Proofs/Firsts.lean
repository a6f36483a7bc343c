/-
The first of each key. `firsts` keeps of a list the members whose key no
earlier member has, in order. That is what remains of a row of additions
each of which is passed over if its key is there (`firsts_eq_foldl`), so
that rows of additions one after the other are one row
(`firsts_append`), and what holds of one addition holds of all.

# Why it is a function of its own

The expected schema grows by additions that never replace anything, and
the live one is read by such additions too. With `firsts` one can say
what either holds at the end of a history without going through the
history: it is what a list of everything that was ever added keeps.

# Its laws

Each law is stated for one addition (`keepNew`) first and lifted to a
row of them by induction on the row, with any list to begin with. No key
is kept twice (`nodup_keys_firsts`), none is lost (`mem_keys_firsts`),
what is kept stands in the order of the list (`firsts_sublist`), and
look-ups by the key find what they find in the list (`find?_firsts`).
Look-ups are stated for any predicate on the key, since an index looks
for several things in one key.
-/
import Mathlib.Data.List.Induction
import SchemaAudit.Data.Table

namespace SchemaAudit

variable {α β κ μ : Type} [DecidableEq κ] [DecidableEq μ]

/-- The members of a list whose key no earlier member has, in their order.
This is what remains if members are added one by one and a key is never
taken twice. -/
def firsts (key : α → κ) (xs : List α) : List α :=
  xs.eraseDupsBy fun a b => key a == key b

/-- A list with a member added at its end, unless its key is there. -/
def keepNew (key : α → κ) (xs : List α) (x : α) : List α :=
  if key x ∈ xs.map key then xs else xs ++ [x]

variable {key : α → κ}

-- ========================================================= one addition

/-- The keys afterwards are the old ones and that of the member, whether
it was added or passed over. -/
theorem mem_keys_keepNew {acc : List α} {x : α} {k : κ} :
    k ∈ (keepNew key acc x).map key ↔ k ∈ acc.map key ∨ k = key x := by
  unfold keepNew
  split
  case isTrue h =>
      refine ⟨Or.inl, fun h' => h'.elim id fun hk => ?_⟩
      rw [hk]
      exact h
  case isFalse =>
      rw [List.map_append, List.mem_append, List.map_singleton,
        List.mem_singleton]

theorem nodup_keepNew {acc : List α} (h : (acc.map key).Nodup) (x : α) :
    ((keepNew key acc x).map key).Nodup := by
  unfold keepNew
  split
  case isTrue => exact h
  case isFalse hx =>
      rw [List.map_append, List.map_singleton]
      exact Table.nodup_append_singleton h hx

theorem mem_of_mem_keepNew {acc : List α} {x y : α}
    (h : y ∈ keepNew key acc x) : y ∈ acc ∨ y = x := by
  unfold keepNew at h
  split at h
  case isTrue => exact Or.inl h
  case isFalse =>
      rw [List.mem_append, List.mem_singleton] at h
      exact h

/-- Look-ups by the key find what they find with the member at the end,
for one that is passed over has its key before. -/
theorem find?_keepNew (acc : List α) (x : α) (P : κ → Bool) :
    (keepNew key acc x).find? (fun y => P (key y))
      = (acc ++ [x]).find? fun y => P (key y) := by
  unfold keepNew
  split
  case isFalse => rfl
  case isTrue h =>
      rw [List.find?_append, List.find?_singleton]
      by_cases hP : P (key x) = true
      · have hsome : (acc.find? fun y => P (key y)).isSome = true := by
          rw [List.find?_isSome]
          obtain ⟨y, hy, hyx⟩ := List.mem_map.1 h
          exact ⟨y, hy, hyx ▸ hP⟩
        rw [Option.or_of_isSome hsome]
      · rw [if_neg hP, Option.or_none]

-- ==================================================== rows of additions

/-- After a row of additions the keys are the old ones and those of the
row. -/
theorem mem_keys_foldl_keepNew {acc xs : List α} {k : κ} :
    k ∈ (xs.foldl (keepNew key) acc).map key ↔
      k ∈ acc.map key ∨ k ∈ xs.map key := by
  induction xs generalizing acc with
  | nil => simp
  | cons x rest ih =>
      rw [List.foldl_cons, ih, mem_keys_keepNew, List.map_cons,
        List.mem_cons, or_assoc]

/-- No key comes twice after a row of additions if none did before. -/
theorem nodup_foldl_keepNew {acc : List α} (h : (acc.map key).Nodup)
    (xs : List α) : ((xs.foldl (keepNew key) acc).map key).Nodup := by
  induction xs generalizing acc with
  | nil => exact h
  | cons x rest ih => exact ih (nodup_keepNew h x)

theorem mem_of_mem_foldl_keepNew {acc xs : List α} {y : α}
    (h : y ∈ xs.foldl (keepNew key) acc) : y ∈ acc ∨ y ∈ xs := by
  induction xs generalizing acc with
  | nil => exact Or.inl h
  | cons x rest ih =>
      rcases ih h with h | h
      · rcases mem_of_mem_keepNew h with h | rfl
        · exact Or.inl h
        · exact Or.inr (List.mem_cons_self ..)
      · exact Or.inr (List.mem_cons_of_mem _ h)

/-- After a row of additions, look-ups by the key find what they find in
the old list with the whole row behind it. -/
theorem find?_foldl_keepNew (acc xs : List α) (P : κ → Bool) :
    (xs.foldl (keepNew key) acc).find? (fun y => P (key y))
      = (acc ++ xs).find? fun y => P (key y) := by
  induction xs generalizing acc with
  | nil => rw [List.append_nil]; rfl
  | cons x rest ih =>
      rw [List.foldl_cons, ih, List.find?_append, find?_keepNew,
        ← List.find?_append, List.append_assoc, List.singleton_append]

/-- Members with distinct new keys are all added, in order: no addition is
passed over. -/
theorem foldl_keepNew_of_nodup {acc xs : List α}
    (hn : (xs.map key).Nodup) (h : ∀ x ∈ xs, key x ∉ acc.map key) :
    xs.foldl (keepNew key) acc = acc ++ xs := by
  induction xs generalizing acc with
  | nil => exact (List.append_nil _).symm
  | cons x rest ih =>
      rw [List.map_cons, List.nodup_cons] at hn
      have hstep : keepNew key acc x = acc ++ [x] :=
        if_neg (h x (List.mem_cons_self ..))
      have hrest : ∀ y ∈ rest, key y ∉ (keepNew key acc x).map key := by
        intro y hy hk
        rcases mem_keys_keepNew.1 hk with hk | hk
        · exact h y (List.mem_cons_of_mem _ hy) hk
        · exact hn.1 (List.mem_map.2 ⟨y, hy, hk⟩)
      rw [List.foldl_cons, ih hn.2 hrest, hstep, List.append_assoc,
        List.singleton_append]

/-- Members whose keys are all there add nothing, which is why loading a
catalog a second time changes nothing. -/
theorem foldl_keepNew_of_subset {acc xs : List α}
    (h : ∀ x ∈ xs, key x ∈ acc.map key) :
    xs.foldl (keepNew key) acc = acc := by
  induction xs with
  | nil => rfl
  | cons x rest ih =>
      have hstep : keepNew key acc x = acc :=
        if_pos (h x (List.mem_cons_self ..))
      rw [List.foldl_cons, hstep]
      exact ih fun y hy => h y (List.mem_cons_of_mem _ hy)

-- =============================================================== firsts

theorem firsts_nil : firsts key [] = [] := List.eraseDupsBy_nil

/-- The first member is kept, and behind it the firsts of those with other
keys. This is the recursion of the definition, in which the first member
rules out later ones; additions go the other way round, each looking back.
-/
theorem firsts_cons (x : α) (xs : List α) :
    firsts key (x :: xs)
      = x :: firsts key (xs.filter fun y => decide (key y ≠ key x)) := by
  unfold firsts
  rw [List.eraseDupsBy_cons]
  congr 2
  apply List.filter_congr
  intro y _
  exact decide_eq_decide.2 beq_eq_false_iff_ne

/-- Members added one by one, each unless its key is there: the firsts of
those whose keys were not there before. It ties the two readings of
`firsts` together. -/
theorem foldl_keepNew (acc xs : List α) :
    xs.foldl (keepNew key) acc
      = acc ++ firsts key
          (xs.filter fun x => decide (key x ∉ acc.map key)) := by
  induction xs generalizing acc with
  | nil => rw [List.filter_nil, firsts_nil, List.append_nil]; rfl
  | cons x rest ih =>
      rw [List.foldl_cons, ih]
      unfold keepNew
      by_cases h : key x ∈ acc.map key
      · rw [if_pos h, List.filter_cons_of_neg (by simpa using h)]
      · rw [if_neg h, List.filter_cons_of_pos (by simpa using h),
          firsts_cons, List.append_assoc, List.singleton_append,
          List.filter_filter]
        congr 3
        apply List.filter_congr
        intro y _
        rw [← Bool.decide_and]
        apply decide_eq_decide.2
        rw [List.map_append, List.map_singleton, List.mem_append,
          List.mem_singleton, not_or, and_comm]

/-- The firsts are what a row of additions to nothing leaves, so all that
is known of additions is known of them. -/
theorem firsts_eq_foldl (xs : List α) :
    firsts key xs = xs.foldl (keepNew key) [] := by
  rw [foldl_keepNew, List.nil_append]
  congr 1
  exact (List.filter_eq_self.2 fun x _ => by simp).symm

theorem firsts_append (xs ys : List α) :
    firsts key (xs ++ ys) = ys.foldl (keepNew key) (firsts key xs) := by
  rw [firsts_eq_foldl, List.foldl_append, firsts_eq_foldl]

/-- One member more at the end is one more addition, the step of an
induction from the end. -/
theorem firsts_concat (xs : List α) (x : α) :
    firsts key (xs ++ [x]) = keepNew key (firsts key xs) x :=
  firsts_append xs [x]

/-- No key is lost and none comes in. -/
theorem mem_keys_firsts {xs : List α} {k : κ} :
    k ∈ (firsts key xs).map key ↔ k ∈ xs.map key := by
  rw [firsts_eq_foldl, mem_keys_foldl_keepNew]
  exact or_iff_right List.not_mem_nil

/-- No key is kept twice. -/
theorem nodup_keys_firsts (xs : List α) :
    ((firsts key xs).map key).Nodup := by
  rw [firsts_eq_foldl]
  have hnil : (([] : List α).map key).Nodup := List.nodup_nil
  exact nodup_foldl_keepNew hnil xs

/-- What is kept keeps its order, by induction from the end of the list. -/
theorem firsts_sublist (xs : List α) : (firsts key xs).Sublist xs := by
  induction xs using List.reverseRecOn with
  | nil => exact List.nil_sublist _
  | append_singleton xs x ih =>
      rw [firsts_concat]
      unfold keepNew
      split
      case isTrue => exact ih.trans (List.sublist_append_left ..)
      case isFalse => exact ih.append_right _

theorem mem_of_mem_firsts {xs : List α} {x : α}
    (h : x ∈ firsts key xs) : x ∈ xs :=
  (firsts_sublist xs).subset h

/-- Look-ups by the key find what they find in the list: a member that is
passed over has its key before it, and so is never the first that is
found. -/
theorem find?_firsts (xs : List α) (P : κ → Bool) :
    (firsts key xs).find? (fun x => P (key x))
      = xs.find? fun x => P (key x) := by
  rw [firsts_eq_foldl]
  exact find?_foldl_keepNew [] xs P

/-- Two keys that tell the members of a list apart alike keep the same
ones. It carries what is known of keys of one kind over to those of
another, such as from fields to their copies. -/
theorem map_firsts {g : α → β} {key' : β → μ} {xs : List α}
    (h : ∀ a ∈ xs, ∀ b ∈ xs, key a = key b ↔ key' (g a) = key' (g b)) :
    (firsts key xs).map g = firsts key' (xs.map g) := by
  induction xs using List.reverseRecOn with
  | nil => rw [firsts_nil, List.map_nil, firsts_nil]
  | append_singleton xs x ih =>
      have hx : x ∈ xs ++ [x] :=
        List.mem_append_right _ (List.mem_singleton_self x)
      have ih := ih fun a ha b hb => h a (List.mem_append_left _ ha) b
        (List.mem_append_left _ hb)
      -- the member repeats a key on one side exactly if it does on the other
      have hkeys : key x ∈ (firsts key xs).map key
          ↔ key' (g x) ∈ (firsts key' (xs.map g)).map key' := by
        rw [mem_keys_firsts, mem_keys_firsts, List.map_map, List.mem_map,
          List.mem_map]
        apply exists_congr
        intro y
        apply and_congr_right
        intro hy
        exact h y (List.mem_append_left _ hy) x hx
      rw [List.map_append, List.map_singleton, firsts_concat,
        firsts_concat]
      unfold keepNew
      by_cases hk : key x ∈ (firsts key xs).map key
      · rw [if_pos hk, if_pos (hkeys.1 hk), ih]
      · rw [if_neg hk, if_neg (fun h' => hk (hkeys.2 h')),
          List.map_append, List.map_singleton, ih]

end SchemaAudit
