/-
Lists sorted by a text.

# Stable sorting

A list has one order in which the texts ascend and members of one text
stand as they stood (`StablySorted.unique`), and that is how it is
sorted (`stablySorted_mergeSort`). The order is described by what it
keeps - the members, and for each text the row of members that have it -
and not by how it is reached; that a loaded catalog does not depend on
the order of its definitions is read off the uniqueness.

The uniqueness goes by induction on the first list. Both lists begin
with a member of the smallest text, and as the members of that text
stand in the same order in both, with the same member.

# Distinct names

Members that differ in their texts stand in strictly ascending order
(`pairwise_lt_mergeSort`). `Lists` is the form in which names are spoken
of elsewhere: strictly ascending, and just those of which something is
true. There is only one such list (`Lists.unique`), so that one name
more among names is seen in one place and moves no other
(`exists_sortNames_cons`).
-/
import Mathlib.Data.List.Nodup
import SchemaAudit.Schema

namespace SchemaAudit

variable {α : Type} {key : α → String}

-- ======================================================= stable sorting

/-- A list in ascending order of a key, the members of one key as they
stood. That a member is not lost follows from `perm`; `stable` is asked
for every key, also for one that no member has. -/
structure StablySorted (key : α → String) (xs sorted : List α) :
    Prop where
  perm : sorted.Perm xs
  ascending : sorted.Pairwise fun a b => key a ≤ key b
  stable : ∀ k, sorted.filter (fun x => key x = k)
    = xs.filter fun x => key x = k

theorem key_le_trans (a b c : α)
    (hab : decide (key a ≤ key b) = true)
    (hbc : decide (key b ≤ key c) = true) :
    decide (key a ≤ key c) = true := by
  rw [decide_eq_true_eq] at hab hbc ⊢
  exact String.le_trans hab hbc

theorem key_le_total (a b : α) :
    (decide (key a ≤ key b) || decide (key b ≤ key a)) = true := by
  rw [Bool.or_eq_true, decide_eq_true_eq, decide_eq_true_eq]
  exact String.le_total _ _

theorem pairwise_le_mergeSort (xs : List α) :
    (xs.mergeSort fun a b => key a ≤ key b).Pairwise
      fun a b => key a ≤ key b :=
  (List.pairwise_mergeSort key_le_trans key_le_total xs).imp
    of_decide_eq_true

/-- Sorting is stable: the members of one key are in order already, and a
row that is in order survives the sort as it is. -/
theorem stablySorted_mergeSort (xs : List α) :
    StablySorted key xs (xs.mergeSort fun a b => key a ≤ key b) where
  perm := List.mergeSort_perm ..
  ascending := pairwise_le_mergeSort xs
  stable := by
    intro k
    -- the members of one key are in order already, so they stay so
    have hle : (xs.filter fun x => key x = k).Pairwise
        fun a b => decide (key a ≤ key b) = true := by
      apply List.pairwise_of_forall_mem_list
      intro a ha b hb
      have hak := of_decide_eq_true (List.mem_filter.1 ha).2
      have hbk := of_decide_eq_true (List.mem_filter.1 hb).2
      have heq : key a = key b := hak.trans hbk.symm
      exact decide_eq_true (heq ▸ String.le_refl _)
    have hsub := (List.sublist_mergeSort key_le_trans key_le_total hle
      List.filter_sublist).filter fun x => key x = k
    rw [List.filter_filter] at hsub
    simp only [Bool.and_self] at hsub
    symm
    apply hsub.eq_of_length
    exact ((List.mergeSort_perm ..).filter _).length_eq.symm

/-- What comes first in ascending order has the smallest key; said of two
orders of the same members, in which form both directions are needed. -/
theorem key_head_le_of_perm {x y : α} {xs ys : List α}
    (hp : (x :: xs).Perm (y :: ys))
    (h : (x :: xs).Pairwise fun a b => key a ≤ key b) :
    key x ≤ key y := by
  have hy : y ∈ x :: xs := hp.mem_iff.2 (List.mem_cons_self ..)
  rcases List.mem_cons.1 hy with rfl | hy
  · exact String.le_refl _
  · exact (List.pairwise_cons.1 h).1 _ hy

/-- Two lists with the same head have the same members of a key exactly if
their tails do, whether the head has that key or not. -/
theorem filter_key_cons_inj {x : α} {xs ys : List α} {k : String} :
    ((x :: xs).filter fun a => key a = k)
        = ((x :: ys).filter fun a => key a = k) ↔
      (xs.filter fun a => key a = k) = ys.filter fun a => key a = k := by
  by_cases hx : key x = k
  · rw [List.filter_cons_of_pos (by simpa using hx),
      List.filter_cons_of_pos (by simpa using hx), List.cons_inj_right]
  · rw [List.filter_cons_of_neg (by simpa using hx),
      List.filter_cons_of_neg (by simpa using hx)]

/-- There is only one stable order. By induction on one of the two; the
heads agree because both are the first member of the smallest key. -/
theorem StablySorted.unique {xs s t : List α}
    (hs : StablySorted key xs s) (ht : StablySorted key xs t) :
    s = t := by
  obtain ⟨hsp, hsa, hss⟩ := hs
  obtain ⟨htp, hta, hts⟩ := ht
  have hperm := hsp.trans htp.symm
  have hstable : ∀ k, s.filter (fun x => key x = k)
      = t.filter fun x => key x = k := fun k =>
    (hss k).trans (hts k).symm
  clear hsp htp hss hts
  induction s generalizing t with
  | nil => exact hperm.nil_eq
  | cons a s ih =>
      cases t with
      | nil => cases hperm.symm.nil_eq
      | cons b t =>
          -- both begin with the first member of the smallest key
          have hkey : key a = key b :=
            String.le_antisymm (key_head_le_of_perm hperm hsa)
              (key_head_le_of_perm hperm.symm hta)
          have hfirst := hstable (key a)
          rw [List.filter_cons_of_pos (by simp),
            List.filter_cons_of_pos (by simp [hkey])] at hfirst
          obtain ⟨rfl, -⟩ := List.cons.inj hfirst
          congr 1
          exact ih (List.pairwise_cons.1 hsa).2
            (List.pairwise_cons.1 hta).2 hperm.cons_inv
            fun k => filter_key_cons_inj.1 (hstable k)

/-- Where no key comes twice, the order before does not matter: each key
has at most one member, so there is nothing to keep in order. -/
theorem StablySorted.of_perm {xs ys s : List α}
    (h : StablySorted key xs s) (hn : (xs.map key).Nodup)
    (hp : xs.Perm ys) : StablySorted key ys s where
  perm := h.perm.trans hp
  ascending := h.ascending
  stable := by
    intro k
    -- there is at most one member of a key
    have hlone : ∀ zs : List α, (zs.map key).Nodup →
        (zs.filter fun x => key x = k).Pairwise fun _ _ => False := by
      intro zs hzs
      rw [List.pairwise_filter]
      refine (List.pairwise_map.1 hzs).imp fun hne ha hb => ?_
      exact hne ((of_decide_eq_true ha).trans (of_decide_eq_true hb).symm)
    rw [h.stable k]
    exact List.Perm.eq_of_pairwise (fun _ _ _ _ h _ => h.elim)
      (hlone xs hn) (hlone ys ((hp.map key).nodup_iff.1 hn))
      (hp.filter _)

/-- Among the members of a key, a look-up finds the same one before and
after. What is asked of the member beside its key may be anything. -/
theorem StablySorted.find?_eq {xs s : List α}
    (h : StablySorted key xs s) (k : String) (q : α → Prop)
    [DecidablePred q] :
    s.find? (fun x => key x = k ∧ q x)
      = xs.find? fun x => key x = k ∧ q x := by
  have hfilter : ∀ zs : List α, zs.find? (fun x => key x = k ∧ q x)
      = (zs.filter fun x => key x = k).find? fun x => q x := by
    intro zs
    rw [List.find?_filter]
    simp only [decide_eq_true_eq]
  rw [hfilter, hfilter, h.stable]

/-- Sorted by a key in which they differ, members stand in strictly
ascending order of it. -/
theorem pairwise_lt_mergeSort {xs : List α} (hn : (xs.map key).Nodup) :
    (xs.mergeSort fun a b => key a ≤ key b).Pairwise
      fun a b => key a < key b := by
  have hne : (xs.mergeSort fun a b => key a ≤ key b).Pairwise
      fun a b => key a ≠ key b :=
    List.pairwise_map.1 (((List.mergeSort_perm ..).map key).nodup_iff.2 hn)
  exact ((pairwise_le_mergeSort xs).and hne).imp fun h =>
    Std.lt_of_le_of_ne h.1 h.2

theorem pairwise_sortNames {names : List String} (hn : names.Nodup) :
    (sortNames names).Pairwise (· < ·) := by
  rw [← List.map_id names] at hn
  exact pairwise_lt_mergeSort hn

theorem mem_sortNames {names : List String} {name : String} :
    name ∈ sortNames names ↔ name ∈ names :=
  List.mem_mergeSort

/-- Names in strictly ascending order: just those of which something is
true. There is one such list at most (`Lists.unique`). -/
structure Lists (names : List String) (P : String → Prop) : Prop where
  ascending : names.Pairwise (· < ·)
  mem_iff : ∀ name, name ∈ names ↔ P name

theorem Lists.nodup {names : List String} {P : String → Prop}
    (h : Lists names P) : names.Nodup := by
  unfold List.Nodup
  refine h.ascending.imp ?_
  intro a b hlt heq
  exact String.lt_irrefl _ (heq ▸ hlt)

/-- There is only one list of the names of which something is true. So two
ascending lists are equal as soon as they have the same members. -/
theorem Lists.unique {names names' : List String} {P : String → Prop}
    (h : Lists names P) (h' : Lists names' P) : names = names' := by
  have hperm : names.Perm names' :=
    (List.perm_ext_iff_of_nodup h.nodup h'.nodup).2 fun name => by
      rw [h.mem_iff, h'.mem_iff]
  exact List.Perm.eq_of_pairwise
    (fun a b _ _ hab hba => absurd hba (String.lt_asymm hab)) h.ascending
    h'.ascending hperm

/-- One name more among distinct names stands behind the smaller and
before the larger ones, and these stand as they did. What is sorted before
is the one ascending list of the old names, and so is what surrounds the
new one. -/
theorem exists_sortNames_cons {names names' : List String} {name : String}
    (hn : names'.Nodup) (hp : names'.Perm (name :: names)) :
    ∃ smaller larger, sortNames names = smaller ++ larger
      ∧ sortNames names' = smaller ++ name :: larger := by
  have hmem : name ∈ sortNames names' :=
    mem_sortNames.2 (hp.mem_iff.2 (List.mem_cons_self ..))
  obtain ⟨smaller, larger, hsplit⟩ := List.append_of_mem hmem
  refine ⟨smaller, larger, ?_, hsplit⟩
  have hsorted' := pairwise_sortNames hn
  have hsorted : (smaller ++ larger).Pairwise (· < ·) := by
    rw [hsplit] at hsorted'
    exact hsorted'.sublist
      ((List.sublist_cons_self name larger).append_left smaller)
  have hnames : (sortNames names).Pairwise (· < ·) :=
    pairwise_sortNames (List.nodup_cons.1 (hp.nodup_iff.1 hn)).2
  have hperm : (smaller ++ larger).Perm names := by
    have hall : (smaller ++ name :: larger).Perm (name :: names) := by
      rw [← hsplit]
      exact (List.mergeSort_perm ..).trans hp
    exact (List.perm_middle.symm.trans hall).cons_inv
  -- two ascending orders of the same names are one
  have hbefore : Lists (sortNames names) (· ∈ names) :=
    ⟨hnames, fun _ => mem_sortNames⟩
  have haround : Lists (smaller ++ larger) (· ∈ names) :=
    ⟨hsorted, fun _ => hperm.mem_iff⟩
  exact hbefore.unique haround

end SchemaAudit
