/-
Names tell entries apart.

No name that fits the rule of its kind holds a blank, and none fits both
the rule of static fields and that of dynamic ones
(`EntryKind.not_admits_dynamic`). So the label of a copy field, two
names with blanks between them, is the name of no field, and it tells
the two names as soon as the first of them holds no blank
(`eq_of_copyLabel_eq`).

This is what makes the subject of a finding worth something: a finding
about a name is about the static field, the dynamic field or the copy
field of that name, and never about two of them. The argument about
blanks is stated on lists of characters (`eq_of_append_cons_eq`), and
serves the wording of differences as well.
-/
import Mathlib.Data.List.Basic
import SchemaAudit.Reconcile

namespace SchemaAudit

-- ============================================================== blanks

/-- A list is split in one way at the first place that holds a given
member: neither of the parts in front may hold it. -/
theorem eq_of_append_cons_eq {α : Type} {x : α}
    {front front' rest rest' : List α} (hx : x ∉ front) (hx' : x ∉ front')
    (h : front ++ x :: rest = front' ++ x :: rest') :
    front = front' ∧ rest = rest' := by
  induction front generalizing front' with
  | nil =>
      cases front' with
      | nil =>
          injection h with _ hrest
          exact ⟨rfl, hrest⟩
      | cons y front' =>
          injection h with hy _
          exact absurd (hy ▸ List.mem_cons_self ..) hx'
  | cons y front ih =>
      cases front' with
      | nil =>
          injection h with hy _
          exact absurd (hy ▸ List.mem_cons_self ..) hx
      | cons z front' =>
          injection h with hyz htail
          rw [List.mem_cons, not_or] at hx hx'
          obtain ⟨hfront, hrest⟩ := ih hx.2 hx'.2 htail
          exact ⟨by rw [hyz, hfront], hrest⟩

namespace EntryKind

variable {kind : EntryKind} {name : String}

/-- The characters of a name are those of identifiers, and a star in the
name of a dynamic field. -/
theorem isNameChar_of_mem (h : kind.admits name = true) {c : Char}
    (hc : c ∈ name.toList) : isNameChar c = true ∨ c = '*' := by
  -- the names of static fields and of types have one rule
  have hidentifier : ∀ cs, isIdentifier cs = true → c ∈ cs →
      isNameChar c = true := by
    intro cs hcs hmem
    unfold isIdentifier at hcs
    split at hcs
    case h_1 d e rest =>
        rw [Bool.and_eq_true, Bool.and_eq_true] at hcs
        obtain ⟨⟨hd, he⟩, hrest⟩ := hcs
        rcases List.mem_cons.1 hmem with rfl | hmem
        · unfold isNameChar Char.isAlphanum
          rw [Bool.or_eq_true] at hd ⊢
          exact hd.imp (fun h => by rw [h]; rfl) id
        · rcases List.mem_cons.1 hmem with rfl | hmem
          · exact he
          · exact List.all_eq_true.1 hrest _ hmem
    case h_2 => cases hcs
  have hwildcard : ∀ cs, isWildcard cs = true → c ∈ cs →
      isNameChar c = true ∨ c = '*' := by
    intro cs hcs hmem
    unfold isWildcard at hcs
    split at hcs
    case h_1 d rest =>
        have hall : (d :: rest).all isNameChar = true := hcs
        rcases List.mem_cons.1 hmem with h | hmem
        · exact Or.inr h
        · rcases List.mem_cons.1 hmem with rfl | hmem
          · exact Or.inl (by decide)
          · exact Or.inl (List.all_eq_true.1 hall _ hmem)
    case h_2 => cases hcs
  cases kind with
  | dynamic => exact hwildcard _ h hc
  | static => exact Or.inl (hidentifier _ h hc)
  | type => exact Or.inl (hidentifier _ h hc)

theorem blank_notMem_of_admits (h : kind.admits name = true) :
    ' ' ∉ name.toList := by
  intro hblank
  rcases isNameChar_of_mem h hblank with hname | hstar
  · exact absurd hname (by decide)
  · exact absurd hstar (by decide)

/-- No static field can have the name of a dynamic one: the latter begins
with a star, which is no character of the former. -/
theorem not_admits_dynamic (h : EntryKind.static.admits name = true) :
    EntryKind.dynamic.admits name = false := by
  unfold admits at h ⊢
  simp only at h ⊢
  unfold SchemaAudit.isWildcard
  split
  · rename_i c rest heq
    rw [heq] at h
    exact absurd h (by simp [isIdentifier])
  · rfl

end EntryKind

-- ============================================================== labels

/-- The label of a copy field has its first blank right behind its first
name, if that holds none. -/
theorem toList_copyLabel (key : String × String) :
    (copyLabel key).toList
      = key.1.toList ++ ' ' :: ("-> " ++ key.2).toList := by
  unfold copyLabel
  simp

/-- No field has the label of a copy field for its name, since the label
holds a blank. -/
theorem copyLabel_ne_of_admits {kind : EntryKind} {name : String}
    (h : kind.admits name = true) (key : String × String) :
    copyLabel key ≠ name := by
  intro hlabel
  apply EntryKind.blank_notMem_of_admits h
  rw [← hlabel, toList_copyLabel]
  exact List.mem_append_right _ (List.mem_cons_self ..)

/-- The label of a copy field tells its two names if the first holds no
blank. The second may hold anything: it is all that stands behind the
arrow. -/
theorem eq_of_copyLabel_eq {key key' : String × String}
    (h : ' ' ∉ key.1.toList) (h' : ' ' ∉ key'.1.toList)
    (hlabel : copyLabel key = copyLabel key') : key = key' := by
  rw [← String.toList_inj, toList_copyLabel, toList_copyLabel] at hlabel
  obtain ⟨hfirst, hrest⟩ := eq_of_append_cons_eq h h' hlabel
  rw [String.toList_inj, String.append_right_inj] at hrest
  exact Prod.ext (String.toList_inj.1 hfirst) hrest

-- ============================================================= schemas

/-- A schema whose entries have names of their kinds: those of the fields
fit the rules, and no source of a copy field has a blank in its name. -/
structure Schema.WellNamed (s : Schema) : Prop where
  statics : ∀ name ∈ s.statics.keys, EntryKind.static.admits name = true
  dynamics : ∀ name ∈ s.dynamics.keys,
    EntryKind.dynamic.admits name = true
  sources : ∀ key ∈ s.copyKeys, ' ' ∉ key.1.toList

end SchemaAudit
