/-
When reconciling finds no error, and what it depends on.

# Errors

For fields that is so exactly if every expected field has a live one of
its name that does not differ from it (`errorFree_reconcileFields`), for
copy fields exactly if every expected pair of names is live
(`errorFree_reconcileCopies`). What is only live and what has another
limit never counts as an error. The verdict is put together from the two
by `errorFree_reconcile`.

# Look-ups

What is found on expected fields depends on the live ones by look-ups
only (`onExpected_congr`): two live tables that answer alike under the
expected names give the same findings, whatever else they hold and in
whichever order. This carries the statements on entries in another order
and on fields that are nobody's concern.

# Order

All names that findings go through stand in ascending order, without
repetition (`lists_onlyIn`, `lists_inBoth`). The order of copy fields
that are only live is not spoken of.
-/
import SchemaAudit.Proofs.Field.Difference
import SchemaAudit.Proofs.Live.Copies
import SchemaAudit.Reconcile

namespace SchemaAudit

-- =============================================================== names

/-- A name is only here if it is a key of this table and looking it up in
the other gives nothing. -/
theorem mem_onlyIn {here there : Table String Field} {name : String} :
    name ∈ onlyIn here there ↔
      name ∈ here.keys ∧ there.get? name = none := by
  unfold onlyIn sortNames
  rw [List.mem_mergeSort, List.mem_filter, Table.contains_eq_isSome,
    Bool.not_eq_true', Option.isSome_eq_false_iff,
    Option.isNone_iff_eq_none]

theorem mem_inBoth {here there : Table String Field} {name : String} :
    name ∈ inBoth here there ↔
      name ∈ here.keys ∧ name ∈ there.keys := by
  unfold inBoth sortNames
  rw [List.mem_mergeSort, List.mem_filter, Table.contains_iff]

/-- The names of one table that another lacks, in ascending order. The
keys of a table are distinct, so no name is told twice. -/
theorem lists_onlyIn (here there : Table String Field) :
    Lists (onlyIn here there) fun name =>
      name ∈ here.keys ∧ name ∉ there.keys where
  ascending := pairwise_sortNames (here.nodup_keys.filter _)
  mem_iff name := by rw [mem_onlyIn, Table.get?_eq_none]

theorem lists_inBoth (here there : Table String Field) :
    Lists (inBoth here there) fun name =>
      name ∈ here.keys ∧ name ∈ there.keys where
  ascending := pairwise_sortNames (here.nodup_keys.filter _)
  mem_iff _ := mem_inBoth

-- ============================================================== fields

/-- What is found on the fields of one kind that are expected: what is
missing, and what differs. -/
def onExpected (kind : FieldKind) (expected live : Table String Field) :
    List Finding :=
  (onlyIn expected live).map (missingField kind)
    ++ (inBoth expected live).flatMap fun name =>
        (differencesAt expected live name).map (fieldMismatch kind name)

/-- The findings on fields are those on fields that are only live, then
those on expected ones. The two parts depend on the live table in
different ways and are taken apart here for good. -/
theorem reconcileFields_eq (kind : FieldKind)
    (expected live : Table String Field) :
    reconcileFields kind expected live
      = (onlyIn live expected).map (liveOnlyField kind)
        ++ onExpected kind expected live :=
  List.append_assoc ..

/-- What is found on expected fields depends on the live ones only as far
as these are looked up under expected names. -/
theorem onExpected_congr {kind : FieldKind}
    {expected live live' : Table String Field}
    (h : ∀ name ∈ expected.keys, live.get? name = live'.get? name) :
    onExpected kind expected live = onExpected kind expected live' := by
  have hcontains : ∀ name ∈ expected.keys,
      live.contains name = live'.contains name := by
    intro name hname
    rw [Table.contains_eq_isSome, Table.contains_eq_isSome, h name hname]
  have hmissing : onlyIn expected live = onlyIn expected live' := by
    unfold onlyIn
    congr 1
    apply List.filter_congr
    intro name hname
    rw [hcontains name hname]
  have hboth : inBoth expected live = inBoth expected live' := by
    unfold inBoth
    congr 1
    exact List.filter_congr hcontains
  unfold onExpected
  rw [hmissing, hboth]
  congr 1
  apply List.flatMap_congr
  intro name hname
  unfold differencesAt
  rw [h name (mem_inBoth.1 hname).1]

/-- Fields are reconciled without an error exactly if none is missing and
none differs: of the three groups of findings the first is for
information. -/
theorem errorFree_reconcileFields_iff {kind : FieldKind}
    {expected live : Table String Field} :
    ErrorFree (reconcileFields kind expected live) ↔
      onlyIn expected live = []
        ∧ ∀ name ∈ inBoth expected live,
          differencesAt expected live name = [] := by
  have hextra : ErrorFree
      ((onlyIn live expected).map (liveOnlyField kind)) := by
    intro f hf
    obtain ⟨name, -, rfl⟩ := List.mem_map.1 hf
    rfl
  have hmissing : ∀ f ∈ (onlyIn expected live).map (missingField kind),
      f.isError = true := by
    intro f hf
    obtain ⟨name, -, rfl⟩ := List.mem_map.1 hf
    rfl
  have hdiffer : ∀ f ∈ (inBoth expected live).flatMap fun name =>
      (differencesAt expected live name).map (fieldMismatch kind name),
      f.isError = true := by
    intro f hf
    obtain ⟨name, -, hf⟩ := List.mem_flatMap.1 hf
    obtain ⟨d, -, rfl⟩ := List.mem_map.1 hf
    rfl
  unfold reconcileFields
  rw [errorFree_append, errorFree_append, and_iff_right hextra,
    errorFree_iff_eq_nil hmissing, errorFree_iff_eq_nil hdiffer,
    List.map_eq_nil_iff, List.flatMap_eq_nil_iff]
  simp only [List.map_eq_nil_iff]

/-- Fields are reconciled without an error exactly if every expected field
has a live one of its name that does not differ from it. The same as above
without the lists of names, which is the form in which the verdict needs
it. -/
theorem errorFree_reconcileFields {kind : FieldKind}
    {expected live : Table String Field} :
    ErrorFree (reconcileFields kind expected live) ↔
      ∀ name e, expected.get? name = some e →
        ∃ l, live.get? name = some l ∧ e.differences l = [] := by
  rw [errorFree_reconcileFields_iff]
  constructor
  · intro h name e he
    obtain ⟨hmissing, hsame⟩ := h
    have hkey : name ∈ expected.keys := (Table.mem_keys _).2 ⟨e, he⟩
    cases hl : live.get? name with
    | none =>
        have hm := mem_onlyIn.2 ⟨hkey, hl⟩
        rw [hmissing] at hm
        cases hm
    | some l =>
        have hat := hsame name
          (mem_inBoth.2 ⟨hkey, (Table.mem_keys _).2 ⟨l, hl⟩⟩)
        -- both tables have the name, so nothing may differ
        unfold differencesAt at hat
        rw [he, hl] at hat
        exact ⟨l, rfl, hat⟩
  · intro h
    refine ⟨?_, fun name hname => ?_⟩
    · apply List.eq_nil_iff_forall_not_mem.2
      intro name hname
      obtain ⟨hkey, hnone⟩ := mem_onlyIn.1 hname
      obtain ⟨e, he⟩ := (Table.mem_keys _).1 hkey
      obtain ⟨l, hl, -⟩ := h name e he
      rw [hl] at hnone
      cases hnone
    · obtain ⟨e, he⟩ := (Table.mem_keys _).1 (mem_inBoth.1 hname).1
      obtain ⟨l, hl, hnil⟩ := h name e he
      unfold differencesAt
      rw [he, hl]
      exact hnil

/-- There is nothing to find if every field has a live counterpart that
does not differ from it, and nothing else is live. The counterpart is the
image of the field under one function: for a schema that was written out,
that is what reading makes of what was written. -/
theorem reconcileFields_eq_nil {kind : FieldKind}
    {expected live : Table String Field} {g : Field → Field}
    (hlive : ∀ name, live.get? name = (expected.get? name).map g)
    (hg : ∀ f ∈ expected.values, f.differences (g f) = []) :
    reconcileFields kind expected live = [] := by
  have hextra : onlyIn live expected = [] := by
    apply List.eq_nil_iff_forall_not_mem.2
    intro name h
    obtain ⟨hkey, hnone⟩ := mem_onlyIn.1 h
    obtain ⟨l, hl⟩ := (Table.mem_keys _).1 hkey
    rw [hlive, hnone] at hl
    cases hl
  have hmissing : onlyIn expected live = [] := by
    apply List.eq_nil_iff_forall_not_mem.2
    intro name h
    obtain ⟨hkey, hnone⟩ := mem_onlyIn.1 h
    obtain ⟨e, he⟩ := (Table.mem_keys _).1 hkey
    rw [hlive, he] at hnone
    cases hnone
  have hsame : ∀ name, differencesAt expected live name = [] := by
    intro name
    unfold differencesAt
    rw [hlive]
    cases he : expected.get? name with
    | none => rfl
    | some e => exact hg e ((Table.mem_values _).2 ⟨name, he⟩)
  unfold reconcileFields
  rw [hextra, hmissing]
  apply List.flatMap_eq_nil_iff.2
  intro name _
  rw [hsame]
  rfl

-- ========================================================= copy fields

/-- There is nothing to find if every expected copy field is live with its
limit, and nothing else is live. -/
theorem reconcileCopies_eq_nil {expected live : List CopyField}
    (hlive : ∀ c ∈ expected, ∃ l, copyNamed? live c.key = some l
      ∧ l.maxChars = c.maxChars)
    (honly : ∀ l ∈ live, l.key ∈ expected.map CopyField.key) :
    reconcileCopies expected live = [] := by
  unfold reconcileCopies
  refine List.append_eq_nil_iff.2 ⟨?_, ?_⟩
  · apply List.flatMap_eq_nil_iff.2
    intro c hc
    obtain ⟨l, hl, hlimit⟩ := hlive c hc
    unfold copyFindings
    rw [hl]
    exact if_pos hlimit
  · rw [List.map_eq_nil_iff]
    unfold liveOnlyKeys
    apply List.eq_nil_iff_forall_not_mem.2
    intro key h
    rw [List.mem_mergeSort, List.mem_filter,
      Option.isNone_iff_eq_none, copyNamed?_eq_none] at h
    obtain ⟨l, hl, rfl⟩ := List.mem_map.1 h.1
    exact h.2 (honly l hl)

/-- Copy fields are reconciled without an error exactly if every expected
pair of names is live. Limits have no part in it: another limit is a
warning. -/
theorem errorFree_reconcileCopies {expected live : List CopyField} :
    ErrorFree (reconcileCopies expected live) ↔
      ∀ c ∈ expected, ∃ l ∈ live, l.key = c.key := by
  unfold reconcileCopies
  rw [errorFree_append]
  constructor
  · intro h c hc
    obtain ⟨hcopies, -⟩ := h
    cases hl : copyNamed? live c.key with
    | none =>
        -- a copy field that is not there is an error
        have hm : missingCopy c.key ∈ copyFindings live c := by
          unfold copyFindings
          rw [hl]
          exact List.mem_singleton_self _
        exact absurd (hcopies _ (List.mem_flatMap.2 ⟨c, hc, hm⟩))
          (by simp [missingCopy, Finding.isError])
    | some l => exact ⟨l, key_of_copyNamed? hl⟩
  · intro h
    -- another limit is a warning, and a copy field that is only live is for
    -- information
    refine ⟨fun f hf => ?_, fun f hf => ?_⟩
    · obtain ⟨c, hc, hf⟩ := List.mem_flatMap.1 hf
      obtain ⟨l, hl, hk⟩ := h c hc
      unfold copyFindings at hf
      cases hn : copyNamed? live c.key with
      | none =>
          exact absurd (List.mem_map.2 ⟨l, hl, hk⟩)
            (copyNamed?_eq_none.1 hn)
      | some m =>
          rw [hn] at hf
          by_cases hm : m.maxChars = c.maxChars
          · simp [hm] at hf
          · simp only [if_neg hm, List.mem_singleton] at hf
            rw [hf]
            rfl
    · obtain ⟨key, -, rfl⟩ := List.mem_map.1 hf
      rfl

/-- A schema is reconciled without an error exactly if its static fields,
its dynamic fields and its copy fields are. -/
theorem errorFree_reconcile {expected live : Schema} :
    ErrorFree (reconcile expected live) ↔
      ErrorFree (reconcileFields .static expected.statics live.statics)
        ∧ ErrorFree
          (reconcileFields .dynamic expected.dynamics live.dynamics)
        ∧ ErrorFree (reconcileCopies expected.copies live.copies) := by
  unfold reconcile
  rw [errorFree_append, errorFree_append, and_assoc]

end SchemaAudit
