/-
The order of the entries does not matter. Where the names in each
section tell the entries that are read apart, two representations with
the same entries in another order are read into the same fields and copy
fields, draw the same complaints, and compare alike with whatever is
expected: the reports have one state, one verdict, and the same findings
up to order (`validate_perm`).

# The condition

`ToldApart` asks for distinct names among the entries that convert, and
for distinct keys among the copy field entries that are accepted.
Entries that are refused may repeat each other, since each draws its own
complaint wherever it stands. Without the condition the order does
matter: of two entries of one name, the first is kept.

# The stages

Sections of fields come first (`readFieldsOnto_perm`): what they give
and what they complain of is carried over a permutation of the entries,
through the list of the entries that convert. Copy fields follow,
because what their ends mean depends on look-ups alone
(`copyOutcome_eq`), and look-ups do not see the order of a table.
Comparing then depends on the live fields by look-ups and on the live
copy fields by their keys (`findingsOn_perm`).
-/
import SchemaAudit.Proofs.Checker
import SchemaAudit.Proofs.Reconcile
import SchemaAudit.Proofs.Reference

namespace SchemaAudit

/-- Two representations with the same entries, in any order in each of the
three sections. Names, version and types may differ: none of these is
validated. -/
structure SameEntries (r r' : Representation) : Prop where
  fields : r.fields.Perm r'.fields
  dynamicFields : r.dynamicFields.Perm r'.dynamicFields
  copyFields : r.copyFields.Perm r'.copyFields

/-- Entries that are told apart: no two of one section of fields convert
to fields of one name, and no two copy field entries are accepted under
one pair of names. -/
structure ToldApart (r : Representation) : Prop where
  statics : ((converted .static r.fields).map Field.name).Nodup
  dynamics : ((converted .dynamic r.managed).map Field.name).Nodup
  copies : ((accepted r.statics r.dynamics r.copyFields).map
    CopyField.key).Nodup

-- ============================================================== reading

/-- The order of the entries does not matter to what is read and found:
both the fields and the complaints are permuted as the entries are. -/
theorem readFieldsOnto_perm {kind : FieldKind}
    {entries entries' : List RawEntry} (hp : entries.Perm entries')
    (hn : ((converted kind entries).map Field.name).Nodup) :
    (readFieldsOnto kind Table.empty entries).1.entries.Perm
        (readFieldsOnto kind Table.empty entries').1.entries
      ∧ (readFieldsOnto kind Table.empty entries).2.Perm
        (readFieldsOnto kind Table.empty entries').2 := by
  have hconv : (converted kind entries).Perm (converted kind entries') :=
    hp.filterMap _
  have hn' : ((converted kind entries').map Field.name).Nodup :=
    (hconv.map Field.name).nodup_iff.1 hn
  obtain ⟨hfst, hsnd⟩ := readFieldsOnto_empty hn
  obtain ⟨hfst', hsnd'⟩ := readFieldsOnto_empty hn'
  rw [hfst, hsnd, hfst', hsnd']
  exact ⟨hconv.map _, hp.filterMap _⟩

section

variable {r r' : Representation}

/-- The entries that are not for stock templates are the same, in some
order. -/
theorem managed_perm (h : SameEntries r r') :
    r.managed.Perm r'.managed :=
  h.dynamicFields.filter isManaged

/-- What becomes of a copy field entry depends on what its ends mean, and
that is the same in both representations: the tables have the same
look-ups, and the longest template that catches a name is the same in any
order. -/
theorem copyOutcome_eq (h : SameEntries r r') (ha : ToldApart r) :
    copyOutcome r.statics r.dynamics
      = copyOutcome r'.statics r'.dynamics := by
  have hdynamic : ∀ name f, r.dynamics.get? name = some f →
      f ∈ converted .dynamic r.managed ∧ f.name = name := by
    intro name f hf
    rw [Representation.get?_dynamics] at hf
    exact (firstNamed?_eq_some ha.dynamics).1 hf
  have hadmits : ∀ f ∈ r.dynamics.values,
      EntryKind.dynamic.admits f.name = true := by
    intro f hf
    obtain ⟨name, hname⟩ := (Table.mem_values _).1 hf
    obtain ⟨raw, -, hraw⟩ := mem_converted.1 (hdynamic name f hname).1
    exact (Field.of_ofWire hraw).2.2
  -- what a name means does not depend on the order of the fields
  have hresolve := resolveReference_eq_of_perm
    (readFieldsOnto_perm h.fields ha.statics).1
    (readFieldsOnto_perm (managed_perm h) ha.dynamics).1
    (fun name f hf => (hdynamic name f hf).2) hadmits
  funext raw
  unfold copyOutcome
  have hsame : ∀ role name,
      resolveReference role name r.statics r.dynamics
        = resolveReference role name r'.statics r'.dynamics := hresolve
  simp only [hsame]

/-- The order of the entries does not matter to the copy fields read, and
their keys are distinct, which the comparison needs. -/
theorem copies_perm (h : SameEntries r r') (ha : ToldApart r) :
    r.copies.Perm r'.copies ∧ (r.copies.map CopyField.key).Nodup := by
  have hacc : (accepted r.statics r.dynamics r.copyFields).Perm
      (accepted r'.statics r'.dynamics r'.copyFields) := by
    unfold accepted
    rw [copyOutcome_eq h ha]
    exact h.copyFields.filterMap _
  have hn' := (hacc.map CopyField.key).nodup_iff.1 ha.copies
  have hempty : ∀ cs : List CopyField, ∀ c ∈ cs,
      c.key ∉ ([] : List CopyField).map CopyField.key :=
    fun _ _ _ => List.not_mem_nil
  rw [Representation.copies_eq, Representation.copies_eq,
    Cache.addCopies_eq_append ha.copies (hempty _),
    Cache.addCopies_eq_append hn' (hempty _)]
  exact ⟨hacc, ha.copies⟩

/-- The order of the entries does not matter to the complaints, section by
section. -/
theorem complaints_perm (h : SameEntries r r') (ha : ToldApart r) :
    r.complaints.Perm r'.complaints := by
  have hcopies :
      (readCopiesOnto r.statics r.dynamics [] r.copyFields).2.Perm
        (readCopiesOnto r'.statics r'.dynamics [] r'.copyFields).2 := by
    rw [snd_readCopiesOnto, snd_readCopiesOnto]
    have hsame : complaints r.statics r.dynamics
        = complaints r'.statics r'.dynamics := by
      funext raw
      unfold complaints
      rw [copyOutcome_eq h ha]
    rw [hsame]
    exact h.copyFields.flatMap_right _
  exact ((readFieldsOnto_perm h.fields ha.statics).2.append
    (readFieldsOnto_perm (managed_perm h) ha.dynamics).2).append hcopies

end

-- ============================================================ comparing

/-- The order of the live fields does not matter to the comparison. Only
what is merely live can come in another order; what is found on expected
fields is the same list. -/
theorem reconcileFields_perm {kind : FieldKind}
    {expected live live' : Table String Field}
    (hp : live.entries.Perm live'.entries) :
    (reconcileFields kind expected live).Perm
      (reconcileFields kind expected live') := by
  have hextra : (onlyIn live expected).Perm (onlyIn live' expected) := by
    unfold onlyIn sortNames
    refine (List.mergeSort_perm ..).trans (List.Perm.trans ?_
      (List.mergeSort_perm ..).symm)
    exact (Table.keys_perm hp).filter _
  have hexpected : onExpected kind expected live
      = onExpected kind expected live' :=
    onExpected_congr fun name _ => Table.get?_eq_of_perm hp name
  rw [reconcileFields_eq, reconcileFields_eq, hexpected]
  exact (hextra.map _).append_right _

/-- The order of the live copy fields does not matter to the comparison if
their keys are distinct, for then each is found wherever it stands. -/
theorem reconcileCopies_perm {expected live live' : List CopyField}
    (hp : live.Perm live') (hn : (live.map CopyField.key).Nodup) :
    (reconcileCopies expected live).Perm
      (reconcileCopies expected live') := by
  have hn' : (live'.map CopyField.key).Nodup :=
    (hp.map CopyField.key).nodup_iff.1 hn
  -- with distinct keys a look-up knows no order
  have hnamed : copyNamed? live = copyNamed? live' := by
    funext key
    apply Option.ext
    intro c
    rw [copyNamed?_eq_some hn, copyNamed?_eq_some hn', hp.mem_iff]
  have hfindings : copyFindings live = copyFindings live' := by
    funext c
    unfold copyFindings
    rw [hnamed]
  have hextra : (liveOnlyKeys expected live).Perm
      (liveOnlyKeys expected live') := by
    unfold liveOnlyKeys
    refine (List.mergeSort_perm ..).trans (List.Perm.trans ?_
      (List.mergeSort_perm ..).symm)
    exact (hp.map CopyField.key).filter _
  unfold reconcileCopies
  rw [hfindings]
  exact (hextra.map _).append_left _

/-- The order of the entries does not matter to the findings of a
comparison, with or without an expected schema: the destinations fed more
than once are the same as well. -/
theorem findingsOn_perm {r r' : Representation} (h : SameEntries r r')
    (ha : ToldApart r) (expected : Option Schema) :
    (Checker.findingsOn r.live expected).Perm
      (Checker.findingsOn r'.live expected) := by
  obtain ⟨hcopies, hn⟩ := copies_perm h ha
  have hfan : ((fanIns r.copies).map Checker.fanInFinding).Perm
      ((fanIns r'.copies).map Checker.fanInFinding) :=
    (fanIns_perm hcopies).map _
  cases expected with
  | none => exact hfan.append_right _
  | some e =>
      have hS : (reconcileFields .static e.statics r.statics).Perm
          (reconcileFields .static e.statics r'.statics) :=
        reconcileFields_perm (readFieldsOnto_perm h.fields ha.statics).1
      have hD : (reconcileFields .dynamic e.dynamics r.dynamics).Perm
          (reconcileFields .dynamic e.dynamics r'.dynamics) :=
        reconcileFields_perm
          (readFieldsOnto_perm (managed_perm h) ha.dynamics).1
      exact hfan.append ((hS.append hD).append
        (reconcileCopies_perm hcopies hn))

-- ============================================================== reports

/-- Reports of one state with the same findings, in any order, have one
verdict and one status, since both only ask whether there is an error. -/
theorem Report.ok_eq_of_perm {report report' : Report}
    (hstate : report.state = report'.state)
    (hp : report.findings.Perm report'.findings) :
    report.ok = report'.ok ∧ report.status = report'.status := by
  have herrors : report.hasErrors = report'.hasErrors := by
    unfold Report.hasErrors
    exact hp.any_eq
  unfold Report.ok Report.status
  rw [hstate, herrors]
  exact ⟨rfl, rfl⟩

/-- The order in which a schema lists its entries does not matter: if a
validation has a report, so does that of the same entries in any other
order, and the two reports have one state, one verdict, one status and
the same findings. -/
theorem validate_perm {c : Checker} {r r' : Representation}
    {report : Report} (h : SameEntries r r') (ha : ToldApart r)
    (hreport : (c.validate r).value.2 = .ok report) :
    ∃ report', (c.validate r').value.2 = .ok report'
      ∧ report'.state = report.state ∧ report'.ok = report.ok
      ∧ report'.status = report.status
      ∧ report'.findings.Perm report.findings := by
  rcases Checker.validate_eq_ok.1 hreport with
    ⟨fault, hfault, hdeep, rfl⟩ | ⟨expected, hexp, hkeys, rfl⟩
  · -- without a catalog no entry is looked at
    exact ⟨_, Checker.validate_eq_ok.2 (Or.inl ⟨fault, hfault, hdeep,
      rfl⟩), rfl, rfl, rfl, List.Perm.refl _⟩
  · have hkeys' : r'.HasKeys := fun raw hraw =>
      hkeys raw (h.dynamicFields.mem_iff.2 hraw)
    have hfindings : (c.reportOn expected r').findings.Perm
        (c.reportOn expected r).findings :=
      ((complaints_perm h ha).append (findingsOn_perm h ha expected)).symm
    obtain ⟨hok, hstatus⟩ := Report.ok_eq_of_perm
      (show (c.reportOn expected r').state
        = (c.reportOn expected r).state from rfl) hfindings
    exact ⟨_, Checker.validate_eq_ok.2 (Or.inr ⟨expected, hexp, hkeys',
      rfl⟩), rfl, hok, hstatus, hfindings⟩

/-- The sample representation with its fields the other way round. -/
def Representation.reversed : Representation :=
  { Representation.sample with
    fields := Representation.sample.fields.reverse }

/-- The sample representation has entries that are told apart, and with
its fields the other way round it is validated to the same findings. -/
theorem validate_perm_reversed :
    SameEntries .sample .reversed ∧ ToldApart .sample
      ∧ ∃ report report', (Checker.sample.validate .sample).value.2
          = .ok report
        ∧ (Checker.sample.validate .reversed).value.2 = .ok report'
        ∧ report'.state = report.state ∧ report'.ok = report.ok
        ∧ report'.status = report.status
        ∧ report'.findings.Perm report.findings := by
  have hsame : SameEntries .sample .reversed :=
    ⟨(List.reverse_perm _).symm, List.Perm.refl _, List.Perm.refl _⟩
  have hapart : ToldApart .sample :=
    ⟨by decide +kernel, by decide +kernel, by decide +kernel⟩
  have hreport := Checker.validate_eq_ok (c := .sample) (r := .sample)
    |>.2 (Or.inr ⟨_, Checker.expectation_of_isLoaded rfl
      Cache.isLoaded_sample, Representation.hasKeys_sample, rfl⟩)
  obtain ⟨report', h⟩ := validate_perm hsame hapart hreport
  exact ⟨hsame, hapart, _, report', hreport, h⟩

end SchemaAudit
