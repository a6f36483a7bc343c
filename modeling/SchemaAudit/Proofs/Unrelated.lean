/-
Unrelated fields do no harm. One more entry among the static fields of a
live schema, that converts to a field which is not expected, not read
from another entry and no end of a copy field entry, changes a report in
one way: the field is told to be only live, among the others of which
this is told and in the order of their names (`validate_insertField`).

# One more field

The fields read are then those read before and one more (`OneMore`).
That is all that the rest of the reading and the comparison see of the
entry, and wherever they look up a name, it is another one. So each
later stage is a congruence: the other entries of the section draw the
findings they drew, since none converts to a field of the new name; the
ends of copy fields mean what they meant; and what is found on expected
fields depends on look-ups under expected names.

# One more finding

Among names in ascending order a new one is seen in one place and moves
no other, so the finding stands between two parts of a list that is
otherwise the same. It is for information only, and therefore changes
neither the verdict nor the status nor an exit code
(`Report.verdict_eq_of_info`).

The three conditions are each needed. A field that is expected is no
longer missing once it is there; one that was read already makes the new
entry a repetition; and one that a copy field refers to decides about
that copy field.
-/
import SchemaAudit.Proofs.Checker
import SchemaAudit.Proofs.Reconcile

namespace SchemaAudit

-- ============================================================= one more

/-- The fields of a table and one more, under a new name, as far as
look-ups can tell. Where it stands among them is not said. -/
structure OneMore (f : Field) (t t' : Table String Field) : Prop where
  new : f.name ∉ t.keys
  get? : ∀ name, t'.get? name
    = if name = f.name then some f else t.get? name

namespace OneMore

variable {f : Field} {t t' : Table String Field}

/-- Under another name a look-up finds what it found before. -/
theorem get?_of_ne (h : OneMore f t t') {name : String}
    (hname : name ≠ f.name) : t'.get? name = t.get? name := by
  rw [h.get?, if_neg hname]

theorem mem_keys (h : OneMore f t t') {name : String} :
    name ∈ t'.keys ↔ name = f.name ∨ name ∈ t.keys := by
  by_cases hname : name = f.name
  · have hget : t'.get? name = some f := by rw [h.get?, if_pos hname]
    exact iff_of_true ((Table.mem_keys _).2 ⟨f, hget⟩) (Or.inl hname)
  · rw [or_iff_right hname, Table.mem_keys, Table.mem_keys,
      h.get?_of_ne hname]

/-- The names are those of before and the new one, in some order. -/
theorem keys_perm (h : OneMore f t t') :
    t'.keys.Perm (f.name :: t.keys) := by
  have hn : (f.name :: t.keys).Nodup :=
    List.nodup_cons.2 ⟨h.new, t.nodup_keys⟩
  refine (List.perm_ext_iff_of_nodup t'.nodup_keys hn).2 fun name => ?_
  rw [List.mem_cons]
  exact h.mem_keys

variable {expected : Table String Field}

/-- If the name is not expected, it is one more among the names that are
only live, behind the smaller ones and before the larger. -/
theorem exists_onlyIn (h : OneMore f t t') (hf : f.name ∉ expected.keys) :
    ∃ smaller larger, onlyIn t expected = smaller ++ larger
      ∧ onlyIn t' expected = smaller ++ f.name :: larger := by
  have hnot : (!expected.contains f.name) = true := by
    rw [Bool.not_eq_true', ← Bool.not_eq_true, Table.contains_iff]
    exact hf
  have hperm := h.keys_perm.filter fun name => !expected.contains name
  rw [List.filter_cons_of_pos (p := fun name => !expected.contains name)
    hnot] at hperm
  exact exists_sortNames_cons (t'.nodup_keys.filter _) hperm

/-- If the name is not expected, it is only live, and that is all there is
to find on it. What is found behind this group of findings is the same
list. -/
theorem exists_reconcileFields (h : OneMore f t t') (kind : FieldKind)
    (hf : f.name ∉ expected.keys) :
    ∃ smaller larger rest,
      reconcileFields kind expected t
          = (smaller ++ larger).map (liveOnlyField kind) ++ rest
        ∧ reconcileFields kind expected t'
          = (smaller ++ f.name :: larger).map (liveOnlyField kind) ++ rest
        ∧ onlyIn t expected = smaller ++ larger
        ∧ onlyIn t' expected = smaller ++ f.name :: larger := by
  obtain ⟨smaller, larger, honly, honly'⟩ := h.exists_onlyIn hf
  have hexpected : onExpected kind expected t'
      = onExpected kind expected t := by
    apply onExpected_congr
    intro name hname
    exact h.get?_of_ne fun heq => hf (heq ▸ hname)
  refine ⟨smaller, larger, onExpected kind expected t, ?_, ?_, honly,
    honly'⟩
  · rw [reconcileFields_eq, honly]
  · rw [reconcileFields_eq, honly', hexpected]

end OneMore

-- ============================================================== reading

/-- A representation with one more field entry, behind the first ones, or
at the end if there are fewer. -/
def Representation.insertField (r : Representation) (place : Nat)
    (raw : RawEntry) : Representation :=
  { r with fields := r.fields.take place ++ raw :: r.fields.drop place }

/-- A field that has nothing to do with what is expected or read: its name
is not expected and not read, and no end of a copy field entry. -/
structure Unrelated (expected : Schema) (r : Representation)
    (f : Field) : Prop where
  unexpected : f.name ∉ expected.statics.keys
  unread : f.name ∉ r.statics.keys
  uncopied : ∀ entry ∈ r.copyFields, rawValue .source entry ≠ .str f.name
    ∧ rawValue .dest entry ≠ .str f.name

section

variable {r : Representation} {raw : RawEntry} {f : Field}

/-- No entry before or behind the new one converts to a field of its name,
since such a field would have been read. -/
theorem name_notMem_converted (hf : f.name ∉ r.statics.keys)
    (place : Nat) :
    f.name ∉ (converted .static (r.fields.take place)).map Field.name
      ∧ f.name ∉ (converted .static (r.fields.drop place)).map
        Field.name := by
  unfold Representation.statics at hf
  rw [mem_keys_readFieldsOnto, ← List.take_append_drop place r.fields,
    converted_append, List.map_append, List.mem_append, not_or] at hf
  exact hf

/-- The fields that are read are those read before and one more, wherever
the entry stands. -/
theorem oneMore_statics (hread : Field.ofWire .static raw = .ok f)
    (hf : f.name ∉ r.statics.keys) (place : Nat) :
    OneMore f r.statics (r.insertField place raw).statics where
  new := hf
  get? := by
    intro name
    have hfront := firstNamed?_eq_none.2 (name_notMem_converted hf place).1
    have hall : r.fields = r.fields.take place ++ r.fields.drop place :=
      (List.take_append_drop ..).symm
    have hnew : (r.insertField place raw).fields
        = r.fields.take place ++ raw :: r.fields.drop place := rfl
    rw [Representation.get?_statics, Representation.get?_statics, hnew,
      converted_append, converted_cons_of_ok hread, firstNamed?_append]
    by_cases hname : name = f.name
    · rw [if_pos hname, hname, hfront, firstNamed?_cons_self]
      rfl
    · rw [if_neg hname, firstNamed?_cons_of_ne (Ne.symm hname),
        ← firstNamed?_append, ← converted_append, ← hall]

/-- The new entry leaves no finding, and the others leave theirs: those
before it are read as they were, and those behind it ask for other names.
-/
theorem snd_readFieldsOnto_insertField
    (hread : Field.ofWire .static raw = .ok f)
    (hf : f.name ∉ r.statics.keys) (place : Nat) :
    (readFieldsOnto .static Table.empty
        (r.insertField place raw).fields).2
      = (readFieldsOnto .static Table.empty r.fields).2 := by
  obtain ⟨hfront, hback⟩ := name_notMem_converted hf place
  let parsed :=
    (readFieldsOnto .static Table.empty (r.fields.take place)).1
  have hnew : fieldOutcome .static parsed raw = .ok f :=
    fieldOutcome_of_notMem hread fun hmem =>
      hfront (mem_keys_readFieldsOnto.1 hmem)
  have hrest : (readFieldsOnto .static (parsed.insertNew f.name f)
        (r.fields.drop place)).2
      = (readFieldsOnto .static parsed (r.fields.drop place)).2 := by
    apply snd_readFieldsOnto_congr
    intro g hg
    -- no field behind the new one has its name
    have hne : g.name ≠ f.name := fun heq =>
      hback (heq ▸ List.mem_map_of_mem hg)
    rw [Table.keys_insertNew]
    split
    case isTrue => rfl
    case isFalse =>
        rw [List.mem_append, List.mem_singleton, or_iff_left hne]
  have hsplit : (r.insertField place raw).fields
      = r.fields.take place ++ raw :: r.fields.drop place := rfl
  conv_rhs => rw [← List.take_append_drop place r.fields]
  rw [hsplit, readFieldsOnto_append, readFieldsOnto_append,
    readFieldsOnto_cons_of_ok hnew]
  exact congrArg (_ ++ ·) hrest

/-- What an end that is not the new field means stays the same; an exact
name is another one, and templates are dynamic fields. -/
theorem resolveReference_insertField
    (hread : Field.ofWire .static raw = .ok f)
    (hf : f.name ∉ r.statics.keys) (place : Nat) {role : String}
    {value : Json} (hvalue : value ≠ .str f.name) :
    resolveReference role value (r.insertField place raw).statics
        r.dynamics
      = resolveReference role value r.statics r.dynamics := by
  apply resolveReference_congr
  intro name hname
  apply (oneMore_statics hread hf place).get?_of_ne
  exact fun heq => hvalue (heq ▸ hname)

/-- The copy fields are read as before, with the same complaints, since no
end of theirs is the new field. -/
theorem readCopiesOnto_insertField {expected : Schema}
    (hread : Field.ofWire .static raw = .ok f)
    (hu : Unrelated expected r f) (place : Nat) :
    readCopiesOnto (r.insertField place raw).statics r.dynamics []
        r.copyFields
      = readCopiesOnto r.statics r.dynamics [] r.copyFields := by
  apply readCopiesOnto_congr
  intro entry hentry
  obtain ⟨hsource, hdest⟩ := hu.uncopied entry hentry
  unfold copyOutcome
  rw [resolveReference_insertField hread hu.unread place hsource,
    resolveReference_insertField hread hu.unread place hdest]

/-- Reading complains of the same entries, and reads the same schema but
for the static fields. The stages of reading are put together here. -/
theorem live_insertField {expected : Schema}
    (hread : Field.ofWire .static raw = .ok f)
    (hu : Unrelated expected r f) (place : Nat) :
    (r.insertField place raw).complaints = r.complaints
      ∧ (r.insertField place raw).live
        = { r.live with
            statics := (r.insertField place raw).statics } := by
  have hcopies := readCopiesOnto_insertField hread hu place
  constructor
  · unfold Representation.complaints
    rw [snd_readFieldsOnto_insertField hread hu.unread place]
    exact congrArg (_ ++ ·.2) hcopies
  · exact congrArg
      (fun read => Schema.mk (r.insertField place raw).statics r.dynamics
        read.1) hcopies

end

-- ============================================================== reports

/-- One more finding that is only for information changes no verdict,
wherever among the findings it stands. -/
theorem Report.verdict_eq_of_info {report : Report}
    {front rest : List Finding} {f : Finding}
    (h : report.findings = front ++ rest) (hf : f.severity = .info) :
    { report with findings := front ++ f :: rest }.ok = report.ok
      ∧ { report with findings := front ++ f :: rest }.status
        = report.status
      ∧ ∀ failOnWarning,
        { report with findings := front ++ f :: rest }.exitCode
            failOnWarning
          = report.exitCode failOnWarning := by
  have herrors : { report with
      findings := front ++ f :: rest }.hasErrors = report.hasErrors := by
    unfold hasErrors
    rw [h, List.any_append, List.any_append, List.any_cons, hf]
    rfl
  have hwarnings : { report with
      findings := front ++ f :: rest }.hasWarnings
        = report.hasWarnings := by
    unfold hasWarnings
    rw [h, List.any_append, List.any_append, List.any_cons, hf]
    rfl
  unfold ok status exitCode
  rw [herrors, hwarnings]
  exact ⟨rfl, rfl, fun _ => rfl⟩

namespace Checker

variable {c : Checker} {r : Representation} {raw : RawEntry} {f : Field}

/-- The findings on a schema with one more unrelated field: those without
it, and that it is only live among the others of which this is told. -/
theorem findings_insertField {expected : Schema}
    (hread : Field.ofWire .static raw = .ok f)
    (hu : Unrelated expected r f) (place : Nat) :
    ∃ front smaller larger rest,
      (c.reportOn (some expected) r).findings
          = front ++ (smaller ++ larger).map (liveOnlyField .static) ++ rest
        ∧ (c.reportOn (some expected) (r.insertField place raw)).findings
          = front ++ (smaller ++ f.name :: larger).map
            (liveOnlyField .static) ++ rest
        ∧ onlyIn r.statics expected.statics = smaller ++ larger
        ∧ onlyIn (r.insertField place raw).statics expected.statics
          = smaller ++ f.name :: larger := by
  obtain ⟨hcomplaints, hlive⟩ := live_insertField hread hu place
  obtain ⟨smaller, larger, differing, hold, hnew, honly, honly'⟩ :=
    (oneMore_statics hread hu.unread place).exists_reconcileFields .static
      hu.unexpected
  refine ⟨r.complaints ++ (fanIns r.live.copies).map fanInFinding, smaller,
    larger, differing
      ++ reconcileFields .dynamic expected.dynamics r.live.dynamics
      ++ reconcileCopies expected.copies r.live.copies, ?_, ?_, honly,
    honly'⟩
  · show r.complaints ++ ((fanIns r.live.copies).map fanInFinding
      ++ (reconcileFields .static expected.statics r.statics ++ _ ++ _)) = _
    rw [hold]
    simp only [List.append_assoc]
  · show (r.insertField place raw).complaints
      ++ ((fanIns (r.insertField place raw).live.copies).map fanInFinding
        ++ reconcile expected (r.insertField place raw).live) = _
    unfold reconcile
    rw [hcomplaints, hlive, hnew]
    simp only [List.append_assoc]

/-- Where a validation with a loaded cache has a report, one more entry
that converts to an unrelated static field changes it in one way, wherever
the entry stands: behind the smaller and before the larger names of the
static fields that are only live, the report tells so of this name. All
other findings stay as they are and where they are, and state, verdict,
status and exit codes do not change. -/
theorem validate_insertField {catalog : Catalog} {cache : Cache}
    {report : Report} (hexpected : c.expected = some (catalog, cache))
    (hloaded : cache.isLoaded = true)
    (hread : Field.ofWire .static raw = .ok f)
    (hunrelated : Unrelated cache.content r f)
    (hreport : (c.validate r).value.2 = .ok report) (place : Nat) :
    ∃ report',
      (c.validate (r.insertField place raw)).value.2 = .ok report'
        ∧ (∃ front smaller larger rest,
          report.findings
              = front ++ (smaller ++ larger).map (liveOnlyField .static)
                ++ rest
            ∧ report' = { report with
              findings := front
                ++ (smaller ++ f.name :: larger).map
                  (liveOnlyField .static)
                ++ rest }
            ∧ Lists (smaller ++ larger) (fun name =>
              name ∈ r.statics.keys
                ∧ name ∉ cache.content.statics.keys)
            ∧ Lists (smaller ++ f.name :: larger) fun name =>
              name ∈ (r.insertField place raw).statics.keys
                ∧ name ∉ cache.content.statics.keys)
        ∧ report'.state = report.state ∧ report'.ok = report.ok
        ∧ report'.status = report.status
        ∧ ∀ failOnWarning,
          report'.exitCode failOnWarning
            = report.exitCode failOnWarning := by
  have hloadedAs := expectation_of_isLoaded hexpected hloaded
  obtain ⟨hkeys, rfl⟩ := (validate_eq_ok_of_expectation hloadedAs).1
    hreport
  obtain ⟨front, smaller, larger, rest, hold, hnew, honly, honly'⟩ :=
    findings_insertField (c := c) hread hunrelated place
  have hreport' : c.reportOn (some cache.content) (r.insertField place raw)
      = { c.reportOn (some cache.content) r with
          findings := front
            ++ (smaller ++ f.name :: larger).map (liveOnlyField .static)
            ++ rest } := by
    rw [← hnew]
    rfl
  -- the finding that is added stands between two parts of the others
  have hsplit : (c.reportOn (some cache.content) r).findings
      = (front ++ smaller.map (liveOnlyField .static))
        ++ (larger.map (liveOnlyField .static) ++ rest) := by
    rw [hold, List.map_append]
    simp only [List.append_assoc]
  have hplace : front
        ++ (smaller ++ f.name :: larger).map (liveOnlyField .static)
        ++ rest
      = (front ++ smaller.map (liveOnlyField .static))
        ++ liveOnlyField .static f.name
          :: (larger.map (liveOnlyField .static) ++ rest) := by
    rw [List.map_append, List.map_cons]
    simp only [List.append_assoc, List.cons_append]
  -- one more finding for information changes no verdict
  have hverdict := Report.verdict_eq_of_info hsplit
    (show (liveOnlyField .static f.name).severity = .info from rfl)
  refine ⟨_, (validate_eq_ok_of_expectation hloadedAs).2 ⟨hkeys, rfl⟩,
    ⟨front, smaller, larger, rest, hold, hreport',
      honly ▸ lists_onlyIn .., honly' ▸ lists_onlyIn ..⟩, rfl, ?_⟩
  rw [hreport', hplace]
  exact hverdict

/-- An entry for a summary, which is none of the fields of the samples. -/
def summaryEntry : RawEntry :=
  [("name", .str "summary"), ("type", .str "text_en")]

/-- A summary between the fields of the sample changes its report in this
way only. -/
theorem validate_insertField_summary :
    ∃ f report report',
      Field.ofWire .static summaryEntry = .ok f ∧ f.name = "summary"
        ∧ Unrelated Cache.sample.content .sample f
        ∧ (sample.validate .sample).value.2 = .ok report
        ∧ (sample.validate
          (Representation.sample.insertField 1 summaryEntry)).value.2
            = .ok report'
        ∧ (∃ front smaller larger rest,
          report.findings
              = front ++ (smaller ++ larger).map (liveOnlyField .static)
                ++ rest
            ∧ report'.findings
              = front
                ++ (smaller ++ "summary" :: larger).map
                  (liveOnlyField .static)
                ++ rest)
        ∧ report'.status = report.status := by
  have hread : ∃ f, Field.ofWire .static summaryEntry = .ok f
      ∧ f.name = "summary" := ⟨_, rfl, rfl⟩
  obtain ⟨f, hread, hname⟩ := hread
  have hunrelated : Unrelated Cache.sample.content .sample f := by
    refine ⟨?_, ?_, ?_⟩
    · rw [hname]
      decide +kernel
    · rw [hname]
      decide +kernel
    · -- the one copy field entry goes from the title to the full text
      intro entry hentry
      rw [List.mem_singleton.1 hentry, hname]
      constructor
      · intro h
        have hends : Json.str "title" = .str "summary" := h
        injection hends with hends
        exact absurd hends (by decide)
      · intro h
        have hends : Json.str "_text_" = .str "summary" := h
        injection hends with hends
        exact absurd hends (by decide)
  have hloaded : sample.expectation = .ok (some Cache.sample.content) :=
    expectation_of_isLoaded rfl Cache.isLoaded_sample
  have hreport := (validate_eq_ok_of_expectation hloaded).2
    ⟨Representation.hasKeys_sample, rfl⟩
  obtain ⟨report', hreport', ⟨front, smaller, larger, rest, hold, rfl, -⟩,
    -, -, hstatus, -⟩ := validate_insertField rfl Cache.isLoaded_sample
      hread hunrelated hreport 1
  refine ⟨f, _, _, hread, hname, hunrelated, hreport, hreport',
    ⟨front, smaller, larger, rest, hold, ?_⟩, hstatus⟩
  rw [hname]

end Checker

end SchemaAudit
