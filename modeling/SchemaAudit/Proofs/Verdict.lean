/-
The verdict, exactly. `Conforms` says in terms of the raw entries what
it means for a live schema to agree with the expected one, and
`ok_iff_conforms` that a validation with a loaded cache comes out well
if and only if that is so.

# What agreement is made of

`Conforms` has three parts, one for each way to go wrong:

- the entries: every static and every managed dynamic entry converts to
  a field, and every copy field entry fits the fields that were read
  (`CopyFits`);
- the fields: each expected field has a live one of its name, of the
  same type, with the same value in effect for every property but the
  name (`Covers`);
- the copy fields: each expected one is there, whatever its limit.

The fields are looked up among the entries (`firstNamed?`), not in the
table that was read, so that the condition can be read without the code
that builds that table. Entries given twice, destinations fed more than
once, other limits and what only the engine has are no part of it: they
give findings, none of which is an error.

# How the equivalence goes

A report is well if its run came to its end and found no error, and the
findings are those of reading followed by those of comparing. So the
verdict is a conjunction of one condition per stage
(`errorFree_complaints`, `errorFree_findingsOn`,
`errorFree_reconcileFields_iff_covers`), and the main statement only
reorders it. The types of the expected fields are taken from the
catalog: what neither of two fields sets is compared through the names
of their types alone, and in the catalog a name tells what a type sets.
-/
import SchemaAudit.Proofs.Checker
import SchemaAudit.Proofs.Expected.History
import SchemaAudit.Proofs.Reconcile

namespace SchemaAudit

/-- Two fields agree: one type, and one value in effect for every property
but the name. The value in effect is that of the field itself, else that
of its type, so a property that a field leaves to its type agrees with the
same value given outright. -/
def Field.Agrees (e l : Field) : Prop :=
  e.type.name = l.type.name
    ∧ ∀ p, p ≠ .name → e.effective p = l.effective p

/-- Every expected field has an entry of its name, and the first such
entry that converts agrees with it. The first, since an entry of a name
that is taken is reported and dropped. -/
def Covers (kind : FieldKind) (entries : List RawEntry)
    (expected : Table String Field) : Prop :=
  ∀ e ∈ expected.values, ∃ f,
    firstNamed? (converted kind entries) e.name = some f ∧ e.Agrees f

/-- A representation, read as a live schema, agrees with the expected
schema. That entries convert and fit says that reading finds no error,
that expected fields and copy fields are covered says that comparing finds
none. -/
structure Conforms (expected : Schema) (r : Representation)
    (live : Schema) : Prop where
  statics_convert : ∀ raw ∈ r.fields, ∃ f, Field.ofWire .static raw = .ok f
  dynamics_convert : ∀ raw ∈ r.managed,
    ∃ f, Field.ofWire .dynamic raw = .ok f
  copies_fit : ∀ raw ∈ r.copyFields,
    CopyFits live.statics live.dynamics raw
  statics_covered : Covers .static r.fields expected.statics
  dynamics_covered : Covers .dynamic r.managed expected.dynamics
  copies_covered : ∀ c ∈ expected.copies, ∃ l ∈ live.copies, l.key = c.key

-- ========================================================= the findings

/-- Reading finds no error exactly if all field entries convert and all
copy field entries fit. The three sections are read one after the other,
and the complaints of each are independent of those before it. -/
theorem errorFree_complaints {r : Representation} :
    ErrorFree r.complaints ↔
      (∀ raw ∈ r.fields, ∃ f, Field.ofWire .static raw = .ok f)
        ∧ (∀ raw ∈ r.managed, ∃ f, Field.ofWire .dynamic raw = .ok f)
        ∧ ∀ raw ∈ r.copyFields, CopyFits r.statics r.dynamics raw := by
  unfold Representation.complaints
  rw [errorFree_append, errorFree_append, errorFree_readFieldsOnto,
    errorFree_readFieldsOnto, errorFree_readCopiesOnto, and_assoc]

/-- Comparing finds no error exactly if reconciling does not: a
destination fed more than once is a warning, so the fan-ins that are
reported before the comparison never decide the verdict. -/
theorem errorFree_findingsOn {live expected : Schema} :
    ErrorFree (Checker.findingsOn live (some expected)) ↔
      ErrorFree (reconcile expected live) := by
  unfold Checker.findingsOn
  rw [errorFree_append]
  apply and_iff_right
  intro f hf
  obtain ⟨fanIn, -, rfl⟩ := List.mem_map.1 hf
  rfl

/-- Fields are reconciled without an error exactly if the entries that
were read cover them. The hypotheses say what the two tables are: the
expected one holds each field under its own name, with a type of the
catalog, and the live one holds what the first entry of a name that
converts gives. -/
theorem errorFree_reconcileFields_iff_covers {kind : FieldKind}
    {expected live : Table String Field} {entries : List RawEntry}
    (hnamed : Named expected)
    (htypes : ∀ f ∈ expected.values, f.type ∈ FieldType.catalog)
    (hlive : ∀ name,
      live.get? name = firstNamed? (converted kind entries) name) :
    ErrorFree (reconcileFields kind expected live) ↔
      Covers kind entries expected := by
  -- what is read has types of the catalog, so differing is disagreeing
  have hagree : ∀ name e l, expected.get? name = some e →
      live.get? name = some l →
      (e.differences l = [] ↔ e.Agrees l) := by
    intro name e l he hl
    rw [hlive] at hl
    obtain ⟨raw, -, hraw⟩ := mem_converted.1
      (List.mem_of_find?_eq_some hl)
    exact Field.differences_eq_nil
      (htypes e ((Table.mem_values _).2 ⟨name, he⟩))
      (Field.of_ofWire hraw).2.1
  rw [errorFree_reconcileFields]
  constructor
  · intro h e he
    obtain ⟨name, hname⟩ := (Table.mem_values _).1 he
    obtain ⟨l, hl, hnil⟩ := h name e hname
    refine ⟨l, ?_, (hagree name e l hname hl).1 hnil⟩
    rw [hnamed name e hname, ← hlive, hl]
  · intro h name e hname
    obtain ⟨l, hl, ha⟩ := h e ((Table.mem_values _).2 ⟨name, hname⟩)
    rw [hnamed name e hname, ← hlive] at hl
    exact ⟨l, hl, (hagree name e l hname hl).2 ha⟩

-- ========================================================== the verdict

/-- A report is well exactly if its run came to its end and found no
error. The state of a report on a schema that was read is always the last
one, so only the findings are left to decide. -/
theorem ok_reportOn {c : Checker} {expected : Option Schema}
    {r : Representation} :
    (c.reportOn expected r).ok = true ↔
      ErrorFree r.complaints
        ∧ ErrorFree (Checker.findingsOn r.live expected) := by
  rw [← errorFree_append]
  unfold Report.ok Report.hasErrors
  rw [Bool.and_eq_true, Bool.not_eq_true', List.any_eq_false]
  refine (and_iff_right rfl).trans (forall₂_congr fun f _ => ?_)
  exact Bool.not_eq_true _ ▸ Iff.rfl

/-- The verdict is exact: with a loaded cache whose fields have types of
the catalog, a validation comes out well if and only if the live schema
that is parsed agrees with the expected one. The cache is any that a
history of loads and registrations leads to, and the representation any on
which the validation returns a report. -/
theorem ok_iff_conforms {fullText : Field} {maxChars : Json}
    {steps : List Cache.Step} {cache : Cache} {catalog : Catalog}
    {c : Checker} {r : Representation} {report : Report}
    (hcache : cache = (Cache.new fullText maxChars).run steps)
    (hexpected : c.expected = some (catalog, cache))
    (hloaded : cache.isLoaded = true)
    (hstatics : ∀ f ∈ cache.content.statics.values,
      f.type ∈ FieldType.catalog)
    (hdynamics : ∀ f ∈ cache.content.dynamics.values,
      f.type ∈ FieldType.catalog)
    (hreport : (c.validate r).value.2 = .ok report) :
    ∃ live read, (c.parse r).value = .ok (live, read)
      ∧ (report.ok = true ↔ Conforms cache.content r live) := by
  have hnamed : cache.IsNamed :=
    hcache ▸ Cache.isNamed_run fullText maxChars steps
  have hexp := Checker.expectation_of_isLoaded hexpected hloaded
  rcases Checker.validate_eq_ok.1 hreport with
    ⟨fault, hfault, -⟩ | ⟨expected, hok, hkeys, rfl⟩
  · rw [hexp] at hfault
    cases hfault
  -- the cache is loaded, so its content is what is expected
  rw [hexp] at hok
  injection hok with hok
  subst hok
  refine ⟨r.live, _, Checker.parse_of_hasKeys hkeys, ?_⟩
  -- either section agrees exactly if no error is found on it
  have hstatic : ErrorFree (reconcileFields .static
        cache.content.statics r.live.statics) ↔
      Covers .static r.fields cache.content.statics :=
    errorFree_reconcileFields_iff_covers hnamed.statics hstatics
      Representation.get?_statics
  have hdynamic : ErrorFree (reconcileFields .dynamic
        cache.content.dynamics r.live.dynamics) ↔
      Covers .dynamic r.managed cache.content.dynamics :=
    errorFree_reconcileFields_iff_covers hnamed.dynamics hdynamics
      Representation.get?_dynamics
  rw [ok_reportOn, errorFree_complaints, errorFree_findingsOn,
    errorFree_reconcile, hstatic, hdynamic, errorFree_reconcileCopies]
  constructor
  · intro h
    obtain ⟨⟨hs, hd, hc⟩, hcs, hcd, hcc⟩ := h
    exact ⟨hs, hd, hc, hcs, hcd, hcc⟩
  · intro h
    obtain ⟨hs, hd, hc, hcs, hcd, hcc⟩ := h
    exact ⟨⟨hs, hd, hc⟩, hcs, hcd, hcc⟩

/-- The sample cache is loaded and its fields have types of the catalog,
so the verdict of a validation with it is exact. -/
theorem ok_iff_conforms_sample :
    Cache.sample.isLoaded = true
      ∧ ∃ report live read,
        (Checker.sample.validate .sample).value.2 = .ok report
          ∧ (Checker.sample.parse .sample).value = .ok (live, read)
          ∧ (report.ok = true ↔
            Conforms Cache.sample.content .sample live) := by
  have hreport := Checker.validate_eq_ok (c := .sample) (r := .sample)
    |>.2 (Or.inr ⟨_, Checker.expectation_of_isLoaded rfl
      Cache.isLoaded_sample, Representation.hasKeys_sample, rfl⟩)
  obtain ⟨live, read, hparse, hiff⟩ :=
    ok_iff_conforms rfl rfl Cache.isLoaded_sample
      (fun f hf => (Cache.isSound_sample.statics f hf).type_mem)
      (fun f hf => (Cache.isSound_sample.dynamics f hf).1.type_mem)
      hreport
  exact ⟨Cache.isLoaded_sample, _, live, read, hreport, hparse, hiff⟩

end SchemaAudit
