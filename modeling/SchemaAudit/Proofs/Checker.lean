/-
The outcome of a validation. Loading the cache comes first: if that
fails, the report says so, whatever the live schema is. Then the live
schema is read, and the report holds what the reading found and what the
comparison found (`validate_eq_ok`).

The code of a validation is one pass that logs, counts and returns; here
its result is taken apart, so that no later proof opens it again. Three
definitions name what a validation is about:

- `expectation` is what it compares with once the cache is loaded, or
  the fault of the catalog;
- `reportOn` is the report if there is such a thing, and `refusal` the
  report if there is not.

A validation has no report in two cases, and `validate_eq_ok` excludes
just these: a catalog that is nested too deeply to be read, and a
dynamic entry whose name cannot be looked up. All that is said elsewhere
of reports - on verdicts, findings, their order and the counters -
begins with this inversion.
-/
import SchemaAudit.Checker
import SchemaAudit.Proofs.Expected.History
import SchemaAudit.Proofs.Live.Reading

namespace SchemaAudit.Checker

/-- What a checker compares with once its cache is loaded: nothing if it
has no cache, the content of the cache if it has one, and the fault of the
catalog if the cache cannot be loaded. -/
def expectation (c : Checker) : Except BuildFault (Option Schema) :=
  (loadedExpected c.expected).value.map schema?

/-- The report on a schema that was read: what reading complained about,
then what comparing found, in this order. -/
def reportOn (c : Checker) (expected : Option Schema)
    (r : Representation) : Report :=
  { Report.new c.collection with
    state := .validated
    schemaVersion := versionJson r.version
    findings := r.complaints ++ findingsOn r.live expected }

/-- The report on a schema that there is nothing to compare with, for want
of a catalog. It has the version of the schema, since that is known before
the cache is loaded, and one finding. -/
def refusal (c : Checker) (fault : BuildFault) (r : Representation) :
    Report :=
  Report.fail
    { Report.new c.collection with
      state := .parsing
      schemaVersion := versionJson r.version }
    .catalog fault.message

variable {c : Checker} {r : Representation}

/-- When reading a schema into a report comes to its end, and what it
gives. The only way not to come to the end is a dynamic entry whose name
cannot be looked up. -/
theorem parse_eq_ok {result : Schema × Report} :
    (c.parse r).value = .ok result ↔
      r.HasKeys ∧ result
        = (r.live, (Report.new c.collection).addAll r.complaints) := by
  unfold parse
  rw [Logged.value_bind]
  show (readLive r).value.map _ = .ok result ↔ _
  rw [Outcome.map_eq_ok]
  constructor
  · intro h
    obtain ⟨found, hfound, rfl⟩ := h
    obtain ⟨hkeys, rfl⟩ := readLive_eq_ok.1 hfound
    exact ⟨hkeys, rfl⟩
  · intro h
    obtain ⟨hkeys, rfl⟩ := h
    exact ⟨_, readLive_eq_ok.2 ⟨hkeys, rfl⟩, rfl⟩

/-- Reading a schema whose dynamic entries can all be looked up gives the
live schema and a report of the complaints about its entries. -/
theorem parse_of_hasKeys (h : r.HasKeys) :
    (c.parse r).value
      = .ok (r.live, (Report.new c.collection).addAll r.complaints) :=
  parse_eq_ok.2 ⟨h, rfl⟩

/-- A loaded cache is compared with as it is: its catalog is not read
again, whatever became of it in the meantime. -/
theorem expectation_of_isLoaded {catalog : Catalog} {cache : Cache}
    (he : c.expected = some (catalog, cache))
    (hl : cache.isLoaded = true) :
    c.expectation = .ok (some cache.content) := by
  unfold expectation
  rw [he]
  show (if cache.isLoaded then _ else _ :
    Logged (Except BuildFault (Option (Catalog × Cache)))).value.map _ = _
  rw [if_pos hl]
  rfl

/-- A cache that is not loaded is compared with as it is once it holds
what its catalog gives, and a catalog that gives nothing leaves nothing to
compare with. -/
theorem expectation_of_not_isLoaded {catalog : Catalog} {cache : Cache}
    (he : c.expected = some (catalog, cache))
    (hl : cache.isLoaded = false) :
    c.expectation
      = (catalog.yield cache.fullText cache.maxChars).map fun e =>
          some (cache.extended e.1 e.2).content := by
  unfold expectation loadedExpected
  simp only [he, hl, Bool.false_eq_true, if_false, Logged.value_bind,
    Cache.value_load]
  cases catalog.yield cache.fullText cache.maxChars <;> rfl

/-- What is compared with is what the cache holds, or what it holds once
its catalog is loaded. Either way it is a content that a history of the
cache leads to, so what holds of all histories holds of it. -/
theorem eq_content_of_expectation {catalog : Catalog} {cache : Cache}
    {expected : Option Schema} (he : c.expected = some (catalog, cache))
    (h : c.expectation = .ok expected) :
    expected = some cache.content
      ∨ expected = some (cache.after (.load catalog)).content := by
  cases hl : cache.isLoaded with
  | true =>
      rw [expectation_of_isLoaded he hl] at h
      injection h with h
      exact Or.inl h.symm
  | false =>
      right
      rw [expectation_of_not_isLoaded he hl] at h
      obtain ⟨built, hy, rfl⟩ := Outcome.map_eq_ok.1 h
      rw [Cache.after_load_of_ok hy]

/-- Where there is nothing to compare with, loading is what failed. This
turns a fault of `expectation` back into one of the code that a validation
runs. -/
theorem loadedExpected_of_error {fault : BuildFault}
    (h : c.expectation = .error fault) :
    (loadedExpected c.expected).value = .error fault := by
  unfold expectation at h
  cases hl : (loadedExpected c.expected).value with
  | error f =>
      rw [hl] at h
      injection h with h
      rw [h]
  | ok e =>
      rw [hl] at h
      cases h

/-- A validation with nothing to compare with ends on the catalog: with a
report that says so, or with none if the text of the catalog is nested too
deeply. -/
theorem validate_of_error {fault : BuildFault}
    (h : c.expectation = .error fault) :
    (c.validate r).value.2
      = match fault.tooDeep? with
        | some container => .error (.tooDeep container)
        | none => .ok (c.refusal fault r) := by
  unfold validate
  rw [Logged.value_bind]
  unfold validateInto
  rw [Logged.value_bind, loadedExpected_of_error h]
  cases ht : fault.tooDeep? with
  | some container =>
      simp only [ht]
      rfl
  | none =>
      simp only [ht]
      rfl

/-- A validation with nothing to compare with leaves the cache alone, so a
later one tries to load it again. -/
theorem expected_validate_of_error {fault : BuildFault}
    (h : c.expectation = .error fault) :
    (c.validate r).value.1.expected = c.expected := by
  unfold validate
  rw [Logged.value_bind]
  unfold validateInto
  rw [Logged.value_bind, loadedExpected_of_error h]
  cases ht : fault.tooDeep? with
  | some container =>
      simp only [ht]
      rfl
  | none =>
      simp only [ht]
      rfl

/-- A validation that need not wait for a catalog ends as reading the live
schema does: with a report, or on a name that cannot be looked up. -/
theorem validate_of_ok {expected : Option Schema}
    (h : c.expectation = .ok expected) :
    (c.validate r).value.2
      = match (readLive r).value with
        | .error fault => .error (.key fault)
        | .ok _ => .ok (c.reportOn expected r) := by
  obtain ⟨e, hl, rfl⟩ := Outcome.map_eq_ok.1 h
  unfold validate
  rw [Logged.value_bind]
  unfold validateInto
  rw [Logged.value_bind, hl]
  simp only [Logged.value_bind]
  cases hr : (readLive r).value with
  | error fault => rfl
  | ok result =>
      obtain ⟨-, rfl⟩ := readLive_eq_ok.1 hr
      rfl

/-- When a validation has a report, and which. The two cases are
exclusive, since there is something to compare with or there is not, and
between them they name the whole report. -/
theorem validate_eq_ok {report : Report} :
    (c.validate r).value.2 = .ok report ↔
      (∃ fault, c.expectation = .error fault ∧ fault.tooDeep? = none
          ∧ report = c.refusal fault r)
        ∨ ∃ expected, c.expectation = .ok expected ∧ r.HasKeys
          ∧ report = c.reportOn expected r := by
  cases he : c.expectation with
  | error fault =>
      rw [validate_of_error he]
      cases ht : fault.tooDeep? with
      | some container => simp [ht]
      | none => simp [ht, eq_comm]
  | ok expected =>
      rw [validate_of_ok he]
      cases hr : (readLive r).value with
      | error fault =>
          have hk : ¬ r.HasKeys := fun hk => by
            rw [readLive_eq_ok.2 ⟨hk, rfl⟩] at hr
            cases hr
          simp [hk]
      | ok result =>
          simp [(readLive_eq_ok.1 hr).1, eq_comm]

/-- When a validation that has something to compare with, or need not
compare, has a report, and which. This is the case of `validate_eq_ok`
that all statements about findings use. -/
theorem validate_eq_ok_of_expectation {expected : Option Schema}
    (h : c.expectation = .ok expected) {report : Report} :
    (c.validate r).value.2 = .ok report ↔
      r.HasKeys ∧ report = c.reportOn expected r := by
  rw [validate_eq_ok, h]
  simp

/-- A check of what was fetched is its validation; a fault of the
validation is passed on as an interruption, of which the source has no
say. -/
theorem value_check_of_ok {ε : Type} {lines : List LogLine} :
    (c.check (ε := ε) ⟨.ok r, lines⟩).value
      = ((c.validate r).value.1,
        (c.validate r).value.2.mapError .interrupted) := by
  unfold check
  rw [Logged.value_bind]
  rfl

/-- A checker with the sample cache. -/
def sample : Checker :=
  ⟨.str "books", some (.listed [], Cache.sample), Metrics.zero⟩

end SchemaAudit.Checker
