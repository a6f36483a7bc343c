/-
How a run ends, and what it tells its caller. State, failure, error and
findings of a report are set in different places, and the verdict, the
status and the exit code are each read off different ones of them. On a
report that a run can hand out they agree (`agrees_of_returns`).

# Reports that are over

Such a report is validated, or it is failed with a cause, a text and
nothing found (`Report.HasEnded`), and from that alone every reader
comes to the same conclusion (`Report.HasEnded.tells`). A report in
general need not be of this form: its parts are set one by one, and
nothing keeps a caller from setting them otherwise.

# Runs

There are three ways in which a checker comes to a report
(`returns_cases`): the source failed, the catalog did, or a schema was
read. A run fails for want of a catalog only if it had a cache to load,
and it leaves that cache as it was.
-/
import SchemaAudit.Proofs.Checker

namespace SchemaAudit

-- ============================================================== reports

namespace Report

/-- A report of a run that is over: it came to its end, or it failed with
a cause and a text before anything was found. It is an invariant of the
reports handed out, and speaks of the fields of the report only. -/
structure HasEnded (r : Report) : Prop where
  state : r.state = .validated ∨ r.state = .failed
  failure : r.state = .failed ↔ r.failure.isSome = true
  error : r.failure.isSome = true ↔ r.error.isSome = true
  findings : r.state = .failed → r.findings = []

/-- What a report tells: its status, and the exit code where warnings are
treated strictly or not. Each reading is an equivalence, so that none of
them can be had in another way. -/
structure Tells (r : Report) : Prop where
  failed : r.status = "failed" ↔ r.state = .failed
  invalid : r.status = "invalid" ↔
    r.state = .validated ∧ ∃ f ∈ r.findings, f.severity = .error
  ok : r.status = "ok" ↔ r.ok = true
  exits_one : ∀ strict, r.exitCode strict = 1 ↔
    r.failure = some .catalog
  exits_three : ∀ strict, r.exitCode strict = 3 ↔
    r.failure = some .transport ∨ r.failure = some .protocol
  exits_zero : ∀ strict, r.exitCode strict = 0 ↔
    r.ok = true
      ∧ (strict = false ∨ ∀ f ∈ r.findings, f.severity ≠ .warning)
  exits_two : ∀ strict, r.exitCode strict = 2 ↔
    r.failure = none
      ∧ ¬ (r.ok = true
        ∧ (strict = false ∨ ∀ f ∈ r.findings, f.severity ≠ .warning))

variable {r : Report}

/-- A report has errors exactly if one of its findings is one. -/
theorem hasErrors_eq_true :
    r.hasErrors = true ↔ ∃ f ∈ r.findings, f.severity = .error := by
  unfold hasErrors
  simp

/-- A report is without warnings exactly if none of its findings is one. -/
theorem hasWarnings_eq_false :
    r.hasWarnings = false ↔ ∀ f ∈ r.findings, f.severity ≠ .warning := by
  unfold hasWarnings
  simp

-- =========================================================== the readers

section

variable (h : r.state = .validated)
include h

/-- A run that came to its end is in order exactly if it found no error. -/
theorem ok_of_validated : r.ok = !r.hasErrors := by
  unfold ok
  rw [h]
  rfl

/-- The status of such a run goes by the errors alone, and not by the
warnings. -/
theorem status_of_validated :
    r.status = if r.hasErrors then "invalid" else "ok" := by
  unfold status
  rw [h]
  rfl

end

section

variable (h : r.state = .failed)
include h

/-- A run that failed is never in order, although it found nothing. -/
theorem ok_of_failed : r.ok = false := by
  unfold ok
  rw [h]
  rfl

theorem status_of_failed : r.status = "failed" := if_pos h

end

/-- The exit code tells a catalog that failed from a source that did,
whether warnings are treated strictly or not. -/
theorem exitCode_of_failure {k : FailureKind} (h : r.failure = some k)
    (strict : Bool) :
    r.exitCode strict = if k = .catalog then 1 else 3 := by
  unfold exitCode
  rw [h]
  cases k <;> rfl

/-- Without a failure the exit code goes by the findings, and by the
warnings among them if these are treated strictly. -/
theorem exitCode_of_none (h : r.failure = none) (strict : Bool) :
    r.exitCode strict
      = if r.hasErrors || (strict && r.hasWarnings) then 2 else 0 := by
  unfold exitCode
  rw [h]

/-- A run that is over failed for some reason, or came to its end for
none. The readers go by the one or the other, and this says that they go
the same way. -/
theorem HasEnded.cases_failure (h : r.HasEnded) :
    (r.state = .failed ∧ ∃ k, r.failure = some k)
      ∨ (r.state = .validated ∧ r.failure = none) := by
  rcases h.state with hs | hs
  · right
    refine ⟨hs, ?_⟩
    rw [← Option.not_isSome_iff_eq_none, ← h.failure, hs]
    exact RunState.noConfusion
  · left
    exact ⟨hs, Option.isSome_iff_exists.1 (h.failure.1 hs)⟩

/-- A run that failed is reported as such by its status, and its cause
gives the exit code; with nothing found there is nothing else to report. -/
theorem tells_of_failure (hs : r.state = .failed) {k : FailureKind}
    (hk : r.failure = some k) : r.Tells where
  failed := iff_of_true (status_of_failed hs) hs
  invalid := by
    rw [status_of_failed hs, hs]
    simp
  ok := by
    rw [status_of_failed hs, ok_of_failed hs]
    simp
  exits_one strict := by
    rw [exitCode_of_failure hk, hk]
    cases k <;> simp
  exits_three strict := by
    rw [exitCode_of_failure hk, hk]
    cases k <;> simp
  exits_zero strict := by
    rw [exitCode_of_failure hk, ok_of_failed hs]
    cases k <;> simp
  exits_two strict := by
    rw [exitCode_of_failure hk, hk]
    cases k <;> simp

/-- A run that came to its end is reported by what it found: status and
exit code go by the worst of it. -/
theorem tells_of_validated (hs : r.state = .validated)
    (hk : r.failure = none) : r.Tells where
  failed := by
    rw [status_of_validated hs, hs]
    cases r.hasErrors <;> simp
  invalid := by
    rw [status_of_validated hs, and_iff_right hs, ← hasErrors_eq_true]
    cases r.hasErrors <;> simp
  ok := by
    rw [status_of_validated hs, ok_of_validated hs]
    cases r.hasErrors <;> simp
  exits_one strict := by
    rw [exitCode_of_none hk, hk]
    split <;> simp
  exits_three strict := by
    rw [exitCode_of_none hk, hk]
    split <;> simp
  exits_zero strict := by
    rw [exitCode_of_none hk, ok_of_validated hs, ← hasWarnings_eq_false]
    cases r.hasErrors <;> cases strict <;> simp
  exits_two strict := by
    rw [exitCode_of_none hk, hk, ok_of_validated hs,
      ← hasWarnings_eq_false]
    cases r.hasErrors <;> cases strict <;> simp

/-- Verdict, status and exit code of a run that is over agree, each with
the state, the failure and the findings of its report. -/
theorem HasEnded.tells (h : r.HasEnded) : r.Tells := by
  rcases h.cases_failure with ⟨hs, k, hk⟩ | ⟨hs, hk⟩
  · exact tells_of_failure hs hk
  · exact tells_of_validated hs hk

/-- A run that failed before anything was found is over. -/
theorem hasEnded_fail (h : r.findings = []) (k : FailureKind)
    (message : String) : (r.fail k message).HasEnded where
  state := Or.inr rfl
  failure := iff_of_true rfl rfl
  error := iff_of_true rfl rfl
  findings _ := h

end Report

-- ================================================================ runs

namespace Checker

/-- A report that a checker hands out, from a validation or from a check
of any source, and the checker afterwards. -/
inductive Returns (c : Checker) : Checker → Report → Prop where
  | validate {r : Representation} {c' : Checker} {report : Report}
      (h : (c.validate r).value = (c', .ok report)) : c.Returns c' report
  | check {ε : Type} {c' : Checker} {report : Report}
      {source : Logged (Except (SourceFault ε) Representation)}
      (h : (c.check source).value = (c', .ok report)) :
      c.Returns c' report

/-- A cache that was there and not loaded is still there, as it was, so
that the next run can try to load it again. -/
def LeavesUnloaded (c c' : Checker) : Prop :=
  ∃ catalog cache, c.expected = some (catalog, cache)
    ∧ cache.isLoaded = false ∧ c'.expected = some (catalog, cache)

variable {c c' : Checker} {report : Report}

/-- The report on a schema that was read is validated, and has neither a
cause nor a text of failure. -/
theorem hasEnded_reportOn (c : Checker) (expected : Option Schema)
    (r : Representation) : (c.reportOn expected r).HasEnded where
  state := Or.inl rfl
  failure := iff_of_false RunState.noConfusion Bool.noConfusion
  error := Iff.rfl
  findings h := RunState.noConfusion h

/-- Only a cache that is to be loaded can leave nothing to compare with;
one that is loaded is taken as it is, and without a cache nothing is
compared. -/
theorem exists_of_expectation_eq_error {fault : BuildFault}
    (h : c.expectation = .error fault) :
    ∃ catalog cache, c.expected = some (catalog, cache)
      ∧ cache.isLoaded = false := by
  cases he : c.expected with
  | none =>
      unfold expectation at h
      rw [he] at h
      cases h
  | some e =>
      obtain ⟨catalog, cache⟩ := e
      refine ⟨catalog, cache, rfl, ?_⟩
      cases hl : cache.isLoaded with
      | false => rfl
      | true =>
          rw [expectation_of_isLoaded he hl] at h
          cases h

/-- What a validation hands out: the report on a catalog that failed,
which leaves the cache alone, or on a schema that was read. -/
theorem validate_cases {r : Representation}
    (h : (c.validate r).value = (c', .ok report)) :
    (∃ fault, report = c.refusal fault r ∧ c.LeavesUnloaded c')
      ∨ ∃ expected, report = c.reportOn expected r := by
  rcases validate_eq_ok.1 (congrArg Prod.snd h) with
    ⟨fault, he, -, hr⟩ | ⟨expected, -, -, hr⟩
  · left
    obtain ⟨catalog, cache, hc, hl⟩ := exists_of_expectation_eq_error he
    have hsame : c'.expected = c.expected := by
      rw [← expected_validate_of_error (r := r) he, h]
    exact ⟨fault, hr, catalog, cache, hc, hl, hsame.trans hc⟩
  · exact Or.inr ⟨expected, hr⟩

/-- What a checker hands out: the report on a source that failed, on a
catalog that did, or on a schema that was read. A source that fails is
never blamed on the catalog. -/
theorem returns_cases (h : c.Returns c' report) :
    (∃ k message, k ≠ FailureKind.catalog
        ∧ report = (Report.new c.collection).fail k message)
      ∨ (∃ r fault, report = c.refusal fault r ∧ c.LeavesUnloaded c')
      ∨ ∃ r expected, report = c.reportOn expected r := by
  cases h with
  | @validate r _ _ h =>
      rcases validate_cases h with hr | hr
      · exact Or.inr (Or.inl ⟨r, hr⟩)
      · exact Or.inr (Or.inr ⟨r, hr⟩)
  | @check ε _ _ source h =>
      obtain ⟨fetched, lines⟩ := source
      cases fetched with
      | error fault =>
          cases fault with
          | transport message =>
              injection h with _ hr
              injection hr with hr
              exact Or.inl ⟨.transport, message, by decide, hr.symm⟩
          | protocol message =>
              injection h with _ hr
              injection hr with hr
              exact Or.inl ⟨.protocol, message, by decide, hr.symm⟩
          | beyond cause => cases h
      | ok r =>
          -- a check whose source delivers hands out what the validation does
          rw [value_check_of_ok] at h
          obtain ⟨hchecker, hresult⟩ := Prod.mk.inj h
          have hvalue : (c.validate r).value = (c', .ok report) :=
            Prod.ext hchecker (Outcome.mapError_eq_ok.1 hresult)
          rcases validate_cases hvalue with hr | hr
          · exact Or.inr (Or.inl ⟨r, hr⟩)
          · exact Or.inr (Or.inr ⟨r, hr⟩)

/-- Whatever a checker hands out is the report of a run that is over, and
tells one thing to every reader; a run that fails for want of a catalog
leaves the cache unloaded, as it was. -/
theorem agrees_of_returns (h : c.Returns c' report) :
    report.HasEnded ∧ report.Tells
      ∧ (report.failure = some .catalog → c.LeavesUnloaded c') := by
  have hended : report.HasEnded
      ∧ (report.failure = some .catalog → c.LeavesUnloaded c') := by
    rcases returns_cases h with
      ⟨k, message, hk, rfl⟩ | ⟨r, fault, rfl, hleaves⟩ | ⟨r, expected, rfl⟩
    · refine ⟨Report.hasEnded_fail rfl k message, fun hcatalog => ?_⟩
      exact absurd (Option.some.inj hcatalog) hk
    · exact ⟨Report.hasEnded_fail rfl .catalog fault.message,
        fun _ => hleaves⟩
    · exact ⟨hasEnded_reportOn c expected r, fun hcatalog => by
        cases hcatalog⟩
  exact ⟨hended.1, hended.1.tells, hended.2⟩

/-- A checker with a cache to load from a catalog that is missing. -/
def unlisted : Checker :=
  ⟨.str "books", some (.file "catalog.json" .missing,
    Cache.new Cache.usualFullText (.int defaultMaxChars)), Metrics.zero⟩

/-- A validation that is to load its cache from a missing file is returned
as failed for want of a catalog. -/
theorem agrees_of_returns_unlisted :
    ∃ c' report, unlisted.Returns c' report
      ∧ report.failure = some .catalog
      ∧ report.HasEnded ∧ report.Tells ∧ unlisted.LeavesUnloaded c' := by
  have hreturns : unlisted.Returns _ _ :=
    .validate (r := .sample) rfl
  obtain ⟨hended, htells, hleaves⟩ := agrees_of_returns hreturns
  exact ⟨_, _, hreturns, rfl, hended, htells, hleaves rfl⟩

end Checker

end SchemaAudit
