/-
Counters and reports. A run is counted where its report is handed out
and nowhere else: a call that returns a report has counted this one
report, and a call that ends without one has counted nothing
(`metrics_perform`). Over any row of calls the counters hence grow by
the reports that were returned (`metrics_run`), and from zero they tell
how many of them ended in a state, and how many findings of a kind and a
severity they hold (`counts_run`).

# What a row may hold

The calls of a row may be of any sort: validations and checks of any
source, whether they come to a report or not, and in between whatever
can be done to the cache or to the catalog behind it. A call that raises
is one of them: it returns no report, and nothing is counted for it,
although it may have logged and looked at the schema before.
-/
import SchemaAudit.Proofs.Checker

namespace SchemaAudit

-- ============================================================== counting

/-- The findings of a kind and a severity in a row of reports, one report
after the other. -/
def findingsOf (k : FindingKind) (v : Severity) (reports : List Report) :
    List Finding :=
  (reports.flatMap Report.findings).filter fun f =>
    f.kind = k ∧ f.severity = v

namespace Counts

variable {κ : Type} [DecidableEq κ]

theorem bumpAll_append (t : Counts κ) (ks js : List κ) :
    bumpAll t (ks ++ js) = bumpAll (bumpAll t ks) js :=
  List.foldl_append

/-- Members of a list count under the label that each of them has, so a
count grows by the number of members with this label. -/
theorem count_bumpAll_map {α : Type} (t : Counts κ) (label : α → κ)
    (as : List α) (k : κ) :
    count (bumpAll t (as.map label)) k
      = count t k + (as.filter fun a => label a = k).length := by
  rw [count_bumpAll, List.count_eq_length_filter, List.filter_map,
    List.length_map]
  rfl

end Counts

namespace Metrics

/-- The counters after a row of reports. -/
def recordAll (m : Metrics) (reports : List Report) : Metrics :=
  reports.foldl record m

theorem recordAll_append (m : Metrics) (rs ss : List Report) :
    m.recordAll (rs ++ ss) = (m.recordAll rs).recordAll ss :=
  List.foldl_append

/-- Every report counts once under its state, and in no other way. -/
theorem checks_recordAll (m : Metrics) (reports : List Report) :
    (m.recordAll reports).checks
      = Counts.bumpAll m.checks (reports.map Report.state) := by
  induction reports generalizing m with
  | nil => rfl
  | cons r rest ih => exact ih (m.record r)

/-- Every finding of a report counts once under its kind and severity,
also where several findings of one report agree in them. -/
theorem findings_recordAll (m : Metrics) (reports : List Report) :
    (m.recordAll reports).findings
      = Counts.bumpAll m.findings
        ((reports.flatMap Report.findings).map fun f =>
          (f.kind, f.severity)) := by
  induction reports generalizing m with
  | nil => rfl
  | cons r rest ih =>
      rw [List.flatMap_cons, List.map_append, Counts.bumpAll_append]
      exact ih (m.record r)

end Metrics

namespace Checker

-- ================================================================= calls

/-- What can be done with a checker: it validates or checks, its cache is
loaded, reloaded or given a field, or the catalog behind it changes. -/
inductive Call (ε : Type) where
  | validate (r : Representation)
  | check (source : Logged (Except (SourceFault ε) Representation))
  | cache (step : Cache.Step)
  | catalog (catalog : Catalog)

variable {ε : Type}

/-- A checker after a call, and the report that the call returned, if it
returned one. -/
def perform (c : Checker) : Call ε → Checker × Option Report
  | .validate r => ((c.validate r).value.1, (c.validate r).value.2.toOption)
  | .check source =>
      ((c.check source).value.1, (c.check source).value.2.toOption)
  | .cache step =>
      ({ c with expected := c.expected.map fun e => (e.1, e.2.after step) },
        none)
  | .catalog catalog =>
      ({ c with expected := c.expected.map fun e => (catalog, e.2) }, none)

/-- A checker after a row of calls, and the reports that were returned on
the way. -/
def run (c : Checker) : List (Call ε) → Checker × List Report
  | [] => (c, [])
  | call :: rest =>
      let (after, report?) := c.perform call
      let (last, reports) := after.run rest
      (last, report?.toList ++ reports)

-- ============================================================ one report

/-- All that a validation does before its end is not counted: neither the
load of the cache nor a finding that is not handed out. -/
theorem metrics_validateInto (c : Checker) (report : Report)
    (r : Representation) :
    (c.validateInto report r).value.1.metrics = c.metrics := by
  unfold validateInto
  rw [Logged.value_bind]
  cases (loadedExpected c.expected).value with
  | error fault =>
      cases h : fault.tooDeep? with
      | none =>
          simp only [h]
          rfl
      | some container =>
          simp only [h]
          rfl
  | ok expected =>
      simp only [Logged.value_bind]
      cases (readLive r).value <;> rfl

/-- A validation counts the report that it returns, and nothing if the
schema or the catalog makes it raise. -/
theorem metrics_validate (c : Checker) (r : Representation) :
    (c.validate r).value.1.metrics
      = c.metrics.recordAll (c.validate r).value.2.toOption.toList := by
  have hinto := metrics_validateInto c (Report.new c.collection) r
  unfold validate
  rw [Logged.value_bind]
  generalize (c.validateInto (Report.new c.collection) r).value = v
    at hinto
  obtain ⟨after, result⟩ := v
  cases result with
  | error fault => exact hinto
  | ok report => exact congrArg (Metrics.record · report) hinto

/-- A check counts the report that it returns, be it on a schema that was
read or on a source that failed. -/
theorem metrics_check (c : Checker)
    (source : Logged (Except (SourceFault ε) Representation)) :
    (c.check source).value.1.metrics
      = c.metrics.recordAll (c.check source).value.2.toOption.toList := by
  obtain ⟨fetched, lines⟩ := source
  cases fetched with
  | error fault => cases fault <;> rfl
  | ok r =>
      rw [value_check_of_ok, metrics_validate]
      cases (c.validate r).value.2 <;> rfl

/-- A call counts the report that it returns, and nothing if it returns
none. This is the step that a run repeats. -/
theorem metrics_perform (c : Checker) (call : Call ε) :
    (c.perform call).1.metrics
      = c.metrics.recordAll (c.perform call).2.toList := by
  cases call with
  | validate r => exact metrics_validate c r
  | check source => exact metrics_check c source
  | cache step => rfl
  | catalog catalog => rfl

-- ================================================================== runs

/-- A row of calls counts the reports that it returns, in the order in
which it returns them. -/
theorem metrics_run (c : Checker) (calls : List (Call ε)) :
    (c.run calls).1.metrics = c.metrics.recordAll (c.run calls).2 := by
  induction calls generalizing c with
  | nil => rfl
  | cons call rest ih =>
      show ((c.perform call).1.run rest).1.metrics
        = c.metrics.recordAll ((c.perform call).2.toList
          ++ ((c.perform call).1.run rest).2)
      rw [ih, metrics_perform, Metrics.recordAll_append]

/-- Over any row of calls on a checker whose counters start from zero,
the runs counted under a state are the returned reports in that state, and
the findings counted under a kind and a severity are those of the returned
reports, all of them taken together. On the way, a call that returns no
report changes no counter. -/
theorem counts_run (collection : Json) (expected : Option (Catalog × Cache))
    (calls : List (Call ε)) :
    let c : Checker := ⟨collection, expected, Metrics.zero⟩
    (∀ s, Counts.count (c.run calls).1.metrics.checks s
        = ((c.run calls).2.filter fun r => r.state = s).length)
      ∧ (∀ k v, Counts.count (c.run calls).1.metrics.findings (k, v)
        = (findingsOf k v (c.run calls).2).length)
      ∧ ∀ call : Call ε, ((c.run calls).1.perform call).2 = none →
        ((c.run calls).1.perform call).1.metrics
          = (c.run calls).1.metrics := by
  intro c
  refine ⟨fun s => ?_, fun k v => ?_, fun call hnone => ?_⟩
  · rw [metrics_run, Metrics.checks_recordAll, Counts.count_bumpAll_map]
    exact Nat.zero_add _
  · rw [metrics_run, Metrics.findings_recordAll, Counts.count_bumpAll_map]
    unfold findingsOf
    simp only [Prod.mk.injEq]
    exact Nat.zero_add _
  · rw [metrics_perform, hnone]
    rfl

end Checker

end SchemaAudit
