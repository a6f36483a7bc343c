/-
Counters of a process: runs by their final state, findings by kind and
severity, and fetches by collection. A counter that was never touched
counts zero.

Counts are tables in the order in which labels were first met, since
this is the order in which the text of the counters lists them. The
counters are a value that is handed on: a run that counts returns those
after it, and whoever drops these drops what was counted. Of the times
that fetches take only their number is kept.
-/
import SchemaAudit.Data.Table
import SchemaAudit.Report

namespace SchemaAudit

/-- Counts by label. -/
abbrev Counts (κ : Type) := Table κ Nat

namespace Counts

variable {κ : Type} [DecidableEq κ]

/-- The count of a label. -/
def count (t : Counts κ) (k : κ) : Nat := (t.get? k).getD 0

/-- Count a label once more. -/
def bump (t : Counts κ) (k : κ) : Counts κ := t.put k (count t k + 1)

/-- Count the labels of a list once each. -/
def bumpAll (t : Counts κ) (ks : List κ) : Counts κ := ks.foldl bump t

/-- To count a label once more adds one to its count and nothing to any
other, whether it was counted before or not. -/
theorem count_bump (t : Counts κ) (k j : κ) :
    count (bump t k) j = count t j + if j = k then 1 else 0 := by
  by_cases h : j = k
  · subst h
    simp [count, bump, Table.get?_put]
  · simp [count, bump, Table.get?_put, h]

/-- To count the labels of a list adds to each count as often as its label
stands in the list. -/
theorem count_bumpAll (t : Counts κ) (ks : List κ) (j : κ) :
    count (bumpAll t ks) j = count t j + ks.count j := by
  induction ks generalizing t with
  | nil => simp [bumpAll]
  | cons k rest ih =>
      have step : bumpAll t (k :: rest) = bumpAll (bump t k) rest := rfl
      rw [step, ih, count_bump, List.count_cons]
      by_cases h : j = k
      · subst h
        simp
        omega
      · have hk : ¬ k = j := fun he => h he.symm
        simp [h, hk]

end Counts

/-- The counters of a process. -/
structure Metrics where
  checks : Counts RunState
  findings : Counts (FindingKind × Severity)
  fetches : Counts String

namespace Metrics

/-- The counters before anything has happened. -/
def zero : Metrics := ⟨Table.empty, Table.empty, Table.empty⟩

/-- Count a finished run and its findings. -/
def record (m : Metrics) (r : Report) : Metrics :=
  { m with
    checks := Counts.bump m.checks r.state
    findings := Counts.bumpAll m.findings
      (r.findings.map fun f => (f.kind, f.severity)) }

/-- Count a fetch from a collection. -/
def recordFetch (m : Metrics) (collection : String) : Metrics :=
  { m with fetches := Counts.bump m.fetches collection }

/-- Why labels do not fit the measure of fetches: there are none, or they
are others than the collection alone. -/
inductive LabelFault where
  | missing
  | wrong
  deriving DecidableEq

/-- The wording of the reason. -/
def LabelFault.message : LabelFault → String
  | .missing => "histogram metric is missing label values"
  | .wrong => "Incorrect label names"

/-- Count a fetch under labels. -/
def recordLabelled (m : Metrics) (labels : List (String × String)) :
    Except LabelFault Metrics :=
  match labels with
  | [] => .error .missing
  | [(name, value)] =>
      if name = "collection" then .ok (m.recordFetch value)
      else .error .wrong
  | _ => .error .wrong

-- =============================================================== names

/-- The name of the counter of runs. -/
def checksName : String := "schema_checks_total"

/-- The name of the counter of findings. -/
def findingsName : String := "schema_findings_total"

/-- The name of the measure of fetches. -/
def fetchesName : String := "schema_fetch_latency_seconds"

/-- The counts of runs and findings: the counter, the label and the
count, in ascending order of counter and label. -/
def rows (m : Metrics) : List (String × String × Nat) :=
  let checks := m.checks.entries.map fun (state, n) =>
    (checksName, state.word, n)
  let findings := m.findings.entries.map fun ((kind, severity), n) =>
    (findingsName, kind.word ++ "/" ++ severity.word, n)
  checks.mergeSort (fun a b => a.2.1 ≤ b.2.1)
    ++ findings.mergeSort fun a b => a.2.1 ≤ b.2.1

-- ================================================================ text

/-- A character of the value of a label. -/
def labelChar : Char → List Char
  | '\\' => ['\\', '\\']
  | '\n' => ['\\', 'n']
  | '"' => ['\\', '"']
  | c => [c]

/-- A label with its value in quotes. -/
def labelText (name value : String) : String :=
  name ++ "=\"" ++ String.ofList (value.toList.flatMap labelChar)
    ++ "\""

/-- The line of a sample. -/
def sampleLine (name : String) (labels : List (String × String))
    (n : Nat) : String :=
  name ++ "\x7b"
    ++ ",".intercalate (labels.map fun l => labelText l.1 l.2)
    ++ "\x7d " ++ toString n ++ ".0"

/-- The lines that explain a metric. -/
def headLines (name kind help : String) : List String :=
  ["# HELP " ++ name ++ " " ++ help, "# TYPE " ++ name ++ " " ++ kind]

/-- The lines of the exposition format. -/
def lines (m : Metrics) : List String :=
  headLines checksName "counter" "Schema validation runs by final state"
    ++ (m.checks.entries.map fun (state, n) =>
        sampleLine checksName [("state", state.word)] n)
    ++ headLines findingsName "counter"
        "Validation findings by kind and severity"
    ++ (m.findings.entries.map fun ((kind, severity), n) =>
        sampleLine findingsName
          [("kind", kind.word), ("severity", severity.word)] n)
    ++ headLines fetchesName "histogram"
        "Latency of Schema API requests"
    ++ (m.fetches.entries.map fun (collection, n) =>
        sampleLine (fetchesName ++ "_count")
          [("collection", collection)] n)

end Metrics

end SchemaAudit
