/-
What a catalog that cannot be loaded comes to. The program loads it
before anything is sent, a checker with a cache that is not loaded does
so after the schema is fetched, and both meet the same fault, whatever
else the cache is made from (`yield_error_congr`).

A checker reports every such fault as a failure of the catalog, which
stands for the exit code 1. The program sends, prints and stores
nothing, but ends with that code only if the system lets it look at the
file, and the log can be set up before (`exitsOne_iff`); a directory in
the place of the catalog ends it without any code (`escapes_directory`).

# The fault

A catalog is at fault as a file or in one of its entries
(`yield_error_cases`). That the system will not let the file be looked
at is told by the fault and by what stands at the path, and the two
agree (`isBar_of_yield_error`). With the usual full-text field and a
proper limit only the catalog itself can be at fault, and then it is for
every cache.

# The two paths

On the path of the program a run is followed up to the catalog: it has
left nothing behind but log lines, whatever the log level made of them
(`HasBadCatalog.run_cases`), and the catalog decides how it ends
(`refuseCatalog_cases`). On the path of the checker there is nothing to
compare with, and the report says so (`check_of_yield_error`). The main
statement sets the two side by side under one hypothesis.
-/
import SchemaAudit.Command.Run
import SchemaAudit.Proofs.Ending
import SchemaAudit.Proofs.Expected.Loading
import SchemaAudit.Proofs.Settings

namespace SchemaAudit

open Outcome

-- ============================================================= the faults

/-- Whether the system will not let a file be looked at, although there
is something. -/
def FileContent.IsBarred : FileContent → Prop
  | .directory | .nameTooLong | .unreadable _ => True
  | .missing | .bytes _ => False

/-- Whether a fault says that the system will not let the catalog be
looked at. -/
def BuildFault.IsBar : BuildFault → Prop
  | .catalog (.isDirectory _) | .catalog (.nameTooLong _)
  | .catalog (.unreadable _) => True
  | _ => False

namespace Catalog

/-- A fault in the bytes of a file is none that keeps the file from being
looked at. -/
theorem not_isBar_of_readBytes {content : List UInt8} {fault : CatalogFault}
    (h : readBytes content = .error fault) :
    ¬ (BuildFault.catalog fault).IsBar := by
  unfold readBytes at h
  rcases bind_eq_error.1 h with h | ⟨text, -, h⟩
  · obtain ⟨e, -, rfl⟩ := mapError_eq_error.1 h
    exact id
  rcases bind_eq_error.1 h with h | ⟨value, -, h⟩
  · obtain ⟨e, -, rfl⟩ := mapError_eq_error.1 h
    exact id
  · obtain ⟨e, -, rfl⟩ := mapError_eq_error.1 h
    exact id

/-- A catalog gives nothing because it cannot be read, or because of an
entry; copies can be at fault only for entries. -/
theorem yield_error_cases {catalog : Catalog} {fullText : Field}
    {maxChars : Json} {fault : BuildFault}
    (h : catalog.yield fullText maxChars = .error fault) :
    (∃ f, catalog.entries = .error f ∧ fault = .catalog f)
      ∨ ∃ ds f, catalog.definitions = .ok ds ∧ fault = .entry f := by
  cases hd : catalog.definitions with
  | error f =>
      left
      unfold yield at h
      rw [hd] at h
      injection h with h
      exact ⟨f, map_eq_error.1 hd, h.symm⟩
  | ok ds =>
      right
      rw [yield_eq hd] at h
      rcases bind_eq_error.1 h with h | ⟨built, -, h⟩
      · obtain ⟨f, -, rfl⟩ := mapError_eq_error.1 h
        exact ⟨ds, f, rfl, rfl⟩
      rcases bind_eq_error.1 h with h | ⟨copies, -, h⟩
      · obtain ⟨f, -, rfl⟩ := mapError_eq_error.1 h
        exact ⟨ds, f, rfl, rfl⟩
      · cases h

/-- The fault of a file says that it is barred exactly if it is. -/
theorem isBar_of_yield_error {path : String} {content : FileContent}
    {fullText : Field} {maxChars : Json} {fault : BuildFault}
    (h : (Catalog.file path content).yield fullText maxChars
      = .error fault) :
    fault.IsBar ↔ content.IsBarred := by
  have hbytes : ∀ bytes, content = .bytes bytes → ¬ fault.IsBar := by
    rintro bytes rfl
    rcases yield_error_cases h with ⟨f, hf, rfl⟩ | ⟨ds, f, -, rfl⟩
    · exact not_isBar_of_readBytes hf
    · exact id
  have hother : ∀ f, (Catalog.file path content).entries = .error f →
      fault = .catalog f := by
    intro f hf
    rcases yield_error_cases h with ⟨g, hg, rfl⟩ | ⟨ds, g, hds, -⟩
    · rw [Except.error.inj (hg.symm.trans hf)]
    · exact nomatch hds.symm.trans (map_eq_error.2 hf)
  cases content with
  | bytes bytes => exact iff_of_false (hbytes bytes rfl) id
  | missing => exact iff_of_false (hother _ rfl ▸ id) id
  | directory => exact iff_of_true (hother _ rfl ▸ trivial) trivial
  | nameTooLong => exact iff_of_true (hother _ rfl ▸ trivial) trivial
  | unreadable => exact iff_of_true (hother _ rfl ▸ trivial) trivial

/-- What a catalog gives nothing for with the usual full-text field and a
limit that is one, it gives nothing for with any, and for the same reason:
that field holds several values, so no copy can be refused. -/
theorem yield_error_congr {catalog : Catalog} {m : Nat} (hm : 1 ≤ m)
    {fault : BuildFault}
    (h : catalog.yield Cache.usualFullText (.int m) = .error fault)
    (fullText : Field) (maxChars : Json) :
    catalog.yield fullText maxChars = .error fault := by
  rcases yield_error_cases h with ⟨f, hf, rfl⟩ | ⟨ds, f, hds, -⟩
  · have hdefinitions : catalog.definitions = .error f :=
      map_eq_error.2 hf
    unfold yield
    rw [hdefinitions]
    rfl
  · cases (yield_eq_error hds rfl hm).1 h with
    | unbuilt hsplit hbefore hd =>
        have hbuilt := Definition.mapM_field?_eq_error.2
          ⟨_, _, _, hsplit, hbefore, hd⟩
        rw [yield_eq hds, hbuilt]
        rfl
    | uncopied _ _ _ _ hsingle => exact absurd hsingle (by decide)

end Catalog

-- ============================================================ the program

/-- A run leaves nothing behind but its log: no request was sent, nothing
printed and no counters stored. How it ended is not said. -/
structure Transcript.IsSilent {ε : Type} (t : Transcript ε) : Prop where
  sent : t.sent = []
  printed : t.printed = ""
  stored : t.stored = none

/-- The settings of a run name a catalog that cannot be loaded, for a
reason that is not how deep it is nested. -/
structure Surroundings.HasBadCatalog {ε : Type} (w : Surroundings ε)
    (a : Arguments) (s : Settings) (path : String) (fault : BuildFault) :
    Prop where
  settings : ∃ file, Text.decodeUtf8 w.settingsFile = .ok file
    ∧ Settings.read (a.sources w.environment file) = .ok s
  named : s.catalogPath = some path
  fails : ((Cache.new Cache.usualFullText (.int s.maxChars)).load
    (.file path (w.contentAt path))).value = .error fault
  shallow : fault.tooDeep? = none

namespace Surroundings

variable {ε : Type} {w : Surroundings ε} {a : Arguments} {s : Settings}
variable {path : String} {fault : BuildFault}

/-- The catalog gives nothing to any cache, with the fault that the
program meets. -/
theorem HasBadCatalog.yield_eq (h : w.HasBadCatalog a s path fault)
    (fullText : Field) (maxChars : Json) :
    (Catalog.file path (w.contentAt path)).yield fullText maxChars
      = .error fault := by
  obtain ⟨file, -, hread⟩ := h.settings
  obtain ⟨m, hm⟩ := Int.eq_ofNat_of_zero_le
    (Int.le_of_lt (Settings.one_le_maxChars hread))
  have hone : 1 ≤ m := by
    have := Settings.one_le_maxChars hread
    omega
  have hfails := h.fails
  rw [Cache.value_load, hm] at hfails
  exact Catalog.yield_error_congr hone (map_eq_error.1 hfails) _ _

/-- A catalog that is refused ends a run with the code 1, unless the
system will not let it be looked at: then it ends with none. -/
theorem refuseCatalog_cases {t : Transcript ε}
    (hdeep : fault.tooDeep? = none) :
    (¬ fault.IsBar ∧ ∃ message,
        refuseCatalog s fault t = t.refuse s message)
      ∨ (fault.IsBar ∧ ∃ cause,
        refuseCatalog s fault t = t.escape cause) := by
  cases fault with
  | entry f => exact Or.inl ⟨id, _, rfl⟩
  | catalog f =>
      cases f with
      | missingFile => exact Or.inl ⟨id, _, rfl⟩
      | isDirectory => exact Or.inr ⟨trivial, _, rfl⟩
      | nameTooLong => exact Or.inr ⟨trivial, _, rfl⟩
      | unreadable => exact Or.inr ⟨trivial, _, rfl⟩
      | undecodable => exact Or.inl ⟨id, _, rfl⟩
      | invalid => exact Or.inl ⟨id, _, rfl⟩
      | malformed f =>
          cases f with
          | tooDeep => cases hdeep
          | _ => exact Or.inl ⟨id, _, rfl⟩

/-- A catalog that is refused leaves a run as silent as it was, whichever
way the run ends. -/
theorem isSilent_refuseCatalog {t : Transcript ε} (ht : t.IsSilent)
    (hdeep : fault.tooDeep? = none) :
    (refuseCatalog s fault t).IsSilent := by
  rcases refuseCatalog_cases hdeep (s := s) (t := t) with
    ⟨-, message, h⟩ | ⟨-, cause, h⟩
  · exact h ▸ ⟨ht.sent, ht.printed, ht.stored⟩
  · exact h ▸ ⟨ht.sent, ht.printed, ht.stored⟩

/-- The catalog is loaded, and refused, before anything is sent: what is
left of the run is the refusal. -/
theorem HasBadCatalog.expectAndAudit (h : w.HasBadCatalog a s path fault)
    {t : Transcript ε} (ht : t.IsSilent) :
    ∃ t' : Transcript ε, t'.IsSilent
      ∧ w.expectAndAudit a s t = refuseCatalog s fault t' := by
  refine ⟨t.log (some s.collection) ((Cache.new Cache.usualFullText
    (.int s.maxChars)).load (.file path (w.contentAt path))).lines,
    ⟨ht.sent, ht.printed, ht.stored⟩, ?_⟩
  unfold Surroundings.expectAndAudit catalog?
  rw [h.named]
  simp only [Option.map_some, h.fails]

/-- A run that gets to the catalog is silent until then; it does not if
the log cannot be set up. -/
theorem HasBadCatalog.run_cases (h : w.HasBadCatalog a s path fault) :
    (∃ f, ∃ t : Transcript ε, readLevel s.logLevel = .error f
        ∧ t.IsSilent ∧ w.run a = t.escape (.level f))
      ∨ ∃ n, ∃ t : Transcript ε, readLevel s.logLevel = .ok n
        ∧ t.IsSilent ∧ w.run a = refuseCatalog s fault t := by
  obtain ⟨file, hfile, hread⟩ := h.settings
  have hrun : w.run a = w.runWith a file := by
    unfold run
    rw [hfile]
  have hstart : ∀ setup, ((Transcript.start (warnings file) setup :
      Transcript ε).log none [tracingLine]).IsSilent :=
    fun _ => ⟨rfl, rfl, rfl⟩
  rw [hrun]
  unfold runWith LogSetup.configure
  simp only [hread]
  cases readLevel s.logLevel with
  | error f => exact Or.inl ⟨f, _, rfl, ⟨rfl, rfl, rfl⟩, rfl⟩
  | ok n =>
      obtain ⟨t, ht, hrefused⟩ := h.expectAndAudit (hstart _)
      exact Or.inr ⟨n, t, rfl, ht, hrefused⟩

/-- A run ends with the exit code 1 if the log is set up and the catalog
is not barred, and with none if not. -/
theorem HasBadCatalog.ending_cases (h : w.HasBadCatalog a s path fault) :
    (w.run a).IsSilent
      ∧ (((w.run a).ending = .ok 1
            ∧ (∃ n, readLevel s.logLevel = .ok n) ∧ ¬ fault.IsBar)
          ∨ ∃ cause, (w.run a).ending = .error cause
            ∧ ¬ ((∃ n, readLevel s.logLevel = .ok n) ∧ ¬ fault.IsBar)) := by
  rcases h.run_cases with ⟨f, t, hlevel, ht, hrun⟩ | ⟨n, t, hlevel, ht, hrun⟩
  · rw [hrun]
    refine ⟨⟨ht.sent, ht.printed, ht.stored⟩, Or.inr ⟨_, rfl, ?_⟩⟩
    rintro ⟨⟨n, hn⟩, -⟩
    exact nomatch hlevel.symm.trans hn
  · rw [hrun]
    refine ⟨isSilent_refuseCatalog ht h.shallow, ?_⟩
    rcases refuseCatalog_cases h.shallow (s := s) (t := t) with
      ⟨hopen, message, hrefuse⟩ | ⟨hbar, cause, hescape⟩
    · rw [hrefuse]
      exact Or.inl ⟨rfl, ⟨n, hlevel⟩, hopen⟩
    · rw [hescape]
      exact Or.inr ⟨cause, rfl, fun hok => hok.2 hbar⟩

end Surroundings

-- ============================================================ the checker

/-- A report on a catalog that could not be loaded, which stands for the
exit code 1. -/
structure Report.FailsOnCatalog (r : Report) (message : String) :
    Prop where
  state : r.state = .failed
  failure : r.failure = some .catalog
  error : r.error = some message
  findings : r.findings = []
  exits : ∀ strict, r.exitCode strict = 1

namespace Checker

/-- The report of a checker on its catalog is one that stands for the exit
code 1. -/
theorem failsOnCatalog_refusal (c : Checker) (fault : BuildFault)
    (r : Representation) :
    (c.refusal fault r).FailsOnCatalog fault.message where
  state := rfl
  failure := rfl
  error := rfl
  findings := rfl
  exits strict := by
    rw [Report.exitCode_of_failure (k := .catalog) rfl strict]
    rfl

/-- A catalog that gives nothing leaves a checker with a cache to load
with nothing to compare with. -/
theorem expectation_of_yield_error {c : Checker} {catalog : Catalog}
    {cache : Cache} {fault : BuildFault}
    (he : c.expected = some (catalog, cache))
    (hl : cache.isLoaded = false)
    (h : catalog.yield cache.fullText cache.maxChars = .error fault) :
    c.expectation = .error fault := by
  rw [expectation_of_not_isLoaded he hl, h]
  rfl

/-- A check with a cache to load from a catalog that gives nothing reports
so, whatever is fetched and whatever was logged on the way. -/
theorem check_of_yield_error {ε : Type} {c : Checker} {catalog : Catalog}
    {cache : Cache} {fault : BuildFault}
    (he : c.expected = some (catalog, cache))
    (hl : cache.isLoaded = false)
    (h : catalog.yield cache.fullText cache.maxChars = .error fault)
    (hdeep : fault.tooDeep? = none) (r : Representation)
    (lines : List LogLine) :
    ∃ report, (c.check (ε := ε) ⟨.ok r, lines⟩).value.2 = .ok report
      ∧ report.FailsOnCatalog fault.message := by
  refine ⟨c.refusal fault r, ?_, failsOnCatalog_refusal c fault r⟩
  rw [value_check_of_ok,
    validate_of_error (expectation_of_yield_error he hl h), hdeep]
  rfl

end Checker

-- ============================================================== both paths

namespace Surroundings

variable {ε : Type}

/-- With a catalog that cannot be loaded, a run sends, prints and stores
nothing. It ends with the exit code 1 exactly if the log can be set up and
the system lets the file be looked at, and otherwise with none; a checker
that loads the catalog itself reports a failure that stands for the code
1 each time. -/
theorem exitsOne_iff {w : Surroundings ε} {a : Arguments} {s : Settings}
    {path : String} {fault : BuildFault}
    (h : w.HasBadCatalog a s path fault) :
    (w.run a).IsSilent
      ∧ ((w.run a).ending = .ok 1
          ∨ ∃ cause, (w.run a).ending = .error cause)
      ∧ ((w.run a).ending = .ok 1 ↔
          (∃ n, readLevel s.logLevel = .ok n)
            ∧ ¬ (w.contentAt path).IsBarred)
      ∧ ∀ (c : Checker) (cache : Cache),
          c.expected = some (.file path (w.contentAt path), cache) →
          cache.isLoaded = false →
          ∀ (δ : Type) (r : Representation) (lines : List LogLine),
            ∃ report,
              (c.check (ε := δ) ⟨.ok r, lines⟩).value.2 = .ok report
                ∧ report.FailsOnCatalog fault.message := by
  have hbar := Catalog.isBar_of_yield_error
    (h.yield_eq Cache.usualFullText (.int s.maxChars))
  obtain ⟨hsilent, hending⟩ := h.ending_cases
  refine ⟨hsilent, ?_, ?_, fun c cache he hl δ r lines =>
    Checker.check_of_yield_error he hl
      (h.yield_eq cache.fullText cache.maxChars) h.shallow r lines⟩
  · rcases hending with ⟨hone, -⟩ | ⟨cause, hnone, -⟩
    · exact Or.inl hone
    · exact Or.inr ⟨cause, hnone⟩
  · rw [← hbar]
    rcases hending with ⟨hone, hok⟩ | ⟨cause, hnone, hnot⟩
    · exact iff_of_true hone hok
    · exact iff_of_false (fun hone => nomatch hone.symm.trans hnone) hnot

/-- The command line that names a catalog and nothing else. -/
def catalogArguments (path : String) : Arguments :=
  ⟨none, none, some path, none, false, false, none⟩

/-- An empty environment, where one thing stands at every path. -/
def onlyWith (content : FileContent) : Surroundings Empty where
  environment := []
  settingsFile := []
  contentAt _ := content
  answer _ := .timedOut ""
  storeFault? _ := none

/-- The catalog that the command line names is a bad one if loading what
stands there fails. The settings are the usual ones but for the path. -/
theorem hasBadCatalog_onlyWith {content : FileContent} {name : String}
    {fault : CatalogFault}
    (h : (Catalog.file (Text.normalPath name) content).entries
      = .error fault)
    (hdeep : (BuildFault.catalog fault).tooDeep? = none) :
    (onlyWith content).HasBadCatalog (catalogArguments name)
      (.withCatalog (Text.normalPath name)) (Text.normalPath name)
      (.catalog fault) where
  settings := ⟨"", rfl, Settings.read_withCatalog name⟩
  named := rfl
  fails := by
    have hdefinitions : (Catalog.file (Text.normalPath name)
        content).definitions = .error fault := map_eq_error.2 h
    show ((Cache.new Cache.usualFullText (.int 3000)).load
      (.file (Text.normalPath name) content)).value = _
    rw [Cache.value_load]
    unfold Catalog.yield
    rw [hdefinitions]
    rfl
  shallow := hdeep

/-- A catalog that is no UTF-8: both paths come to the exit code 1, the
run by its message and the check by its failure. -/
theorem exitsOne_iff_undecodable :
    let w := onlyWith (.bytes [0x5b, 0xff])
    let c : Checker := ⟨.str "books",
      some (.file (Text.normalPath "fields.json") (.bytes [0x5b, 0xff]),
        Cache.new Cache.usualFullText (.int 1)), Metrics.zero⟩
    (∃ fault, w.HasBadCatalog (catalogArguments "fields.json")
        (.withCatalog (Text.normalPath "fields.json"))
        (Text.normalPath "fields.json") fault)
      ∧ (w.run (catalogArguments "fields.json")).IsSilent
      ∧ (w.run (catalogArguments "fields.json")).ending = .ok 1
      ∧ ∃ report,
        (c.check (ε := Empty) ⟨.ok .sample, []⟩).value.2 = .ok report
          ∧ report.exitCode false = 1 := by
  intro w c
  have hbad : w.HasBadCatalog (catalogArguments "fields.json")
      (.withCatalog (Text.normalPath "fields.json"))
      (Text.normalPath "fields.json") _ :=
    hasBadCatalog_onlyWith rfl rfl
  obtain ⟨hsilent, -, hone, hchecks⟩ := exitsOne_iff hbad
  have hlevel : readLevel "info" = .ok 20 := by decide +kernel
  obtain ⟨report, hreport, hfails⟩ :=
    hchecks c _ rfl rfl Empty .sample []
  exact ⟨⟨_, hbad⟩, hsilent, hone.2 ⟨⟨20, hlevel⟩, id⟩, report, hreport,
    hfails.exits false⟩

/-- A directory in the place of the catalog: the run ends without an exit
code, where the same catalog fails a check with the code 1. -/
theorem escapes_directory :
    let w := onlyWith .directory
    let c : Checker := ⟨.str "books",
      some (.file (Text.normalPath ".") .directory,
        Cache.new Cache.usualFullText (.int 1)), Metrics.zero⟩
    w.HasBadCatalog (catalogArguments ".")
        (.withCatalog (Text.normalPath ".")) (Text.normalPath ".")
        (.catalog (.isDirectory (Text.normalPath ".")))
      ∧ (w.run (catalogArguments ".")).ending
        = .error (.catalog (.isDirectory (Text.normalPath ".")))
      ∧ ∃ report,
        (c.check (ε := Empty) ⟨.ok .sample, []⟩).value.2 = .ok report
          ∧ report.exitCode false = 1 := by
  intro w c
  have hbad : w.HasBadCatalog (catalogArguments ".")
      (.withCatalog (Text.normalPath ".")) (Text.normalPath ".")
      (.catalog (.isDirectory (Text.normalPath "."))) :=
    hasBadCatalog_onlyWith rfl rfl
  have hlevel : readLevel "info" = .ok 20 := by decide +kernel
  have hending : (w.run (catalogArguments ".")).ending
      = .error (.catalog (.isDirectory (Text.normalPath "."))) := by
    rcases hbad.run_cases with ⟨f, t, hf, -⟩ | ⟨n, t, -, -, hrun⟩
    · exact nomatch hlevel.symm.trans hf
    · rw [hrun]
      rfl
  obtain ⟨report, hreport, hfails⟩ := Checker.check_of_yield_error
    (ε := Empty) (c := c) rfl rfl (hbad.yield_eq _ _) rfl .sample []
  exact ⟨hbad, hending, report, hreport, hfails.exits false⟩

end Surroundings

end SchemaAudit
