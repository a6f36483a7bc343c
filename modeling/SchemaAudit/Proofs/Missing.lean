/-
What a validation reports as missing. Only the comparison of fields says
so, and it says so of every name that is expected and that nothing read
has (`misses_reportOn`).

# Registered fields

A dynamic field that was registered stays expected, whatever else
happens to its cache: `Cache.Follows` tells the dynamic fields of a
cache by its history, and no load or reload takes one away. It is
reported as missing although the engine has it in one case only: its
name is that of a stock template. Reading passes over the entry then,
while the cache goes on to expect it (`misses_registered_iff`,
`misses_stockTemplate`).

# How it is shown

`Misses` is a predicate on lists of findings with an append law, so that
a report is taken apart into its stages. The stages that cannot report a
field as missing are ruled out by the kinds of their findings
(`not_misses`); what is left is the comparison of the two tables of
fields. A static field cannot be the one that is missed, since no static
field has the name of a dynamic one.
-/
import SchemaAudit.Proofs.Expected.Coherence
import SchemaAudit.Proofs.Live.Fates
import SchemaAudit.Proofs.Reconcile

namespace SchemaAudit

/-- Findings among which a field of a name is reported as missing, be it
static or dynamic. -/
def Misses (fs : List Finding) (name : String) : Prop :=
  ∃ f ∈ fs, f.kind = .missingField ∧ f.subject = some name

section

variable {fs gs : List Finding} {name : String}

/-- A name is missed in two lists of findings exactly if it is in one of
them. -/
theorem misses_append :
    Misses (fs ++ gs) name ↔ Misses fs name ∨ Misses gs name := by
  unfold Misses
  simp only [List.mem_append, or_and_right, exists_or]

/-- Findings of other kinds report nothing as missing. -/
theorem not_misses (h : ∀ f ∈ fs, f.kind ≠ .missingField) :
    ¬ Misses fs name := by
  intro hm
  obtain ⟨f, hf, hkind, -⟩ := hm
  exact h f hf hkind

-- ======================================================== reconciliation

/-- Of the fields of one kind, those are missing that are expected under a
name that is not live. The other two groups of findings are of other
kinds. -/
theorem misses_reconcileFields {kind : FieldKind}
    {expected live : Table String Field} :
    Misses (reconcileFields kind expected live) name ↔
      name ∈ expected.keys ∧ name ∉ live.keys := by
  -- of the three groups of findings, one reports names as missing
  have hextra : ¬ Misses ((onlyIn live expected).map (liveOnlyField kind))
      name := by
    apply not_misses
    intro f hf
    obtain ⟨other, -, rfl⟩ := List.mem_map.1 hf
    exact FindingKind.noConfusion
  have hdiffer : ¬ Misses ((inBoth expected live).flatMap fun other =>
      (differencesAt expected live other).map (fieldMismatch kind other))
      name := by
    apply not_misses
    intro f hf
    obtain ⟨other, -, hf⟩ := List.mem_flatMap.1 hf
    obtain ⟨d, -, rfl⟩ := List.mem_map.1 hf
    exact FindingKind.noConfusion
  have hmissing : Misses ((onlyIn expected live).map (missingField kind))
      name ↔ name ∈ onlyIn expected live := by
    constructor
    · intro h
      obtain ⟨f, hf, -, hsubject⟩ := h
      obtain ⟨other, hother, rfl⟩ := List.mem_map.1 hf
      injection hsubject with hsubject
      exact hsubject ▸ hother
    · intro h
      exact ⟨_, List.mem_map_of_mem h, rfl, rfl⟩
  unfold reconcileFields
  rw [misses_append, misses_append, or_iff_left hdiffer,
    or_iff_right hextra, hmissing, mem_onlyIn, Table.get?_eq_none]

/-- A copy field that is missing is told by a kind of finding of its own.
-/
theorem not_misses_reconcileCopies {expected live : List CopyField} :
    ¬ Misses (reconcileCopies expected live) name := by
  apply not_misses
  intro f hf
  rcases List.mem_append.1 hf with hf | hf
  · obtain ⟨c, -, hf⟩ := List.mem_flatMap.1 hf
    unfold copyFindings at hf
    split at hf
    · rw [List.mem_singleton.1 hf]
      exact FindingKind.noConfusion
    · split at hf
      · cases hf
      · rw [List.mem_singleton.1 hf]
        exact FindingKind.noConfusion
  · obtain ⟨key, -, rfl⟩ := List.mem_map.1 hf
    exact FindingKind.noConfusion

end

-- ============================================================== a report

/-- What an entry that is not read leaves does not report a field as
missing: the field may be missing because of it, but it is the comparison
that says so. -/
theorem Representation.not_misses_complaints {r : Representation}
    {name : String} : ¬ Misses r.complaints name := by
  apply not_misses
  intro f hf hkind
  have hreading := kind_mem_ofReading hf
  rw [hkind] at hreading
  exact absurd hreading (by decide)

namespace Checker

/-- What a report on a schema that was read reports as missing: every name
of a field of either kind that is expected and was not read. -/
theorem misses_reportOn {c : Checker} {expected : Schema}
    {r : Representation} {name : String} :
    Misses (c.reportOn (some expected) r).findings name ↔
      (name ∈ expected.statics.keys ∧ name ∉ r.statics.keys)
        ∨ (name ∈ expected.dynamics.keys ∧ name ∉ r.dynamics.keys) := by
  have hfanIns : ¬ Misses ((fanIns r.live.copies).map fanInFinding)
      name := by
    apply not_misses
    intro f hf
    obtain ⟨fanIn, -, rfl⟩ := List.mem_map.1 hf
    exact FindingKind.noConfusion
  show Misses (r.complaints ++ ((fanIns r.live.copies).map fanInFinding
    ++ reconcile expected r.live)) name ↔ _
  unfold reconcile
  rw [misses_append, or_iff_right Representation.not_misses_complaints,
    misses_append, or_iff_right hfanIns, misses_append,
    or_iff_left not_misses_reconcileCopies, misses_append,
    misses_reconcileFields, misses_reconcileFields]
  rfl

end Checker

-- ============================================================ registration

namespace Checker

variable {fullText : Field} {maxChars : Json} {steps : List Cache.Step}
variable {catalog : Catalog} {c : Checker} {r : Representation}

/-- A dynamic field that was registered and that the engine has is
reported as missing exactly if its name is that of a stock template, and
the validation comes to its end. -/
theorem misses_registered_iff {report : Report} {d f : Field}
    {raw : RawEntry}
    (hexpected : c.expected
      = some (catalog, (Cache.new fullText maxChars).run steps))
    (hfull : EntryKind.static.admits fullText.name = true)
    (hregistered : Cache.Step.register d ∈ steps)
    (hreport : (c.validate r).value.2 = .ok report)
    (hraw : raw ∈ r.dynamicFields)
    (hread : Field.ofWire .dynamic raw = .ok f) (hname : f.name = d.name) :
    Misses report.findings d.name ↔
      report.state = .validated ∧ d.name ∈ stockTemplates := by
  rcases validate_eq_ok.1 hreport with
    ⟨fault, -, -, rfl⟩ | ⟨expected, hexpectation, -, rfl⟩
  · refine iff_of_false (fun h => ?_) fun h => RunState.noConfusion h.1
    obtain ⟨g, hg, -⟩ := h
    cases hg
  -- what is compared with is a cache with a history that registers it
  obtain ⟨history, hmem, rfl⟩ : ∃ history,
      Cache.Step.register d ∈ history
        ∧ expected = some
          ((Cache.new fullText maxChars).run history).content := by
    rcases eq_content_of_expectation hexpected hexpectation with h | h
    · exact ⟨steps, hregistered, h⟩
    · rw [← Cache.run_concat] at h
      exact ⟨_, List.mem_append_left _ hregistered, h⟩
  have hstatic : d.name ∉
      ((Cache.new fullText maxChars).run history).content.statics.keys := by
    intro h
    have hadmits := (Field.of_ofWire hread).2.2
    rw [hname] at hadmits
    have hnot := EntryKind.not_admits_dynamic
      (Cache.admits_of_mem_statics hfull h)
    exact Bool.false_ne_true (hnot.symm.trans hadmits)
  have hdynamic : d.name ∈
      ((Cache.new fullText maxChars).run history).content.dynamics.keys :=
    Cache.mem_keys_dynamics.2 ⟨d, hmem, rfl⟩
  rw [misses_reportOn, and_iff_right hdynamic,
    or_iff_right fun h => hstatic h.1,
    Representation.mem_keys_dynamics,
    and_iff_left ⟨raw, hraw, f, hread, hname⟩, not_not]
  exact (and_iff_right rfl).symm

/-- A template for notes is registered, and the engine has it. Its name is
that of no stock template, so it is not reported as missing. -/
theorem misses_registered_iff_notes :
    ∃ report, (sample.validate .crowded).value.2 = .ok report
      ∧ Cache.notes.name ∉ stockTemplates
      ∧ ¬ Misses report.findings Cache.notes.name := by
  have hreport := validate_eq_ok (c := sample) (r := .crowded)
    |>.2 (Or.inr ⟨_, expectation_of_isLoaded rfl Cache.isLoaded_sample,
      Representation.hasKeys_crowded, rfl⟩)
  have hstock : Cache.notes.name ∉ stockTemplates := by decide
  refine ⟨_, hreport, hstock, fun h => hstock ?_⟩
  exact ((misses_registered_iff rfl rfl (List.mem_cons_self ..) hreport
    (List.mem_cons_of_mem _ (List.mem_singleton_self _)) rfl rfl).1 h).2

end Checker

/-- A template for English texts, named as a stock template is. -/
def Cache.englishTexts : Field := { notes with name := "*_txt_en" }

/-- A cache in which it is registered. -/
def Cache.english : Cache :=
  (new usualFullText (.int defaultMaxChars)).run
    [.load (.listed []), .register englishTexts]

/-- A live schema that has it. -/
def Representation.english : Representation :=
  { sample with
    dynamicFields :=
      [[("name", .str "*_txt_en"), ("type", .str "text_en")]] }

/-- The template is registered and the engine has it just so, yet it is
reported as missing. -/
theorem Checker.misses_stockTemplate :
    Field.make .dynamic (.str "*_txt_en") FieldType.textEn none
        = .ok Cache.englishTexts
      ∧ (∃ raw ∈ Representation.english.dynamicFields, ∃ f,
        Field.ofWire .dynamic raw = .ok f
          ∧ f.name = Cache.englishTexts.name)
      ∧ ∃ report,
        ((Checker.mk .null (some (.listed [], Cache.english))
          Metrics.zero).validate .english).value.2 = .ok report
          ∧ Misses report.findings Cache.englishTexts.name := by
  have hloaded : Cache.english.isLoaded = true := by decide +kernel
  have hkeys : Representation.english.HasKeys := by
    intro raw hraw
    rw [List.mem_singleton.1 hraw]
    exact Json.checkKey_eq_ok.1 rfl
  have hregistered : Cache.englishTexts.name
      ∈ Cache.english.content.dynamics.keys :=
    Cache.mem_keys_dynamics.2 ⟨_, by simp, rfl⟩
  have hpassed : Cache.englishTexts.name
      ∉ Representation.english.dynamics.keys := fun h =>
    (Representation.mem_keys_dynamics.1 h).1 (by decide)
  refine ⟨by with_unfolding_all rfl,
    ⟨_, List.mem_singleton_self _, _, rfl, rfl⟩, _,
    validate_eq_ok.2 (Or.inr ⟨_, expectation_of_isLoaded rfl hloaded,
      hkeys, rfl⟩), ?_⟩
  exact misses_reportOn.2 (Or.inr ⟨hregistered, hpassed⟩)

end SchemaAudit
