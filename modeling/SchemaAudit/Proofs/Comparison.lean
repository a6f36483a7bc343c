/-
What a comparison adds to a report. With an expected schema a report is
the one without it, and behind its findings those of the comparison
(`validate_adds_comparison`). These are of kinds of their own, and they
are about each name once: a field or a copy field is only live, or
missing, or both are there, and then every difference is told.

# Subjects

Findings are told apart by their subjects; `about` selects those on one.
Where each member of a list has findings under its own label, and the
labels are distinct, those about a label are those of its member
(`about_flatMap_of_mem`). That works across the sections of a schema
because no name of a static field is that of a dynamic one, and the
label of a copy field is neither (`Schema.WellNamed`).

# Verdicts

`FieldVerdict` and `CopyVerdict` say what is found on one name or one
key, case by case. For fields the verdict comes from the groups in which
a section stands (`InGroups`): of the three lists of names exactly one
holds the name. For copy fields it comes from the two halves of the
comparison, the expected ones and those that are only live. `Compared`
puts the sections together, and says of every finding that it has one of
their subjects, so that none escapes the verdicts.

# The report

Reading and the look at destinations come before the comparison and make
findings of other kinds (`kind_notMem_ofComparison`). The order in which
copy fields that are only live are told is not spoken of.
-/
import SchemaAudit.Proofs.Expected.Coherence
import SchemaAudit.Proofs.Live.Fates
import SchemaAudit.Proofs.Reconcile

namespace SchemaAudit

-- ============================================================= subjects

/-- The findings about a subject, in their order. A subject is the name of
a field or the label of a copy field. -/
def about (subject : String) (fs : List Finding) : List Finding :=
  fs.filter fun f => f.subject == some subject

section

variable {fs gs : List Finding} {subject : String}

/-- What is about a subject in two lists of findings is what is about it
in either. -/
theorem about_append :
    about subject (fs ++ gs) = about subject fs ++ about subject gs :=
  List.filter_append ..

theorem about_eq_self (h : ∀ f ∈ fs, f.subject = some subject) :
    about subject fs = fs :=
  List.filter_eq_self.2 fun f hf => beq_iff_eq.2 (h f hf)

theorem about_eq_nil (h : ∀ f ∈ fs, f.subject ≠ some subject) :
    about subject fs = [] :=
  List.filter_eq_nil_iff.2 fun f hf hb => h f hf (beq_iff_eq.1 hb)

end

section

variable {α : Type} {label : α → String} {found : α → List Finding}
variable {xs : List α}

/-- Where each member has findings under its own label, none is about
another label. -/
theorem about_flatMap_of_notMem {subject : String}
    (hfound : ∀ x ∈ xs, ∀ f ∈ found x, f.subject = some (label x))
    (h : subject ∉ xs.map label) : about subject (xs.flatMap found) = [] := by
  apply about_eq_nil
  intro f hf hsubject
  obtain ⟨x, hx, hf⟩ := List.mem_flatMap.1 hf
  rw [hfound x hx f hf] at hsubject
  injection hsubject with hsubject
  exact h (hsubject ▸ List.mem_map_of_mem hx)

/-- Under distinct labels, the findings about a label are those of its
member: members before and behind it have other labels. -/
theorem about_flatMap_of_mem (hn : (xs.map label).Nodup)
    (hfound : ∀ x ∈ xs, ∀ f ∈ found x, f.subject = some (label x)) {x : α}
    (hx : x ∈ xs) : about (label x) (xs.flatMap found) = found x := by
  obtain ⟨front, rest, rfl⟩ := List.append_of_mem hx
  rw [List.map_append, List.map_cons] at hn
  obtain ⟨-, hrest, hapart⟩ := List.nodup_append.1 hn
  have hfront : label x ∉ front.map label := fun h =>
    hapart _ h _ (List.mem_cons_self ..) rfl
  have hself : about (label x) (found x) = found x :=
    about_eq_self (hfound x hx)
  rw [List.flatMap_append, List.flatMap_cons, about_append, about_append,
    about_flatMap_of_notMem
      (fun y hy => hfound y (List.mem_append_left _ hy)) hfront,
    about_flatMap_of_notMem
      (fun y hy => hfound y (List.mem_append_right _
        (List.mem_cons_of_mem _ hy))) (List.nodup_cons.1 hrest).1,
    hself, List.nil_append, List.append_nil]

end

section

variable {names : List String} {P : String → Prop}
variable {found : String → List Finding} {name : String}

/-- A listed name has the findings that stand under it, since a list of
names has each of them once. -/
theorem Lists.about_flatMap (h : Lists names P)
    (hfound : ∀ other, ∀ f ∈ found other, f.subject = some other)
    (hname : P name) : about name (names.flatMap found) = found name := by
  have hn : (names.map id).Nodup := by
    rw [List.map_id]
    exact h.nodup
  exact about_flatMap_of_mem hn (fun other _ => hfound other)
    ((h.mem_iff name).2 hname)

theorem Lists.about_flatMap_of_not (h : Lists names P)
    (hfound : ∀ other, ∀ f ∈ found other, f.subject = some other)
    (hname : ¬ P name) : about name (names.flatMap found) = [] := by
  have hmem : name ∉ names.map id := by
    rw [List.map_id, h.mem_iff]
    exact hname
  exact about_flatMap_of_notMem (fun other _ => hfound other) hmem

end

-- =============================================================== grades

/-- The grade of a finding: its kind and how grave it is. -/
def Finding.grade (f : Finding) : FindingKind × Severity :=
  (f.kind, f.severity)

/-- The grades of findings that a comparison makes on fields. -/
def fieldGrades : List (FindingKind × Severity) :=
  [(.liveOnlyField, .info), (.missingField, .error),
   (.propertyMismatch, .error)]

/-- The grades of findings that a comparison makes on copy fields. -/
def copyGrades : List (FindingKind × Severity) :=
  [(.missingCopyField, .error), (.propertyMismatch, .warning),
   (.liveOnlyCopyField, .info)]

/-- The kinds of findings that a comparison makes. -/
def FindingKind.ofComparison : List FindingKind :=
  (fieldGrades ++ copyGrades).map Prod.fst

-- =============================================================== fields

/-- What a comparison finds on the fields of one kind, in order: the names
that are only live, those that are missing, and those that both have,
each of these groups in strictly ascending order. -/
structure InGroups (kind : FieldKind) (expected live : Table String Field)
    (found : List Finding) : Prop where
  exists_groups : ∃ extra missing shared,
    found = extra.map (liveOnlyField kind)
        ++ missing.map (missingField kind)
        ++ shared.flatMap (fun name =>
          (differencesAt expected live name).map (fieldMismatch kind name))
      ∧ Lists extra (fun name => name ∈ live.keys ∧ name ∉ expected.keys)
      ∧ Lists missing (fun name => name ∈ expected.keys ∧ name ∉ live.keys)
      ∧ Lists shared (fun name => name ∈ expected.keys ∧ name ∈ live.keys)

/-- What a comparison finds on a name that one of two tables has: one
finding if only one of them has it, and otherwise one for each difference,
which may be none. -/
inductive FieldVerdict (kind : FieldKind)
    (expected live : Table String Field) (name : String) :
    List Finding → Prop where
  | liveOnly (hl : name ∈ live.keys) (he : name ∉ expected.keys) :
      FieldVerdict kind expected live name [liveOnlyField kind name]
  | missing (he : name ∈ expected.keys) (hl : name ∉ live.keys) :
      FieldVerdict kind expected live name [missingField kind name]
  | shared {e l : Field} (he : expected.get? name = some e)
      (hl : live.get? name = some l) :
      FieldVerdict kind expected live name
        ((e.differences l).map (fieldMismatch kind name))

/-- What is found on the fields of one kind stands in its groups, by the
way in which it is made and the order of the names. -/
theorem inGroups_reconcileFields (kind : FieldKind)
    (expected live : Table String Field) :
    InGroups kind expected live (reconcileFields kind expected live) where
  exists_groups := ⟨_, _, _, rfl, lists_onlyIn live expected,
    lists_onlyIn expected live, lists_inBoth expected live⟩

namespace InGroups

variable {kind : FieldKind} {expected live : Table String Field}
variable {found : List Finding} {name : String}

/-- What is found on fields is of their grades: what is only live is for
information, anything else an error. -/
theorem grade_mem (h : InGroups kind expected live found) {f : Finding}
    (hf : f ∈ found) : f.grade ∈ fieldGrades := by
  obtain ⟨extra, missing, shared, rfl, -, -, -⟩ := h.exists_groups
  rcases List.mem_append.1 hf with hf | hf
  · rcases List.mem_append.1 hf with hf | hf
    · obtain ⟨other, -, rfl⟩ := List.mem_map.1 hf
      exact List.mem_cons_self ..
    · obtain ⟨other, -, rfl⟩ := List.mem_map.1 hf
      exact List.mem_cons_of_mem _ (List.mem_cons_self ..)
  · obtain ⟨other, -, hf⟩ := List.mem_flatMap.1 hf
    obtain ⟨d, -, rfl⟩ := List.mem_map.1 hf
    exact List.mem_cons_of_mem _ (List.mem_cons_of_mem _
      (List.mem_cons_self ..))

/-- Every finding is about a name that one of the tables has. -/
theorem exists_subject (h : InGroups kind expected live found)
    {f : Finding} (hf : f ∈ found) :
    ∃ name, f.subject = some name
      ∧ (name ∈ expected.keys ∨ name ∈ live.keys) := by
  obtain ⟨extra, missing, shared, rfl, hextra, hmissing, hshared⟩ :=
    h.exists_groups
  rcases List.mem_append.1 hf with hf | hf
  · rcases List.mem_append.1 hf with hf | hf
    · obtain ⟨other, hother, rfl⟩ := List.mem_map.1 hf
      exact ⟨other, rfl, Or.inr ((hextra.mem_iff other).1 hother).1⟩
    · obtain ⟨other, hother, rfl⟩ := List.mem_map.1 hf
      exact ⟨other, rfl, Or.inl ((hmissing.mem_iff other).1 hother).1⟩
  · obtain ⟨other, hother, hf⟩ := List.mem_flatMap.1 hf
    obtain ⟨d, -, rfl⟩ := List.mem_map.1 hf
    exact ⟨other, rfl, Or.inl ((hshared.mem_iff other).1 hother).1⟩

/-- Nothing is about a name that neither table has. -/
theorem about_eq_nil (h : InGroups kind expected live found)
    (hname : ¬ (name ∈ expected.keys ∨ name ∈ live.keys)) :
    about name found = [] := by
  apply SchemaAudit.about_eq_nil
  intro f hf hsubject
  obtain ⟨other, hother, hkey⟩ := h.exists_subject hf
  rw [hsubject] at hother
  injection hother with hother
  exact hname (hother ▸ hkey)

/-- What is found on a name that one of the tables has. Of the three
groups, one holds what is about the name, and the other two hold nothing.
-/
theorem verdict (h : InGroups kind expected live found)
    (hname : name ∈ expected.keys ∨ name ∈ live.keys) :
    FieldVerdict kind expected live name (about name found) := by
  obtain ⟨extra, missing, shared, rfl, hextra, hmissing, hshared⟩ :=
    h.exists_groups
  have hextraAbout : ∀ other, ∀ f ∈ [liveOnlyField kind other],
      f.subject = some other := fun _ => List.forall_mem_singleton.2 rfl
  have hmissingAbout : ∀ other, ∀ f ∈ [missingField kind other],
      f.subject = some other := fun _ => List.forall_mem_singleton.2 rfl
  have hsharedAbout : ∀ other,
      ∀ f ∈ (differencesAt expected live other).map
        (fieldMismatch kind other), f.subject = some other := by
    intro other f hf
    obtain ⟨d, -, rfl⟩ := List.mem_map.1 hf
    rfl
  -- of the three groups, one holds what is about the name
  rw [about_append, about_append, List.map_eq_flatMap,
    List.map_eq_flatMap]
  by_cases he : name ∈ expected.keys
  · rw [hextra.about_flatMap_of_not hextraAbout fun h => h.2 he,
      List.nil_append]
    by_cases hl : name ∈ live.keys
    · rw [hmissing.about_flatMap_of_not hmissingAbout fun h => h.2 hl,
        hshared.about_flatMap hsharedAbout ⟨he, hl⟩, List.nil_append]
      obtain ⟨e, he⟩ := (Table.mem_keys _).1 he
      obtain ⟨l, hl⟩ := (Table.mem_keys _).1 hl
      have hat : differencesAt expected live name = e.differences l := by
        unfold differencesAt
        rw [he, hl]
      rw [hat]
      exact .shared he hl
    · rw [hmissing.about_flatMap hmissingAbout ⟨he, hl⟩,
        hshared.about_flatMap_of_not hsharedAbout fun h => hl h.2,
        List.append_nil]
      exact .missing he hl
  · have hl := hname.resolve_left he
    rw [hextra.about_flatMap hextraAbout ⟨hl, he⟩,
      hmissing.about_flatMap_of_not hmissingAbout fun h => he h.1,
      hshared.about_flatMap_of_not hsharedAbout fun h => he h.1,
      List.append_nil, List.append_nil]
    exact .liveOnly hl he

end InGroups

-- ========================================================= copy fields

/-- What a comparison finds on a key that one of two lists of copy fields
has: one finding, unless both have it with the same limit. Of several with
one key, the first counts. -/
inductive CopyVerdict (expected live : List CopyField)
    (key : String × String) : List Finding → Prop where
  | liveOnly (hl : key ∈ live.map CopyField.key)
      (he : key ∉ expected.map CopyField.key) :
      CopyVerdict expected live key [liveOnlyCopy key]
  | missing (he : key ∈ expected.map CopyField.key)
      (hl : key ∉ live.map CopyField.key) :
      CopyVerdict expected live key [missingCopy key]
  | agrees {e l : CopyField} (he : copyNamed? expected key = some e)
      (hl : copyNamed? live key = some l) (h : l.maxChars = e.maxChars) :
      CopyVerdict expected live key []
  | differs {e l : CopyField} (he : copyNamed? expected key = some e)
      (hl : copyNamed? live key = some l) (h : l.maxChars ≠ e.maxChars) :
      CopyVerdict expected live key
        [limitMismatch key e.maxChars l.maxChars]

section

variable {expected live : List CopyField} {key : String × String}

/-- What is found on an expected copy field is of the grades of copy
fields and under its label. -/
theorem grade_and_subject_of_mem_copyFindings {e : CopyField} {f : Finding}
    (hf : f ∈ copyFindings live e) :
    f.grade ∈ copyGrades ∧ f.subject = some (copyLabel e.key) := by
  unfold copyFindings at hf
  split at hf
  · rw [List.mem_singleton.1 hf]
    exact ⟨List.mem_cons_self .., rfl⟩
  · split at hf
    · cases hf
    · rw [List.mem_singleton.1 hf]
      exact ⟨List.mem_cons_of_mem _ (List.mem_cons_self ..), rfl⟩

/-- A key is told as only live exactly if it is live and not expected,
wherever it stands among those told. -/
theorem mem_liveOnlyKeys :
    key ∈ liveOnlyKeys expected live ↔
      key ∈ live.map CopyField.key ∧ key ∉ expected.map CopyField.key := by
  unfold liveOnlyKeys
  rw [List.mem_mergeSort, List.mem_filter, Option.isNone_iff_eq_none,
    copyNamed?_eq_none]

/-- What is found on copy fields is of their grades and under the label of
a key that one of the lists has. From the subject it follows that nothing
of it is about a field. -/
theorem grade_and_subject_of_mem_reconcileCopies {f : Finding}
    (hf : f ∈ reconcileCopies expected live) :
    f.grade ∈ copyGrades ∧ ∃ key, f.subject = some (copyLabel key)
      ∧ (key ∈ expected.map CopyField.key
        ∨ key ∈ live.map CopyField.key) := by
  rcases List.mem_append.1 hf with hf | hf
  · obtain ⟨e, he, hf⟩ := List.mem_flatMap.1 hf
    obtain ⟨hgrade, hsubject⟩ := grade_and_subject_of_mem_copyFindings hf
    exact ⟨hgrade, e.key, hsubject, Or.inl (List.mem_map_of_mem he)⟩
  · obtain ⟨key, hkey, rfl⟩ := List.mem_map.1 hf
    exact ⟨List.mem_cons_of_mem _ (List.mem_cons_of_mem _
      (List.mem_cons_self ..)), key, rfl,
      Or.inr (mem_liveOnlyKeys.1 hkey).1⟩

/-- Labels of keys without blanks in front are distinct where the keys
are, so a label may stand for its key. -/
theorem nodup_map_copyLabel {keys : List (String × String)}
    (hn : keys.Nodup) (hkeys : ∀ key ∈ keys, ' ' ∉ key.1.toList) :
    (keys.map copyLabel).Nodup :=
  hn.map_on fun a ha b hb => eq_of_copyLabel_eq (hkeys a ha) (hkeys b hb)

/-- A label is among those of some keys exactly if its key is among them.
-/
theorem mem_map_copyLabel {keys : List (String × String)}
    (hkeys : ∀ key ∈ keys, ' ' ∉ key.1.toList)
    (hkey : ' ' ∉ key.1.toList) :
    copyLabel key ∈ keys.map copyLabel ↔ key ∈ keys := by
  constructor
  · intro h
    obtain ⟨other, hother, hlabel⟩ := List.mem_map.1 h
    exact eq_of_copyLabel_eq (hkeys other hother) hkey hlabel ▸ hother
  · exact List.mem_map_of_mem

/-- What is found on an expected copy field: it is missing, or live with
its limit, or live with another. -/
theorem copyVerdict_copyFindings
    (hne : (expected.map CopyField.key).Nodup) {e : CopyField}
    (he : e ∈ expected) :
    CopyVerdict expected live e.key (copyFindings live e) := by
  have hfound : copyNamed? expected e.key = some e :=
    (copyNamed?_eq_some hne).2 ⟨he, rfl⟩
  unfold copyFindings
  cases hl : copyNamed? live e.key with
  | none =>
      exact .missing (List.mem_map_of_mem he) (copyNamed?_eq_none.1 hl)
  | some l =>
      simp only
      split
      case isTrue h => exact .agrees hfound hl h
      case isFalse h => exact .differs hfound hl h

/-- What is found on a key that one of the lists has. It is either among
the expected ones or among those that are only live, so one of the two
halves of the comparison has nothing about it. -/
theorem copyVerdict_reconcileCopies
    (hne : (expected.map CopyField.key).Nodup)
    (hnl : (live.map CopyField.key).Nodup)
    (hexpected : ∀ key ∈ expected.map CopyField.key, ' ' ∉ key.1.toList)
    (hlive : ∀ key ∈ live.map CopyField.key, ' ' ∉ key.1.toList)
    (hkey : key ∈ expected.map CopyField.key
      ∨ key ∈ live.map CopyField.key) :
    CopyVerdict expected live key
      (about (copyLabel key) (reconcileCopies expected live)) := by
  have hexpectedAbout : ∀ e ∈ expected, ∀ f ∈ copyFindings live e,
      f.subject = some (copyLabel e.key) := fun e _ f hf =>
    (grade_and_subject_of_mem_copyFindings hf).2
  have honlyAbout : ∀ key ∈ liveOnlyKeys expected live,
      ∀ f ∈ [liveOnlyCopy key], f.subject = some (copyLabel key) :=
    fun key _ => List.forall_mem_singleton.2 rfl
  have honly : ∀ key ∈ liveOnlyKeys expected live,
      ' ' ∉ key.1.toList := fun key hmem =>
    hlive key (mem_liveOnlyKeys.1 hmem).1
  -- labels stand for keys here, and names without blanks make them as
  -- distinct as the keys are
  have hlabels : (expected.map fun e => copyLabel e.key)
      = (expected.map CopyField.key).map copyLabel := by
    rw [List.map_map]
    rfl
  unfold reconcileCopies
  rw [about_append, List.map_eq_flatMap]
  by_cases he : key ∈ expected.map CopyField.key
  · -- an expected key is not among those that are only live
    have hnot : copyLabel key ∉
        (liveOnlyKeys expected live).map copyLabel := by
      rw [mem_map_copyLabel honly (hexpected key he), mem_liveOnlyKeys]
      exact fun h => h.2 he
    have hn := hlabels ▸ nodup_map_copyLabel hne hexpected
    obtain ⟨e, hmem, rfl⟩ := List.mem_map.1 he
    rw [about_flatMap_of_notMem honlyAbout hnot,
      about_flatMap_of_mem hn hexpectedAbout hmem, List.append_nil]
    exact copyVerdict_copyFindings hne hmem
  · have hl := hkey.resolve_left he
    -- a key that is only live is told of once, and behind the expected ones
    have hnot : copyLabel key ∉ expected.map fun e => copyLabel e.key := by
      rw [hlabels, mem_map_copyLabel hexpected (hlive key hl)]
      exact he
    have hn : (liveOnlyKeys expected live).Nodup :=
      (List.mergeSort_perm ..).nodup_iff.2 (hnl.filter _)
    rw [about_flatMap_of_notMem hexpectedAbout hnot,
      about_flatMap_of_mem (nodup_map_copyLabel hn honly) honlyAbout
        (mem_liveOnlyKeys.2 ⟨hl, he⟩), List.nil_append]
    exact .liveOnly hl he

/-- Nothing that is found on copy fields is about the name of a field. -/
theorem about_reconcileCopies {kind : EntryKind} {name : String}
    (h : kind.admits name = true) :
    about name (reconcileCopies expected live) = [] := by
  apply about_eq_nil
  intro f hf hname
  obtain ⟨-, key, hkey, -⟩ := grade_and_subject_of_mem_reconcileCopies hf
  rw [hkey] at hname
  injection hname with hname
  exact copyLabel_ne_of_admits h key hname

end

-- ============================================================== schemas

/-- A subject that findings on a schema can have: the name of a field, or
the label of a copy field. -/
def Schema.HasSubject (s : Schema) (subject : String) : Prop :=
  subject ∈ s.statics.keys ∨ subject ∈ s.dynamics.keys
    ∨ ∃ key ∈ s.copyKeys, copyLabel key = subject

/-- What a comparison of two schemas finds. The fields come first, static
before dynamic ones and each kind in its groups, then the copy fields; and
whatever is about one field or copy field is one verdict on it. -/
structure Compared (expected live : Schema) (found : List Finding) :
    Prop where
  sections : ∃ onStatics onDynamics onCopies,
    found = onStatics ++ onDynamics ++ onCopies
      ∧ InGroups .static expected.statics live.statics onStatics
      ∧ InGroups .dynamic expected.dynamics live.dynamics onDynamics
      ∧ (∀ f ∈ onStatics ++ onDynamics, f.grade ∈ fieldGrades)
      ∧ ∀ f ∈ onCopies, f.grade ∈ copyGrades
  statics : ∀ name,
    name ∈ expected.statics.keys ∨ name ∈ live.statics.keys →
      FieldVerdict .static expected.statics live.statics name
        (about name found)
  dynamics : ∀ name,
    name ∈ expected.dynamics.keys ∨ name ∈ live.dynamics.keys →
      FieldVerdict .dynamic expected.dynamics live.dynamics name
        (about name found)
  copies : ∀ key, key ∈ expected.copyKeys ∨ key ∈ live.copyKeys →
    CopyVerdict expected.copies live.copies key
      (about (copyLabel key) found)
  subjects : ∀ f ∈ found, ∃ subject, f.subject = some subject
    ∧ (expected.HasSubject subject ∨ live.HasSubject subject)

namespace Schema.WellNamed

variable {expected live : Schema} {name : String}

/-- A name of a static field of either schema is one that static fields
can have. -/
theorem admits_static (he : expected.WellNamed) (hl : live.WellNamed)
    (h : name ∈ expected.statics.keys ∨ name ∈ live.statics.keys) :
    EntryKind.static.admits name = true :=
  h.elim (he.statics name) (hl.statics name)

/-- A name of a dynamic field of either schema is one that dynamic fields
can have. -/
theorem admits_dynamic (he : expected.WellNamed) (hl : live.WellNamed)
    (h : name ∈ expected.dynamics.keys ∨ name ∈ live.dynamics.keys) :
    EntryKind.dynamic.admits name = true :=
  h.elim (he.dynamics name) (hl.dynamics name)

/-- No name of a static field of one schema is that of a dynamic field of
the same or the other. -/
theorem not_mem_dynamics (he : expected.WellNamed) (hl : live.WellNamed)
    (h : name ∈ expected.statics.keys ∨ name ∈ live.statics.keys) :
    ¬ (name ∈ expected.dynamics.keys ∨ name ∈ live.dynamics.keys) := by
  intro hd
  have hnot := EntryKind.not_admits_dynamic (admits_static he hl h)
  exact Bool.false_ne_true (hnot.symm.trans (admits_dynamic he hl hd))

end Schema.WellNamed

/-- Two schemas with names of the kinds of their entries, compared. Of the
three sections only one is about a given name or label, so what is about
it in all findings is what is about it in that section. -/
theorem compared_reconcile {expected live : Schema}
    (he : expected.WellNamed) (hl : live.WellNamed)
    (hne : expected.copyKeys.Nodup) (hnl : live.copyKeys.Nodup) :
    Compared expected live (reconcile expected live) := by
  have hS := inGroups_reconcileFields .static expected.statics live.statics
  have hD := inGroups_reconcileFields .dynamic expected.dynamics
    live.dynamics
  unfold reconcile
  constructor
  case sections =>
      refine ⟨_, _, _, rfl, hS, hD, fun f hf => ?_, fun f hf => ?_⟩
      · exact (List.mem_append.1 hf).elim hS.grade_mem hD.grade_mem
      · exact (grade_and_subject_of_mem_reconcileCopies hf).1
  -- of the three sections, only one is about a given name or label
  case statics =>
      intro name h
      rw [about_append, about_append,
        hD.about_eq_nil (he.not_mem_dynamics hl h),
        about_reconcileCopies (he.admits_static hl h), List.append_nil,
        List.append_nil]
      exact hS.verdict h
  case dynamics =>
      intro name h
      rw [about_append, about_append,
        hS.about_eq_nil fun hs => he.not_mem_dynamics hl hs h,
        about_reconcileCopies (he.admits_dynamic hl h), List.append_nil,
        List.nil_append]
      exact hD.verdict h
  case copies =>
      intro key h
      rw [about_append, about_append,
        hS.about_eq_nil fun hs =>
          copyLabel_ne_of_admits (he.admits_static hl hs) key rfl,
        hD.about_eq_nil fun hd =>
          copyLabel_ne_of_admits (he.admits_dynamic hl hd) key rfl,
        List.nil_append, List.nil_append]
      exact copyVerdict_reconcileCopies hne hnl he.sources hl.sources h
  -- and each finding is in one of the sections
  case subjects =>
      intro f hf
      rcases List.mem_append.1 hf with hf | hf
      · rcases List.mem_append.1 hf with hf | hf
        · obtain ⟨name, hname, h⟩ := hS.exists_subject hf
          exact ⟨name, hname, h.imp Or.inl Or.inl⟩
        · obtain ⟨name, hname, h⟩ := hD.exists_subject hf
          exact ⟨name, hname,
            h.imp (fun h => Or.inr (Or.inl h)) fun h => Or.inr (Or.inl h)⟩
      · obtain ⟨-, key, hkey, h⟩ :=
          grade_and_subject_of_mem_reconcileCopies hf
        exact ⟨_, hkey, h.imp (fun h => Or.inr (Or.inr ⟨key, h, rfl⟩))
          fun h => Or.inr (Or.inr ⟨key, h, rfl⟩)⟩

/-- A comparison makes findings of these kinds only, whatever the two
schemas are. -/
theorem kind_mem_ofComparison {expected live : Schema} {f : Finding}
    (hf : f ∈ reconcile expected live) :
    f.kind ∈ FindingKind.ofComparison := by
  have hgrade : f.grade ∈ fieldGrades ++ copyGrades := by
    rcases List.mem_append.1 hf with hf | hf
    · refine List.mem_append_left _ ?_
      exact (List.mem_append.1 hf).elim
        (inGroups_reconcileFields ..).grade_mem
        (inGroups_reconcileFields ..).grade_mem
    · exact List.mem_append_right _
        (grade_and_subject_of_mem_reconcileCopies hf).1
  exact List.mem_map_of_mem hgrade

-- ============================================================== reports

namespace Checker

variable {c : Checker} {r : Representation}

/-- A checker without an expected schema. -/
def withoutExpected (c : Checker) : Checker := { c with expected := none }

/-- What the report without an expected schema finds is of kinds that no
comparison makes. -/
theorem kind_notMem_ofComparison {f : Finding}
    (hf : f ∈ (c.reportOn none r).findings) :
    f.kind ∉ FindingKind.ofComparison := by
  rcases List.mem_append.1 hf with hf | hf
  · have happart : ∀ kind ∈ FindingKind.ofReading,
        kind ∉ FindingKind.ofComparison := by decide
    exact happart _ (Representation.kind_mem_ofReading hf)
  · rcases List.mem_append.1 hf with hf | hf
    · obtain ⟨fanIn, -, rfl⟩ := List.mem_map.1 hf
      show FindingKind.copyFieldRule ∉ FindingKind.ofComparison
      decide
    · cases hf

/-- An expected schema adds what a comparison finds to the report, behind
what is there, and changes nothing else in it. -/
theorem reportOn_some (expected : Schema) :
    c.reportOn (some expected) r
      = (c.withoutExpected.reportOn none r).addAll
        (reconcile expected r.live) := by
  unfold reportOn Report.addAll findingsOn
  simp [withoutExpected]

variable {fullText : Field} {maxChars : Json} {steps : List Cache.Step}
variable {catalog : Catalog}

/-- Whenever a validation without an expected schema has a report, so has
the validation with a loaded cache: the same report, with nothing changed
and none of its findings of a kind that a comparison makes, and behind its
findings those of the comparison of the expected schema with the one that
was read. -/
theorem validate_adds_comparison {report : Report}
    (hexpected : c.expected
      = some (catalog, (Cache.new fullText maxChars).run steps))
    (hloaded : ((Cache.new fullText maxChars).run steps).isLoaded = true)
    (hfull : EntryKind.static.admits fullText.name = true)
    (hregistered : ∀ f, Cache.Step.register f ∈ steps →
      EntryKind.dynamic.admits f.name = true)
    (hreport : (c.withoutExpected.validate r).value.2 = .ok report) :
    (∀ f ∈ report.findings, f.kind ∉ FindingKind.ofComparison)
      ∧ ∃ live read added,
        (c.parse r).value = .ok (live, read)
          ∧ (c.validate r).value.2 = .ok (report.addAll added)
          ∧ Compared ((Cache.new fullText maxChars).run steps).content live
            added := by
  have hnone : c.withoutExpected.expectation = .ok none := rfl
  obtain ⟨hkeys, rfl⟩ := (validate_eq_ok_of_expectation hnone).1 hreport
  have hcompared := compared_reconcile
    (Cache.wellNamed_run hfull hregistered)
    (Representation.wellNamed_live r)
    (Cache.Follows.run fullText maxChars steps).nodup_copyKeys
    (nodup_keys_readCopiesOnto ..)
  refine ⟨fun f => kind_notMem_ofComparison, r.live, _, _,
    parse_of_hasKeys hkeys, ?_, hcompared⟩
  rw [← reportOn_some]
  exact (validate_eq_ok_of_expectation
    (expectation_of_isLoaded hexpected hloaded)).2 ⟨hkeys, rfl⟩

/-- The crowded schema against the sample cache, with and without it: most
of its entries draw a complaint, and the comparison adds its findings
behind these. -/
theorem validate_adds_comparison_crowded :
    ∃ report, (sample.withoutExpected.validate .crowded).value.2
        = .ok report
      ∧ (∀ f ∈ report.findings, f.kind ∉ FindingKind.ofComparison)
      ∧ ∃ live read added,
        (sample.parse .crowded).value = .ok (live, read)
          ∧ (sample.validate .crowded).value.2 = .ok (report.addAll added)
          ∧ Compared Cache.sample.content live added := by
  have hnone : sample.withoutExpected.expectation = .ok none := rfl
  have hreport := (validate_eq_ok_of_expectation hnone).2
    ⟨Representation.hasKeys_crowded, rfl⟩
  refine ⟨_, hreport, ?_⟩
  refine validate_adds_comparison (c := sample) rfl Cache.isLoaded_sample
    (by decide) (fun f hf => ?_) hreport
  have hf : f = Cache.notes := by simpa using hf
  subst hf
  decide

end Checker

end SchemaAudit
