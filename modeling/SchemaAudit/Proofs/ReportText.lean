/-
The text of a report. It is one line and holds an object that tells the
report as it is (`Report.IsToldBy`): what was given, a word for the
state, for the failure and for how the run stands, and under the
findings one object for each, in their order. A word is of one thing
only, and a text that is missing is null, which is no text; so the
object leaves one report that it can be of (`Report.IsToldBy.unique`),
and so does the text.

# Written as it is

The writer sorts keys, refuses what it cannot write and writes some
doubles as null. A value of which none of this is so is written as it is
(`Json.WrittenAsIs`), and read back as it was. The objects of reports
and findings have their keys in ascending order already, their words and
texts are strings, and what is left are the three values that a report
was given (`Report.IsWritable`). So each part of a report is shown to be
written as it is, and the parts are put together as the values are.

# Told

That an object tells a report is said entry by entry, by looking them
up, and not by how the object is made: whoever reads the line can do the
same.
-/
import SchemaAudit.Proofs.Json.ReadBack
import SchemaAudit.Report

namespace SchemaAudit

-- ================================================================ words

theorem Severity.ofWord?_word (s : Severity) : ofWord? s.word = some s := by
  cases s <;> rfl

theorem FindingKind.ofWord?_word (k : FindingKind) :
    ofWord? k.word = some k := by
  cases k <;> rfl

theorem RunState.ofWord?_word (s : RunState) : ofWord? s.word = some s := by
  cases s <;> rfl

theorem FailureKind.ofWord?_word (k : FailureKind) :
    ofWord? k.word = some k := by
  cases k <;> rfl

/-- What words are looked up under is known from its word: two things with
one word are the same. -/
theorem eq_of_word {α : Type} {word : α → String}
    {ofWord? : String → Option α} (hword : ∀ x, ofWord? (word x) = some x)
    {x y : α} (h : word x = word y) : x = y := by
  have hsome := hword x
  rw [h, hword y] at hsome
  exact (Option.some.inj hsome).symm

-- =========================================== values written as they are

namespace Json

/-- Whether a value is a single one that is written as it is: an integer
fits in 64 bits, and a double is finite. -/
def isWritableScalar : Json → Bool
  | .int n => fitsWord n
  | .float x => x.magnitude?.isSome
  | .arr _ => false
  | .obj _ => false
  | _ => true

/-- A value is written as it is if it may open some containers: its keys
stand in order, its text tells all of it, and nothing keeps it from being
written. -/
structure WrittenAsIs (room : Nat) (v : Json) : Prop where
  sorted : v.sortKeys = v
  exact : v.isExact = true
  fits : v.fault? room = none

/-- A single value that can be written is written as it is, in any room. -/
theorem writtenAsIs_of_scalar {v : Json} (h : v.isWritableScalar = true)
    (room : Nat) : WrittenAsIs room v := by
  cases v with
  | arr items => cases h
  | obj entries => cases h
  | float x => exact ⟨rfl, h, rfl⟩
  | int n => exact ⟨rfl, rfl, if_pos h⟩
  | _ => exact ⟨rfl, rfl, rfl⟩

/-- An array of values that are written as they are is so too, with room
for one container more. -/
theorem writtenAsIs_arr {room : Nat} {items : List Json}
    (h : ∀ v ∈ items, WrittenAsIs room v) :
    WrittenAsIs (room + 1) (.arr items) where
  sorted := by
    have hsorted : sortItems items = items := by
      induction items with
      | nil => rfl
      | cons v items ih =>
          obtain ⟨hv, hitems⟩ := List.forall_mem_cons.1 h
          rw [sortItems, hv.sorted, ih hitems]
    rw [sortKeys, hsorted]
  exact := itemsExact_iff.2 fun v hv => (h v hv).exact
  fits := by
    cases items with
    | nil => rfl
    | cons v items =>
        exact itemsFault?_eq_none.2 fun u hu => (h u hu).fits

/-- Entries in order stay where they are, and so do their values. -/
theorem sortEntries_eq_self {entries : List (String × Json)}
    (hkeys : (entries.map Prod.fst).Pairwise (· < ·))
    (h : ∀ e ∈ entries, e.2.sortKeys = e.2) :
    sortEntries entries = entries := by
  induction entries with
  | nil => rfl
  | cons e entries ih =>
      obtain ⟨k, v⟩ := e
      rw [List.map_cons, List.pairwise_cons] at hkeys
      have hv : v.sortKeys = v := h (k, v) (List.mem_cons_self ..)
      rw [sortEntries, hv, ih hkeys.2 (List.forall_mem_cons.1 h).2]
      cases entries with
      | nil => rfl
      | cons f entries =>
          exact if_pos (hkeys.1 f.1 (List.mem_cons_self ..))

/-- An object with its keys in order is written as it is if the values in
it are, with room for one container more. -/
theorem writtenAsIs_obj {room : Nat} {entries : List (String × Json)}
    (hkeys : (entries.map Prod.fst).Pairwise (· < ·))
    (h : ∀ e ∈ entries, WrittenAsIs room e.2) :
    WrittenAsIs (room + 1) (.obj entries) where
  sorted := by
    rw [sortKeys, sortEntries_eq_self hkeys fun e he => (h e he).sorted]
  exact := by
    have hnodup : (entries.map Prod.fst).Nodup := by
      refine hkeys.imp ?_
      rintro k _ hlt rfl
      exact String.lt_irrefl k hlt
    exact Bool.and_eq_true_iff.2 ⟨decide_eq_true hnodup,
      entriesExact_iff.2 fun e he => (h e he).exact⟩
  fits := by
    cases entries with
    | nil => rfl
    | cons e entries =>
        exact entriesFault?_eq_none.2 fun f hf => (h f hf).fits

end Json

-- ======================================================= optional texts

namespace Report

theorem isWritableScalar_optionalText (s : Option String) :
    (optionalText s).isWritableScalar = true := by
  cases s <;> rfl

/-- A text and its absence are written differently, and so are two texts.
-/
theorem optionalText_inj {s t : Option String}
    (h : optionalText s = optionalText t) : s = t := by
  cases s with
  | none => cases t with
    | none => rfl
    | some t => cases h
  | some s => cases t with
    | none => cases h
    | some t => exact congrArg some (Json.str.inj h)

end Report

-- ============================================================= findings

/-- The entries of an object tell a finding: its keys in ascending order,
words for its kind and its severity, the message as it is, and the subject
as it is or null. -/
structure Finding.IsToldBy (f : Finding) (entries : List (String × Json)) :
    Prop where
  keys : entries.map Prod.fst = ["kind", "message", "severity", "subject"]
  ascending : (entries.map Prod.fst).Pairwise (· < ·)
  kind : Json.find? "kind" entries = some (.str f.kind.word)
  message : Json.find? "message" entries = some (.str f.message)
  severity : Json.find? "severity" entries = some (.str f.severity.word)
  subject : Json.find? "subject" entries
    = some (Report.optionalText f.subject)

/-- Entries tell one finding at most: each part of it is found under a key
of its own. -/
theorem Finding.IsToldBy.unique {f g : Finding}
    {entries : List (String × Json)} (hf : f.IsToldBy entries)
    (hg : g.IsToldBy entries) : f = g := by
  have hkind := hf.kind.symm.trans hg.kind
  have hmessage := hf.message.symm.trans hg.message
  have hseverity := hf.severity.symm.trans hg.severity
  have hsubject := hf.subject.symm.trans hg.subject
  rw [Option.some.injEq, Json.str.injEq] at hkind hmessage hseverity
  rw [Option.some.injEq] at hsubject
  obtain ⟨kind, severity, message, subject⟩ := f
  obtain ⟨kind', severity', message', subject'⟩ := g
  cases eq_of_word FindingKind.ofWord?_word hkind
  cases eq_of_word Severity.ofWord?_word hseverity
  cases hmessage
  cases Report.optionalText_inj hsubject
  rfl

namespace Report

/-- The entries of a finding as JSON. -/
def findingEntries (f : Finding) : List (String × Json) :=
  [("kind", .str f.kind.word), ("message", .str f.message),
   ("severity", .str f.severity.word), ("subject", optionalText f.subject)]

/-- The object of a finding tells it. -/
theorem isToldBy_findingEntries (f : Finding) :
    f.IsToldBy (findingEntries f) where
  keys := rfl
  ascending := by
    show ["kind", "message", "severity", "subject"].Pairwise (· < ·)
    decide
  kind := rfl
  message := rfl
  severity := rfl
  subject := rfl

/-- The object of a finding is written as it is, whatever texts are in it.
-/
theorem writtenAsIs_findingJson (f : Finding) (room : Nat) :
    (findingJson f).WrittenAsIs (room + 1) := by
  refine Json.writtenAsIs_obj (isToldBy_findingEntries f).ascending ?_
  have hsubject := isWritableScalar_optionalText f.subject
  simp only [List.forall_mem_cons]
  exact ⟨Json.writtenAsIs_of_scalar rfl room,
    Json.writtenAsIs_of_scalar rfl room,
    Json.writtenAsIs_of_scalar rfl room,
    Json.writtenAsIs_of_scalar hsubject room, fun _ he => nomatch he⟩

-- ============================================================== reports

variable {r : Report}

/-- What a report was given can be written: the collection, the version of
the schema and the duration are single values, no integer in them is
beyond 64 bits, and no double is infinite or no number. -/
structure IsWritable (r : Report) : Prop where
  collection : r.collection.isWritableScalar = true
  schemaVersion : r.schemaVersion.isWritableScalar = true
  duration : r.duration.isWritableScalar = true

/-- The entries of an object tell a report: its keys in ascending order,
what was given as it is, words for the state, the failure and how the run
stands, the text of the failure as it is, null for a failure or a text
that is missing, and for each finding an object that tells it. -/
structure IsToldBy (r : Report) (entries : List (String × Json)) :
    Prop where
  keys : entries.map Prod.fst
    = ["collection", "duration_s", "error", "failure_kind", "findings",
       "schema_version", "state", "status"]
  ascending : (entries.map Prod.fst).Pairwise (· < ·)
  collection : Json.find? "collection" entries = some r.collection
  duration : Json.find? "duration_s" entries = some r.duration
  error : Json.find? "error" entries = some (optionalText r.error)
  failure : Json.find? "failure_kind" entries
    = some (optionalText (r.failure.map FailureKind.word))
  findings : ∃ told, Json.find? "findings" entries
      = some (.arr (told.map Json.obj))
    ∧ List.Forall₂ Finding.IsToldBy r.findings told
  schemaVersion : Json.find? "schema_version" entries
    = some r.schemaVersion
  state : Json.find? "state" entries = some (.str r.state.word)
  status : Json.find? "status" entries = some (.str r.status)

/-- Entries tell one report at most: each part of it is found under a key
of its own, and each finding by its object. -/
theorem IsToldBy.unique {r' : Report} {entries : List (String × Json)}
    (h : r.IsToldBy entries) (h' : r'.IsToldBy entries) : r = r' := by
  have hcollection := h.collection.symm.trans h'.collection
  have hstate := h.state.symm.trans h'.state
  have hversion := h.schemaVersion.symm.trans h'.schemaVersion
  have hfailure := h.failure.symm.trans h'.failure
  have herror := h.error.symm.trans h'.error
  have hduration := h.duration.symm.trans h'.duration
  rw [Option.some.injEq] at hcollection hversion hduration
  rw [Option.some.injEq] at hstate hfailure herror
  have hfindings : r.findings = r'.findings := by
    obtain ⟨told, htold, hall⟩ := h.findings
    obtain ⟨told', htold', hall'⟩ := h'.findings
    have hsame := htold.symm.trans htold'
    rw [Option.some.injEq, Json.arr.injEq,
      (List.map_injective_iff.2 fun _ _ => Json.obj.inj).eq_iff] at hsame
    rw [← hsame] at hall'
    have hunique : Relator.LeftUnique Finding.IsToldBy :=
      fun _ _ _ hf hg => hf.unique hg
    exact List.left_unique_forall₂' hunique hall hall'
  have hfailure : r.failure = r'.failure :=
    Option.map_injective (fun _ _ => eq_of_word FailureKind.ofWord?_word)
      (optionalText_inj hfailure)
  have hstate := eq_of_word RunState.ofWord?_word (Json.str.inj hstate)
  have herror := optionalText_inj herror
  obtain ⟨collection, state, version, findings, failure, error, _⟩ := r
  obtain ⟨collection', state', version', findings', failure', error', _⟩ :=
    r'
  cases hcollection
  cases hstate
  cases hversion
  cases hfindings
  cases hfailure
  cases herror
  cases hduration
  rfl

/-- The entries of a report as JSON. -/
def entries (r : Report) : List (String × Json) :=
  [("collection", r.collection), ("duration_s", r.duration),
   ("error", optionalText r.error),
   ("failure_kind", optionalText (r.failure.map FailureKind.word)),
   ("findings", .arr (r.findings.map findingJson)),
   ("schema_version", r.schemaVersion), ("state", .str r.state.word),
   ("status", .str r.status)]

/-- The object of a report tells it. -/
theorem isToldBy_entries (r : Report) : r.IsToldBy r.entries where
  keys := rfl
  ascending := by
    show ["collection", "duration_s", "error", "failure_kind", "findings",
      "schema_version", "state", "status"].Pairwise (· < ·)
    decide
  collection := rfl
  duration := rfl
  error := rfl
  failure := rfl
  findings := by
    refine ⟨r.findings.map findingEntries, ?_, ?_⟩
    · rw [List.map_map]
      rfl
    · rw [List.forall₂_map_right_iff]
      exact List.forall₂_same.2 fun f _ => isToldBy_findingEntries f
  schemaVersion := rfl
  state := rfl
  status := rfl

/-- The object of a report that can be written is written as it is; it
holds findings in a list and no further container. -/
theorem writtenAsIs_toJson (h : r.IsWritable) (room : Nat) :
    r.toJson.WrittenAsIs (room + 3) := by
  have hscalar : ∀ {v : Json}, v.isWritableScalar = true →
      v.WrittenAsIs (room + 2) := fun hv =>
    Json.writtenAsIs_of_scalar hv (room + 2)
  have hfindings : (Json.arr (r.findings.map findingJson)).WrittenAsIs
      (room + 2) := by
    refine Json.writtenAsIs_arr fun v hv => ?_
    obtain ⟨f, -, rfl⟩ := List.mem_map.1 hv
    exact writtenAsIs_findingJson f room
  refine Json.writtenAsIs_obj (isToldBy_entries r).ascending ?_
  simp only [List.forall_mem_cons]
  exact ⟨hscalar h.collection, hscalar h.duration,
    hscalar (isWritableScalar_optionalText _),
    hscalar (isWritableScalar_optionalText _), hfindings,
    hscalar h.schemaVersion, hscalar rfl, hscalar rfl,
    fun _ he => nomatch he⟩

/-- The text of a report that can be written, and what is read from it:
the object that it was written from. -/
theorem text_eq (h : r.IsWritable) :
    r.text = .ok (String.ofList r.toJson.chars)
      ∧ Json.read (String.ofList r.toJson.chars) = .ok r.toJson := by
  obtain ⟨hsorted, hexact, hfits⟩ := writtenAsIs_toJson h 251
  refine ⟨?_, Json.read_chars hexact hfits⟩
  unfold text
  rw [hsorted]
  unfold Json.write
  rw [show Json.maxNesting = 251 + 3 from rfl, hfits]

/-- A report has a text. It is one line, for no control character is in
it; it is read as an object that tells the report; and no other report that
can be written has that text. -/
theorem text_tells (h : r.IsWritable) :
    ∃ s entries, r.text = .ok s ∧ (∀ c ∈ s.toList, 0x20 ≤ c.toNat)
      ∧ Json.read s = .ok (.obj entries) ∧ r.IsToldBy entries
      ∧ ∀ r' : Report, r'.IsWritable → r'.text = .ok s → r' = r := by
  obtain ⟨htext, hread⟩ := text_eq h
  refine ⟨_, r.entries, htext, ?_, hread, isToldBy_entries r,
    fun r' h' htext' => ?_⟩
  · rw [String.toList_ofList]
    exact Json.isPlain_chars r.toJson
  · obtain ⟨heq, hread'⟩ := text_eq h'
    rw [← Except.ok.inj (htext'.symm.trans heq), hread] at hread'
    have hentries : r.entries = r'.entries :=
      Json.obj.inj (Except.ok.inj hread')
    exact (isToldBy_entries r').unique (hentries ▸ isToldBy_entries r)

/-- A report of a failure, whose texts hold quotes, a backslash, control
characters and characters beyond the first plane, and a finding without a
subject beside one whose subject is the word for nothing. -/
def awkward : Report where
  collection := .str "b\"\\\u00fccher\x01"
  state := .failed
  schemaVersion := .float ⟨0x3ff999999999999a⟩
  findings :=
    [⟨.missingField, .error, "line\nend 𝔰", none⟩,
     ⟨.copyFieldRule, .warning, "", some "null"⟩]
  failure := some .catalog
  error := some "\x7f\t"
  duration := .float ⟨0x3fb999999999999a⟩

/-- Quotes, a backslash, control characters, a character of two units and
a text that reads like null all come through. -/
theorem text_tells_awkward :
    awkward.IsWritable ∧ ∃ s entries, awkward.text = .ok s
      ∧ (∀ c ∈ s.toList, 0x20 ≤ c.toNat)
      ∧ Json.read s = .ok (.obj entries) ∧ awkward.IsToldBy entries
      ∧ ∀ r' : Report, r'.IsWritable → r'.text = .ok s → r' = awkward := by
  have h : awkward.IsWritable := ⟨rfl, rfl, rfl⟩
  exact ⟨h, text_tells h⟩

end Report

end SchemaAudit
