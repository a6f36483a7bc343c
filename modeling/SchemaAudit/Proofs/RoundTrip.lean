/-
The expected schema conforms to itself. Written to the wire and read
again, in whatever order, each of its fields comes back with its flags
filled in (`read_written`), and each of its copy fields comes back
between such fields (`copyOutcome_toWire`). None of this is a
difference, so that a live schema which holds just what is expected is
validated without a finding (`findings_written_eq_nil`), whatever the
history of the cache was.

# Fields

`Mirrors` is what reading makes of fields that were written: under each
name stands the same field with its flags filled in. It is a statement
about look-ups, so the order in which the entries are listed is lost on
the way, and it is all that the comparison needs: a field does not
differ from itself with its flags filled in.

# Copy fields

They are read between the live fields, not between those of the cache.
`Feeds` collects what makes that work: all of them lead to one static
field of several values, so neither rule can be broken, every source is
a static name, so no template can catch it, and no pair of names comes
twice. A sound cache has such copy fields as soon as its full-text field
holds several values (`feeds_of_mirrors`).

# What is asked for

That registered templates are no stock ones is needed because reading
passes those over. That the full-text field holds several values is
needed because a copy of several values into a field of one is refused,
and two copies into it are reported.
-/
import SchemaAudit.Proofs.Checker
import SchemaAudit.Proofs.Expected.History
import SchemaAudit.Proofs.Field.Meaning
import SchemaAudit.Proofs.Reconcile

namespace SchemaAudit

open Outcome

-- ============================================================== fields

/-- Entries that convert one by one convert together, in their order. -/
theorem converted_of_forall₂ {kind : FieldKind} {fs : List Field}
    {entries : List RawEntry} {g : Field → Field}
    (h : List.Forall₂ (fun f raw => Field.ofWire kind raw = .ok (g f))
      fs entries) : converted kind entries = fs.map g := by
  induction h with
  | nil => rfl
  | cons hf _ ih =>
      unfold converted
      rw [List.filterMap_cons, hf]
      exact congrArg _ ih

/-- Live fields that mirror others: under each name stands the same field
with its flags filled in. -/
def Mirrors (t live : Table String Field) : Prop :=
  ∀ name, live.get? name = (t.get? name).map Field.completed

section

variable {kind : FieldKind} {t : Table String Field}
variable {entries : List RawEntry}

/-- What converts to the fields of a table has their distinct names, in
whatever order: filling in flags changes no name. -/
theorem nodup_of_perm_completed (hnamed : Named t)
    (hperm : (converted kind entries).Perm
      (t.values.map Field.completed)) :
    ((converted kind entries).map Field.name).Nodup := by
  apply (hperm.map Field.name).nodup_iff.2
  rw [List.map_map]
  show (t.values.map Field.name).Nodup
  rw [hnamed.map_name_values]
  exact t.nodup_keys

/-- Entries that convert to the fields of a table, in any order, are read
into what mirrors it, since with distinct names a look-up finds the one
field of the name. -/
theorem mirrors_of_perm_completed (hnamed : Named t)
    (hperm : (converted kind entries).Perm
      (t.values.map Field.completed)) :
    Mirrors t (readFieldsOnto kind Table.empty entries).1 := by
  intro name
  rw [fst_readFieldsOnto, Cache.get?_addFields, Table.get?_empty,
    Option.none_or]
  apply Option.ext
  intro l
  rw [firstNamed?_eq_some (nodup_of_perm_completed hnamed hperm),
    hperm.mem_iff, List.mem_map, Option.map_eq_some_iff]
  constructor
  · intro h
    obtain ⟨⟨f, hf, rfl⟩, hl⟩ := h
    obtain ⟨key, hkey⟩ := (Table.mem_values _).1 hf
    have hname : f.name = name := hl
    rw [hnamed key f hkey] at hname
    exact ⟨f, hname ▸ hkey, rfl⟩
  · intro h
    obtain ⟨f, hf, rfl⟩ := h
    exact ⟨⟨f, (Table.mem_values _).2 ⟨name, hf⟩, rfl⟩, hnamed name f hf⟩

/-- The fields of a table can be written one by one, and each is read
again under its name, with its flags filled in. -/
theorem exists_written (hstd : ∀ f ∈ t.values, f.IsStandard kind) :
    ∃ ws, t.values.mapM Field.toWire = .ok ws
      ∧ List.Forall₂ (fun f raw =>
          rawValue .name raw = .str f.name
            ∧ Field.ofWire kind raw = .ok f.completed) t.values ws := by
  apply exists_mapM_eq_ok
  intro f hf
  obtain ⟨hkind, hwf, htype⟩ := hstd f hf
  obtain ⟨raw, hraw, hname, hread⟩ := Field.ofWire_toWire hwf htype
  refine ⟨raw, hraw, ?_, hkind ▸ hread⟩
  unfold rawValue
  rw [hname]
  rfl

/-- Fields that are written and read again, in any order: every entry has
the name of one of them, there is no finding, and what is read mirrors
what was written. -/
theorem read_written (hnamed : Named t)
    (hstd : ∀ f ∈ t.values, f.IsStandard kind) :
    ∃ ws, t.values.mapM Field.toWire = .ok ws
      ∧ ∀ entries, entries.Perm ws →
        (∀ raw ∈ entries, ∃ f ∈ t.values,
            rawValue .name raw = .str f.name)
          ∧ (readFieldsOnto kind Table.empty entries).2 = []
          ∧ Mirrors t
            (readFieldsOnto kind Table.empty entries).1 := by
  obtain ⟨ws, hws, hR⟩ := exists_written hstd
  refine ⟨ws, hws, fun entries hp => ?_⟩
  have hperm : (converted kind entries).Perm
      (t.values.map Field.completed) := by
    rw [← converted_of_forall₂ (hR.imp fun _ _ h => h.2)]
    exact hp.filterMap _
  have hentry : ∀ raw ∈ entries, ∃ f ∈ t.values,
      rawValue .name raw = .str f.name
        ∧ Field.ofWire kind raw = .ok f.completed :=
    fun raw hraw => exists_of_forall₂ hR (hp.mem_iff.1 hraw)
  have hnodup := nodup_of_perm_completed hnamed hperm
  refine ⟨fun raw hraw => ?_, ?_, mirrors_of_perm_completed hnamed hperm⟩
  · obtain ⟨f, hf, hname, -⟩ := hentry raw hraw
    exact ⟨f, hf, hname⟩
  · rw [(readFieldsOnto_empty hnodup).2, List.filterMap_eq_nil_iff]
    intro raw hraw
    obtain ⟨f, -, -, hread⟩ := hentry raw hraw
    exact refusal?_eq_none.2 ⟨_, hread⟩

end

namespace Mirrors

variable {t live : Table String Field}

/-- What mirrors fields under their own names has them under their own
names. -/
theorem named (h : Mirrors t live) (ht : Named t) : Named live := by
  intro name l hl
  rw [h, Option.map_eq_some_iff] at hl
  obtain ⟨f, hf, rfl⟩ := hl
  exact ht name f hf

/-- A field is found again under its name, with its flags filled in. -/
theorem get? (h : Mirrors t live) {name : String} {f : Field}
    (hf : t.get? name = some f) : live.get? name = some f.completed := by
  rw [h, hf]
  rfl

/-- There is nothing to find between fields and what mirrors them: no name
is missing on either side, and filling in flags is no difference. -/
theorem reconcileFields_eq_nil (h : Mirrors t live) {kind : FieldKind}
    (ht : ∀ f ∈ t.values, f.IsStandard kind) :
    reconcileFields kind t live = [] :=
  SchemaAudit.reconcileFields_eq_nil h fun f hf =>
    Field.differences_completed (ht f hf).type_mem

end Mirrors

-- ========================================================= copy fields

/-- A name that a static field has means that field, whatever templates
would catch the name. -/
theorem resolveReference_of_static {role name : String}
    {statics dynamics : Table String Field} {f : Field}
    (h : statics.get? name = some f) :
    resolveReference role (.str name) statics dynamics = .ok f := by
  have hname : fieldNamed? statics dynamics name = some f := by
    unfold fieldNamed?
    rw [h]
    rfl
  have hbind : (Json.str name).str?.bind (fieldNamed? statics dynamics)
      = some f := hname
  unfold resolveReference
  rw [hbind]

/-- A copy field that is written is accepted again, between the fields
that its names mean, if a copy field can be built of these. Stated for any
two fields, as those that are meant need not be the ones that it had. -/
theorem copyOutcome_toWire {statics dynamics : Table String Field}
    {copy again : CopyField} {s d : Field}
    (hs : resolveReference "source" (.str copy.source.name) statics
      dynamics = .ok s)
    (hd : resolveReference "dest" (.str copy.dest.name) statics dynamics
      = .ok d)
    (hbuilt : CopyField.ofFields s d (.int copy.maxChars) = .ok again) :
    copyOutcome statics dynamics copy.toWire = .ok again := by
  have hsource : rawValue .source copy.toWire = .str copy.source.name :=
    rfl
  have hdest : rawValue .dest copy.toWire = .str copy.dest.name := rfl
  have hwire : CopyField.wireLimit copy.toWire = .ok copy.maxChars := rfl
  refine copyOutcome_eq_ok.2 ⟨fun key hkey => ?_, s, d, ?_, ?_, ?_⟩
  · have hkeys : copy.toWire.map Prod.fst
        = [Property.source.key, Property.dest.key,
          Property.maxChars.key] := rfl
    rw [hkeys] at hkey
    simp only [List.mem_cons, List.not_mem_nil, or_false] at hkey
    rcases hkey with rfl | rfl | rfl
    · exact ⟨_, Property.ofKey?_key _⟩
    · exact ⟨_, Property.ofKey?_key _⟩
    · exact ⟨_, Property.ofKey?_key _⟩
  · rw [hsource]
    exact hs
  · rw [hdest]
    exact hd
  · unfold copyOfEntry
    exact bind_eq_ok.2 ⟨_, hwire, hbuilt⟩

/-- Copy fields that feed one field: it is static and holds several
values, every source is the name of a static field, and no pair of names
comes twice. -/
structure Feeds (statics : Table String Field) (d : Field)
    (copies : List CopyField) : Prop where
  named : Named statics
  static : d.isWildcard = false
  multivalued : d.isMultivalued = true
  ends : ∀ copy ∈ copies, copy.source.name ∈ statics.keys
    ∧ statics.get? copy.dest.name = some d ∧ 1 ≤ copy.maxChars
  keys : (copies.map CopyField.key).Nodup

namespace Feeds

variable {statics : Table String Field} {d : Field}
variable {copies : List CopyField} {entries : List RawEntry}

/-- Each of the copy fields, once written, is accepted with its names and
its limit. -/
theorem accepts (h : Feeds statics d copies)
    (dynamics : Table String Field) {copy : CopyField}
    (hcopy : copy ∈ copies) :
    ∃ l, copyOutcome statics dynamics copy.toWire = .ok l
      ∧ l.dest = d ∧ l.key = copy.key ∧ l.maxChars = copy.maxChars := by
  obtain ⟨hkey, hd, hlimit⟩ := h.ends copy hcopy
  obtain ⟨s, hs⟩ := (Table.mem_keys _).1 hkey
  have hbuilt : CopyField.ofFields s d (.int copy.maxChars)
      = .ok ⟨s, d, copy.maxChars⟩ :=
    CopyField.ofFields_eq_ok.2 ⟨by simp [h.static],
      by simp [h.multivalued], _, CopyField.limit_eq_ok.2 ⟨hlimit, rfl⟩,
      rfl⟩
  refine ⟨_, copyOutcome_toWire (resolveReference_of_static hs)
    (resolveReference_of_static hd) hbuilt, rfl, ?_, rfl⟩
  exact Prod.ext (h.named _ s hs) (h.named _ d hd)

/-- What is accepted of them, in any order, comes from one of them. -/
theorem of_mem_accepted (h : Feeds statics d copies)
    {dynamics : Table String Field}
    (hp : entries.Perm (copies.map CopyField.toWire)) {l : CopyField}
    (hl : l ∈ accepted statics dynamics entries) :
    ∃ copy ∈ copies, l.dest = d ∧ l.key = copy.key
      ∧ l.maxChars = copy.maxChars := by
  obtain ⟨raw, hraw, hl⟩ := mem_accepted.1 hl
  obtain ⟨copy, hcopy, rfl⟩ := List.mem_map.1 (hp.mem_iff.1 hraw)
  obtain ⟨l', hl', hsame⟩ := h.accepts dynamics hcopy
  rw [hl'] at hl
  injection hl with hl
  exact ⟨copy, hcopy, hl ▸ hsame⟩

/-- Each of them is found again under its key, with its limit. What is
found comes from one of them, and as keys are distinct it is the one asked
for. -/
theorem copyNamed?_accepted (h : Feeds statics d copies)
    (dynamics : Table String Field)
    (hp : entries.Perm (copies.map CopyField.toWire)) {copy : CopyField}
    (hcopy : copy ∈ copies) :
    ∃ l, copyNamed? (accepted statics dynamics entries) copy.key = some l
      ∧ l.maxChars = copy.maxChars := by
  obtain ⟨l, hl, -, hk, -⟩ := h.accepts dynamics hcopy
  have hmem : l ∈ accepted statics dynamics entries :=
    mem_accepted.2 ⟨copy.toWire,
      hp.mem_iff.2 (List.mem_map_of_mem hcopy), hl⟩
  cases hn : copyNamed? (accepted statics dynamics entries) copy.key with
  | none =>
      exact absurd (List.mem_map.2 ⟨l, hmem, hk⟩)
        (copyNamed?_eq_none.1 hn)
  | some m =>
      -- keys are distinct, so it is the copy field asked for
      obtain ⟨hm, hmk⟩ := key_of_copyNamed? hn
      obtain ⟨copy', hcopy', -, hk', hlimit⟩ := h.of_mem_accepted hp hm
      have he : copy' = copy :=
        List.inj_on_of_nodup_map h.keys hcopy' hcopy (hk' ▸ hmk)
      exact ⟨m, rfl, he ▸ hlimit⟩

/-- Written and read again, in any order, they draw no finding, each of
them is read with its limit, and nothing else is read. -/
theorem readCopies_written (h : Feeds statics d copies)
    (dynamics : Table String Field)
    (hp : entries.Perm (copies.map CopyField.toWire)) :
    (readCopiesOnto statics dynamics [] entries).2 = []
      ∧ (∀ copy ∈ copies, ∃ l,
        copyNamed? (readCopiesOnto statics dynamics [] entries).1 copy.key
            = some l ∧ l.maxChars = copy.maxChars)
      ∧ ∀ l ∈ (readCopiesOnto statics dynamics [] entries).1,
        l.dest = d ∧ l.key ∈ copies.map CopyField.key := by
  rw [snd_readCopiesOnto, fst_readCopiesOnto]
  refine ⟨?_, fun copy hcopy => ?_, fun l hl => ?_⟩
  · rw [List.flatMap_eq_nil_iff]
    intro raw hraw
    obtain ⟨copy, hcopy, rfl⟩ := List.mem_map.1 (hp.mem_iff.1 hraw)
    obtain ⟨l, hl, -⟩ := h.accepts dynamics hcopy
    exact complaints_eq_nil.2 ⟨l, hl⟩
  · rw [Cache.copyNamed?_addCopies]
    exact h.copyNamed?_accepted dynamics hp hcopy
  · rcases Cache.mem_of_mem_addCopies hl with hl | hl
    · cases hl
    · obtain ⟨copy, hcopy, hd, hk, -⟩ := h.of_mem_accepted hp hl
      exact ⟨hd, List.mem_map.2 ⟨copy, hcopy, hk.symm⟩⟩

end Feeds

-- =============================================================== caches

/-- No stock template is among registered fields, so every entry of one
is managed. -/
theorem filter_isManaged_eq_self {t : Table String Field}
    {entries : List RawEntry}
    (ht : ∀ f ∈ t.values, f.name ∉ stockTemplates)
    (h : ∀ raw ∈ entries, ∃ f ∈ t.values,
      rawValue .name raw = .str f.name) :
    entries.filter isManaged = entries := by
  apply List.filter_eq_self.2
  intro raw hraw
  obtain ⟨f, hf, hname⟩ := h raw hraw
  exact (isManaged_iff hname).2 (ht f hf)

/-- The copy fields of a sound cache feed the live full-text field, if
that holds several values; it does so after its flags are filled in as
well. -/
theorem feeds_of_mirrors {c : Cache} (hnamed : c.IsNamed)
    (hsound : c.IsSound) (hmulti : c.fullText.isMultivalued = true)
    {statics : Table String Field}
    (h : Mirrors c.content.statics statics) :
    Feeds statics c.fullText.completed c.content.copies where
  named := h.named hnamed.statics
  static := by
    have hfull : c.fullText.IsStandard .static :=
      hsound.statics _ ((Table.mem_values _).2 ⟨_, hsound.fullText⟩)
    show (c.fullText.kind == .dynamic) = false
    rw [hfull.kind_eq]
    rfl
  multivalued := (Field.isMultivalued_completed _).trans hmulti
  ends := by
    intro copy hcopy
    obtain ⟨hsource, hdest, hlimit⟩ := hsound.copies copy hcopy
    obtain ⟨s, hs⟩ := (Table.mem_keys _).1 hsource
    refine ⟨(Table.mem_keys _).2 ⟨_, h.get? hs⟩, ?_, hlimit⟩
    rw [hdest]
    exact h.get? hsound.fullText
  keys := hsound.keys

/-- The content of a sound cache can be written, and whatever holds just
what was written, in any order, is read without a finding, now or in the
comparison with that content. -/
theorem findings_written_eq_nil {c : Cache} (hnamed : c.IsNamed)
    (hsound : c.IsSound) (hmulti : c.fullText.isMultivalued = true) :
    ∃ ws wd, c.content.statics.values.mapM Field.toWire = .ok ws
      ∧ c.content.dynamics.values.mapM Field.toWire = .ok wd
      ∧ ∀ r : Representation, r.fields.Perm ws →
        r.dynamicFields.Perm wd →
        r.copyFields.Perm (c.content.copies.map CopyField.toWire) →
        r.HasKeys ∧ r.complaints = []
          ∧ Checker.findingsOn r.live (some c.content) = [] := by
  obtain ⟨ws, hws, hreadS⟩ := read_written hnamed.statics hsound.statics
  obtain ⟨wd, hwd, hreadD⟩ := read_written hnamed.dynamics
    fun f hf => (hsound.dynamics f hf).1
  refine ⟨ws, wd, hws, hwd, fun r hfields hdynamics hcopies => ?_⟩
  obtain ⟨-, hquietS, hmirrorS⟩ := hreadS r.fields hfields
  obtain ⟨hnamesD, hquietD, hmirrorD⟩ := hreadD r.dynamicFields hdynamics
  -- no template of the cache is a stock one, so that none is left out
  have hmanaged : r.managed = r.dynamicFields :=
    filter_isManaged_eq_self (fun f hf => (hsound.dynamics f hf).2)
      hnamesD
  rw [← hmanaged] at hmirrorD hquietD
  have hfeeds : Feeds r.statics c.fullText.completed c.content.copies :=
    feeds_of_mirrors hnamed hsound hmulti hmirrorS
  obtain ⟨hquietC, hfound, honly⟩ :=
    hfeeds.readCopies_written r.dynamics hcopies
  refine ⟨fun raw hraw => ?_, ?_, ?_⟩
  · obtain ⟨f, -, hname⟩ := hnamesD raw hraw
    rw [hname]
    exact Json.checkKey_eq_ok.1 rfl
  · unfold Representation.complaints
    rw [hquietS, hquietD, hquietC]
    rfl
  · -- the copy fields all feed the full-text field, which holds several
    -- values, so that no fan-in is to be reported
    have hfan : fanIns r.copies = [] := by
      apply List.eq_nil_iff_forall_not_mem.2
      intro f hf
      obtain ⟨-, -, copy, hcopy, -, hsingle⟩ := mem_fanIns.1 hf
      rw [(honly copy hcopy).1, hfeeds.multivalued] at hsingle
      cases hsingle
    have hS : reconcileFields .static c.content.statics r.statics = [] :=
      hmirrorS.reconcileFields_eq_nil hsound.statics
    have hD : reconcileFields .dynamic c.content.dynamics r.dynamics
        = [] :=
      hmirrorD.reconcileFields_eq_nil
        fun f hf => (hsound.dynamics f hf).1
    have hC : reconcileCopies c.content.copies r.copies = [] :=
      reconcileCopies_eq_nil hfound fun l hl => (honly l hl).2
    show (fanIns r.copies).map _
      ++ (reconcileFields .static c.content.statics r.statics
        ++ reconcileFields .dynamic c.content.dynamics r.dynamics
        ++ reconcileCopies c.content.copies r.copies) = []
    rw [hfan, hS, hD, hC]
    rfl

/-- The expected schema conforms to itself. Take any history of a cache
whose full-text field holds several values, with registered templates
that are no stock ones, after which the cache is loaded: its fields and
copy fields can be written, and a live schema that holds just what was
written, in any order, is validated without a finding. -/
theorem validate_written {fullText : Field} {maxChars : Json}
    {steps : List Cache.Step} {cache : Cache} {catalog : Catalog}
    {c : Checker} (hcache : cache = (Cache.new fullText maxChars).run steps)
    (hmade : fullText.Made) (hkind : fullText.kind = .static)
    (htype : fullText.type ∈ FieldType.catalog)
    (hmulti : fullText.effective .multiValued = some "true")
    (hregistered : ∀ f, Cache.Step.register f ∈ steps →
      f.Made ∧ f.kind = .dynamic ∧ f.type ∈ FieldType.catalog
        ∧ f.name ∉ stockTemplates)
    (hexpected : c.expected = some (catalog, cache))
    (hloaded : cache.isLoaded = true) :
    ∃ ws wd, cache.content.statics.values.mapM Field.toWire = .ok ws
      ∧ cache.content.dynamics.values.mapM Field.toWire = .ok wd
      ∧ ∀ r : Representation, r.fields.Perm ws →
        r.dynamicFields.Perm wd →
        r.copyFields.Perm (cache.content.copies.map CopyField.toWire) →
        ∃ report, (c.validate r).value.2 = .ok report
          ∧ report.state = .validated ∧ report.findings = [] := by
  have hnamed : cache.IsNamed :=
    hcache ▸ Cache.isNamed_run fullText maxChars steps
  -- registered templates are the only members that no catalog has vouched for
  have hsound : cache.IsSound := by
    rw [hcache]
    refine Cache.isSound_run ⟨hkind, hmade.wellFormed, htype⟩
      fun f hf => ?_
    obtain ⟨hm, hk, ht, hstock⟩ := hregistered f hf
    exact ⟨⟨hk, hm.wellFormed, ht⟩, hstock⟩
  have hfull : cache.fullText.isMultivalued = true := by
    rw [hcache, Cache.fullText_run]
    unfold Field.isMultivalued
    rw [hmulti]
    rfl
  obtain ⟨ws, wd, hws, hwd, hread⟩ :=
    findings_written_eq_nil hnamed hsound hfull
  refine ⟨ws, wd, hws, hwd, fun r hfields hdynamics hcopies => ?_⟩
  obtain ⟨hkeys, hcomplaints, hfindings⟩ :=
    hread r hfields hdynamics hcopies
  refine ⟨_, Checker.validate_eq_ok.2 (Or.inr ⟨_,
    Checker.expectation_of_isLoaded hexpected hloaded, hkeys, rfl⟩), rfl,
    ?_⟩
  show r.complaints ++ _ = []
  rw [hcomplaints, hfindings]
  rfl

/-- The sample cache has such a history, so what it expects is validated
without a finding, in any order. -/
theorem validate_written_sample :
    ∃ ws wd, Cache.sample.content.statics.values.mapM Field.toWire
        = .ok ws
      ∧ Cache.sample.content.dynamics.values.mapM Field.toWire = .ok wd
      ∧ ∀ r : Representation, r.fields.Perm ws →
        r.dynamicFields.Perm wd →
        r.copyFields.Perm
          (Cache.sample.content.copies.map CopyField.toWire) →
        ∃ report, (Checker.sample.validate r).value.2 = .ok report
          ∧ report.state = .validated ∧ report.findings = [] := by
  refine validate_written rfl Cache.made_usualFullText rfl
    (by simp [Cache.usualFullText, FieldType.catalog]) rfl
    (fun f hf => ?_) rfl Cache.isLoaded_sample
  have hf : f = Cache.notes := by simpa using hf
  subst hf
  exact ⟨Cache.made_notes, rfl, by simp [Cache.notes, FieldType.catalog],
    by decide⟩

end SchemaAudit
