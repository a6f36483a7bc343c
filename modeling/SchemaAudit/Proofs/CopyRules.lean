/-
The rules of copy fields, as they hold of every schema that is read. No
two copy fields have one pair of names; each has a limit, feeds a
template from a template only, and several values into several only; and
its ends are the fields that their names mean, so that equal names are
equal fields (`keepsCopyRules_live`).

That is why one look at a destination is enough: it is warned of once if
two or more copy fields feed it and it holds one value, and not at all
otherwise (`parse_keepsCopyRules`).

# The ends

An end is a field of the schema, or what a template gives for a name
(`Schema.IsEnd`). Either way it is what its own name means: an exact
name means the field that has it, and a field that a template gives
keeps the name that was asked for. So two ends of one name are one
field, although they were resolved one at a time and perhaps in
different roles.

# The warnings

Destinations are counted by name in the list of those reported, where
each stands once (`areOverfed_fanIns`). The findings of a report that
tell of a rule of copy fields are those on these destinations and no
others (`filter_copyFieldRule_reportOn`): reading and comparing make
findings of other kinds. The wording of a warning tells its destination,
hence one warning for each.
-/
import SchemaAudit.Proofs.Comparison
import SchemaAudit.Proofs.FanIn

namespace SchemaAudit

-- ================================================================ rules

/-- The ends of a copy field. -/
def CopyField.ends (c : CopyField) : List Field := [c.source, c.dest]

theorem CopyField.dest_mem_ends (c : CopyField) : c.dest ∈ c.ends :=
  List.mem_cons_of_mem _ (List.mem_cons_self ..)

namespace Schema

/-- What the end of a copy field can be in a schema: the field of its
name, or a static field of a name that no field has, made from a template
that catches the name. -/
inductive IsEnd (s : Schema) (f : Field) : Prop where
  | static (h : s.statics.get? f.name = some f)
  | dynamic (h : s.dynamics.get? f.name = some f)
  | caught {template : Field} (hkind : f.kind = .static)
      (hname : EntryKind.static.admits f.name = true)
      (hs : f.name ∉ s.statics.keys) (hd : f.name ∉ s.dynamics.keys)
      (ht : template ∈ s.dynamics.values)
      (hcatches : template.catches f.name = true)
      (htype : f.type = template.type)
      (hsettings : f.settings = template.settings)

/-- The rules that the copy fields of a schema keep, whoever wrote the
schema: no two have one pair of names, limits are positive, a dynamic
destination has a dynamic source, and one of a single value no source of
several. The ends are fields of the schema or given by its templates, and
one name is of one field throughout. -/
structure KeepsCopyRules (s : Schema) : Prop where
  nodup : s.copyKeys.Nodup
  limit : ∀ c ∈ s.copies, 1 ≤ c.maxChars
  wildcard : ∀ c ∈ s.copies,
    c.dest.isWildcard = true → c.source.isWildcard = true
  multivalued : ∀ c ∈ s.copies,
    c.source.isMultivalued = true → c.dest.isMultivalued = true
  ends : ∀ c ∈ s.copies, ∀ f ∈ c.ends, s.IsEnd f
  same : ∀ c ∈ s.copies, ∀ d ∈ s.copies, ∀ f ∈ c.ends, ∀ g ∈ d.ends,
    f.name = g.name → f = g

/-- A destination that holds one value and is fed by several copy fields.
It is no breach of a rule, and the engine may take it; a report warns of
it. -/
def Overfeeds (s : Schema) (dest : String) : Prop :=
  2 ≤ fanInCount s.copies dest
    ∧ ∀ c ∈ s.copies, c.dest.name = dest → c.dest.isMultivalued = false

end Schema

namespace Representation

variable {r : Representation}

/-- The ends of a copy field that is read are what their names mean, now
that they have the names of fields. -/
theorem fieldNamed?_of_mem_ends {c : CopyField} (hc : c ∈ r.copies)
    {f : Field} (hf : f ∈ c.ends) :
    fieldNamed? r.statics r.dynamics f.name = some f := by
  have hmeans : ∀ role value, resolveReference role value r.statics
      r.dynamics = .ok f →
      fieldNamed? r.statics r.dynamics f.name = some f := by
    intro role value h
    obtain ⟨name, -, hname⟩ := resolveReference_eq_ok.1 h
    rw [name_of_fieldNamed? (named_readFieldsOnto .static r.fields)
      (named_readFieldsOnto .dynamic r.managed) hname]
    exact hname
  obtain ⟨⟨_, hs⟩, ⟨_, hd⟩, -⟩ := exists_ends_of_mem_copies hc
  rcases List.mem_cons.1 hf with rfl | hf
  · exact hmeans _ _ hs
  · obtain rfl := List.mem_singleton.1 hf
    exact hmeans _ _ hd

/-- What a name means is what the end of a copy field can be: the static
field of the name, else the dynamic one, else what a template gives. -/
theorem isEnd_of_fieldNamed? {f : Field}
    (h : fieldNamed? r.statics r.dynamics f.name = some f) :
    r.live.IsEnd f := by
  rcases Option.or_eq_some_iff.1 h with h | ⟨hnone, h⟩
  · rcases Option.or_eq_some_iff.1 h with h | ⟨-, h⟩
    · exact .static h
    · exact .dynamic h
  obtain ⟨hs, hd⟩ := Option.or_eq_none_iff.1 hnone
  unfold caught? at h
  split at h
  case isFalse => cases h
  case isTrue hname =>
      obtain ⟨template, ht, hinstance⟩ := Option.map_eq_some_iff.1 h
      obtain ⟨hmem, hcatches⟩ :=
        List.mem_filter.1 (Field.longest?_eq_some ht).1
      have hkind : f.kind = .static := hinstance ▸ rfl
      have htype : f.type = template.type := hinstance ▸ rfl
      have hsettings : f.settings = template.settings := hinstance ▸ rfl
      exact .caught hkind hname ((Table.get?_eq_none _).1 hs)
        ((Table.get?_eq_none _).1 hd) hmem hcatches htype hsettings

/-- The copy fields of a schema that is read keep the rules. Building has
refused those that break one, and adding has passed over those whose key
is taken. -/
theorem keepsCopyRules_live (r : Representation) :
    r.live.KeepsCopyRules where
  nodup := nodup_keys_readCopiesOnto ..
  limit c hc := by
    obtain ⟨-, -, limit, hbuilt⟩ := exists_ends_of_mem_copies hc
    obtain ⟨-, -, n, hn, heq⟩ := CopyField.ofFields_eq_ok.1 hbuilt
    rw [heq]
    exact (CopyField.limit_eq_ok.1 hn).1
  wildcard c hc hdest := by
    obtain ⟨-, -, limit, hbuilt⟩ := exists_ends_of_mem_copies hc
    obtain ⟨hrule, -⟩ := CopyField.ofFields_eq_ok.1 hbuilt
    exact eq_true_of_ne_false fun hs => hrule ⟨hdest, hs⟩
  multivalued c hc hsource := by
    obtain ⟨-, -, limit, hbuilt⟩ := exists_ends_of_mem_copies hc
    obtain ⟨-, hrule, -⟩ := CopyField.ofFields_eq_ok.1 hbuilt
    exact eq_true_of_ne_false fun hd => hrule ⟨hsource, hd⟩
  ends c hc f hf := isEnd_of_fieldNamed? (fieldNamed?_of_mem_ends hc hf)
  same c hc d hd f hf g hg hname := by
    have hmeans := fieldNamed?_of_mem_ends hc hf
    rw [hname, fieldNamed?_of_mem_ends hd hg] at hmeans
    exact (Option.some.inj hmeans).symm

end Representation

-- ============================================================= warnings

/-- Whether a finding warns of the copy fields that feed a destination. -/
def Finding.warnsOf (f : Finding) (dest : String) : Bool :=
  f.kind == .copyFieldRule && f.severity == .warning
    && (fanInOpening dest).isPrefixOf f.message.toList

/-- Which destinations the findings on a schema warn of: each that is
overfed, once, and no other. A warning tells how many copy fields feed its
destination. -/
structure Schema.WarnedOf (s : Schema) (findings : List Finding) :
    Prop where
  once : ∀ dest, s.Overfeeds dest →
    (findings.countP fun f => f.warnsOf dest) = 1
  never : ∀ dest, ¬ s.Overfeeds dest →
    (findings.countP fun f => f.warnsOf dest) = 0
  warning : ∀ f ∈ findings, f.kind = .copyFieldRule →
    ∃ dest, s.Overfeeds dest
      ∧ f = Checker.fanInFinding ⟨dest, fanInCount s.copies dest⟩

/-- A finding that warns of a destination tells of a rule of copy fields.
-/
theorem kind_of_warnsOf {f : Finding} {dest : String}
    (h : f.warnsOf dest = true) : f.kind = .copyFieldRule := by
  unfold Finding.warnsOf at h
  rw [Bool.and_eq_true, Bool.and_eq_true, beq_iff_eq] at h
  exact h.1.1

/-- The finding for a destination warns of it and of no other, since its
wording can be read back. -/
theorem warnsOf_fanInFinding {f : FanIn} {dest : String} :
    (Checker.fanInFinding f).warnsOf dest = true ↔ f.dest = dest := by
  obtain ⟨rest, hmessage⟩ := toList_message f
  unfold Finding.warnsOf Checker.fanInFinding
  simp only [beq_self_eq_true, Bool.true_and,
    List.isPrefixOf_iff_prefix, hmessage]
  constructor
  · intro h
    obtain ⟨rest', h⟩ := h
    exact (eq_of_fanInOpening_append h).symm
  · intro h
    subst h
    exact List.prefix_append ..

/-- Where equal names are equal fields, the destinations reported are
those that are overfed: any copy field that feeds one tells that it holds
one value. -/
theorem Schema.KeepsCopyRules.mem_dest_fanIns {s : Schema}
    (h : s.KeepsCopyRules) {dest : String} :
    dest ∈ (fanIns s.copies).map FanIn.dest ↔ s.Overfeeds dest := by
  rw [(areOverfed_fanIns s.copies).mem_iff, ← fanInCount_eq_count]
  constructor
  · intro hover
    obtain ⟨htwo, c, hc, hdest, hsingle⟩ := hover
    refine ⟨htwo, fun d hd hname => ?_⟩
    have hsame : d.dest = c.dest :=
      h.same d hd c hc _ d.dest_mem_ends _ c.dest_mem_ends
        (hname.trans hdest.symm)
    rw [hsame, hsingle]
  · intro hover
    obtain ⟨htwo, hsingle⟩ := hover
    obtain ⟨c, hc, hname⟩ :=
      List.countP_pos_iff.1 (Nat.lt_of_lt_of_le Nat.zero_lt_two htwo)
    rw [beq_iff_eq] at hname
    exact ⟨htwo, c, hc, hname, hsingle c hc hname⟩

namespace Checker

variable {c : Checker} {r : Representation} {expected : Option Schema}

/-- The findings of a report that tell of a rule of copy fields are those
on the destinations that it reports, with an expected schema or without
one. -/
theorem filter_copyFieldRule_reportOn :
    ((c.reportOn expected r).findings.filter
        fun f => f.kind == .copyFieldRule)
      = (fanIns r.live.copies).map fanInFinding := by
  -- the kinds that reading and comparing find are other ones
  have hreading : ∀ kind ∈ FindingKind.ofReading,
      kind ≠ .copyFieldRule := by decide
  have hcomparison : ∀ kind ∈ FindingKind.ofComparison,
      kind ≠ .copyFieldRule := by decide
  show (r.complaints ++ ((fanIns r.live.copies).map fanInFinding
    ++ (expected.map fun e => reconcile e r.live).getD [])).filter _ = _
  rw [List.filter_append, List.filter_append]
  have hcomplaints : (r.complaints.filter
      fun f => f.kind == .copyFieldRule) = [] := by
    refine List.filter_eq_nil_iff.2 fun f hf hkind => ?_
    exact hreading _ (Representation.kind_mem_ofReading hf)
      (beq_iff_eq.1 hkind)
  have hcompared : (((expected.map fun e =>
      reconcile e r.live).getD []).filter
        fun f => f.kind == .copyFieldRule) = [] := by
    refine List.filter_eq_nil_iff.2 fun f hf hkind => ?_
    cases expected with
    | none => cases hf
    | some e =>
        exact hcomparison _ (kind_mem_ofComparison hf)
          (beq_iff_eq.1 hkind)
  have hfanIns : (((fanIns r.live.copies).map fanInFinding).filter
      fun f => f.kind == .copyFieldRule)
        = (fanIns r.live.copies).map fanInFinding := by
    refine List.filter_eq_self.2 fun f hf => ?_
    obtain ⟨fanIn, -, rfl⟩ := List.mem_map.1 hf
    rfl
  rw [hcomplaints, hfanIns, hcompared, List.nil_append, List.append_nil]

/-- How often a report warns of a destination is how often it is among
those reported: once, or never. -/
theorem countP_warnsOf_reportOn (dest : String) :
    ((c.reportOn expected r).findings.countP fun f => f.warnsOf dest)
      = ((fanIns r.live.copies).map FanIn.dest).count dest := by
  have hfilter : ((c.reportOn expected r).findings.countP
        fun f => f.warnsOf dest)
      = ((c.reportOn expected r).findings.filter
          fun f => f.kind == .copyFieldRule).countP
        fun f => f.warnsOf dest := by
    rw [List.countP_filter]
    refine List.countP_congr fun f _ => ?_
    rw [Bool.and_eq_true, beq_iff_eq]
    exact (and_iff_left_of_imp kind_of_warnsOf).symm
  rw [hfilter, filter_copyFieldRule_reportOn, List.countP_map,
    List.count_eq_countP, List.countP_map]
  refine List.countP_congr fun f _ => ?_
  rw [Function.comp_apply, Function.comp_apply, warnsOf_fanInFinding,
    beq_iff_eq]

/-- A report on a schema that was read warns of the destinations that are
overfed, of each once and of no other. -/
theorem warnedOf_reportOn :
    r.live.WarnedOf (c.reportOn expected r).findings where
  once dest h := by
    rw [countP_warnsOf_reportOn]
    exact List.count_eq_one_of_mem (areOverfed_fanIns _).nodup
      (r.keepsCopyRules_live.mem_dest_fanIns.2 h)
  never dest h := by
    rw [countP_warnsOf_reportOn]
    exact List.count_eq_zero_of_not_mem fun hmem =>
      h (r.keepsCopyRules_live.mem_dest_fanIns.1 hmem)
  warning f hf hkind := by
    have hmem : f ∈ (c.reportOn expected r).findings.filter
        fun g => g.kind == .copyFieldRule :=
      List.mem_filter.2 ⟨hf, beq_iff_eq.2 hkind⟩
    rw [filter_copyFieldRule_reportOn] at hmem
    obtain ⟨fanIn, hfanIn, rfl⟩ := List.mem_map.1 hmem
    refine ⟨fanIn.dest, r.keepsCopyRules_live.mem_dest_fanIns.1
      (List.mem_map_of_mem hfanIn), ?_⟩
    rw [← (mem_fanIns.1 hfanIn).1]

/-- The copy fields of every schema that is read keep the rules. Any
validation of it that comes to its end warns of the destinations that are
overfed, of each once and of no other, and any that does not finds
nothing; it does come to its end if there is something to compare with, or
no need to compare. -/
theorem parse_keepsCopyRules {live : Schema} {read : Report}
    (h : (c.parse r).value = .ok (live, read)) :
    live.KeepsCopyRules
      ∧ ∀ d : Checker,
        (∀ report, (d.validate r).value.2 = .ok report →
          (report.state = .validated ∧ live.WarnedOf report.findings)
            ∨ (report.state = .failed ∧ report.findings = []))
        ∧ ((∃ expected, d.expectation = .ok expected) →
          ∃ report, (d.validate r).value.2 = .ok report
            ∧ report.state = .validated) := by
  obtain ⟨hkeys, hresult⟩ := parse_eq_ok.1 h
  obtain ⟨rfl, rfl⟩ := Prod.mk.inj hresult
  refine ⟨r.keepsCopyRules_live, fun d => ⟨fun report hreport => ?_,
    fun hexpected => ?_⟩⟩
  · rcases validate_eq_ok.1 hreport with
      ⟨fault, -, -, rfl⟩ | ⟨expected, -, -, rfl⟩
    · exact Or.inr ⟨rfl, rfl⟩
    · exact Or.inl ⟨rfl, warnedOf_reportOn⟩
  · obtain ⟨expected, hexpected⟩ := hexpected
    exact ⟨_, (validate_eq_ok_of_expectation hexpected).2 ⟨hkeys, rfl⟩,
      rfl⟩

end Checker

/-- A live schema in which two fields are copied into a third one, which
holds one value. -/
def Representation.converging : Representation where
  version := none
  name := .null
  uniqueKey := .null
  fields :=
    [[("name", .str "title"), ("type", .str "text_en")],
     [("name", .str "summary"), ("type", .str "text_en")]]
  dynamicFields := [[("name", .str "*_note"), ("type", .str "text_en")]]
  copyFields :=
    [[("source", .str "title"), ("dest", .str "summary")],
     [("source", .str "side_note"), ("dest", .str "summary")]]
  fieldTypes := []

/-- Two fields are copied into a third one that holds one value: the copy
fields keep the rules, the destination is overfed, and the report warns of
it once. -/
theorem Checker.parse_keepsCopyRules_converging :
    ∃ live read report,
      (sample.parse .converging).value = .ok (live, read)
        ∧ (sample.validate .converging).value.2 = .ok report
        ∧ live.KeepsCopyRules ∧ live.Overfeeds "summary"
        ∧ live.WarnedOf report.findings := by
  have hkeys : Representation.converging.HasKeys := by
    intro raw hraw
    rw [List.mem_singleton.1 hraw]
    exact Json.checkKey_eq_ok.1 rfl
  have hparse := parse_of_hasKeys (c := sample) hkeys
  obtain ⟨hkeeps, hvalidate⟩ := parse_keepsCopyRules hparse
  obtain ⟨hwarned, hends⟩ := hvalidate sample
  obtain ⟨report, hreport, hstate⟩ :=
    hends ⟨_, expectation_of_isLoaded rfl Cache.isLoaded_sample⟩
  have hover : Representation.converging.live.Overfeeds "summary" :=
    ⟨by decide, by decide⟩
  rcases hwarned report hreport with ⟨-, h⟩ | ⟨hfailed, -⟩
  · exact ⟨_, _, report, hparse, hreport, hkeeps, hover, h⟩
  · rw [hstate] at hfailed
    cases hfailed

end SchemaAudit
