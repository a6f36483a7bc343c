/-
Nothing is lost in reading. A field entry becomes a field or leaves one
finding (`FieldFate`); a copy field entry becomes a copy field, leaves
its findings, or repeats an earlier one (`CopyFate`). Which of these it
is depends on the entry and on the entries before it, and is never more
than one (`FieldFate.unique`, `CopyFate.unique`).

# How a section is accounted for

`Accounted` says of a row of entries that what was read and what was
found are put together of what each entry adds, in the order of the
entries. It is stated for any kind of fate, so that counting
(`length_eq`), membership (`exists_fate`) and uniqueness
(`existsUnique_fate`) are proved once for fields and copy fields.

That reading gives something accounted for is by induction from the end
of the section (`accounted_readFields`, `accounted_readCopies`): reading
one entry more adds one fate, since what has been read so far are
exactly the names, or keys, of the entries before it. For fields the
additions are one each, so that fields and findings together are as many
as the entries. Copy fields do not count up like that: a repeated entry
adds nothing, and an entry with two unresolved ends adds two findings.

# A schema

`parse_accounts` says so of a whole schema. The findings stand in the
order of the sections, and inside each in that of the entries.
-/
import SchemaAudit.Proofs.Checker

namespace SchemaAudit

open Outcome

-- ============================================================ accounting

/-- What is read of entries, and what is found on them, put together of
what each adds to either; `fate` says what an entry behind others adds. -/
inductive Accounted {α : Type}
    (fate : List RawEntry → RawEntry → Option α → List Finding → Prop) :
    List RawEntry → List α → List Finding → Prop where
  | nil : Accounted fate [] [] []
  | snoc {entries : List RawEntry} {read : List α} {found : List Finding}
      {raw : RawEntry} {new : Option α} {here : List Finding}
      (before : Accounted fate entries read found)
      (last : fate entries raw new here) :
      Accounted fate (entries ++ [raw]) (read ++ new.toList)
        (found ++ here)

namespace Accounted

variable {α : Type} {entries : List RawEntry} {read : List α}
  {found : List Finding}
  {fate : List RawEntry → RawEntry → Option α → List Finding → Prop}

theorem add (h : Accounted fate entries read found) {raw : RawEntry}
    {x : α} (last : fate entries raw (some x) []) :
    Accounted fate (entries ++ [raw]) (read ++ [x]) found := by
  have hnext := h.snoc last
  rw [List.append_nil] at hnext
  exact hnext

/-- An entry that adds nothing to what is read, whatever it leaves behind.
-/
theorem pass (h : Accounted fate entries read found) {raw : RawEntry}
    {here : List Finding} (last : fate entries raw none here) :
    Accounted fate (entries ++ [raw]) read (found ++ here) := by
  have hnext := h.snoc last
  rw [Option.toList_none, List.append_nil] at hnext
  exact hnext

/-- If every entry adds one thing, none is lost: what is read and what is
found are together as many as the entries. -/
theorem length_eq (h : Accounted fate entries read found)
    (hone : ∀ before raw new here, fate before raw new here →
      new.toList.length + here.length = 1) :
    entries.length = read.length + found.length := by
  induction h with
  | nil => rfl
  | snoc _ last ih =>
      have hlast := hone _ _ _ _ last
      rw [List.length_append, List.length_append, List.length_append,
        List.length_singleton, ih]
      omega

/-- What is found is what some entry left, so what holds of every fate
holds of every finding. -/
theorem exists_of_mem_found (h : Accounted fate entries read found)
    {f : Finding} (hf : f ∈ found) :
    ∃ before raw new here, fate before raw new here ∧ f ∈ here := by
  induction h with
  | nil => cases hf
  | snoc _ last ih =>
      rcases List.mem_append.1 hf with hf | hf
      · exact ih hf
      · exact ⟨_, _, _, _, last, hf⟩

/-- What an entry adds is there in the end. The entry is given by where it
stands, since two entries may be equal and have different fates. -/
theorem exists_fate (h : Accounted fate entries read found)
    {before after : List RawEntry} {raw : RawEntry}
    (he : entries = before ++ raw :: after) :
    ∃ new here, fate before raw new here ∧ (∀ x ∈ new, x ∈ read)
      ∧ ∀ f ∈ here, f ∈ found := by
  induction h generalizing after with
  | nil => exact absurd he (List.append_ne_nil_of_right_ne_nil _
      (List.cons_ne_nil _ _)).symm
  | @snoc entries read found last new here _ hlast ih =>
      rcases List.eq_nil_or_concat after with rfl | ⟨rest, x, rfl⟩
      · -- the entry is the last one
        obtain ⟨rfl, hraw⟩ := List.append_inj' he rfl
        injection hraw with hraw _
        subst hraw
        refine ⟨new, here, hlast, fun y hy => ?_, fun f hf => ?_⟩
        · exact List.mem_append_right _ (Option.mem_toList.2 hy)
        · exact List.mem_append_right _ hf
      · have hsplit : entries ++ [last] = (before ++ raw :: rest) ++ [x] := by
          rw [he, List.concat_eq_append, List.append_assoc,
            List.cons_append]
        obtain ⟨hbefore, -⟩ := List.append_inj' hsplit rfl
        obtain ⟨new, here, hfate, hread, hfound⟩ := ih hbefore
        exact ⟨new, here, hfate,
          fun y hy => List.mem_append_left _ (hread y hy),
          fun f hf => List.mem_append_left _ (hfound f hf)⟩

/-- If no entry has two fates, every entry has exactly one, wherever in
the section it stands. -/
theorem existsUnique_fate (h : Accounted fate entries read found)
    (hunique : ∀ {before raw new here new' here'},
      fate before raw new here → fate before raw new' here' →
        new = new' ∧ here = here')
    {before after : List RawEntry} {raw : RawEntry}
    (he : entries = before ++ raw :: after) :
    ∃! one : Option α × List Finding, fate before raw one.1 one.2 := by
  obtain ⟨new, here, hfate, -, -⟩ := h.exists_fate he
  refine ⟨(new, here), hfate, fun other hother => ?_⟩
  obtain ⟨hnew, hhere⟩ := hunique hother hfate
  exact Prod.ext hnew hhere

end Accounted

-- ============================================================== fields

/-- An entry that converts, to a field whose name an earlier converted
entry has. -/
def Repeats (kind : FieldKind) (before : List RawEntry) (raw : RawEntry) :
    Prop :=
  ∃ f, Field.ofWire kind raw = .ok f
    ∧ f.name ∈ (converted kind before).map Field.name

/-- What becomes of a field entry behind others: the field it adds, and
the findings. -/
inductive FieldFate (kind : FieldKind) (before : List RawEntry)
    (raw : RawEntry) : Option Field → List Finding → Prop where
  | read {f : Field} (h : Field.ofWire kind raw = .ok f)
      (hnew : f.name ∉ (converted kind before).map Field.name) :
      FieldFate kind before raw (some f) []
  | refused {fault : Fault} (h : Field.ofWire kind raw = .error fault) :
      FieldFate kind before raw none
        [refusedField kind (rawValue .name raw).shown fault]
  | repeated (h : Repeats kind before raw) :
      FieldFate kind before raw none
        [repeatedField kind (rawValue .name raw).shown]

/-- What the finding on a field entry tells: that its type is unknown, a
property is, or it is no field; as a warning if all that is wrong is that
its name is taken. -/
structure FieldFinding (kind : FieldKind) (before : List RawEntry)
    (raw : RawEntry) (finding : Finding) : Prop where
  about : finding.kind = .unknownFieldType
    ∨ finding.kind = .unknownProperty ∨ finding.kind = .invalidField
  severity : finding.severity = .warning ↔ Repeats kind before raw
  subject : finding.subject = some (rawValue .name raw).shown

theorem Fault.findingKind_cases (fault : Fault) :
    fault.findingKind = .unknownFieldType
      ∨ fault.findingKind = .unknownProperty
      ∨ fault.findingKind = .invalidField := by
  cases fault <;> simp [findingKind]

namespace FieldFate

variable {kind : FieldKind} {before : List RawEntry} {raw : RawEntry}

/-- An entry has one fate. -/
theorem unique {new new' : Option Field} {here here' : List Finding}
    (h : FieldFate kind before raw new here)
    (h' : FieldFate kind before raw new' here') :
    new = new' ∧ here = here' := by
  cases h with
  | read hf hnew =>
      cases h' with
      | read hg _ =>
          injection hf.symm.trans hg with hfg
          exact ⟨congrArg some hfg, rfl⟩
      | refused hg => cases hf.symm.trans hg
      | repeated hr =>
          obtain ⟨g, hg, hold⟩ := hr
          injection hf.symm.trans hg with hfg
          exact absurd (hfg ▸ hold) hnew
  | refused hf =>
      cases h' with
      | read hg _ => cases hf.symm.trans hg
      | refused hg =>
          injection hf.symm.trans hg with hfg
          exact ⟨rfl, by rw [hfg]⟩
      | repeated hr =>
          obtain ⟨g, hg, -⟩ := hr
          cases hf.symm.trans hg
  | repeated hr =>
      obtain ⟨f, hf, hold⟩ := hr
      cases h' with
      | read hg hnew =>
          injection hf.symm.trans hg with hfg
          exact absurd (hfg ▸ hold) hnew
      | refused hg => cases hf.symm.trans hg
      | repeated _ => exact ⟨rfl, rfl⟩

/-- An entry adds one field or one finding, never both and never neither.
-/
theorem length_eq_one {new : Option Field} {here : List Finding}
    (h : FieldFate kind before raw new here) :
    new.toList.length + here.length = 1 := by
  cases h <;> rfl

/-- What an entry adds if it adds no field: one finding that tells why, a
warning exactly if the entry repeats an earlier one. -/
theorem finding {here : List Finding}
    (h : FieldFate kind before raw none here) :
    ∃ finding, here = [finding] ∧ FieldFinding kind before raw finding := by
  cases h with
  | @refused fault hf =>
      refine ⟨_, rfl, fault.findingKind_cases, ?_, rfl⟩
      refine iff_of_false Severity.noConfusion fun hr => ?_
      obtain ⟨g, hg, -⟩ := hr
      cases hf.symm.trans hg
  | repeated hr =>
      exact ⟨_, rfl, Or.inr (Or.inr rfl), iff_of_true rfl hr, rfl⟩

end FieldFate

/-- Reading one entry more, behind those that were read: the step of the
induction from the end of a section. -/
theorem readFieldsOnto_concat (kind : FieldKind)
    (parsed : Table String Field) (entries : List RawEntry)
    (raw : RawEntry) :
    readFieldsOnto kind parsed (entries ++ [raw])
      = match fieldOutcome kind (readFieldsOnto kind parsed entries).1 raw
          with
        | .ok f =>
            ((readFieldsOnto kind parsed entries).1.insertNew f.name f,
              (readFieldsOnto kind parsed entries).2)
        | .error finding =>
            ((readFieldsOnto kind parsed entries).1,
              (readFieldsOnto kind parsed entries).2 ++ [finding]) := by
  rw [readFieldsOnto_append]
  cases ho : fieldOutcome kind (readFieldsOnto kind parsed entries).1
      raw with
  | ok f =>
      rw [readFieldsOnto_cons_of_ok ho]
      exact Prod.ext rfl (List.append_nil _)
  | error finding =>
      rw [readFieldsOnto_cons_of_error ho]
      rfl

/-- What is read of a section and what is found on it is put together of
the fates of its entries. The names read so far are those of the entries
that converted, which is what the fate of the next one asks for. -/
theorem accounted_readFields (kind : FieldKind) (entries : List RawEntry) :
    Accounted (FieldFate kind) entries
      (readFieldsOnto kind Table.empty entries).1.values
      (readFieldsOnto kind Table.empty entries).2 := by
  induction entries using List.reverseRecOn with
  | nil => exact .nil
  | append_singleton entries raw ih =>
      rw [readFieldsOnto_concat]
      rcases fieldOutcome_cases kind
        (readFieldsOnto kind Table.empty entries).1 raw with
        ⟨fault, hf, ho⟩ | ⟨f, hf, hold, ho⟩ | ⟨f, hf, hnew, ho⟩
      · rw [ho]
        exact ih.pass (.refused hf)
      · rw [ho]
        exact ih.pass (.repeated ⟨f, hf, mem_keys_readFieldsOnto.1 hold⟩)
      · have hnext := ih.add
          (.read hf fun h => hnew (mem_keys_readFieldsOnto.2 h))
        rw [ho]
        unfold Table.values at hnext ⊢
        rw [Table.entries_insertNew f hnew, List.map_append]
        exact hnext

/-- A section of field entries, read without losing one. The same is said
in four ways, since each of them is what someone asks: of the section as a
whole, of a given entry, of whether it has one fate, and of the numbers. -/
structure FieldsAccounted (kind : FieldKind) (entries : List RawEntry)
    (fields : Table String Field) (findings : List Finding) : Prop where
  /-- Fields and findings are put together of the entries' fates. -/
  fates : Accounted (FieldFate kind) entries fields.values findings
  /-- An entry is the field of its name, or leaves a finding that tells
  why not. -/
  each : ∀ before raw after, entries = before ++ raw :: after →
    (∃ f, FieldFate kind before raw (some f) []
        ∧ fields.get? f.name = some f)
      ∨ ∃ finding ∈ findings, FieldFate kind before raw none [finding]
        ∧ FieldFinding kind before raw finding
  /-- It has no second fate. -/
  unique : ∀ before raw after, entries = before ++ raw :: after →
    ∃! one : Option Field × List Finding,
      FieldFate kind before raw one.1 one.2
  /-- Fields and findings are as many as the entries. -/
  total : entries.length = fields.size + findings.length

/-- A section of fields is read without losing an entry: it is accounted
for, each entry is found again, in one way only, and the counts agree. -/
theorem fieldsAccounted_readFields (kind : FieldKind)
    (entries : List RawEntry) :
    FieldsAccounted kind entries
      (readFieldsOnto kind Table.empty entries).1
      (readFieldsOnto kind Table.empty entries).2 where
  fates := accounted_readFields kind entries
  each before raw after he := by
    obtain ⟨new, here, hfate, hread, hfound⟩ :=
      (accounted_readFields kind entries).exists_fate he
    cases new with
    | some f =>
        left
        obtain ⟨name, hname⟩ := (Table.mem_values _).1 (hread f rfl)
        -- the field stands under its own name
        have hf := named_readFieldsOnto kind entries name f hname
        cases hfate with
        | read hw hnew => exact ⟨f, .read hw hnew, hf ▸ hname⟩
    | none =>
        right
        obtain ⟨finding, rfl, htells⟩ := hfate.finding
        exact ⟨finding, hfound finding (List.mem_singleton_self _), hfate,
          htells⟩
  unique _ _ _ :=
    (accounted_readFields kind entries).existsUnique_fate FieldFate.unique
  total := by
    -- each entry has one field or one finding
    have hlength := (accounted_readFields kind entries).length_eq
      fun before raw new here h => h.length_eq_one
    rw [hlength]
    unfold Table.values Table.size
    rw [List.length_map]

-- ========================================================= copy fields

/-- What an entry has to keep to so that a copy field can be built of its
ends: the rules on the destination, and a limit of at least one. -/
structure Joins (source dest : Field) (raw : RawEntry) : Prop where
  wildcard : ¬ (dest.isWildcard = true ∧ source.isWildcard = false)
  multivalued :
    ¬ (source.isMultivalued = true ∧ dest.isMultivalued = false)
  limit : ∃ n : Nat, 1 ≤ n ∧ CopyField.wireLimit raw = .ok n

/-- A copy field can be built of two fields and an entry exactly if the
entry joins them: the rules on the destination hold, and the limit is at
least one. -/
theorem exists_copyOfEntry_iff {source dest : Field} {raw : RawEntry} :
    (∃ c, copyOfEntry source dest raw = .ok c) ↔
      Joins source dest raw := by
  unfold copyOfEntry
  constructor
  · intro h
    obtain ⟨c, h⟩ := h
    obtain ⟨limit, hlimit, h⟩ := bind_eq_ok.1 h
    obtain ⟨hw, hm, n, hn, -⟩ := CopyField.ofFields_eq_ok.1 h
    obtain ⟨hpos, heq⟩ := CopyField.limit_eq_ok.1 hn
    injection heq with heq
    exact ⟨hw, hm, n, hpos, heq ▸ hlimit⟩
  · intro h
    obtain ⟨n, hpos, hlimit⟩ := h.limit
    refine ⟨⟨source, dest, n⟩, bind_eq_ok.2 ⟨n, hlimit, ?_⟩⟩
    exact CopyField.ofFields_eq_ok.2 ⟨h.wildcard, h.multivalued, n,
      CopyField.limit_eq_ok.2 ⟨hpos, rfl⟩, rfl⟩

/-- What becomes of a copy field entry behind others: the copy field it
adds, and the findings. -/
inductive CopyFate (statics dynamics : Table String Field)
    (before : List RawEntry) (raw : RawEntry) :
    Option CopyField → List Finding → Prop where
  | unknownKey {key : String} (hk : unknownKey? raw = some key) :
      CopyFate statics dynamics before raw none
        [refusedCopy .unknownProperty (copySubject raw)
          (.unknownProperty (.str key))]
  | unresolved {s d : Except Fault Field} (hk : unknownKey? raw = none)
      (hs : resolveReference "source" (rawValue .source raw)
        statics dynamics = s)
      (hd : resolveReference "dest" (rawValue .dest raw)
        statics dynamics = d)
      (h : (∃ fault, s = .error fault) ∨ ∃ fault, d = .error fault) :
      CopyFate statics dynamics before raw none
        (unresolvedEnds (copySubject raw) s
          ++ unresolvedEnds (copySubject raw) d)
  | refused {s d : Field} {fault : Fault} (hk : unknownKey? raw = none)
      (hs : resolveReference "source" (rawValue .source raw)
        statics dynamics = .ok s)
      (hd : resolveReference "dest" (rawValue .dest raw)
        statics dynamics = .ok d)
      (hj : ¬ Joins s d raw)
      (h : copyOfEntry s d raw = .error fault) :
      CopyFate statics dynamics before raw none
        [refusedCopy .invalidCopyField (copySubject raw) fault]
  | read {s d : Field} {c : CopyField} (hk : unknownKey? raw = none)
      (hs : resolveReference "source" (rawValue .source raw)
        statics dynamics = .ok s)
      (hd : resolveReference "dest" (rawValue .dest raw)
        statics dynamics = .ok d)
      (hj : Joins s d raw) (h : copyOfEntry s d raw = .ok c)
      (hnew : c.key ∉
        (accepted statics dynamics before).map CopyField.key) :
      CopyFate statics dynamics before raw (some c) []
  | repeated {s d : Field} {c : CopyField} (hk : unknownKey? raw = none)
      (hs : resolveReference "source" (rawValue .source raw)
        statics dynamics = .ok s)
      (hd : resolveReference "dest" (rawValue .dest raw)
        statics dynamics = .ok d)
      (hj : Joins s d raw) (h : copyOfEntry s d raw = .ok c)
      (hold : c.key ∈
        (accepted statics dynamics before).map CopyField.key) :
      CopyFate statics dynamics before raw none []

namespace CopyFate

variable {statics dynamics : Table String Field} {before : List RawEntry}
  {raw : RawEntry}

/-- What the findings tell: that a key is unknown, that an end means no
field, or that no copy field can be built. -/
theorem about {new : Option CopyField} {here : List Finding}
    (h : CopyFate statics dynamics before raw new here) :
    ∀ f ∈ here, f.kind = .unknownProperty
      ∨ f.kind = .unresolvedCopyField ∨ f.kind = .invalidCopyField := by
  have hend : ∀ (meant : Except Fault Field) (f : Finding),
      f ∈ unresolvedEnds (copySubject raw) meant →
        f.kind = .unresolvedCopyField := by
    intro meant f hf
    cases meant with
    | ok _ => cases hf
    | error fault => rw [List.mem_singleton.1 hf, unresolvedEnd]
  cases h with
  | unknownKey _ => exact List.forall_mem_singleton.2 (Or.inl rfl)
  | unresolved _ _ _ _ =>
      intro f hf
      rcases List.mem_append.1 hf with hf | hf
      · exact Or.inr (Or.inl (hend _ f hf))
      · exact Or.inr (Or.inl (hend _ f hf))
  | refused _ _ _ _ _ =>
      exact List.forall_mem_singleton.2 (Or.inr (Or.inr rfl))
  | read _ _ _ _ _ _ => exact fun f hf => absurd hf List.not_mem_nil
  | repeated _ _ _ _ _ _ => exact fun f hf => absurd hf List.not_mem_nil

/-- What is added agrees with what the entry is accepted as, if it is. -/
theorem outcome {new : Option CopyField} {here : List Finding}
    (h : CopyFate statics dynamics before raw new here) :
    (copyOutcome statics dynamics raw = .error here ∧ new = none)
      ∨ ∃ c, copyOutcome statics dynamics raw = .ok c ∧ here = []
        ∧ new = if c.key ∈
            (accepted statics dynamics before).map CopyField.key
          then none else some c := by
  -- an entry that is read and one that repeats are both accepted by
  -- themselves
  have hok : ∀ {f g c}, unknownKey? raw = none →
      resolveReference "source" (rawValue .source raw) statics dynamics
        = .ok f →
      resolveReference "dest" (rawValue .dest raw) statics dynamics
        = .ok g →
      copyOfEntry f g raw = .ok c →
      copyOutcome statics dynamics raw = .ok c := by
    intro f g c hk hs hd hc
    rw [copyOutcome_of_ends hk hs hd, hc]
    rfl
  cases h with
  | unknownKey hk => exact Or.inl ⟨copyOutcome_of_unknownKey hk, rfl⟩
  | unresolved hk hs hd h =>
      exact Or.inl ⟨copyOutcome_of_unresolved hk hs hd h, rfl⟩
  | refused hk hs hd _ h =>
      left
      rw [copyOutcome_of_ends hk hs hd, h]
      exact ⟨rfl, rfl⟩
  | read hk hs hd _ h hnew =>
      right
      exact ⟨_, hok hk hs hd h, rfl, (if_neg hnew).symm⟩
  | repeated hk hs hd _ h hold =>
      right
      exact ⟨_, hok hk hs hd h, rfl, (if_pos hold).symm⟩

/-- An entry has one fate. -/
theorem unique {new new' : Option CopyField} {here here' : List Finding}
    (h : CopyFate statics dynamics before raw new here)
    (h' : CopyFate statics dynamics before raw new' here') :
    new = new' ∧ here = here' := by
  rcases h.outcome with ⟨ho, rfl⟩ | ⟨c, ho, rfl, rfl⟩
  · rcases h'.outcome with ⟨ho', rfl⟩ | ⟨c', ho', -, -⟩
    · injection ho.symm.trans ho' with hhere
      exact ⟨rfl, hhere⟩
    · cases ho.symm.trans ho'
  · rcases h'.outcome with ⟨ho', -⟩ | ⟨c', ho', rfl, rfl⟩
    · cases ho.symm.trans ho'
    · injection ho.symm.trans ho' with hc
      rw [hc]
      exact ⟨rfl, rfl⟩

end CopyFate

/-- Reading one copy field entry more, behind those that were read. -/
theorem readCopiesOnto_concat (statics dynamics : Table String Field)
    (parsed : List CopyField) (entries : List RawEntry) (raw : RawEntry) :
    readCopiesOnto statics dynamics parsed (entries ++ [raw])
      = match copyOutcome statics dynamics raw with
        | .ok c =>
            (CopyField.insertNew
                (readCopiesOnto statics dynamics parsed entries).1 c,
              (readCopiesOnto statics dynamics parsed entries).2)
        | .error here =>
            ((readCopiesOnto statics dynamics parsed entries).1,
              (readCopiesOnto statics dynamics parsed entries).2
                ++ here) := by
  induction entries generalizing parsed with
  | nil =>
      rw [List.nil_append]
      unfold readCopiesOnto
      cases copyOutcome statics dynamics raw with
      | ok c => rfl
      | error here =>
          show (parsed, here ++ []) = (parsed, [] ++ here)
          rw [List.append_nil, List.nil_append]
  | cons first rest ih =>
      rw [List.cons_append]
      unfold readCopiesOnto
      cases copyOutcome statics dynamics first with
      | ok c => exact ih _
      | error earlier =>
          rw [ih parsed]
          cases copyOutcome statics dynamics raw with
          | ok c => rfl
          | error here =>
              exact congrArg _ (List.append_assoc ..).symm

/-- What is read of the copy field entries and what is found on them is
put together of their fates. A key that is taken is one of an entry that
was accepted before. -/
theorem accounted_readCopies (statics dynamics : Table String Field)
    (entries : List RawEntry) :
    Accounted (CopyFate statics dynamics) entries
      (readCopiesOnto statics dynamics [] entries).1
      (readCopiesOnto statics dynamics [] entries).2 := by
  induction entries using List.reverseRecOn with
  | nil => exact .nil
  | append_singleton entries raw ih =>
      -- the keys there are those of the entries accepted before
      have hkeys : ∀ key,
          key ∈ (readCopiesOnto statics dynamics [] entries).1.map
              CopyField.key ↔
            key ∈ (accepted statics dynamics entries).map
              CopyField.key := by
        intro key
        rw [fst_readCopiesOnto, Cache.mem_keys_addCopies]
        exact or_iff_right List.not_mem_nil
      rw [readCopiesOnto_concat]
      -- the entry is refused for a key, for an end, or it has both ends and
      -- is read
      rcases copyOutcome_cases statics dynamics raw with
        ⟨key, hk⟩ | ⟨hk, s, d, hs, hd, hends | ⟨f, g, rfl, rfl⟩⟩
      · rw [copyOutcome_of_unknownKey hk]
        exact ih.pass (.unknownKey hk)
      · rw [copyOutcome_of_unresolved hk hs hd hends]
        exact ih.pass (.unresolved hk hs hd hends)
      · rw [copyOutcome_of_ends hk hs hd]
        cases hc : copyOfEntry f g raw with
        | error fault =>
            -- an entry that joins its ends would have been read
            have hj : ¬ Joins f g raw := fun hj => by
              obtain ⟨c, hok⟩ := exists_copyOfEntry_iff.2 hj
              cases hc.symm.trans hok
            exact ih.pass (.refused hk hs hd hj hc)
        | ok c =>
            have hj : Joins f g raw := exists_copyOfEntry_iff.1 ⟨c, hc⟩
            show Accounted _ _ (CopyField.insertNew _ c) _
            -- it is new, or a repetition of one that was accepted before
            by_cases hold : c.key ∈
                (accepted statics dynamics entries).map CopyField.key
            · have hnext := ih.pass (.repeated hk hs hd hj hc hold)
              rw [List.append_nil] at hnext
              rw [CopyField.insertNew_of_mem ((hkeys c.key).2 hold)]
              exact hnext
            · rw [CopyField.insertNew_of_notMem
                fun h => hold ((hkeys c.key).1 h)]
              exact ih.add (.read hk hs hd hj hc hold)

/-- The copy field entries of a schema, read without losing one. Numbers
do not tell it here: an entry that repeats another leaves nothing, and one
with two bad ends leaves two findings. -/
structure CopiesAccounted (statics dynamics : Table String Field)
    (entries : List RawEntry) (copies : List CopyField)
    (findings : List Finding) : Prop where
  /-- Copy fields and findings are put together of the entries' fates. -/
  fates : Accounted (CopyFate statics dynamics) entries copies findings
  /-- An entry has no second fate. -/
  unique : ∀ before raw after, entries = before ++ raw :: after →
    ∃! one : Option CopyField × List Finding,
      CopyFate statics dynamics before raw one.1 one.2

/-- The copy field entries are read without losing one. -/
theorem copiesAccounted_readCopies (statics dynamics : Table String Field)
    (entries : List RawEntry) :
    CopiesAccounted statics dynamics entries
      (readCopiesOnto statics dynamics [] entries).1
      (readCopiesOnto statics dynamics [] entries).2 where
  fates := accounted_readCopies statics dynamics entries
  unique _ _ _ :=
    (accounted_readCopies statics dynamics entries).existsUnique_fate
      CopyFate.unique

-- ============================================================= a schema

/-- The kinds of findings that reading makes. -/
def FindingKind.ofReading : List FindingKind :=
  [.unknownFieldType, .unknownProperty, .invalidField,
   .unresolvedCopyField, .invalidCopyField]

/-- Reading makes findings of these kinds only, so that nothing that is
found by comparing can be mistaken for it. -/
theorem Representation.kind_mem_ofReading {r : Representation}
    {f : Finding} (hf : f ∈ r.complaints) :
    f.kind ∈ FindingKind.ofReading := by
  -- a finding comes from one entry, and its fate tells the kind
  have hfields : ∀ kind entries,
      f ∈ (readFieldsOnto kind Table.empty entries).2 →
        f.kind ∈ FindingKind.ofReading := by
    intro kind entries hf
    obtain ⟨before, raw, new, here, hfate, hf⟩ :=
      (accounted_readFields kind entries).exists_of_mem_found hf
    cases new with
    | some g =>
        cases hfate
        cases hf
    | none =>
        obtain ⟨finding, rfl, htells⟩ := hfate.finding
        rw [List.mem_singleton.1 hf]
        rcases htells.about with h | h | h
        · exact h ▸ by decide
        · exact h ▸ by decide
        · exact h ▸ by decide
  rcases List.mem_append.1 hf with hf | hf
  · rcases List.mem_append.1 hf with hf | hf
    · exact hfields .static r.fields hf
    · exact hfields .dynamic r.managed hf
  · obtain ⟨before, raw, new, here, hfate, hf⟩ :=
      (accounted_readCopies r.statics r.dynamics
        r.copyFields).exists_of_mem_found hf
    rcases hfate.about f hf with h | h | h
    · exact h ▸ by decide
    · exact h ▸ by decide
    · exact h ▸ by decide

/-- Whenever a schema is read, no entry of it is lost: each section yields
fields and findings that are put together of the fates of its entries, the
findings standing in the order of the sections. -/
theorem Checker.parse_accounts {c : Checker} {r : Representation}
    {live : Schema} {report : Report}
    (h : (c.parse r).value = .ok (live, report)) :
    ∃ onStatics onDynamics onCopies,
      report.findings = onStatics ++ onDynamics ++ onCopies
        ∧ FieldsAccounted .static r.fields live.statics onStatics
        ∧ FieldsAccounted .dynamic r.managed live.dynamics onDynamics
        ∧ CopiesAccounted live.statics live.dynamics r.copyFields
          live.copies onCopies := by
  obtain ⟨-, hresult⟩ := Checker.parse_eq_ok.1 h
  obtain ⟨rfl, rfl⟩ := Prod.mk.inj hresult
  exact ⟨_, _, _, rfl, fieldsAccounted_readFields .static r.fields,
    fieldsAccounted_readFields .dynamic r.managed,
    copiesAccounted_readCopies r.statics r.dynamics r.copyFields⟩

namespace Representation

/-- A live schema with an entry for every fate. -/
def crowded : Representation where
  version := none
  name := .null
  uniqueKey := .null
  fields :=
    [[("name", .str "title"), ("type", .str "text_en")],
     [("name", .str "title"), ("type", .str "string")],
     [("name", .str "bad-name"), ("type", .str "text_en")],
     [("name", .str "location"), ("type", .str "location_rpt")],
     [("name", .str "subject"), ("type", .str "text_en"),
      ("boost", .int 2)],
     [("name", .str "_text_"), ("type", .str "text_general"),
      ("multiValued", .bool true)]]
  dynamicFields :=
    [[("name", .str "*_s"), ("type", .str "location_rpt")],
     [("name", .str "*_note"), ("type", .str "text_en")]]
  copyFields :=
    [[("source", .str "title"), ("dest", .str "_text_")],
     [("source", .str "title"), ("dest", .str "_text_"),
      ("maxChars", .int 100)],
     [("source", .str "ghost"), ("dest", .str "nowhere")],
     [("source", .str "title"), ("dest", .str "_text_"),
      ("boost", .int 2)],
     [("source", .str "_text_"), ("dest", .str "title")]]
  fieldTypes := []

/-- The names of all dynamic entries are strings, however little some of
them fit. -/
theorem hasKeys_crowded : crowded.HasKeys := by
  intro raw hraw
  rcases List.mem_cons.1 hraw with rfl | hraw
  · exact Json.checkKey_eq_ok.1 rfl
  · rw [List.mem_singleton.1 hraw]
    exact Json.checkKey_eq_ok.1 rfl

end Representation

/-- A live schema with an entry for every fate is read, and each of its
entries is accounted for. -/
theorem Checker.parse_accounts_crowded :
    ∃ live report,
      (sample.parse .crowded).value = .ok (live, report)
        ∧ report.findings.map Finding.kind
          = [.invalidField, .invalidField, .unknownFieldType,
            .unknownProperty, .unresolvedCopyField, .unresolvedCopyField,
            .unknownProperty, .invalidCopyField]
        ∧ ∃ onStatics onDynamics onCopies,
          report.findings = onStatics ++ onDynamics ++ onCopies
            ∧ FieldsAccounted .static Representation.crowded.fields
              live.statics onStatics
            ∧ FieldsAccounted .dynamic Representation.crowded.managed
              live.dynamics onDynamics
            ∧ CopiesAccounted live.statics live.dynamics
              Representation.crowded.copyFields live.copies onCopies := by
  have hparse := parse_of_hasKeys (c := sample)
    Representation.hasKeys_crowded
  exact ⟨_, _, hparse, by decide, parse_accounts hparse⟩

end SchemaAudit
