/-
What reading the copy field entries yields. The copy fields read are,
key by key, the first entry that is accepted (`fst_readCopiesOnto`,
`copyNamed?_addCopies`), and the findings are the complaints about the
others (`snd_readCopiesOnto`), all of them errors.

# One entry

An entry is accepted exactly if its keys are those of properties, both
of its ends mean fields, and a copy field can be built of these
(`copyOutcome_eq_ok`). `CopyFits` says the same of the raw entry, in the
words in which the verdict speaks of it. The stages come in this order,
and `copyOutcome_cases` splits an entry by the first that it fails; each
stage has a lemma of its own for what the entry then becomes.

# Sections

Unlike a field entry, a copy field entry that repeats an earlier one
leaves no finding, so what is found is entry by entry the complaints
about it, whatever came before (`snd_readCopiesOnto`). A section is read
without an error exactly if every entry fits
(`errorFree_readCopiesOnto`).
-/
import SchemaAudit.Expected
import SchemaAudit.Live
import SchemaAudit.Proofs.CopyField
import SchemaAudit.Proofs.Live.Fields
import SchemaAudit.Reconcile

namespace SchemaAudit

open Outcome

-- ============================================= first of a pair of names

/-- No copy field has a key exactly if the key is none of theirs. -/
theorem copyNamed?_eq_none {cs : List CopyField}
    {key : String × String} :
    copyNamed? cs key = none ↔ key ∉ cs.map CopyField.key := by
  unfold copyNamed?
  rw [List.find?_eq_none, List.mem_map, not_exists]
  exact forall_congr' fun c => by simp

/-- What is found under a key is one of the copy fields and has that key.
-/
theorem key_of_copyNamed? {cs : List CopyField} {key : String × String}
    {c : CopyField} (h : copyNamed? cs key = some c) :
    c ∈ cs ∧ c.key = key :=
  ⟨List.mem_of_find?_eq_some h, by simpa using List.find?_some h⟩

theorem copyNamed?_eq_some {cs : List CopyField}
    (hn : (cs.map CopyField.key).Nodup) {key : String × String}
    {c : CopyField} :
    copyNamed? cs key = some c ↔ c ∈ cs ∧ c.key = key := by
  constructor
  · exact key_of_copyNamed?
  · intro h
    obtain ⟨hc, rfl⟩ := h
    cases h : copyNamed? cs c.key with
    | none =>
        exact absurd (List.mem_map.2 ⟨c, hc, rfl⟩)
          (copyNamed?_eq_none.1 h)
    | some d =>
        obtain ⟨hd, hk⟩ := key_of_copyNamed? h
        rw [List.inj_on_of_nodup_map hn hd hc hk]

namespace Cache

/-- Copy fields to which copy fields are added: in order, each unless its
key is there. From here on the laws of lists of first members apply. -/
theorem addCopies_eq_foldl (cs new : List CopyField) :
    addCopies cs new = new.foldl (keepNew CopyField.key) cs := by
  have hstep : CopyField.insertNew = keepNew CopyField.key := by
    funext cs c
    unfold keepNew
    by_cases h : c.key ∈ cs.map CopyField.key
    · rw [if_pos h, CopyField.insertNew_of_mem h]
    · rw [if_neg h, CopyField.insertNew_of_notMem h]
  unfold addCopies
  rw [hstep]

/-- Adding copy fields whose keys are new: a key keeps its copy field, or
gets the first of those added. -/
theorem copyNamed?_addCopies (cs new : List CopyField)
    (key : String × String) :
    copyNamed? (addCopies cs new) key
      = (copyNamed? cs key).or (copyNamed? new key) := by
  unfold copyNamed?
  rw [addCopies_eq_foldl, find?_foldl_keepNew cs new fun k => k == key,
    List.find?_append]

theorem addCopies_eq_append {cs new : List CopyField}
    (hn : (new.map CopyField.key).Nodup)
    (hcs : ∀ c ∈ new, c.key ∉ cs.map CopyField.key) :
    addCopies cs new = cs ++ new := by
  rw [addCopies_eq_foldl]
  exact foldl_keepNew_of_nodup hn hcs

/-- The keys after adding copy fields are the old ones and those added. -/
theorem mem_keys_addCopies {cs new : List CopyField}
    {key : String × String} :
    key ∈ (addCopies cs new).map CopyField.key ↔
      key ∈ cs.map CopyField.key ∨ key ∈ new.map CopyField.key := by
  rw [addCopies_eq_foldl]
  exact mem_keys_foldl_keepNew

theorem addCopies_of_subset {cs new : List CopyField}
    (h : ∀ c ∈ new, c.key ∈ cs.map CopyField.key) :
    addCopies cs new = cs := by
  rw [addCopies_eq_foldl]
  exact foldl_keepNew_of_subset h

/-- What is there after adding copy fields was there or was added. -/
theorem mem_of_mem_addCopies {cs new : List CopyField} {c : CopyField}
    (h : c ∈ addCopies cs new) : c ∈ cs ∨ c ∈ new := by
  rw [addCopies_eq_foldl] at h
  exact mem_of_mem_foldl_keepNew h

theorem nodup_addCopies {cs : List CopyField}
    (hcs : (cs.map CopyField.key).Nodup) (new : List CopyField) :
    ((addCopies cs new).map CopyField.key).Nodup := by
  rw [addCopies_eq_foldl]
  exact nodup_foldl_keepNew hcs new

end Cache

-- ====================================================== one entry at once

/-- The complaints about a copy field entry by itself. That it repeats
another is not complained of. -/
def complaints (statics dynamics : Table String Field)
    (raw : RawEntry) : List Finding :=
  match copyOutcome statics dynamics raw with
  | .ok _ => []
  | .error findings => findings

/-- The copy fields that entries are accepted as, repetitions included:
which of them is read first is not yet decided here. -/
def accepted (statics dynamics : Table String Field)
    (entries : List RawEntry) : List CopyField :=
  entries.filterMap fun raw => (copyOutcome statics dynamics raw).toOption

/-- An entry has no unknown key exactly if every key is that of a
property. Limits and ends are looked up among the keys later on; here it
only counts that each is known. -/
theorem unknownKey?_eq_none {raw : RawEntry} :
    unknownKey? raw = none ↔
      ∀ key ∈ raw.map Prod.fst, ∃ p, Property.ofKey? key = some p := by
  unfold unknownKey?
  rw [List.find?_eq_none]
  apply forall₂_congr
  intro key _
  rw [Option.isNone_iff_eq_none, ← ne_eq, Option.ne_none_iff_exists']

section

variable {statics dynamics : Table String Field} {raw : RawEntry}

/-- An entry with an unknown key is refused for it, and its ends are not
looked at. -/
theorem copyOutcome_of_unknownKey {key : String}
    (hk : unknownKey? raw = some key) :
    copyOutcome statics dynamics raw
      = .error [refusedCopy .unknownProperty (copySubject raw)
        (.unknownProperty (.str key))] := by
  unfold copyOutcome
  rw [hk]

/-- An entry with an end that means no field is refused for it, or for
both of its ends. -/
theorem copyOutcome_of_unresolved {s d : Except Fault Field}
    (hk : unknownKey? raw = none)
    (hs : resolveReference "source" (rawValue .source raw) statics dynamics
      = s)
    (hd : resolveReference "dest" (rawValue .dest raw) statics dynamics
      = d)
    (h : (∃ fault, s = .error fault) ∨ ∃ fault, d = .error fault) :
    copyOutcome statics dynamics raw
      = .error (unresolvedEnds (copySubject raw) s
        ++ unresolvedEnds (copySubject raw) d) := by
  unfold copyOutcome
  rw [hk]
  simp only [hs, hd]
  rcases h with ⟨fault, rfl⟩ | ⟨fault, rfl⟩
  · rfl
  · cases s <;> rfl

/-- An entry whose ends mean fields is what can be built of these, or one
finding that says why nothing can. -/
theorem copyOutcome_of_ends {f g : Field} (hk : unknownKey? raw = none)
    (hs : resolveReference "source" (rawValue .source raw) statics dynamics
      = .ok f)
    (hd : resolveReference "dest" (rawValue .dest raw) statics dynamics
      = .ok g) :
    copyOutcome statics dynamics raw
      = (copyOfEntry f g raw).mapError fun fault =>
        [refusedCopy .invalidCopyField (copySubject raw) fault] := by
  unfold copyOutcome
  rw [hk]
  simp only [hs, hd]

/-- An entry has an unknown key, or an end that means no field, or two
fields for its ends. Every statement about what becomes of an entry splits
into these. -/
theorem copyOutcome_cases (statics dynamics : Table String Field)
    (raw : RawEntry) :
    (∃ key, unknownKey? raw = some key)
      ∨ unknownKey? raw = none
        ∧ ∃ s d, resolveReference "source" (rawValue .source raw)
              statics dynamics = s
          ∧ resolveReference "dest" (rawValue .dest raw)
              statics dynamics = d
          ∧ (((∃ fault, s = .error fault) ∨ ∃ fault, d = .error fault)
            ∨ ∃ f g, s = .ok f ∧ d = .ok g) := by
  cases unknownKey? raw with
  | some key => exact Or.inl ⟨key, rfl⟩
  | none =>
      refine Or.inr ⟨rfl, _, _, rfl, rfl, ?_⟩
      cases resolveReference "source" (rawValue .source raw) statics
        dynamics with
      | error fault => exact Or.inl (Or.inl ⟨fault, rfl⟩)
      | ok f =>
          cases resolveReference "dest" (rawValue .dest raw) statics
            dynamics with
          | error fault => exact Or.inl (Or.inr ⟨fault, rfl⟩)
          | ok g => exact Or.inr ⟨f, g, rfl, rfl⟩

/-- When an entry is accepted as a copy field, and as which: there is no
other way than to pass all the stages. -/
theorem copyOutcome_eq_ok {c : CopyField} :
    copyOutcome statics dynamics raw = .ok c ↔
      (∀ key ∈ raw.map Prod.fst, ∃ p, Property.ofKey? key = some p)
        ∧ ∃ s d, resolveReference "source" (rawValue .source raw)
              statics dynamics = .ok s
          ∧ resolveReference "dest" (rawValue .dest raw)
              statics dynamics = .ok d
          ∧ copyOfEntry s d raw = .ok c := by
  rw [← unknownKey?_eq_none]
  constructor
  · intro h
    rcases copyOutcome_cases statics dynamics raw with
      ⟨key, hk⟩ | ⟨hk, s, d, hs, hd, hends | ⟨f, g, rfl, rfl⟩⟩
    · rw [copyOutcome_of_unknownKey hk] at h
      cases h
    · rw [copyOutcome_of_unresolved hk hs hd hends] at h
      cases h
    · rw [copyOutcome_of_ends hk hs hd, mapError_eq_ok] at h
      exact ⟨hk, f, g, hs, hd, h⟩
  · intro h
    obtain ⟨hk, s, d, hs, hd, hc⟩ := h
    rw [copyOutcome_of_ends hk hs hd, mapError_eq_ok]
    exact hc

end

/-- A copy field entry that fits: its keys are those of properties, both of
its ends mean fields, and a copy field can be built of these with its
limit. -/
def CopyFits (statics dynamics : Table String Field) (raw : RawEntry) :
    Prop :=
  (∀ key ∈ raw.map Prod.fst, ∃ p, Property.ofKey? key = some p)
    ∧ ∃ s d, resolveReference "source" (rawValue .source raw)
          statics dynamics = .ok s
      ∧ resolveReference "dest" (rawValue .dest raw)
          statics dynamics = .ok d
      ∧ ∃ c, copyOfEntry s d raw = .ok c

/-- The entries that are accepted are those that fit. -/
theorem exists_copyOutcome_iff {statics dynamics : Table String Field}
    {raw : RawEntry} :
    (∃ c, copyOutcome statics dynamics raw = .ok c) ↔
      CopyFits statics dynamics raw := by
  constructor
  · intro h
    obtain ⟨c, h⟩ := h
    obtain ⟨hkeys, s, d, hs, hd, hc⟩ := copyOutcome_eq_ok.1 h
    exact ⟨hkeys, s, d, hs, hd, c, hc⟩
  · intro h
    obtain ⟨hkeys, s, d, hs, hd, c, hc⟩ := h
    exact ⟨c, copyOutcome_eq_ok.2 ⟨hkeys, s, d, hs, hd, hc⟩⟩

/-- A copy field is accepted exactly if some entry is accepted as it. -/
theorem mem_accepted {statics dynamics : Table String Field}
    {entries : List RawEntry} {c : CopyField} :
    c ∈ accepted statics dynamics entries ↔
      ∃ raw ∈ entries, copyOutcome statics dynamics raw = .ok c := by
  unfold accepted
  rw [List.mem_filterMap]
  apply exists_congr
  intro raw
  apply and_congr_right
  intro _
  cases copyOutcome statics dynamics raw <;> simp [Except.toOption]

theorem isError_unresolvedEnds (subject : String)
    (result : Except Fault Field) :
    ∀ f ∈ unresolvedEnds subject result, f.isError = true := by
  cases result with
  | ok _ => exact fun f hf => absurd hf List.not_mem_nil
  | error fault =>
      intro f hf
      rw [List.mem_singleton.1 hf]
      rfl

/-- Whichever end means no field, there is a finding, and all findings are
errors. -/
theorem errors_of_unresolvedEnds (subject : String)
    {s d : Except Fault Field}
    (h : (∃ fault, s = .error fault) ∨ ∃ fault, d = .error fault) :
    unresolvedEnds subject s ++ unresolvedEnds subject d ≠ []
      ∧ ∀ f ∈ unresolvedEnds subject s ++ unresolvedEnds subject d,
        f.isError = true := by
  refine ⟨?_, fun f hf => ?_⟩
  · rcases h with ⟨fault, rfl⟩ | ⟨fault, rfl⟩
    · exact List.cons_ne_nil _ _
    · exact List.append_ne_nil_of_right_ne_nil _ (List.cons_ne_nil _ _)
  · rcases List.mem_append.1 hf with hf | hf
    · exact isError_unresolvedEnds _ s f hf
    · exact isError_unresolvedEnds _ d f hf

/-- An entry that is not accepted has a finding, and all of its findings
are errors. -/
theorem errors_of_copyOutcome {statics dynamics : Table String Field}
    {raw : RawEntry} {findings : List Finding}
    (h : copyOutcome statics dynamics raw = .error findings) :
    findings ≠ [] ∧ ∀ f ∈ findings, f.isError = true := by
  -- a refusal leaves one finding, an end that means nothing one or two
  have hone : ∀ kind fault, [refusedCopy kind (copySubject raw) fault] ≠ []
      ∧ ∀ f ∈ [refusedCopy kind (copySubject raw) fault],
        f.isError = true := by
    intro kind fault
    refine ⟨List.cons_ne_nil _ _, fun f hf => ?_⟩
    rw [List.mem_singleton.1 hf]
    rfl
  rcases copyOutcome_cases statics dynamics raw with
    ⟨key, hk⟩ | ⟨hk, s, d, hs, hd, hends | ⟨f, g, rfl, rfl⟩⟩
  · rw [copyOutcome_of_unknownKey hk] at h
    injection h with h
    exact h ▸ hone _ _
  · rw [copyOutcome_of_unresolved hk hs hd hends] at h
    injection h with h
    exact h ▸ errors_of_unresolvedEnds _ hends
  · rw [copyOutcome_of_ends hk hs hd] at h
    cases hc : copyOfEntry f g raw with
    | ok c =>
        rw [hc] at h
        cases h
    | error fault =>
        rw [hc] at h
        injection h with h
        exact h ▸ hone _ _

/-- Complaints are errors. -/
theorem isError_of_mem_complaints {statics dynamics : Table String Field}
    {raw : RawEntry} {f : Finding}
    (h : f ∈ complaints statics dynamics raw) : f.isError = true := by
  unfold complaints at h
  split at h
  · cases h
  · rename_i findings ho
    exact (errors_of_copyOutcome ho).2 f h

/-- There is no complaint about an entry exactly if it is accepted. -/
theorem complaints_eq_nil {statics dynamics : Table String Field}
    {raw : RawEntry} :
    complaints statics dynamics raw = [] ↔
      ∃ c, copyOutcome statics dynamics raw = .ok c := by
  unfold complaints
  cases ho : copyOutcome statics dynamics raw with
  | ok c => exact iff_of_true rfl ⟨c, rfl⟩
  | error findings =>
      refine iff_of_false (errors_of_copyOutcome ho).1 ?_
      intro h
      obtain ⟨c, hc⟩ := h
      cases hc

-- ============================================================== sections

/-- What is read of copy field entries depends on the fields only as far
as it depends on them what becomes of each. So fields that no entry means
can come and go. -/
theorem readCopiesOnto_congr
    {statics statics' dynamics dynamics' : Table String Field}
    {parsed : List CopyField} {entries : List RawEntry}
    (h : ∀ raw ∈ entries, copyOutcome statics dynamics raw
      = copyOutcome statics' dynamics' raw) :
    readCopiesOnto statics dynamics parsed entries
      = readCopiesOnto statics' dynamics' parsed entries := by
  induction entries generalizing parsed with
  | nil => rfl
  | cons raw rest ih =>
      have hrest : ∀ entry ∈ rest, copyOutcome statics dynamics entry
          = copyOutcome statics' dynamics' entry :=
        fun entry he => h entry (List.mem_cons_of_mem _ he)
      unfold readCopiesOnto
      rw [h raw (List.mem_cons_self ..)]
      cases copyOutcome statics' dynamics' raw with
      | ok c => exact ih hrest
      | error findings =>
          simp only
          rw [ih hrest]

/-- The copy fields read are those that entries are accepted as, the first
of a key winning. By induction on the entries, with any copy fields read
before. -/
theorem fst_readCopiesOnto (statics dynamics : Table String Field)
    (parsed : List CopyField) (entries : List RawEntry) :
    (readCopiesOnto statics dynamics parsed entries).1
      = Cache.addCopies parsed (accepted statics dynamics entries) := by
  induction entries generalizing parsed with
  | nil => rfl
  | cons raw rest ih =>
      unfold readCopiesOnto accepted
      rw [List.filterMap_cons]
      cases copyOutcome statics dynamics raw with
      | ok c => exact ih _
      | error findings => exact ih parsed

/-- The copy fields read have distinct keys. -/
theorem nodup_keys_readCopiesOnto (statics dynamics : Table String Field)
    (entries : List RawEntry) :
    ((readCopiesOnto statics dynamics [] entries).1.map
      CopyField.key).Nodup := by
  have hnil : (([] : List CopyField).map CopyField.key).Nodup :=
    List.nodup_nil
  rw [fst_readCopiesOnto]
  exact Cache.nodup_addCopies hnil _

/-- The findings are the complaints, entry by entry, whatever was read
before. -/
theorem snd_readCopiesOnto (statics dynamics : Table String Field)
    (parsed : List CopyField) (entries : List RawEntry) :
    (readCopiesOnto statics dynamics parsed entries).2
      = entries.flatMap (complaints statics dynamics) := by
  induction entries generalizing parsed with
  | nil => rfl
  | cons raw rest ih =>
      unfold readCopiesOnto complaints
      rw [List.flatMap_cons]
      cases copyOutcome statics dynamics raw with
      | ok c => exact ih _
      | error findings => exact congrArg _ (ih parsed)

/-- The copy field entries are read without an error exactly if every one
fits: complaints are errors, so there must be none at all. -/
theorem errorFree_readCopiesOnto {statics dynamics : Table String Field}
    {parsed : List CopyField} {entries : List RawEntry} :
    ErrorFree (readCopiesOnto statics dynamics parsed entries).2 ↔
      ∀ raw ∈ entries, CopyFits statics dynamics raw := by
  have herrors : ∀ f ∈ entries.flatMap (complaints statics dynamics),
      f.isError = true := by
    intro f hf
    obtain ⟨raw, -, hf⟩ := List.mem_flatMap.1 hf
    exact isError_of_mem_complaints hf
  rw [snd_readCopiesOnto, errorFree_iff_eq_nil herrors,
    List.flatMap_eq_nil_iff]
  apply forall₂_congr
  intro raw _
  rw [complaints_eq_nil, exists_copyOutcome_iff]

end SchemaAudit
