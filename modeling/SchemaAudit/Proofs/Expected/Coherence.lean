/-
How the parts of a cache hang together. Static fields and copy fields
are kept apart and by different rules, yet after any history the sources
of the copy fields are, in order, the fields that the catalogs gave
(`Follows.sources`), and the static fields are the same behind the
full-text field. So names and copy fields match (`isCoherent_run`).

# Where the two come apart

They match by name only. A metadata field that has the name of the
full-text field is copied although that name is taken: its copy field
starts from a field that the cache does not hold. That is the one way in
which a copy field can miss its static field
(`startsFromStatics_run_iff`), and it is open to every catalog
(`not_startsFromStatics_ownName`).

# How it is shown

The invariant is not proved step by step. A cache holds what its history
tells (`Follows.run`), so all of it is read off the specification:
static fields and copy fields are the firsts of two lists that catalogs
gave, and these lists match member by member, since a catalog gives one
copy for each of its fields (`map_source_givenCopies`). The firsts of
both are kept at the same places because all copies have one
destination, so that their keys tell them apart as the names of their
sources do.

The exact condition is then a matter of one name. Under any other a
look-up does not see the full-text field and finds the source itself
(`get?_source`); under that name it finds the full-text field
(`get?_fullText`), which has to be defined as the source is.
-/
import SchemaAudit.Proofs.Expected.Specification
import SchemaAudit.Proofs.Names

namespace SchemaAudit

/-- Among fields under their own names, a look-up finds the first of the
name, so a table can be asked through the list of its fields. -/
theorem Named.get?_eq_firstNamed? {t : Table String Field} (h : Named t)
    (name : String) : t.get? name = firstNamed? t.values name := by
  have hnodup : (t.values.map Field.name).Nodup := by
    rw [h.map_name_values]
    exact t.nodup_keys
  apply Option.ext
  intro f
  rw [firstNamed?_eq_some hnodup, Table.mem_values]
  constructor
  · intro hf
    exact ⟨⟨name, hf⟩, h name f hf⟩
  · intro hf
    obtain ⟨⟨key, hkey⟩, hname⟩ := hf
    rw [← hname, h key f hkey]
    exact hkey

/-- Two fields are defined alike: one type, and one value set for every
property. -/
def Field.SameAs (f g : Field) : Prop :=
  f.type.name = g.type.name ∧ ∀ p, f.get? p = g.get? p

namespace Cache

variable {fullText : Field} {maxChars : Json} {steps : List Step}
variable {c : Cache}

-- ======================================================= what was given

/-- The calls that count are among the calls that were made. -/
theorem mem_of_mem_fromLastReload {calls : List Call} {call : Call}
    (h : call ∈ fromLastReload calls) : call ∈ calls := by
  induction calls with
  | nil => exact h
  | cons first rest ih =>
      unfold fromLastReload at h
      split at h
      case isTrue => exact List.mem_cons_of_mem _ (ih h)
      case isFalse => exact h

/-- Every call is what some catalog gave, so what holds of all that
catalogs give holds of every call. -/
theorem exists_yield_of_mem_calls {call : Call}
    (h : call ∈ calls fullText maxChars steps) :
    ∃ catalog : Catalog, catalog.yield fullText maxChars
      = .ok (call.fields, call.copies) := by
  obtain ⟨s, -, hs⟩ := List.mem_filterMap.1 h
  cases s with
  | load catalog => exact ⟨catalog, (callWith?_eq_some.1 hs).2⟩
  | reload catalog => exact ⟨catalog, (callWith?_eq_some.1 hs).2⟩
  | register f => cases hs

/-- The copy fields given are one for each field given, in order. It holds
call by call. -/
theorem map_source_givenCopies :
    (givenCopies fullText maxChars steps).map CopyField.source
      = given fullText maxChars steps := by
  unfold givenCopies given
  rw [List.map_flatMap]
  apply List.flatMap_congr
  intro call hcall
  obtain ⟨catalog, hy⟩ :=
    exists_yield_of_mem_calls (mem_of_mem_fromLastReload hcall)
  exact (Catalog.copies_of_yield hy).1

/-- The copy fields given lead to the full-text field and have the limit
that was set, which was therefore a positive integer. -/
theorem of_mem_givenCopies {copy : CopyField}
    (h : copy ∈ givenCopies fullText maxChars steps) :
    copy.dest = fullText ∧ maxChars = .int copy.maxChars := by
  obtain ⟨call, hcall, hcopy⟩ := List.mem_flatMap.1 h
  obtain ⟨catalog, hy⟩ :=
    exists_yield_of_mem_calls (mem_of_mem_fromLastReload hcall)
  obtain ⟨hdest, -, hlimit⟩ := (Catalog.copies_of_yield hy).2 copy hcopy
  exact ⟨hdest, hlimit⟩

namespace Follows

/-- The sources of the copy fields are the fields given, the first of
each name: with one destination, pairs of names are told apart by the
sources. -/
theorem sources (h : Follows fullText maxChars steps c) :
    c.content.copies.map CopyField.source
      = firsts Field.name (given fullText maxChars steps) := by
  rw [h.copies, ← map_source_givenCopies]
  apply map_firsts
  intro a ha b hb
  have hdest : a.dest.name = b.dest.name := by
    rw [(of_mem_givenCopies ha).1, (of_mem_givenCopies hb).1]
  unfold CopyField.key
  rw [Prod.mk.injEq, and_iff_left hdest]

/-- No two copy fields have one pair of names. -/
theorem nodup_copyKeys (h : Follows fullText maxChars steps c) :
    c.content.copyKeys.Nodup := by
  unfold Schema.copyKeys
  rw [h.copies]
  exact nodup_keys_firsts _

/-- A name means the full-text field, or the first field given for it. -/
theorem get?_statics (h : Follows fullText maxChars steps c)
    (hn : Named c.content.statics) (name : String) :
    c.content.statics.get? name
      = firstNamed? (fullText :: given fullText maxChars steps) name := by
  rw [hn.get?_eq_firstNamed?, h.statics]
  exact find?_firsts _ fun key => key == name

end Follows

-- ================================================================ names

/-- What was given is of the static kind, well-formed and of a type of the
catalog. -/
theorem isStandard_of_mem_given {f : Field}
    (h : f ∈ given fullText maxChars steps) : f.IsStandard .static := by
  obtain ⟨call, hcall, hf⟩ := List.mem_flatMap.1 h
  obtain ⟨catalog, hy⟩ :=
    exists_yield_of_mem_calls (mem_of_mem_fromLastReload hcall)
  exact Catalog.isStandard_of_yield hy f hf

/-- What was given has names that static fields can have; a name that is
none stops a load. -/
theorem admits_of_mem_given {f : Field}
    (h : f ∈ given fullText maxChars steps) :
    EntryKind.static.admits f.name = true := by
  have hstandard := isStandard_of_mem_given h
  have hadmitted := hstandard.wellFormed.admitted
  rw [hstandard.kind_eq] at hadmitted
  exact hadmitted

/-- After any history the static fields of a cache have names that static
fields can have, if the full-text field does. -/
theorem admits_of_mem_statics
    (h : EntryKind.static.admits fullText.name = true) {name : String}
    (hname : name ∈ ((new fullText maxChars).run steps).content.statics.keys) :
    EntryKind.static.admits name = true := by
  have hfollows := Follows.run fullText maxChars steps
  have hnamed := (isNamed_run fullText maxChars steps).statics
  rw [← hnamed.map_name_values, hfollows.statics, mem_keys_firsts] at hname
  obtain ⟨f, hf, rfl⟩ := List.mem_map.1 hname
  rcases List.mem_cons.1 hf with rfl | hf
  · exact h
  · exact admits_of_mem_given hf

/-- The names of the dynamic fields of a cache are those that were
registered, at any time: neither a load nor a reload takes one away. -/
theorem mem_keys_dynamics {name : String} :
    name ∈ ((new fullText maxChars).run steps).content.dynamics.keys ↔
      ∃ f, Step.register f ∈ steps ∧ f.name = name := by
  have hnamed := (isNamed_run fullText maxChars steps).dynamics
  rw [← hnamed.map_name_values, (Follows.run ..).dynamics,
    mem_keys_firsts, List.mem_map]
  apply exists_congr
  intro f
  apply and_congr_left
  intro _
  rw [List.mem_filterMap]
  constructor
  · intro h
    obtain ⟨s, hs, hf⟩ := h
    cases s with
    | register g =>
        injection hf with hf
        exact hf ▸ hs
    | _ => cases hf
  · exact fun h => ⟨_, h, rfl⟩

/-- After any history the entries of a cache have names of their kinds, if
the full-text field and the registered fields do. Catalogs are not asked
for anything. -/
theorem wellNamed_run (hfull : EntryKind.static.admits fullText.name = true)
    (hregistered : ∀ f, Step.register f ∈ steps →
      EntryKind.dynamic.admits f.name = true) :
    ((new fullText maxChars).run steps).content.WellNamed where
  statics name hname := admits_of_mem_statics hfull hname
  dynamics name hname := by
    obtain ⟨f, hf, rfl⟩ := mem_keys_dynamics.1 hname
    exact hregistered f hf
  sources key hkey := by
    obtain ⟨copy, hcopy, rfl⟩ := List.mem_map.1 hkey
    have hsource := List.mem_map_of_mem (f := CopyField.source) hcopy
    rw [(Follows.run fullText maxChars steps).sources] at hsource
    exact EntryKind.blank_notMem_of_admits
      (admits_of_mem_given (mem_of_mem_firsts hsource))

-- ============================================================ coherence

/-- How a cache keeps its fields and copy fields: fields under their own
names and none twice, the full-text field first, copy fields told apart
by their names and alike in the rest, and one copy field for each static
field beside the full-text field. -/
structure IsCoherent (fullText : Field) (maxChars : Json) (c : Cache) :
    Prop where
  static_names : c.content.statics.keys
    = c.content.statics.values.map Field.name
  statics_nodup : (c.content.statics.values.map Field.name).Nodup
  dynamic_names : c.content.dynamics.keys
    = c.content.dynamics.values.map Field.name
  dynamics_nodup : (c.content.dynamics.values.map Field.name).Nodup
  first : c.content.statics.values.head? = some fullText
  copies_nodup : (c.content.copies.map CopyField.key).Nodup
  copies : ∀ copy ∈ c.content.copies,
    copy.dest = fullText ∧ maxChars = .int copy.maxChars
  copied : ∀ name, name ∈ c.content.statics.keys ↔
    name = fullText.name
      ∨ ∃ copy ∈ c.content.copies, copy.source.name = name

/-- A cache that holds what its history tells keeps its fields and copy
fields as it should. -/
theorem Follows.isCoherent (h : Follows fullText maxChars steps c)
    (hn : c.IsNamed) : c.IsCoherent fullText maxChars where
  static_names := hn.statics.map_name_values.symm
  statics_nodup := by
    rw [h.statics]
    exact nodup_keys_firsts _
  dynamic_names := hn.dynamics.map_name_values.symm
  dynamics_nodup := by
    rw [h.dynamics]
    exact nodup_keys_firsts _
  first := by
    rw [h.statics, firsts_cons]
    rfl
  copies_nodup := h.nodup_copyKeys
  copies := by
    intro copy hcopy
    rw [h.copies] at hcopy
    exact of_mem_givenCopies (mem_of_mem_firsts hcopy)
  copied := by
    intro name
    have hsources : (∃ copy ∈ c.content.copies, copy.source.name = name)
        ↔ name ∈ (c.content.copies.map CopyField.source).map
          Field.name := by
      rw [List.map_map, List.mem_map]
      rfl
    rw [hsources, h.sources, mem_keys_firsts, ← hn.statics.map_name_values,
      h.statics, mem_keys_firsts, List.map_cons, List.mem_cons]

/-- After any history a cache keeps its fields and copy fields as it
should, whatever the catalogs and the registered fields are: names and
keys are distinct and stand for what is under them, the full-text field
comes first, all copy fields lead to it with one limit, and their sources
have the names of the static fields, where only that of the full-text
field need not be among them. -/
theorem isCoherent_run (fullText : Field) (maxChars : Json)
    (steps : List Step) :
    ((new fullText maxChars).run steps).IsCoherent fullText maxChars :=
  (Follows.run fullText maxChars steps).isCoherent
    (isNamed_run fullText maxChars steps)

-- ============================================================== sources

/-- Every copy field starts from a field that is defined as the static
field of its name. -/
def StartsFromStatics (c : Cache) : Prop :=
  ∀ copy ∈ c.content.copies, ∃ f,
    c.content.statics.get? copy.source.name = some f
      ∧ f.SameAs copy.source

namespace Follows

/-- The copy fields start from the fields that look-ups among the fields
given find: from the first that was given under each name, and from no
other. -/
theorem exists_copy_iff (h : Follows fullText maxChars steps c)
    {f : Field} :
    (∃ copy ∈ c.content.copies, copy.source = f) ↔
      firstNamed? (given fullText maxChars steps) f.name = some f := by
  have hfirst : firstNamed? (given fullText maxChars steps) f.name
      = firstNamed? (firsts Field.name (given fullText maxChars steps))
        f.name := (find?_firsts _ fun key => key == f.name).symm
  rw [hfirst, firstNamed?_eq_some (nodup_keys_firsts _), ← h.sources,
    and_iff_left rfl, List.mem_map]

/-- Under every name but that of the full-text field, copy fields start
from the static field itself, for both are the first that was given. -/
theorem get?_source (h : Follows fullText maxChars steps c)
    (hn : Named c.content.statics) {copy : CopyField}
    (hcopy : copy ∈ c.content.copies)
    (hname : copy.source.name ≠ fullText.name) :
    c.content.statics.get? copy.source.name = some copy.source := by
  rw [h.get?_statics hn, firstNamed?_cons_of_ne hname.symm]
  exact h.exists_copy_iff.1 ⟨copy, hcopy, rfl⟩

/-- Under its own name, the full-text field is the static field, whatever
the catalogs gave under that name. -/
theorem get?_fullText (h : Follows fullText maxChars steps c)
    (hn : Named c.content.statics) :
    c.content.statics.get? fullText.name = some fullText := by
  rw [h.get?_statics hn, firstNamed?_cons_self]

/-- All copy fields start from static fields exactly if the first field
that was given under the name of the full-text field, if any, is defined
as that is. -/
theorem startsFromStatics_iff (h : Follows fullText maxChars steps c)
    (hn : Named c.content.statics) :
    c.StartsFromStatics ↔
      ∀ f, firstNamed? (given fullText maxChars steps) fullText.name
          = some f → fullText.SameAs f := by
  constructor
  · intro hstarts f hf
    have hname : f.name = fullText.name := by
      simpa using List.find?_some hf
    rw [← hname] at hf
    obtain ⟨copy, hcopy, rfl⟩ := h.exists_copy_iff.2 hf
    obtain ⟨g, hg, hsame⟩ := hstarts copy hcopy
    rw [hname, h.get?_fullText hn] at hg
    injection hg with hg
    rw [hg]
    exact hsame
  · intro hsame copy hcopy
    by_cases hname : copy.source.name = fullText.name
    · have hf := h.exists_copy_iff.1 ⟨copy, hcopy, rfl⟩
      rw [hname] at hf ⊢
      exact ⟨fullText, h.get?_fullText hn, hsame _ hf⟩
    · exact ⟨copy.source, h.get?_source hn hcopy hname, rfl,
        fun _ => rfl⟩

end Follows

/-- After any history, copy fields start from the static fields of their
names, those under the full-text field's name apart; and all of them do
if, and only if, the first field that the catalogs gave under that name,
if any, is defined as the full-text field is. -/
theorem startsFromStatics_run_iff (fullText : Field) (maxChars : Json)
    (steps : List Step) :
    let c := (new fullText maxChars).run steps
    (∀ copy ∈ c.content.copies, copy.source.name ≠ fullText.name →
      c.content.statics.get? copy.source.name = some copy.source)
      ∧ (c.StartsFromStatics ↔
        ∀ f, firstNamed? (given fullText maxChars steps) fullText.name
            = some f → fullText.SameAs f) := by
  intro c
  have h : Follows fullText maxChars steps c :=
    Follows.run fullText maxChars steps
  have hn := (isNamed_run fullText maxChars steps).statics
  exact ⟨fun _ hcopy hname => h.get?_source hn hcopy hname,
    h.startsFromStatics_iff hn⟩

/-- A cache loaded from a catalog with a text field under the name of the
full-text field. -/
def ownName : Cache :=
  (new usualFullText (.int defaultMaxChars)).run
    [.load (.listed [⟨"_text_", .text, false⟩])]

/-- That text field is copied into the full-text field, yet the name means
the full-text field, which has another type. -/
theorem not_startsFromStatics_ownName : ¬ ownName.StartsFromStatics := by
  intro h
  have hsources : (ownName.content.copies.map fun copy =>
      (copy.source.name, copy.source.type.name))
        = [("_text_", "text_en")] := by
    decide +kernel
  have hstatic : ((ownName.content.statics.get? "_text_").map fun f =>
      f.type.name) = some "text_general" := by
    decide +kernel
  obtain ⟨copy, hcopy, hsource⟩ := List.mem_map.1
    (hsources ▸ List.mem_singleton_self ("_text_", "text_en"))
  obtain ⟨hname, htype⟩ := Prod.mk.inj hsource
  obtain ⟨f, hf, hsame, -⟩ := h copy hcopy
  rw [hname] at hf
  rw [hf, Option.map_some, Option.some.injEq, hsame, htype] at hstatic
  exact absurd hstatic (by decide)

end Cache

end SchemaAudit
