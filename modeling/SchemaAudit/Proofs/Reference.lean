/-
What a name means. An exact name wins, a static field before a dynamic
one; a name of neither map that templates catch means what the longest
of them gives for it, a static field that is built like any other and
has all of the template in effect; and any other name, as any value that
is no string, means nothing (`resolveReference_means`).

# The order does not matter

None of this depends on the order of the fields. Exact names are looked
up, and look-ups know no order. Among templates that catch one name
there is only one of each length: a template is a star and its ending,
and two endings of one name that are equally long are the same
(`eq_of_catches`). So the longest is one, and in whatever order the
templates are tried, it is found.

# The field that a template gives

The field is made for the name without a check, and a field made by the
builder would be the same (`make_instantiate`): the settings of a
well-formed template are canonical and free of name and type, so that
the builder cannot refuse them. `IsInstance` says what such a field is
in terms of the builder and of what is in effect, and not of how it is
made.
-/
import SchemaAudit.Proofs.Live.Fields
import SchemaAudit.Reference

namespace SchemaAudit

namespace Field

-- =========================================================== the longest

/-- There is no longest name exactly where there is no field. -/
theorem longest?_eq_none {fs : List Field} :
    longest? fs = none ↔ fs = [] := by
  cases fs with
  | nil => exact iff_of_true rfl rfl
  | cons f rest =>
      refine iff_of_false ?_ (List.cons_ne_nil _ _)
      unfold longest?
      cases longest? rest with
      | none => simp
      | some g =>
          simp only
          split
          · simp
          · simp

/-- The first of the longest is one of the fields, and none has a longer
name. Where two are equally long, the statement does not tell which it is.
-/
theorem longest?_eq_some {fs : List Field} {f : Field}
    (h : longest? fs = some f) :
    f ∈ fs ∧ ∀ g ∈ fs, g.name.length ≤ f.name.length := by
  induction fs generalizing f with
  | nil => cases h
  | cons d rest ih =>
      unfold longest? at h
      cases hr : longest? rest with
      | none =>
          rw [hr] at h
          injection h with h
          subst h
          have hnil := longest?_eq_none.1 hr
          subst hnil
          refine ⟨List.mem_cons_self .., fun g hg => ?_⟩
          have hgd := List.mem_singleton.1 hg
          subst hgd
          exact Nat.le_refl _
      | some g =>
          obtain ⟨hg, hmax⟩ := ih hr
          rw [hr] at h
          simp only at h
          -- the first field stays if the longest of the others is no longer
          split at h
          case isTrue hlt =>
              injection h with h
              subst h
              refine ⟨List.mem_cons_of_mem _ hg, fun e he => ?_⟩
              rcases List.mem_cons.1 he with rfl | he
              · exact Nat.le_of_lt hlt
              · exact hmax e he
          case isFalse hle =>
              injection h with h
              subst h
              refine ⟨List.mem_cons_self .., fun e he => ?_⟩
              rcases List.mem_cons.1 he with rfl | he
              · exact Nat.le_refl _
              · exact Nat.le_trans (hmax e he) (Nat.not_lt.1 hle)

/-- Where no two fields have names of one length, the order does not
matter to which name is the longest, since nothing has to be said about
ties. -/
theorem longest?_eq_of_perm {fs gs : List Field} (hp : fs.Perm gs)
    (hu : ∀ f ∈ fs, ∀ g ∈ fs, f.name.length = g.name.length → f = g) :
    longest? fs = longest? gs := by
  cases hf : longest? fs with
  | none =>
      rw [longest?_eq_none] at hf
      subst hf
      rw [hp.nil_eq.symm]
      rfl
  | some f =>
      obtain ⟨hmem, hmax⟩ := longest?_eq_some hf
      cases hg : longest? gs with
      | none =>
          rw [longest?_eq_none] at hg
          subst hg
          rw [hp.eq_nil] at hmem
          cases hmem
      | some g =>
          obtain ⟨hmem', hmax'⟩ := longest?_eq_some hg
          have hg' : g ∈ fs := hp.mem_iff.2 hmem'
          -- each is a longest of the same fields
          have hlen : f.name.length = g.name.length :=
            Nat.le_antisymm (hmax' f (hp.mem_iff.1 hmem)) (hmax g hg')
          rw [hu f hmem g hg' hlen]

-- ========================================================= the templates

/-- The name of a template is a star and the ending it catches, since the
rule of its kind asks for the star. -/
theorem toList_name_of_admits {f : Field}
    (h : EntryKind.dynamic.admits f.name = true) :
    f.name.toList = '*' :: f.ending := by
  unfold EntryKind.admits at h
  simp only at h
  unfold ending
  unfold SchemaAudit.isWildcard at h
  split at h
  · rename_i c rest heq
    rw [heq]
    rfl
  · cases h

/-- Two templates that catch one name and have names of one length have
the same name: their endings are endings of one text, and equally long. -/
theorem eq_of_catches {f g : Field} {name : String}
    (hf : EntryKind.dynamic.admits f.name = true)
    (hg : EntryKind.dynamic.admits g.name = true)
    (hcf : f.catches name = true) (hcg : g.catches name = true)
    (hlen : f.name.length = g.name.length) : f.name = g.name := by
  have hnf := toList_name_of_admits hf
  have hng := toList_name_of_admits hg
  unfold catches at hcf hcg
  rw [Bool.and_eq_true, List.isSuffixOf_iff_suffix] at hcf hcg
  have hends : f.ending.length = g.ending.length := by
    have hl := hlen
    rw [← String.length_toList, ← String.length_toList, hnf, hng,
      List.length_cons, List.length_cons] at hl
    omega
  have hsuffix : f.ending <:+ g.ending :=
    List.suffix_of_suffix_length_le hcf.2 hcg.2 (Nat.le_of_eq hends)
  rw [← String.toList_inj, hnf, hng, hsuffix.eq_of_length hends]

end Field

-- ============================================================ resolution

section

variable {statics statics' dynamics dynamics' : Table String Field}

/-- What a template gives for a name has that name, and not the name of
the template. -/
theorem name_of_caught? {name : String} {f : Field}
    (h : caught? dynamics name = some f) : f.name = name := by
  unfold caught? at h
  split at h
  case isTrue =>
      obtain ⟨template, -, rfl⟩ := Option.map_eq_some_iff.1 h
      rfl
  case isFalse => cases h

/-- A name means a field of that name, whichever of the three ways leads
to it. -/
theorem name_of_fieldNamed? (hs : Named statics) (hd : Named dynamics)
    {name : String} {f : Field}
    (h : fieldNamed? statics dynamics name = some f) : f.name = name := by
  rcases Option.or_eq_some_iff.1 h with h | ⟨-, h⟩
  · rcases Option.or_eq_some_iff.1 h with h | ⟨-, h⟩
    · exact hs name f h
    · exact hd name f h
  · exact name_of_caught? h

/-- The end of a copy field means what its name means, and a value that is
no string means nothing. -/
theorem resolveReference_eq_ok {role : String} {value : Json} {f : Field} :
    resolveReference role value statics dynamics = .ok f ↔
      ∃ name, value = .str name
        ∧ fieldNamed? statics dynamics name = some f := by
  have hmeans : resolveReference role value statics dynamics = .ok f ↔
      value.str?.bind (fieldNamed? statics dynamics) = some f := by
    unfold resolveReference
    cases value.str?.bind (fieldNamed? statics dynamics) <;> simp
  rw [hmeans, Option.bind_eq_some_iff]
  exact exists_congr fun name => and_congr_left' Json.str?_eq_some

/-- What the end of a copy field means depends on the static fields only
as far as one has its name. Others may come and go. -/
theorem resolveReference_congr {role : String} {value : Json}
    (h : ∀ name, value = .str name →
      statics.get? name = statics'.get? name) :
    resolveReference role value statics dynamics
      = resolveReference role value statics' dynamics := by
  have hmeans : value.str?.bind (fieldNamed? statics dynamics)
      = value.str?.bind (fieldNamed? statics' dynamics) := by
    cases value with
    | str name =>
        show fieldNamed? statics dynamics name
          = fieldNamed? statics' dynamics name
        unfold fieldNamed?
        rw [h name rfl]
    | _ => rfl
  unfold resolveReference
  rw [hmeans]

/-- Only its own name means a field, so that the end of a copy field can
be written back as the name of the field found. -/
theorem eq_name_of_resolveReference {role : String} {value : Json}
    {f : Field} (hs : Named statics) (hd : Named dynamics)
    (h : resolveReference role value statics dynamics = .ok f) :
    value = .str f.name := by
  obtain ⟨name, hvalue, hname⟩ := resolveReference_eq_ok.1 h
  rw [name_of_fieldNamed? hs hd hname]
  exact hvalue

/-- What a name means has a name that fits its kind, if the fields of both
maps do. -/
theorem admits_name_of_fieldNamed? (hs : Named statics)
    (hd : Named dynamics)
    (hstatics : ∀ name ∈ statics.keys,
      EntryKind.static.admits name = true)
    (hdynamics : ∀ name ∈ dynamics.keys,
      EntryKind.dynamic.admits name = true) {name : String} {f : Field}
    (h : fieldNamed? statics dynamics name = some f) :
    ∃ kind : EntryKind, kind.admits f.name = true := by
  rw [name_of_fieldNamed? hs hd h]
  rcases Option.or_eq_some_iff.1 h with h | ⟨-, h⟩
  · rcases Option.or_eq_some_iff.1 h with h | ⟨-, h⟩
    · exact ⟨.static, hstatics name ((Table.mem_keys _).2 ⟨f, h⟩)⟩
    · exact ⟨.dynamic, hdynamics name ((Table.mem_keys _).2 ⟨f, h⟩)⟩
  · unfold caught? at h
    split at h
    case isTrue hname => exact ⟨.static, hname⟩
    case isFalse => cases h

/-- Of the templates that catch one name there is only one of each length.
Being equal in name they are equal as fields, since a map has one field
under a name. -/
theorem eq_of_mem_of_catches (hnamed : Named dynamics)
    (hadmits : ∀ f ∈ dynamics.values,
      EntryKind.dynamic.admits f.name = true)
    {f g : Field} {name : String} (hf : f ∈ dynamics.values)
    (hg : g ∈ dynamics.values) (hcf : f.catches name = true)
    (hcg : g.catches name = true)
    (hlen : f.name.length = g.name.length) : f = g := by
  have hname : f.name = g.name := Field.eq_of_catches
    (hadmits f hf) (hadmits g hg) hcf hcg hlen
  -- under one name there is one field
  obtain ⟨k, hk⟩ := (Table.mem_values _).1 hf
  obtain ⟨j, hj⟩ := (Table.mem_values _).1 hg
  rw [← hnamed k f hk, hname, hnamed j g hj, hj] at hk
  injection hk with hk
  exact hk.symm

/-- The order of the templates does not matter to what they give for a
name: those that catch it are the same, and so is the longest. -/
theorem caught?_eq_of_perm
    (hp : dynamics.entries.Perm dynamics'.entries)
    (hnamed : Named dynamics)
    (hadmits : ∀ f ∈ dynamics.values,
      EntryKind.dynamic.admits f.name = true) (name : String) :
    caught? dynamics name = caught? dynamics' name := by
  have hlongest := Field.longest?_eq_of_perm
    ((Table.values_perm hp).filter fun t => t.catches name) (by
      intro f hf g hg hlen
      obtain ⟨hf, hcf⟩ := List.mem_filter.1 hf
      obtain ⟨hg, hcg⟩ := List.mem_filter.1 hg
      exact eq_of_mem_of_catches hnamed hadmits hf hg hcf hcg hlen)
  unfold caught?
  rw [hlongest]

/-- The order of the fields does not matter to what a name means, in
either of the maps. -/
theorem resolveReference_eq_of_perm
    (hs : statics.entries.Perm statics'.entries)
    (hd : dynamics.entries.Perm dynamics'.entries)
    (hnamed : Named dynamics)
    (hadmits : ∀ f ∈ dynamics.values,
      EntryKind.dynamic.admits f.name = true) (role : String)
    (name : Json) :
    resolveReference role name statics dynamics
      = resolveReference role name statics' dynamics' := by
  have hmeans : fieldNamed? statics dynamics
      = fieldNamed? statics' dynamics' := by
    funext s
    unfold fieldNamed?
    rw [Table.get?_eq_of_perm hs, Table.get?_eq_of_perm hd,
      caught?_eq_of_perm hd hnamed hadmits]
  unfold resolveReference
  rw [hmeans]

end

-- ========================================================= the instances

namespace Field

/-- A field that a template gives for a name: static, of that name, built
from the type and the settings of the template, and with all in effect
that the template has in effect. -/
structure IsInstance (f template : Field) (name : String) : Prop where
  kind_eq : f.kind = .static
  name_eq : f.name = name
  built : make .static (.str name) template.type
    (some (Overlay.ofTexts template.settings.entries)) = .ok f
  effective : ∀ p, p ≠ .name → f.effective p = template.effective p

/-- Building the field that a well-formed template gives for a name never
fails, and gives the template under that name. -/
theorem make_instantiate {template : Field} (h : template.WellFormed)
    {name : String} (hname : EntryKind.static.admits name = true) :
    make .static (.str name) template.type
        (some (Overlay.ofTexts template.settings.entries))
      = .ok (template.instantiate name) := by
  rw [make_settings h.canonical h.unnamed h.untyped]
  exact Outcome.bind_eq_ok.2 ⟨name, EntryKind.name_eq_ok.2 ⟨rfl, hname⟩, rfl⟩

/-- The template under another name is what the builder makes of its
settings, and has the same in effect. -/
theorem isInstance_instantiate {template : Field}
    (h : template.WellFormed) {name : String}
    (hname : EntryKind.static.admits name = true) :
    (template.instantiate name).IsInstance template name where
  kind_eq := rfl
  name_eq := rfl
  built := make_instantiate h hname
  effective p hp := by
    by_cases ht : p = .type
    · subst ht
      rfl
    · unfold effective
      rw [get?_of_ne _ hp ht, get?_of_ne _ hp ht]
      rfl

/-- A template catches the names that have its ending and something in
front of it; the ending alone is not caught. -/
theorem catches_iff {template : Field} {name : String} :
    template.catches name = true ↔
      ∃ front, front ≠ [] ∧ name.toList = front ++ template.ending := by
  unfold catches
  rw [Bool.and_eq_true, decide_eq_true_eq, List.isSuffixOf_iff_suffix,
    ← String.length_toList]
  constructor
  · intro h
    obtain ⟨hlt, front, hfront⟩ := h
    refine ⟨front, fun hnil => ?_, hfront.symm⟩
    rw [← hfront, hnil, List.nil_append] at hlt
    exact Nat.lt_irrefl _ hlt
  · intro h
    obtain ⟨front, hne, hfront⟩ := h
    refine ⟨?_, front, hfront.symm⟩
    have hpos := List.length_pos_iff.2 hne
    rw [hfront, List.length_append]
    omega

/-- The template of a map that is used for a name: its ending is a proper
ending of the name, and every other template of which that is so is
shorter. -/
structure IsLongestFor (template : Field) (dynamics : Table String Field)
    (name : String) : Prop where
  mem : template ∈ dynamics.values
  ending : ∃ front, front ≠ [] ∧ name.toList = front ++ template.ending
  longest : ∀ other ∈ dynamics.values, other ≠ template →
    (∃ front, front ≠ [] ∧ name.toList = front ++ other.ending) →
    other.name.length < template.name.length

end Field

-- ========================================================= what is meant

/-- What a name means among the fields of two maps. The cases exclude each
other: a template has a say only about names that are in neither map, and
only if a static field may have the name. -/
inductive Means (statics dynamics : Table String Field) (name : String) :
    Field → Prop where
  | static {f : Field} (h : statics.get? name = some f) :
      Means statics dynamics name f
  | dynamic {f : Field} (hs : name ∉ statics.keys)
      (h : dynamics.get? name = some f) : Means statics dynamics name f
  | template {f template : Field} (hs : name ∉ statics.keys)
      (hd : name ∉ dynamics.keys)
      (hname : EntryKind.static.admits name = true)
      (ht : template.IsLongestFor dynamics name)
      (hf : f.IsInstance template name) : Means statics dynamics name f

/-- A name that means nothing: it is in neither map, and no static field
can have it or no template catches it. -/
structure MeansNothing (statics dynamics : Table String Field)
    (name : String) : Prop where
  notStatic : name ∉ statics.keys
  notDynamic : name ∉ dynamics.keys
  notCaught : EntryKind.static.admits name = false
    ∨ ∀ template ∈ dynamics.values, template.catches name = false

section

variable {statics dynamics : Table String Field} {name : String}

/-- What templates give for a name is an instance of the longest, provided
that a static field may have the name. -/
theorem caught?_eq_some (hnamed : Named dynamics)
    (hwf : ∀ t ∈ dynamics.values, t.WellFormed)
    (hadmits : ∀ t ∈ dynamics.values,
      EntryKind.dynamic.admits t.name = true) {f : Field} :
    caught? dynamics name = some f ↔
      EntryKind.static.admits name = true
        ∧ ∃ t, t.IsLongestFor dynamics name ∧ f.IsInstance t name := by
  unfold caught?
  constructor
  · intro h
    split at h
    case isFalse => cases h
    case isTrue hname =>
        obtain ⟨t, ht, rfl⟩ := Option.map_eq_some_iff.1 h
        obtain ⟨hmem, hmax⟩ := Field.longest?_eq_some ht
        obtain ⟨hmem, hcatches⟩ := List.mem_filter.1 hmem
        refine ⟨hname, t, ⟨hmem, Field.catches_iff.1 hcatches, ?_⟩,
          Field.isInstance_instantiate (hwf t hmem) hname⟩
        -- another template is no longer than this, and of this length it
        -- would be this
        intro other hother hne hends
        have hcaught := Field.catches_iff.2 hends
        have hle := hmax other (List.mem_filter.2 ⟨hother, hcaught⟩)
        have hlen : other.name.length ≠ t.name.length := fun hlen =>
          hne (eq_of_mem_of_catches hnamed hadmits hother hmem hcaught
            hcatches hlen)
        omega
  · intro h
    obtain ⟨hname, t, ht, hf⟩ := h
    have hfilter : t ∈ dynamics.values.filter fun g => g.catches name :=
      List.mem_filter.2 ⟨ht.mem, Field.catches_iff.2 ht.ending⟩
    rw [if_pos hname]
    cases hlongest : Field.longest?
        (dynamics.values.filter fun g => g.catches name) with
    | none =>
        rw [Field.longest?_eq_none.1 hlongest] at hfilter
        cases hfilter
    | some g =>
        obtain ⟨hg, hmax⟩ := Field.longest?_eq_some hlongest
        obtain ⟨hg, hcatches⟩ := List.mem_filter.1 hg
        have hle := hmax t hfilter
        -- the longest found is the one given, since any other is shorter
        have hgt : g = t := by
          by_contra hne
          have hlt := ht.longest g hg hne (Field.catches_iff.1 hcatches)
          omega
        -- an instance is what the builder makes, and that is the template
        -- under the other name
        have hbuilt := hf.built
        rw [Field.make_instantiate (hwf t ht.mem) hname] at hbuilt
        injection hbuilt with hbuilt
        rw [hgt, ← hbuilt]
        rfl

/-- Templates give nothing for a name that no static field can have, or
that none of them catches. -/
theorem caught?_eq_none :
    caught? dynamics name = none ↔
      EntryKind.static.admits name = false
        ∨ ∀ t ∈ dynamics.values, t.catches name = false := by
  unfold caught?
  split
  case isFalse h =>
      rw [Bool.not_eq_true] at h
      exact iff_of_true rfl (Or.inl h)
  case isTrue h =>
      rw [Option.map_eq_none_iff, Field.longest?_eq_none,
        List.filter_eq_nil_iff, h]
      simp

/-- The field that a name means, by look-up: first among the static
fields, then among the dynamic ones, then by the templates. -/
theorem fieldNamed?_eq_some (hnamed : Named dynamics)
    (hwf : ∀ t ∈ dynamics.values, t.WellFormed)
    (hadmits : ∀ t ∈ dynamics.values,
      EntryKind.dynamic.admits t.name = true) {f : Field} :
    fieldNamed? statics dynamics name = some f ↔
      Means statics dynamics name f := by
  unfold fieldNamed?
  rw [Option.or_eq_some_iff, Option.or_eq_some_iff, Option.or_eq_none_iff,
    Table.get?_eq_none, Table.get?_eq_none,
    caught?_eq_some hnamed hwf hadmits]
  constructor
  · intro h
    rcases h with (h | ⟨hs, h⟩) | ⟨⟨hs, hd⟩, hname, t, ht, hf⟩
    · exact .static h
    · exact .dynamic hs h
    · exact .template hs hd hname ht hf
  · intro h
    cases h with
    | static h => exact Or.inl (Or.inl h)
    | dynamic hs h => exact Or.inl (Or.inr ⟨hs, h⟩)
    | template hs hd hname ht hf =>
        exact Or.inr ⟨⟨hs, hd⟩, hname, _, ht, hf⟩

/-- By look-up a name means nothing exactly if all three ways fail. -/
theorem fieldNamed?_eq_none :
    fieldNamed? statics dynamics name = none ↔
      MeansNothing statics dynamics name := by
  unfold fieldNamed?
  rw [Option.or_eq_none_iff, Option.or_eq_none_iff, Table.get?_eq_none,
    Table.get?_eq_none, caught?_eq_none]
  constructor
  · intro h
    obtain ⟨⟨hs, hd⟩, hcaught⟩ := h
    exact ⟨hs, hd, hcaught⟩
  · intro h
    exact ⟨⟨h.notStatic, h.notDynamic⟩, h.notCaught⟩

/-- Among fields under their own names, the templates built or read as
such, the end of a copy field means what its name means, and only a string
is a name; it is unresolved, and nothing else, exactly if the name means
nothing. The order of the fields does not matter to this. -/
theorem resolveReference_means (hnamed : Named dynamics)
    (hmade : ∀ t ∈ dynamics.values, t.kind = .dynamic ∧ t.Made)
    (role : String) (value : Json) :
    (∀ f, resolveReference role value statics dynamics = .ok f ↔
        ∃ name, value = .str name ∧ Means statics dynamics name f)
      ∧ (∀ fault,
        resolveReference role value statics dynamics = .error fault ↔
          fault = .unresolved role value
            ∧ ((∀ name, value ≠ .str name)
              ∨ ∃ name, value = .str name
                ∧ MeansNothing statics dynamics name))
      ∧ ∀ statics' dynamics' : Table String Field,
        statics.entries.Perm statics'.entries →
        dynamics.entries.Perm dynamics'.entries →
        resolveReference role value statics' dynamics'
          = resolveReference role value statics dynamics := by
  have hwf : ∀ t ∈ dynamics.values, t.WellFormed := fun t ht =>
    (hmade t ht).2.wellFormed
  have hadmits : ∀ t ∈ dynamics.values,
      EntryKind.dynamic.admits t.name = true := by
    intro t ht
    have hadmitted := (hwf t ht).admitted
    rw [(hmade t ht).1] at hadmitted
    exact hadmitted
  refine ⟨fun f => ?_, fun fault => ?_, fun statics' dynamics' hs hd =>
    (resolveReference_eq_of_perm hs hd hnamed hadmits role value).symm⟩
  · rw [resolveReference_eq_ok]
    apply exists_congr
    intro name
    rw [fieldNamed?_eq_some hnamed hwf hadmits]
  · -- the only fault there is tells the role and the value
    have herror : resolveReference role value statics dynamics
          = .error fault ↔
        fault = .unresolved role value
          ∧ value.str?.bind (fieldNamed? statics dynamics) = none := by
      unfold resolveReference
      cases value.str?.bind (fieldNamed? statics dynamics) <;>
        simp [eq_comm]
    rw [herror]
    apply and_congr_right
    intro _
    cases value with
    | str name =>
        show fieldNamed? statics dynamics name = none ↔ _
        rw [fieldNamed?_eq_none]
        constructor
        · exact fun h => Or.inr ⟨name, rfl, h⟩
        · intro h
          rcases h with h | ⟨other, hother, h⟩
          · exact absurd rfl (h name)
          · injection hother with hother
            exact hother ▸ h
    | _ => exact iff_of_true rfl (Or.inl fun _ => Json.noConfusion)

end

/-- A template over English text, stored and indexed. -/
def Field.englishTemplate (name : String) : Field where
  kind := .dynamic
  name := name
  type := FieldType.textEn
  settings := Table.ofList Preset.storedIndexed.settings

/-- Such a template is built from its type and the preset, and so is made
like any other field. -/
theorem Field.made_englishTemplate {name : String}
    (h : EntryKind.dynamic.admits name = true) :
    (englishTemplate name).Made := by
  have hcanonical : ∀ e ∈ Preset.storedIndexed.settings,
      e.1.IsCanonical e.2 := by decide +kernel
  have hmake : make .dynamic (.str name) FieldType.textEn none
      = .ok (englishTemplate name) :=
    make_eq_ok.2 ⟨rfl, rfl, name, _, EntryKind.name_eq_ok.2 ⟨rfl, h⟩,
      Overlay.fill_ofTexts hcanonical, rfl⟩
  exact .built hmake (by decide)

/-- Two templates, the ending of one inside that of the other. -/
def nestedTemplates : Table String Field :=
  Table.ofList [("*_str", .englishTemplate "*_str"),
    ("*_x_str", .englishTemplate "*_x_str")]

/-- Of two templates that catch a name, the longer one is meant, although
the ending of the shorter is an ending of the name as well. -/
theorem resolveReference_means_nested :
    Named nestedTemplates
      ∧ (∀ t ∈ nestedTemplates.values, t.kind = .dynamic ∧ t.Made)
      ∧ ∃ f, resolveReference "dest" (.str "title_x_str") Table.empty
            nestedTemplates = .ok f
        ∧ f = (Field.englishTemplate "*_x_str").instantiate "title_x_str"
        ∧ Means Table.empty nestedTemplates "title_x_str" f := by
  have hnamed : Named nestedTemplates := by
    intro name f hf
    have hmem := (nestedTemplates.mem_entries).2 hf
    rcases List.mem_cons.1 hmem with h | h
    · cases h
      rfl
    · cases List.mem_singleton.1 h
      rfl
  have hmade : ∀ t ∈ nestedTemplates.values,
      t.kind = .dynamic ∧ t.Made := by
    intro t ht
    rcases List.mem_cons.1 ht with rfl | ht
    · exact ⟨rfl, Field.made_englishTemplate (by decide)⟩
    · rw [List.mem_singleton.1 ht]
      exact ⟨rfl, Field.made_englishTemplate (by decide)⟩
  have hresolve : resolveReference "dest" (.str "title_x_str") Table.empty
      nestedTemplates
        = .ok ((Field.englishTemplate "*_x_str").instantiate
          "title_x_str") := by
    with_unfolding_all rfl
  obtain ⟨name, hname, hmeans⟩ :=
    ((resolveReference_means hnamed hmade _ _).1 _).1 hresolve
  injection hname with hname
  exact ⟨hnamed, hmade, _, hresolve, rfl, hname ▸ hmeans⟩

end SchemaAudit
