/-
Complete differences. Only the properties that one of two fields sets
are looked at, and still no difference in effect goes unnoticed: what
both leave open comes from their types and from the engine, and types of
the catalog with one name are one type
(`effective_eq_of_notMem_settled`).

# Agreement

There is no difference exactly if all is the same in effect
(`differences_eq_nil`). So not to differ is an equivalence, although it
is computed from two lists of settings that may look quite unlike.

# What is told

Otherwise the differences are those in effect, in ascending order of the
keys, each told apart from the others by its wording
(`differences_tell`). The properties that differ are named first
(`differing`), and the differences are a map over them; their order is
that of all properties by key, of which they are a part. Two wordings
are compared through their first word, the key of the property, since no
key holds a blank.

Of two fields whose types have different names, the types are told
first, and then some of the properties: those that neither of the fields
sets are not looked at, whatever the two types make of them.
-/
import SchemaAudit.Difference
import SchemaAudit.Proofs.Field.Wire
import SchemaAudit.Proofs.Names
import SchemaAudit.Proofs.Sorted

namespace SchemaAudit

-- =============================================================== wording

/-- No key holds a blank, so the key in front of a wording ends at its
first blank. -/
theorem Property.blank_notMem_key (p : Property) : ' ' ∉ p.key.toList := by
  cases p <;> decide

namespace Difference

/-- The property that a difference is in. -/
def property : Difference → Property
  | .type _ _ => .type
  | .value p _ _ => p

/-- The wording of a difference begins with the key of its property and a
blank. -/
theorem exists_message_eq (d : Difference) :
    ∃ rest, d.message.toList = d.property.key.toList ++ ' ' :: rest := by
  cases d with
  | type expected found =>
      refine ⟨("expected " ++ Text.quoted expected ++ ", found "
        ++ Text.quoted found).toList, ?_⟩
      unfold message property
      simp [Property.key]
  | value p expected found =>
      refine ⟨("expected " ++ valueText expected ++ ", found "
        ++ valueText found).toList, ?_⟩
      unfold message property
      simp

theorem property_eq_of_message_eq {d d' : Difference}
    (h : d.message = d'.message) : d.property = d'.property := by
  obtain ⟨rest, hrest⟩ := d.exists_message_eq
  obtain ⟨rest', hrest'⟩ := d'.exists_message_eq
  rw [← String.toList_inj, hrest, hrest'] at h
  obtain ⟨hkey, -⟩ := eq_of_append_cons_eq d.property.blank_notMem_key
    d'.property.blank_notMem_key h
  exact Property.key_injective (String.toList_inj.1 hkey)

end Difference

/-- Properties whose keys ascend, so that none comes twice. -/
def Property.Ascending (ps : List Property) : Prop :=
  ps.Pairwise fun p q => p.key < q.key

/-- The keys of properties are distinct, so their order is strictly
ascending. -/
theorem Property.ascending_byKey : Ascending byKey :=
  pairwise_lt_mergeSort (by decide)

namespace Field

-- ============================================================ in effect

/-- A property that a field does not set takes the value of its type or
the one the engine assumes. -/
theorem effective_of_not_sets {f : Field} {p : Property}
    (hn : p ≠ .name) (ht : p ≠ .type) (h : f.sets p = false) :
    f.effective p = (f.type.get? p).or p.assumed? := by
  have hget : f.get? p = none := by
    unfold sets at h
    simpa [hn, ht] using h
  unfold effective
  rw [hget]
  rfl

/-- The properties looked at are those that one of the fields sets. -/
theorem mem_settled {e l : Field} {p : Property} :
    p ∈ settled e l ↔ e.sets p = true ∨ l.sets p = true := by
  unfold settled
  rw [List.mem_filter, Bool.or_eq_true]
  exact and_iff_right (Property.mem_byKey p)

/-- No difference is told in a property exactly if its two values in
effect are one. -/
theorem difference?_eq_none {e l : Field} {p : Property} :
    difference? e l p = none ↔ e.effective p = l.effective p := by
  unfold difference?
  split
  case isTrue h => exact iff_of_true rfl h
  case isFalse h => simp [h]

/-- What two fields of one type of the catalog leave open is the same in
effect. Here it matters that a name of the catalog means one type. -/
theorem effective_eq_of_notMem_settled {e l : Field}
    (he : e.type ∈ FieldType.catalog) (hl : l.type ∈ FieldType.catalog)
    (hname : e.type.name = l.type.name) {p : Property} (hn : p ≠ .name)
    (ht : p ≠ .type) (hp : p ∉ settled e l) :
    e.effective p = l.effective p := by
  rw [mem_settled, not_or, Bool.not_eq_true, Bool.not_eq_true] at hp
  rw [effective_of_not_sets hn ht hp.1, effective_of_not_sets hn ht hp.2,
    FieldType.eq_of_name_eq he hl hname]

/-- Neither the name nor the type is among what is set, so no property is
told twice. -/
theorem ne_of_mem_settled {e l : Field} {p : Property}
    (hp : p ∈ settled e l) : p ≠ .name ∧ p ≠ .type := by
  have hset : ∀ f : Field, f.sets p = true → p ≠ .name ∧ p ≠ .type := by
    intro f hf
    unfold sets at hf
    rw [decide_eq_true_eq] at hf
    exact ⟨hf.1, hf.2.1⟩
  rcases mem_settled.1 hp with h | h
  · exact hset e h
  · exact hset l h

/-- Two fields with types of the catalog do not differ exactly if they
have one type and one value in effect for every property but the name. -/
theorem differences_eq_nil {e l : Field} (he : e.type ∈ FieldType.catalog)
    (hl : l.type ∈ FieldType.catalog) :
    e.differences l = [] ↔
      e.type.name = l.type.name
        ∧ ∀ p, p ≠ .name → e.effective p = l.effective p := by
  unfold differences
  rw [List.append_eq_nil_iff, List.filterMap_eq_nil_iff]
  constructor
  · intro h
    obtain ⟨htype, hvalues⟩ := h
    have hname : e.type.name = l.type.name := by
      by_contra hne
      rw [if_neg hne] at htype
      cases htype
    refine ⟨hname, fun p hn => ?_⟩
    by_cases ht : p = .type
    · subst ht
      show some e.type.name = some l.type.name
      rw [hname]
    -- a property that neither field sets has the value of the type
    by_cases hp : p ∈ settled e l
    · exact difference?_eq_none.1 (hvalues p hp)
    · exact effective_eq_of_notMem_settled he hl hname hn ht hp
  · intro h
    obtain ⟨hname, hvalues⟩ := h
    exact ⟨if_pos hname, fun p hp =>
      difference?_eq_none.2 (hvalues p (ne_of_mem_settled hp).1)⟩

-- ======================================================== what is told

/-- The difference of two fields in the value of a property. -/
def valueDifference (e l : Field) (p : Property) : Difference :=
  .value p (e.effective p) (l.effective p)

/-- The properties that two fields set to different effect, in ascending
order of their keys. -/
def differing (e l : Field) : List Property :=
  (settled e l).filter fun p => e.effective p ≠ l.effective p

/-- The properties that differ are those that are set and have two values
in effect. -/
theorem mem_differing {e l : Field} {p : Property} :
    p ∈ differing e l ↔
      p ∈ settled e l ∧ e.effective p ≠ l.effective p := by
  unfold differing
  rw [List.mem_filter, decide_eq_true_eq]

/-- Each property that differs is told once, in their order, and no other.
-/
theorem filterMap_difference? (e l : Field) :
    (settled e l).filterMap (difference? e l)
      = (differing e l).map (valueDifference e l) := by
  unfold differing
  induction settled e l with
  | nil => rfl
  | cons p rest ih =>
      by_cases h : e.effective p = l.effective p
      · have hnone : difference? e l p = none := if_pos h
        rw [List.filterMap_cons_none hnone, ih,
          List.filter_cons_of_neg (by simpa using h)]
      · have hsome : difference? e l p = some (valueDifference e l p) :=
          if_neg h
        rw [List.filterMap_cons_some hsome, ih,
          List.filter_cons_of_pos (by simpa using h), List.map_cons]

/-- A property beside name and type that two fields have with two values
in effect. -/
def DiffersIn (e l : Field) (p : Property) : Prop :=
  p ≠ .name ∧ p ≠ .type ∧ e.effective p ≠ l.effective p

/-- A property that is told does have two values in effect, whatever the
types of the fields are. -/
theorem differsIn_of_mem_differing {e l : Field} {p : Property}
    (hp : p ∈ differing e l) : e.DiffersIn l p := by
  obtain ⟨hset, hne⟩ := mem_differing.1 hp
  obtain ⟨hn, ht⟩ := ne_of_mem_settled hset
  exact ⟨hn, ht, hne⟩

/-- Between fields of one type no property with two values is missed: one
that neither field sets has one value. -/
theorem mem_differing_iff {e l : Field} (he : e.type ∈ FieldType.catalog)
    (hl : l.type ∈ FieldType.catalog) (hname : e.type.name = l.type.name)
    {p : Property} : p ∈ differing e l ↔ e.DiffersIn l p := by
  refine ⟨differsIn_of_mem_differing, fun h => ?_⟩
  obtain ⟨hn, ht, hne⟩ := h
  refine mem_differing.2 ⟨?_, hne⟩
  by_contra hp
  exact hne (effective_eq_of_notMem_settled he hl hname hn ht hp)

/-- The properties that differ stand in ascending order of their keys, as
part of all properties in that order. -/
theorem ascending_differing (e l : Field) :
    Property.Ascending (differing e l) :=
  (Property.ascending_byKey.filter _).filter _

/-- No two differences of two fields have one wording, since no two are in
one property. -/
theorem nodup_messages (e l : Field) :
    ((e.differences l).map Difference.message).Nodup := by
  have hproperty : ∀ ps : List Property,
      (ps.map (valueDifference e l)).map Difference.property = ps := by
    intro ps
    rw [List.map_map]
    exact List.map_id ps
  have hdistinct : (differing e l).Nodup := by
    refine (ascending_differing e l).imp fun h heq => ?_
    rw [heq] at h
    exact String.lt_irrefl _ h
  -- differences are in distinct properties, and a wording tells the property
  have hproperties :
      ((e.differences l).map Difference.property).Nodup := by
    unfold differences
    rw [filterMap_difference?]
    by_cases hname : e.type.name = l.type.name
    · rw [if_pos hname, List.nil_append, hproperty]
      exact hdistinct
    · rw [if_neg hname, List.singleton_append, List.map_cons, hproperty,
        List.nodup_cons]
      refine ⟨fun h => ?_, hdistinct⟩
      exact (differsIn_of_mem_differing h).2.1 rfl
  refine List.pairwise_map.2 ((List.pairwise_map.1 hproperties).imp ?_)
  intro d d' hne hmessage
  exact hne (Difference.property_eq_of_message_eq hmessage)

/-- Two fields with types of the catalog differ in what they differ in
effect. There is no difference exactly if every property but the name has
one value in effect. Fields of one type name differ in exactly the
properties with two values, in ascending order of their keys; of fields of
two type names the types are told first, and then only properties that do
have two values. No two differences are worded alike. Not to differ is
reflexive, symmetric and transitive. -/
theorem differences_tell {e l : Field} (he : e.type ∈ FieldType.catalog)
    (hl : l.type ∈ FieldType.catalog) :
    (e.differences l = []
        ↔ ∀ p, p ≠ .name → e.effective p = l.effective p)
      ∧ (e.type.name = l.type.name →
        ∃ ps, e.differences l = ps.map (valueDifference e l)
          ∧ Property.Ascending ps ∧ ∀ p, p ∈ ps ↔ e.DiffersIn l p)
      ∧ (e.type.name ≠ l.type.name →
        ∃ ps, e.differences l
            = .type e.type.name l.type.name
              :: ps.map (valueDifference e l)
          ∧ Property.Ascending ps ∧ ∀ p ∈ ps, e.DiffersIn l p)
      ∧ ((e.differences l).map Difference.message).Nodup
      ∧ e.differences e = []
      ∧ (e.differences l = [] → l.differences e = [])
      ∧ ∀ m : Field, m.type ∈ FieldType.catalog →
        e.differences l = [] → l.differences m = [] →
          e.differences m = [] := by
  -- the type is a value in effect like others, so its name need not be told
  -- apart; from here on the laws are those of equality
  have hnil : ∀ {a b : Field}, a.type ∈ FieldType.catalog →
      b.type ∈ FieldType.catalog →
      (a.differences b = []
        ↔ ∀ p, p ≠ .name → a.effective p = b.effective p) := by
    intro a b ha hb
    rw [differences_eq_nil ha hb]
    refine and_iff_right_of_imp fun h => ?_
    exact Option.some.inj (h .type (by decide))
  refine ⟨hnil he hl, fun hname => ?_, fun hname => ?_,
    nodup_messages e l, (hnil he he).2 fun _ _ => rfl, fun h => ?_,
    fun m hm h h' => ?_⟩
  · refine ⟨differing e l, ?_, ascending_differing e l,
      fun p => mem_differing_iff he hl hname⟩
    unfold differences
    rw [if_pos hname, List.nil_append, filterMap_difference?]
  · refine ⟨differing e l, ?_, ascending_differing e l,
      fun p => differsIn_of_mem_differing⟩
    unfold differences
    rw [if_neg hname, List.singleton_append, filterMap_difference?]
  · exact (hnil hl he).2 fun p hp => ((hnil he hl).1 h p hp).symm
  · exact (hnil he hm).2 fun p hp =>
      ((hnil he hl).1 h p hp).trans ((hnil hl hm).1 h' p hp)

/-- A field of text of several values that sets nothing itself. -/
def openTexts : Field :=
  ⟨.static, "tags", FieldType.textGeneral, Table.empty⟩

/-- A field of the same type that holds one value and is not stored. -/
def singleText : Field :=
  ⟨.static, "tags", FieldType.textGeneral,
    Table.ofList [(.stored, "false"), (.multiValued, "false")]⟩

/-- A field that sets nothing and one that holds a single value and is not
stored: the two flags are told, and the third, which neither of them sets,
is not. -/
theorem differences_tell_texts :
    openTexts.type ∈ FieldType.catalog
      ∧ singleText.type ∈ FieldType.catalog
      ∧ ∃ ps, openTexts.differences singleText
          = ps.map (valueDifference openTexts singleText)
        ∧ Property.Ascending ps
        ∧ .multiValued ∈ ps ∧ .stored ∈ ps ∧ .indexed ∉ ps := by
  have htype : FieldType.textGeneral ∈ FieldType.catalog := by
    simp [FieldType.catalog]
  obtain ⟨ps, hps, hascending, hmem⟩ :=
    (differences_tell (e := openTexts) (l := singleText) htype
      htype).2.1 rfl
  have hdiffers : openTexts.DiffersIn singleText .multiValued
      ∧ openTexts.DiffersIn singleText .stored
      ∧ ¬ openTexts.DiffersIn singleText .indexed := by
    unfold DiffersIn
    decide +kernel
  obtain ⟨hmultiValued, hstored, hindexed⟩ := hdiffers
  exact ⟨htype, htype, ps, hps, hascending, (hmem _).2 hmultiValued,
    (hmem _).2 hstored, fun h => hindexed ((hmem _).1 h)⟩

end Field

end SchemaAudit
