/-
Destinations that several copy fields feed. A destination is known by
its name, and copy fields may disagree on what stands behind it: some
take it for a field of one value, others for one of several. It is to be
reported as soon as two copy fields name it and any of them takes it for
a field of one value (`AreOverfed`).

The report is exact on every list of copy fields (`fanIns_exact`): one
message for each such name, with the number of all copy fields that name
it, in the order in which they are first met, and none alike.

# Order

The walk reports a destination at the first copy field that takes it for
a field of one value, and remembers it from then on. So the order of the
report is that of these places in the list (`firstSingle`), which is
shown by induction along the walk with the names it has seen
(`inOrder_fanInsFrom`). As places are distinct, no name comes twice.

# Wording

Names may hold anything, quotes and blanks included, and still no two
messages are alike: a quoted text can be read back up to its closing
quote, so the wording tells its destination
(`FanIn.dest_eq_of_message_eq`).
-/
import SchemaAudit.Proofs.CopyField
import SchemaAudit.Proofs.Quoted

namespace SchemaAudit

-- ========================================================= destinations

/-- The names of the destinations, one for each copy field. -/
def destNames (cs : List CopyField) : List String :=
  cs.map fun c => c.dest.name

/-- Whether a copy field feeds a destination of a name and takes it for
one of a single value. -/
def CopyField.feedsSingle (dest : String) (c : CopyField) : Bool :=
  c.dest.name == dest && !c.dest.isMultivalued

/-- Where the first copy field stands that feeds a destination of a name
and takes it for one of a single value. -/
def firstSingle (cs : List CopyField) (dest : String) : Nat :=
  cs.findIdx (CopyField.feedsSingle dest)

/-- The names of destinations that are fed too much: two copy fields or
more name them, and one at least takes them for fields of a single value.
They stand in the order in which that is first met, so that none comes
twice. -/
structure AreOverfed (cs : List CopyField) (dests : List String) :
    Prop where
  mem_iff : ∀ d, d ∈ dests ↔
    2 ≤ (destNames cs).count d
      ∧ ∃ c ∈ cs, c.dest.name = d ∧ c.dest.isMultivalued = false
  inOrder : dests.Pairwise fun d e => firstSingle cs d < firstSingle cs e

/-- No name of an overfed destination comes twice, since no two of them
are first met at one place. -/
theorem AreOverfed.nodup {cs : List CopyField} {dests : List String}
    (h : AreOverfed cs dests) : dests.Nodup := by
  refine h.inOrder.imp ?_
  intro d e hlt heq
  rw [heq] at hlt
  exact Nat.lt_irrefl _ hlt

/-- When a copy field feeds a destination of a name as one of a single
value. -/
theorem CopyField.feedsSingle_iff {dest : String} {c : CopyField} :
    c.feedsSingle dest = true ↔
      c.dest.name = dest ∧ c.dest.isMultivalued = false := by
  unfold feedsSingle
  rw [Bool.and_eq_true, beq_iff_eq, Bool.not_eq_true']

/-- How many copy fields feed a destination is how often it is named,
whatever they take it for. -/
theorem fanInCount_eq_count (cs : List CopyField) (dest : String) :
    fanInCount cs dest = (destNames cs).count dest := by
  unfold fanInCount destNames
  rw [List.count_eq_countP, List.countP_map]
  rfl

-- ============================================================ the order

/-- A destination is first met at the copy field that feeds it as one of a
single value. -/
theorem firstSingle_cons_self {c : CopyField} {dest : String}
    (h : c.feedsSingle dest = true) (cs : List CopyField) :
    firstSingle (c :: cs) dest = 0 := by
  unfold firstSingle
  rw [List.findIdx_cons, h]
  rfl

/-- Behind a copy field that does not, a destination is met one place
later. -/
theorem firstSingle_cons_of_not {c : CopyField} {dest : String}
    (h : c.feedsSingle dest = false) (cs : List CopyField) :
    firstSingle (c :: cs) dest = firstSingle cs dest + 1 := by
  unfold firstSingle
  rw [List.findIdx_cons, h]
  rfl

/-- A walk reports destinations in the order in which it meets copy fields
that take them for fields of one value: what it passes over at a copy
field is no destination that it reports later. -/
theorem inOrder_fanInsFrom (all cs : List CopyField)
    (seen : List String) :
    ((fanInsFrom all seen cs).map FanIn.dest).Pairwise
      fun d e => firstSingle cs d < firstSingle cs e := by
  induction cs generalizing seen with
  | nil => exact List.Pairwise.nil
  | cons c rest ih =>
      -- behind a copy field that tells nothing on them, they stand one on
      have hshift : ∀ seen,
          (∀ d ∈ (fanInsFrom all seen rest).map FanIn.dest,
            c.feedsSingle d = false) →
          ((fanInsFrom all seen rest).map FanIn.dest).Pairwise
            fun d e => firstSingle (c :: rest) d
              < firstSingle (c :: rest) e := by
        intro seen hnot
        refine (ih seen).imp_of_mem fun hd he hlt => ?_
        rw [firstSingle_cons_of_not (hnot _ hd),
          firstSingle_cons_of_not (hnot _ he)]
        exact Nat.succ_lt_succ hlt
      -- what is reported was not passed over before, and is fed twice at
      -- least
      have hreported : ∀ seen,
          ∀ d ∈ (fanInsFrom all seen rest).map FanIn.dest,
            d ∉ seen ∧ 2 ≤ fanInCount all d := by
        intro seen d hd
        obtain ⟨f, hf, rfl⟩ := List.mem_map.1 hd
        obtain ⟨hseen, hcount, htwo, -⟩ := mem_fanInsFrom.1 hf
        exact ⟨hseen, hcount ▸ htwo⟩
      unfold fanInsFrom
      simp only
      split
      case isTrue h =>
          -- no destination reported behind it is fed singly by this copy
          -- field, for then this one would not be passed over
          refine hshift seen fun d hd => ?_
          obtain ⟨hseen, htwo⟩ := hreported seen d hd
          rw [← Bool.not_eq_true, CopyField.feedsSingle_iff]
          intro hsingle
          obtain ⟨rfl, hmulti⟩ := hsingle
          simp only [hmulti, Bool.or_eq_true, List.contains_iff_mem,
            decide_eq_true_eq, Bool.false_eq_true, or_false] at h
          rcases h with h | h
          · exact hseen h
          · omega
      case isFalse h =>
          simp only [Bool.or_eq_true, not_or, Bool.not_eq_true] at h
          -- this copy field is the first to feed its destination singly, and
          -- every other destination is first met behind it
          have hsingle : c.feedsSingle c.dest.name = true :=
            CopyField.feedsSingle_iff.2 ⟨rfl, h.2⟩
          have hnot : ∀ d ∈ (fanInsFrom all (c.dest.name :: seen)
              rest).map FanIn.dest, c.feedsSingle d = false := by
            intro d hd
            obtain ⟨hseen, -⟩ := hreported _ d hd
            rw [← Bool.not_eq_true, CopyField.feedsSingle_iff]
            intro hsingle
            exact hseen (hsingle.1 ▸ List.mem_cons_self ..)
          rw [List.map_cons, List.pairwise_cons]
          refine ⟨fun d hd => ?_, hshift _ hnot⟩
          rw [firstSingle_cons_self hsingle,
            firstSingle_cons_of_not (hnot d hd)]
          exact Nat.succ_pos _

/-- The destinations reported are those that are fed too much, in order.
Which they are was told before; the order is what is new here. -/
theorem areOverfed_fanIns (cs : List CopyField) :
    AreOverfed cs ((fanIns cs).map FanIn.dest) where
  mem_iff d := by
    rw [← fanInCount_eq_count, List.mem_map]
    constructor
    · intro h
      obtain ⟨f, hf, rfl⟩ := h
      obtain ⟨hcount, htwo, hsingle⟩ := mem_fanIns.1 hf
      exact ⟨hcount ▸ htwo, hsingle⟩
    · intro h
      obtain ⟨htwo, hsingle⟩ := h
      exact ⟨⟨d, fanInCount cs d⟩, mem_fanIns.2 ⟨rfl, htwo, hsingle⟩, rfl⟩
  inOrder := inOrder_fanInsFrom cs cs []

-- ========================================================= the messages

/-- How the wording of a fan-in begins. -/
def fanInOpening (dest : String) : List Char :=
  "Dest ".toList ++ (Text.quoted dest).toList ++ " receives from ".toList

/-- A message begins with its opening, behind which stands the number. -/
theorem toList_message (f : FanIn) :
    ∃ rest, f.message.toList = fanInOpening f.dest ++ rest := by
  refine ⟨(toString f.count
    ++ " copy fields but is not multivalued").toList, ?_⟩
  unfold FanIn.message fanInOpening
  simp only [String.toList_append, List.append_assoc]

/-- The wording of a fan-in tells its destination: of two texts that begin
with openings, equal ones have one destination. -/
theorem eq_of_fanInOpening_append {dest dest' : String}
    {rest rest' : List Char}
    (h : fanInOpening dest ++ rest = fanInOpening dest' ++ rest') :
    dest = dest' := by
  unfold fanInOpening at h
  simp only [List.append_assoc] at h
  exact Text.eq_of_quoted_append (List.append_cancel_left h)

/-- No two destinations have one message. -/
theorem FanIn.dest_eq_of_message_eq {f g : FanIn}
    (h : f.message = g.message) : f.dest = g.dest := by
  obtain ⟨rest, hf⟩ := toList_message f
  obtain ⟨rest', hg⟩ := toList_message g
  rw [h, hg] at hf
  exact (eq_of_fanInOpening_append hf).symm

/-- Whatever the copy fields are, the messages on their destinations are
one for each name that two or more of them feed and one at least takes for
a field of a single value, with the number of all that feed it, in the
order in which that is first met. No two messages are alike, and with the
copy fields in another order they are the same, in another order. -/
theorem fanIns_exact (cs : List CopyField) :
    (∃ dests, AreOverfed cs dests ∧ dests.Nodup
        ∧ (fanIns cs).map FanIn.message
          = dests.map fun d => "Dest " ++ Text.quoted d
              ++ " receives from " ++ toString ((destNames cs).count d)
              ++ " copy fields but is not multivalued")
      ∧ ((fanIns cs).map FanIn.message).Nodup
      ∧ ∀ ds, cs.Perm ds →
        ((fanIns cs).map FanIn.message).Perm
          ((fanIns ds).map FanIn.message) := by
  have hover := areOverfed_fanIns cs
  refine ⟨⟨_, hover, hover.nodup, ?_⟩, ?_, fun ds h => ?_⟩
  · rw [List.map_map]
    refine List.map_congr_left fun f hf => ?_
    obtain ⟨hcount, -⟩ := mem_fanIns.1 hf
    show f.message = _
    rw [Function.comp_apply, ← fanInCount_eq_count, ← hcount]
    rfl
  · -- messages of two destinations differ, and no destination comes twice
    have hdests := hover.nodup
    unfold List.Nodup at hdests ⊢
    rw [List.pairwise_map] at hdests ⊢
    exact hdests.imp fun hne heq => hne (FanIn.dest_eq_of_message_eq heq)
  · exact (fanIns_perm h).map _

/-- Copy fields that disagree on a destination, and two that are alike. -/
def CopyField.disagreeing : List CopyField :=
  let field (name : String) (preset : Preset) : Field :=
    ⟨.static, name, FieldType.textEn, Table.ofList preset.settings⟩
  let title := field "title" .storedIndexed
  let copy (dest : Field) : CopyField := ⟨title, dest, defaultMaxChars⟩
  [copy (field "notes" .storedIndexedMultivalued),
    copy (field "summary" .storedIndexed),
    copy (field "notes" .storedIndexed),
    copy (field "all" .storedIndexedMultivalued),
    copy (field "summary" .storedIndexed),
    copy (field "all" .storedIndexedMultivalued),
    copy (field "notes" .storedIndexedMultivalued)]

/-- Three copy fields disagree on one destination, two agree on another
that holds one value, and two on a third that holds several: the first two
destinations are reported, each with the number of all that feed it, and
the third is not. -/
theorem fanIns_exact_disagreeing :
    (fanIns CopyField.disagreeing).map FanIn.message
        = ["Dest 'summary' receives from 2 copy fields but is not multivalued",
          "Dest 'notes' receives from 3 copy fields but is not multivalued"]
      ∧ ((fanIns CopyField.disagreeing).map FanIn.message).Perm
          ((fanIns CopyField.disagreeing.reverse).map FanIn.message) := by
  obtain ⟨-, -, hperm⟩ := fanIns_exact CopyField.disagreeing
  exact ⟨by decide +kernel, hperm _ (List.reverse_perm _).symm⟩

end SchemaAudit
