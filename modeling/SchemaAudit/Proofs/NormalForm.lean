/-
What was read is in normal form. Written to the wire in its order and
read again, a schema comes back as it is, to the order of the settings
of every field: the flags that reading fills in are there already
(`completed_of_ofWire`), so that reading leaves them in their places,
and a copy field that was accepted is accepted once more between the
same fields, since each of these is what its own name means
(`eq_name_of_resolveReference`).

The second reading finds nothing to complain about (`parse_written`).

# The normal form

`Settled` says what a table of fields is like that was read: each stands
under its own name, is of one kind and of a type of the catalog, and has
its flags filled in. It stands in the middle between two halves. What
was read is settled (`settled_of_haveTexts`, or `settled_of_written` if
one only knows that it can be written), and what is settled is written
and read again as it is (`Settled.reread`).

# Texts

An integer with too many digits has no text. A value that holds one can
neither be written nor be read from a body, so `HaveTexts` asks for none
in the entries that convert; entries that do not convert may hold
anything.
-/
import SchemaAudit.Proofs.Reference
import SchemaAudit.Proofs.RoundTrip

namespace SchemaAudit

open Outcome

-- ============================================================== fields

/-- A field that was read has its flags filled in, and filling them in
once more changes nothing, not even their order. -/
theorem Field.completed_of_ofWire {kind : FieldKind} {raw : RawEntry}
    {f : Field} (h : Field.ofWire kind raw = .ok f) : f.completed = f := by
  obtain ⟨type, given, s, -, -, -, -, -, rfl⟩ := Field.ofWire_eq_ok.1 h
  unfold Field.completed
  rw [Table.putAll_entries_putAll]

/-- The properties of a field that was read, in order: its name, its type,
the flags that may be left out, and then what else it sets. -/
theorem Field.keys_of_ofWire {kind : FieldKind} {raw : RawEntry}
    {f : Field} (h : Field.ofWire kind raw = .ok f) :
    ∃ others, f.properties.map Prod.fst
      = .name :: .type
        :: ((Field.presumed f.type).map Prod.fst ++ others) := by
  obtain ⟨type, given, s, -, -, -, -, -, rfl⟩ := Field.ofWire_eq_ok.1 h
  obtain ⟨others, hothers⟩ :=
    Table.keys_prefix_putAll (Table.ofList (Field.presumed type))
      (Table.ofList given).entries
  have hpresumed : (Table.ofList (Field.presumed type)).keys
      = (Field.presumed type).map Prod.fst := by
    unfold Table.keys
    rw [Table.entries_ofList (Field.nodup_presumed type)]
  refine ⟨others, ?_⟩
  show Property.name :: Property.type
    :: ((Table.ofList (Field.presumed type)).putAll
      (Table.ofList given).entries).keys = _
  rw [← hothers, hpresumed]

/-- Every value in an entry that converts has a text. All values of a JSON
text have one: an integer of more than 4300 digits, which has none, is
refused there. -/
def HaveTexts (kind : FieldKind) (entries : List RawEntry) : Prop :=
  ∀ raw ∈ entries, ∀ f, Field.ofWire kind raw = .ok f →
    ∀ e ∈ raw, e.2.HasText

/-- Fields under their own names that are just as they are read: of one
kind, and with their flags filled in. -/
structure Settled (kind : FieldKind) (t : Table String Field) : Prop where
  named : Named t
  standard : ∀ f ∈ t.values, f.IsStandard kind
  completed : ∀ f ∈ t.values, f.completed = f

section

variable {kind : FieldKind} {t : Table String Field}
variable {entries : List RawEntry}

/-- The fields of a section are settled if they are well-formed; all else
about them follows from their having been read. -/
theorem settled_of_wellFormed
    (h : ∀ f ∈ (readFieldsOnto kind Table.empty entries).1.values,
      f.WellFormed) :
    Settled kind (readFieldsOnto kind Table.empty entries).1 where
  named := named_readFieldsOnto kind entries
  standard := by
    intro f hf
    obtain ⟨raw, -, hread⟩ := exists_entry_of_mem_values hf
    obtain ⟨hkind, htype, -⟩ := Field.of_ofWire hread
    exact ⟨hkind, h f hf, htype⟩
  completed := by
    intro f hf
    obtain ⟨raw, -, hread⟩ := exists_entry_of_mem_values hf
    exact Field.completed_of_ofWire hread

/-- The fields of a section are settled if the entries that convert have
texts. -/
theorem settled_of_haveTexts (h : HaveTexts kind entries) :
    Settled kind (readFieldsOnto kind Table.empty entries).1 := by
  apply settled_of_wellFormed
  intro f hf
  obtain ⟨raw, hraw, hread⟩ := exists_entry_of_mem_values hf
  exact Field.wellFormed_of_ofWire hread (h raw hraw f hread)

/-- The fields of a section are settled if they can be written, since a
field with a text out of reach cannot. -/
theorem settled_of_written {ws : List RawEntry}
    (h : (readFieldsOnto kind Table.empty entries).1.values.mapM
      Field.toWire = .ok ws) :
    Settled kind (readFieldsOnto kind Table.empty entries).1 := by
  apply settled_of_wellFormed
  intro f hf
  obtain ⟨raw, -, hread⟩ := exists_entry_of_mem_values hf
  obtain ⟨w, -, hw⟩ := exists_of_forall₂ (mapM_eq_ok.1 h).flip hf
  exact Field.wellFormed_of_toWire hread hw

/-- Settled fields can be written, because their texts are canonical. -/
theorem Settled.exists_written (h : Settled kind t) :
    ∃ ws, t.values.mapM Field.toWire = .ok ws := by
  obtain ⟨ws, hws, -⟩ := SchemaAudit.exists_written h.standard
  exact ⟨ws, hws⟩

/-- Settled fields are written each under its name, and reading them again
in their order gives them back without a finding. -/
theorem Settled.reread (h : Settled kind t) {ws : List RawEntry}
    (hws : t.values.mapM Field.toWire = .ok ws) :
    (∀ raw ∈ ws, ∃ f ∈ t.values, rawValue .name raw = .str f.name)
      ∧ readFieldsOnto kind Table.empty ws = (t, []) := by
  obtain ⟨ws', hws', hR⟩ := SchemaAudit.exists_written h.standard
  obtain rfl : ws' = ws := Except.ok.inj (hws'.symm.trans hws)
  -- settled fields are complete, so nothing is filled in on the way back
  have hconverted : converted kind ws' = t.values := by
    rw [converted_of_forall₂ (hR.imp fun _ _ hw => hw.2)]
    exact (List.map_congr_left h.completed).trans (List.map_id _)
  have hnodup : ((converted kind ws').map Field.name).Nodup := by
    rw [hconverted, h.named.map_name_values]
    exact t.nodup_keys
  obtain ⟨hentries, hfindings⟩ := readFieldsOnto_empty hnodup
  refine ⟨fun raw hraw => ?_, Prod.ext ?_ ?_⟩
  · obtain ⟨f, hf, hname, -⟩ := exists_of_forall₂ hR hraw
    exact ⟨f, hf, hname⟩
  · apply Table.ext_entries
    rw [hentries, hconverted]
    unfold Table.values
    rw [List.map_map]
    refine (List.map_congr_left fun e he => ?_).trans (List.map_id _)
    show (e.2.name, e.2) = e
    rw [h.named e.1 e.2 (t.mem_entries.1 he)]
  · rw [hfindings, List.filterMap_eq_nil_iff]
    intro raw hraw
    obtain ⟨f, -, -, hread⟩ := exists_of_forall₂ hR hraw
    exact refusal?_eq_none.2 ⟨_, hread⟩

end

-- ========================================================= copy fields

section

variable {statics dynamics : Table String Field}

/-- A copy field that was accepted, once written, is accepted as it is:
its ends have the names of the fields that were meant, and these mean the
same fields again. -/
theorem copyOutcome_toWire_of_accepted {raw : RawEntry} {c : CopyField}
    (hs : Named statics) (hd : Named dynamics)
    (h : copyOutcome statics dynamics raw = .ok c) :
    copyOutcome statics dynamics c.toWire = .ok c := by
  obtain ⟨-, s, d, hsource, hdest, hc⟩ := copyOutcome_eq_ok.1 h
  obtain ⟨limit, -, hc⟩ := bind_eq_ok.1 hc
  obtain ⟨-, -, n, hn, rfl⟩ := CopyField.ofFields_eq_ok.1 hc
  obtain ⟨-, hlimit⟩ := CopyField.limit_eq_ok.1 hn
  rw [eq_name_of_resolveReference hs hd hsource] at hsource
  rw [eq_name_of_resolveReference hs hd hdest] at hdest
  exact copyOutcome_toWire hsource hdest (hlimit ▸ hc)

/-- The copy fields of a section, written and read again between the same
fields, come back in their order and without a finding. -/
theorem reread_copies (hs : Named statics) (hd : Named dynamics)
    (entries : List RawEntry) :
    let copies := (readCopiesOnto statics dynamics [] entries).1
    readCopiesOnto statics dynamics [] (copies.map CopyField.toWire)
      = (copies, []) := by
  intro copies
  have hcopies : copies
      = Cache.addCopies [] (accepted statics dynamics entries) :=
    fst_readCopiesOnto ..
  -- each of them was accepted, and is so again from what is written
  have hagain : ∀ c ∈ copies,
      copyOutcome statics dynamics c.toWire = .ok c := by
    intro c hc
    rw [hcopies] at hc
    rcases Cache.mem_of_mem_addCopies hc with hc | hc
    · cases hc
    · obtain ⟨raw, -, hraw⟩ := mem_accepted.1 hc
      exact copyOutcome_toWire_of_accepted hs hd hraw
  -- none repeats another, so that all of them are added
  have hnodup : (copies.map CopyField.key).Nodup :=
    nodup_keys_readCopiesOnto ..
  have haccepted : accepted statics dynamics
      (copies.map CopyField.toWire) = copies := by
    unfold accepted
    rw [List.filterMap_map]
    refine (List.filterMap_congr fun c hc => ?_).trans List.filterMap_some
    show (copyOutcome statics dynamics c.toWire).toOption = some c
    rw [hagain c hc]
    rfl
  refine Prod.ext ?_ ?_
  · rw [fst_readCopiesOnto, haccepted]
    exact Cache.addCopies_eq_append hnodup fun _ _ => List.not_mem_nil
  · rw [snd_readCopiesOnto, List.flatMap_eq_nil_iff]
    intro raw hraw
    obtain ⟨c, hc, rfl⟩ := List.mem_map.1 hraw
    exact complaints_eq_nil.2 ⟨c, hagain c hc⟩

end

-- ============================================================= schemas

/-- A representation that lists the wire objects of a schema in its order.
What else it holds, like its version, does not matter. -/
structure Schema.IsWrittenAs (s : Schema) (r : Representation) :
    Prop where
  fields : s.statics.values.mapM Field.toWire = .ok r.fields
  dynamicFields : s.dynamics.values.mapM Field.toWire
    = .ok r.dynamicFields
  copyFields : r.copyFields = s.copies.map CopyField.toWire

namespace Representation

variable {r written : Representation}

/-- What is read as a field has a text for every value: no integer in it
is too long to be written. -/
structure HasTexts (r : Representation) : Prop where
  statics : HaveTexts .static r.fields
  dynamics : HaveTexts .dynamic r.managed

/-- What was read can be written, if every value that was read has a text.
-/
theorem HasTexts.exists_isWrittenAs (h : r.HasTexts) :
    ∃ written, r.live.IsWrittenAs written := by
  obtain ⟨ws, hws⟩ := (settled_of_haveTexts h.statics).exists_written
  obtain ⟨wd, hwd⟩ := (settled_of_haveTexts h.dynamics).exists_written
  exact ⟨{ r with
    fields := ws
    dynamicFields := wd
    copyFields := r.copies.map CopyField.toWire }, hws, hwd, rfl⟩

/-- What was read, written and read again, is what was read, and there is
nothing to complain about. No entry is for a stock template, since none
was read in the first place. -/
theorem reread (hw : r.live.IsWrittenAs written) :
    written.HasKeys ∧ written.live = r.live
      ∧ written.complaints = [] := by
  have hsettledS : Settled .static r.statics :=
    settled_of_written hw.fields
  have hsettledD : Settled .dynamic r.dynamics :=
    settled_of_written hw.dynamicFields
  obtain ⟨-, hreadS⟩ := hsettledS.reread hw.fields
  obtain ⟨hnamesD, hreadD⟩ := hsettledD.reread hw.dynamicFields
  -- what was read has no stock name, and neither has what is written of it
  have hmanaged : written.managed = written.dynamicFields :=
    filter_isManaged_eq_self (fun _ => notMem_stockTemplates) hnamesD
  rw [← hmanaged] at hreadD
  obtain ⟨hfstS, hquietS⟩ := Prod.ext_iff.1 hreadS
  obtain ⟨hfstD, hquietD⟩ := Prod.ext_iff.1 hreadD
  have hstatics : written.statics = r.statics := hfstS
  have hdynamics : written.dynamics = r.dynamics := hfstD
  -- copy fields are read against the fields, and these are what they were
  have hreadC : readCopiesOnto written.statics written.dynamics []
      written.copyFields = (r.copies, []) := by
    rw [hstatics, hdynamics, hw.copyFields]
    exact reread_copies hsettledS.named hsettledD.named r.copyFields
  obtain ⟨hfstC, hquietC⟩ := Prod.ext_iff.1 hreadC
  have hcopies : written.copies = r.copies := hfstC
  refine ⟨fun raw hraw => ?_, ?_, ?_⟩
  · obtain ⟨f, -, hname⟩ := hnamesD raw hraw
    rw [hname]
    exact Json.checkKey_eq_ok.1 rfl
  · unfold live
    rw [hstatics, hdynamics, hcopies]
  · unfold complaints
    rw [hquietS, hquietD, hquietC]
    rfl

/-- The properties of every field that is read stand in the usual
order. -/
theorem keys_of_mem_live {f : Field}
    (hf : f ∈ r.live.statics.values ++ r.live.dynamics.values) :
    ∃ others, f.properties.map Prod.fst
      = .name :: .type
        :: ((Field.presumed f.type).map Prod.fst ++ others) := by
  rcases List.mem_append.1 hf with hf | hf
  · obtain ⟨raw, -, hread⟩ := exists_entry_of_mem_values hf
    exact Field.keys_of_ofWire hread
  · obtain ⟨raw, -, hread⟩ := exists_entry_of_mem_values hf
    exact Field.keys_of_ofWire hread

end Representation

/-- To read is to bring into normal form. The properties of every field
that was read stand in one order; what was read can be written if every
value has a text; and wherever it is written in its order, it is read as
it was - the same fields in the same order, with the same settings in the
same order, and the same copy fields - and the report stays without a
finding. -/
theorem parse_written {c d : Checker} {r : Representation}
    {live : Schema} {report : Report}
    (h : (c.parse r).value = .ok (live, report)) :
    (∀ f ∈ live.statics.values ++ live.dynamics.values, ∃ others,
        f.properties.map Prod.fst = .name :: .type
          :: ((Field.presumed f.type).map Prod.fst ++ others))
      ∧ (r.HasTexts → ∃ written, live.IsWrittenAs written)
      ∧ ∀ written, live.IsWrittenAs written →
        (d.parse written).value
          = .ok (live, Report.new d.collection) := by
  obtain ⟨-, hresult⟩ := Checker.parse_eq_ok.1 h
  obtain ⟨rfl, -⟩ := Prod.mk.inj hresult
  refine ⟨fun f => Representation.keys_of_mem_live,
    fun htexts => htexts.exists_isWrittenAs, fun written hw => ?_⟩
  obtain ⟨hkeys, hlive, hcomplaints⟩ := Representation.reread hw
  rw [Checker.parse_of_hasKeys hkeys, hlive, hcomplaints]
  rfl

/-- The sample is read, what was read can be written, and wherever it is
written it is read again. -/
theorem parse_written_sample :
    Representation.sample.HasTexts
      ∧ (∃ written, Representation.sample.live.IsWrittenAs written)
      ∧ ∀ written, Representation.sample.live.IsWrittenAs written →
        (Checker.sample.parse written).value
          = .ok (Representation.sample.live,
            Report.new Checker.sample.collection) := by
  have htexts : Representation.sample.HasTexts := by
    refine ⟨fun raw hraw _ _ => ?_, fun raw hraw _ _ => ?_⟩
    · have hall : ∀ raw ∈ Representation.sample.fields, ∀ e ∈ raw,
          e.2.HasText := by decide
      exact hall raw hraw
    · have hall : ∀ raw ∈ Representation.sample.managed, ∀ e ∈ raw,
          e.2.HasText := by decide
      exact hall raw hraw
  have hread := Checker.parse_of_hasKeys (c := Checker.sample)
    Representation.hasKeys_sample
  obtain ⟨-, hwritten, hagain⟩ :=
    parse_written (d := Checker.sample) hread
  exact ⟨htexts, hwritten htexts, hagain⟩

end SchemaAudit
