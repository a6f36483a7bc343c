/-
Caches through their histories. A cache begins with its full-text field
and goes through loads, reloads and registrations; one that fails leaves
it as it is.

# Steps

A step is a load, a reload or a registration (`Step`), and `after` is
the cache behind it. `after_cases` says once what a single step can do:
nothing, add what a catalog gives, start afresh from it, or add a
dynamic field. Every invariant is proved along these cases, and
`run_preserves` lifts whatever every step keeps to a whole history.

# What is kept

Two things are kept by all of them. Fields stand under their own names
(`isNamed_run`), whatever was loaded or registered. And once the
full-text field and the registered fields are what they should be, so is
everything that the cache derives from its catalogs (`isSound_run`): no
catalog can give a field that is not well-formed or a copy that does not
end in the full-text field. To start afresh is to extend a new cache, so
that reloading needs no argument of its own.

What exactly a cache holds after a history is not told here but by
`Follows`.
-/
import SchemaAudit.Live
import SchemaAudit.Proofs.Expected.Building
import SchemaAudit.Proofs.Live.Copies
import SchemaAudit.Proofs.Live.Fields

namespace SchemaAudit

namespace Cache

-- ================================================================ steps

/-- What can be done to a cache: it is loaded or reloaded from whatever
catalog is behind it at the time, or a dynamic field is registered. -/
inductive Step where
  | load (catalog : Catalog)
  | reload (catalog : Catalog)
  | register (f : Field)

/-- A cache after a step. One that fails changes nothing. -/
def after (c : Cache) : Step → Cache
  | .load catalog => ((c.load catalog).value.toOption).getD c
  | .reload catalog => ((c.reload catalog).value.toOption).getD c
  | .register f => c.register f

/-- A cache after a history. -/
def run (c : Cache) (steps : List Step) : Cache := steps.foldl after c

/-- The last step of a history is taken on the cache that the steps before
it led to. -/
theorem run_concat (c : Cache) (steps : List Step) (s : Step) :
    c.run (steps ++ [s]) = (c.run steps).after s := by
  unfold run
  rw [List.foldl_append]
  rfl

/-- What a load gives: the cache extended by what the catalog gives, or
the fault of the catalog. -/
theorem value_load (c : Cache) (catalog : Catalog) :
    (c.load catalog).value
      = (catalog.yield c.fullText c.maxChars).map fun e =>
          c.extended e.1 e.2 := by
  unfold load
  rw [Logged.value_bind, value_build]
  cases catalog.yield c.fullText c.maxChars <;> rfl

/-- What a reload gives: the cache with what the catalog gives in place of
what it held, or the fault of the catalog. -/
theorem value_reload (c : Cache) (catalog : Catalog) :
    (c.reload catalog).value
      = (catalog.yield c.fullText c.maxChars).map fun e =>
          c.replaced e.1 e.2 := by
  unfold reload
  rw [Logged.value_bind, value_build]
  cases catalog.yield c.fullText c.maxChars <;> rfl

section

variable {c : Cache} {catalog : Catalog} {fault : BuildFault}
variable {fields : List Field} {copies : List CopyField}

/-- A load of a catalog that gives something extends the cache by it. -/
theorem after_load_of_ok
    (h : catalog.yield c.fullText c.maxChars = .ok (fields, copies)) :
    c.after (.load catalog) = c.extended fields copies := by
  show ((c.load catalog).value.toOption).getD c = _
  rw [value_load, h]
  rfl

theorem after_load_of_error
    (h : catalog.yield c.fullText c.maxChars = .error fault) :
    c.after (.load catalog) = c := by
  show ((c.load catalog).value.toOption).getD c = _
  rw [value_load, h]
  rfl

/-- A reload of a catalog that gives something puts it in place of what
was held. -/
theorem after_reload_of_ok
    (h : catalog.yield c.fullText c.maxChars = .ok (fields, copies)) :
    c.after (.reload catalog) = c.replaced fields copies := by
  show ((c.reload catalog).value.toOption).getD c = _
  rw [value_reload, h]
  rfl

theorem after_reload_of_error
    (h : catalog.yield c.fullText c.maxChars = .error fault) :
    c.after (.reload catalog) = c := by
  show ((c.reload catalog).value.toOption).getD c = _
  rw [value_reload, h]
  rfl

end

/-- What a step can do: nothing, add what a catalog holds, start afresh
from it, or add a dynamic field. Said once, so that no invariant has to
open a step again. -/
theorem after_cases (c : Cache) (s : Step) :
    c.after s = c
      ∨ (∃ (catalog : Catalog) (fields : List Field)
          (copies : List CopyField),
          catalog.yield c.fullText c.maxChars = .ok (fields, copies)
            ∧ (c.after s = c.extended fields copies
              ∨ c.after s = c.replaced fields copies))
      ∨ ∃ f, s = .register f ∧ c.after s = c.register f := by
  cases s with
  | load catalog =>
      cases hy : catalog.yield c.fullText c.maxChars with
      | error fault => exact Or.inl (after_load_of_error hy)
      | ok built =>
          exact Or.inr (Or.inl
            ⟨catalog, _, _, hy, Or.inl (after_load_of_ok hy)⟩)
  | reload catalog =>
      cases hy : catalog.yield c.fullText c.maxChars with
      | error fault => exact Or.inl (after_reload_of_error hy)
      | ok built =>
          exact Or.inr (Or.inl
            ⟨catalog, _, _, hy, Or.inr (after_reload_of_ok hy)⟩)
  | register f => exact Or.inr (Or.inr ⟨f, rfl, rfl⟩)

/-- What every step of a history keeps, the history keeps. Only the steps
of that history are asked for, which may be required to register proper
fields. -/
theorem run_preserves {P : Cache → Prop} {steps : List Step}
    (hstep : ∀ c, ∀ s ∈ steps, P c → P (c.after s)) {c : Cache}
    (hc : P c) : P (c.run steps) := by
  induction steps generalizing c with
  | nil => exact hc
  | cons s rest ih =>
      exact ih (fun c t ht => hstep c t (List.mem_cons_of_mem _ ht))
        (hstep c s (List.mem_cons_self ..) hc)

-- ============================================================ own names

/-- A field that is added under its own name leaves all fields under
theirs. -/
theorem named_insertNew {t : Table String Field} (ht : Named t)
    (f : Field) : Named (t.insertNew f.name f) :=
  named_addFields ht [f]

/-- The table of the full-text field alone has it under its own name. -/
theorem named_seed (fullText : Field) : Named (seed fullText) :=
  named_insertNew named_empty fullText

/-- The fields of a cache stand under their own names. Nothing in a table
demands it; it is how the cache writes to its tables. -/
structure IsNamed (c : Cache) : Prop where
  statics : Named c.content.statics
  dynamics : Named c.content.dynamics

/-- No step puts a field under a name that is not its own. -/
theorem isNamed_after {c : Cache} (hc : c.IsNamed) (s : Step) :
    (c.after s).IsNamed := by
  rcases after_cases c s with h | ⟨_, fields, copies, -, h | h⟩ | ⟨f, -, h⟩
  · rw [h]
    exact hc
  · rw [h]
    exact ⟨named_addFields hc.statics fields, hc.dynamics⟩
  · rw [h]
    exact ⟨named_addFields (named_seed _) fields, hc.dynamics⟩
  · rw [h]
    exact ⟨hc.statics, named_insertNew hc.dynamics f⟩

/-- After any history the fields of a cache stand under their own names,
whatever the full-text field is and whatever was registered. -/
theorem isNamed_run (fullText : Field) (maxChars : Json)
    (steps : List Step) : ((new fullText maxChars).run steps).IsNamed :=
  run_preserves (P := IsNamed) (fun _ s _ hc => isNamed_after hc s)
    ⟨named_seed fullText, named_empty⟩

/-- The full-text field stays, since no step touches it. -/
theorem fullText_run (fullText : Field) (maxChars : Json)
    (steps : List Step) :
    ((new fullText maxChars).run steps).fullText = fullText := by
  refine run_preserves (P := fun c => c.fullText = fullText)
    (fun c s _ hc => ?_) rfl
  rcases after_cases c s with h | ⟨_, fields, copies, -, h | h⟩ | ⟨f, -, h⟩
  · rw [h, hc]
  · rw [h]
    exact hc
  · rw [h]
    exact hc
  · rw [h]
    exact hc

-- ============================================================= soundness

/-- What holds of a cache that was given proper fields: the full-text
field stays, every field is as it should be, and every copy field takes
from a static field into the full-text field, under a key of its own. -/
structure IsSound (c : Cache) : Prop where
  fullText : c.content.statics.get? c.fullText.name = some c.fullText
  statics : ∀ f ∈ c.content.statics.values, f.IsStandard .static
  dynamics : ∀ f ∈ c.content.dynamics.values,
    f.IsStandard .dynamic ∧ f.name ∉ stockTemplates
  keys : (c.content.copies.map CopyField.key).Nodup
  copies : ∀ copy ∈ c.content.copies,
    copy.source.name ∈ c.content.statics.keys
      ∧ copy.dest = c.fullText ∧ 1 ≤ copy.maxChars

/-- A new cache with a proper full-text field is sound: there is nothing
else in it. -/
theorem isSound_new {fullText : Field}
    (h : fullText.IsStandard .static) (maxChars : Json) :
    (new fullText maxChars).IsSound where
  fullText := by
    show (seed fullText).get? fullText.name = some fullText
    unfold seed
    rw [Table.get?_put, if_pos rfl]
  statics := by
    intro f hf
    rw [List.mem_singleton.1 hf]
    exact h
  dynamics := by
    intro f hf
    cases hf
  keys := List.nodup_nil
  copies := by
    intro copy hcopy
    cases hcopy

/-- A sound cache stays sound when it is extended by what a catalog gives.
-/
theorem isSound_extended {c : Cache} (hc : c.IsSound)
    {catalog : Catalog} {fields : List Field} {copies : List CopyField}
    (hb : catalog.yield c.fullText c.maxChars = .ok (fields, copies)) :
    (c.extended fields copies).IsSound where
  fullText := by
    show (addFields c.content.statics fields).get? c.fullText.name = _
    rw [get?_addFields, hc.fullText]
    rfl
  statics := by
    intro f hf
    rcases mem_of_mem_values_addFields hf with hf | hf
    · exact hc.statics f hf
    · exact Catalog.isStandard_of_yield hb f hf
  dynamics := hc.dynamics
  keys := nodup_addCopies hc.keys copies
  copies := by
    intro copy hcopy
    show copy.source.name ∈ (addFields _ _).keys ∧ _
    rw [mem_keys_addFields]
    rcases mem_of_mem_addCopies hcopy with hcopy | hcopy
    · obtain ⟨hs, hd, hn⟩ := hc.copies copy hcopy
      exact ⟨Or.inl hs, hd, hn⟩
    · -- a new copy field starts from a field that is added along with it
      obtain ⟨hsources, hcopies⟩ := Catalog.copies_of_yield hb
      obtain ⟨hd, hn, -⟩ := hcopies copy hcopy
      have hs : copy.source ∈ fields :=
        hsources ▸ List.mem_map_of_mem hcopy
      exact ⟨Or.inr (List.mem_map_of_mem hs), hd, hn⟩

/-- A sound cache stays sound when it starts afresh from a catalog: to
start afresh is to extend a new cache, the dynamic fields kept. -/
theorem isSound_replaced {c : Cache} (hc : c.IsSound)
    {catalog : Catalog} {fields : List Field} {copies : List CopyField}
    (hb : catalog.yield c.fullText c.maxChars = .ok (fields, copies)) :
    (c.replaced fields copies).IsSound := by
  have hft : c.fullText.IsStandard .static :=
    hc.statics _ ((Table.mem_values _).2 ⟨_, hc.fullText⟩)
  have hnew : ((new c.fullText c.maxChars).extended fields
      copies).IsSound := isSound_extended (isSound_new hft c.maxChars) hb
  exact ⟨hnew.fullText, hnew.statics, hc.dynamics, hnew.keys,
    hnew.copies⟩

/-- A sound cache stays sound when a proper dynamic field is registered
that is no stock template. -/
theorem isSound_register {c : Cache} (hc : c.IsSound) {f : Field}
    (hf : f.IsStandard .dynamic ∧ f.name ∉ stockTemplates) :
    (c.register f).IsSound where
  fullText := hc.fullText
  statics := hc.statics
  dynamics := by
    intro g hg
    rcases mem_of_mem_values_addFields
      (show g ∈ (addFields c.content.dynamics [f]).values from hg)
      with hg | hg
    · exact hc.dynamics g hg
    · rw [List.mem_singleton.1 hg]
      exact hf
  keys := hc.keys
  copies := hc.copies

/-- After any history that registers proper fields only, a cache with a
proper full-text field is sound. Of the catalogs nothing is asked: those
that would break it give nothing. -/
theorem isSound_run {fullText : Field} {maxChars : Json}
    {steps : List Step} (hft : fullText.IsStandard .static)
    (hsteps : ∀ f, Step.register f ∈ steps →
      f.IsStandard .dynamic ∧ f.name ∉ stockTemplates) :
    ((new fullText maxChars).run steps).IsSound := by
  refine run_preserves (P := IsSound) (fun c s hs hc => ?_)
    (isSound_new hft maxChars)
  rcases after_cases c s with
    h | ⟨catalog, fields, copies, hb, h | h⟩ | ⟨f, rfl, h⟩
  · rw [h]
    exact hc
  · rw [h]
    exact isSound_extended hc hb
  · rw [h]
    exact isSound_replaced hc hb
  · rw [h]
    exact isSound_register hc (hsteps f hs)

-- ============================================================= a sample

theorem made_usualFullText : usualFullText.Made := by
  have hmake : Field.make .static (.str "_text_") FieldType.textGeneral
      (some (Overlay.ofTexts usualFullText.settings.entries))
        = .ok usualFullText := by with_unfolding_all rfl
  apply Field.Made.built hmake
  intro e he
  obtain ⟨p, -, rfl⟩ := List.mem_map.1 he
  exact trivial

/-- A template for notes, as an application may register it. -/
def notes : Field where
  kind := .dynamic
  name := "*_note"
  type := FieldType.textEn
  settings := Table.ofList Preset.storedIndexed.settings

/-- The template for notes is built as an application would build it. -/
theorem made_notes : notes.Made := by
  have hmake : Field.make .dynamic (.str "*_note") FieldType.textEn none
      = .ok notes := by with_unfolding_all rfl
  apply Field.Made.built hmake
  intro e he
  obtain ⟨p, -, rfl⟩ := List.mem_map.1 he
  exact trivial

/-- A cache with the usual full-text field and a template, loaded from a
catalog of one text field. -/
def sample : Cache :=
  (new usualFullText (.int defaultMaxChars)).run
    [.register notes, .load (.listed [⟨"title", .text, false⟩])]

theorem isLoaded_sample : sample.isLoaded = true := by decide +kernel

theorem isSound_sample : sample.IsSound := by
  have hfull : usualFullText.IsStandard .static :=
    ⟨rfl, made_usualFullText.wellFormed,
      by simp [usualFullText, FieldType.catalog]⟩
  have hnotes : notes.IsStandard .dynamic :=
    ⟨rfl, made_notes.wellFormed, by simp [notes, FieldType.catalog]⟩
  apply isSound_run hfull
  intro f hf
  have hf : f = notes := by simpa using hf
  subst hf
  exact ⟨hnotes, by decide⟩

end Cache

end SchemaAudit
