/-
A cache told by its history. `Follows` says what a cache holds in terms
of the calls that were made of it, without any cache: of each name the
first field, of each pair of names the first copy field, that a catalog
gave since the cache last started afresh; and of each name the first
dynamic field that was ever registered.

The main statement (`run_follows_history`) is that a cache holds just
this after any history, whatever stood in the catalogs and whichever of
them could not be built. Calls that fail leave no trace, and a catalog
that was just loaded or reloaded adds nothing when it is loaded again.

# The specification

A history is read as the list of its calls that succeeded (`calls`), and
`fromLastReload` drops those that a later reload made void. What the
calls that are left gave is put end to end (`given`, `givenCopies`), and
`firsts` keeps of it the first of each name or pair of names. The
full-text field comes before all of them, as it is there from the
beginning.

# The induction

It goes from the end of the history (`Follows.run`). For each
observation there is a law on one step more (`calls_concat`,
`given_concat`, `registered_concat`), and for each thing that a step can
do a lemma that carries `Follows` across it: nothing (`failed`), adding
(`extended`), starting afresh (`replaced`), registering (`register`).
Adding to what is held and keeping the firsts of what was given agree
because rows of additions are one row.
-/
import SchemaAudit.Proofs.Expected.History

namespace SchemaAudit.Cache

-- ================================================================ calls

/-- A load or a reload that succeeded: whether it started afresh, and
what its catalog gave. -/
structure Call where
  afresh : Bool
  fields : List Field
  copies : List CopyField

/-- The call that is made with a catalog, if that gives something. -/
def callWith? (fullText : Field) (maxChars : Json) (afresh : Bool)
    (catalog : Catalog) : Option Call :=
  (catalog.yield fullText maxChars).toOption.map fun e =>
    ⟨afresh, e.1, e.2⟩

/-- The call that a step is, if its catalog gives something. -/
def Step.call? (fullText : Field) (maxChars : Json) : Step → Option Call
  | .load catalog => callWith? fullText maxChars false catalog
  | .reload catalog => callWith? fullText maxChars true catalog
  | .register _ => none

/-- The dynamic field that a step registers. -/
def Step.registered? : Step → Option Field
  | .register f => some f
  | _ => none

/-- The calls from the last one on that started afresh; all of them if
none did. -/
def fromLastReload : List Call → List Call
  | [] => []
  | call :: rest =>
      if rest.any Call.afresh then fromLastReload rest else call :: rest

section

variable {fullText : Field} {maxChars : Json} {afresh : Bool}
variable {catalog : Catalog}

/-- A call is made with a catalog exactly if the catalog gives something,
and then with what it gives. -/
theorem callWith?_eq_some {call : Call} :
    callWith? fullText maxChars afresh catalog = some call ↔
      call.afresh = afresh ∧ catalog.yield fullText maxChars
        = .ok (call.fields, call.copies) := by
  obtain ⟨a, fields, copies⟩ := call
  unfold callWith?
  cases catalog.yield fullText maxChars <;>
    simp [Except.toOption, Prod.ext_iff, eq_comm]

theorem callWith?_eq_none {fault : BuildFault}
    (h : catalog.yield fullText maxChars = .error fault) :
    callWith? fullText maxChars afresh catalog = none := by
  unfold callWith?
  rw [h]
  rfl

end

/-- One call more counts behind those that counted, unless it starts
afresh: then it is the only one. -/
theorem fromLastReload_concat (calls : List Call) (call : Call) :
    fromLastReload (calls ++ [call])
      = (if call.afresh then [] else fromLastReload calls)
        ++ [call] := by
  induction calls with
  | nil => cases call.afresh <;> rfl
  | cons first rest ih =>
      rw [List.cons_append]
      unfold fromLastReload
      rw [List.any_append, ih]
      cases ha : call.afresh with
      | true => simp [ha]
      | false => cases rest.any Call.afresh <;> simp [ha]

-- ======================================================== specification

section

variable (fullText : Field) (maxChars : Json) (steps : List Step)

/-- The calls of a history that succeeded, in order. A call that failed
changed nothing and has no part in what follows. -/
def calls : List Call := steps.filterMap (Step.call? fullText maxChars)

/-- The fields that catalogs gave since the last start, in order, with
those of a name that came before among them. -/
def given : List Field :=
  (fromLastReload (calls fullText maxChars steps)).flatMap Call.fields

/-- The copy fields that catalogs gave since the last start, in order. -/
def givenCopies : List CopyField :=
  (fromLastReload (calls fullText maxChars steps)).flatMap Call.copies

/-- What a cache holds at the end of a history, told from the history
alone. With it two caches of one history are equal in all that can be
looked up. -/
structure Follows (c : Cache) : Prop where
  fullText_eq : c.fullText = fullText
  maxChars_eq : c.maxChars = maxChars
  statics : c.content.statics.values
    = firsts Field.name (fullText :: given fullText maxChars steps)
  copies : c.content.copies
    = firsts CopyField.key (givenCopies fullText maxChars steps)
  dynamics : c.content.dynamics.values
    = firsts Field.name (steps.filterMap Step.registered?)
  isLoaded : c.isLoaded = true ↔ calls fullText maxChars steps ≠ []

end

variable {fullText : Field} {maxChars : Json} {steps : List Step}
variable {c : Cache} {s : Step}
variable {fields : List Field} {copies : List CopyField}

-- ==================================================== one step further

/-- A step adds the field that it registers, if it does, to those that
were registered. -/
theorem registered_concat :
    (steps ++ [s]).filterMap Step.registered?
      = steps.filterMap Step.registered? ++ s.registered?.toList := by
  rw [List.filterMap_append]
  cases h : s.registered? <;> simp [h]

/-- A step that registers nothing leaves the registered fields as they
were. -/
theorem registered_concat_of_none (h : s.registered? = none) :
    (steps ++ [s]).filterMap Step.registered?
      = steps.filterMap Step.registered? := by
  rw [registered_concat, h]
  exact List.append_nil _

/-- A step adds the call that it is, if it is one that succeeds, to the
calls. -/
theorem calls_concat :
    calls fullText maxChars (steps ++ [s])
      = calls fullText maxChars steps
        ++ (s.call? fullText maxChars).toList := by
  unfold calls
  rw [List.filterMap_append]
  cases h : s.call? fullText maxChars <;> simp [h]

section

variable (h : s.call? fullText maxChars = none)
include h

theorem calls_concat_of_none :
    calls fullText maxChars (steps ++ [s])
      = calls fullText maxChars steps := by
  rw [calls_concat, h]
  exact List.append_nil _

theorem given_concat_of_none :
    given fullText maxChars (steps ++ [s])
      = given fullText maxChars steps := by
  unfold given
  rw [calls_concat_of_none h]

/-- A step that is no call leaves the copies that catalogs gave as they
were. -/
theorem givenCopies_concat_of_none :
    givenCopies fullText maxChars (steps ++ [s])
      = givenCopies fullText maxChars steps := by
  unfold givenCopies
  rw [calls_concat_of_none h]

end

section

variable {call : Call} (h : s.call? fullText maxChars = some call)
include h

theorem calls_concat_of_some :
    calls fullText maxChars (steps ++ [s])
      = calls fullText maxChars steps ++ [call] := by
  rw [calls_concat, h]
  rfl

/-- What is collected over the calls that count: a call that succeeds adds
its own to that of those before, unless it starts afresh. Fields and copy
fields are collected alike. -/
theorem flatMap_fromLastReload_concat {α : Type} (g : Call → List α) :
    (fromLastReload (calls fullText maxChars (steps ++ [s]))).flatMap g
      = (if call.afresh then []
          else (fromLastReload (calls fullText maxChars steps)).flatMap g)
        ++ g call := by
  rw [calls_concat_of_some h, fromLastReload_concat, List.flatMap_append,
    List.flatMap_singleton]
  cases call.afresh <;> rfl

/-- The fields given after one call more: its own behind those of before,
unless it starts afresh. -/
theorem given_concat :
    given fullText maxChars (steps ++ [s])
      = (if call.afresh then [] else given fullText maxChars steps)
        ++ call.fields :=
  flatMap_fromLastReload_concat h Call.fields

/-- The copy fields given after one call more: its own behind those of
before, unless it starts afresh. -/
theorem givenCopies_concat :
    givenCopies fullText maxChars (steps ++ [s])
      = (if call.afresh then [] else givenCopies fullText maxChars steps)
        ++ call.copies :=
  flatMap_fromLastReload_concat h Call.copies

end

namespace Follows

/-- A new cache holds the full-text field and nothing else. -/
theorem new (fullText : Field) (maxChars : Json) :
    Follows fullText maxChars [] (new fullText maxChars) where
  fullText_eq := rfl
  maxChars_eq := rfl
  statics := (firsts_concat [] fullText).symm
  copies := firsts_nil.symm
  dynamics := firsts_nil.symm
  isLoaded := by simp [Cache.new, calls]

/-- A call that fails leaves no trace, neither in the cache nor in what
its history tells. -/
theorem failed (h : Follows fullText maxChars steps c)
    (hcall : s.call? fullText maxChars = none)
    (hreg : s.registered? = none) :
    Follows fullText maxChars (steps ++ [s]) c where
  fullText_eq := h.fullText_eq
  maxChars_eq := h.maxChars_eq
  statics := by
    rw [given_concat_of_none hcall]
    exact h.statics
  copies := by
    rw [givenCopies_concat_of_none hcall]
    exact h.copies
  dynamics := by
    rw [registered_concat_of_none hreg]
    exact h.dynamics
  isLoaded := by
    rw [calls_concat_of_none hcall]
    exact h.isLoaded

/-- A load that succeeds adds what its catalog gave, behind what is held:
of each name the first counts, on both sides. -/
theorem extended (h : Follows fullText maxChars steps c)
    (hn : Named c.content.statics)
    (hcall : s.call? fullText maxChars = some ⟨false, fields, copies⟩)
    (hreg : s.registered? = none) :
    Follows fullText maxChars (steps ++ [s])
      (c.extended fields copies) where
  fullText_eq := h.fullText_eq
  maxChars_eq := h.maxChars_eq
  statics := by
    rw [given_concat hcall]
    show (addFields c.content.statics fields).values
      = firsts Field.name ((fullText :: given fullText maxChars steps)
        ++ fields)
    -- to add what is new is to keep the first of all that was given
    rw [values_addFields hn, h.statics, firsts_append]
  copies := by
    rw [givenCopies_concat hcall]
    show addCopies c.content.copies copies
      = firsts CopyField.key (givenCopies fullText maxChars steps
        ++ copies)
    rw [addCopies_eq_foldl, h.copies, firsts_append]
  dynamics := by
    rw [registered_concat_of_none hreg]
    exact h.dynamics
  isLoaded := by
    rw [calls_concat_of_some hcall]
    exact iff_of_true rfl (List.concat_ne_nil _ _)

/-- A reload that succeeds leaves what its catalog gave, behind the
full-text field, and the dynamic fields, whatever was held before. -/
theorem replaced (h : Follows fullText maxChars steps c)
    (hcall : s.call? fullText maxChars = some ⟨true, fields, copies⟩)
    (hreg : s.registered? = none) :
    Follows fullText maxChars (steps ++ [s])
      (c.replaced fields copies) where
  fullText_eq := h.fullText_eq
  maxChars_eq := h.maxChars_eq
  statics := by
    rw [given_concat hcall, ← h.fullText_eq]
    show (addFields (seed c.fullText) fields).values
      = firsts Field.name ([c.fullText] ++ fields)
    rw [values_addFields (named_seed _), firsts_append]
    rfl
  copies := by
    rw [givenCopies_concat hcall]
    show addCopies [] copies = firsts CopyField.key ([] ++ copies)
    rw [addCopies_eq_foldl, firsts_append, firsts_nil]
  dynamics := by
    rw [registered_concat_of_none hreg]
    exact h.dynamics
  isLoaded := by
    rw [calls_concat_of_some hcall]
    exact iff_of_true rfl (List.concat_ne_nil _ _)

/-- A dynamic field is registered unless its name is taken. -/
theorem register (h : Follows fullText maxChars steps c)
    (hn : Named c.content.dynamics) (f : Field) :
    Follows fullText maxChars (steps ++ [.register f])
      (c.register f) where
  fullText_eq := h.fullText_eq
  maxChars_eq := h.maxChars_eq
  statics := by
    rw [given_concat_of_none rfl]
    exact h.statics
  copies := by
    rw [givenCopies_concat_of_none rfl]
    exact h.copies
  dynamics := by
    rw [registered_concat]
    show (addFields c.content.dynamics [f]).values
      = firsts Field.name (steps.filterMap Step.registered? ++ [f])
    rw [values_addFields hn, h.dynamics, firsts_append]
  isLoaded := by
    rw [calls_concat_of_none rfl]
    exact h.isLoaded

/-- Whatever the step, the cache goes on to hold what its history tells.
The cases are those of what a step can do. -/
theorem after (h : Follows fullText maxChars steps c) (hn : c.IsNamed)
    (s : Step) :
    Follows fullText maxChars (steps ++ [s]) (c.after s) := by
  obtain rfl := h.fullText_eq
  obtain rfl := h.maxChars_eq
  cases s with
  | load catalog =>
      cases hy : catalog.yield c.fullText c.maxChars with
      | error fault =>
          rw [after_load_of_error hy]
          exact h.failed (callWith?_eq_none hy) rfl
      | ok built =>
          rw [after_load_of_ok hy]
          exact h.extended hn.statics (callWith?_eq_some.2 ⟨rfl, hy⟩) rfl
  | reload catalog =>
      cases hy : catalog.yield c.fullText c.maxChars with
      | error fault =>
          rw [after_reload_of_error hy]
          exact h.failed (callWith?_eq_none hy) rfl
      | ok built =>
          rw [after_reload_of_ok hy]
          exact h.replaced (callWith?_eq_some.2 ⟨rfl, hy⟩) rfl
  | register f => exact h.register hn.dynamics f

/-- A cache holds what its history tells, whatever that is. By induction
from the end of the history. -/
theorem run (fullText : Field) (maxChars : Json) (steps : List Step) :
    Follows fullText maxChars steps
      ((Cache.new fullText maxChars).run steps) := by
  induction steps using List.reverseRecOn with
  | nil => exact Follows.new fullText maxChars
  | append_singleton steps s ih =>
      rw [run_concat]
      exact ih.after (isNamed_run fullText maxChars steps) s

end Follows

-- ========================================================== repetition

/-- What a catalog gave adds nothing to a cache that was just extended by
it, since all of its names and keys are taken. -/
theorem extended_extended (c : Cache) (fields : List Field)
    (copies : List CopyField) :
    (c.extended fields copies).extended fields copies
      = c.extended fields copies := by
  have hfields : addFields (addFields c.content.statics fields) fields
      = addFields c.content.statics fields :=
    addFields_of_subset fun f hf =>
      mem_keys_addFields.2 (Or.inr (List.mem_map_of_mem hf))
  have hcopies : addCopies (addCopies c.content.copies copies) copies
      = addCopies c.content.copies copies :=
    addCopies_of_subset fun copy hcopy =>
      mem_keys_addCopies.2 (Or.inr (List.mem_map_of_mem hcopy))
  unfold extended
  simp only [hfields, hcopies]

/-- To start afresh is to extend a new cache that has the old dynamic
fields; true by the definitions, and stated so that what is known of
extending applies. -/
theorem replaced_eq_extended (c : Cache) (fields : List Field)
    (copies : List CopyField) :
    c.replaced fields copies
      = Cache.extended
          ⟨c.fullText, c.maxChars,
            ⟨seed c.fullText, c.content.dynamics, []⟩, c.isLoaded⟩
          fields copies := rfl

/-- To load a catalog twice is to load it once, also if it gives nothing.
-/
theorem run_load_load (c : Cache) (catalog : Catalog) :
    c.run [.load catalog, .load catalog] = c.run [.load catalog] := by
  show (c.after (.load catalog)).after (.load catalog)
    = c.after (.load catalog)
  cases hy : catalog.yield c.fullText c.maxChars with
  | error fault =>
      rw [after_load_of_error hy]
      exact after_load_of_error hy
  | ok built =>
      rw [after_load_of_ok hy]
      exact (after_load_of_ok (c := c.extended _ _) hy).trans
        (extended_extended ..)

/-- To load a catalog that was just reloaded changes nothing, also if it
gives nothing. -/
theorem run_reload_load (c : Cache) (catalog : Catalog) :
    c.run [.reload catalog, .load catalog] = c.run [.reload catalog] := by
  show (c.after (.reload catalog)).after (.load catalog)
    = c.after (.reload catalog)
  cases hy : catalog.yield c.fullText c.maxChars with
  | error fault =>
      rw [after_reload_of_error hy]
      exact after_load_of_error hy
  | ok built =>
      rw [after_reload_of_ok hy]
      refine (after_load_of_ok (c := c.replaced _ _) hy).trans ?_
      rw [replaced_eq_extended, extended_extended]

-- ================================================================ faults

/-- A load fails exactly if its catalog gives nothing, and for the same
reason. -/
theorem load_eq_error {c : Cache} {catalog : Catalog}
    {fault : BuildFault} :
    (c.load catalog).value = .error fault ↔
      catalog.yield c.fullText c.maxChars = .error fault := by
  rw [value_load]
  cases catalog.yield c.fullText c.maxChars <;> simp [Except.map]

/-- A reload fails exactly if its catalog gives nothing, and for the same
reason. -/
theorem reload_eq_error {c : Cache} {catalog : Catalog}
    {fault : BuildFault} :
    (c.reload catalog).value = .error fault ↔
      catalog.yield c.fullText c.maxChars = .error fault := by
  rw [value_reload]
  cases catalog.yield c.fullText c.maxChars <;> simp [Except.map]

/-- A cache holds what its history tells. A call fails exactly if its
catalog gives nothing, and then the cache stays as it was. To load a
catalog right after it was loaded or reloaded changes nothing. -/
theorem run_follows_history (fullText : Field) (maxChars : Json)
    (steps : List Step) (catalog : Catalog) :
    let c := (Cache.new fullText maxChars).run steps
    Follows fullText maxChars steps c
      ∧ (∀ fault,
        ((c.load catalog).value = .error fault ↔
            catalog.yield fullText maxChars = .error fault)
          ∧ ((c.reload catalog).value = .error fault ↔
            catalog.yield fullText maxChars = .error fault))
      ∧ (∀ fault, (c.load catalog).value = .error fault →
        c.after (.load catalog) = c)
      ∧ (∀ fault, (c.reload catalog).value = .error fault →
        c.after (.reload catalog) = c)
      ∧ c.run [.load catalog, .load catalog] = c.run [.load catalog]
      ∧ c.run [.reload catalog, .load catalog]
        = c.run [.reload catalog] := by
  intro c
  have h : Follows fullText maxChars steps c :=
    Follows.run fullText maxChars steps
  refine ⟨h, fun fault => ⟨?_, ?_⟩, fun fault hf => ?_,
    fun fault hf => ?_, run_load_load c catalog,
    run_reload_load c catalog⟩
  · rw [load_eq_error, h.fullText_eq, h.maxChars_eq]
  · rw [reload_eq_error, h.fullText_eq, h.maxChars_eq]
  · exact after_load_of_error (load_eq_error.1 hf)
  · exact after_reload_of_error (reload_eq_error.1 hf)

end SchemaAudit.Cache
