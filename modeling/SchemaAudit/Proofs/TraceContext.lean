/-
The trace context through its history. It begins as none, and is set,
given another span id, and looked at; a look at a context without a
trace id puts a fresh one in its place.

# What an update is worth

A span id that is published by an update is what later looks give if the
context had a trace id, and is lost with everything else that was set if
it had none (`get_update`). An update itself never changes whether there
is a trace id (`hasTrace_update`), so the question goes back to the
steps before it.

# What a history decides

`HasTrace` is the invariant that the induction carries. Each step
decides about it or leaves it alone (`Step.leavesTrace?`,
`hasTrace_after`): a look always leaves a trace id, a set leaves the one
it was given unless it is refused, an update decides nothing. So whether
a context has a trace id is told by the last step that decides
(`hasTrace_run_iff`, by induction from the end of the history).

Together they say which published span ids log records carry, and which
are lost (`looks_behind_update`). The ids of a fresh context are taken
to be non-empty texts, as those that are drawn are (`HasIds`).
-/
import Mathlib.Data.List.Induction
import SchemaAudit.Proofs.Table
import SchemaAudit.Trace.Context

namespace SchemaAudit.TraceContext

-- ================================================================ steps

/-- What can be done to the trace context. A look comes with the ids that
a fresh context would have. -/
inductive Step where
  | set (trace span : Json) (others : List (String × Json))
  | update (span : Json)
  | get (ids : FreshIds)

/-- The context in force after a step. A set that is refused changes
nothing. -/
def after (c : Option TraceContext) : Step → Option TraceContext
  | .set trace span others => (set trace span others).toOption.or c
  | .update span => some (update span c)
  | .get ids => some (get ids c)

/-- The context in force after a history. -/
def run (steps : List Step) : Option TraceContext := steps.foldl after none

/-- The contexts that looks one after the other give. -/
def looks (c : Option TraceContext) : List FreshIds → List TraceContext
  | [] => []
  | ids :: rest => get ids c :: looks (after c (.get ids)) rest

/-- The last step of a history is taken on what the steps before it left,
which is how the induction over histories proceeds. -/
theorem run_concat (steps : List Step) (s : Step) :
    run (steps ++ [s]) = after (run steps) s := by
  unfold run
  rw [List.foldl_append]
  rfl

-- ================================================================ looks

/-- Whether a context is in force that has a trace id. A context without
one counts as none when it is looked at. -/
def HasTrace (c : Option TraceContext) : Prop :=
  ∃ t, c = some t ∧ isUsable t = true

/-- A look at a context that has a trace id gives the context in force. -/
theorem get_of_hasTrace {c : Option TraceContext} (h : HasTrace c)
    (ids : FreshIds) : c = some (get ids c) := by
  obtain ⟨t, rfl, ht⟩ := h
  rw [get_of_isUsable ids ht]

/-- A look at a context without a trace id gives one of fresh ids, and
nothing of what was in force. -/
theorem get_of_not_hasTrace {c : Option TraceContext} (h : ¬ HasTrace c)
    (ids : FreshIds) : get ids c = fresh ids := by
  cases c with
  | none => rfl
  | some t =>
      have ht : ¬ isUsable t = true := fun ht => h ⟨t, rfl, ht⟩
      exact if_neg ht

/-- What is in force after a look has a trace id: the one it had, or a
fresh one. So a second look gives what the first one gave. -/
theorem hasTrace_get (c : Option TraceContext) {ids : FreshIds}
    (hids : ids.trace ≠ "") : HasTrace (some (get ids c)) := by
  by_cases h : HasTrace c
  · exact get_of_hasTrace h ids ▸ h
  · rw [get_of_not_hasTrace h]
    refine ⟨_, rfl, ?_⟩
    simp [isUsable, fresh, Table.ofList, Table.putAll, Table.get?_put,
      Json.isTruthy, hids]

/-- Looks at a context that has a trace id give that context. By induction
on the looks; each leaves in force what it found. -/
theorem eq_of_mem_looks {c : Option TraceContext} (h : HasTrace c)
    {asked : List FreshIds} {t : TraceContext} (ht : t ∈ looks c asked) :
    c = some t := by
  induction asked with
  | nil => cases ht
  | cons ids rest ih =>
      have hc := get_of_hasTrace h ids
      rcases List.mem_cons.1 ht with rfl | ht
      · exact hc
      · rw [show after c (.get ids) = c from hc.symm] at ht
        exact ih ht

/-- However often the context is looked at, it is what the first look
gave, also if that had to make it afresh. -/
theorem mem_looks_cons (c : Option TraceContext) {ids : FreshIds}
    (hids : ids.trace ≠ "") {later : List FreshIds} {t : TraceContext} :
    t ∈ looks c (ids :: later) ↔ t = get ids c := by
  constructor
  · intro ht
    rcases List.mem_cons.1 ht with h | h
    · exact h
    · exact (Option.some.inj (eq_of_mem_looks (hasTrace_get c hids) h)).symm
  · rintro rfl
    exact List.mem_cons_self ..

-- ============================================================== updates

/-- What an updated context holds: the new span id, and under every other
key what was held before, if anything was in force. -/
theorem get?_update (span : Json) (c : Option TraceContext)
    (key : String) :
    (update span c).get? key
      = if key = "span_id" then some span
        else c.bind fun t => t.get? key := by
  unfold update
  rw [Table.get?_put]
  cases c <;> rfl

/-- An update neither brings a trace id nor takes one away, since it
writes under another key. -/
theorem hasTrace_update {span : Json} {c : Option TraceContext} :
    HasTrace (some (update span c)) ↔ HasTrace c := by
  have htrace := get?_update span c "trace_id"
  rw [if_neg (by decide)] at htrace
  cases c with
  | none =>
      -- an update of nothing makes a context without a trace id
      have hnone : isUsable (update span none) = false := by
        unfold isUsable
        rw [htrace]
        rfl
      constructor
      · rintro ⟨t, heq, ht⟩
        rw [← Option.some.inj heq, hnone] at ht
        cases ht
      · rintro ⟨t, heq, -⟩
        cases heq
  | some t =>
      -- and any other keeps the one that is there
      have hsame : isUsable (update span (some t)) = isUsable t := by
        unfold isUsable
        rw [htrace]
        rfl
      constructor
      · rintro ⟨u, heq, hu⟩
        rw [← Option.some.inj heq, hsame] at hu
        exact ⟨t, rfl, hu⟩
      · rintro ⟨u, heq, hu⟩
        rw [← Option.some.inj heq] at hu
        exact ⟨_, rfl, hsame.trans hu⟩

/-- A look behind an update gives the updated context if it has a trace
id, and a fresh one otherwise. -/
theorem get_update (span : Json) (c : Option TraceContext)
    (ids : FreshIds) :
    (HasTrace c → get ids (some (update span c)) = update span c)
      ∧ (¬ HasTrace c → get ids (some (update span c)) = fresh ids) := by
  constructor
  · intro h
    have htrace : HasTrace (some (update span c)) := hasTrace_update.2 h
    exact (Option.some.inj (get_of_hasTrace htrace ids)).symm
  · intro h
    exact get_of_not_hasTrace (fun hu => h (hasTrace_update.1 hu)) ids

-- ============================================================ histories

/-- What a step decides about the trace id, if it decides anything: a look
leaves one, a set that is not refused the one it was given. -/
def Step.leavesTrace? : Step → Option Bool
  | .set trace _ others =>
      if others.any fun e => isReserved e.1 then none
      else some trace.isTruthy
  | .update _ => none
  | .get _ => some true

/-- A set gives the context its trace id, unless it is refused. It is
refused exactly if one of the further names is that of an id, so no such
name can overwrite what was given. -/
theorem set_cases (trace span : Json) (others : List (String × Json)) :
    ((others.any fun e => isReserved e.1) = true
        ∧ ∃ fault, set trace span others = .error fault)
      ∨ ((others.any fun e => isReserved e.1) = false
        ∧ ∃ t, set trace span others = .ok t
          ∧ isUsable t = trace.isTruthy) := by
  unfold set
  cases hf : others.find? fun e => isReserved e.1 with
  | some e =>
      refine Or.inl ⟨?_, _, rfl⟩
      exact List.any_eq_true.2
        ⟨e, List.mem_of_find?_eq_some hf, by
          simpa using List.find?_some hf⟩
  | none =>
      have hfree : (others.any fun e => isReserved e.1) = false := by
        rw [List.any_eq_false]
        exact List.find?_eq_none.1 hf
      refine Or.inr ⟨hfree, _, rfl, ?_⟩
      -- what is set beside the ids leaves the trace id alone
      have hothers : Table.valueOf "trace_id" others.reverse = none := by
        rw [Table.valueOf_eq_none, List.map_reverse, List.mem_reverse]
        intro hmem
        obtain ⟨e, he, hkey⟩ := List.mem_map.1 hmem
        have hreserved := List.any_eq_false.1 hfree e he
        rw [hkey] at hreserved
        exact hreserved rfl
      unfold isUsable Table.ofList
      rw [Table.get?_putAll, List.reverse_cons, List.reverse_cons,
        Table.valueOf_append, Table.valueOf_append, hothers]
      rfl

/-- A step that decides nothing about the trace id leaves it as it is, and
one that decides leaves what it says. This is the step of the induction
over histories. -/
theorem hasTrace_after (c : Option TraceContext) (s : Step)
    (hids : ∀ ids, s = .get ids → ids.trace ≠ "") :
    HasTrace (after c s) ↔
      s.leavesTrace? = some true
        ∨ s.leavesTrace? = none ∧ HasTrace c := by
  cases s with
  | set trace span others =>
      simp only [after, Step.leavesTrace?]
      rcases set_cases trace span others with
        ⟨hr, fault, hset⟩ | ⟨hr, t, hset, ht⟩
      · rw [hset, hr]
        simp [Except.toOption]
      · rw [hset, hr]
        simp [Except.toOption, HasTrace, ht]
  | update span =>
      show HasTrace (some (update span c)) ↔ _
      rw [hasTrace_update]
      simp [Step.leavesTrace?]
  | get ids =>
      exact iff_of_true (hasTrace_get c (hids ids rfl)) (Or.inl rfl)

/-- The ids of every look in a history are those of a trace: whoever draws
ids draws no empty one. -/
def HasIds (steps : List Step) : Prop :=
  ∀ ids, Step.get ids ∈ steps → ids.trace ≠ ""

/-- A context has a trace id exactly if the last step that decides about
it left one. At the beginning no step has decided and there is no context,
so there is none. -/
theorem hasTrace_run_iff {steps : List Step} (h : HasIds steps) :
    HasTrace (run steps) ↔
      (steps.filterMap Step.leavesTrace?).getLast? = some true := by
  induction steps using List.reverseRecOn with
  | nil =>
      refine iff_of_false ?_ (by simp)
      rintro ⟨t, ht, -⟩
      cases ht
  | append_singleton steps s ih =>
      have hsteps : HasIds steps := fun ids hm =>
        h ids (List.mem_append_left _ hm)
      have hlast : ∀ ids, s = .get ids → ids.trace ≠ "" := fun ids hs =>
        h ids (List.mem_append_right _ (hs ▸ List.mem_singleton_self _))
      rw [run_concat, hasTrace_after _ _ hlast, ih hsteps,
        List.filterMap_append]
      cases hs : s.leavesTrace? with
      | none => simp [hs]
      | some left => simp [hs]

-- ======================================================= published spans

/-- A context carries a published span: its id, beside all that the
context in force before held under other keys. -/
structure Carries (t : TraceContext) (span : Json)
    (before : Option TraceContext) : Prop where
  span_eq : t.get? "span_id" = some span
  kept : ∀ key value, key ≠ "span_id" →
    (before.bind fun b => b.get? key) = some value →
    t.get? key = some value

/-- An updated context carries the span that was published, whatever was
in force before; whether a look still finds it is another matter. -/
theorem carries_update (span : Json) (c : Option TraceContext) :
    Carries (update span c) span c where
  span_eq := by rw [get?_update, if_pos rfl]
  kept key value hkey hvalue := by rw [get?_update, if_neg hkey, hvalue]

/-- However often the context is looked at, each look gives the same, and
so it is behind an update. If the last step before the update that decides
about the trace id left one, the looks carry the span that was published,
with all that was in force before; otherwise they give a context of fresh
ids, and everything that was set and published is lost. -/
theorem looks_behind_update (history : List Step)
    (hhistory : HasIds history) (span : Json) (ids : FreshIds)
    (later : List FreshIds) (hids : ids.trace ≠ "") :
    (∀ t ∈ looks (run history) (ids :: later), t = get ids (run history))
      ∧ (∀ t ∈ looks (run (history ++ [.update span])) (ids :: later),
          t = get ids (run (history ++ [.update span])))
      ∧ ((history.filterMap Step.leavesTrace?).getLast? = some true →
          ∀ t ∈ looks (run (history ++ [.update span])) (ids :: later),
            Carries t span (run history))
      ∧ ((history.filterMap Step.leavesTrace?).getLast? ≠ some true →
          ∀ t ∈ looks (run (history ++ [.update span])) (ids :: later),
            t = fresh ids) := by
  refine ⟨fun t ht => (mem_looks_cons _ hids).1 ht,
    fun t ht => (mem_looks_cons _ hids).1 ht, ?_, ?_⟩
  · intro hlast t ht
    have htrace := (hasTrace_run_iff hhistory).2 hlast
    rw [(mem_looks_cons _ hids).1 ht, run_concat]
    show Carries (get ids (some (update span (run history)))) _ _
    rw [(get_update span _ ids).1 htrace]
    exact carries_update span _
  · intro hlast t ht
    have htrace : ¬ HasTrace (run history) :=
      fun h => hlast ((hasTrace_run_iff hhistory).1 h)
    rw [(mem_looks_cons _ hids).1 ht, run_concat]
    exact (get_update span _ ids).2 htrace

/-- A context that was set with a collection, and updated once. -/
def setAndUpdated : List Step :=
  [.set (.str "7f7f7f7f7f7f7f7f7f7f7f7f7f7f7f7f") (.str "0101010101010101")
    [("collection", .str "books")], .update (.str "0202020202020202")]

/-- Ids made afresh. -/
def someIds : FreshIds :=
  ⟨"0123456789abcdef0123456789abcdef", "89abcdef01234567"⟩

/-- Behind a set with a trace id and one update, another update is carried
by both of two looks, with the collection that was set. -/
theorem looks_behind_update_set :
    HasIds setAndUpdated
      ∧ someIds.trace ≠ ""
      ∧ ∀ t ∈ looks
          (run (setAndUpdated ++ [.update (.str "0303030303030303")]))
          [someIds, someIds],
        Carries t (.str "0303030303030303") (run setAndUpdated) := by
  have hhistory : HasIds setAndUpdated := by
    intro ids hm
    simp [setAndUpdated] at hm
  refine ⟨hhistory, by decide, ?_⟩
  exact (looks_behind_update setAndUpdated hhistory _ someIds [someIds]
    (by decide)).2.2.1 rfl

/-- A span id that is published before anything was set is not the one
that the next look gives. -/
theorem not_carries_unset :
    ¬ Carries (get someIds (run [.update (.str "0303030303030303")]))
      (.str "0303030303030303") (run []) := by
  intro h
  have hfresh : (get someIds
      (run [.update (.str "0303030303030303")])).get? "span_id"
      = some (.str "89abcdef01234567") := rfl
  have heq := Option.some.inj (hfresh.symm.trans h.span_eq)
  simp at heq

end SchemaAudit.TraceContext
