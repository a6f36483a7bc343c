/-
Results that may be refused, taken apart: what a success of two steps in
a row, of a change of the result, and of one step for each member of a
list says about the steps, and which step a refusal comes from.

Each law is an equivalence, so that it serves both to take a run apart
and to put one together. The two laws on lists are the ones with an
argument. A list of steps succeeds exactly if every step does
(`mapM_eq_ok`, by induction on the list, with results member by member),
and it is refused with the fault of the first member whose step is
refused (`mapM_eq_error`), for which the list is split in front of that
member. Sections of a body, keys of an entry, definitions of a catalog
and copies of fields are all lists of this kind, and what is said of
their first fault is read off this one split.
-/
import Mathlib.Data.List.Forall2

namespace SchemaAudit.Outcome

variable {ε α β : Type}

/-- Two steps in a row succeed exactly if the first does and the second
does on its result. -/
theorem bind_eq_ok {x : Except ε α} {f : α → Except ε β} {b : β} :
    (x >>= f) = .ok b ↔ ∃ a, x = .ok a ∧ f a = .ok b := by
  cases x with
  | error e => simp [bind, Except.bind]
  | ok a => simp [bind, Except.bind]

/-- Two steps in a row are refused by the first, or by the second on the
result of the first. -/
theorem bind_eq_error {x : Except ε α} {f : α → Except ε β} {e : ε} :
    (x >>= f) = .error e ↔
      x = .error e ∨ ∃ a, x = .ok a ∧ f a = .error e := by
  cases x with
  | error d => simp [bind, Except.bind]
  | ok a => simp [bind, Except.bind]

/-- A success with another result is a success whose result was changed. -/
theorem map_eq_ok {x : Except ε α} {f : α → β} {b : β} :
    x.map f = .ok b ↔ ∃ a, x = .ok a ∧ f a = b := by
  cases x with
  | error e => simp [Except.map]
  | ok a => simp [Except.map]

theorem map_eq_error {x : Except ε α} {f : α → β} {e : ε} :
    x.map f = .error e ↔ x = .error e := by
  cases x with
  | error d => simp [Except.map]
  | ok a => simp [Except.map]

theorem mapError_eq_ok {δ : Type} {x : Except ε α} {f : ε → δ} {a : α} :
    x.mapError f = .ok a ↔ x = .ok a := by
  cases x with
  | error e => simp [Except.mapError]
  | ok b => simp [Except.mapError]

/-- A refusal with another fault is a refusal whose fault was changed. -/
theorem mapError_eq_error {δ : Type} {x : Except ε α} {f : ε → δ}
    {d : δ} : x.mapError f = .error d ↔ ∃ e, x = .error e ∧ f e = d := by
  cases x with
  | error e => simp [Except.mapError]
  | ok a => simp [Except.mapError]

/-- One step for each member succeeds exactly if every step does, and then
the results stand in the order of the members. -/
theorem mapM_eq_ok {f : α → Except ε β} {l : List α} {bs : List β} :
    l.mapM f = .ok bs ↔ List.Forall₂ (fun a b => f a = .ok b) l bs := by
  induction l generalizing bs with
  | nil =>
      rw [List.mapM_nil, List.forall₂_nil_left_iff]
      show Except.ok [] = Except.ok bs ↔ _
      rw [Except.ok.injEq, eq_comm]
  | cons a rest ih =>
      rw [List.mapM_cons, bind_eq_ok, List.forall₂_cons_left_iff]
      constructor
      · intro h
        obtain ⟨b, hb, h⟩ := h
        obtain ⟨cs, hcs, h⟩ := bind_eq_ok.1 h
        injection h with h
        exact ⟨b, cs, hb, ih.1 hcs, h.symm⟩
      · intro h
        obtain ⟨b, cs, hb, hcs, rfl⟩ := h
        exact ⟨b, hb, bind_eq_ok.2 ⟨cs, ih.2 hcs, rfl⟩⟩

/-- One step for each member is refused with the fault of the first member
whose step is refused: those before it succeed, and those behind it are
not looked at. -/
theorem mapM_eq_error {f : α → Except ε β} {l : List α} {e : ε} :
    l.mapM f = .error e ↔
      ∃ before a after, l = before ++ a :: after
        ∧ (∀ b ∈ before, ∃ c, f b = .ok c) ∧ f a = .error e := by
  induction l with
  | nil =>
      constructor
      · intro h
        cases h
      · intro h
        obtain ⟨before, a, after, h, -⟩ := h
        simp at h
  | cons a rest ih =>
      rw [List.mapM_cons, bind_eq_error]
      constructor
      · intro h
        -- the first step is refused, or a later one behind it
        rcases h with h | ⟨c, hc, h⟩
        · exact ⟨[], a, rest, rfl, by simp, h⟩
        rcases bind_eq_error.1 h with h | ⟨_, _, h⟩
        · obtain ⟨before, d, after, rfl, hbefore, hd⟩ := ih.1 h
          exact ⟨a :: before, d, after, rfl,
            List.forall_mem_cons.2 ⟨⟨c, hc⟩, hbefore⟩, hd⟩
        · cases h
      · intro h
        obtain ⟨before, d, after, hsplit, hbefore, hd⟩ := h
        cases before with
        | nil =>
            obtain ⟨rfl, -⟩ := List.cons.inj hsplit
            exact Or.inl hd
        | cons b before =>
            obtain ⟨rfl, hrest⟩ := List.cons.inj hsplit
            obtain ⟨⟨c, hc⟩, hbefore⟩ := List.forall_mem_cons.1 hbefore
            exact Or.inr ⟨c, hc, bind_eq_error.2 (Or.inl
              (ih.2 ⟨before, d, after, hrest, hbefore, hd⟩))⟩

/-- If every member has a step that succeeds with a property, the steps
succeed together, each with the property. The property may speak of the
member as well as of its result. -/
theorem exists_mapM_eq_ok {f : α → Except ε β} {R : α → β → Prop}
    {l : List α} (h : ∀ a ∈ l, ∃ b, f a = .ok b ∧ R a b) :
    ∃ bs, l.mapM f = .ok bs ∧ List.Forall₂ R l bs := by
  induction l with
  | nil => exact ⟨[], rfl, .nil⟩
  | cons a rest ih =>
      obtain ⟨b, hb, hR⟩ := h a (List.mem_cons_self ..)
      obtain ⟨bs, hbs, hRs⟩ := ih fun c hc =>
        h c (List.mem_cons_of_mem _ hc)
      refine ⟨b :: bs, ?_, .cons hR hRs⟩
      rw [mapM_eq_ok] at hbs ⊢
      exact .cons hb hbs

/-- Every member of a list that stands in a relation to another, member by
member, has its partner. So each result of a row of steps comes from a
member. -/
theorem exists_of_forall₂ {R : α → β → Prop} {as : List α} {bs : List β}
    (h : List.Forall₂ R as bs) {b : β} (hb : b ∈ bs) :
    ∃ a ∈ as, R a b := by
  induction h with
  | nil => cases hb
  | cons hR _ ih =>
      rcases List.mem_cons.1 hb with rfl | hb
      · exact ⟨_, List.mem_cons_self .., hR⟩
      · obtain ⟨a, ha, hR⟩ := ih hb
        exact ⟨a, List.mem_cons_of_mem _ ha, hR⟩

theorem exists_mapM_iff {f : α → Except ε β} {l : List α} :
    (∃ bs, l.mapM f = .ok bs) ↔ ∀ a ∈ l, ∃ b, f a = .ok b := by
  constructor
  · intro h a ha
    obtain ⟨bs, h⟩ := h
    obtain ⟨b, -, hb⟩ := exists_of_forall₂ (mapM_eq_ok.1 h).flip ha
    exact ⟨b, hb⟩
  · intro h
    obtain ⟨bs, hbs, -⟩ := exists_mapM_eq_ok (R := fun _ _ => True)
      fun a ha => (h a ha).imp fun b hb => ⟨hb, trivial⟩
    exact ⟨bs, hbs⟩

end SchemaAudit.Outcome
