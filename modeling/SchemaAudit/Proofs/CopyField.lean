/-
Copy fields, taken apart.

# Building

A copy field can be built of two fields exactly if neither rule on its
destination is broken and its limit is positive (`ofFields_eq_ok`). The
rules come before the limit, and the one on templates before the one on
several values, which decides what is told if both are broken.

# Keys

Copy fields are told apart by their pair of names. An addition of one
whose key is there is passed over, of any other it comes last
(`insertNew_of_mem`, `insertNew_of_notMem`), so that the row of copy
fields is one of first members by key.

# Fan-in

A destination is reported as a fan-in exactly if it holds one value and
two or more copy fields feed it (`mem_fanIns`), each once, so that the
order of the copy fields does not matter (`fanIns_perm`). The walk
remembers the destinations that it has reported; the two laws about it
are by induction along the walk, with any row of destinations seen
before.
-/
import SchemaAudit.CopyField
import SchemaAudit.Proofs.Outcome

namespace SchemaAudit

open Outcome

namespace CopyField

-- ============================================================= building

/-- A limit is accepted exactly if it is a positive integer; a flag, a
text or a number with a fraction is not. -/
theorem limit_eq_ok {given : Json} {n : Nat} :
    limit given = .ok n ↔ 1 ≤ n ∧ given = .int n := by
  cases given with
  | int m =>
      show (if m < 1 then .error _ else .ok m.toNat) = Except.ok n ↔ _
      rw [Json.int.injEq]
      split
      case isTrue h =>
          refine iff_of_false (by simp) ?_
          intro h
          obtain ⟨hn, rfl⟩ := h
          omega
      case isFalse h =>
          rw [Except.ok.injEq]
          omega
  | _ => simp [limit]

/-- Building a copy field, rule by rule, in the order in which the rules
are looked at. -/
theorem ofFields_eq (source dest : Field) (given : Json) :
    ofFields source dest given
      = if dest.isWildcard && !source.isWildcard then
          .error (.wildcardDest dest.name source.name)
        else if source.isMultivalued && !dest.isMultivalued then
          .error (.singleValuedDest dest.name source.name)
        else limit given >>= fun n => .ok ⟨source, dest, n⟩ := by
  unfold ofFields
  cases dest.isWildcard && !source.isWildcard with
  | true => rfl
  | false =>
      cases source.isMultivalued && !dest.isMultivalued with
      | true => rfl
      | false => rfl

/-- What a copy field is made of when building it succeeds: the two fields
as they are, and the limit. -/
theorem ofFields_eq_ok {source dest : Field} {given : Json}
    {c : CopyField} :
    ofFields source dest given = .ok c ↔
      ¬ (dest.isWildcard = true ∧ source.isWildcard = false)
        ∧ ¬ (source.isMultivalued = true ∧ dest.isMultivalued = false)
        ∧ ∃ n, limit given = .ok n ∧ c = ⟨source, dest, n⟩ := by
  rw [ofFields_eq]
  split
  case isTrue h => simp_all
  case isFalse h =>
      split
      case isTrue h' => simp_all
      case isFalse h' =>
          rw [Bool.and_eq_true, Bool.not_eq_true'] at h h'
          rw [and_iff_right h, and_iff_right h', bind_eq_ok]
          apply exists_congr
          intro n
          apply and_congr_right
          intro _
          rw [Except.ok.injEq, eq_comm]

-- ================================================= distinct pairs of names

/-- A key is searched for among copy fields by going through their keys. -/
theorem any_key_eq_true {cs : List CopyField} {key : String × String} :
    (cs.any fun d => d.key == key) = true ↔ key ∈ cs.map CopyField.key := by
  rw [List.any_eq_true, List.mem_map]
  exact exists_congr fun d => and_congr_right fun _ => beq_iff_eq

/-- A copy field whose key is taken is passed over, whatever its limit is.
-/
theorem insertNew_of_mem {cs : List CopyField} {c : CopyField}
    (h : c.key ∈ cs.map CopyField.key) : insertNew cs c = cs := by
  unfold insertNew
  rw [if_pos (any_key_eq_true.2 h)]

theorem insertNew_of_notMem {cs : List CopyField} {c : CopyField}
    (h : c.key ∉ cs.map CopyField.key) : insertNew cs c = cs ++ [c] := by
  unfold insertNew
  rw [if_neg fun hc => h (any_key_eq_true.1 hc)]

end CopyField

-- ============================================================== fan-in

/-- What a walk reports: the destinations of one value, not seen before,
that two or more copy fields feed. By induction along the walk, with any
destinations seen before. -/
theorem mem_fanInsFrom {all cs : List CopyField} {seen : List String}
    {f : FanIn} :
    f ∈ fanInsFrom all seen cs ↔
      f.dest ∉ seen ∧ f.count = fanInCount all f.dest ∧ 2 ≤ f.count
        ∧ ∃ c ∈ cs, c.dest.name = f.dest
          ∧ c.dest.isMultivalued = false := by
  induction cs generalizing seen with
  | nil => simp [fanInsFrom]
  | cons c rest ih =>
      unfold fanInsFrom
      simp only [List.exists_mem_cons_iff]
      split
      case isTrue h =>
          rw [ih]
          refine and_congr_right fun hseen => and_congr_right fun hcount =>
            and_congr_right fun htwo => ?_
          -- the destination that is passed over is none to report
          refine (or_iff_right ?_).symm
          intro h
          obtain ⟨hd, hm⟩ := h
          rw [hd, hm, ← hcount] at h
          simp only [Bool.or_eq_true, List.contains_iff_mem,
            decide_eq_true_eq, Bool.false_eq_true, or_false] at h
          rcases h with h | h
          · exact hseen h
          · omega
      case isFalse h =>
          simp only [Bool.or_eq_true, List.contains_iff_mem,
            decide_eq_true_eq, not_or, Bool.not_eq_true, Nat.not_lt] at h
          obtain ⟨⟨hseen, htwo⟩, hm⟩ := h
          rw [List.mem_cons, ih]
          constructor
          · intro h
            rcases h with rfl | ⟨hs, hcount, h2, hc⟩
            · exact ⟨hseen, rfl, htwo, Or.inl ⟨rfl, hm⟩⟩
            · exact ⟨fun h => hs (List.mem_cons_of_mem _ h), hcount, h2,
                Or.inr hc⟩
          · intro h
            obtain ⟨hs, hcount, h2, hc⟩ := h
            -- a fan-in of this destination is the one reported here
            by_cases hd : f.dest = c.dest.name
            · left
              obtain ⟨dest, count⟩ := f
              simp only at hd hcount
              rw [hcount, hd]
            · right
              refine ⟨?_, hcount, h2, hc.resolve_left fun h => hd h.1.symm⟩
              rw [List.mem_cons, not_or]
              exact ⟨hd, hs⟩

/-- A walk reports a destination once, since it has seen it from then on.
-/
theorem nodup_fanInsFrom (all cs : List CopyField)
    (seen : List String) : (fanInsFrom all seen cs).Nodup := by
  induction cs generalizing seen with
  | nil => exact List.nodup_nil
  | cons c rest ih =>
      unfold fanInsFrom
      simp only
      split
      case isTrue => exact ih seen
      case isFalse =>
          refine List.nodup_cons.2 ⟨fun h => ?_, ih _⟩
          exact (mem_fanInsFrom.1 h).1 (List.mem_cons_self ..)

/-- The destinations reported, exactly: those of one value that two or
more copy fields feed, each with the number of them. A destination is
known by its name; one of the copy fields that feed it must take it for a
field of one value. -/
theorem mem_fanIns {cs : List CopyField} {f : FanIn} :
    f ∈ fanIns cs ↔
      f.count = fanInCount cs f.dest ∧ 2 ≤ f.count
        ∧ ∃ c ∈ cs, c.dest.name = f.dest
          ∧ c.dest.isMultivalued = false := by
  unfold fanIns
  rw [mem_fanInsFrom, and_iff_right List.not_mem_nil]

/-- The order of the copy fields does not matter to what is reported:
neither the counts nor the conditions depend on it. -/
theorem fanIns_perm {cs ds : List CopyField} (h : cs.Perm ds) :
    (fanIns cs).Perm (fanIns ds) := by
  refine (List.perm_ext_iff_of_nodup (nodup_fanInsFrom ..)
    (nodup_fanInsFrom ..)).2 fun f => ?_
  have hcount : fanInCount cs f.dest = fanInCount ds f.dest :=
    h.countP_eq _
  show f ∈ fanIns cs ↔ f ∈ fanIns ds
  rw [mem_fanIns, mem_fanIns, hcount]
  apply and_congr_right
  intro _
  apply and_congr_right
  intro _
  exact exists_congr fun c => and_congr_left fun _ => h.mem_iff

end SchemaAudit
