/-
Secrets that are attached to log records. What a record shows for a
value under a key that names a secret does not depend on the value
(`shownValue_of_isSecret`), and such a key never stands for a part of
the record (`isSecret_of_mem_partKeys`). So two rows of attached values
that differ in secrets only make records that agree in everything but
these (`AgreeButSecrets`), and such records have one text, or one fault
that keeps them from having a text (`text_attachAll_secrets`).

# What is not told

That a secret is replaced would say too little: its value could still
show in the message, in another entry, or in whether there is a line at
all. The statement is about the whole text and about its fault as well,
for any two rows of secrets, and so nothing of a secret can be learned
from a line in any way.

# What is told

A secret that is shown has the fixed word as its entry
(`get?_entries_of_isSecret`). It is shown unless its key is one of those
that are left out; an entry of the record or of the context under the
same key does not get in the way, since what is attached is written
last.
-/
import Mathlib.Data.List.Forall2
import SchemaAudit.Log.Record
import SchemaAudit.Proofs.Outcome
import SchemaAudit.Proofs.Table

namespace SchemaAudit.Record

open Outcome

-- ============================================================== secrets

/-- Two rows of attached values with the same keys, whose values differ
only under keys that name secrets. Values under one such key may be of any
two forms. -/
def DifferInSecrets (xs ys : List (String × LogValue)) : Prop :=
  List.Forall₂ (fun x y => x.1 = y.1 ∧ (isSecret x.1 = true ∨ x.2 = y.2))
    xs ys

/-- A secret is shown as a fixed word, before its value is looked at. -/
theorem shownValue_of_isSecret {key : String} (h : isSecret key = true)
    (v : LogValue) : shownValue key v = .str "[REDACTED]" := by
  unfold shownValue
  rw [if_pos h]

/-- The keys that stand for parts of a record. -/
def partKeys : List String :=
  ["name", "levelname", "msg", "args", "exc_info"]

/-- No part of a record is a secret, so that no secret can take the place
of a part. -/
theorem isSecret_of_mem_partKeys {key : String} (h : key ∈ partKeys) :
    isSecret key = false := by
  revert key
  decide +kernel

/-- What is attached under any other key is attached beside the parts,
behind what is there. -/
theorem attach_of_notMem {key : String} (h : key ∉ partKeys) (r : Record)
    (v : LogValue) :
    r.attach key v = { r with extras := r.extras ++ [(key, v)] } := by
  simp only [partKeys, List.mem_cons, List.not_mem_nil, or_false,
    not_or] at h
  obtain ⟨h1, h2, h3, h4, h5⟩ := h
  unfold attach
  split
  · exact absurd rfl h1
  · exact absurd rfl h2
  · exact absurd rfl h3
  · exact absurd rfl h4
  · exact absurd rfl h5
  · rfl

-- ============================================================ agreement

/-- Records that agree in all their parts, and in what is attached to them
but for secrets. -/
structure AgreeButSecrets (r s : Record) : Prop where
  parts : s = { r with extras := s.extras }
  extras : DifferInSecrets r.extras s.extras

/-- Every record agrees with itself. -/
theorem AgreeButSecrets.refl (r : Record) : AgreeButSecrets r r where
  parts := rfl
  extras := List.forall₂_same.2 fun _ _ => ⟨rfl, Or.inr rfl⟩

/-- The same value under the same key keeps the agreement of two records,
and so do two values of one secret. -/
theorem AgreeButSecrets.attach {r s : Record} (h : AgreeButSecrets r s)
    {key : String} {v w : LogValue}
    (hvw : isSecret key = true ∨ v = w) :
    AgreeButSecrets (r.attach key v) (s.attach key w) := by
  obtain ⟨hparts, hextras⟩ := h
  by_cases hkey : key ∈ partKeys
  · -- a part is no secret, so that the two values are one
    have hv : v = w := by
      refine hvw.resolve_left ?_
      rw [isSecret_of_mem_partKeys hkey]
      decide
    subst hv
    rw [hparts]
    simp only [partKeys, List.mem_cons, List.not_mem_nil, or_false] at hkey
    rcases hkey with rfl | rfl | rfl | rfl | rfl
    · exact ⟨rfl, hextras⟩
    · exact ⟨rfl, hextras⟩
    · exact ⟨rfl, hextras⟩
    · exact ⟨rfl, hextras⟩
    · exact ⟨rfl, hextras⟩
  · rw [attach_of_notMem hkey, attach_of_notMem hkey]
    refine ⟨?_, List.rel_append hextras (.cons ⟨rfl, hvw⟩ .nil)⟩
    conv => lhs; rw [hparts]

/-- Rows of values that differ in secrets only keep the agreement of two
records, one value after the other. -/
theorem AgreeButSecrets.attachAll {r s : Record} (h : AgreeButSecrets r s)
    {xs ys : List (String × LogValue)} (hxy : DifferInSecrets xs ys) :
    AgreeButSecrets (r.attachAll xs) (s.attachAll ys) := by
  induction hxy generalizing r s with
  | nil => exact h
  | @cons x y _ _ hhead _ ih =>
      obtain ⟨key, v⟩ := x
      obtain ⟨_, w⟩ := y
      obtain ⟨rfl, hvw⟩ := hhead
      exact ih (h.attach hvw)

/-- The entries for attached values do not depend on secrets: a key is
shown or not whatever its value, and a secret is shown as the same word. -/
theorem extraEntries_congr {xs ys : List (String × LogValue)}
    (h : DifferInSecrets xs ys) : extraEntries xs = extraEntries ys := by
  unfold extraEntries
  induction h with
  | nil => rfl
  | @cons x y _ _ hhead _ ih =>
      obtain ⟨key, v⟩ := x
      obtain ⟨_, w⟩ := y
      obtain ⟨rfl, hvw⟩ := hhead
      have hshown : shownValue key v = shownValue key w := by
        rcases hvw with hs | rfl
        · rw [shownValue_of_isSecret hs, shownValue_of_isSecret hs]
        · rfl
      rw [List.filter_cons, List.filter_cons]
      cases isShown key with
      | false => exact ih
      | true => exact congrArg₂ List.cons (Prod.ext rfl hshown) ih

/-- Records that agree but for secrets have the same entries, or the same
fault in making them. -/
theorem AgreeButSecrets.entries_eq {r s : Record}
    (h : AgreeButSecrets r s) (c : TraceContext) :
    r.entries c = s.entries c := by
  obtain ⟨hparts, hextras⟩ := h
  have hentries : extraEntries s.extras = extraEntries r.extras :=
    (extraEntries_congr hextras).symm
  rw [hparts]
  unfold entries
  simp only [hentries]
  rfl

/-- Records that agree but for secrets have the same text, the message
among the rest, which is made of the parts alone. -/
theorem AgreeButSecrets.text_eq {r s : Record} (h : AgreeButSecrets r s)
    (c : TraceContext) : r.text c = s.text c := by
  have hmessage : s.shownMessage = r.shownMessage := by
    rw [h.parts]
    rfl
  unfold text object
  rw [h.entries_eq c, hmessage]

-- ============================================================ redaction

/-- What stands beside the parts of a record, with one value more: the
value, unless its key stands for a part. -/
theorem extras_attach (r : Record) (x : String × LogValue) :
    (r.attach x.1 x.2).extras
      = r.extras ++ [x].filter fun e => e.1 ∉ partKeys := by
  obtain ⟨key, v⟩ := x
  by_cases hkey : key ∈ partKeys
  · rw [List.filter_cons_of_neg (by simpa using hkey), List.filter_nil,
      List.append_nil]
    simp only [partKeys, List.mem_cons, List.not_mem_nil, or_false] at hkey
    rcases hkey with rfl | rfl | rfl | rfl | rfl
    · rfl
    · rfl
    · rfl
    · rfl
    · rfl
  · rw [List.filter_cons_of_pos (by simpa using hkey), List.filter_nil,
      attach_of_notMem hkey]

/-- What stands beside the parts of a record, with a row of values
more. -/
theorem extras_attachAll (r : Record) (xs : List (String × LogValue)) :
    (r.attachAll xs).extras
      = r.extras ++ xs.filter fun e => e.1 ∉ partKeys := by
  induction xs generalizing r with
  | nil => exact (List.append_nil _).symm
  | cons x rest ih =>
      have hrest := ih (r.attach x.1 x.2)
      rw [extras_attach, List.append_assoc, ← List.filter_append] at hrest
      exact hrest

/-- A secret that is attached stands beside the parts of the record, since
its key stands for none of them. -/
theorem mem_extras_attachAll {xs : List (String × LogValue)}
    {x : String × LogValue} (hx : x ∈ xs) (hs : isSecret x.1 = true)
    (r : Record) : x ∈ (r.attachAll xs).extras := by
  have hpart : x.1 ∉ partKeys := by
    intro h
    rw [isSecret_of_mem_partKeys h] at hs
    cases hs
  rw [extras_attachAll]
  exact List.mem_append_right _ (List.mem_filter.2 ⟨hx, by simpa⟩)

/-- Whatever is under the key of a secret among the entries for attached
values is the fixed word. -/
theorem eq_redacted_of_mem {xs : List (String × LogValue)} {key : String}
    {v : Json} (hs : isSecret key = true)
    (h : (key, v) ∈ extraEntries xs) : v = .str "[REDACTED]" := by
  obtain ⟨x, -, hx⟩ := List.mem_map.1 h
  obtain ⟨rfl, rfl⟩ := Prod.mk.inj hx
  exact shownValue_of_isSecret hs x.2

/-- A secret that is shown has the fixed word as its entry. -/
theorem get?_entries_of_isSecret {r : Record} {c : TraceContext}
    {t : Table String Json} (ht : r.entries c = .ok t) {key : String}
    {v : LogValue} (hmem : (key, v) ∈ r.extras)
    (hs : isSecret key = true) (hshown : isShown key = true) :
    t.get? key = some (.str "[REDACTED]") := by
  obtain ⟨message, -, ht⟩ := bind_eq_ok.1 ht
  obtain ⟨component, -, ht⟩ := bind_eq_ok.1 ht
  obtain ⟨fault, -, ht⟩ := bind_eq_ok.1 ht
  injection ht with ht
  rw [← ht]
  unfold Table.ofList
  rw [Table.get?_putAll, List.reverse_append, Table.valueOf_append]
  -- the entry is there, and none under its key is another
  have hentry : key ∈ (extraEntries r.extras).reverse.map Prod.fst := by
    rw [List.map_reverse, List.mem_reverse]
    refine List.mem_map.2 ⟨(key, shownValue key v), ?_, rfl⟩
    exact List.mem_map.2 ⟨(key, v), List.mem_filter.2 ⟨hmem, hshown⟩, rfl⟩
  cases hv : Table.valueOf key (extraEntries r.extras).reverse with
  | none => exact absurd hentry (Table.valueOf_eq_none.1 hv)
  | some w =>
      have hw := List.mem_reverse.1 (Table.mem_of_valueOf hv)
      rw [eq_redacted_of_mem hs hw]
      rfl

/-- Two rows of values that differ in secrets only, attached to one
record, give it the same text, or the same fault in its place; and every
secret that is shown has a fixed word as its entry. -/
theorem text_attachAll_secrets (r : Record) (c : TraceContext)
    {xs ys : List (String × LogValue)} (h : DifferInSecrets xs ys) :
    (r.attachAll xs).text c = (r.attachAll ys).text c
      ∧ ∀ x ∈ xs, isSecret x.1 = true → isShown x.1 = true →
        ∀ t, (r.attachAll xs).entries c = .ok t →
          t.get? x.1 = some (.str "[REDACTED]") := by
  refine ⟨((AgreeButSecrets.refl r).attachAll h).text_eq c, ?_⟩
  intro x hx hs hshown t ht
  exact get?_entries_of_isSecret ht (mem_extras_attachAll hx hs r) hs
    hshown

/-- A record about a login. -/
def login : Record :=
  ⟨"2024-01-01T00:00:00+00:00", .plain (.str "INFO"),
    .plain (.str "search_schema.admin_client"), .plain (.str "login"),
    .tuple [], .absent, []⟩

/-- What is attached to it: a value in the place of its time, and two
secrets. -/
def credentials (password token : Json) : List (String × LogValue) :=
  [("timestamp", .plain (.str "solr")), ("Password", .plain password),
    ("TO\u212aEN", .plain token)]

/-- Two logins with other secrets have one text, in which the token,
spelled with the Kelvin sign, is the fixed word. -/
theorem text_attachAll_secrets_login :
    DifferInSecrets (credentials (.str "SolrRocks") (.int 1))
        (credentials .null (.arr [.bool true]))
      ∧ (login.attachAll (credentials (.str "SolrRocks") (.int 1))).text
          Table.empty
        = (login.attachAll (credentials .null (.arr [.bool true]))).text
          Table.empty
      ∧ ∃ t, (login.attachAll
            (credentials (.str "SolrRocks") (.int 1))).entries Table.empty
          = .ok t
        ∧ t.get? "TO\u212aEN" = some (.str "[REDACTED]") := by
  have hpassword : isSecret "Password" = true := by decide +kernel
  have htoken : isSecret "TO\u212aEN" = true := by decide +kernel
  have hdiffer : DifferInSecrets
      (credentials (.str "SolrRocks") (.int 1))
      (credentials .null (.arr [.bool true])) :=
    .cons ⟨rfl, Or.inr rfl⟩ (.cons ⟨rfl, Or.inl hpassword⟩
      (.cons ⟨rfl, Or.inl htoken⟩ .nil))
  obtain ⟨htext, hshown⟩ :=
    text_attachAll_secrets login Table.empty hdiffer
  refine ⟨hdiffer, htext, _, rfl, ?_⟩
  exact hshown ("TO\u212aEN", .plain (.int 1)) (by simp [credentials]) htoken
    (by decide +kernel) _ rfl

end SchemaAudit.Record
