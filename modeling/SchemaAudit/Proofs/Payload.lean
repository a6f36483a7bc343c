/-
Bodies of answers. A body holds a schema exactly if it is an object with
an object under `schema`, whose version is absent, null or a number that
has a nearest double, and whose four lists are each absent or a list of
objects; name and unique key may be anything (`Holds`). What is read
from it is what stands there (`ofPayload_eq_ok`), and every other body
is refused for the first thing that is wrong with it
(`ofPayload_eq_error`).

# What may stand where

For each part there is a small inductive type of what may stand there
and what it is then taken for (`IsVersion`, `IsEntries`), and one
equivalence between it and the reader of that part. `Represents` puts
the parts together, and `IsRefusedFor` names the first of them that is
not as it should be. The four lists are looked at in a fixed order; that
they are refused together as they are one by one makes the first
offender the one that is told.

# Huge versions

A refusal is a fault of the protocol, with one exception
(`ofPayload_reads_iff`): a version that is an integer from
`Binary64.overflowBound` on passes for a number and then is none,
because it has no nearest double. That bound is exact, and the least
such version shows that nothing else need be amiss
(`ofPayload_leastHugeVersion`).
-/
import SchemaAudit.Proofs.Binary64
import SchemaAudit.Proofs.Outcome
import SchemaAudit.Representation

namespace SchemaAudit

open Outcome

/-- Whether a fault of a body is one of the protocol: it is, unless a
number does not fit. -/
def PayloadFault.isProtocol : PayloadFault → Bool
  | .versionTooLarge => false
  | _ => true

namespace Representation

-- ================================================================ parts

/-- What may stand for the version of a schema, and the version that it
is. A flag may not, although it passes for a number elsewhere, nor may a
text. -/
inductive IsVersion : Option Json → Option Binary64 → Prop
  | absent : IsVersion none none
  | null : IsVersion (some .null) none
  | float (x : Binary64) : IsVersion (some (.float x)) (some x)
  | int {n : Int} {x : Binary64} (h : Binary64.ofInt? n = some x) :
      IsVersion (some (.int n)) (some x)

/-- What may stand for a list of entries, and the entries. Nothing stands
for the empty list, but null does not. -/
inductive IsEntries : Option Json → List RawEntry → Prop
  | absent : IsEntries none []
  | listed (es : List RawEntry) : IsEntries (some (.arr (es.map .obj))) es

/-- A version is read exactly if it is one that may stand there, and as
what it is. -/
theorem readVersion_eq_ok {schema : RawEntry} {v : Option Binary64} :
    readVersion schema = .ok v ↔
      IsVersion (Json.find? "version" schema) v := by
  unfold readVersion
  constructor
  · intro h
    split at h
    case h_1 heq =>
        injection h with h
        rw [heq, ← h]
        exact .absent
    case h_2 heq =>
        injection h with h
        rw [heq, ← h]
        exact .null
    case h_3 heq =>
        injection h with h
        rw [heq, ← h]
        exact .float _
    case h_4 heq =>
        split at h
        case h_1 hn =>
            injection h with h
            rw [heq, ← h]
            exact .int hn
        case h_2 => cases h
    case h_5 => cases h
  · intro h
    -- the reader looks at nothing but the value under the key
    generalize Json.find? "version" schema = given at h
    cases h with
    | absent => rfl
    | null => rfl
    | float x => rfl
    | int hn =>
        simp only [hn]

/-- A row of values is a list of objects exactly if each of them is
one. -/
theorem mapM_entries?_eq_some {items : List Json} {es : List RawEntry} :
    items.mapM entries? = some es ↔ items = es.map .obj := by
  induction items generalizing es with
  | nil =>
      rw [List.mapM_nil]
      cases es <;> simp
  | cons item rest ih =>
      rw [List.mapM_cons]
      cases item with
      | obj entries =>
          show (rest.mapM entries?).bind (fun es => some (entries :: es))
            = some es ↔ _
          rw [Option.bind_eq_some_iff]
          constructor
          · intro h
            obtain ⟨tail, htail, h⟩ := h
            rw [← Option.some.inj h, ih.1 htail]
            rfl
          · intro h
            cases es with
            | nil => cases h
            | cons e tail =>
                obtain ⟨he, htail⟩ := List.cons.inj h
                injection he with he
                exact ⟨tail, ih.2 htail, by rw [he]⟩
      | _ => cases es <;> simp [entries?]

/-- A list of entries is read exactly if it is absent or a list of
objects. -/
theorem readEntries_eq_ok {schema : RawEntry} {key : String}
    {es : List RawEntry} :
    readEntries schema key = .ok es ↔
      IsEntries (Json.find? key schema) es := by
  unfold readEntries
  constructor
  · intro h
    split at h
    case h_1 heq =>
        injection h with h
        rw [heq, ← h]
        exact .absent
    case h_2 heq =>
        split at h
        case h_1 hitems =>
            injection h with h
            rw [heq, mapM_entries?_eq_some.1 hitems, h]
            exact .listed es
        case h_2 => cases h
    case h_3 => cases h
  · intro h
    generalize Json.find? key schema = given at h
    cases h with
    | absent => rfl
    | listed es => simp only [mapM_entries?_eq_some.2 rfl]

/-- A list that is refused is refused under its key, whatever it is
instead of a list of objects. -/
theorem readEntries_eq_error {schema : RawEntry} {key : String}
    {fault : PayloadFault} :
    readEntries schema key = .error fault ↔
      fault = .notEntries key
        ∧ ¬ ∃ es, IsEntries (Json.find? key schema) es := by
  have hfault : ∀ f, readEntries schema key = .error f →
      f = .notEntries key := by
    intro f h
    unfold readEntries at h
    split at h
    case h_1 => cases h
    case h_2 =>
        split at h
        case h_1 => cases h
        case h_2 =>
            injection h with h
            exact h.symm
    case h_3 =>
        injection h with h
        exact h.symm
  simp only [← readEntries_eq_ok]
  cases hread : readEntries schema key with
  | ok es => simp
  | error f =>
      rw [hfault f hread]
      simp [eq_comm]

-- =============================================================== bodies

/-- The schema object of a body. -/
def HasSchema (body : Json) (schema : RawEntry) : Prop :=
  ∃ top, body = .obj top ∧ Json.find? "schema" top = some (.obj schema)

/-- A schema object and what it represents, nothing of it changed. Keys
beside these seven may be there and mean nothing. -/
structure Represents (schema : RawEntry) (r : Representation) : Prop where
  version : IsVersion (Json.find? "version" schema) r.version
  name : r.name = (Json.find? "name" schema).getD .null
  uniqueKey : r.uniqueKey = (Json.find? "uniqueKey" schema).getD .null
  fields : IsEntries (Json.find? "fields" schema) r.fields
  dynamicFields :
    IsEntries (Json.find? "dynamicFields" schema) r.dynamicFields
  copyFields : IsEntries (Json.find? "copyFields" schema) r.copyFields
  fieldTypes : IsEntries (Json.find? "fieldTypes" schema) r.fieldTypes

/-- A body that holds a schema, and what that represents. -/
def Holds (body : Json) (r : Representation) : Prop :=
  ∃ schema, HasSchema body schema ∧ Represents schema r

/-- The schema object of a body is found exactly if there is one. -/
theorem schema?_eq_some {body : Json} {schema : RawEntry} :
    schema? body = some schema ↔ HasSchema body schema := by
  unfold schema? HasSchema
  cases body with
  | obj top =>
      show (Json.find? "schema" top).bind entries? = _ ↔ _
      cases hfound : Json.find? "schema" top with
      | none => simp [hfound]
      | some value => cases value <;> simp [entries?, hfound]
  | _ => simp [Json.field?]

/-- What is read from a body is what it holds, part by part and nothing of
it changed. -/
theorem ofPayload_eq_ok {body : Json} {r : Representation} :
    ofPayload body = .ok r ↔ Holds body r := by
  unfold ofPayload Holds
  simp only [← schema?_eq_some]
  cases schema? body with
  | none => simp
  | some schema =>
      simp only [bind_eq_ok, readVersion_eq_ok, readEntries_eq_ok]
      constructor
      · intro h
        obtain ⟨version, hversion, fields, hfields, dynamics, hdynamics,
          copies, hcopies, types, htypes, h⟩ := h
        injection h with h
        subst h
        exact ⟨schema, rfl, hversion, rfl, rfl, hfields, hdynamics,
          hcopies, htypes⟩
      · intro h
        obtain ⟨schema', hschema, h⟩ := h
        injection hschema with hschema
        subst hschema
        refine ⟨_, h.version, _, h.fields, _, h.dynamicFields, _,
          h.copyFields, _, h.fieldTypes, ?_⟩
        rw [← h.name, ← h.uniqueKey]

-- ============================================================= refusals

/-- The keys of the lists of a schema, in the order in which they are
read. -/
def entryKeys : List String :=
  ["fields", "dynamicFields", "copyFields", "fieldTypes"]

/-- Why a body holds no schema: it has no schema object, or its version is
no number, or one that has no nearest double, or a list is none - the
first of them under whose key that is so. -/
inductive IsRefusedFor (body : Json) : PayloadFault → Prop
  | noSchema (h : ¬ ∃ schema, HasSchema body schema) :
      IsRefusedFor body .noSchema
  | versionNotNumber {schema : RawEntry} {version : Json}
      (hschema : HasSchema body schema)
      (hversion : Json.find? "version" schema = some version)
      (hnull : version ≠ .null) (hint : ∀ n, version ≠ .int n)
      (hfloat : ∀ x, version ≠ .float x) :
      IsRefusedFor body (.versionNotNumber version)
  | versionTooLarge {schema : RawEntry} {n : Int}
      (hschema : HasSchema body schema)
      (hversion : Json.find? "version" schema = some (.int n))
      (hn : Binary64.overflowBound ≤ n.natAbs) :
      IsRefusedFor body .versionTooLarge
  | notEntries {schema : RawEntry} {before after : List String}
      {key : String} (hschema : HasSchema body schema)
      (hversion : ∃ v, IsVersion (Json.find? "version" schema) v)
      (hkeys : entryKeys = before ++ key :: after)
      (hbefore : ∀ k ∈ before, ∃ es, IsEntries (Json.find? k schema) es)
      (hkey : ¬ ∃ es, IsEntries (Json.find? key schema) es) :
      IsRefusedFor body (.notEntries key)

/-- Why a version is refused. -/
theorem readVersion_eq_error {schema : RawEntry} {fault : PayloadFault} :
    readVersion schema = .error fault ↔
      (∃ n, Json.find? "version" schema = some (.int n)
          ∧ Binary64.overflowBound ≤ n.natAbs ∧ fault = .versionTooLarge)
        ∨ ∃ version, Json.find? "version" schema = some version
          ∧ version ≠ .null ∧ (∀ n, version ≠ .int n)
          ∧ (∀ x, version ≠ .float x)
          ∧ fault = .versionNotNumber version := by
  unfold readVersion
  cases Json.find? "version" schema with
  | none => simp
  | some version =>
      cases version with
      | int n =>
          simp only [← Binary64.ofInt?_eq_none]
          cases hn : Binary64.ofInt? n <;> simp [hn, eq_comm]
      | _ => simp [eq_comm]

/-- The lists of a schema are refused together as they are one by one. -/
theorem readLists_eq_error {schema : RawEntry} {fault : PayloadFault}
    {build : List RawEntry → List RawEntry → List RawEntry →
      List RawEntry → Representation} :
    (do
      let fields ← readEntries schema "fields"
      let dynamicFields ← readEntries schema "dynamicFields"
      let copyFields ← readEntries schema "copyFields"
      let fieldTypes ← readEntries schema "fieldTypes"
      Except.ok (build fields dynamicFields copyFields fieldTypes))
        = .error fault ↔
      entryKeys.mapM (readEntries schema) = .error fault := by
  have herror : ∀ f : PayloadFault,
      (Except.error f : Except PayloadFault Representation) = .error fault
        ↔ (Except.error f : Except PayloadFault (List (List RawEntry)))
          = .error fault := by
    intro f
    rw [Except.error.injEq, Except.error.injEq]
  unfold entryKeys
  simp only [List.mapM_cons, List.mapM_nil]
  cases readEntries schema "fields" with
  | error f => exact herror f
  | ok fields =>
      cases readEntries schema "dynamicFields" with
      | error f => exact herror f
      | ok dynamicFields =>
          cases readEntries schema "copyFields" with
          | error f => exact herror f
          | ok copyFields =>
              cases readEntries schema "fieldTypes" with
              | error f => exact herror f
              | ok fieldTypes => exact iff_of_false nofun nofun

/-- A body that holds no schema is refused for what is wrong with it, the
first thing in the order in which its parts are looked at. -/
theorem ofPayload_eq_error {body : Json} {fault : PayloadFault} :
    ofPayload body = .error fault ↔ IsRefusedFor body fault := by
  unfold ofPayload
  cases hschema? : schema? body with
  | none =>
      -- without a schema there is one reason only
      have hnone : ¬ ∃ schema, HasSchema body schema := by
        intro h
        obtain ⟨schema, h⟩ := h
        rw [schema?_eq_some.2 h] at hschema?
        cases hschema?
      constructor
      · intro h
        injection h with h
        rw [← h]
        exact .noSchema hnone
      · intro h
        cases h with
        | noSchema => rfl
        | versionNotNumber hs => exact absurd ⟨_, hs⟩ hnone
        | versionTooLarge hs => exact absurd ⟨_, hs⟩ hnone
        | notEntries hs => exact absurd ⟨_, hs⟩ hnone
  | some schema =>
      have hschema : HasSchema body schema := schema?_eq_some.1 hschema?
      -- a body holds one schema, so all that is told of one is told of this
      have hsame : ∀ schema', HasSchema body schema' → schema' = schema := by
        intro schema' h
        rw [schema?_eq_some.2 h] at hschema?
        exact Option.some.inj hschema?
      -- the version is read before the lists
      show readVersion schema >>= _ = _ ↔ _
      rw [bind_eq_error, readVersion_eq_error]
      simp only [readLists_eq_error, mapM_eq_error, readVersion_eq_ok,
        readEntries_eq_ok, readEntries_eq_error]
      constructor
      · intro h
        rcases h with (⟨n, hversion, hn, rfl⟩
            | ⟨version, hversion, hnull, hint, hfloat, rfl⟩)
          | ⟨v, hversion, before, key, after, hkeys, hbefore, rfl, hkey⟩
        · exact .versionTooLarge hschema hversion hn
        · exact .versionNotNumber hschema hversion hnull hint hfloat
        · exact .notEntries hschema ⟨v, hversion⟩ hkeys hbefore hkey
      · intro h
        cases h with
        | noSchema h => exact absurd ⟨schema, hschema⟩ h
        | versionNotNumber hs hversion hnull hint hfloat =>
            rw [hsame _ hs] at hversion
            exact Or.inl (Or.inr
              ⟨_, hversion, hnull, hint, hfloat, rfl⟩)
        | versionTooLarge hs hversion hn =>
            rw [hsame _ hs] at hversion
            exact Or.inl (Or.inl ⟨_, hversion, hn, rfl⟩)
        | notEntries hs hversion hkeys hbefore hkey =>
            obtain ⟨v, hversion⟩ := hversion
            rw [hsame _ hs] at hversion hbefore hkey
            exact Or.inr ⟨v, hversion, _, _, _, hkeys, hbefore, rfl, hkey⟩

-- ======================================================= huge versions

/-- The version in a body is an integer beyond the largest double. The
four lists are not looked at, since the version is read first. -/
def VersionOverflows (body : Json) : Prop :=
  ∃ schema n, schema? body = some schema
    ∧ Json.find? "version" schema = some (.int n)
    ∧ Binary64.ofInt? n = none

/-- A body is refused for its version alone exactly if that overflows; the
lists have not been looked at then. -/
theorem ofPayload_eq_tooLarge {body : Json} :
    ofPayload body = .error .versionTooLarge ↔ VersionOverflows body := by
  rw [ofPayload_eq_error]
  unfold VersionOverflows
  simp only [schema?_eq_some, Binary64.ofInt?_eq_none]
  constructor
  · intro h
    cases h with
    | versionTooLarge hschema hversion hn =>
        exact ⟨_, _, hschema, hversion, hn⟩
  · intro h
    obtain ⟨schema, n, hschema, hversion, hn⟩ := h
    exact .versionTooLarge hschema hversion hn

/-- Only a version that is too large is no fault of the protocol. -/
theorem isProtocol_eq_false {fault : PayloadFault} :
    fault.isProtocol = false ↔ fault = .versionTooLarge := by
  cases fault <;> simp [PayloadFault.isProtocol]

/-- What is read from a body and why one is refused, exactly. A refusal is
a fault of the protocol unless the version is an integer beyond the
largest double; then it is none, whatever else the body holds. -/
theorem ofPayload_reads_iff (body : Json) :
    (∀ r, ofPayload body = .ok r ↔ Holds body r)
      ∧ (∀ fault, ofPayload body = .error fault ↔
          IsRefusedFor body fault)
      ∧ ((∃ fault, ofPayload body = .error fault
            ∧ fault.isProtocol = true) ↔
          (¬ ∃ r, Holds body r) ∧ ¬ VersionOverflows body)
      ∧ ((∃ fault, ofPayload body = .error fault
            ∧ fault.isProtocol = false) ↔ VersionOverflows body) := by
  refine ⟨fun r => ofPayload_eq_ok, fun fault => ofPayload_eq_error, ?_, ?_⟩
  · simp only [← ofPayload_eq_ok, ← ofPayload_eq_tooLarge]
    cases hread : ofPayload body with
    | ok r => simp
    | error fault =>
        cases fault <;> simp [PayloadFault.isProtocol]
  · rw [← ofPayload_eq_tooLarge]
    simp only [isProtocol_eq_false, exists_eq_right]

/-- The least version that is too large, with nothing else amiss: the body
is refused, and not with a fault of the protocol. -/
theorem ofPayload_leastHugeVersion :
    ofPayload (.obj [("schema",
        .obj [("version", .int Binary64.overflowBound)])])
      = .error .versionTooLarge
      ∧ PayloadFault.isProtocol .versionTooLarge = false := by
  refine ⟨ofPayload_eq_error.2 ?_, rfl⟩
  exact .versionTooLarge ⟨_, rfl, rfl⟩ rfl (Nat.le_refl _)

end Representation

end SchemaAudit
