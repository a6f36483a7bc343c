/-
What a fetch makes of the end of its dialogue with the transport. The
end is an answer or a fault, and which it is decides the fate of the
fetch (`turnsOut_readSent`): it delivers a schema exactly if an answer
of success holds one.

# Bodies

What a body holds is a relation between its bytes and a representation
(`BodyHolds`), and what breaks the reading of it another one
(`BodyBreaks`): a container that stands too deep in others, or a version
that overflows. A body that is JSON is read as its value is, so that
both come down to what is known of payloads; one that is no JSON is
neither. The two exclude each other, and a body holds one schema at
most.

# Answers

`Reads` is the list of what can come of an answer: there are four cases,
and each tells what it takes for granted. `TurnsOut` says the same of a
fetch, as equivalences that can be read from either end. An answer of
success that holds no schema is a fault of the protocol, with the two
exceptions of `BodyBreaks`: these break the fetch instead.
-/
import SchemaAudit.Http.Client
import SchemaAudit.Proofs.Payload

namespace SchemaAudit.Http

-- =============================================================== answers

/-- Whether an answer reports success: its status is one of the second
hundred. -/
def Response.IsSuccess (r : Response) : Prop :=
  200 ≤ r.status ∧ r.status ≤ 299

/-- A body that holds a schema, and what that represents. Bytes that are
no JSON hold none, and neither does JSON of another form. -/
def BodyHolds (bytes : List UInt8) (r : Representation) : Prop :=
  ∃ payload, readBody bytes = .ok payload ∧ Representation.Holds payload r

/-- A body that cannot be read to its end: a container in it stands too
deep in others, or its version is an integer beyond the largest
double. -/
inductive BodyBreaks (bytes : List UInt8) : Prop
  | tooDeep {container : Json.Container}
      (h : readBody bytes = .error (.tooDeep container))
  | versionOverflows {payload : Json} (h : readBody bytes = .ok payload)
      (hv : Representation.VersionOverflows payload)

section

variable {bytes : List UInt8} {payload : Json}

/-- What a body that is JSON holds is what is read from its value, since
bytes have one value at most. -/
theorem bodyHolds_iff (hread : readBody bytes = .ok payload)
    {r : Representation} :
    BodyHolds bytes r ↔ Representation.ofPayload payload = .ok r := by
  rw [Representation.ofPayload_eq_ok]
  constructor
  · intro h
    obtain ⟨payload', hread', hr⟩ := h
    rw [hread] at hread'
    injection hread' with he
    rw [he]
    exact hr
  · intro hr
    exact ⟨payload, hread, hr⟩

/-- A body that is JSON breaks the reading for its version only: whatever
is nested too deep is no value yet. -/
theorem bodyBreaks_iff (hread : readBody bytes = .ok payload) :
    BodyBreaks bytes ↔
      Representation.ofPayload payload = .error .versionTooLarge := by
  rw [Representation.ofPayload_eq_tooLarge]
  constructor
  · intro h
    cases h with
    | tooDeep h =>
        rw [hread] at h
        cases h
    | versionOverflows h hv =>
        rw [hread] at h
        injection h with he
        rw [he]
        exact hv
  · exact .versionOverflows hread

/-- A body holds one schema at most, so that an answer decides what a
fetch delivers. -/
theorem BodyHolds.unique {r s : Representation} (h : BodyHolds bytes r)
    (h' : BodyHolds bytes s) : r = s := by
  obtain ⟨payload, hread, -⟩ := id h
  rw [bodyHolds_iff hread] at h h'
  rw [h] at h'
  exact Except.ok.inj h'

/-- A body that breaks the reading holds no schema, so that a fetch that
breaks has withheld none. -/
theorem BodyBreaks.not_holds {r : Representation} (hb : BodyBreaks bytes) :
    ¬ BodyHolds bytes r := by
  intro h
  obtain ⟨payload, hread, -⟩ := id h
  rw [bodyHolds_iff hread] at h
  rw [bodyBreaks_iff hread, h] at hb
  cases hb

/-- A body that is no JSON neither holds a schema nor breaks the reading,
and is left for the protocol to blame. -/
theorem not_holds_of_notJson (hread : readBody bytes = .error .notJson) :
    (¬ ∃ r, BodyHolds bytes r) ∧ ¬ BodyBreaks bytes := by
  constructor
  · intro h
    obtain ⟨r, payload, hread', -⟩ := h
    rw [hread] at hread'
    cases hread'
  · intro hb
    cases hb with
    | tooDeep h =>
        rw [hread] at h
        cases h
    | versionOverflows h =>
        rw [hread] at h
        cases h

end

variable {ε : Type}

/-- What is read from an answer: it reports no success, its body breaks
the reading, holds a schema, or is of no use. Every case but the first
takes an answer of success, and their conditions exclude one another. -/
inductive Reads (response : Response) :
    Except (SourceFault (FetchEscape ε)) Representation → Prop
  | unsuccessful (hs : ¬ response.IsSuccess) (message : String) :
      Reads response (.error (.transport message))
  | broken (hs : response.IsSuccess) (hb : BodyBreaks response.body)
      (cause : FetchEscape ε) : Reads response (.error (.beyond cause))
  | holds (hs : response.IsSuccess) {r : Representation}
      (h : BodyHolds response.body r) : Reads response (.ok r)
  | unusable (hs : response.IsSuccess)
      (h : ¬ ∃ r, BodyHolds response.body r)
      (hb : ¬ BodyBreaks response.body) (message : String) :
      Reads response (.error (.protocol message))

/-- What is read from an answer of success whose body is JSON: of all that
can be amiss with the value, only an overflowing version is no fault of
the protocol. -/
theorem reads_ofPayload {response : Response} {payload : Json}
    (hs : response.IsSuccess) (hread : readBody response.body = .ok payload) :
    Reads (ε := ε) response
      ((Representation.ofPayload payload).mapError fun fault =>
        match fault with
        | .versionTooLarge => .beyond .versionTooLarge
        | _ => .protocol fault.message) := by
  cases hp : Representation.ofPayload payload with
  | ok r => exact .holds hs ((bodyHolds_iff hread).2 hp)
  | error fault =>
      have hnone : ¬ ∃ r, BodyHolds response.body r := by
        simp [bodyHolds_iff hread, hp]
      have hb : fault ≠ .versionTooLarge → ¬ BodyBreaks response.body := by
        simp [bodyBreaks_iff hread, hp]
      cases fault with
      | versionTooLarge =>
          exact .broken hs ((bodyBreaks_iff hread).2 hp) _
      | noSchema => exact .unusable hs hnone (hb nofun) _
      | versionNotNumber v => exact .unusable hs hnone (hb nofun) _
      | notEntries key => exact .unusable hs hnone (hb nofun) _

/-- What a client reads from an answer is one of the four things that can
be read from it. The status is looked at first, then the bytes, then the
value. -/
theorem reads_readResponse (url : String) (response : Response) :
    Reads (ε := ε) response (Client.readResponse url response) := by
  unfold Client.readResponse
  split
  case isTrue hs => exact .unsuccessful hs _
  case isFalse hs =>
      have hs : response.IsSuccess := not_not.1 hs
      split
      case h_1 hread =>
          obtain ⟨hnone, hb⟩ := not_holds_of_notJson hread
          exact .unusable hs hnone hb _
      case h_2 hread => exact .broken hs (.tooDeep hread) _
      case h_3 payload hread => exact reads_ofPayload hs hread

/-- What a fetch comes to, told by how its dialogue ended. There is an
equivalence for each of the four outcomes: a schema, a fault of the
protocol, one of the transport, and whatever passes through. -/
structure TurnsOut (ended : Except (Client.SendFault ε) Response)
    (fetched : Except (SourceFault (FetchEscape ε)) Representation) :
    Prop where
  ok : ∀ r, fetched = .ok r ↔
    ∃ response, ended = .ok response ∧ response.IsSuccess
      ∧ BodyHolds response.body r
  protocol : (∃ message, fetched = .error (.protocol message)) ↔
    ∃ response, ended = .ok response ∧ response.IsSuccess
      ∧ (¬ ∃ r, BodyHolds response.body r) ∧ ¬ BodyBreaks response.body
  transport : (∃ message, fetched = .error (.transport message)) ↔
    (∃ response, ended = .ok response ∧ ¬ response.IsSuccess)
      ∨ ∃ message, ended = .error (.timedOut message)
        ∨ ended = .error (.broken message)
  beyond : (∃ cause, fetched = .error (.beyond cause)) ↔
    (∃ response, ended = .ok response ∧ response.IsSuccess
      ∧ BodyBreaks response.body)
      ∨ ∃ cause, ended = .error (.escaped cause)

/-- The four cases exclude one another, and hence each outcome of a fetch
is told by its own of them. -/
theorem turnsOut_of_reads {response : Response}
    {fetched : Except (SourceFault (FetchEscape ε)) Representation}
    (h : Reads response fetched) : TurnsOut (.ok response) fetched := by
  cases h with
  | unsuccessful hs message =>
      constructor <;> simp [hs]
  | broken hs hb cause =>
      have hnone : ∀ r, ¬ BodyHolds response.body r :=
        fun r => hb.not_holds
      constructor <;> simp [hs, hb, hnone]
  | @holds hs r h =>
      have hb : ¬ BodyBreaks response.body := fun hb => hb.not_holds h
      have hsome : ∃ r, BodyHolds response.body r := ⟨r, h⟩
      have hsame : ∀ s, r = s ↔ BodyHolds response.body s := fun s =>
        ⟨fun he => he ▸ h, h.unique⟩
      constructor <;> simp [hs, hb, hsome, hsame]
  | unusable hs h hb message =>
      have hnone : ∀ r, ¬ BodyHolds response.body r := not_exists.1 h
      constructor <;> simp [hs, hb, hnone]

/-- What a fetch comes to is told by how its dialogue ended, whether with
an answer, with a fault of the transport or with something else that is
raised. -/
theorem turnsOut_readSent (url : String)
    (ended : Except (Client.SendFault ε) Response) :
    TurnsOut ended (Client.readSent url ended) := by
  cases ended with
  | ok response => exact turnsOut_of_reads (reads_readResponse url response)
  | error fault =>
      cases fault with
      | timedOut message =>
          constructor <;> simp [Client.readSent]
      | broken message =>
          constructor <;> simp [Client.readSent]
      | escaped cause =>
          constructor <;> simp [Client.readSent]

end SchemaAudit.Http
