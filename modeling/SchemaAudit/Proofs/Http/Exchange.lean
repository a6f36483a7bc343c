/-
What a client and a transport say to each other in one fetch.

# Exchanges

An exchange (`Exchange`) is a row of requests, each with what the
transport made of it: every request but the last was answered with a
redirect to the next one, and the last tells how the exchange ends -
with an answer that leads nowhere else, with a fault, or because the
redirects are used up. The transport is a function from the number of
requests sent so far to an outcome, and a log agrees with it from a
position on if its outcomes are those that are up there (`IsUpFrom`).

# Sending

An exchange with the outcomes that are up next is what sending comes to
(`send_of_exchange`), and there always is one (`exists_exchange`). So
nothing else has a part in it: not what was sent before, and no outcome
that is not reached. A fetch begins with a text for a URL, which may be
none; a dialogue (`Dialogue`) is an exchange with this beginning.
-/
import Mathlib.Data.List.Range
import SchemaAudit.Http.Client

namespace SchemaAudit.Http.Client

variable {ε : Type}

-- ============================================================ exchanges

/-- The requests of an exchange, each with what the transport made of
it. -/
abbrev Log (ε : Type) := List (Url × Outcome ε)

/-- An exchange that begins with the request for a URL and may follow a
number of redirects, and how it ends. -/
inductive Exchange : (redirects : Nat) → Url → Log ε →
    Except (SendFault ε) Response → Prop
  | refused {redirects : Nat} {url : Url} {outcome : Outcome ε}
      {fault : SendFault ε} (h : receive url outcome = .error fault) :
      Exchange redirects url [(url, outcome)] (.error fault)
  | final {redirects : Nat} {url : Url} {outcome : Outcome ε}
      {r : Response} (h : receive url outcome = .ok r)
      (hr : redirect? r = none) :
      Exchange redirects url [(url, outcome)] (.ok r)
  | astray {redirects : Nat} {url : Url} {outcome : Outcome ε}
      {r : Response} {location : String} {fault : SendFault ε}
      (h : receive url outcome = .ok r) (hr : redirect? r = some location)
      (hl : follow url location = .error fault) :
      Exchange redirects url [(url, outcome)] (.error fault)
  | exhausted {url next : Url} {outcome : Outcome ε} {r : Response}
      {location : String} (h : receive url outcome = .ok r)
      (hr : redirect? r = some location)
      (hl : follow (ε := ε) url location = .ok next) :
      Exchange 0 url [(url, outcome)]
        (.error (.broken "Exceeded maximum allowed redirects."))
  | followed {redirects : Nat} {url next : Url} {outcome : Outcome ε}
      {r : Response} {location : String} {log : Log ε}
      {ended : Except (SendFault ε) Response}
      (h : receive url outcome = .ok r) (hr : redirect? r = some location)
      (hl : follow (ε := ε) url location = .ok next)
      (hnext : Exchange redirects next log ended) :
      Exchange (redirects + 1) url ((url, outcome) :: log) ended

/-- The outcomes of a log are those that are up from a position on, each
request taking the next one. -/
def IsUpFrom (answer : Nat → Outcome ε) (k : Nat) (log : Log ε) : Prop :=
  log.map Prod.snd = (List.range' k log.length).map answer

variable {answer : Nat → Outcome ε} {log : Log ε}
variable {ended : Except (SendFault ε) Response}

/-- The first outcome of a log is up at the position, and the others from
the next one on. -/
theorem isUpFrom_cons {k : Nat} {url : Url} {outcome : Outcome ε} :
    IsUpFrom answer k ((url, outcome) :: log) ↔
      outcome = answer k ∧ IsUpFrom answer (k + 1) log := by
  unfold IsUpFrom
  rw [List.length_cons, List.range'_succ, List.map_cons, List.map_cons,
    List.cons.injEq]

theorem isUpFrom_singleton {k : Nat} {url : Url} {outcome : Outcome ε} :
    IsUpFrom answer k [(url, outcome)] ↔ outcome = answer k := by
  rw [isUpFrom_cons]
  exact and_iff_left rfl

-- ============================================================== sending

/-- An exchange with the outcomes that are up next is what sending comes
to: its requests are added to those that were sent, and its end is the
result. The induction is on the exchange, which makes the same steps as
the client. -/
theorem send_of_exchange {redirects : Nat} {sent : List Url} {url : Url}
    (h : Exchange redirects url log ended)
    (hup : IsUpFrom answer sent.length log) :
    send answer redirects sent url
      = (sent ++ log.map Prod.fst, ended) := by
  induction h generalizing sent with
  | refused h =>
      rw [isUpFrom_singleton] at hup
      unfold send
      simp only [← hup, h]
      rfl
  | final h hr =>
      rw [isUpFrom_singleton] at hup
      unfold send
      simp only [← hup, h, hr]
      rfl
  | astray h hr hl =>
      rw [isUpFrom_singleton] at hup
      unfold send
      simp only [← hup, h, hr, hl]
      rfl
  | exhausted h hr hl =>
      rw [isUpFrom_singleton] at hup
      unfold send
      simp only [← hup, h, hr, hl]
      rfl
  | @followed redirects url next outcome r location log ended h hr hl _ ih =>
      obtain ⟨houtcome, hup⟩ := isUpFrom_cons.1 hup
      -- the next request takes the next outcome, for one more was sent
      have hlength : (sent ++ [url]).length = sent.length + 1 :=
        List.length_append
      have hrest := ih (hlength ▸ hup)
      unfold send
      simp only [← houtcome, h, hr, hl, hrest]
      rw [List.append_assoc]
      rfl

/-- Every outcome that may be up lets an exchange go on or ends it, and it
ends after as many redirects as may be followed. So an exchange exists for
every transport. -/
theorem exists_exchange (answer : Nat → Outcome ε) (redirects k : Nat)
    (url : Url) :
    ∃ log ended, Exchange redirects url log ended
      ∧ IsUpFrom answer k log := by
  have hone : IsUpFrom answer k [(url, answer k)] :=
    isUpFrom_singleton.2 rfl
  cases h : receive url (answer k) with
  | error fault => exact ⟨_, _, .refused h, hone⟩
  | ok r =>
      cases hr : redirect? r with
      | none => exact ⟨_, _, .final h hr, hone⟩
      | some location =>
          cases hl : follow (ε := ε) url location with
          | error fault => exact ⟨_, _, .astray h hr hl, hone⟩
          | ok next =>
              cases redirects with
              | zero => exact ⟨_, _, .exhausted h hr hl, hone⟩
              | succ redirects =>
                  obtain ⟨log, ended, hnext, hup⟩ :=
                    exists_exchange answer redirects (k + 1) next
                  exact ⟨_, _, .followed h hr hl hnext,
                    isUpFrom_cons.2 ⟨rfl, hup⟩⟩

-- =============================================================== fetches

/-- What is said in a fetch from a text for a URL, and how it ends. A text
that is no URL ends it before anything is said. -/
inductive Dialogue (target : String) : Log ε →
    Except (SendFault ε) Response → Prop
  | unasked {fault : UrlFault} (h : requestUrl target = .error fault) :
      Dialogue target [] (.error (.escaped (.url fault)))
  | asked {url : Url} {log : Log ε} {ended : Except (SendFault ε) Response}
      (h : requestUrl target = .ok url)
      (hx : Exchange maxRedirects url log ended) :
      Dialogue target log ended

/-- A dialogue with the outcomes that are up next is what the request of a
client comes to; of the client only the URL and the number of its requests
so far have a part in it. -/
theorem request_of_dialogue {c : Client}
    (h : Dialogue c.schemaUrl log ended)
    (hup : IsUpFrom answer c.sent.length log) :
    c.request answer = (c.sent ++ log.map Prod.fst, ended) := by
  unfold request
  cases h with
  | unasked h =>
      rw [h]
      exact congrArg (·, _) (List.append_nil _).symm
  | asked h hx =>
      rw [h]
      exact send_of_exchange hx hup

/-- The request of a client always comes to a dialogue: to an empty one if
its URL is none, and to an exchange otherwise. -/
theorem exists_dialogue (c : Client) (answer : Nat → Outcome ε) :
    ∃ log ended, Dialogue c.schemaUrl log ended
      ∧ IsUpFrom answer c.sent.length log := by
  cases h : requestUrl c.schemaUrl with
  | error fault => exact ⟨[], _, .unasked h, rfl⟩
  | ok url =>
      obtain ⟨log, ended, hx, hup⟩ :=
        exists_exchange answer maxRedirects c.sent.length url
      exact ⟨log, ended, .asked h hx, hup⟩

end SchemaAudit.Http.Client
