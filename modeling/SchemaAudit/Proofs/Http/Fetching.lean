/-
A client over its calls.

# Runs

A fetch opens a client and a close closes it, as often as one likes;
every fetch counts once, however it ends. `Follows` is what a row of
calls makes of a client, and every row makes it of a new one
(`follows_run`), since every call adds itself to it.

# The next fetch

What a fetch comes to is told by its dialogue with the transport, and
the dialogue by the URL and the outcomes that are up next. So a fetch in
the middle of a run comes to what it would come to on any other client
for the same collection, whatever was fetched, failed or was closed
before (`run_then_fetch`).

# A fetch that breaks

A body of nothing but nested arrays shows that a fetch can break on an
answer of success (`fetch_nestedArrays`). That the fetch gets so far takes
a URL that can be requested. Quoting recurses on the length of a text,
which does not evaluate; on a text with nothing to quote it is the text
(`quoteChars_of_safe`), and then the URL is found by computation.
-/
import Mathlib.Data.List.Induction
import SchemaAudit.Proofs.Http.Answer
import SchemaAudit.Proofs.Http.Exchange
import SchemaAudit.Proofs.Http.Nesting

namespace SchemaAudit.Http

-- =============================================================== texts

/-- Characters that stand for themselves are left as they are. -/
theorem quoteChars_of_safe {safe : Char → Bool} {cs : List Char}
    (h : ∀ c ∈ cs, c ≠ '%' ∧ (isUnreserved c || safe c) = true) :
    quoteChars safe cs = cs := by
  induction cs with
  | nil => rw [quoteChars]
  | cons c rest ih =>
      obtain ⟨⟨hpercent, hsafe⟩, hrest⟩ := List.forall_mem_cons.1 h
      rw [quoteChars, if_pos hsafe, ih hrest]
      · rfl
      · intro a b tail hc
        exact absurd hc hpercent

/-- Quoting looks first whether there is anything to quote. In this form
it evaluates on texts where there is nothing. -/
theorem quote_eq_ite :
    quote = fun safe cs =>
      if cs.all fun c => c != '%' && (isUnreserved c || safe c) then
        String.ofList cs
      else quote safe cs := by
  funext safe cs
  split
  case isTrue h =>
      refine congrArg String.ofList (quoteChars_of_safe fun c hc => ?_)
      have hall := List.all_eq_true.1 h c hc
      rwa [Bool.and_eq_true, bne_iff_ne] at hall
  case isFalse => rfl

/-- The authority of a URL, with the colon of its host looked for among
the characters. -/
theorem Url.authority_eq :
    Url.authority = fun u =>
      authorityText u.userinfo
        (if ':' ∈ u.host.toList then "[" ++ u.host ++ "]" else u.host)
        u.port := by
  funext u
  unfold Url.authority
  simp only [String.contains_char_eq, decide_eq_true_eq]

namespace Client

variable {ε : Type}

-- ================================================================ calls

/-- What can be done with a client. -/
inductive Call where
  | fetch
  | close
  deriving DecidableEq

/-- A client after a call. -/
def after (answer : Nat → Outcome ε) (c : Client) : Call → Client
  | .fetch => (c.fetch answer).value.1
  | .close => c.close

/-- A client after a row of calls. -/
def run (answer : Nat → Outcome ε) (c : Client) (calls : List Call) :
    Client :=
  calls.foldl (after answer) c

theorem run_concat (answer : Nat → Outcome ε) (c : Client)
    (calls : List Call) (call : Call) :
    run answer c (calls ++ [call])
      = after answer (run answer c calls) call := by
  unfold run
  rw [List.foldl_append]
  rfl

/-- What a fetch does: it opens the client, keeps what was sent, counts
itself, and makes of the end of its dialogue what there is to make. -/
theorem value_fetch (c : Client) (answer : Nat → Outcome ε) :
    (c.fetch answer).value
      = ({ c with
            isOpen := true
            sent := (c.request answer).1
            fetches := Counts.bump c.fetches c.collection },
          readSent c.schemaUrl (c.request answer).2) := by
  unfold fetch
  rw [Logged.value_bind]
  cases h : readSent c.schemaUrl (c.request answer).2 with
  | error fault =>
      simp only [h]
      rfl
  | ok r =>
      simp only [h]
      rfl

-- ================================================================= runs

/-- Whether a row of calls holds a fetch with no close behind it. It
speaks of the calls alone and knows nothing of clients. -/
def FetchedSinceClose (calls : List Call) : Prop :=
  ∃ before behind, calls = before ++ .fetch :: behind ∧ .close ∉ behind

theorem fetchedSinceClose_concat_fetch (calls : List Call) :
    FetchedSinceClose (calls ++ [.fetch]) :=
  ⟨calls, [], rfl, List.not_mem_nil⟩

theorem not_fetchedSinceClose_concat_close (calls : List Call) :
    ¬ FetchedSinceClose (calls ++ [.close]) := by
  intro h
  obtain ⟨before, behind, hsplit, hclose⟩ := h
  have hlast : (Call.fetch :: behind).getLast? = some .close := by
    rw [← List.getLast?_append_cons before, ← hsplit, List.getLast?_concat]
  rcases List.mem_cons.1 (List.mem_of_getLast? hlast) with h | h
  · cases h
  · exact hclose h

/-- What a row of calls makes of a client: it stays a client of its engine
and its collection, is open if a fetch came since the last close, and has
counted the fetches, for its collection and for no other. -/
structure Follows (baseUrl collection : String) (calls : List Call)
    (c : Client) : Prop where
  baseUrl : c.baseUrl = (new baseUrl collection).baseUrl
  target : c.collection = collection
  isOpen : c.isOpen = true ↔ FetchedSinceClose calls
  fetches : ∀ k, Counts.count c.fetches k
    = if k = collection then calls.count Call.fetch else 0

section

variable {baseUrl collection : String} {calls : List Call} {c : Client}

/-- A client that was not called yet is closed and has counted nothing. -/
theorem follows_new (baseUrl collection : String) :
    Follows baseUrl collection [] (new baseUrl collection) where
  baseUrl := rfl
  target := rfl
  isOpen := by
    refine iff_of_false Bool.false_ne_true fun h => ?_
    obtain ⟨before, behind, hsplit, -⟩ := h
    simp at hsplit
  fetches k := by
    rw [List.count_nil, ite_self]
    rfl

/-- One more fetch opens the client and counts once, however it ends. -/
theorem Follows.fetch (h : Follows baseUrl collection calls c)
    (answer : Nat → Outcome ε) :
    Follows baseUrl collection (calls ++ [.fetch])
      (after answer c .fetch) := by
  unfold after
  rw [value_fetch]
  exact {
    baseUrl := h.baseUrl
    target := h.target
    isOpen := iff_of_true rfl (fetchedSinceClose_concat_fetch calls)
    fetches := by
      intro k
      show Counts.count (Counts.bump c.fetches c.collection) k = _
      rw [Counts.count_bump, h.fetches, h.target, List.count_append,
        List.count_singleton_self]
      split <;> rfl }

theorem Follows.close (h : Follows baseUrl collection calls c)
    (answer : Nat → Outcome ε) :
    Follows baseUrl collection (calls ++ [.close])
      (after answer c .close) where
  baseUrl := h.baseUrl
  target := h.target
  isOpen := iff_of_false Bool.false_ne_true
    (not_fetchedSinceClose_concat_close calls)
  fetches k := by
    show Counts.count c.fetches k = _
    rw [h.fetches, List.count_append]
    rfl

end

/-- After any row of calls a client is open exactly if a fetch came since
the last close, and has counted every fetch for its collection. The
induction is on the row from its end, where the next call comes. -/
theorem follows_run (answer : Nat → Outcome ε)
    (baseUrl collection : String) (calls : List Call) :
    Follows baseUrl collection calls
      (run answer (new baseUrl collection) calls) := by
  induction calls using List.reverseRecOn with
  | nil => exact follows_new baseUrl collection
  | append_singleton calls call ih =>
      rw [run_concat]
      cases call with
      | fetch => exact ih.fetch answer
      | close => exact ih.close answer

theorem Follows.schemaUrl {baseUrl collection : String}
    {calls : List Call} {c : Client}
    (h : Follows baseUrl collection calls c) :
    c.schemaUrl = (new baseUrl collection).schemaUrl := by
  unfold Client.schemaUrl
  rw [h.baseUrl, h.target]
  rfl

-- ============================================================== fetches

/-- What a fetch comes to is told by a dialogue with the outcomes that are
up next: its requests are sent, and its end is made of the end of the
dialogue. -/
theorem fetch_of_dialogue {c : Client} {answer : Nat → Outcome ε}
    {log : Log ε} {ended : Except (SendFault ε) Response}
    (h : Dialogue c.schemaUrl log ended)
    (hup : IsUpFrom answer c.sent.length log) :
    (c.fetch answer).value.1.sent = c.sent ++ log.map Prod.fst
      ∧ (c.fetch answer).value.2 = readSent c.schemaUrl ended := by
  rw [value_fetch, request_of_dialogue h hup]
  exact ⟨rfl, rfl⟩

/-- A client after any row of fetches and closes, whatever the transport
made of the requests, and the next fetch on it: when the client is open,
how many fetches it has counted, and what the fetch comes to, which is
what it comes to on every client for the same URL that has the same
outcomes before it. -/
theorem run_then_fetch (answer : Nat → Outcome ε)
    (baseUrl collection : String) (calls : List Call) :
    let c := run answer (new baseUrl collection) calls
    (c.isOpen = true ↔ FetchedSinceClose calls)
      ∧ (∀ k, Counts.count c.fetches k
        = if k = collection then calls.count Call.fetch else 0)
      ∧ ∃ log ended,
        Dialogue (new baseUrl collection).schemaUrl log ended
        ∧ IsUpFrom answer c.sent.length log
        ∧ (c.fetch answer).value.1.sent = c.sent ++ log.map Prod.fst
        ∧ TurnsOut ended (c.fetch answer).value.2
        ∧ ∀ (d : Client) (other : Nat → Outcome ε),
          d.schemaUrl = (new baseUrl collection).schemaUrl →
          IsUpFrom other d.sent.length log →
          (d.fetch other).value.2 = (c.fetch answer).value.2 := by
  intro c
  have hfollows : Follows baseUrl collection calls c :=
    follows_run answer baseUrl collection calls
  obtain ⟨log, ended, hdialogue, hup⟩ := exists_dialogue c answer
  obtain ⟨hsent, hfetched⟩ := fetch_of_dialogue hdialogue hup
  refine ⟨hfollows.isOpen, hfollows.fetches, log, ended,
    hfollows.schemaUrl ▸ hdialogue, hup, hsent, ?_, ?_⟩
  · rw [hfetched]
    exact turnsOut_readSent c.schemaUrl ended
  · intro d other htarget hother
    have hsame : d.schemaUrl = c.schemaUrl :=
      htarget.trans hfollows.schemaUrl.symm
    rw [(fetch_of_dialogue (hsame ▸ hdialogue) hother).2, hfetched, hsame]

-- ======================================================== nested arrays

/-- An answer of success whose body is nothing but arrays in one
another. -/
def nestedArrays : Response where
  status := 200
  headers := []
  body := List.replicate 3000 0x5b ++ List.replicate 3000 0x5d

theorem readBody_nestedArrays :
    readBody nestedArrays.body = .error (.tooDeep .array) := by
  refine readBody_opened (by decide) fun b hb => ?_
  obtain rfl := List.eq_of_mem_replicate hb
  decide

/-- A client of one collection. -/
def sample : Client := new "http://localhost:8983/solr" "books"

/-- Its URL can be requested, and names a type. -/
theorem requestUrl_sample :
    ∃ url, requestUrl sample.schemaUrl = .ok url
      ∧ namesType url.text = true := by
  have htest : (match requestUrl sample.schemaUrl with
      | .ok url => namesType url.text
      | .error _ => false) = true := by
    unfold requestUrl Url.parse Url.withQuery Url.assemble Url.parts
      ofParts readHost Url.text
    rw [quote_eq_ite, Url.authority_eq]
    decide +kernel
  cases h : requestUrl sample.schemaUrl with
  | ok url =>
      rw [h] at htest
      exact ⟨url, rfl, htest⟩
  | error fault =>
      rw [h] at htest
      cases htest

/-- The transport hands such an answer on as it is to whoever asks with a
URL that names a type. -/
theorem receive_nestedArrays {url : Url} (h : namesType url.text = true) :
    receive (ε := ε) url (.answered nestedArrays) = .ok nestedArrays := by
  show (if namesType url.text then _ else _) = _
  rw [if_pos h]

/-- Such an answer ends the dialogue, reports success and holds no schema,
and the fetch comes to neither a schema nor a fault of its source. -/
theorem fetch_nestedArrays :
    let answer : Nat → Outcome Empty := fun _ => .answered nestedArrays
    (sample.request answer).2 = .ok nestedArrays
      ∧ nestedArrays.IsSuccess
      ∧ (¬ ∃ r, BodyHolds nestedArrays.body r)
      ∧ (sample.fetch answer).value.2
        = .error (.beyond (.tooDeep .array)) := by
  intro answer
  obtain ⟨url, hurl, htype⟩ := requestUrl_sample
  have hdialogue : Dialogue sample.schemaUrl [(url, answer 0)]
      (.ok nestedArrays) :=
    .asked hurl (.final (receive_nestedArrays htype) rfl)
  have hup : IsUpFrom answer sample.sent.length [(url, answer 0)] :=
    isUpFrom_singleton.2 rfl
  have hsuccess : nestedArrays.IsSuccess := by
    constructor <;> decide
  refine ⟨?_, hsuccess, ?_, ?_⟩
  · rw [request_of_dialogue hdialogue hup]
  · exact not_exists.2 fun r =>
      (BodyBreaks.tooDeep readBody_nestedArrays).not_holds
  · rw [(fetch_of_dialogue hdialogue hup).2]
    unfold readSent readResponse
    simp only [readBody_nestedArrays]
    exact if_neg (not_not.2 hsuccess)

end Client

end SchemaAudit.Http
