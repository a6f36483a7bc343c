/-
The client of the engine's schema interface. One fetch sends a request,
follows redirects, and reads the schema in the body of the final answer.
What the transport reports as its own fault becomes a fault of the
source; a URL that is none and whatever else breaks passes through.

The transport is a parameter: it answers each request, counted from the
first, with a response, a fault of its own, or something else that is
raised, of which nothing is known (`Outcome`). All that the client adds
is its own: which URL it asks for, when it follows a redirect and where
to, how it reads an answer, and how it counts. Redirects are bounded, so
sending ends whatever the transport does.

A client is a value. What a fetch makes of it says that it is open,
which URLs were requested, and that one more fetch is counted, however
the fetch ended.
-/
import SchemaAudit.Checker
import SchemaAudit.Http.Body
import SchemaAudit.Http.Coding
import SchemaAudit.Http.Url
import SchemaAudit.Text.Path

namespace SchemaAudit.Http

/-- An answer to a request. -/
structure Response where
  status : Int
  headers : Headers
  body : List UInt8

/-- What a transport makes of a request. -/
inductive Outcome (ε : Type) where
  | answered (response : Response)
  | timedOut (message : String)
  | broken (message : String)
  /-- A fault that is none of the transport's own. -/
  | beyond (cause : ε)

/-- What passes through a fetch. -/
inductive FetchEscape (ε : Type) where
  | url (fault : UrlFault)
  | domain (fault : Domain.Fault)
  | header (fault : HeaderFault)
  /-- An answer to a request whose URL names no type. -/
  | untyped (url : String)
  | tooDeep (container : Json.Container)
  | versionTooLarge
  | beyond (cause : ε)

/-- Whether the text of a URL names a type: a word in front of the first
colon, with no slash in it. What stands behind the last number sign does
not count. -/
def namesType (url : String) : Bool :=
  let cs := ((cutAtLast '#' url.toList).1).getD url.toList
  let word := cs.takeWhile fun c => c != ':' && c != '/'
  !word.isEmpty && cs[word.length]? == some ':'

/-- The wording for an answer to a request whose URL names no type; a
number sign with nothing behind it is not shown. -/
def untypedMessage (url : String) : String :=
  let cs := url.toList
  "unknown url type: " ++ Text.quoted
    (if cs.getLast? = some '#' then String.ofList cs.dropLast else url)

/-- A client of one collection. `sent` are the URLs requested so far and
`fetches` counts the fetches of each collection. -/
structure Client where
  baseUrl : String
  collection : String
  isOpen : Bool
  sent : List Url
  fetches : Counts String

namespace Client

/-- A new client. -/
def new (baseUrl collection : String) : Client :=
  ⟨Text.withoutSlashes baseUrl, collection, false, [], Table.empty⟩

/-- The URL of the schema. -/
def schemaUrl (c : Client) : String :=
  c.baseUrl ++ "/" ++ c.collection ++ "/schema"

/-- The most redirects that a fetch follows. -/
def maxRedirects : Nat := 20

-- ============================================================ requests

/-- The URL that is requested for a text: from the root if it names no
host, and with the query that asks for JSON. -/
def requestUrl (s : String) : Except UrlFault Url := do
  let url ← Url.parse s
  let url ← if url.isAbsolute then .ok url else url.rooted
  url.withQuery "wt=json"

/-- Whether an answer sends to another place. -/
def redirect? (r : Response) : Option String :=
  if r.status ∈ [301, 302, 303, 307, 308] then r.headers.value? "location"
  else none

variable {ε : Type}

/-- The name of the host of a URL, for a redirect. -/
def hostName (u : Url) : Except (FetchEscape ε) String :=
  u.hostName.mapError .domain

/-- A location that names a scheme but no host, with the host of the
request. -/
def withHost (requested location : Url) : Except (FetchEscape ε) Url :=
  if location.scheme = "" then .ok location
  else do
    if (← hostName location) = "" then
      (location.withHost (← hostName requested)).mapError .url
    else .ok location

/-- A location with the fragment of the request where it has none of its
own. -/
def withFragment (requested location : Url) : Except UrlFault Url :=
  let own := requested.fragment.getD ""
  if own ≠ "" ∧ location.fragment.getD "" = "" then
    location.withFragment (unquote own)
  else .ok location

/-- Read the names of the hosts on both sides of a redirect, which tells
whether it leads elsewhere; that of the location first if the schemes
agree. -/
def checkHosts (requested location : Url) :
    Except (FetchEscape ε) Unit := do
  if location.scheme = requested.scheme then
    let _ ← hostName location
    let _ ← hostName requested
  else
    let _ ← hostName requested
    let _ ← hostName location

/-- The URL that a redirect leads to, given that of its request. -/
def redirectUrl (requested location : Url) :
    Except (FetchEscape ε) Url := do
  let url ← withHost requested location
  let url ← if url.isAbsolute then .ok url
    else (requested.join url).mapError .url
  let url ← (withFragment requested url).mapError .url
  checkHosts requested url
  .ok url

/-- How sending ends short of a final answer. -/
inductive SendFault (ε : Type) where
  | timedOut (message : String)
  | broken (message : String)
  | escaped (cause : FetchEscape ε)

/-- Take up what a transport makes of the request for a URL: an answer
with its body decoded. -/
def receive (url : Url) : Outcome ε → Except (SendFault ε) Response
  | .timedOut message => .error (.timedOut message)
  | .broken message => .error (.broken message)
  | .beyond cause => .error (.escaped (.beyond cause))
  | .answered r =>
      match r.headers.check with
      | .error fault => .error (.escaped (.header fault))
      | .ok () =>
          match decodeBody r.headers r.body with
          | .error fault => .error (.broken fault.message)
          | .ok body =>
              if namesType url.text then .ok { r with body }
              else .error (.escaped (.untyped url.text))

/-- The URL that a redirect to a location leads to. -/
def follow (requested : Url) (location : String) :
    Except (SendFault ε) Url :=
  match Url.parse location with
  | .error fault =>
      .error (.broken
        ("Invalid URL in location header: " ++ fault.message ++ "."))
  | .ok location => (redirectUrl requested location).mapError .escaped

/-- Send a request and follow redirects; `answer` tells what the
transport makes of each request, counted from the first. The result
holds all URLs requested. -/
def send (answer : Nat → Outcome ε) : (redirects : Nat) → (sent : List Url) →
    Url → List Url × Except (SendFault ε) Response
  | redirects, sent, url =>
      let before := sent.length
      let sent := sent ++ [url]
      match receive url (answer before) with
      | .error fault => (sent, .error fault)
      | .ok r =>
          match redirect? r with
          | none => (sent, .ok r)
          | some location =>
              match follow url location with
              | .error fault => (sent, .error fault)
              | .ok next =>
                  match redirects with
                  | 0 =>
                      (sent, .error (.broken
                        "Exceeded maximum allowed redirects."))
                  | redirects + 1 => send answer redirects sent next

-- ============================================================= fetching

/-- The schema in the final answer of a fetch. -/
def readResponse (url : String) (r : Response) :
    Except (SourceFault (FetchEscape ε)) Representation :=
  if ¬ (200 ≤ r.status ∧ r.status ≤ 299) then
    .error (.transport ("Schema request to " ++ url
      ++ " failed with HTTP " ++ toString r.status))
  else
    match readBody r.body with
    | .error .notJson =>
        .error (.protocol
          ("Schema response from " ++ url ++ " is not JSON"))
    | .error (.tooDeep container) => .error (.beyond (.tooDeep container))
    | .ok payload =>
        (Representation.ofPayload payload).mapError fun fault =>
          match fault with
          | .versionTooLarge => .beyond .versionTooLarge
          | _ => .protocol fault.message

/-- The outcome of a fetch, given how sending ended. -/
def readSent (url : String) :
    Except (SendFault ε) Response →
      Except (SourceFault (FetchEscape ε)) Representation
  | .ok r => readResponse url r
  | .error (.timedOut message) =>
      .error (.transport ("Schema request to " ++ url ++ " timed out: "
        ++ message))
  | .error (.broken message) =>
      .error (.transport ("Schema request to " ++ url ++ " failed: "
        ++ message))
  | .error (.escaped cause) => .error (.beyond cause)

/-- Send the request of a client: all URLs requested, and how it
ended. -/
def request (c : Client) (answer : Nat → Outcome ε) :
    List Url × Except (SendFault ε) Response :=
  match requestUrl c.schemaUrl with
  | .error fault => (c.sent, .error (.escaped (.url fault)))
  | .ok url => send answer maxRedirects c.sent url

/-- A version as the log shows it. -/
def versionText : Option Binary64 → String
  | some x => messageDecimals.render x
  | none => Json.null.literal

/-- A word to the log on a schema that was fetched. -/
def noteFetched (r : Representation) : Logged Unit :=
  Logged.note .info .client
    ("Fetched schema " ++ r.name.shown ++ " version "
      ++ versionText r.version ++ ": " ++ toString r.fields.length
      ++ " fields, " ++ toString r.dynamicFields.length
      ++ " dynamic fields, " ++ toString r.copyFields.length
      ++ " copy fields")

/-- Fetch the schema. The client is open afterwards and has counted the
fetch, however it ended. -/
def fetch (c : Client) (answer : Nat → Outcome ε) :
    Logged (Client × Except (SourceFault (FetchEscape ε)) Representation) := do
  Logged.note .debug .client ("Fetching schema from " ++ c.schemaUrl)
  let (sent, ended) := c.request answer
  let client :=
    { c with
      isOpen := true
      sent := sent
      fetches := Counts.bump c.fetches c.collection }
  match readSent c.schemaUrl ended with
  | .error fault => pure (client, .error fault)
  | .ok r => do
      noteFetched r
      pure (client, .ok r)

/-- Close a client; the next fetch opens it again. -/
def close (c : Client) : Client := { c with isOpen := false }

end Client

end SchemaAudit.Http
