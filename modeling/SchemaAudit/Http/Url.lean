/-
URLs in their canonical form: scheme and host in lower case, the port
left out if it is the usual one of the scheme, single and double dots
taken out of the path, and every character outside the set of its part
written as bytes in hexadecimal after a percent sign.

`parse` reads a text and `text` writes it again; `join` is what a text
means seen from a URL.
-/
import SchemaAudit.Domain
import SchemaAudit.Http.Quote
import SchemaAudit.Http.Reference
import SchemaAudit.Text.Case

namespace SchemaAudit.Http

/-- A URL in canonical form; an empty scheme or host is none. -/
structure Url where
  scheme : String
  userinfo : String
  host : String
  port : Option Int
  path : String
  query : Option String
  fragment : Option String
  deriving DecidableEq

/-- Why a text is no URL. -/
inductive UrlFault where
  | tooLong
  | partTooLong (part : String)
  | control (c : Char) (position : Nat)
  | partControl (part : String) (c : Char) (position : Nat)
  | port (text : String)
  | numbers (host : String)
  | groups (host : String)
  | hostName (host : String)
  | pathNotRooted
  | pathTwoSlashes
  | pathColon
  deriving DecidableEq

/-- The wording of a fault of a URL. -/
def UrlFault.message : UrlFault → String
  | .tooLong => "URL too long"
  | .partTooLong part =>
      "URL component " ++ Text.quoted part ++ " too long"
  | .control c position =>
      "Invalid non-printable ASCII character in URL, "
        ++ Text.quoted c.toString ++ " at position " ++ toString position
        ++ "."
  | .partControl part c position =>
      "Invalid non-printable ASCII character in URL " ++ part
        ++ " component, " ++ Text.quoted c.toString ++ " at position "
        ++ toString position ++ "."
  | .port text => "Invalid port: " ++ Text.quoted text
  | .numbers host => "Invalid IPv4 address: " ++ Text.quoted host
  | .groups host => "Invalid IPv6 address: " ++ Text.quoted host
  | .hostName host => "Invalid IDNA hostname: " ++ Text.quoted host
  | .pathNotRooted =>
      "For absolute URLs, path must be empty or begin with '/'"
  | .pathTwoSlashes =>
      "Relative URLs cannot have a path starting with '//'"
  | .pathColon => "Relative URLs cannot have a path starting with ':'"

-- ================================================================ parts

/-- The parts of a text before they are checked. -/
structure RawParts where
  scheme : List Char
  authority : List Char
  path : List Char
  query : Option (List Char)
  fragment : Option (List Char)

/-- Whether a character may stand inside a scheme. -/
def isSchemeChar (c : Char) : Bool :=
  c.isAlphanum || c == '+' || c == '.' || c == '-'

/-- The scheme of a text and what follows its colon. -/
def splitScheme (cs : List Char) : List Char × List Char :=
  let word := cs.takeWhile isSchemeChar
  match cs.drop word.length with
  | ':' :: rest =>
      match word with
      | [] => ([], rest)
      | c :: _ => if c.isAlpha then (word, rest) else ([], cs)
  | _ => ([], cs)

/-- The authority of a text and what follows it. -/
def splitAuthority : List Char → List Char × List Char
  | '/' :: '/' :: rest =>
      let word := rest.takeWhile fun c => c != '/' && c != '?' && c != '#'
      (word, rest.drop word.length)
  | cs => ([], cs)

/-- What stands before a character and what behind it, if it is there. -/
def cutAt (c : Char) (cs : List Char) : List Char × Option (List Char) :=
  let word := cs.takeWhile (· != c)
  match cs.drop word.length with
  | [] => (word, none)
  | _ :: rest => (word, some rest)

/-- Take a text apart. -/
def splitParts (cs : List Char) : RawParts :=
  let (scheme, cs) := splitScheme cs
  let (authority, cs) := splitAuthority cs
  let (cs, fragment) := cutAt '#' cs
  let (path, query) := cutAt '?' cs
  ⟨scheme, authority, path, query, fragment⟩

/-- What stands before the last occurrence of a character, if there is
one, and what behind it. -/
def cutAtLast (c : Char) (cs : List Char) :
    Option (List Char) × List Char :=
  let word := (cs.reverse.takeWhile (· != c)).reverse
  if cs.contains c then
    (some (cs.take (cs.length - word.length - 1)), word)
  else (none, word)

/-- The host of an authority and what follows it: square brackets up to
the last one that closes, else all up to a colon. -/
def splitHost (cs : List Char) : List Char × List Char :=
  match cs with
  | '[' :: rest =>
      match cutAtLast ']' rest with
      | (some inside, behind) => ('[' :: inside ++ [']'], behind)
      | (none, _) => cs.span (· != ':')
  | _ => cs.span (· != ':')

-- ============================================================== checking

/-- The host in canonical form. -/
def readHost (cs : List Char) : Except UrlFault String :=
  if cs.isEmpty then .ok ""
  else if looksNumeric cs then
    if isFourNumbers cs then .ok (String.ofList cs)
    else .error (.numbers (String.ofList cs))
  else if cs.head? = some '[' ∧ cs.getLast? = some ']' then
    let inside := (cs.drop 1).dropLast
    if isEightGroups inside then .ok (String.ofList inside)
    else .error (.groups (String.ofList cs))
  else if cs.all fun c => c.toNat < 0x80 then
    .ok (quote hostSafe (cs.map Char.toLower))
  else
    (Domain.encode (Text.lowerCase (String.ofList cs))).mapError
      fun _ => .hostName (String.ofList cs)

/-- The usual port of a scheme. -/
def usualPort? (scheme : String) : Option Int :=
  if scheme = "http" ∨ scheme = "ws" then some 80
  else if scheme = "https" ∨ scheme = "wss" then some 443
  else if scheme = "ftp" then some 21
  else none

/-- The port of a URL; the usual one of its scheme is left out. -/
def readPort (scheme : String) (cs : List Char) :
    Except UrlFault (Option Int) :=
  if cs.isEmpty then .ok none
  else
    match Text.readInt (String.ofList cs) with
    | .error _ => .error (.port (String.ofList cs))
    | .ok n => .ok (if usualPort? scheme = some n then none else some n)

/-- One part of a path taken up behind those before it, in reverse. -/
def pathStep (parts : List (List Char)) (part : List Char) :
    List (List Char) :=
  if part = ['.'] then parts
  else if part = ['.', '.'] then
    if parts = [[]] then parts else parts.tail
  else part :: parts

/-- A path without its single and double dots. -/
def normalPath (cs : List Char) : List Char :=
  let parts := splitAt '/' cs
  if parts.contains ['.'] || parts.contains ['.', '.'] then
    ['/'].intercalate (parts.foldl pathStep []).reverse
  else cs

/-- Check a path against what comes before it. -/
def checkPath (hasScheme hasAuthority : Bool) (path : List Char) :
    Except UrlFault Unit :=
  if hasAuthority && !path.isEmpty && path.head? != some '/' then
    .error .pathNotRooted
  else if hasScheme || hasAuthority then .ok ()
  else if path.take 2 = ['/', '/'] then .error .pathTwoSlashes
  else if path.head? = some ':' then .error .pathColon
  else .ok ()

/-- Check the parts of a text and bring them into canonical form. -/
def ofParts (p : RawParts) : Except UrlFault Url := do
  let (user, rest) := cutAtLast '@' p.authority
  let (host, behind) := splitHost rest
  let port := if behind.head? = some ':' then behind.drop 1 else behind
  let scheme := String.ofList (p.scheme.map Char.toLower)
  let userinfo := quote userinfoSafe (user.getD [])
  let host ← readHost host
  let port ← readPort (String.ofList p.scheme) port
  let hasScheme := scheme != ""
  let hasAuthority := userinfo != "" || host != "" || port.isSome
  checkPath hasScheme hasAuthority p.path
  let path := if hasScheme || hasAuthority then normalPath p.path
    else p.path
  .ok
    { scheme, userinfo, host, port
      path := quote pathSafe path
      query := p.query.map (quote querySafe)
      fragment := p.fragment.map (quote fragmentSafe) }

namespace Url

/-- The most characters a URL may have. -/
def maxLength : Nat := 65536

/-- The first control character of a text with its position. -/
def control? (position : Nat) : List Char → Option (Char × Nat)
  | [] => none
  | c :: rest =>
      if c.toNat < 0x20 ∨ c.toNat = 0x7f then some (c, position)
      else control? (position + 1) rest

/-- Read a URL. -/
def parse (s : String) : Except UrlFault Url :=
  if maxLength < s.length then .error .tooLong
  else
    match control? 0 s.toList with
    | some (c, position) => .error (.control c position)
    | none => ofParts (splitParts s.toList)

-- ============================================================== writing

/-- An authority put together. -/
def authorityText (userinfo host : String) (port : Option Int) : String :=
  (if userinfo = "" then "" else userinfo ++ "@") ++ host
    ++ (match port with
      | some n => ":" ++ toString n
      | none => "")

/-- The authority of a URL. -/
def authority (u : Url) : String :=
  authorityText u.userinfo
    (if u.host.contains ':' then "[" ++ u.host ++ "]" else u.host) u.port

/-- The text of a URL. -/
def text (u : Url) : String :=
  (if u.scheme = "" then "" else u.scheme ++ ":")
    ++ (if u.authority = "" then "" else "//" ++ u.authority)
    ++ u.path
    ++ (match u.query with
      | some q => "?" ++ q
      | none => "")
    ++ (match u.fragment with
      | some f => "#" ++ f
      | none => "")

/-- Whether a URL names both a scheme and a host. -/
def isAbsolute (u : Url) : Bool := u.scheme != "" && u.host != ""

/-- The parts of a URL, to be put together anew. -/
def parts (u : Url) : RawParts :=
  ⟨u.scheme.toList, u.authority.toList, u.path.toList,
    u.query.map String.toList, u.fragment.map String.toList⟩

-- ============================================================= changing

/-- Check the length and the characters of a part that is put into a
URL. -/
def checkPart (name : String) (cs : List Char) : Except UrlFault Unit :=
  if maxLength < cs.length then .error (.partTooLong name)
  else
    match control? 0 cs with
    | some (c, position) => .error (.partControl name c position)
    | none => .ok ()

/-- The URL of parts that are put together anew. -/
def assemble (p : RawParts) : Except UrlFault Url := do
  checkPart "scheme" p.scheme
  checkPart "authority" p.authority
  checkPart "path" p.path
  checkPart "query" (p.query.getD [])
  checkPart "fragment" (p.fragment.getD [])
  ofParts p

/-- A URL with another query. -/
def withQuery (u : Url) (query : String) : Except UrlFault Url :=
  assemble { u.parts with query := some query.toList }

/-- A URL with another fragment. -/
def withFragment (u : Url) (fragment : List Char) :
    Except UrlFault Url :=
  assemble { u.parts with fragment := some fragment }

/-- A URL with the name of a host in the place of its own. -/
def withHost (u : Url) (name : String) : Except UrlFault Url :=
  let host := if name.contains ':' then "[" ++ name ++ "]" else name
  assemble
    { u.parts with authority := (authorityText u.userinfo host u.port).toList }

/-- What a URL without a host means when nothing is known around it: its
path and query alone, from the root. -/
def rooted (u : Url) : Except UrlFault Url :=
  let path := '/' :: u.path.toList.dropWhile (· == '/')
  assemble ⟨[], [], path, u.query.map String.toList, none⟩

/-- The name of the host of a URL, read if it is in ASCII. -/
def hostName (u : Url) : Except Domain.Fault String :=
  if "xn--".toList.isPrefixOf u.host.toList then Domain.decode u.host
  else .ok u.host

/-- What a URL means, seen from another URL. -/
def join (base ref : Url) : Except UrlFault Url :=
  parse (Reference.join base.text ref.text)

end Url

end SchemaAudit.Http
