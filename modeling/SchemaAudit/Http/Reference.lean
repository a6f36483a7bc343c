/-
References: texts of URLs, whole or cut short, taken apart and put
together as texts. `Reference.join` is what a reference means seen from a
base: what it leaves out comes from the base, and its path is walked from
the folder of the base's path.
-/
import SchemaAudit.Http.Host

namespace SchemaAudit.Http

/-- A reference taken apart; a part that is empty is left out. The
parameters belong to the last segment of the path. -/
structure Reference where
  scheme : String
  authority : String
  path : String
  params : String
  query : String
  fragment : String
  deriving DecidableEq

namespace Reference

-- ================================================================ schemes

/-- The schemes whose references may be cut short. -/
def relativeSchemes : List String :=
  ["", "ftp", "http", "gopher", "nntp", "imap", "wais", "file", "https",
   "shttp", "mms", "prospero", "rtsp", "rtsps", "rtspu", "sftp", "svn",
   "svn+ssh", "ws", "wss"]

/-- The schemes whose references have an authority. -/
def authoritySchemes : List String :=
  ["", "ftp", "http", "gopher", "nntp", "telnet", "imap", "wais", "file",
   "mms", "https", "shttp", "snews", "prospero", "rtsp", "rtsps", "rtspu",
   "rsync", "svn", "svn+ssh", "sftp", "nfs", "git", "git+ssh", "ws", "wss"]

/-- The schemes whose references have parameters. -/
def paramSchemes : List String :=
  ["", "ftp", "hdl", "prospero", "http", "imap", "https", "shttp", "rtsp",
   "rtsps", "rtspu", "sip", "sips", "mms", "sftp", "tel"]

-- =========================================================== taking apart

/-- Characters parted at the first occurrence of one of them; nothing
stands behind if it does not occur. -/
def cutFirst (sep : Char) (cs : List Char) : List Char × List Char :=
  let front := cs.takeWhile (· != sep)
  (front, cs.drop (front.length + 1))

/-- Whether characters are the name of a scheme. -/
def isScheme (cs : List Char) : Bool :=
  (cs.head?.map Char.isAlpha).getD false
    && cs.all fun c => c.isAlphanum || c == '+' || c == '-' || c == '.'

/-- The scheme in front of a reference, in lower case, and what follows
its colon. -/
def splitScheme (usual : String) (cs : List Char) :
    String × List Char :=
  let (front, behind) := cutFirst ':' cs
  if cs.contains ':' && isScheme front then
    (String.ofList (front.map Char.toLower), behind)
  else (usual, cs)

/-- The authority behind two slashes and what follows it. -/
def splitAuthority : List Char → List Char × List Char
  | '/' :: '/' :: rest =>
      rest.span fun c => c != '/' && c != '?' && c != '#'
  | cs => ([], cs)

/-- The path and the parameters of its last segment, if the scheme has
any. -/
def splitParams (scheme : String) (cs : List Char) :
    List Char × List Char :=
  if !paramSchemes.contains scheme then (cs, [])
  else
    let last := (cs.reverse.takeWhile (· != '/')).reverse
    let (front, params) := cutFirst ';' last
    (cs.take (cs.length - last.length) ++ front, params)

/-- Take a reference apart; `usual` is its scheme if it names none. -/
def parse (usual : String) (s : String) : Reference :=
  let (scheme, cs) := splitScheme usual s.toList
  let (authority, cs) := splitAuthority cs
  let (cs, fragment) := cutFirst '#' cs
  let (cs, query) := cutFirst '?' cs
  let (path, params) := splitParams scheme cs
  ⟨scheme, String.ofList authority, String.ofList path,
    String.ofList params, String.ofList query, String.ofList fragment⟩

-- ======================================================= putting together

/-- A part behind its mark, if it is not empty. -/
def marked (mark part : String) : String :=
  if part = "" then "" else mark ++ part

/-- Whether the text of a reference shows an authority: it has one, or its
scheme asks for one and the path does not look like it. -/
def showsAuthority (r : Reference) (path : String) : Bool :=
  r.authority != ""
    || (r.scheme != "" && authoritySchemes.contains r.scheme
      && path.toList.take 2 != ['/', '/'])

/-- The text of a reference. -/
def text (r : Reference) : String :=
  let path := r.path ++ marked ";" r.params
  let path :=
    if r.showsAuthority path then
      "//" ++ r.authority
        ++ (if path = "" ∨ path.toList.head? = some '/' then path
          else "/" ++ path)
    else path
  (if r.scheme = "" then "" else r.scheme ++ ":") ++ path
    ++ marked "?" r.query ++ marked "#" r.fragment

-- ================================================================ joining

/-- The segments to walk: those of the reference's own path behind those
of the folder of the base, where empty ones in the middle are left
out. -/
def segments (base own : List Char) : List (List Char) :=
  if own.head? = some '/' then splitAt '/' own
  else
    let around := splitAt '/' base
    let around :=
      if around.getLast? = some [] then around else around.dropLast
    match around ++ splitAt '/' own with
    | [] => []
    | first :: rest =>
        first :: (rest.dropLast.filter fun s => !s.isEmpty)
          ++ rest.getLast?.toList

/-- One segment taken up behind those before it, in reverse: two dots lead
back, as far as there is something to lead back from. -/
def walk (done : List (List Char)) (segment : List Char) :
    List (List Char) :=
  if segment = ['.', '.'] then done.tail
  else if segment = ['.'] then done
  else segment :: done

/-- The path that segments lead to. -/
def walked (ss : List (List Char)) : String :=
  let done := ss.foldl walk []
  let last := (ss.getLast?).getD []
  let done := if last = ['.'] ∨ last = ['.', '.'] then [] :: done
    else done
  let path := String.ofList (['/'].intercalate done.reverse)
  if path = "" then "/" else path

/-- A reference with what it leaves out taken from a base of its
scheme. -/
def within (base ref : Reference) : Reference :=
  if authoritySchemes.contains ref.scheme && ref.authority != "" then ref
  else
    let authority := if authoritySchemes.contains ref.scheme then
        base.authority else ref.authority
    if ref.path = "" && ref.params = "" then
      { ref with
        authority
        path := base.path
        params := base.params
        query := if ref.query = "" then base.query else ref.query }
    else
      { ref with
        authority
        path := walked (segments base.path.toList ref.path.toList) }

/-- The text that a reference means, seen from a base. -/
def join (base ref : String) : String :=
  if base = "" then ref
  else if ref = "" then base
  else
    let b := parse "" base
    let r := parse b.scheme ref
    if r.scheme ≠ b.scheme ∨ !relativeSchemes.contains r.scheme then ref
    else (within b r).text

end Reference

end SchemaAudit.Http
