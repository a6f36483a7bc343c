/-
Domain names: labels with dots between them, in any script or in ASCII.
Three characters of other scripts count as dots. A dot at the end is
kept, and no label may be empty otherwise.
-/
import SchemaAudit.Domain.Label

namespace SchemaAudit.Domain

/-- Whether a character parts labels. -/
def isDot (c : Char) : Bool :=
  c == '.' || c == '\u3002' || c == '\uff0e' || c == '\uff61'

/-- The labels of a domain name. -/
def splitLabels : List Char → List (List Char)
  | [] => [[]]
  | c :: rest =>
      if isDot c then [] :: splitLabels rest
      else
        match splitLabels rest with
        | [] => [[c]]
        | label :: labels => (c :: label) :: labels

/-- The most characters of a domain name, without and with a dot at the
end. -/
def maxLength (dotted : Bool) : Nat := if dotted then 254 else 253

/-- The labels of a domain name and whether a dot stands at the end. -/
def labels (name : String) :
    Except Fault (List (List Char) × Bool) :=
  if maxLength true < name.length then .error (.form .longDomain)
  else
    let ls := splitLabels name.toList
    if ls = [[]] then .error (.form .emptyDomain)
    else if ls.getLast? = some [] then .ok (ls.dropLast, true)
    else .ok (ls, false)

/-- Labels put together with dots between them. -/
def joinLabels (ls : List (List Char)) (dotted : Bool) : String :=
  String.ofList (['.'].intercalate ls ++ if dotted then ['.'] else [])

/-- A domain name in ASCII. -/
def encode (name : String) : Except Fault String := do
  let (ls, dotted) ← labels name
  let written := joinLabels (← ls.mapM Label.encode) dotted
  if maxLength dotted < written.length then .error (.form .longDomain)
  else .ok written

/-- The domain name that one in ASCII stands for. -/
def decode (name : String) : Except Fault String := do
  let (ls, dotted) ← labels name
  let read ← ls.mapM Label.decode
  .ok (joinLabels (read.map fun label => label.map Char.ofNat) dotted)

end SchemaAudit.Domain
