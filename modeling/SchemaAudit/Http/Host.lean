/-
Hosts of URLs. A host that looks like an address of four numbers must be
one, a host in square brackets must be an address of eight groups, and
any other host is a name.
-/
import SchemaAudit.Text.Numeral

namespace SchemaAudit.Http

/-- Split characters at every occurrence of a separator. -/
def splitAt (sep : Char) : List Char → List (List Char)
  | [] => [[]]
  | c :: rest =>
      if c = sep then [] :: splitAt sep rest
      else
        match splitAt sep rest with
        | [] => [[c]]
        | part :: parts => (c :: part) :: parts

-- ======================================================== four numbers

/-- Whether a host looks like an address of four numbers: four groups of
digits with points between them. -/
def looksNumeric (host : List Char) : Bool :=
  let groups := splitAt '.' host
  groups.length == 4
    && groups.all fun g => !g.isEmpty && g.all Char.isDigit

/-- Whether characters are a number of an address: up to 255, with no
zero in front. -/
def isOctet (cs : List Char) : Bool :=
  !cs.isEmpty && cs.all Char.isDigit && cs.length ≤ 3
    && (cs.length == 1 || cs.head? != some '0')
    && Text.digitsValue cs ≤ 255

/-- Whether characters are an address of four numbers. -/
def isFourNumbers (cs : List Char) : Bool :=
  let parts := splitAt '.' cs
  parts.length == 4 && parts.all isOctet

-- ======================================================== eight groups

/-- Whether a character is a hexadecimal digit. -/
def isHexDigit (c : Char) : Bool :=
  c.isDigit || ('a' ≤ c && c ≤ 'f') || ('A' ≤ c && c ≤ 'F')

/-- Whether characters are a group of an address. -/
def isHexGroup (cs : List Char) : Bool :=
  !cs.isEmpty && cs.length ≤ 4 && cs.all isHexDigit

/-- The parts of an address between colons; an address of four numbers
at the end counts as two groups. -/
def addressParts? (cs : List Char) : Option (List (List Char)) :=
  let parts := splitAt ':' cs
  let last := (parts.getLast?).getD []
  if last.contains '.' then
    if isFourNumbers last then some (parts.dropLast ++ [['0'], ['0']])
    else none
  else some parts

/-- Whether the parts of an address without a gap are eight groups. -/
def areEightGroups (parts : List (List Char)) : Bool :=
  parts.length == 8 && parts.all isHexGroup

/-- Whether the parts on one side of a gap are groups; the outermost may
be empty if it is the only one. -/
def isSide (parts : List (List Char)) : Bool :=
  parts.all isHexGroup || parts == [[]]

/-- How many groups stand on one side of a gap. -/
def sideCount (parts : List (List Char)) : Nat :=
  if parts == [[]] then 0 else parts.length

/-- Whether the parts of an address have one gap, for at least one
group, between groups. -/
def haveOneGap (parts : List (List Char)) : Bool :=
  let inner := parts.tail.takeWhile fun part => !part.isEmpty
  let before := parts.head?.toList ++ inner
  let after := parts.drop (before.length + 1)
  !after.isEmpty && isSide before && isSide after
    && sideCount before + sideCount after < 8

/-- Whether the middle parts of an address, all but the first and the
last, hold an empty one. -/
def hasInnerGap (parts : List (List Char)) : Bool :=
  parts.tail.dropLast.any List.isEmpty

/-- The characters of an address without the name of its zone; a zone
must have a name, and there is one at most. -/
def withoutZone? (cs : List Char) : Option (List Char) :=
  let address := cs.takeWhile (· != '%')
  match cs.drop address.length with
  | [] => some address
  | _ :: zone =>
      if zone.isEmpty || zone.contains '%' then none else some address

/-- Whether characters are an address of eight groups. -/
def isEightGroups (cs : List Char) : Bool :=
  match (withoutZone? cs).bind addressParts? with
  | none => false
  | some parts =>
      3 ≤ (splitAt ':' cs).length && parts.length ≤ 9
        && if hasInnerGap parts then haveOneGap parts
          else areEightGroups parts

end SchemaAudit.Http
