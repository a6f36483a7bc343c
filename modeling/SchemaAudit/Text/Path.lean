/-
File paths as text. A path is held in normal form: its parts joined by
single slashes, parts that are a single dot dropped, parts that are two
dots kept, and a lone dot for the path without parts. Of the slashes in
front one is kept, or two if there are exactly two.
-/

namespace SchemaAudit.Text

/-- A text without the slashes at its end. -/
def withoutSlashes (s : String) : String :=
  String.ofList (s.toList.reverse.dropWhile (· == '/')).reverse

/-- The slashes in front of a path that its normal form keeps. -/
def pathRoot (cs : List Char) : List Char :=
  let n := (cs.takeWhile (· == '/')).length
  if n = 0 then [] else if n = 2 then ['/', '/'] else ['/']

/-- The parts of a path between slashes, without empty ones and single
dots. -/
def pathParts (s : String) : List String :=
  ((s.splitOn "/").filter fun part => part != "" && part != ".")

/-- The normal form of a path. -/
def normalPath (s : String) : String :=
  let text := String.ofList (pathRoot s.toList)
    ++ "/".intercalate (pathParts s)
  if text.isEmpty then "." else text

end SchemaAudit.Text
