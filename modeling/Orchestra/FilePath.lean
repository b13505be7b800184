/-!
Names of files.

The parts of a name are separated by slashes. In the plain form of a name empty parts and parts that
are a single dot do not count, apart from the slashes at the start of an absolute name.
-/

namespace Orchestra.FilePath

/-- The parts of a name that count. -/
def parts (name : String) : List String :=
  (name.splitOn "/").filter fun part => part != "" && part != "."

def isAbsolute (name : String) : Bool :=
  name.toList.head? == some '/'

/-- The slashes that an absolute name starts with: two stay two, more count as one. -/
def root (name : String) : String :=
  match (name.toList.takeWhile (· == '/')).length with
  | 0 => ""
  | 2 => "//"
  | _ => "/"

/-- A name from the slashes at its start and its parts. -/
def join (root : String) (parts : List String) : String :=
  if root == "" && parts.isEmpty then "." else root ++ "/".intercalate parts

/-- The plain form of a name. -/
def normalized (name : String) : String :=
  join (root name) (parts name)

/-- The folder that a name lies in. -/
def folder (name : String) : String :=
  join (root name) (parts name).dropLast

/-- What stands in front of the last slash, without slashes at its end, and what stands behind it. -/
def split (name : List Char) : List Char × List Char :=
  let tail := (name.reverse.takeWhile (· != '/')).reverse
  let head := name.take (name.length - tail.length)
  if head.all (· == '/') then (head, tail)
  else ((head.reverse.dropWhile (· == '/')).reverse, tail)

end Orchestra.FilePath
