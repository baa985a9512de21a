import Scout.Lookup

/-!
# File paths

A path is written with slashes. Empty parts and single dots mean nothing and are left out; two
dots are kept, since what they mean depends on the tree. A path that begins with a slash is
absolute.
-/

namespace Scout.Files

/-- The root that a path begins with: none, one slash, or exactly two. -/
def rootOf (cs : List Char) : String :=
  match (cs.takeWhile (· == '/')).length with
  | 0 => ""
  | 2 => "//"
  | _ => "/"

/-- The parts of a path that mean something. -/
def partsOf (s : String) : List String :=
  (Text.splitOn '/' s).filter fun p => p != "" && p != "."

def isAbsolute (s : String) : Bool :=
  s.toList.head? == some '/'

def ofParts (root : String) (parts : List String) : String :=
  if root == "" && parts.isEmpty then "." else root ++ "/".intercalate parts

/-- The shortest way to write a path. -/
def normal (s : String) : String :=
  ofParts (rootOf s.toList) (partsOf s)

/-- The second path seen from the first one; an absolute path stands for itself. -/
def join (base child : String) : String :=
  if isAbsolute child then normal child
  else ofParts (rootOf base.toList) (partsOf base ++ partsOf child)

/-- The directory of a path. -/
def parent (s : String) : String :=
  ofParts (rootOf s.toList) (partsOf s).dropLast

/-- The last part of a path. -/
def baseName (s : String) : String :=
  (partsOf s).getLast?.getD ""

end Scout.Files
