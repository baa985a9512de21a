import Scout.Files.Content
import Scout.Json.Reader
import Scout.Lookup

/-!
# Targets of requests

The target of a request is a path and a list of named values. In its text a percent sign with two
hexadecimal digits stands for a byte. Dots that lead up or nowhere are taken out of the path first.
-/

namespace Scout.Service

structure Target where
  path : String
  query : List (String × String)

/-- The bytes of a text in which escapes stand for bytes. -/
def escapedBytes : List Char → List UInt8
  | '%' :: a :: b :: rest =>
    match Json.hexDigit? a, Json.hexDigit? b with
    | some x, some y => UInt8.ofNat (16 * x + y) :: escapedBytes rest
    | _, _ => 37 :: escapedBytes (a :: b :: rest)
  | c :: rest => c.toString.toUTF8.toList ++ escapedBytes rest
  | [] => []
termination_by cs => cs.length

def unescape (s : String) : String :=
  Files.decodeLossy (escapedBytes s.toList)

/-- The parts of a path, with single dots left out and two dots undoing the part before them. -/
def withoutDots : List String → List String → List String
  | kept, [] => kept
  | kept, "." :: rest => withoutDots kept rest
  | kept, ".." :: rest =>
    withoutDots (if kept.isEmpty || kept == [""] then kept else kept.dropLast) rest
  | kept, part :: rest => withoutDots (kept ++ [part]) rest

def normalPath (s : String) : String :=
  let parts := Text.splitOn '/' s
  if parts.contains "." || parts.contains ".." then "/".intercalate (withoutDots [] parts) else s

/-- What stands before the first of a character, and what stands after it. -/
def cut (mark : Char) (cs : List Char) : List Char × List Char :=
  (cs.takeWhile (· != mark), (cs.dropWhile (· != mark)).drop 1)

def queryText (cs : List Char) : String :=
  unescape (String.ofList (cs.map fun c => if c == '+' then ' ' else c))

/-- The named values of a query; a name alone has an empty value. -/
def queryOf (s : String) : List (String × String) :=
  ((Text.splitOn '&' s).filter (· != "")).map fun item =>
    let (name, value) := cut '=' item.toList
    (queryText name, queryText value)

/-- Reads the text of a target. Escapes in the path are resolved twice, once on each side of the
line. -/
def Target.ofText (s : String) : Target :=
  let (shown, _) := cut '#' s.toList
  let (path, query) := cut '?' shown
  let path := normalPath (String.ofList ('/' :: path.dropWhile (· == '/')))
  ⟨unescape (unescape path), queryOf (String.ofList query)⟩

end Scout.Service
