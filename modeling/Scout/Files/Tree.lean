import Scout.Files.Content
import Scout.Files.Path

/-!
# Trees of files

A tree holds directories and files under a root. Paths are seen from the home directory of the
tree. A path is followed part by part: each part but the last must be a directory that is there,
and two dots lead to the directory above.
-/

namespace Scout.Files

inductive Entry where
  | file (content : Content)
  | directory
deriving DecidableEq

/-- The names that lead from the root to an entry. -/
abbrev Location := List String

structure Tree where
  home : Location
  entries : List (Location × Entry)

/-- Why a path cannot be used. -/
inductive Cause where
  | missing
  | taken
  | notDirectory
  | isDirectory
  | nameTooLong
  | zeroCharacter
deriving DecidableEq

structure Fault where
  cause : Cause
  path : String
deriving DecidableEq

def Fault.message (e : Fault) : String :=
  let numbered (n : Nat) (text : String) : String := s!"[Errno {n}] {text}: {Text.quote e.path}"
  match e.cause with
  | .missing => numbered 2 "No such file or directory"
  | .taken => numbered 17 "File exists"
  | .notDirectory => numbered 20 "Not a directory"
  | .isDirectory => numbered 21 "Is a directory"
  | .nameTooLong => numbered 36 "File name too long"
  | .zeroCharacter => "embedded null byte"

namespace Tree

def lookup (entries : List (Location × Entry)) (l : Location) : Option Entry :=
  match entries with
  | [] => none
  | (k, e) :: rest => if k = l then some e else lookup rest l

/-- The entry at a location; the root is a directory. -/
def at? (t : Tree) (l : Location) : Option Entry :=
  if l.isEmpty then some .directory else lookup t.entries l

def insert (entries : List (Location × Entry)) (l : Location) (e : Entry) :
    List (Location × Entry) :=
  match entries with
  | [] => [(l, e)]
  | (k, old) :: rest => if k = l then (l, e) :: rest else (k, old) :: insert rest l e

def put (t : Tree) (l : Location) (e : Entry) : Tree :=
  { t with entries := insert t.entries l e }

def erase (t : Tree) (l : Location) : Tree :=
  { t with entries := t.entries.filter fun m => m.1 != l }

theorem lookup_insert_self (entries : List (Location × Entry)) (l : Location) (e : Entry) :
    lookup (insert entries l e) l = some e := by
  induction entries with
  | nil => simp [insert, lookup]
  | cons m ms ih => by_cases h : m.1 = l <;> simp [insert, lookup, h, ih]

theorem lookup_insert_of_ne (entries : List (Location × Entry)) {l l' : Location} (e : Entry)
    (h : l' ≠ l) : lookup (insert entries l e) l' = lookup entries l' := by
  induction entries with
  | nil => simp [insert, lookup, h.symm]
  | cons m ms ih =>
    by_cases hm : m.1 = l
    · by_cases ho : m.1 = l'
      · exact absurd (ho.symm.trans hm) h
      · simp [insert, lookup, hm, h.symm]
    · simp [insert, lookup, hm, ih]

theorem at?_put_self (t : Tree) {l : Location} (e : Entry) (h : l ≠ []) :
    (t.put l e).at? l = some e := by
  simp [at?, put, h, lookup_insert_self]

theorem at?_put_of_ne (t : Tree) {l l' : Location} (e : Entry) (h : l' ≠ l) :
    (t.put l e).at? l' = t.at? l' := by
  simp [at?, put, lookup_insert_of_ne _ _ h]

/-- A tree with an empty home. -/
def empty : Tree :=
  ⟨["srv", "home"], [(["srv"], .directory), (["srv", "home"], .directory)]⟩

def nameLimit : Nat := 255
def pathLimit : Nat := 4096

/-- Follows names from a location. -/
def follow (t : Tree) (l : Location) : List String → Except Cause Location
  | [] => .ok l
  | name :: rest =>
    match t.at? l with
    | none => .error .missing
    | some (.file _) => .error .notDirectory
    | some .directory =>
      if name == ".." then t.follow l.dropLast rest
      else if nameLimit < name.utf8ByteSize then .error .nameTooLong
      else t.follow (l ++ [name]) rest

/-- Where a path leads. The last entry need not be there. What is measured is the shortest way to
write the path. -/
def locate (t : Tree) (path : String) : Except Fault Location :=
  let outcome :=
    if path.toList.contains (Char.ofNat 0) then .error .zeroCharacter
    else if pathLimit ≤ (normal path).utf8ByteSize then .error .nameTooLong
    else t.follow (if isAbsolute path then [] else t.home) (partsOf path)
  match outcome with
  | .ok l => .ok l
  | .error cause => .error ⟨cause, normal path⟩

/-- What a path leads to. -/
def entry (t : Tree) (path : String) : Except Fault Entry := do
  match t.at? (← t.locate path) with
  | some e => pure e
  | none => .error ⟨.missing, normal path⟩

/-- Whether a path leads to a directory. A path that leads nowhere does not. -/
def isDirectory (t : Tree) (path : String) : Except Fault Bool :=
  match t.entry path with
  | .ok .directory => .ok true
  | .ok (.file _) => .ok false
  | .error ⟨.nameTooLong, p⟩ => .error ⟨.nameTooLong, p⟩
  | .error _ => .ok false

/-- What the file at a path holds. -/
def content (t : Tree) (path : String) : Except Fault Content := do
  match ← t.entry path with
  | .file c => pure c
  | .directory => .error ⟨.isDirectory, normal path⟩

/-- Puts a file at a path, in place of the one that is there. -/
def write (t : Tree) (path : String) (c : Content) : Except Fault Tree := do
  let l ← t.locate path
  match t.at? l with
  | some .directory => .error ⟨.isDirectory, normal path⟩
  | _ => pure (t.put l (.file c))

def remove (t : Tree) (path : String) : Except Fault Tree := do
  let l ← t.locate path
  match t.at? l with
  | none => .error ⟨.missing, normal path⟩
  | some .directory => .error ⟨.isDirectory, normal path⟩
  | some (.file _) => pure (t.erase l)

def makeDirectory (t : Tree) (path : String) : Except Fault Tree := do
  let l ← t.locate path
  match t.at? l with
  | none => pure (t.put l .directory)
  | some _ => .error ⟨.taken, normal path⟩

/-- The names in the directory at a location. -/
def namesIn (t : Tree) (l : Location) : List String :=
  t.entries.filterMap fun m =>
    if m.1.dropLast = l then m.1.getLast? else none

def inOrder (names : List String) : List String :=
  names.mergeSort fun a b => !(b < a : Bool)

def documentEnding : String := ".json"

/-- The paths of the documents in a directory, in the order of their names. -/
def documents (t : Tree) (dir : String) : List String :=
  match t.locate dir with
  | .error _ => []
  | .ok l =>
    let names := (t.namesIn l).filter fun n => documentEnding.toList.isSuffixOf n.toList
    (inOrder names).map (join dir)

/-- The paths of all files under the home directory. -/
def filePaths (t : Tree) : List String :=
  inOrder (t.entries.filterMap fun m =>
    match m.2 with
    | .file _ =>
      if t.home.isPrefixOf m.1 then some ("/".intercalate (m.1.drop t.home.length)) else none
    | .directory => none)

/-- The directories that stand in the home directory. -/
def directoriesAtHome (t : Tree) : List String :=
  inOrder (t.entries.filterMap fun m =>
    match m.2 with
    | .directory => if m.1.dropLast = t.home && m.1 ≠ [] then m.1.getLast? else none
    | .file _ => none)

end Tree

/-- Something done to a tree. What was done before a fault stays done. -/
abbrev Act := ExceptT Fault (StateM Tree)

namespace Act

/-- A change that happens as a whole or not at all. -/
def change (f : Tree → Except Fault Tree) : Act Unit := do
  match f (← get) with
  | .ok t => set t
  | .error e => throw e

/-- Makes the directory at a path unless it is there. -/
def makeOrKeep (path : String) : Act Unit := do
  let t ← get
  match t.makeDirectory path with
  | .ok t => set t
  | .error e =>
    if e.cause == .missing then throw e
    else if !(← (t.isDirectory path : Except Fault Bool)) then throw e

/-- Makes the directory that the first `count` parts lead to, after those above it. -/
def makeParts (root : String) (parts : List String) : Nat → Act Unit
  | 0 => makeOrKeep (ofParts root [])
  | count + 1 => do
    let path := ofParts root (parts.take (count + 1))
    try makeOrKeep path
    catch e =>
      if e.cause == .missing then do
        makeParts root parts count
        makeOrKeep path
      else throw e

/-- Makes the directory at a path and those that lead to it. -/
def makeDirectories (path : String) : Act Unit :=
  let parts := partsOf path
  makeParts (rootOf path.toList) parts parts.length

/-- Writes a file after making the directories that lead to it. -/
def writeFile (path : String) (c : Content) : Act Unit := do
  makeDirectories (parent path)
  change fun t => t.write path c

end Act

end Scout.Files
