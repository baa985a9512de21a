import Scout.CommandLine.Perform

/-!
# The program

The program takes the files that a command may touch into a tree, performs the command on it,
and writes back what changed. No browser is attached to it: the page of a run is blank.
-/

namespace Scout.Program

open Files

def readEnvironment : IO Settings.Environment := do
  let given ← Settings.variableNames.mapM fun name => do
    pure ((← IO.getEnv name).map fun text => (name, text))
  pure (given.filterMap id)

def pathText (l : Location) : String :=
  "/" ++ "/".intercalate l

/-- Puts an entry into a tree, in directories that lead to it. -/
def place (t : Tree) (l : Location) (e : Entry) : Tree :=
  let above := (List.range l.length).map l.take
  let t := above.foldl (fun t d => if d.isEmpty then t else t.put d .directory) t
  if l.isEmpty then t else t.put l e

/-- Where a path leads on the disk, if anything is there. -/
def locationOf? (path : String) : IO (Option Location) := do
  try
    pure (some (partsOf (← IO.FS.realPath path).toString))
  catch _ => pure none

def takeFile (t : Tree) (l : Location) : IO Tree := do
  let bytes ← IO.FS.readBinFile (pathText l)
  pure (place t l (.file (.bytes bytes.toList)))

/-- Takes a file into the tree, or a directory with the files that stand in it. -/
def takeEntry (t : Tree) (path : String) : IO Tree := do
  match ← locationOf? path with
  | none => pure t
  | some l =>
    let found ← IO.FS.realPath path
    if ← found.isDir then
      (← found.readDir).foldlM (fun t e => do
        if ← e.path.isDir then pure (place t (l ++ [e.fileName]) .directory)
        else takeFile t (l ++ [e.fileName])) (place t l .directory)
    else takeFile t l

def libraryPaths (e : Settings.Environment) : List String :=
  match Settings.load [] e [] with
  | .ok s => [s.playbooks.definitionsDir, s.playbooks.templatesDir, s.playbooks.historyDir]
  | .error _ => []

/-- Writes what is new or changed, removes what is gone. -/
def writeBack (old new : Tree) : IO Unit := do
  for (l, e) in new.entries do
    if old.at? l ≠ some e then
      match e with
      | .directory => IO.FS.createDirAll (pathText l)
      | .file (.text s) => IO.FS.writeFile (pathText l) s
      | .file (.bytes bs) => IO.FS.writeBinFile (pathText l) ⟨bs.toArray⟩
  for (l, e) in old.entries do
    if e ≠ .directory && (new.at? l).isNone then IO.FS.removeFile (pathText l)

/-- The time, as the disk gives it to a new file. -/
def readStamp : IO Stamp := do
  let (_, path) ← IO.FS.createTempFile
  let time := (← path.metadata).modified
  IO.FS.removeFile path
  let seconds : Int := time.sec
  let nanos := time.nsec.toNat
  pure ⟨Moment.ofEpoch seconds (nanos / 1000), seconds * 1000 + nanos / 1000000⟩

/-- Performs a command line, with one more line of input whenever it asks for one. -/
partial def converse (around : CommandLine.Surroundings) (files : Tree) (typed shown : String)
    (args : List String) : IO CommandLine.Ending := do
  let ending := CommandLine.call around files typed args
  let out ← IO.getStdout
  out.putStr (String.ofList (ending.terminal.shown.toList.drop shown.length))
  out.flush
  if ending.isUnanswered then
    let line ← (← IO.getStdin).getLine
    if line.isEmpty then return ending
    out.flush
    converse around files (typed ++ line) (ending.terminal.shown ++ line) args
  else return ending

end Scout.Program

open Scout in
/-- Performs the command line of the process. -/
def main (args : List String) : IO UInt32 := do
  let e ← Program.readEnvironment
  let home := Files.partsOf (← IO.currentDir).toString
  let empty := Program.place ⟨home, []⟩ home .directory
  let files ← (Program.libraryPaths e ++ args).foldlM Program.takeEntry empty
  let stamp ← Program.readStamp
  let number ← IO.rand 0 0xffffffffffff
  let id := s!"hist_{stamp.millis}_{Text.hex 12 number}"
  let ending ← Program.converse ⟨e, .blank, stamp, id⟩ files "" "" args
  Program.writeBack files ending.terminal.files
  match ending.fault with
  | some f => IO.eprintln f.message
  | none => pure ()
  pure (UInt32.ofNat ending.status)
