import Scout.Document.Report
import Scout.Files.Tree
import Scout.Json.Reader
import Scout.Json.Writer

/-!
# The library

Playbooks, templates and past executions are kept as documents, one a file, in three
directories. A file is named for the id of what it holds. Loading a directory passes over the
files that cannot be read.
-/

namespace Scout

structure Library where
  definitions : String
  templates : String
  history : String

namespace Library

/-- Why a document that somebody asked for cannot be had. -/
inductive Refusal where
  | missing (path : String)
  | malformed (path : String) (message : String)
  | badTemplateName (name : String)
  | templateNotRecord (name : String)
  | fileNotRecord (path : String)

def Refusal.message : Refusal → String
  | .missing path => s!"File not found: {path}"
  | .malformed path message => s!"Invalid JSON in {path}: {message}"
  | .badTemplateName name => s!"Invalid template name: {Text.quote name}"
  | .templateNotRecord name => s!"Template '{name}' is not a JSON object"
  | .fileNotRecord path => s!"Playbook file {path} is not a JSON object"

inductive Fault where
  | file (e : Files.Fault)
  | encoding (e : Files.EncodingFault)
  | json (message : String)
  | invalid (issues : List Issue)
  | refused (r : Refusal)
  /-- Moments with and without a known distance from universal time have no order. -/
  | incomparable

def Fault.message : Fault → String
  | .file e => e.message
  | .encoding e => e.message
  | .json message => message
  | .invalid issues => "\n".intercalate (issues.map Issue.text)
  | .refused r => r.message
  | .incomparable => "can't compare offset-naive and offset-aware datetimes"

/-! ### Documents -/

/-- The value that the document at a path holds. -/
def readValue (t : Files.Tree) (path : String) : Except Fault Value := do
  let c ← (t.content path).mapError .file
  let text ← c.read.mapError .encoding
  (Json.parse text).mapError fun e => .json (e.describe text.toList)

/-- As `readValue`, for a document that somebody asked for. -/
def readDocument (t : Files.Tree) (path : String) : Except Fault Value :=
  (readValue t path).mapError fun e => match e with
    | .file ⟨.missing, _⟩ => .refused (.missing (Files.normal path))
    | .json message => .refused (.malformed (Files.normal path) message)
    | e => e

def writeDocument (path : String) (v : Value) : Files.Act Unit :=
  Files.Act.writeFile path (.text (Json.document v))

def decodeAs {α : Type} (d : Decoder α) (v : Value) : Except Fault α :=
  match d v with
  | .ok a => .ok a
  | .invalid issues => .error (.invalid issues)

/-- The file of a document in a directory. -/
def documentPath (dir name : String) : String :=
  Files.join dir (name ++ Files.Tree.documentEnding)

/-- The name of a document: that of its file without the ending, unless nothing else is left. -/
def documentName (path : String) : String :=
  let name := (Files.baseName path).toList
  let body := name.take (name.length - Files.Tree.documentEnding.length)
  String.ofList (if body.isEmpty then name else body)

/-- What can be read of the documents in a directory, in the order of their names. -/
def loadAll {α : Type} (t : Files.Tree) (dir : String) (read : String → Except Fault α) :
    Except Fault (List α) := do
  if ← (t.isDirectory dir).mapError .file then
    pure ((t.documents dir).filterMap fun path => (read path).toOption)
  else pure []

def ensureDirectory (dir : String) : Files.Act Unit := do
  if !(← ((← get).isDirectory dir : Except Files.Fault Bool)) then
    Files.Act.makeDirectories dir

def ensureDirectories (l : Library) : Files.Act Unit := do
  ensureDirectory l.definitions
  ensureDirectory l.templates
  ensureDirectory l.history

/-! ### Playbooks -/

def definitionPath (l : Library) (id : String) : String :=
  documentPath l.definitions id

def loadPlaybook (t : Files.Tree) (path : String) : Except Fault Playbook := do
  decodeAs Playbook.decode (← readValue t path)

def loadPlaybooks (t : Files.Tree) (dir : String) : Except Fault (List Playbook) :=
  loadAll t dir (loadPlaybook t)

def savePlaybook (l : Library) (p : Playbook) : Files.Act String := do
  let path := l.definitionPath p.id
  writeDocument path p.encode
  pure path

def removePlaybook (l : Library) (id : String) : Files.Act Unit :=
  Files.Act.change fun t => t.remove (l.definitionPath id)

/-! ### Templates -/

def isTemplateChar (c : Char) : Bool :=
  c.isAlphanum || c == '_' || c == '-'

def isTemplateName (name : String) : Bool :=
  !name.isEmpty && name.toList.all isTemplateChar

def templateNames (l : Library) (t : Files.Tree) : Except Fault (List String) := do
  if ← (t.isDirectory l.templates).mapError .file then
    pure (Files.Tree.inOrder ((t.documents l.templates).map documentName))
  else pure []

def loadTemplate (l : Library) (t : Files.Tree) (name : String) :
    Except Fault (Members Value) := do
  if !isTemplateName name then throw (.refused (.badTemplateName name))
  match ← readDocument t (documentPath l.templates name) with
  | .record ms => pure ms
  | _ => throw (.refused (.templateNotRecord name))

/-! ### Past executions -/

/-- Executions in the order of their moments, those of one moment as they came. -/
def inTimeOrder (entries : List HistoryEntry) : Except Fault (List HistoryEntry) :=
  if entries.all (·.executedAt.isNaive) || entries.all (!·.executedAt.isNaive) then
    .ok (entries.mergeSort fun a b => a.executedAt.epochMicros ≤ b.executedAt.epochMicros)
  else .error .incomparable

def loadExecution (t : Files.Tree) (path : String) : Except Fault HistoryEntry := do
  decodeAs HistoryEntry.decode (← readValue t path)

def loadHistory (l : Library) (t : Files.Tree) : Except Fault (List HistoryEntry) := do
  inTimeOrder (← loadAll t l.history (loadExecution t))

def saveExecution (l : Library) (e : HistoryEntry) : Files.Act String := do
  let path := documentPath l.history e.id
  writeDocument path e.encode
  pure path

end Library

end Scout
