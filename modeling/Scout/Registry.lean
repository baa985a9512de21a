import Scout.Check
import Scout.Document.Pairs
import Scout.Library
import Scout.Run
import Scout.Settings.Basic

/-!
# The registry

The registry holds the playbooks of a library in memory, with the history of their executions
and the statistics over it. A change is checked first, then written, and only then taken over.
-/

namespace Scout

namespace Stats

/-- The statistics of a playbook that was never executed. -/
def starting (p : Playbook) : Stats :=
  ⟨p.id, p.name, 0, 0, 0, 0.0, 0.0, none, p.metadata.successRate⟩

/-- The statistics over executions; the averages only when there is one. -/
def ofEntries (s : Stats) (entries : List HistoryEntry) : Stats :=
  let total := entries.length
  let successes := (entries.filter HistoryEntry.success).length
  let count := Float.ofNat total
  let found := (entries.map HistoryEntry.opportunitiesFound).foldl (· + ·) 0
  { s with
    total := total
    successful := successes
    failed := total - successes
    successRate := Float.ofNat successes / count * 100.0
    averageTime := (entries.map HistoryEntry.executionTime).foldl (· + ·) 0.0 / count
    averageFound := Decimal.ofRatio found total
    lastExecuted := entries.getLast?.map HistoryEntry.executedAt }

end Stats

structure Registry where
  library : Library
  options : RunOptions
  /-- How deeply programs may be nested. -/
  maxDepth : Int
  playbooks : Members Playbook
  stats : Members Stats
  history : List HistoryEntry

namespace Registry

inductive Fault where
  /-- The playbook is not valid; with all faults and the advice. -/
  | rejected (errors warnings : List String)
  | unknown (id : String)
  | duplicate (id : String)
  /-- What was given is no record. -/
  | shapeless (e : Pairs.Fault)
  | library (e : Library.Fault)
  /-- An average is beyond the doubles. -/
  | averageTooLarge

def Fault.message : Fault → String
  | .rejected errors _ => "Invalid playbook: " ++ ", ".intercalate errors
  | .unknown id => s!"Playbook with ID '{id}' not found"
  | .duplicate id => s!"Playbook with ID '{id}' already exists"
  | .shapeless e => e.message
  | .library e => e.message
  | .averageTooLarge => "integer division result too large for a float"

/-- Whether a fault lies in what was asked for. -/
def Fault.isRefusal : Fault → Bool
  | .rejected _ _ | .unknown _ | .duplicate _ | .library (.refused _) => true
  | _ => false

/-- A registry and the tree that its library is in. -/
structure Desk where
  registry : Registry
  files : Files.Tree

/-- Something done with a registry. What was done before a fault stays done. -/
abbrev Act := ExceptT Fault (StateM Desk)

namespace Act

def registry : Act Registry := return (← get).registry

def update (f : Registry → Registry) : Act Unit :=
  modify fun d => { d with registry := f d.registry }

/-- Reads from the library. -/
def reading {α : Type} (f : Library → Files.Tree → Except Library.Fault α) : Act α := do
  let d ← get
  match f d.registry.library d.files with
  | .ok a => pure a
  | .error e => throw (.library e)

/-- Changes the files of the library; gives the fault if there is one. -/
def attempt {α : Type} (f : Library → Files.Act α) : Act (Except Files.Fault α) := do
  let d ← get
  let (outcome, files) := (f d.registry.library).run.run d.files
  set { d with files }
  pure outcome

def writing {α : Type} (f : Library → Files.Act α) : Act α := do
  match ← attempt f with
  | .ok a => pure a
  | .error e => throw (.library (.file e))

end Act

def fresh (library : Library) (options : RunOptions) (maxDepth : Int) : Registry :=
  ⟨library, options, maxDepth, [], [], []⟩

/-- The registry that settings ask for, before anything is loaded. -/
def ofSettings (s : Settings) : Registry :=
  let p := s.playbooks
  fresh ⟨Files.normal p.definitionsDir, Files.normal p.templatesDir, Files.normal p.historyDir⟩
    p.runOptions p.maxDepth

/-! ### Statistics -/

/-- The executions of one playbook. -/
def entriesOf (history : List HistoryEntry) (id : String) : List HistoryEntry :=
  history.filter fun e => e.playbookId == id

def withStats (r : Registry) (p : Playbook) : Registry :=
  if r.stats.contains p.id then r else { r with stats := r.stats.put p.id (Stats.starting p) }

def withPlaybook (r : Registry) (p : Playbook) : Registry :=
  { r with playbooks := r.playbooks.put p.id p }

/-- Takes over a playbook read from the library. -/
def adopt (r : Registry) (p : Playbook) : Registry :=
  (r.withPlaybook p).withStats p

def historyOf (r : Registry) (id : String) : List HistoryEntry :=
  entriesOf r.history id

def withCount (r : Registry) (id : String) (s : Stats) : Registry :=
  { r with stats := r.stats.put id s }

/-- Counts the executions of a playbook anew, if it has statistics. -/
def count (id : String) : Act Unit := do
  let r ← Act.registry
  match r.stats.find? id with
  | none => pure ()
  | some s =>
    let counted := Stats.ofEntries s (r.historyOf id)
    if Decimal.isFinite counted.averageFound then Act.update fun r => r.withCount id counted
    else
      Act.update fun r => r.withCount id
        { counted with averageFound := s.averageFound, lastExecuted := s.lastExecuted }
      throw .averageTooLarge

/-- Counts the executions of the playbooks that have any. -/
def countAll : List String → Act Unit
  | [] => pure ()
  | id :: rest => do
    if !((← Act.registry).historyOf id).isEmpty then count id
    countAll rest

/-! ### Loading -/

/-- Makes the directories of the library and takes over what is in them. -/
def load : Act Unit := do
  Act.writing Library.ensureDirectories
  Act.update fun r => { r with playbooks := [], stats := [] }
  let playbooks ← Act.reading fun l t => Library.loadPlaybooks t l.definitions
  Act.update fun r => playbooks.foldl adopt r
  let history ← Act.reading Library.loadHistory
  Act.update fun r => { r with history }
  countAll (← Act.registry).stats.names

/-! ### Playbooks -/

/-- What the check says about data given as a record or as pairs, and the record that it is. -/
def examine (r : Registry) (data : Value) : Except Pairs.Fault (CheckReport × Value) := do
  let document := Value.record (← Pairs.members data)
  pure (checkDocument r.maxDepth document, document)

/-- The playbook of data that pass the check. -/
def checked (data : Value) : Act Playbook := do
  let r ← Act.registry
  let (report, document) ← (r.examine data).mapError Fault.shapeless
  if !report.isValid then throw (.rejected report.errors report.warnings)
  match Playbook.decode document with
  | .ok p => pure p
  | .invalid issues => throw (.library (.invalid issues))

def create (document : Value) : Act Playbook := do
  let p ← checked document
  if (← Act.registry).playbooks.contains p.id then throw (.duplicate p.id)
  let _ ← Act.writing fun l => l.savePlaybook p
  Act.update fun r => r.adopt p
  pure p

def update (document : Value) : Act Playbook := do
  let p ← checked document
  if !(← Act.registry).playbooks.contains p.id then throw (.unknown p.id)
  let _ ← Act.writing fun l => l.savePlaybook p
  Act.update fun r =>
    { r.withPlaybook p with stats := r.stats.modify p.id fun s => { s with name := p.name } }
  pure p

/-- Takes a playbook out of the library and the registry. Its history stays, and so does a file that
cannot be removed. -/
def delete (id : String) : Act Unit := do
  if !(← Act.registry).playbooks.contains id then throw (.unknown id)
  match ← Act.attempt fun l => l.removePlaybook id with
  | .error ⟨.zeroCharacter, path⟩ => throw (.library (.file ⟨.zeroCharacter, path⟩))
  | _ => Act.update fun r =>
    { r with playbooks := r.playbooks.erase id, stats := r.stats.erase id }

def get? (r : Registry) (id : String) : Option Playbook :=
  r.playbooks.find? id

def require (id : String) : Act Playbook := do
  match (← Act.registry).get? id with
  | some p => pure p
  | none => throw (.unknown id)

def list (r : Registry) : List Playbook :=
  r.playbooks.values

/-! ### Search -/

/-- A filter that is unset or empty lets everything pass. -/
def passesText (filter : Option String) (s : String) : Bool :=
  match filter with
  | none => true
  | some f => f == "" || f == s

def passesRate (stats : Option Stats) : Option Float → Bool
  | none => true
  | some least => match stats with
    | none => false
    | some s => !(s.successRate < least : Bool)

def passes (f : Filters) (stats : Option Stats) (p : Playbook) : Bool :=
  ((f.tags.getD []).isEmpty || (f.tags.getD []).any p.tags.contains)
    && passesText f.author p.author
    && passesText f.targetSite p.metadata.targetSite
    && f.complexity.all (· == p.metadata.complexity)
    && f.requiresAuth.all (· == p.metadata.requiresAuth)
    && passesRate stats f.minSuccessRate

def search (r : Registry) (f : Filters) : List Playbook :=
  r.list.filter fun p => passes f (r.stats.find? p.id) p

/-! ### Executions -/

/-- Keeps an execution and counts it. An execution whose file cannot be written is kept in
memory. -/
def record (e : HistoryEntry) : Act Unit := do
  match ← Act.attempt fun l => l.saveExecution e with
  | .error ⟨.zeroCharacter, path⟩ => throw (.library (.file ⟨.zeroCharacter, path⟩))
  | _ => pure ()
  Act.update fun r => { r with history := r.history ++ [e] }
  count e.playbookId
  Act.update fun r =>
    { r with stats := r.stats.modify e.playbookId fun s =>
        { s with lastExecuted := some e.executedAt } }

/-- What a run is done with, besides the playbook. -/
structure Visit where
  world : World
  vars : Members Value
  stamp : Stamp
  /-- Seconds, in place of those of the options. -/
  budget : Option Float
  historyId : String

def Visit.entry (v : Visit) (id : String) (r : RunReport) : HistoryEntry :=
  ⟨v.historyId, id, v.stamp.moment, r.success, r.opportunities.length, r.executionTime, r.errors,
    r.warnings, v.vars⟩

/-- Runs a playbook and records the execution. -/
def execute (id : String) (v : Visit) : Act (RunReport × World) := do
  let p ← require id
  let options := (← Act.registry).options
  let options := match v.budget with
    | some b => { options with budget := b }
    | none => options
  let (report, world) := Run.start options v.stamp p v.vars v.world
  record (v.entry p.id report)
  pure (report, world)

/-! ### Templates, export and import -/

/-- A playbook made from a template: its members, then the id and a name, then what is given. -/
def fromTemplate (template id : String) (given : Members Value) : Act Playbook := do
  let ms ← Act.reading fun l t => l.loadTemplate t template
  let name := ((ms.find? "name").getD (.text template)).display
  let own : Members Value := [("id", .text id), ("name", .text (name ++ " (" ++ id ++ ")"))]
  create (.record ((ms.overlay own).overlay given))

/-- Writes a playbook to a file. -/
def exportTo (id path : String) : Act String := do
  let p ← require id
  let _ ← Act.writing fun _ => Library.writeDocument path p.encode
  pure (Files.normal path)

/-- Creates the playbook that a file holds. -/
def importFrom (path : String) : Act Playbook := do
  match ← Act.reading fun _ t => Library.readDocument t path with
  | .record ms => create (.record ms)
  | _ => throw (.library (.refused (.fileNotRecord path)))

end Registry

end Scout
