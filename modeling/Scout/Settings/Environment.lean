import Scout.Json.Reader
import Scout.Settings.Basic
import Scout.Text.Placeholder

/-!
# Settings from the environment

Variables whose names begin with `SENTINEL_`, in any case, set members. Two underscores lead into a
section. A section as a whole and the members that are lists are given as JSON text.
-/

namespace Scout.Settings

/-- The variables of a process, in order. -/
abbrev Environment := Members String

def lower (s : String) : String :=
  String.ofList (s.toList.map Char.toLower)

/-- Variables by name in lower case; of two that differ in case only, the later one counts. -/
def Environment.normalized (e : Environment) : Environment :=
  e.foldl (fun ms v => Members.put ms (lower v.1) v.2) []

def startMark : String := "sentinel_"

/-- The parts between two underscores. -/
def splitLevels : List Char → List Char → List String
  | seen, [] => [String.ofList seen.reverse]
  | seen, '_' :: '_' :: rest => String.ofList seen.reverse :: splitLevels [] rest
  | seen, c :: rest => splitLevels (c :: seen) rest

/-- Puts a value where the names lead; what is not a record on the way stays. -/
def insertAt (ms : Members Value) (v : Value) : List String → Members Value
  | [] => ms
  | [name] => ms.put name v
  | name :: rest => match ms.find? name with
    | none => ms.put name (.record (insertAt [] v rest))
    | some (.record inner) => ms.put name (.record (insertAt inner v rest))
    | some _ => ms

/-- The members of a section that are given as JSON text. -/
def isListMember (sectionName member : String) : Bool :=
  sectionName == "api" && member == "cors_origins"

/-- The value that a variable gives to a member of a section. -/
def memberValue (sectionName : String) (path : List String) (text : String) :
    Except Fault Value :=
  match path with
  | [member] =>
    if isListMember sectionName member && text != "" then
      match Json.parse text with
      | .ok v => .ok v
      | .error _ => .error (.unreadable sectionName)
    else .ok (.text text)
  | _ => .ok (.text text)

/-- What follows a start in a text. -/
def afterStart? (start s : String) : Option (List Char) :=
  if start.toList.isPrefixOf s.toList then some (s.toList.drop start.length) else none

/-- The members of a section that single variables give. -/
def memberVariables (sectionName : String) : Environment → Members Value →
    Except Fault (Members Value)
  | [], acc => .ok acc
  | (name, text) :: rest, acc =>
    match afterStart? (startMark ++ sectionName ++ "__") name with
    | none => memberVariables sectionName rest acc
    | some cs => do
      let path := splitLevels [] cs
      let v ← memberValue sectionName path text
      memberVariables sectionName rest (insertAt acc v path)

/-- The names of members are found in any case. -/
def spelled (known : List String) (ms : Members Value) : Members Value :=
  ms.foldl (fun acc m =>
    Members.put acc ((known.find? fun k => lower k == lower m.1).getD m.1) m.2) []

/-- What the environment says about a section. -/
def sectionVariables (known : List String) (sectionName : String) (e : Environment) :
    Except Fault (Option Value) := do
  match Members.find? e (startMark ++ sectionName) with
  | none =>
    let ms ← memberVariables sectionName e []
    pure (if ms.isEmpty then none else some (.record (spelled known ms)))
  | some text =>
    match Json.parse text with
    | .error _ => .error (.unreadable sectionName)
    | .ok .null => pure none
    | .ok (.record whole) =>
      let ms ← memberVariables sectionName e []
      pure (some (.record (spelled known (deepMembers whole ms))))
    | .ok v => pure (some v)

/-- The value that a section reads of a member from its own variable. -/
def ownValue (sectionName : String) (e : Environment) (member : String) :
    Except Fault (Option Value) :=
  match Members.find? e (startMark ++ sectionName ++ "__" ++ member) with
  | none => .ok none
  | some text =>
    if isListMember sectionName member then
      match Json.parse text with
      | .error _ => .error (.unreadable member)
      | .ok .null => .ok none
      | .ok v => .ok (some v)
    else .ok (some (.text text))

/-- The members that a section reads from its own variables, once more, when it is built. -/
def ownMembers (e : Environment) (sectionName : String) :
    List String → Except Fault (Members Value)
  | [] => .ok []
  | member :: rest => do
    let found ← ownValue sectionName e member
    let ms ← ownMembers e sectionName rest
    pure (match found with
      | some v => (member, v) :: ms
      | none => ms)

def plainFields : List String := ["env", "project_root", "debug", "log_level", "log_format"]

/-- The sections with the members that they know, in order. -/
def sections : List (String × List String) :=
  [(browserSection.name, browserSection.known), (playbookSection.name, playbookSection.known),
    (serviceSection.name, serviceSection.known)]

/-- The names of all variables that are known. -/
def variableNames : List String :=
  let names := plainFields ++ sections.flatMap fun s => s.1 :: s.2.map ((s.1 ++ "__") ++ ·)
  names.map fun n => String.ofList ((startMark ++ n).toList.map Char.toUpper)

/-- What the environment says about the settings. -/
def ofEnvironment (e : Environment) : Except Fault (Members Value) := do
  let e := e.normalized
  let plain := plainFields.filterMap fun f =>
    (Members.find? e (startMark ++ f)).map fun text => (f, Value.text text)
  let parts ← sections.mapM fun s => do
    pure ((← sectionVariables s.2 s.1 e).map fun v => (s.1, v))
  pure (plain ++ parts.filterMap id)

end Scout.Settings
