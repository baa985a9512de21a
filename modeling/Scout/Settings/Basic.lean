import Scout.Document.Decoded
import Scout.Files.Path
import Scout.Interpreter

/-!
# Settings

Where playbooks are kept, the limits of a run, how the browser and the service start. The storage
directories are seen from the project root.
-/

namespace Scout

namespace Settings

structure Browser where
  headless : Bool
  /-- Milliseconds. -/
  timeout : Int
  userAgent : String

structure Playbooks where
  definitionsDir : String
  templatesDir : String
  historyDir : String
  screenshotDir : String
  /-- Milliseconds. -/
  navigationTimeout : Int
  /-- Milliseconds. -/
  elementTimeout : Int
  maxDepth : Int
  /-- Seconds. -/
  budget : Float

structure Service where
  host : String
  port : Int
  origins : List String

end Settings

structure Settings where
  environment : String
  projectRoot : String
  debug : Bool
  logLevel : String
  logFormat : String
  browser : Settings.Browser
  playbooks : Settings.Playbooks
  service : Settings.Service

namespace Settings

/-- A relative directory is seen from the root; an absolute one stays as it is. -/
def placed (root dir : String) : String :=
  if Files.isAbsolute dir then dir else Files.join root dir

def Playbooks.placedUnder (root : String) (p : Playbooks) : Playbooks :=
  { p with
    definitionsDir := placed root p.definitionsDir
    templatesDir := placed root p.templatesDir
    historyDir := placed root p.historyDir
    screenshotDir := placed root p.screenshotDir }

/-- What the settings say about every run. -/
def Playbooks.runOptions (p : Playbooks) : RunOptions :=
  ⟨Files.normal p.screenshotDir, p.navigationTimeout, p.elementTimeout, p.maxDepth, p.budget⟩

def Browser.encode (b : Browser) : Value :=
  .record [("headless", .bool b.headless), ("timeout_ms", .int b.timeout),
    ("user_agent", .text b.userAgent)]

def Playbooks.encode (p : Playbooks) : Value :=
  .record [
    ("definitions_dir", .text p.definitionsDir),
    ("templates_dir", .text p.templatesDir),
    ("history_dir", .text p.historyDir),
    ("screenshot_dir", .text p.screenshotDir),
    ("navigation_timeout_ms", .int p.navigationTimeout),
    ("element_timeout_ms", .int p.elementTimeout),
    ("max_action_depth", .int p.maxDepth),
    ("max_run_duration_sec", .float p.budget)]

def Service.encode (s : Service) : Value :=
  .record [("host", .text s.host), ("port", .int s.port), ("cors_origins", .texts s.origins)]

def encode (s : Settings) : Value :=
  .record [
    ("env", .text s.environment),
    ("project_root", .text s.projectRoot),
    ("debug", .bool s.debug),
    ("log_level", .text s.logLevel),
    ("log_format", .text s.logFormat),
    ("browser", s.browser.encode),
    ("playbook", s.playbooks.encode),
    ("api", s.service.encode)]

/-- Why no settings can be read at all. -/
inductive Fault where
  /-- The text of a variable is no JSON; the member of the settings that it belongs to. -/
  | unreadable (field : String)
  /-- The name of the environment has no text; the kind that it has. -/
  | environmentNotText (kind : String)
  | invalid (issues : List Issue)

def Fault.message : Fault → String
  | .unreadable field =>
    s!"error parsing value for field \"{field}\" from source \"EnvSettingsSource\""
  | .environmentNotText kind => s!"'{kind}' object has no attribute 'strip'"
  | .invalid issues => "\n".intercalate (issues.map Issue.text)

/-! ### Reading the members -/

mutual

/-- The first value, where records overlay each other member by member, at every depth. -/
def deepOverlay : Value → Value → Value
  | .record base, .record above => .record (deepMembers base above)
  | _, v => v

def deepMembers (base : List (String × Value)) : List (String × Value) → List (String × Value)
  | [] => base
  | (k, v) :: rest =>
    deepMembers (Members.put base k (match Members.find? base k with
      | some old => deepOverlay old v
      | none => v)) rest

end

open Decoder

/-- An integer that is not below a bound. -/
def integerFrom (bound : Int) : Decoder Int := fun v =>
  match integer v with
  | .ok n => if bound ≤ n then .ok n
    else .fail s!"Input should be greater than or equal to {bound}"
  | other => other

def floatFromZero : Decoder Float := fun v =>
  match float v with
  | .ok x => if x < 0.0 then .fail "Input should be greater than or equal to 0" else .ok x
  | other => other

/-- A file path in its shortest form. -/
def filePath : Decoder String
  | .text s => .ok (Files.normal s)
  | _ => .fail "Input is not a valid path"

/-- Members that a section does not know. -/
def surplus (known : List String) : Members Value → Decoded Unit
  | [] => .ok ()
  | (k, _) :: rest =>
    if known.contains k then surplus known rest
    else (fun _ _ => ()) <$> (Decoded.fail (α := Unit) "Extra inputs are not permitted").under k
      <*> surplus known rest

/-- A section of the settings: its own name, that of its type, and its members. -/
structure Section (α : Type) where
  name : String
  typeName : String
  known : List String
  fields : Members Value → Decoded α

def member (name : String) : Label := Label.plain name

/-- What a section reads from its own variables; its name and the members that it knows are
given. -/
abbrev Own := String → List String → Except Fault (Members Value)

section Building

variable {α : Type} (s : Section α) (own : Except Fault (Members Value))

def Section.read (ms : Members Value) : Decoded α :=
  (fun a _ => a) <$> s.fields ms <*> surplus s.known ms

/-- A section is built from the members that it is given, over those of its own variables. -/
def Section.decode : Decoder α :=
  Decoder.model s.typeName fun given =>
    match own with
    | .ok own => s.read (deepMembers own given)
    | .error e => .fail ("Value error, " ++ e.message)

/-- A section that is not given is built from its own variables alone. -/
def Section.alone : Except Fault α := do
  match s.read (← own) with
  | .ok a => pure a
  | .invalid issues => throw (.invalid issues)

end Building

def browserSection : Section Browser where
  name := "browser"
  typeName := "BrowserSettings"
  known := ["headless", "timeout_ms", "user_agent"]
  fields ms := Browser.mk
    <$> (member "headless").optional bool true ms
    <*> (member "timeout_ms").optional integer 30000 ms
    <*> (member "user_agent").optional text "" ms

def playbookSection : Section Playbooks where
  name := "playbook"
  typeName := "PlaybookSettings"
  known := ["definitions_dir", "templates_dir", "history_dir", "screenshot_dir",
    "navigation_timeout_ms", "element_timeout_ms", "max_action_depth", "max_run_duration_sec"]
  fields ms := Playbooks.mk
    <$> (member "definitions_dir").optional text "config/playbooks/definitions" ms
    <*> (member "templates_dir").optional text "config/playbooks/templates" ms
    <*> (member "history_dir").optional text "data/playbooks/history" ms
    <*> (member "screenshot_dir").optional text "data/screenshots" ms
    <*> (member "navigation_timeout_ms").optional (integerFrom 0) 30000 ms
    <*> (member "element_timeout_ms").optional (integerFrom 0) 10000 ms
    <*> (member "max_action_depth").optional (integerFrom 1) 8 ms
    <*> (member "max_run_duration_sec").optional floatFromZero 0.0 ms

def serviceSection : Section Service where
  name := "api"
  typeName := "APISettings"
  known := ["host", "port", "cors_origins"]
  fields ms := Service.mk
    <$> (member "host").optional text "0.0.0.0" ms
    <*> (member "port").optional integer 8200 ms
    <*> (member "cors_origins").optional (list text)
      ["http://localhost:3000", "http://localhost:5173"] ms

def assemble (environment projectRoot : String) (debug : Bool) (logLevel logFormat : String)
    (browser : Browser) (playbooks : Playbooks) (service : Service) : Settings :=
  ⟨environment, projectRoot, debug, logLevel, logFormat, browser,
    playbooks.placedUnder projectRoot, service⟩

/-- Reads a section that may be missing. -/
def sectionIn {α : Type} (s : Section α) (own : Own) (ms : Members Value) :
    Except Fault (Decoded α) :=
  match ms.find? s.name with
  | some v => .ok ((s.decode (own s.name s.known) v).under s.name)
  | none => (s.alone (own s.name s.known)).map .ok

/-- Reads settings; members that they do not know are passed over. -/
def decodeFields (own : Own) (ms : Members Value) : Except Fault (Decoded Settings) := do
  let browser ← sectionIn browserSection own ms
  let playbooks ← sectionIn playbookSection own ms
  let service ← sectionIn serviceSection own ms
  pure (assemble
    <$> (member "env").optional text "local" ms
    <*> (member "project_root").optional filePath "." ms
    <*> (member "debug").optional bool false ms
    <*> (member "log_level").optional text "INFO" ms
    <*> (member "log_format").optional text "text" ms
    <*> browser <*> playbooks <*> service)

end Settings

end Scout
