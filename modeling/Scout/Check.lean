import Scout.Document.Playbook
import Scout.Document.Report

/-!
# Checking playbooks

A playbook is checked for what its document form cannot say: that ids are usable, that each
action has what its kind needs, that programs are not nested too deeply. All faults are listed;
advice comes apart from them.
-/

namespace Scout

namespace Check

/-- A character of an id. -/
def isIdChar (c : Char) : Bool :=
  c.isAlphanum || c == '_' || c == '-'

/-- Id characters alone, at least one; a line feed may end the text. -/
def isId (s : String) : Bool :=
  let cs := s.toList
  let body := if cs.getLast? == some '\n' then cs.dropLast else cs
  !body.isEmpty && body.all isIdChar

/-- Digits of any script at the start, followed by what the rest accepts. -/
def digitsThen (rest : List Char → Bool) (cs : List Char) : Bool :=
  let after := cs.dropWhile Text.isDigit
  after.length < cs.length && rest after

def pointThen (rest : List Char → Bool) : List Char → Bool
  | '.' :: cs => rest cs
  | _ => false

/-- A text that begins with three numbers set apart by points. -/
def isVersion (s : String) : Bool :=
  digitsThen (pointThen (digitsThen (pointThen (digitsThen fun _ => true)))) s.toList

/-- What an action of a kind must have, and the words for it. -/
def missingPart (s : Step) (program : Option (List Action)) : Option String :=
  let noSelector := (s.selector.getD "") == ""
  match s.kind with
  | .navigate => if Scalar.isGiven s.value then none else some "value (URL) is required"
  | .click | .extract => if noSelector then some "selector is required" else none
  | .fill | .select =>
    if noSelector || s.value.isNone then some "selector and value are required" else none
  | .conditional | .loop | .retry =>
    if (program.getD []).isEmpty then some "sub-actions are required" else none
  | _ => none

def actionPlace (index : Nat) : String :=
  "Action " ++ toString index

def missingMessage (index : Nat) (s : Step) (part : String) : String :=
  actionPlace index ++ " (" ++ s.kind.word ++ "): " ++ part

def depthMessage (index : Nat) (depth : Nat) (maxDepth : Int) : String :=
  s!"{actionPlace index}: nesting depth {depth} exceeds maximum of {maxDepth}"

/-- The faults of an action apart from those of its program. -/
def stepFaults (maxDepth : Int) (s : Step) (program : Option (List Action)) (index : Nat)
    (depth : Nat) : List String :=
  (if Text.isAllBlank s.id then [actionPlace index ++ ": id is required"] else [])
    ++ (if maxDepth < depth then [depthMessage index depth maxDepth]
      else (missingPart s program).toList.map (missingMessage index s))

def nested (index : Nat) (messages : List String) : List String :=
  messages.map fun m => actionPlace index ++ " > " ++ m

mutual

/-- The faults of an action and, within the depth limit, of its program. -/
def actionFaults (maxDepth : Int) : Action → Nat → Nat → List String
  | ⟨s, none⟩, index, depth => stepFaults maxDepth s none index depth
  | ⟨s, some program⟩, index, depth =>
    stepFaults maxDepth s (some program) index depth
      ++ (if maxDepth < depth then []
        else nested index (programFaults maxDepth program 0 (depth + 1)))

def programFaults (maxDepth : Int) : List Action → Nat → Nat → List String
  | [], _, _ => []
  | a :: rest, index, depth =>
    actionFaults maxDepth a index depth ++ programFaults maxDepth rest (index + 1) depth

end

def ruleFaults (index : Nat) (r : ExtractionRule) : List String :=
  let place := s!"Extraction rule {index}: "
  (if Text.isAllBlank r.field then [place ++ "field is required"] else [])
    ++ (if Text.isAllBlank r.selector then [place ++ "selector is required"] else [])

def idFaults (id : String) : List String :=
  if Text.isAllBlank id then ["Playbook ID is required"]
  else if isId id then []
  else ["Playbook ID must contain only letters, numbers, hyphens, and underscores"]

def headFaults (p : Playbook) : List String :=
  idFaults p.id
    ++ (if Text.isAllBlank p.name then ["Playbook name is required"] else [])
    ++ (if Text.isAllBlank p.version then ["Playbook version is required"] else [])
    ++ (if p.actions.isEmpty then ["Playbook must have at least one action"] else [])

def policyFaults (p : ErrorPolicy) : List String :=
  (if p.maxRetries < 0 then ["Error handling maxRetries must be >= 0"] else [])
    ++ (if p.retryDelay < 0 then ["Error handling retryDelay must be >= 0"] else [])

def faults (maxDepth : Int) (p : Playbook) : List String :=
  headFaults p
    ++ programFaults maxDepth p.actions 0 1
    ++ ((List.range p.rules.length).zip p.rules).flatMap (fun r => ruleFaults r.1 r.2)
    ++ policyFaults p.policy

def advice (p : Playbook) : List String :=
  (if !Text.isAllBlank p.version && !isVersion p.version then
      ["Playbook version should follow semantic versioning (e.g., 1.0.0)"] else [])
    ++ (if p.metadata.estimatedDuration < 0.0 then ["Estimated duration should be positive"]
      else [])
    ++ (if 0.0 ≤ p.metadata.successRate && p.metadata.successRate ≤ 100.0 then []
      else ["Success rate should be between 0 and 100"])

end Check

/-- Checks a playbook. -/
def Playbook.check (maxDepth : Int) (p : Playbook) : CheckReport :=
  let errors := Check.faults maxDepth p
  ⟨errors.isEmpty, errors, Check.advice p⟩

/-- Reads and checks a document: one that cannot be read is not valid. -/
def checkDocument (maxDepth : Int) (document : Value) : CheckReport :=
  match Playbook.decode document with
  | .ok p => p.check maxDepth
  | .invalid issues => ⟨false, issues.map Issue.text, []⟩

end Scout
