import Scout.Settings.Environment

/-!
# Layers of settings

Later layers win: the defaults, the layer of the environment that is named, the local layer, the
variables of the process, and what is given directly. Layers overlay each other member by member
in sections.
-/

namespace Scout.Settings

/-- A member as a layer over it leaves it. -/
def overlaid (below : Option Value) (above : Value) : Value :=
  match below, above with
  | some (.record a), .record b => .record (Members.overlay a b)
  | _, v => v

def mergeLayer (below above : Members Value) : Members Value :=
  above.foldl (fun ms m => ms.put m.1 (overlaid (ms.find? m.1) m.2)) below

def variableName : String := "SENTINEL_ENV"
def standardEnvironment : String := "local"

/-- The name of the environment whose layer counts. -/
def environmentName (e : Environment) (explicit : Members Value) : Except Fault String :=
  let given := Value.ofOption (explicit.find? "env")
  if given.isTruthy then
    match given with
    | .text s => .ok (Text.trim s)
    | v => .error (.environmentNotText (Placeholder.kindOf v))
  else match Members.find? e variableName with
    | some s => .ok (Text.trim (if s == "" then standardEnvironment else s))
    | none => .ok standardEnvironment

/-- The members of all layers. -/
def mergedLayers (layers : Members (Members Value)) (name : String) (explicit : Members Value) :
    Members Value :=
  let layer (n : String) : Members Value := (layers.find? n).getD []
  [layer "default", layer name, layer "local", explicit].foldl mergeLayer []

/-- Reads the settings of a process. -/
def load (layers : Members (Members Value)) (e : Environment) (direct : Members Value) :
    Except Fault Settings := do
  let explicit := deepMembers (← ofEnvironment e) direct
  let name ← environmentName e explicit
  match ← decodeFields (ownMembers e.normalized) (mergedLayers layers name explicit) with
  | .ok s => pure s
  | .invalid issues => .error (.invalid issues)

end Scout.Settings
