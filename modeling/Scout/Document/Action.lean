import Scout.Action
import Scout.Document.Decoded

/-!
# Actions and conditions as documents

The document form of an action nests: its program is a list of actions. Reading and writing
follow the structure of the document and of the action.
-/

namespace Scout

namespace Label

def id : Label := plain "id"
def kind : Label := plain "type"
def description : Label := plain "description"
def selector : Label := plain "selector"
def value : Label := plain "value"
def timeout : Label := plain "timeout"
def retries : Label := plain "retries"
def conditions : Label := plain "conditions"
def program : Label := plain "actions"
def vars : Label := plain "variables"
def isOptional : Label := plain "optional"
def variableName : Label := plain "variable"

end Label

namespace Condition

def decodeFields (ms : Members Value) : Decoded Condition :=
  Condition.mk
    <$> Label.kind.required (Decoder.oneOf ConditionKind.all ConditionKind.word) ms
    <*> Label.selector.optional (Decoder.nullable Decoder.text) none ms
    <*> Label.variableName.optional (Decoder.nullable Decoder.text) none ms
    <*> Label.value.optional (Decoder.nullable Decoder.scalar) none ms

def decode : Decoder Condition :=
  Decoder.model "PlaybookCondition" decodeFields

def encode (c : Condition) : Value :=
  .record [
    ("type", .text c.kind.word),
    ("selector", .ofText? c.selector),
    ("variable", .ofText? c.variableName),
    ("value", .ofScalar? c.value)]

end Condition

namespace Action

def assemble (id : String) (kind : ActionKind) (description : String) (selector : Option String)
    (value : Option Scalar) (timeout retries : Option Int) (conditions : Option (List Condition))
    (program : Option (List Action)) (bindings : Option (Members Value)) (optional : Bool) :
    Action :=
  ⟨⟨id, kind, description, selector, value, timeout, retries, conditions, bindings, optional⟩,
    program⟩

/-- The members of an action, its program already read. -/
def decodeFields (ms : Members Value) (program : Decoded (Option (List Action))) : Decoded Action :=
  assemble
    <$> Label.id.optional Decoder.text "" ms
    <*> Label.kind.required (Decoder.oneOf ActionKind.all ActionKind.word) ms
    <*> Label.description.optional Decoder.text "" ms
    <*> Label.selector.optional (Decoder.nullable Decoder.text) none ms
    <*> Label.value.optional (Decoder.nullable Decoder.scalar) none ms
    <*> Label.timeout.optional (Decoder.nullable Decoder.integer) none ms
    <*> Label.retries.optional (Decoder.nullable Decoder.integer) none ms
    <*> Label.conditions.optional (Decoder.nullable (Decoder.list Condition.decode)) none ms
    <*> program.under "actions"
    <*> Label.vars.optional (Decoder.nullable (Decoder.dictionary Decoder.any)) none ms
    <*> Label.isOptional.optional Decoder.bool false ms

mutual

def decode : Value → Decoded Action
  | .record ms => decodeFields ms (decodeProgramIn ms)
  | _ => .fail "Input should be a valid dictionary or instance of PlaybookAction"

/-- The program among the members of an action. -/
def decodeProgramIn : List (String × Value) → Decoded (Option (List Action))
  | [] => .ok none
  | (k, v) :: rest => if k = "actions" then decodeProgram v else decodeProgramIn rest

def decodeProgram : Value → Decoded (Option (List Action))
  | .null => .ok none
  | .list vs => some <$> decodeItems 0 vs
  | _ => .fail "Input should be a valid list"

def decodeItems : Nat → List Value → Decoded (List Action)
  | _, [] => .ok []
  | i, v :: rest =>
    (fun a as => a :: as) <$> (decode v).under (toString i) <*> decodeItems (i + 1) rest

end

/-- A list of actions that has to be given. -/
def decodeList : Decoder (List Action)
  | .list vs => decodeItems 0 vs
  | _ => .fail "Input should be a valid list"

/-- The members of an action, its program already written. -/
def encodeFields (s : Step) (program : Value) : Value :=
  .record [
    ("id", .text s.id),
    ("type", .text s.kind.word),
    ("description", .text s.description),
    ("selector", .ofText? s.selector),
    ("value", .ofScalar? s.value),
    ("timeout", .ofInt? s.timeout),
    ("retries", .ofInt? s.retries),
    ("conditions", match s.conditions with
      | some cs => .list (cs.map Condition.encode)
      | none => .null),
    ("actions", program),
    ("variables", match s.bindings with
      | some bs => .record bs
      | none => .null),
    ("optional", .bool s.optional)]

mutual

def encode : Action → Value
  | ⟨s, none⟩ => encodeFields s .null
  | ⟨s, some as⟩ => encodeFields s (.list (encodeItems as))

def encodeItems : List Action → List Value
  | [] => []
  | a :: rest => encode a :: encodeItems rest

end

end Action

end Scout
