import Scout.Text.Placeholder
import Scout.Value

/-!
# Records given as pairs

A record may be given as a list of pairs, each a name and a value; a pair may also be a text of
two characters or the two names of a record. Only names that are texts can be looked up, so
pairs with other names are left out.
-/

namespace Scout.Pairs

/-- Why data cannot be read as pairs. -/
inductive Fault where
  /-- The data has no parts; the kind that it has. -/
  | noParts (kind : String)
  | notPair (index length : Nat)
  | elementNoParts (index : Nat)
  /-- A pair whose name is itself a list or a record; its kind. -/
  | compoundName (kind : String)
deriving DecidableEq

def Fault.message : Fault → String
  | .noParts kind => s!"'{kind}' object is not iterable"
  | .notPair index length =>
    s!"dictionary update sequence element #{index} has length {length}; 2 is required"
  | .elementNoParts index =>
    s!"cannot convert dictionary update sequence element #{index} to a sequence"
  | .compoundName kind => s!"unhashable type: '{kind}'"

/-- The parts of a value, if it has any. -/
def partsOf : Value → Option (List Value)
  | .list items => some items
  | .record ms => some (ms.map fun m => .text m.1)
  | .text s => some (s.toList.map fun c => .text c.toString)
  | _ => none

/-- Adds a pair to the members before it. -/
def addPair (ms : Members Value) (name v : Value) : Except Fault (Members Value) :=
  match name with
  | .text s => .ok (ms.put s v)
  | .list _ | .record _ => .error (.compoundName (Placeholder.kindOf name))
  | _ => .ok ms

/-- The members that elements from an index on give, after those before them. -/
def membersFrom (index : Nat) (ms : Members Value) : List Value → Except Fault (Members Value)
  | [] => .ok ms
  | e :: rest =>
    match partsOf e with
    | none => .error (.elementNoParts index)
    | some [name, v] => do membersFrom (index + 1) (← addPair ms name v) rest
    | some parts => .error (.notPair index parts.length)

/-- The members of data, given as a record or as pairs. -/
def members : Value → Except Fault (Members Value)
  | .record ms => .ok ms
  | v =>
    match partsOf v with
    | none => .error (.noParts (Placeholder.kindOf v))
    | some elements => membersFrom 0 [] elements

@[simp] theorem members_record (ms : Members Value) : members (.record ms) = .ok ms := rfl

end Scout.Pairs
