import Scout.Moment.Iso
import Scout.Session

/-!
# Records from a page

Each rule reads one value per matching element into a field. The fields are then turned into
records: lists are laid side by side, single values go into every record. A record with a title
and an address becomes an opportunity.
-/

namespace Scout

/-- What a rule reads from an element: the named part or attribute, else the text. -/
def Snapshot.read (s : Snapshot) (name : Option String) : String :=
  match name with
  | none => s.text
  | some "" => s.text
  | some "textContent" => s.text
  | some "innerHTML" => s.markup
  | some a => (s.attributes.find? a).getD s.text

namespace Harvest

/-! ### Records -/

/-- The length of the longest list among the fields. -/
def recordCount (fields : Members Value) : Nat :=
  fields.foldl (fun n m => match m.2 with
    | .list items => max n items.length
    | _ => n) 0

/-- The value of a field in the record at an index. -/
def cell (i : Nat) : Value → Value
  | .list items => .ofOption items[i]?
  | v => v

/-- The records; without any listed value the fields themselves are the only record. -/
def records (fields : Members Value) : List (Members Value) :=
  match recordCount fields with
  | 0 => [fields]
  | n => (List.range n).map fun i => Members.mapValues (cell i) fields

/-- Null or the empty text. -/
def isUnset : Value → Bool
  | .null => true
  | .text s => s == ""
  | _ => false

/-- A record whose organization is not set takes it from the short name. -/
def withAlias (r : Members Value) : Members Value :=
  match r.find? "org" with
  | some v => if isUnset (.ofOption (r.find? "organization")) then r.put "organization" v else r
  | none => r

/-- The plain form of a field that counts as given, else nothing. -/
def fieldText (r : Members Value) (name : String) : String :=
  let v := Value.ofOption (r.find? name)
  if v.isTruthy then v.display else ""

def deadline? (v : Value) : Option Moment :=
  if isUnset v then none else Moment.Iso.moment? (Text.trim v.display)

def tagTexts : Value → List String
  | .list items => items.map Value.display
  | _ => []

/-- The opportunity that a record describes; one without title or address describes none. -/
def opportunity? (source : Provenance) (fields : Members Value) : Option Opportunity :=
  let r := withAlias fields
  let title := Value.ofOption (r.find? "title")
  let url := Value.ofOption (r.find? "url")
  if title.isTruthy && url.isTruthy then
    some {
      title := title.display
      url := url.display
      description := fieldText r "description"
      organization := fieldText r "organization"
      deadline := deadline? (.ofOption (r.find? "deadline"))
      location := fieldText r "location"
      amount := fieldText r "amount"
      tags := tagTexts (.ofOption (r.find? "tags"))
      sourceType := "websearch"
      status := "new"
      processed := false
      applied := false
      starred := false
      source := source }
  else none

/-! ### Rules -/

open Exec

def requiredFault (field reason : String) : Fault :=
  ⟨.extraction, "Required field extraction failed: " ++ field
    ++ (if reason == "" then "" else ": " ++ reason)⟩

def setField (name : String) (v : Value) : Exec Unit :=
  onContext fun c => { c with extracted := c.extracted.put name v }

def ruleWarning (field message : String) : String :=
  "Optional field extraction failed: " ++ field ++ " (" ++ message ++ ")"

/-- The values that count of the matched elements. -/
def readings (r : ExtractionRule) (found : List Snapshot) : List String :=
  (found.map fun s => s.read r.attributeName).filter (· != "")

/-- What fills a field when nothing was read. -/
def emptyFill (r : ExtractionRule) : Value :=
  match r.fallback with
  | .null => .list []
  | v => v

def applyRule (r : ExtractionRule) : Exec Unit := do
  match ← attempt (Browse.queryAll r.selector) with
  | .error e =>
    if r.required then fail (requiredFault r.field e.message)
    else
      let message := ruleWarning r.field e.message
      log .warn message
      warn message
      setField r.field r.fallback
  | .ok found =>
    let values := readings r found
    if !values.isEmpty then setField r.field (.texts values)
    else if r.required then
      fail (requiredFault r.field ("no match for selector '" ++ r.selector ++ "'"))
    else do
      match r.fallback with
      | .null => pure ()
      | _ => log .debug s!"Field {r.field} matched nothing, using default"
      setField r.field (emptyFill r)

def applyRules : List ExtractionRule → Exec Unit
  | [] => pure ()
  | r :: rest => do
    applyRule r
    applyRules rest

/-! ### Assembling -/

def isBlankUrl (s : String) : Bool :=
  s == "" || s == "about:blank"

/-- Why a value of some kind cannot be looked up among addresses. -/
def unhashable (kindName : String) : Fault :=
  ⟨.kind, "unhashable type: '" ++ kindName ++ "'"⟩

/-- The last address that a run went to, if it is one. -/
def lastAddress : Value → Except Fault (Option String)
  | .list (_ :: _) => .error (unhashable "list")
  | .record (_ :: _) => .error (unhashable "dict")
  | v => .ok (if v.isTruthy && !isBlankUrl v.display then some v.display else none)

/-- The address of the page, else the last one that was gone to. -/
def sourceUrl : Exec (Option String) := do
  let url ← Browse.address
  if isBlankUrl url then
    match ← read fun w => lastAddress (.ofOption (w.context.vars.find? "currentUrl")) with
    | .ok found => pure found
    | .error e => fail e
  else pure (some url)

/-- The opportunities of the fields that a run has extracted. -/
def assemble (p : Playbook) (now : Moment) : Exec (List Opportunity) := do
  let url ← sourceUrl
  let rows := records (← read fun w => w.context.extracted)
  let found := rows.filterMap (opportunity? ⟨p.id, p.name, now, url⟩)
  let skipped := rows.length - found.length
  if skipped != 0 then log .info s!"Skipped {skipped} record(s) missing title or url"
  pure found

/-- Applies the rules of a playbook in order and assembles what they found. -/
def run (p : Playbook) (now : Moment) : Exec (List Opportunity) := do
  applyRules p.rules
  assemble p now

end Harvest

end Scout
