import Scout.Registry
import Scout.Service.Target

/-!
# The service

Requests for playbooks, their statistics and their history. A path has routes by method; where
several fit, a fixed word wins over an id, and a line feed behind a fixed word that ends the
path is passed over. A path without routes is not found, one without a route for the method does
not allow it, and a trailing slash is passed over when that leads to a path with routes.
-/

namespace Scout.Service

structure Request where
  method : String
  target : Target
  body : Option Value

/-- What a request is answered with. -/
inductive Reply where
  | json (status : Nat) (body : Value)
  | empty (status : Nat)
  /-- The values of the request do not fit; where, and why. -/
  | unfit (issues : List Issue)

inductive Route where
  | health
  | listing
  | allStats
  | check
  | fromTemplate
  | create
  | show_ (id : String)
  | replace (id : String)
  | remove (id : String)
  | stats (id : String)
  | history (id : String)
deriving DecidableEq

/-- A text without the line feed that ends it, if one does. -/
def withoutLineFeed (s : String) : String :=
  if s.toList.getLast? == some '\n' then String.ofList s.toList.dropLast else s

/-- The routes of the words that stand where an id can stand. -/
def fixedRoutes : String → List (String × Route)
  | "stats" => [("GET", .allStats)]
  | "validate" => [("POST", .check)]
  | "from-template" => [("POST", .fromTemplate)]
  | _ => []

/-- The routes of a path with their methods, in the order in which they are tried. -/
def routesOf : List String → List (String × Route)
  | ["", word] =>
    match withoutLineFeed word with
    | "health" => [("GET", .health)]
    | "playbooks" => [("GET", .listing), ("POST", .create)]
    | _ => []
  | ["", "playbooks", id] =>
    fixedRoutes (withoutLineFeed id)
    ++ (if id == "" then []
      else [("GET", .show_ id), ("PUT", .replace id), ("DELETE", .remove id)])
  | ["", "playbooks", id, word] =>
    if id == "" then []
    else match withoutLineFeed word with
      | "stats" => [("GET", .stats id)]
      | "history" => [("GET", .history id)]
      | _ => []
  | _ => []

def withoutTrailingSlashes (path : String) : String :=
  String.ofList (path.toList.reverse.dropWhile (· == '/')).reverse

/-- The routes that a path leads to, maybe without its trailing slashes. -/
def reachable (path : String) : List (String × Route) :=
  match routesOf (Text.splitOn '/' path) with
  | [] =>
    if path.toList.getLast? == some '/' then
      routesOf (Text.splitOn '/' (withoutTrailingSlashes path))
    else []
  | routes => routes

/-- Why a request has no route. -/
inductive Miss where
  | notFound
  | methodNotAllowed
deriving DecidableEq

def route (r : Request) : Except Miss Route :=
  match reachable r.target.path with
  | [] => .error .notFound
  | routes => match routes.find? fun m => m.1 == r.method with
    | some (_, route) => .ok route
    | none => .error .methodNotAllowed

/-! ### Values of requests -/

/-- All values of a name in a query. -/
def valuesOf (query : List (String × String)) (name : String) : List String :=
  (query.filter fun q => q.1 == name).map Prod.snd

/-- The last value of a name in a query is read; a name without a value is not there. -/
def queryValue {α : Type} (d : Decoder α) (query : List (String × String)) (name : String) :
    Decoded (Option α) :=
  match (valuesOf query name).getLast? with
  | none => .ok none
  | some s => some <$> (d (.text s)).under name

def percentage : Decoder Float := fun v =>
  match Decoder.float v with
  | .ok x =>
    if 100.0 < x then .fail "Input should be less than or equal to 100"
    else if x < 0.0 then .fail "Input should be greater than or equal to 0"
    else .ok x
  | other => other

def count : Decoder Int := fun v =>
  match Decoder.integer v with
  | .ok n =>
    if 1000 < n then .fail "Input should be less than or equal to 1000"
    else if n < 1 then .fail "Input should be greater than or equal to 1"
    else .ok n
  | other => other

def standardCount : Int := 50

/-- The filters that a query gives. -/
def filtersOf (query : List (String × String)) : Decoded Filters :=
  let tags := valuesOf query "tag"
  (Filters.mk (if tags.isEmpty then none else some tags)
    <$> queryValue Decoder.text query "author"
    <*> queryValue Decoder.text query "target_site"
    <*> queryValue (Decoder.oneOf Complexity.all Complexity.word) query "complexity"
    <*> queryValue Decoder.bool query "requires_auth"
    <*> queryValue percentage query "min_success_rate").under "query"

/-- A body has to be there; null is as good as none. -/
def bodyOf {α : Type} (d : Decoder α) (body : Option Value) : Decoded α :=
  let outcome : Decoded α := match body with
    | none => .fail "Field required"
    | some .null => .fail "Field required"
    | some v => d v
  outcome.under "body"

def documentOf (body : Option Value) : Decoded (Members Value) :=
  bodyOf (Decoder.dictionary Decoder.any) body

/-- What a playbook is to be made of. -/
structure TemplateOrder where
  template : String
  id : String
  overrides : Members Value

def templateOrder : Decoder TemplateOrder
  | .record ms => TemplateOrder.mk
      <$> (Label.plain "template").required Decoder.text ms
      <*> Label.id.required Decoder.text ms
      <*> (Label.plain "overrides").optional (Decoder.dictionary Decoder.any) [] ms
  | _ => .fail "Input should be a valid dictionary or object to extract fields from"

/-! ### Answers -/

def detail (status : Nat) (v : Value) : Reply :=
  .json status (.record [("detail", v)])

def Miss.reply : Miss → Reply
  | .notFound => detail 404 (.text "Not Found")
  | .methodNotAllowed => detail 405 (.text "Method Not Allowed")

/-- A playbook in a listing. -/
def summary (p : Playbook) : Value :=
  .record [
    ("id", .text p.id),
    ("name", .text p.name),
    ("description", .text p.description),
    ("version", .text p.version),
    ("author", .text p.author),
    ("actions_count", .int p.actions.length),
    ("extraction_rules_count", .int p.rules.length),
    ("tags", .texts p.tags)]

def missing (id : String) : Reply :=
  detail 404 (.text s!"Playbook '{id}' not found")

/-- The reply to a fault, for the faults that have one. -/
def faultReply? (e : Registry.Fault) : Option Reply :=
  match e with
  | .rejected errors warnings =>
    some (detail 422 (.record [("errors", .texts errors), ("warnings", .texts warnings)]))
  | .unknown _ => some (detail 404 (.text e.message))
  | .duplicate _ => some (detail 409 (.text e.message))
  | _ => none

/-- A document that cannot be had is not found. -/
def templateReply? (e : Registry.Fault) : Option Reply :=
  match e with
  | .library (.refused r) => some (detail 404 (.text r.message))
  | e => faultReply? e

/-- A fault with a reply is answered; any other goes on. -/
def replying (replyOf : Registry.Fault → Option Reply) (x : Registry.Act Reply) :
    Registry.Act Reply := do
  try x
  catch e => match replyOf e with
    | some r => pure r
    | none => throw e

def fitting {α : Type} (d : Decoded α) (f : α → Registry.Act Reply) : Registry.Act Reply :=
  match d with
  | .ok a => f a
  | .invalid issues => pure (.unfit issues)

/-- The last items of a list. -/
def takeLast {α : Type} (n : Nat) (xs : List α) : List α :=
  xs.drop (xs.length - n)

def answerRoute (r : Request) : Route → Registry.Act Reply
  | .health => pure (.json 200 (.record [("status", .text "ok")]))
  | .listing => fitting (filtersOf r.target.query) fun f => do
    pure (.json 200 (.list (((← Registry.Act.registry).search f).map summary)))
  | .allStats => do
    pure (.json 200 (.list ((← Registry.Act.registry).stats.values.map Stats.encode)))
  | .check => fitting (documentOf r.body) fun ms => do
    pure (.json 200 (checkDocument (← Registry.Act.registry).maxDepth (.record ms)).encode)
  | .fromTemplate => fitting (bodyOf templateOrder r.body) fun o =>
    replying templateReply? do
      pure (.json 201 (← Registry.fromTemplate o.template o.id o.overrides).encode)
  | .create => fitting (documentOf r.body) fun ms =>
    replying faultReply? do pure (.json 201 (← Registry.create (.record ms)).encode)
  | .show_ id => do
    match (← Registry.Act.registry).get? id with
    | some p => pure (.json 200 p.encode)
    | none => pure (missing id)
  | .replace id => fitting (documentOf r.body) fun ms =>
    if (Value.ofOption (ms.find? "id")).equalsScalar (some (.text id)) then
      replying faultReply? do pure (.json 200 (← Registry.update (.record ms)).encode)
    else pure (detail 400 (.text "Playbook ID in URL does not match body"))
  | .remove id => replying faultReply? do
    Registry.delete id
    pure (.empty 204)
  | .stats id => do
    match (← Registry.Act.registry).stats.find? id with
    | some s => pure (.json 200 s.encode)
    | none => pure (missing id)
  | .history id =>
    fitting ((queryValue count r.target.query "limit").under "query") fun limit => do
      let entries := (← Registry.Act.registry).historyOf id
      pure (.json 200
        (.list ((takeLast (limit.getD standardCount).toNat entries).map HistoryEntry.encode)))

/-- Answers a request: one without a route gets the reply for that. -/
def answer (r : Request) : Registry.Act Reply :=
  match route r with
  | .error miss => pure miss.reply
  | .ok route => answerRoute r route

/-- Whether a route looks at the registry. -/
def Route.needsRegistry : Route → Bool
  | .health => false
  | _ => true

end Scout.Service
