import Scout.Report

/-!
# Pages

A page is what a run acts on: its address, the elements under each selector, those that are
hidden, the values of its expressions, and how it reacts to clicks. Operations can take time and
can be set to fail. Every operation on a page is a call, and a run leaves the list of its calls.
-/

namespace Scout

/-- An operation on a page, or one of the things that a run does besides. -/
inductive Call where
  | openPage (userAgent : Option String)
  | waitUntil (event : String)
  | goto (url : String) (timeout : Int)
  | waitForSelector (selector : String) (timeout : Int)
  | click (selector : String)
  | fill (selector value : String)
  | selectOption (selector value : String)
  | queryAll (selector : String)
  | isPresent (selector : String)
  | isVisible (selector : String)
  | isHidden (selector : String)
  | textContent (selector : String)
  | scrollIntoView (selector : String) (timeout : Int)
  | scrollBy (pixels : Int)
  | scrollTo (pixels : Int)
  | screenshot (path : String)
  | evaluate (expression : String)
  | readUrl
  | closePage
  | sleep (seconds : Float)
  | launch (headless : Bool) (timeout : Int)
  | closeBrowser

namespace Call

def name : Call → String
  | .openPage _ => "new_page"
  | .waitUntil _ => "wait_until"
  | .goto .. => "goto"
  | .waitForSelector .. => "wait_for_selector"
  | .click _ => "click"
  | .fill .. => "fill"
  | .selectOption .. => "select_option"
  | .queryAll _ => "query_all"
  | .isPresent _ => "exists"
  | .isVisible _ => "is_visible"
  | .isHidden _ => "is_hidden"
  | .textContent _ => "text_content"
  | .scrollIntoView .. => "scroll_into_view"
  | .scrollBy _ => "scroll_by"
  | .scrollTo _ => "scroll_to"
  | .screenshot _ => "screenshot"
  | .evaluate _ => "evaluate"
  | .readUrl => "url"
  | .closePage => "close"
  | .sleep _ => "sleep"
  | .launch .. => "launch"
  | .closeBrowser => "browser_close"

def arguments : Call → List Value
  | .openPage none => []
  | .openPage (some agent) => [.text ("user_agent=" ++ agent)]
  | .waitUntil event => [.text event]
  | .goto url timeout => [.text url, .int timeout]
  | .waitForSelector selector timeout => [.text selector, .int timeout]
  | .click selector => [.text selector]
  | .fill selector value => [.text selector, .text value]
  | .selectOption selector value => [.text selector, .text value]
  | .queryAll selector => [.text selector]
  | .isPresent selector => [.text selector]
  | .isVisible selector => [.text selector]
  | .isHidden selector => [.text selector]
  | .textContent selector => [.text selector]
  | .scrollIntoView selector timeout => [.text selector, .int timeout]
  | .scrollBy pixels => [.int pixels]
  | .scrollTo pixels => [.int pixels]
  | .screenshot path => [.text path]
  | .evaluate expression => [.text expression]
  | .readUrl => []
  | .closePage => []
  | .sleep seconds => [.float seconds]
  | .launch headless timeout => [.bool headless, .int timeout]
  | .closeBrowser => []

/-- What a failure can be aimed at: the first argument, or the empty text. -/
def target (c : Call) : Value :=
  c.arguments.head?.getD (.text "")

def toValue (c : Call) : Value :=
  .list (.text c.name :: c.arguments)

end Call

/-- The kind of a fault that stops an operation. -/
inductive FaultKind where
  /-- Raised by the page. -/
  | page
  /-- A page operation took too long. -/
  | timeout
  /-- A value that cannot be used. -/
  | value
  /-- A number out of range. -/
  | overflow
  /-- A value of a kind that cannot be used. -/
  | kind
  /-- An action failed; `id` names the innermost one. -/
  | action (id : String)
  /-- A required field could not be filled. -/
  | extraction
deriving DecidableEq

structure Fault where
  kind : FaultKind
  message : String
deriving DecidableEq

/-- A failure that an operation of a page is set to show. -/
structure FailureRule where
  operation : String
  target : Option Scalar
  /-- How often it still shows; a negative number never runs out. -/
  times : Int
  /-- How many matching calls pass first. -/
  after : Int
  fault : Fault

/-- What a click changes, from the given click on. -/
structure ClickEffect where
  firstClick : Int
  set : Members (List Snapshot)
  remove : List String
  hide : List String
  unhide : List String
  url : Option String

structure Page where
  url : String
  elements : Members (List Snapshot)
  hidden : List String
  expressions : Members Value
  redirects : Members String
  /-- Milliseconds that an operation takes. -/
  latency : Members Float
  failures : List FailureRule
  effects : Members (List ClickEffect)
  clicks : Members Nat
  /-- Whether a browser stands between the run and the page. -/
  throughBrowser : Bool
  userAgent : String

namespace Page

def blank : Page :=
  ⟨"", [], [], [], [], [], [], [], [], false, ""⟩

def matched (p : Page) (selector : String) : List Snapshot :=
  (p.elements.find? selector).getD []

def isPresent (p : Page) (selector : String) : Bool :=
  !(p.matched selector).isEmpty

def isVisible (p : Page) (selector : String) : Bool :=
  p.isPresent selector && !p.hidden.contains selector

def isHidden (p : Page) (selector : String) : Bool :=
  !p.isVisible selector

/-- The text of the first element, if there is one. -/
def textOf? (p : Page) (selector : String) : Option String :=
  (p.matched selector).head?.map Snapshot.text

def load (p : Page) (url : String) : Page :=
  { p with url := (p.redirects.find? url).getD url }

def applyEffect (p : Page) (e : ClickEffect) : Page :=
  { p with
    elements := e.remove.foldl Members.erase (p.elements.overlay e.set)
    hidden := (p.hidden ++ e.hide).filter fun s => !e.unhide.contains s
    url := e.url.getD p.url }

def click (p : Page) (selector : String) : Page :=
  let count := (p.clicks.find? selector).getD 0 + 1
  let due := ((p.effects.find? selector).getD []).filter fun e => e.firstClick ≤ (count : Int)
  due.foldl applyEffect { p with clicks := p.clicks.put selector count }

/-- Whether a rule is aimed at a call and has not run out. -/
def FailureRule.applies (r : FailureRule) (c : Call) : Bool :=
  r.operation == c.name && r.times != 0
    && (match r.target with
      | none => true
      | some t => c.target.equalsScalar (some t))

/-- The first rule that lets a call fail, and the rules afterwards. -/
def nextFailure (c : Call) : List FailureRule → Option Fault × List FailureRule
  | [] => (none, [])
  | r :: rest =>
    if FailureRule.applies r c then
      if 0 < r.after then
        let (found, rest) := nextFailure c rest
        (found, { r with after := r.after - 1 } :: rest)
      else (some r.fault, { r with times := r.times - 1 } :: rest)
    else
      let (found, rest) := nextFailure c rest
      (found, r :: rest)

end Page

end Scout
