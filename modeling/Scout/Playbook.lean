import Scout.Action
import Scout.Moment.Basic

/-!
# Playbooks

A playbook names a program of actions, the rules that read records off the last page, how
failures are met, and what is known about the site.
-/

namespace Scout

/-- Which elements fill a field of the records. -/
structure ExtractionRule where
  field : String
  selector : String
  attributeName : Option String
  transform : Option String
  required : Bool
  fallback : Value

inductive LogLevel where
  | debug | info | warn | error
deriving DecidableEq

namespace LogLevel

def all : List LogLevel := [.debug, .info, .warn, .error]

def word : LogLevel → String
  | .debug => "debug"
  | .info => "info"
  | .warn => "warn"
  | .error => "error"

/-- The severity as a number, as log handlers compare it. -/
def rank : LogLevel → Nat
  | .debug => 10
  | .info => 20
  | .warn => 30
  | .error => 40

/-- The name on a log line. -/
def label : LogLevel → String
  | .debug => "DEBUG"
  | .info => "INFO"
  | .warn => "WARNING"
  | .error => "ERROR"

end LogLevel

/-- How a run meets failures. -/
structure ErrorPolicy where
  continueOnError : Bool
  maxRetries : Int
  /-- Milliseconds between attempts. -/
  retryDelay : Int
  screenshotOnError : Bool
  logLevel : LogLevel

def ErrorPolicy.standard : ErrorPolicy :=
  ⟨false, 0, 1000, false, .info⟩

inductive Complexity where
  | simple | medium | complex
deriving DecidableEq

namespace Complexity

def all : List Complexity := [.simple, .medium, .complex]

def word : Complexity → String
  | .simple => "simple"
  | .medium => "medium"
  | .complex => "complex"

end Complexity

/-- What is known about a playbook, for search and reports. -/
structure Metadata where
  targetSite : String
  estimatedDuration : Float
  complexity : Complexity
  lastTested : Option Moment
  successRate : Float
  usesBrowser : Bool
  requiresAuth : Bool

def Metadata.standard : Metadata :=
  ⟨"", 0.0, .simple, none, 0.0, true, false⟩

structure Playbook where
  id : String
  name : String
  description : String
  version : String
  author : String
  tags : List String
  vars : Members Value
  actions : List Action
  rules : List ExtractionRule
  policy : ErrorPolicy
  metadata : Metadata

end Scout
