import Scout.Json.Writer
import Scout.Text.Placeholder

/-!
# Log lines

The severity of a line is a number, the common ones with a name. A line is written in plain form
or as a document of one line, as the handler of the process says.
-/

namespace Scout.Log

/-- The names of severities. The first name of a number is the one on a line. -/
def severities : List (String × Nat) :=
  [("NOTSET", 0), ("DEBUG", 10), ("INFO", 20), ("WARNING", 30), ("ERROR", 40), ("CRITICAL", 50),
    ("WARN", 30), ("FATAL", 50)]

def severityName (level : Int) : String :=
  match severities.find? fun s => (s.2 : Int) == level with
  | some (name, _) => name
  | none => s!"Level {level}"

/-- Upper case, as far as it can lead to the name of a severity. -/
def upperChar (c : Char) : Char :=
  if c == 'ı' then 'I' else if c == 'ſ' then 'S' else c.toUpper

/-- The severity that a name stands for, in any case; an unknown name means `INFO`. -/
def severityOf (name : String) : Nat :=
  (Members.find? severities (String.ofList (name.toList.map upperChar))).getD 20

structure Line where
  logger : String
  level : Int
  message : String
  arguments : List Value
  /-- The text of an error that comes with the line. -/
  exception : Option String

def exceptionText (s : String) : String :=
  if s == "" then "ValueError" else "ValueError: " ++ s

/-- A line as a document, apart from the time at which it is written. -/
def Line.encode (l : Line) : Except Placeholder.Fault Value := do
  let message ← Placeholder.fill l.message l.arguments
  pure (.record ([("severity", .text (severityName l.level)), ("message", .text message),
    ("logger", .text l.logger)]
    ++ l.exception.toList.map fun e => ("exception", .text (exceptionText e))))

/-- How lines are written. -/
inductive Form where
  | plain
  | document
deriving DecidableEq

/-- The handler of the process, if one is installed, and the least severity that it gets. -/
structure Setup where
  handler : Option Form
  level : Nat
deriving DecidableEq

def Setup.fresh : Setup := ⟨none, 30⟩

/-- Installs a handler. A document handler replaces what is there; a plain one gives way to it. -/
def Setup.configure (s : Setup) (level : String) (form : Form) : Setup :=
  match form, s.handler with
  | .document, _ => ⟨some .document, severityOf level⟩
  | .plain, none => ⟨some .plain, severityOf level⟩
  | .plain, some _ => s

end Scout.Log
