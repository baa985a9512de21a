import Scout.Members

/-!
# Arguments of a command

Arguments are options and plain words. A long option begins with two hyphens and may have its
value after an equals sign; short ones begin with one hyphen and may be run together. Two
hyphens alone end the options.
-/

namespace Scout.CommandLine

structure Switch where
  /-- The long form, with its hyphens. -/
  long : String
  short : Option Char
  takesValue : Bool
deriving DecidableEq

/-- What was given: each option by its long form, with its value if it takes one, and the plain
words. -/
structure Arguments where
  options : List (String × Option String)
  words : List String
deriving DecidableEq

/-- The arguments do not fit what the command takes. -/
inductive Misuse where
  | unknownOption
  | missingValue
  | surplusValue
  | badValue
  | missingWord
  | surplusWord
  | unknownCommand
deriving DecidableEq

namespace Arguments

/-- What one argument brings: options, and perhaps one whose value is the next argument. -/
structure Reading where
  options : List (String × Option String)
  awaiting : Option String

def isOption (arg : String) : Bool :=
  match arg.toList with
  | '-' :: _ :: _ => true
  | _ => false

/-- The short options that are run together. An option with a value takes the rest as its value. -/
def readShort (switches : List Switch) : List Char → Except Misuse Reading
  | [] => .ok ⟨[], none⟩
  | c :: rest =>
    match switches.find? fun s => s.short == some c with
    | none => .error .unknownOption
    | some s =>
      if s.takesValue then
        if rest.isEmpty then .ok ⟨[], some s.long⟩
        else .ok ⟨[(s.long, some (String.ofList rest))], none⟩
      else do
        let more ← readShort switches rest
        pure { more with options := (s.long, none) :: more.options }

/-- The name in front of the first equals sign, and the value after it. -/
def splitValue (arg : String) : String × Option String :=
  let cs := arg.toList
  let name := cs.takeWhile (· != '=')
  (String.ofList name,
    if name.length < cs.length then some (String.ofList (cs.drop (name.length + 1))) else none)

def readOption (switches : List Switch) (arg : String) : Except Misuse Reading :=
  let (name, value) := splitValue arg
  match switches.find? fun s => s.long == name with
  | some s =>
    match s.takesValue, value with
    | true, some v => .ok ⟨[(s.long, some v)], none⟩
    | true, none => .ok ⟨[], some s.long⟩
    | false, some _ => .error .surplusValue
    | false, none => .ok ⟨[(s.long, none)], none⟩
  | none =>
    if "--".toList.isPrefixOf arg.toList then .error .unknownOption
    else readShort switches arg.toList.tail

def withOptions (options : List (String × Option String)) (a : Arguments) : Arguments :=
  { a with options := options ++ a.options }

/-- Reads arguments. Unless options may stand anywhere, they end at the first plain word. -/
def read (switches : List Switch) (anywhere : Bool) :
    Option String → List String → Except Misuse Arguments
  | none, [] => .ok ⟨[], []⟩
  | some _, [] => .error .missingValue
  | some name, arg :: rest => do
    pure ((← read switches anywhere none rest).withOptions [(name, some arg)])
  | none, arg :: rest =>
    if arg == "--" then .ok ⟨[], rest⟩
    else if isOption arg then do
      let r ← readOption switches arg
      pure ((← read switches anywhere r.awaiting rest).withOptions r.options)
    else if anywhere then do
      let a ← read switches anywhere none rest
      pure { a with words := arg :: a.words }
    else .ok ⟨[], arg :: rest⟩

def has (a : Arguments) (name : String) : Bool :=
  a.options.any fun o => o.1 == name

/-- The values of an option, in the order in which they were given. -/
def values (a : Arguments) (name : String) : List String :=
  a.options.filterMap fun o => if o.1 == name then o.2 else none

/-- The last value of an option counts. -/
def value? (a : Arguments) (name : String) : Option String :=
  (a.values name).getLast?

end Arguments

end Scout.CommandLine
