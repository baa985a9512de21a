import Scout.Console.Pictograph

/-!
# Markup

Text for the console may hold tags in square brackets, which style what follows and take no room
of their own. A tag begins with a small letter, a number sign, a slash or an at sign; one that
begins with a slash closes an earlier one. A backslash before a tag makes it plain text. Outside
tags, names between colons stand for pictographs.
-/

namespace Scout.Console.Markup

inductive Piece where
  | text (cs : List Char)
  /-- The place of a tag in the text, and what stands between its brackets. -/
  | tag (position : Nat) (body : List Char)
deriving DecidableEq

def beginsTag (c : Char) : Bool :=
  ('a' ≤ c && c ≤ 'z') || c == '#' || c == '/' || c == '@'

/-- What stands in a tag after its opening bracket, and the text after the tag. -/
def tagBody? : List Char → Option (List Char × List Char)
  | [] => none
  | c :: cs =>
    let body := cs.takeWhile fun c => c != '[' && c != ']'
    match beginsTag c, cs.drop body.length with
    | true, ']' :: rest => some (c :: body, rest)
    | _, _ => none

def isBackslash (c : Char) : Bool := c == '\\'

/-- The pieces of a tag after some backslashes: two of them stand for one, an odd one makes the
tag plain. -/
def tagPieces (position backslashes : Nat) (body : List Char) : List Piece :=
  let literal := List.replicate (backslashes / 2) '\\'
  let before := if literal.isEmpty then [] else [Piece.text literal]
  before ++ (if backslashes % 2 == 1 then [.text ('[' :: body ++ [']'])]
    else [.tag (position + 2 * (backslashes / 2)) body])

def textPiece (pending : List Char) : List Piece :=
  if pending.isEmpty then [] else [.text pending.reverse]

/-- The pieces of a text that begins at a place. The first argument is at least its length;
`pending` is the plain text before it, last character first. -/
def piecesFrom : Nat → Nat → List Char → List Char → List Piece
  | 0, _, pending, _ => textPiece pending
  | _, _, pending, [] => textPiece pending
  | fuel + 1, position, pending, c :: cs =>
    let slashes := (c :: cs).takeWhile isBackslash
    match (c :: cs).drop slashes.length with
    | '[' :: rest =>
      match tagBody? rest with
      | some (body, rest) =>
        textPiece pending ++ tagPieces position slashes.length body
          ++ piecesFrom fuel (position + slashes.length + body.length + 2) [] rest
      | none => piecesFrom fuel (position + slashes.length + 1) ('[' :: slashes ++ pending) rest
    | _ => piecesFrom fuel (position + 1) (c :: pending) cs

def pieces (cs : List Char) : List Piece :=
  piecesFrom cs.length 0 [] cs

/-- A backslash before an opening bracket is left out. -/
def unescaped : List Char → List Char
  | '\\' :: '[' :: rest => '[' :: unescaped rest
  | c :: rest => c :: unescaped rest
  | [] => []

inductive Fault where
  /-- A closing tag at a place that no open tag answers to. -/
  | unmatched (body : String) (position : Nat)
  | nothingOpen (position : Nat)
deriving DecidableEq

def Fault.message : Fault → String
  | .unmatched body position =>
    s!"closing tag '[{body}]' at position {position} doesn't match any open tag"
  | .nothingOpen position => s!"closing tag '[/]' at position {position} has nothing to close"

/-- The name of a tag, without what is said about it after an equals sign. -/
def nameOf (body : List Char) : List Char :=
  body.takeWhile (· != '=')

/-- The open tags after a tag, the last one first. -/
def afterTag (position : Nat) (body : List Char) (stack : List String) :
    Except Fault (List String) :=
  match nameOf body with
  | '/' :: name =>
    let name := Text.trim (String.ofList name)
    if name == "" then
      match stack with
      | [] => .error (.nothingOpen position)
      | _ :: rest => .ok rest
    else if stack.contains (Style.normalName name) then .ok (stack.erase (Style.normalName name))
    else .error (.unmatched (String.ofList body) position)
  | name => .ok (Style.normalName (String.ofList name) :: stack)

/-- The plain text of the pieces. -/
def plainPieces : List String → List Piece → Except Fault (List Char)
  | _, [] => .ok []
  | stack, .text cs :: rest => do
    pure (Pictograph.fill (unescaped cs) ++ (← plainPieces stack rest))
  | stack, .tag position body :: rest => do
    plainPieces (← afterTag position body stack) rest

/-- Controls that the console does not show: bell, backspace, vertical tab, form feed, carriage
return. -/
def isDropped (c : Char) : Bool :=
  [7, 8, 11, 12, 13].contains c.toNat

/-- The text that the console shows for a text with tags. -/
def plain (s : String) : Except Fault (List Char) := do
  let cs ← plainPieces [] (pieces s.toList)
  pure (cs.filter fun c => !isDropped c)

end Scout.Console.Markup
