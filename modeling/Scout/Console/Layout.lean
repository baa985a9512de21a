import Scout.Text.Split
import Scout.Text.Width

/-!
# Lines of a given width

A text is broken between words into lines that take no more than a number of cells. A word that
is wider than a line is folded, or has a line of its own and is cut there.
-/

namespace Scout.Console

open Text

inductive Justify where
  /-- As it comes, without filling up. -/
  | natural
  | left
  | center
  | right
deriving DecidableEq

/-- What becomes of a word that is wider than a line. -/
inductive Overflow where
  | fold
  | ellipsis
deriving DecidableEq

/-- The words of a line, each with the blanks after it and the first also with those before it.
Blanks without a word give none. The first argument is at least the length of the line. -/
def wordsIn : Nat → List Char → List (List Char)
  | 0, _ => []
  | fuel + 1, cs =>
    let lead := cs.takeWhile isBlank
    let body := (cs.drop lead.length).takeWhile fun c => !isBlank c
    if body.isEmpty then []
    else
      let tail := (cs.drop (lead.length + body.length)).takeWhile isBlank
      let word := lead ++ body ++ tail
      word :: wordsIn fuel (cs.drop word.length)

/-- The text without the blanks at its end. -/
def trimEnd (cs : List Char) : List Char :=
  (cs.reverse.dropWhile isBlank).reverse

/-- Where each of several pieces in a row begins. -/
def startsOf : Nat → List (List Char) → List Nat
  | _, [] => []
  | start, piece :: rest => start :: startsOf (start + piece.length) rest

/-- Where new lines begin: the first word given begins at `start`, in a line that has `used`
cells so far. -/
def breaks (width : Nat) (overflow : Overflow) : Nat → Nat → List (List Char) → List Nat
  | _, _, [] => []
  | start, used, word :: rest =>
    let next := start + word.length
    let needed := cells (trimEnd word)
    if used + needed ≤ width then breaks width overflow next (used + cells word) rest
    else if width < needed then
      match overflow with
      | .fold =>
        let pieces := chop width word
        (startsOf start pieces).filter (· != 0)
          ++ breaks width overflow next (cells (pieces.getLast?.getD [])) rest
      | .ellipsis => [start].filter (· != 0) ++ breaks width overflow next (cells word) rest
    else if used != 0 && start != 0 then start :: breaks width overflow next (cells word) rest
    else breaks width overflow next used rest

/-- The parts of a text that begins at a place, cut at later places. -/
def cutAt (position : Nat) (cs : List Char) : List Nat → List (List Char)
  | [] => [cs]
  | next :: rest => cs.take (next - position) :: cutAt next (cs.drop (next - position)) rest

def tabStop : Nat := 8

/-- Tabs become blanks up to the next stop. The line so far takes `used` cells. -/
def withoutTabs : Nat → List Char → List Char
  | _, [] => []
  | used, c :: cs =>
    if c = '\t' then
      let gap := tabStop - used % tabStop
      blanks gap ++ withoutTabs (used + gap) cs
    else c :: withoutTabs (used + width c) cs

/-- Blanks at the end go as far as the line has more characters than cells. -/
def dropSurplusBlanks (width : Nat) (cs : List Char) : List Char :=
  let trailing := cs.length - (trimEnd cs).length
  cs.take (cs.length - min trailing (cs.length - width))

def ellipsisMark : Char := '…'

/-- A line that is too wide is cut. -/
def truncate (width : Nat) (overflow : Overflow) (cs : List Char) : List Char :=
  if cells cs ≤ width then cs
  else match overflow with
    | .fold => resize width cs
    | .ellipsis => resize (width - 1) cs ++ [ellipsisMark]

def justified (width : Nat) (justify : Justify) (overflow : Overflow) (cs : List Char) :
    List Char :=
  match justify with
  | .natural => cs
  | .left =>
    let line := truncate width overflow cs
    line ++ blanks (width - cells line)
  | .center =>
    let line := truncate width overflow (trimEnd cs)
    let before := blanks ((width - cells line) / 2) ++ line
    before ++ blanks (width - cells before)
  | .right =>
    let line := truncate width overflow (trimEnd cs)
    blanks (width - cells line) ++ line

/-- The lines of a text without line feeds. -/
def layLine (width : Nat) (justify : Justify) (overflow : Overflow) (cs : List Char) :
    List (List Char) :=
  let cs := withoutTabs 0 cs
  (cutAt 0 cs (breaks width overflow 0 0 (wordsIn cs.length cs))).map fun line =>
    truncate width overflow (justified width justify overflow (dropSurplusBlanks width line))

/-- The lines of a text. -/
def layOut (width : Nat) (justify : Justify) (overflow : Overflow) (cs : List Char) :
    List (List Char) :=
  (splitAt '\n' cs).flatMap (layLine width justify overflow)

end Scout.Console
