import Scout.Console.Layout
import Scout.Console.Markup
import Scout.Decimal.Binary

/-!
# Tables

A table is as wide as its cells ask for, and no wider than the console. When they ask for more,
the widest columns give way first. Every cell has a blank on either side.
-/

namespace Scout.Console

structure Column where
  heading : String
  justify : Justify := .left
  /-- The most cells that the text of the column may take. -/
  limit : Option Nat := none

structure Table where
  title : String
  columns : List Column
  rows : List (List String)

namespace Table

/-- The characters that end a line where the width of a text is measured. -/
def endsLine (c : Char) : Bool :=
  [10, 11, 12, 13, 28, 29, 30, 133, 8232, 8233].contains c.toNat

/-- The cells that the widest line of a text takes. -/
def widest (cs : List Char) : Nat :=
  let lines := Text.splitAt '\n' (cs.map fun c => if endsLine c then '\n' else c)
  (lines.map Text.cells).foldl max 0

/-- The cells of blanks around a text. -/
def padding : Nat := 2

/-- The cells that a column asks for when it may have no more than `most`. -/
def asked (most : Nat) (limit : Option Nat) (texts : List (List Char)) : Nat :=
  let cellOf (cs : List Char) : Nat :=
    if most ≤ padding then most else min (min (widest cs) most + padding) most
  let width := (texts.map cellOf).foldl max 0
  match limit with
  | some n => min width (n + padding)
  | none => width

/-- Takes a number of cells from the columns that are chosen, as evenly as it goes, and from
none of them more than `most`. -/
def takeEvenly (most : Nat) : Nat → List (Nat × Bool) → List Nat
  | _, [] => []
  | excess, (width, chosen) :: rest =>
    if chosen then
      let sharing := ((rest.filter Prod.snd).length) + 1
      let taken := min most (Decimal.roundDiv excess sharing)
      (width - taken) :: takeEvenly most (excess - taken) rest
    else width :: takeEvenly most excess rest

/-- How wide columns are together. -/
def together (widths : List Nat) : Nat :=
  widths.foldl (· + ·) 0

/-- Brings columns down to a total, the widest ones first. The first argument is at least the
number of cells that are too many. -/
def narrowed (total : Nat) : Nat → List Nat → List Nat
  | 0, widths => widths
  | fuel + 1, widths =>
    let excess := together widths - total
    let top := widths.foldl max 0
    let second := (widths.filter (· != top)).foldl max 0
    if excess == 0 || top == second then widths
    else
      narrowed total fuel
        (takeEvenly (min excess (top - second)) excess (widths.map fun w => (w, w == top)))

/-- The widths of the columns, given the texts of each one. -/
def widths (total : Nat) (columns : List (Option Nat × List (List Char))) : List Nat :=
  let first := columns.map fun c => asked total c.1 c.2
  if together first ≤ total then first
  else
    let smaller := narrowed total (together first - total) first
    (columns.zip smaller).map fun (c, width) => asked width c.1 c.2

def horizontal (left bar joint right : Char) (widths : List Nat) : List Char :=
  left :: [joint].intercalate (widths.map fun w => List.replicate w bar) ++ [right]

/-- One line of a row between its bars. -/
def barred (bar : Char) (parts : List (List Char)) : List Char :=
  bar :: [bar].intercalate parts ++ [bar]

/-- The lines of a cell, each as wide as its column. -/
def cellLines (width : Nat) (justify : Justify) (cs : List Char) : List (List Char) :=
  (layOut (width - padding) justify .ellipsis cs).map fun line =>
    Text.resize width (' ' :: line)

/-- The lines of a row. Where a cell has fewer lines than others, blank ones stand below it, in
the head of the table above it. -/
def rowLines (head : Bool) (bar : Char) (widths : List Nat) (cells : List (List (List Char))) :
    List (List Char) :=
  let height := (cells.map List.length).foldl max 1
  let filled := (widths.zip cells).map fun (width, lines) =>
    let blank := List.replicate (height - lines.length) (Text.blanks width)
    if head then blank ++ lines else lines ++ blank
  (List.range height).map fun i => barred bar (filled.map fun lines => lines[i]?.getD [])

/-- The columns of a list of rows. -/
def texts (t : Table) : Except Markup.Fault (List (List (List Char))) :=
  (t.columns.zipIdx).mapM fun (c, i) =>
    (c.heading :: t.rows.map fun row => row[i]?.getD "").mapM Markup.plain

/-- The lines of a table on a console of some width. -/
def lines (width : Nat) (t : Table) : Except Markup.Fault (List (List Char)) := do
  let columns ← t.texts
  let edges := t.columns.length + 1
  let ws := widths (width - edges) ((t.columns.map Column.limit).zip columns)
  let title ← Markup.plain t.title
  let row (i : Nat) : List (List (List Char)) :=
    ((ws.zip (t.columns.map Column.justify)).zip columns).map fun ((w, justify), texts) =>
      cellLines w justify (texts[i]?.getD [])
  let body := (List.range t.rows.length).flatMap fun i => rowLines false '│' ws (row (i + 1))
  pure (layOut (together ws + edges) .center .fold title
    ++ horizontal '┏' '━' '┳' '┓' ws :: rowLines true '┃' ws (row 0)
    ++ horizontal '┡' '━' '╇' '┩' ws :: body
    ++ [horizontal '└' '─' '┴' '┘' ws])

end Table

end Scout.Console
