import LineShell.Machine.Octets

/-!
# Columns

Texts are set side by side in lines that stay below a length. Between two columns there are at least
two blanks, which are written with tabs where a tab stop is passed.
-/

namespace LineShell.Machine

/-- A text, and the room that it takes. -/
structure Cell where
  text : Octets
  width : Nat

namespace Cell

/-- The room that a text takes: that of its printed bytes. -/
def ofText (text : Octets) : Cell := ⟨text, (text.filter isPrinted).length⟩

end Cell

structure Page where
  /-- Lines are shorter than this; 0 if they may have any length. -/
  limit : Nat
  tabStop : Nat
  ending : Octets

namespace Page

def leastColumn : Nat := 3

def gap : Nat := 2

/-- The cells after the first, each with a text before it, in as many lines as they need. -/
def following (p : Page) (between : Octets) : (position : Nat) → List Cell → Octets
  | _, [] => p.ending
  | position, cell :: rest =>
    if p.limit = 0 || position + gap + cell.width < p.limit then
      between ++ ' ' :: cell.text ++ p.following between (position + gap + cell.width) rest
    else between ++ p.ending ++ cell.text ++ p.following between cell.width rest

def separated (p : Page) (between : Octets) : List Cell → Octets
  | [] => []
  | cell :: rest => cell.text ++ p.following between cell.width rest

/-- The blanks from one place in a line to another. -/
def blanks (p : Page) (target : Nat) : (fuel position : Nat) → Octets
  | 0, _ => []
  | fuel + 1, position =>
    if target ≤ position then []
    else if p.tabStop ≠ 0 && (position + 1) / p.tabStop < target / p.tabStop then
      '\t' :: p.blanks target fuel (position + (p.tabStop - position % p.tabStop))
    else ' ' :: p.blanks target fuel (position + 1)

/-- The column of a cell: in the one order a column is filled before the next, in the other a line
is. -/
def columnOf (isDown : Bool) (count columns index : Nat) : Nat :=
  if isDown then index / ((count + columns - 1) / columns) else index % columns

def columnWidths (isDown : Bool) (cells : List Cell) (columns : Nat) : List Nat :=
  (List.range columns).map fun column =>
    let own := (cells.zipIdx.filter fun (_, index) =>
      columnOf isDown cells.length columns index = column).map fun (cell, _) =>
        cell.width + (if column + 1 = columns then 0 else gap)
    own.foldl max leastColumn

/-- Whether columns of some widths fit into a line. -/
def fits (p : Page) (widths : List Nat) : Bool :=
  widths.all (· = leastColumn) || widths.foldl (· + ·) 0 < p.limit

def bestWidths (p : Page) (isDown : Bool) (cells : List Cell) : List Nat :=
  let most := min cells.length ((p.limit + leastColumn - 1) / leastColumn)
  let choices := (List.range most).reverse.map fun n => columnWidths isDown cells (n + 1)
  match choices.find? p.fits with
  | some widths => widths
  | none => columnWidths isDown cells 1

def row (p : Page) : (position : Nat) → List Nat → List Cell → Octets
  | _, _, [] => p.ending
  | _, _, [cell] => cell.text ++ p.ending
  | position, widths, cell :: rest =>
    let target := position + widths.head?.getD leastColumn
    cell.text ++ p.blanks target target (position + cell.width) ++ p.row target widths.tail rest

def rows (isDown : Bool) (columns : Nat) (cells : List Cell) : List (List Cell) :=
  let lines := (cells.length + columns - 1) / columns
  (List.range lines).map fun line =>
    (cells.zipIdx.filter fun (_, index) =>
      (if isDown then index % lines else index / columns) = line).map (·.1)

def inColumns (p : Page) (isDown : Bool) (cells : List Cell) : Octets :=
  if cells.isEmpty then []
  else if p.limit = 0 then p.separated [' '] cells
  else
    let widths := p.bestWidths isDown cells
    (rows isDown widths.length cells).flatMap (p.row 0 widths)

end Page

end LineShell.Machine
