import RelStore.Row

/-!
Result tables. A table has the fields of its first row for columns; a column is as many characters
wide as the longest of its texts has bytes, so the lines of a table are equally long whatever
characters they hold.
-/

namespace RelStore.ResultTable
set_option autoImplicit false

/-- The text of a field of a row, empty if the row lacks it. -/
def cell (row : Row) (column : String) : String :=
  match row.get? column with
  | some v => v.display
  | none => ""

def width (rows : List Row) (column : String) : Nat :=
  rows.foldl (fun w row => max w (cell row column).utf8ByteSize) column.utf8ByteSize

def alignRight (width : Nat) (s : List Char) : List Char :=
  List.replicate (width - s.length) ' ' ++ s

/-- A text with blanks on both sides up to a width, one more behind it if they cannot be equal. -/
def center (width : Nat) (s : List Char) : List Char :=
  List.replicate ((width - s.length) / 2) ' ' ++ s ++
    List.replicate ((width - s.length + 1) / 2) ' '

def line (separator : Char) (texts : List (List Char)) : List Char :=
  separator :: [separator].intercalate texts ++ [separator]

def padded (s : List Char) : List Char :=
  ' ' :: s ++ [' ']

def rule (widths : List Nat) : List Char :=
  line '+' (widths.map fun w => List.replicate (w + 2) '-')

def header (columns : List String) (widths : List Nat) : List Char :=
  line '|' (List.zipWith (fun c w => padded (center w c.toList)) columns widths)

def rowLine (columns : List String) (widths : List Nat) (row : Row) : List Char :=
  line '|' (List.zipWith (fun c w => padded (alignRight w (cell row c).toList)) columns widths)

/-- The lines of a table with the fields of `first` for columns. -/
def lines (first : Row) (rows : List Row) : List (List Char) :=
  let columns := first.keys
  let widths := columns.map (width rows)
  [rule widths, header columns widths, rule widths] ++ rows.map (rowLine columns widths) ++
    [rule widths]

def render (rows : List Row) : String :=
  match rows with
  | [] => "No results.\n"
  | first :: _ =>
    let table := (lines first rows).map fun l => String.ofList l ++ "\n"
    String.join table ++ s!"{rows.length} row(s) returned\n"

end RelStore.ResultTable
