import Mathlib
import RelStore.Shell.ResultTable

/-!
The lines of a result table are aligned. No text has more characters than bytes, so each fits the width
of its column and is filled up to it; the cells of a column are then equally long in all lines, and so
the lines are equally long and have their separators at the same offsets.
-/

namespace RelStore.ResultTable
set_option autoImplicit false

section Widths

theorem length_le_utf8ByteSize (s : String) : s.length ≤ s.utf8ByteSize := by
  induction s using String.push_induction with
  | empty => exact Nat.le_refl 0
  | push s c ih =>
    have hc := c.utf8Size_pos
    rw [String.length_push, String.utf8ByteSize_push]
    omega

theorem le_foldl_max {α : Type} (f : α → Nat) (l : List α) (w : Nat) :
    w ≤ l.foldl (fun w a => max w (f a)) w := by
  induction l generalizing w with
  | nil => exact Nat.le_refl w
  | cons a rest ih => exact Nat.le_trans (Nat.le_max_left w (f a)) (ih _)

theorem le_foldl_max_of_mem {α : Type} (f : α → Nat) {l : List α} {a : α} (h : a ∈ l) (w : Nat) :
    f a ≤ l.foldl (fun w a => max w (f a)) w := by
  induction l generalizing w with
  | nil => cases h
  | cons b rest ih =>
    rcases List.mem_cons.1 h with rfl | h
    · exact Nat.le_trans (Nat.le_max_right w (f a)) (le_foldl_max f rest _)
    · exact ih h _

variable {rows : List Row} {row : Row} {column : String}

theorem length_column_le (rows : List Row) (column : String) :
    column.toList.length ≤ width rows column :=
  Nat.le_trans (length_le_utf8ByteSize column) (le_foldl_max _ rows _)

theorem length_cell_le (h : row ∈ rows) (column : String) :
    (cell row column).toList.length ≤ width rows column :=
  Nat.le_trans (length_le_utf8ByteSize _)
    (le_foldl_max_of_mem (fun row => (cell row column).utf8ByteSize) h _)

theorem length_alignRight {w : Nat} {s : List Char} (h : s.length ≤ w) :
    (alignRight w s).length = w := by
  rw [alignRight, List.length_append, List.length_replicate]
  omega

theorem length_center {w : Nat} {s : List Char} (h : s.length ≤ w) :
    (center w s).length = w := by
  simp only [center, List.length_append, List.length_replicate]
  omega

@[simp] theorem length_padded (s : List Char) : (padded s).length = s.length + 2 := by
  simp [padded]

end Widths

section Separators

/-- Whether the separator stands at an offset of a text that is put together with it: the text shows it
there, whichever character it is. -/
def Separates (text : Char → List Char) (i : Nat) : Prop :=
  ∀ separator, (text separator)[i]? = some separator

/-- The offsets of the separators between and after cells that are as long as given, if the first
of them begins at an offset. -/
def offsetsFrom (start : Nat) : List Nat → List Nat
  | [] => [start]
  | [n] => [start + n]
  | n :: m :: rest => (start + n) :: offsetsFrom (start + n + 1) (m :: rest)

def separatorOffsets (lengths : List Nat) : List Nat :=
  0 :: offsetsFrom 1 lengths

theorem separates_append_cons_iff {cell : List Char} {text : Char → List Char} {i : Nat} :
    Separates (fun s => cell ++ s :: text s) i ↔
      i = cell.length ∨ cell.length < i ∧ Separates text (i - (cell.length + 1)) := by
  unfold Separates
  rcases Nat.lt_trichotomy i cell.length with hlt | rfl | hgt
  · -- a character of the cell is not the separator if that is another one
    simp only [List.getElem?_append_left hlt, Nat.ne_of_lt hlt, Nat.lt_asymm hlt, false_and, or_false,
      iff_false]
    intro h
    cases Option.some.inj ((h 'a').symm.trans (h 'b'))
  · simp
  · simp only [List.getElem?_append_right (Nat.le_of_lt hgt), Nat.ne_of_gt hgt, hgt, true_and, false_or]
    have hi : i - cell.length = i - (cell.length + 1) + 1 := by omega
    simp only [hi, List.getElem?_cons_succ]

theorem not_separates_nil (i : Nat) : ¬ Separates (fun _ => []) i :=
  fun h => by cases h ' '

/-- The separator after a cell, and those of what follows it. -/
theorem separates_cell_iff {cell : List Char} {text : Char → List Char} {start i : Nat} :
    start ≤ i ∧ Separates (fun s => cell ++ s :: text s) (i - start) ↔
      i = start + cell.length ∨
        start + cell.length + 1 ≤ i ∧ Separates text (i - (start + cell.length + 1)) := by
  have hsub : i - start - (cell.length + 1) = i - (start + cell.length + 1) := by omega
  rw [separates_append_cons_iff, hsub]
  constructor
  · rintro ⟨hstart, hend | ⟨hlt, h⟩⟩
    · exact .inl (by omega)
    · exact .inr ⟨by omega, h⟩
  · rintro (hend | ⟨hle, h⟩)
    · exact ⟨by omega, .inl (by omega)⟩
    · exact ⟨by omega, .inr ⟨by omega, h⟩⟩

theorem mem_offsetsFrom_iff (cells : List (List Char)) (start i : Nat) :
    i ∈ offsetsFrom start (cells.map List.length) ↔
      start ≤ i ∧ Separates (fun s => [s].intercalate cells ++ [s]) (i - start) := by
  induction cells generalizing start with
  | nil =>
    change i ∈ [start] ↔ start ≤ i ∧ Separates (fun s => [] ++ s :: []) (i - start)
    rw [separates_cell_iff]
    simp [not_separates_nil]
  | cons cell rest ih =>
    cases rest with
    | nil =>
      have htext : (fun s => [s].intercalate [cell] ++ [s]) = fun s => cell ++ s :: [] := by
        funext s
        simp
      rw [htext, separates_cell_iff]
      simp [offsetsFrom, not_separates_nil]
    | cons next rest =>
      have htext : (fun s => [s].intercalate (cell :: next :: rest) ++ [s]) =
          fun s => cell ++ s :: ([s].intercalate (next :: rest) ++ [s]) := by
        funext s
        simp [List.intercalate_cons_cons]
      rw [htext, separates_cell_iff, ← ih]
      exact List.mem_cons

theorem separates_line_iff (cells : List (List Char)) (i : Nat) :
    Separates (line · cells) i ↔ i ∈ separatorOffsets (cells.map List.length) := by
  have htext : (line · cells) = fun s => [] ++ s :: ([s].intercalate cells ++ [s]) := rfl
  rw [htext, separates_append_cons_iff, separatorOffsets, List.mem_cons, mem_offsetsFrom_iff]
  rfl

theorem length_intercalate (s : Char) (cells : List (List Char)) :
    ([s].intercalate cells).length = (cells.map List.length).sum + (cells.length - 1) := by
  induction cells with
  | nil => rfl
  | cons cell rest ih =>
    cases rest with
    | nil => simp
    | cons next rest =>
      rw [List.intercalate_cons_cons, List.length_append, ih]
      simp
      omega

theorem length_line (s : Char) (cells : List (List Char)) :
    (line s cells).length = (cells.map List.length).sum + (cells.length - 1) + 2 := by
  rw [line, List.length_append, List.length_cons, length_intercalate, List.length_singleton]

end Separators

section Lines

variable (columns : List String) (rows : List Row)

def ruleCells : List (List Char) :=
  columns.map fun c => List.replicate (width rows c + 2) '-'

def headerCells : List (List Char) :=
  columns.map fun c => padded (center (width rows c) c.toList)

def rowCells (row : Row) : List (List Char) :=
  columns.map fun c => padded (alignRight (width rows c) (cell row c).toList)

/-- The lines of a table, each as the separator and the cells that it is put together of. -/
def parts : List (Char × List (List Char)) :=
  [('+', ruleCells columns rows), ('|', headerCells columns rows), ('+', ruleCells columns rows)] ++
    rows.map (fun row => ('|', rowCells columns rows row)) ++ [('+', ruleCells columns rows)]

/-- The lengths of the cells: a column is as wide as its widest text, with a blank on either side. -/
def cellLengths : List Nat :=
  columns.map (width rows · + 2)

theorem rule_eq : rule (columns.map (width rows)) = line '+' (ruleCells columns rows) := by
  rw [rule, ruleCells, List.map_map]
  rfl

theorem header_eq :
    header columns (columns.map (width rows)) = line '|' (headerCells columns rows) := by
  rw [header, headerCells, List.zipWith_map_right, List.zipWith_self]

theorem rowLine_eq (row : Row) :
    rowLine columns (columns.map (width rows)) row = line '|' (rowCells columns rows row) := by
  rw [rowLine, rowCells, List.zipWith_map_right, List.zipWith_self]

theorem lines_eq_map_parts (first : Row) :
    lines first rows = (parts first.keys rows).map fun part => line part.1 part.2 := by
  have hrows : rowLine first.keys (first.keys.map (width rows)) =
      fun row => line '|' (rowCells first.keys rows row) := funext (rowLine_eq first.keys rows)
  simp only [lines, parts, rule_eq, header_eq, hrows, List.map_append, List.map_cons, List.map_nil,
    List.map_map, Function.comp_def]

theorem map_length_ruleCells :
    (ruleCells columns rows).map List.length = cellLengths columns rows := by
  simp only [ruleCells, cellLengths, List.map_map, Function.comp_def, List.length_replicate]

theorem map_length_headerCells :
    (headerCells columns rows).map List.length = cellLengths columns rows := by
  simp only [headerCells, cellLengths, List.map_map, Function.comp_def, length_padded,
    length_center (length_column_le rows _)]

theorem map_length_rowCells {row : Row} (h : row ∈ rows) :
    (rowCells columns rows row).map List.length = cellLengths columns rows := by
  simp only [rowCells, cellLengths, List.map_map, Function.comp_def, length_padded,
    length_alignRight (length_cell_le h _)]

theorem map_length_of_mem_parts {part : Char × List (List Char)} (h : part ∈ parts columns rows) :
    part.2.map List.length = cellLengths columns rows := by
  simp only [parts, List.mem_append, List.mem_cons, List.not_mem_nil, or_false, List.mem_map] at h
  rcases h with ((rfl | rfl | rfl) | ⟨row, hrow, rfl⟩) | rfl
  · exact map_length_ruleCells columns rows
  · exact map_length_headerCells columns rows
  · exact map_length_ruleCells columns rows
  · exact map_length_rowCells columns rows hrow
  · exact map_length_ruleCells columns rows

end Lines

/-- What is shown for rows of which there is a first: lines put together of cells, and a count. The
lines all have the same number of characters, and in all of them the separators stand at the same
offsets, one before the first cell, one after the last and one between any two. -/
theorem lines_aligned (first : Row) (rest : List Row) :
    let rows := first :: rest
    let lengths := cellLengths first.keys rows
    render rows = String.join ((parts first.keys rows).map fun part =>
        String.ofList (line part.1 part.2) ++ "\n") ++ s!"{rows.length} row(s) returned\n" ∧
    ∀ part ∈ parts first.keys rows,
      part.2.length = first.keys.length ∧
      (line part.1 part.2).length = lengths.sum + (lengths.length - 1) + 2 ∧
      ∀ i, Separates (line · part.2) i ↔ i ∈ separatorOffsets lengths := by
  intro rows lengths
  refine ⟨?_, fun part hpart => ?_⟩
  · change String.join ((lines first rows).map fun l => String.ofList l ++ "\n") ++ _ = _
    rw [lines_eq_map_parts, List.map_map]
    rfl
  · have hlengths : part.2.map List.length = lengths := map_length_of_mem_parts first.keys rows hpart
    have hcount : part.2.length = lengths.length := by rw [← hlengths, List.length_map]
    refine ⟨?_, ?_, fun i => ?_⟩
    · rw [hcount]
      exact List.length_map _
    · rw [length_line, hlengths, hcount]
    · rw [separates_line_iff, hlengths]

/-- A text with a separator in it, one with more bytes than characters, and a row that lacks a column. -/
theorem lines_aligned_of_two_rows :
    let first : Row := .ofList [("é", .text "a|b"), ("n", .integer (-5))]
    let second : Row := .ofList [("n", .text "日本")]
    let cells := rowCells first.keys [first, second] second
    String.ofList (line '|' cells) = "|     |     日本 |" ∧ (line '|' cells).length = 16 ∧
      ∀ i, Separates (line · cells) i ↔ i = 0 ∨ i = 6 ∨ i = 15 := by
  intro first second cells
  have hmem : ('|', cells) ∈ parts first.keys [first, second] := by decide +kernel
  obtain ⟨-, hlength, hseparates⟩ := (lines_aligned first [second]).2 ('|', cells) hmem
  have hoffsets : separatorOffsets (cellLengths first.keys [first, second]) = [0, 6, 15] := by
    decide +kernel
  refine ⟨by decide +kernel, hlength.trans (by decide +kernel), fun i => ?_⟩
  rw [hseparates i, hoffsets]
  simp

end RelStore.ResultTable
