import PointTable.Proofs.Number.Integer
import PointTable.Proofs.Ordered
import PointTable.Proofs.Outcome
import PointTable.Workbook.Load

/-!
# Worksheets as grids and as element trees

A grid pairs the cells of a row with the column names by position, an element tree by the letters
in the references of its cells. `Depicts` says which trees show a grid: one row element for each row
and one cell element for each cell that is not null, in order. Whatever letters stand for the
columns, and wherever the texts are stored, both readers give the same rows for a grid and a tree
that shows it.
-/

namespace PointTable.Xml.Element

@[simp] theorem named_node (name own : String) (attributes : List Attribute) (text : String)
    (children : List Element) :
    (node own attributes text children).named name =
      (if own = name then [node own attributes text children] else []) ++
        children.flatMap (named name) := by
  have below : (descendantsOf children).filter (fun descendant => descendant.name = name) =
      children.flatMap (named name) := by
    rw [descendantsOf_eq_flatMap, List.filter_flatMap]
    rfl
  rw [named, descendants, List.filter_cons, below]
  by_cases same : own = name <;> simp [Element.name, same]

end PointTable.Xml.Element

namespace PointTable.Workbook

open Text Number Xml

/-! ## Trees that show a grid -/

/-- Names for all columns, made of letters and no two alike. -/
structure Lettering where
  letters : Nat → List Char
  alphabetic : ∀ column, ∀ c ∈ letters column, isLetter c = true
  injective : Function.Injective letters

/-- The key under which the names of columns are looked up. -/
def Lettering.key (lettering : Lettering) (column : Nat) : String :=
  String.ofList (lettering.letters column)

/-- The reference of a cell: the letters of its column, then the number of its row. Rows and columns
are counted from zero, row numbers from one. -/
def Lettering.reference (lettering : Lettering) (row column : Nat) : String :=
  lettering.key column ++ toString (row + 1)

/-- A cell element gives a text: in its own text runs, or by an index into the shared strings. -/
inductive GivesText (strings : List String) (text : String) (cell : Element) : Prop where
  | inline (kind : cell.attribute? "t" = some "inlineStr") (runs : cell.joinedText "t" = text)
  | shared (value : Element) (index : Nat) (kind : cell.attribute? "t" = some "s")
      (held : cell.children.find? (fun child => child.name = "v") = some value)
      (spelled : readInteger 10 value.text = .ok (index : Int))
      (listed : strings[index]? = some text)

/-- Cell elements show the cells of a row from a column on. Cells are null or hold a text that is
not empty, and null cells are left out. -/
inductive ShowsCells (strings : List String) (lettering : Lettering) (row : Nat) :
    Nat → List Cell → List Element → Prop where
  | nil (column : Nat) : ShowsCells strings lettering row column [] []
  | null {column : Nat} {cells : List Cell} {elements : List Element}
      (rest : ShowsCells strings lettering row (column + 1) cells elements) :
      ShowsCells strings lettering row column (.null :: cells) elements
  | text {column : Nat} {cells : List Cell} {elements : List Element} {text : String}
      {element : Element} (filled : text.isEmpty = false)
      (place : element.attribute? "r" = some (lettering.reference row column))
      (gives : GivesText strings text element)
      (rest : ShowsCells strings lettering row (column + 1) cells elements) :
      ShowsCells strings lettering row column (.text text :: cells) (element :: elements)

/-- A tree shows a grid: its row elements show the rows of the grid one by one. -/
def Depicts (strings : List String) (lettering : Lettering) (grid : List (List Cell))
    (root : Element) : Prop :=
  List.Forall₂ (fun placed element =>
    ShowsCells strings lettering placed.2 0 placed.1 (element.named "c"))
    grid.zipIdx (root.named "row")

variable {strings : List String} {lettering : Lettering} {row column : Nat}

/-! ## Cells -/

theorem Lettering.key_injective (lettering : Lettering) : Function.Injective lettering.key :=
  fun _ _ same => lettering.injective (String.ofList_injective same)

/-- No letter comes before `A`, as the digits of a row number do. -/
theorem not_letter_of_isDigit {c : Char} (digit : c.isDigit = true) : isLetter c = false := by
  have after : ∀ range ∈ letterRanges, 'A'.toNat ≤ range.1 := by
    decide +kernel
  have before : c.toNat < 'A'.toNat := by
    have bounds := Char.isDigit_iff_toNat.mp digit
    exact Nat.lt_of_le_of_lt bounds.2 (by decide)
  rw [isLetter, inRanges, List.any_eq_false]
  intro range member inside
  simp only [Bool.and_eq_true, decide_eq_true_eq] at inside
  exact absurd (Nat.le_trans (after range member) inside.1) (Nat.not_le.mpr before)

/-- The letters of a reference are those of its column. -/
theorem columnOf_of_place {element : Element}
    (place : element.attribute? "r" = some (lettering.reference row column)) :
    Sheet.columnOf element = lettering.key column := by
  have kept : (lettering.letters column).filter isLetter = lettering.letters column :=
    List.filter_eq_self.mpr (lettering.alphabetic column)
  have dropped : (toString (row + 1)).toList.filter isLetter = [] := by
    rw [List.filter_eq_nil_iff]
    intro c member
    rw [not_letter_of_isDigit (isDigit_of_mem_nat member)]
    exact Bool.false_ne_true
  rw [Sheet.columnOf, place, Option.getD_some, Lettering.reference, Lettering.key,
    String.toList_append, String.toList_ofList, List.filter_append, kept, dropped, List.append_nil]

theorem sharedString_of_listed {spelling text : String} {index : Nat}
    (spelled : readInteger 10 spelling = .ok (index : Int)) (listed : strings[index]? = some text) :
    Sheet.sharedString strings spelling = text := by
  have nonneg : ¬(index : Int) < 0 := Int.not_lt.mpr (Int.natCast_nonneg index)
  simp only [Sheet.sharedString, spelled, if_neg nonneg, Int.toNat_natCast, listed,
    Option.getD_some]

theorem GivesText.cellText_eq {text : String} {element : Element}
    (gives : GivesText strings text element) : Sheet.cellText strings element = text := by
  cases gives with
  | inline kind runs => rw [Sheet.cellText, if_pos kind, runs]
  | shared value index kind held spelled listed =>
      have filled : value.text.isEmpty = false := by
        rw [Bool.eq_false_iff, Ne, String.isEmpty_iff]
        intro empty
        rw [empty] at spelled
        cases spelled
      simp [Sheet.cellText, kind, held, filled, sharedString_of_listed spelled listed]

/-! ## Column names -/

/-- The name of a column, if there is one that is not empty. -/
def filledName (name : Option String) : Option String :=
  name.filter fun text => !text.isEmpty

/-- The letters and the name that a cell of the header gives a column. -/
def columnName (strings : List String) (cell : Element) : String × String :=
  (Sheet.columnOf cell, trim (Sheet.cellText strings cell))

namespace ShowsCells

variable {cells : List Cell} {elements : List Element}

theorem lookup_before (shows : ShowsCells strings lettering row column cells elements)
    {earlier : Nat} (before : earlier < column) :
    (elements.map (columnName strings)).reverse.lookup (lettering.key earlier) = none := by
  induction shows with
  | nil column => rfl
  | null rest ih => exact ih (Nat.lt_succ_of_lt before)
  | @text column cells elements text element filled place gives rest ih =>
      have apart : lettering.key earlier ≠ lettering.key column := fun same =>
        Nat.ne_of_lt before (lettering.key_injective same)
      rw [List.map_cons, Ordered.lookup_reverse_cons, ih (Nat.lt_succ_of_lt before),
        Option.none_or, columnName, columnOf_of_place place, if_neg apart]

/-- A column has the same name by its letters as by its position. -/
theorem lookup_columnName (shows : ShowsCells strings lettering row column cells elements)
    (offset : Nat) :
    filledName
        ((elements.map (columnName strings)).reverse.lookup (lettering.key (column + offset))) =
      filledName (Grid.header cells)[offset]? := by
  induction shows generalizing offset with
  | nil column => rfl
  | @null column cells elements rest ih =>
      cases offset with
      | zero =>
          rw [Nat.add_zero, rest.lookup_before (Nat.lt_succ_self column)]
          rfl
      | succ offset =>
          rw [← Nat.succ_add_eq_add_succ, ih offset]
          rfl
  | @text column cells elements text element filled place gives rest ih =>
      rw [List.map_cons, Ordered.lookup_reverse_cons, columnName, columnOf_of_place place,
        gives.cellText_eq]
      cases offset with
      | zero =>
          rw [Nat.add_zero, rest.lookup_before (Nat.lt_succ_self column), if_pos rfl,
            Option.none_or]
          simp [Grid.header, Grid.isPresent, filled]
      | succ offset =>
          have apart : lettering.key (column + (offset + 1)) ≠ lettering.key column := by
            intro same
            have := lettering.key_injective same
            omega
          rw [if_neg apart, Option.or_none, ← Nat.succ_add_eq_add_succ, ih offset]
          rfl

end ShowsCells

theorem header_lookup {first : Element} {cells : List Cell}
    (shows : ShowsCells strings lettering row 0 cells (first.named "c")) (column : Nat) :
    filledName ((Sheet.header strings first).lookup (lettering.key column)) =
      filledName (Grid.header cells)[column]? := by
  have looked := shows.lookup_columnName column
  rw [Nat.zero_add, ← Ordered.lookup_ofPairs] at looked
  exact looked

/-! ## Rows -/

@[simp] theorem cellsOf_null (columns : List String) (cells : List Cell) :
    Grid.cellsOf columns (.null :: cells) = Grid.cellsOf columns.tail cells := by
  cases columns with
  | nil => rfl
  | cons column rest => simp [Grid.cellsOf, Grid.isPresent]

theorem cellsOf_text (columns : List String) {text : String} (filled : text.isEmpty = false)
    (cells : List Cell) :
    Grid.cellsOf columns (.text text :: cells) =
      ((filledName columns.head?).map fun column => (column, .text text)).toList ++
        Grid.cellsOf columns.tail cells := by
  cases columns with
  | nil => rfl
  | cons column rest =>
      cases blank : column.isEmpty <;>
        simp [Grid.cellsOf, Grid.isPresent, filledName, Option.filter, filled, blank]

/-- The entry of a cell element under the name of its column. -/
def entryOf (strings : List String) (names : List (String × String)) (cell : Element) :
    Option (String × Cell) :=
  (filledName (names.lookup (Sheet.columnOf cell))).map fun column =>
    (column, .text (Sheet.cellText strings cell))

theorem rowOf_eq (names : List (String × String)) (element : Element) :
    Sheet.rowOf strings names element =
      Ordered.ofPairs ((element.named "c").filterMap (entryOf strings names)) := by
  unfold Sheet.rowOf Sheet.cells
  congr 2
  funext cell
  cases found : names.lookup (Sheet.columnOf cell) with
  | none => simp [entryOf, found, filledName]
  | some column =>
      cases blank : column.isEmpty <;> simp [entryOf, found, filledName, Option.filter, blank]

/-- Names that agree on every column give the cells of a row the same entries. -/
theorem ShowsCells.filterMap_entry {cells : List Cell} {elements : List Element}
    (shows : ShowsCells strings lettering row column cells elements)
    {names : List (String × String)} {columns : List String}
    (agree : ∀ column,
      filledName (names.lookup (lettering.key column)) = filledName columns[column]?) :
    elements.filterMap (entryOf strings names) = Grid.cellsOf (columns.drop column) cells := by
  induction shows with
  | nil column => simp [Grid.cellsOf]
  | null rest ih => rw [cellsOf_null, List.tail_drop, ih]
  | @text column cells elements text element filled place gives rest ih =>
      have own : entryOf strings names element =
          (filledName columns[column]?).map fun column => (column, .text text) := by
        rw [entryOf, columnOf_of_place place, agree, gives.cellText_eq]
      rw [cellsOf_text _ filled, List.tail_drop, List.head?_drop, ← ih, ← own]
      cases found : entryOf strings names element with
      | none => rw [List.filterMap_cons_none found, Option.toList_none, List.nil_append]
      | some entry => rw [List.filterMap_cons_some found, Option.toList_some, List.singleton_append]

/-- A tree that shows a grid has its rows. -/
theorem Depicts.rows_eq {grid : List (List Cell)} {root : Element}
    (depicts : Depicts strings lettering grid root) :
    Sheet.rows strings root = Grid.rows grid := by
  unfold Depicts at depicts
  cases grid with
  | nil =>
      have without : root.named "row" = [] := (Outcome.eq_nil_iff depicts).mp rfl
      rw [Sheet.rows, without, Grid.rows]
  | cons cells rest =>
      rw [List.zipIdx_cons] at depicts
      cases elements : root.named "row" with
      | nil =>
          rw [elements] at depicts
          cases depicts
      | cons first others =>
          rw [elements, List.forall₂_cons] at depicts
          obtain ⟨shows, below⟩ := depicts
          have read : (rest.map fun later => Ordered.ofPairs
              (Grid.cellsOf (Grid.header cells) later)) =
              others.map (Sheet.rowOf strings (Sheet.header strings first)) := by
            nth_rewrite 1 [← List.zipIdx_map_fst 1 rest]
            rw [List.map_map]
            apply Outcome.map_eq_map below
            intro placed element shown
            rw [rowOf_eq, shown.filterMap_entry (header_lookup shows), List.drop_zero]
            rfl
          rw [Sheet.rows, elements, Grid.rows, read]

/-! ## The tree of a grid -/

/-- The number that the letters of a column spell, with `A` for one. -/
def spelledNumber (letters : List Char) : Nat :=
  letters.foldl (fun number letter => number * 26 + (letter.toNat - 'A'.toNat + 1)) 0

theorem toNat_capital : ∀ digit < 26,
    (Char.ofNat ('A'.toNat + digit)).toNat = 'A'.toNat + digit := by
  decide +kernel

theorem spelledNumber_columnLetters (column : Nat) :
    spelledNumber (Sheet.columnLetters column) = column + 1 := by
  induction column using Sheet.columnLetters.induct with
  | case1 column small =>
      rw [Sheet.columnLetters, if_pos small, spelledNumber, List.foldl_cons, List.foldl_nil,
        toNat_capital column small]
      omega
  | case2 column large ih =>
      have last := toNat_capital _ (Nat.mod_lt column (by decide : 26 > 0))
      rw [Sheet.columnLetters, if_neg large, spelledNumber, List.foldl_append]
      rw [spelledNumber] at ih
      rw [ih, List.foldl_cons, List.foldl_nil, last]
      omega

theorem isLetter_of_mem_columnLetters (column : Nat) :
    ∀ c ∈ Sheet.columnLetters column, isLetter c = true := by
  have capital : ∀ digit < 26, isLetter (Char.ofNat ('A'.toNat + digit)) = true := by
    decide +kernel
  induction column using Sheet.columnLetters.induct with
  | case1 column small =>
      rw [Sheet.columnLetters, if_pos small]
      simpa using capital column small
  | case2 column large ih =>
      rw [Sheet.columnLetters, if_neg large]
      intro c member
      rcases List.mem_append.mp member with earlier | last
      · exact ih c earlier
      · rw [List.mem_singleton.mp last]
        exact capital _ (Nat.mod_lt column (by decide))

/-- The columns from `A` on. -/
def Lettering.standard : Lettering where
  letters := Sheet.columnLetters
  alphabetic := isLetter_of_mem_columnLetters
  injective := by
    intro left right same
    have numbers := congrArg spelledNumber same
    rw [spelledNumber_columnLetters, spelledNumber_columnLetters] at numbers
    exact Nat.succ_injective numbers

/-- The cell is null or holds a text that is not empty. -/
def isTextual : Cell → Bool
  | .null => true
  | .text text => !text.isEmpty
  | _ => false

/-- In the tree of a cell the root is the only cell element, and no row is in it. -/
theorem named_of_cellElement? {cell : Cell} {element : Element}
    (shown : Sheet.cellElement? row column cell = some element) :
    element.named "c" = [element] ∧ element.named "row" = [] := by
  cases cell <;> simp only [Sheet.cellElement?, Option.some.injEq, reduceCtorEq] at shown <;>
    simp [← shown]

/-- The elements of a row's cells. -/
def cellElements (row : Nat) (cells : List (Cell × Nat)) : List Element :=
  cells.filterMap fun placed => Sheet.cellElement? row placed.2 placed.1

theorem named_of_mem_cellElements {cells : List (Cell × Nat)} {element : Element}
    (member : element ∈ cellElements row cells) :
    element.named "c" = [element] ∧ element.named "row" = [] := by
  obtain ⟨placed, _, shown⟩ := List.mem_filterMap.mp member
  exact named_of_cellElement? shown

theorem cells_rowElement (row : Nat) (cells : List Cell) :
    (Sheet.rowElement row cells).named "c" = cellElements row cells.zipIdx := by
  have roots : (cellElements row cells.zipIdx).flatMap (Element.named "c") =
      (cellElements row cells.zipIdx).flatMap fun element => [element] :=
    List.flatMap_congr fun element member => (named_of_mem_cellElements member).1
  rw [Sheet.rowElement, Element.named_node, if_neg (by decide), List.nil_append]
  exact roots.trans (List.flatMap_singleton' _)

theorem named_rowElement (row : Nat) (cells : List Cell) :
    (Sheet.rowElement row cells).named "row" = [Sheet.rowElement row cells] := by
  have below : (cellElements row cells.zipIdx).flatMap (Element.named "row") = [] :=
    List.flatMap_eq_nil_iff.mpr fun element member => (named_of_mem_cellElements member).2
  rw [Sheet.rowElement, Element.named_node, if_pos rfl]
  exact congrArg (List.cons _) below

theorem named_ofGrid (grid : List (List Cell)) :
    (Sheet.ofGrid grid).named "row" =
      grid.zipIdx.map fun placed => Sheet.rowElement placed.2 placed.1 := by
  simp only [Sheet.ofGrid, Element.named_node, String.reduceEq, ↓reduceIte, List.nil_append,
    List.flatMap_cons, List.flatMap_nil, List.append_nil, List.flatMap_map, named_rowElement]
  exact List.map_eq_flatMap.symm

theorem showsCells_cellElements {cells : List Cell}
    (textual : ∀ cell ∈ cells, isTextual cell = true) (row column : Nat) :
    ShowsCells strings .standard row column cells (cellElements row (cells.zipIdx column)) := by
  induction cells generalizing column with
  | nil => exact .nil column
  | cons cell rest ih =>
      rw [List.forall_mem_cons] at textual
      have below := ih textual.2 (column + 1)
      rw [List.zipIdx_cons]
      cases cell with
      | null => exact .null below
      | text text =>
          refine .text (by simpa [isTextual] using textual.1) ?_ (.inline ?_ ?_) below
          · rfl
          · rfl
          · simp [Element.joinedText, Element.text]
      | bool | int | float | list | tuple | octets | record => simp [isTextual] at textual

theorem depicts_ofGrid {grid : List (List Cell)}
    (textual : ∀ cells ∈ grid, ∀ cell ∈ cells, isTextual cell = true) (strings : List String) :
    Depicts strings .standard grid (Sheet.ofGrid grid) := by
  rw [Depicts, named_ofGrid, List.forall₂_map_right_iff, List.forall₂_same]
  intro placed member
  rw [cells_rowElement]
  exact showsCells_cellElements (textual placed.1 (List.fst_mem_of_mem_zipIdx member)) placed.2 0

/-- For a textual grid there is a tree that shows it, and every tree that does has its rows. -/
theorem sheetRows_eq_gridRows {grid : List (List Cell)}
    (textual : ∀ cells ∈ grid, ∀ cell ∈ cells, isTextual cell = true) (strings : List String) :
    Depicts strings .standard grid (Sheet.ofGrid grid) ∧
      ∀ (lettering : Lettering) (root : Element), Depicts strings lettering grid root →
        Sheet.rows strings root = Grid.rows grid :=
  ⟨depicts_ofGrid textual strings, fun _ _ depicts => depicts.rows_eq⟩

/-- A cell element whose text stands in it, in two runs. -/
def inlineCell (place first second : String) : Element :=
  .node "c" [⟨"", "r", place⟩, ⟨"", "t", "inlineStr"⟩] ""
    [.node "is" [] "" [.node "r" [] "" [.node "t" [] first []], .node "t" [] second []]]

/-- A cell element whose text is a shared string. -/
def sharedCell (place index : String) : Element :=
  .node "c" [⟨"", "r", place⟩, ⟨"", "t", "s"⟩] "" [.node "v" [] index []]

/-- A grid whose header repeats a name, has a gap and a blank name, and whose rows are longer or
shorter than it. -/
def mixedGrid : List (List Cell) :=
  [[.text "Name", .null, .text " Name ", .text " ", .text "Unit"],
    [.text "Flow", .text "x", .text "Level", .text "y", .null, .text "z"],
    [],
    [.text " ", .null],
    [.null, .text "x", .null, .null, .text "m"]]

/-- The same worksheet with its texts stored either way. -/
def mixedWorksheet : Element :=
  .node "sheetData" [] ""
    [.node "row" [] "" [sharedCell "A1" "1", inlineCell "C1" " Na" "me ", inlineCell "D1" " " "",
        inlineCell "E1" "" "Unit"],
      .node "row" [] "" [inlineCell "A2" "Fl" "ow", sharedCell "B2" "0",
        inlineCell "C2" "Level" "", inlineCell "D2" "y" "", inlineCell "F2" "z" ""],
      .node "row" [] "" [],
      .node "row" [] "" [inlineCell "A4" " " ""],
      .node "row" [] "" [sharedCell "B5" "0", sharedCell "E5" "2"]]

theorem place_standard {row column : Nat} {place : String} (small : column < 26)
    (spelled : String.ofList [Char.ofNat ('A'.toNat + column)] ++ toString (row + 1) = place) :
    some place = some (Lettering.standard.reference row column) := by
  have letters : Lettering.standard.letters column = [Char.ofNat ('A'.toNat + column)] :=
    (Sheet.columnLetters.eq_1 column).trans (if_pos small)
  rw [Lettering.reference, Lettering.key, letters, spelled]

theorem mixedWorksheet_depicts :
    Depicts ["x", "Name", "m"] .standard mixedGrid mixedWorksheet := by
  refine .cons ?_ (.cons ?_ (.cons ?_ (.cons ?_ (.cons ?_ .nil))))
  · exact .text rfl (place_standard (by decide) rfl) (.shared _ 1 rfl rfl rfl rfl) <|
      .null <| .text rfl (place_standard (by decide) rfl) (.inline rfl rfl) <|
      .text rfl (place_standard (by decide) rfl) (.inline rfl rfl) <|
      .text rfl (place_standard (by decide) rfl) (.inline rfl rfl) (.nil _)
  · exact .text rfl (place_standard (by decide) rfl) (.inline rfl rfl) <|
      .text rfl (place_standard (by decide) rfl) (.shared _ 0 rfl rfl rfl rfl) <|
      .text rfl (place_standard (by decide) rfl) (.inline rfl rfl) <|
      .text rfl (place_standard (by decide) rfl) (.inline rfl rfl) <| .null <|
      .text rfl (place_standard (by decide) rfl) (.inline rfl rfl) (.nil _)
  · exact .nil _
  · exact .text rfl (place_standard (by decide) rfl) (.inline rfl rfl) (.null (.nil _))
  · exact .null <| .text rfl (place_standard (by decide) rfl) (.shared _ 0 rfl rfl rfl rfl) <|
      .null <| .null <|
      .text rfl (place_standard (by decide) rfl) (.shared _ 2 rfl rfl rfl rfl) (.nil _)

/-- The later of two columns of one name gives its cell, and rows of blanks are dropped. -/
theorem mixedWorksheet_rows :
    (∀ cells ∈ mixedGrid, ∀ cell ∈ cells, isTextual cell = true) ∧
      Depicts ["x", "Name", "m"] .standard mixedGrid mixedWorksheet ∧
      Sheet.rows ["x", "Name", "m"] mixedWorksheet =
        [[("Name", .text "Level")], [("Unit", .text "m")]] := by
  have textual : ∀ cells ∈ mixedGrid, ∀ cell ∈ cells, isTextual cell = true := by
    simp [mixedGrid, isTextual]
  refine ⟨textual, mixedWorksheet_depicts, ?_⟩
  rw [(sheetRows_eq_gridRows textual _).2 _ _ mixedWorksheet_depicts]
  rfl

/-- A spreadsheet of textual cells has the same tables, read by its cells or by its elements. -/
theorem ofElements_eq_ofWorksheets {worksheets : List (String × List (List Cell))}
    (textual : ∀ sheet ∈ worksheets, ∀ cells ∈ sheet.2, ∀ cell ∈ cells, isTextual cell = true) :
    ofElements worksheets = ofWorksheets worksheets := by
  rw [ofElements, ofWorksheets]
  congr 2
  apply List.map_congr_left
  rintro ⟨name, grid⟩ member
  exact congrArg (fun rows => (name, rows.map cleanRow))
    (depicts_ofGrid (textual _ member) []).rows_eq

end PointTable.Workbook
