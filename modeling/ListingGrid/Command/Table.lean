import ListingGrid.Text.Cut
import ListingGrid.Unicode.Width

/-!
# Tables

A table takes the whole width that it is given. Columns whose contents are
narrow get what they need, the others share what is left, and a line that is
too wide for its column goes on in further lines, if possible after a blank. A
row is as high as its highest cell.
-/

set_option autoImplicit false

namespace ListingGrid.Command

def linesOf (text : String) : List String :=
  (Text.lines (text.toList ++ ['\n'])).map String.ofList

structure Filling where
  full : List (List Char)
  current : List Char

namespace Filling

def close (filling : Filling) : Filling := ⟨filling.current :: filling.full, []⟩

def append (filling : Filling) (word : List Char) : Filling :=
  ⟨filling.full,
    if filling.current.isEmpty then word else filling.current ++ ' ' :: word⟩

def spare : Nat := 2

def settle (width : Nat) (filling : Filling) : Filling :=
  if width - spare < Text.width filling.current then filling.close else filling

def space (width : Nat) (filling : Filling) : Nat :=
  width - Text.width filling.current - (if filling.current.isEmpty then 0 else 1)

def fits (width : Nat) (filling : Filling) (word : List Char) : Bool :=
  Text.width (filling.append word).current ≤ width

def fitting (space : Nat) : List Char → Nat
  | [] => 0
  | c :: rest =>
    if Text.charWidth c ≤ space then fitting (space - Text.charWidth c) rest + 1 else 0

/-- Adds a word. One that does not fit begins a line, and one that is wider than
a line is cut, where one character at least goes on every line. -/
def add (width : Nat) (filling : Filling) (word : List Char) : Filling :=
  if filling.fits width word then (filling.append word).settle width
  else if _h : !filling.current.isEmpty && filling.space width ≤ spare then
    filling.close.add width word
  else if width < Text.width word then
    match word with
    | [] => filling
    | c :: rest =>
      let count := fitting (filling.space width - Text.charWidth c) rest
      (filling.append (c :: rest.take count)).close.add width (rest.drop count)
  else (filling.close.append word).settle width
termination_by (word.length, filling.current.length)
decreasing_by
  · apply Prod.Lex.right
    have hfull : filling.current ≠ [] := by
      intro h
      simp [h] at _h
    exact List.length_pos_iff.mpr hfull
  · apply Prod.Lex.left
    simp only [List.length_drop, List.length_cons]
    omega

def lines (filling : Filling) : List (List Char) :=
  (if filling.current.isEmpty then filling.full else filling.current :: filling.full).reverse

end Filling

def wordsOf : List Char → List (List Char)
  | [] => [[]]
  | c :: rest =>
    match wordsOf rest with
    | [] => [[c]]
    | word :: more => if c = ' ' then [] :: word :: more else (c :: word) :: more

def wrapped (width : Nat) (text : List Char) : List (List Char) :=
  if Text.width text ≤ width then [text]
  else ((wordsOf text).foldl (Filling.add width) ⟨[], []⟩).lines

def cellLines (width : Nat) (cell : String) : List String :=
  (linesOf cell).flatMap fun text => (wrapped width text.toList).map String.ofList

inductive WidthRule where
  | any
  | atLeast (width : Nat)
  | atMost (hundredths : Nat)
  deriving DecidableEq, Repr

structure Column where
  heading : String
  rule : WidthRule
  right : Bool
  deriving DecidableEq, Repr

structure Table where
  columns : List Column
  rows : List (List String)
  deriving DecidableEq, Repr

namespace Table

def fullWidth : Nat := 140

def margins : Nat := 2

structure Share where
  rule : WidthRule
  cells : List String
  width? : Option Nat

namespace Share

def greatest (lines : List String) : Nat :=
  lines.foldl (fun n text => max n (Text.width text.toList)) 0

/-- What the contents need if no line goes on in another one. -/
def content (share : Share) : Nat := greatest (share.cells.flatMap linesOf)

def wrappedContent (share : Share) (width : Nat) : Nat :=
  greatest (share.cells.flatMap (cellLines width))

def least? (share : Share) : Option Nat :=
  match share.rule with
  | .atLeast n => if share.content + margins ≤ n then some (n - margins) else none
  | _ => none

/-- The width that a column is not to exceed, its margins included, while
`waiting` columns have no width. -/
def most? (share : Share) (waiting : Nat) : Option Nat :=
  match share.rule with
  | .atMost hundredths => some ((fullWidth - (waiting + 1)) * hundredths / 100)
  | _ => none

def narrow? (average waiting : Nat) (share : Share) : Option Nat :=
  let bounded := (share.most? waiting).bind fun n =>
    if n ≤ average + margins && n ≤ share.content then some (n - margins) else none
  bounded <|> (if share.content ≤ average then some share.content else none)

def raised? (average _waiting : Nat) (share : Share) : Option Nat :=
  match share.rule with
  | .atLeast n => if average < n then some (n - margins) else none
  | _ => none

def slack : Nat := 3

def compact? (average _waiting : Nat) (share : Share) : Option Nat :=
  let width := share.wrappedContent average
  if slack ≤ average - width then some width else none

end Share

structure Shares where
  list : List Share
  room : Nat

namespace Shares

def waiting (list : List Share) : Nat := list.countP (·.width?.isNone)

/-- Goes through the columns that have no width and gives one to those for which
`choose` finds one in view of the average of what is left. -/
def pass (choose : Nat → Nat → Share → Option Nat) (room count : Nat) : List Share → Shares
  | [] => ⟨[], room⟩
  | share :: rest =>
    match share.width?, choose (room / count) count share with
    | none, some width =>
      let more := pass choose (room - width) (count - 1) rest
      ⟨{ share with width? := some width } :: more.list, more.room⟩
    | _, _ =>
      let more := pass choose room count rest
      ⟨share :: more.list, more.room⟩

def step (choose : Nat → Nat → Share → Option Nat) (shares : Shares) : Shares :=
  pass choose shares.room (waiting shares.list) shares.list

/-- Goes through the columns as often as there are columns; what is left after
that is left for good. -/
def steps (choose : Nat → Nat → Share → Option Nat) (shares : Shares) : Shares :=
  Nat.repeat (step choose) shares.list.length shares

def part (total count index : Nat) : Nat :=
  total / count + (if index < total % count then 1 else 0)

def divide (room count : Nat) : Nat → List Share → List Nat
  | _, [] => []
  | index, share :: rest =>
    match share.width? with
    | some width => width :: divide room count index rest
    | none => part room count index :: divide room count (index + 1) rest

def widths (shares : Shares) : List Nat :=
  if waiting shares.list = 0 then
    shares.list.zipIdx.map fun (share, index) =>
      share.width?.getD 0 + part shares.room shares.list.length index
  else divide shares.room (waiting shares.list) 0 shares.list

end Shares

def shares (table : Table) : Shares :=
  let list := table.columns.zipIdx.map fun (column, index) =>
    let share : Share :=
      ⟨column.rule, column.heading :: table.rows.map (·.getD index ""), none⟩
    { share with width? := share.least? }
  let taken := list.foldl (fun n share => n + margins + share.width?.getD 0) 0
  ⟨list, fullWidth - (list.length + 1) - taken⟩

def widths (table : Table) : List Nat :=
  (((table.shares.steps Share.narrow?).step Share.raised?).steps Share.compact?).widths

def rowLines (widths : List Nat) (cells : List String) : List (List String) :=
  let columns := (widths.zip cells).map fun (width, cell) => cellLines width cell
  let height := columns.foldl (fun n lines => max n lines.length) 0
  (List.range height).map fun k => columns.map fun lines => lines.getD k ""

def body (table : Table) : List (List (List String)) :=
  (table.columns.map (·.heading) :: table.rows).map (rowLines table.widths)

/-- A rule across the table: its ends, what it is drawn with, and what stands
where it meets the rules between columns. -/
def ruleLine (widths : List Nat) (first stroke crossing last : String) : String :=
  let strokes := widths.map fun width => String.join (List.replicate (width + margins) stroke)
  first ++ crossing.intercalate strokes ++ last

def padded (column : Column) (width : Nat) (cell : String) : String :=
  let blanks := String.ofList (List.replicate (width - Text.width cell.toList) ' ')
  if column.right then blanks ++ cell else cell ++ blanks

def cellLine (table : Table) (cells : List String) : String :=
  let shown := ((table.columns.zip table.widths).zip cells).map fun ((column, width), cell) =>
    " " ++ padded column width cell ++ " "
  "│" ++ "│".intercalate shown ++ "│"

def lines (table : Table) : List String :=
  let rows := table.body.map fun row => row.map table.cellLine
  [ruleLine table.widths "╭" "─" "┬" "╮"] ++ rows.headD [] ++
    [ruleLine table.widths "╞" "═" "╪" "╡"] ++
    [ruleLine table.widths "├" "─" "┼" "┤"].intercalate rows.tail ++
    [ruleLine table.widths "╰" "─" "┴" "╯"]

end Table

end ListingGrid.Command
