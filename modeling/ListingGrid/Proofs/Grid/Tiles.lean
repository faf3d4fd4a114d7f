import ListingGrid.Report.Layout
import Mathlib.Data.List.Forall2

/-!
# Adjacent fields

Fields over adjacent ranges share out the line between them: each character up to the last cut
is in one slice, and the slices stand in the order of the line. Slices are cut at bytes where
characters begin, however many bytes these take and however short the line is.
-/

set_option autoImplicit false

namespace ListingGrid

namespace ColumnRange

variable {line : List Char} {range : ColumnRange} {ranges : List ColumnRange} {left right : Nat}
  {cuts : List Nat}

def charOffsets : Nat → List Char → List Nat
  | _, [] => []
  | offset, c :: more => offset :: charOffsets (offset + c.utf8Size) more

/-- The byte at which the character of the given number begins, or else the end of the line. -/
def byteOffset (line : String) (chars : Nat) : Nat :=
  (charOffsets 0 line.toList)[chars]?.getD line.utf8ByteSize

/-- Two scans of a line for the ends of a range find the bytes of the slice: they begin and end
with characters, in this order and within the line. -/
structure CutsBytes (range : ColumnRange) (line : String) : Prop where
  ordered : byteOffset line range.left ≤ byteOffset line range.right
  within : byteOffset line range.right ≤ line.utf8ByteSize
  left : String.Pos.Raw.IsValid line ⟨byteOffset line range.left⟩
  right : String.Pos.Raw.IsValid line ⟨byteOffset line range.right⟩
  bytes : (range.slice line).toByteArray =
    line.toByteArray.extract (byteOffset line range.left) (byteOffset line range.right)

/-- Ranges from a column on, each up to its cut. Their bounds are accepted for any field. -/
inductive Adjacent : Nat → List Nat → List ColumnRange → Prop
  | nil {left : Nat} : Adjacent left [] []
  | cons {left right : Nat} {cuts : List Nat} {range : ColumnRange} {ranges : List ColumnRange}
    (hleft : range.left = left) (hright : range.right = right)
    (hbounds : ∀ index, ofBounds index left right = .ok range) (h : Adjacent right cuts ranges) :
    Adjacent left (right :: cuts) (range :: ranges)

theorem exists_adjacent (h : List.IsChain (· ≤ ·) (left :: cuts)) :
    ∃ ranges, Adjacent left cuts ranges := by
  induction cuts generalizing left with
  | nil => exact ⟨[], .nil⟩
  | cons right cuts ih =>
    obtain ⟨hle, hmore⟩ := List.isChain_cons_cons.mp h
    obtain ⟨ranges, hranges⟩ := ih hmore
    refine ⟨⟨left, right, hle⟩ :: ranges, .cons rfl rfl (fun index => ?_) hranges⟩
    have hleft : ¬(left : Int) < 0 := by omega
    have hright : ¬(right : Int) < left := by omega
    simp [ofBounds, hright]

theorem Adjacent.bounds (h : Adjacent left cuts ranges) :
    ranges.map (fun range => (range.left, range.right)) = (left :: cuts).zip cuts := by
  induction h with
  | nil => rfl
  | cons hleft hright _ _ ih => rw [List.map_cons, ih, hleft, hright, List.zip_cons_cons]

theorem getElem?_charOffsets (line : List Char) (offset n : Nat) :
    (charOffsets offset line)[n]? =
      if n < line.length then some (offset + (String.ofList (line.take n)).utf8ByteSize) else none := by
  induction line generalizing offset n with
  | nil => simp [charOffsets]
  | cons c line ih =>
    cases n with
    | zero => simp [charOffsets]
    | succ n =>
      simp [charOffsets, ih, Nat.add_assoc]

theorem byteOffset_eq (line : String) (n : Nat) :
    byteOffset line n = (String.ofList (line.toList.take n)).utf8ByteSize := by
  rw [byteOffset, getElem?_charOffsets]
  split
  · simp
  · next hn => simp [List.take_of_length_le (Nat.le_of_not_lt hn)]

theorem take_right (range : ColumnRange) (line : List Char) :
    line.take range.right = line.take range.left ++ range.sliceChars line := by
  rw [sliceChars, ← List.take_add, Nat.add_sub_cancel' range.left_le_right]

theorem isValid_byteOffset (line : String) (n : Nat) :
    String.Pos.Raw.IsValid line ⟨byteOffset line n⟩ := by
  rw [byteOffset_eq, String.Pos.Raw.isValid_iff_exists_append]
  refine ⟨String.ofList (line.toList.take n), String.ofList (line.toList.drop n), ?_, rfl⟩
  rw [← String.ofList_append, List.take_append_drop, String.ofList_toList]

theorem extract_middle (front middle back : String) :
    (front ++ (middle ++ back)).toByteArray.extract front.utf8ByteSize
      (front.utf8ByteSize + middle.utf8ByteSize) = middle.toByteArray := by
  have hcut := @ByteArray.extract_append_size_add front.toByteArray (middle ++ back).toByteArray 0
    middle.utf8ByteSize
  rw [Nat.add_zero] at hcut
  rw [String.toByteArray_append, ← String.size_toByteArray, hcut, String.toByteArray_append]
  exact ByteArray.extract_append_eq_left rfl

theorem cutsBytes (range : ColumnRange) (line : String) : range.CutsBytes line := by
  have hfront : String.ofList (line.toList.take range.right) =
      String.ofList (line.toList.take range.left) ++ range.slice line := by
    rw [take_right, String.ofList_append, slice]
  have hline : String.ofList (line.toList.take range.left) ++
      (range.slice line ++ String.ofList (line.toList.drop range.right)) = line := by
    rw [← String.append_assoc, ← hfront, ← String.ofList_append, List.take_append_drop,
      String.ofList_toList]
  have hright : byteOffset line range.right = byteOffset line range.left +
      (range.slice line).utf8ByteSize := by
    rw [byteOffset_eq, byteOffset_eq, hfront, String.utf8ByteSize_append]
  have hsize : byteOffset line range.right +
      (String.ofList (line.toList.drop range.right)).utf8ByteSize = line.utf8ByteSize := by
    rw [byteOffset_eq, ← String.utf8ByteSize_append, ← String.ofList_append,
      List.take_append_drop, String.ofList_toList]
  have hbytes := extract_middle (String.ofList (line.toList.take range.left)) (range.slice line)
    (String.ofList (line.toList.drop range.right))
  rw [hline, ← byteOffset_eq, ← hright] at hbytes
  exact ⟨by omega, by omega, isValid_byteOffset line _, isValid_byteOffset line _, hbytes.symm⟩

/-- A slice holds the characters of the range that the line has. -/
theorem getElem?_slice (range : ColumnRange) (line : String) (k : Nat) :
    (range.slice line).toList[k]? =
      if range.left + k < range.right then line.toList[range.left + k]? else none := by
  rw [slice, String.toList_ofList, sliceChars, List.getElem?_take, List.getElem?_drop]
  have hle := range.left_le_right
  by_cases hk : k < range.right - range.left
  · rw [if_pos hk, if_pos (by omega)]
  · rw [if_neg hk, if_neg (by omega)]

/-- The slices of adjacent ranges are what stands between the first cut and the last. -/
theorem Adjacent.flatten (h : Adjacent left cuts ranges) (line : List Char) :
    line.take left ++ (ranges.map (·.sliceChars line)).flatten = line.take (cuts.getLastD left) := by
  induction h with
  | nil => simp
  | @cons left right cuts range ranges hleft hright _ _ ih =>
    rw [List.map_cons, List.flatten_cons, ← List.append_assoc, ← hleft, ← take_right, hright, ih,
      List.getLastD_cons]

theorem Adjacent.join (h : Adjacent 0 cuts ranges) (line : String) :
    String.join (ranges.map (·.slice line)) =
      String.ofList (line.toList.take (min (cuts.getLastD 0) line.toList.length)) := by
  have hflatten := h.flatten line.toList
  rw [List.take_zero, List.nil_append] at hflatten
  rw [← List.take_eq_take_min, ← hflatten, ← String.toList_inj, String.toList_join, String.toList_ofList]
  simp [slice, List.flatMap_map, List.flatten_eq_flatMap]

end ColumnRange

open ColumnRange

/-- The field cuts its range out of the line and leaves it as it is. -/
def Field.FixedOver (field : Field) (range : ColumnRange) : Prop :=
  field.kind = .extracted .fixed range

/-- Fixed fields have one cell each, from the given column on, with the slices of the line as
their texts. -/
theorem cellsFrom_fixed {fields : List Field} {ranges : List ColumnRange}
    (h : List.Forall₂ Field.FixedOver fields ranges) (number : Nat) (line : String)
    (row startRow column : Nat) :
    ∃ cells, Layout.cellsFrom number line row startRow column fields = .ok cells ∧
      cells.map (·.field) = fields ∧ cells.map (·.column) = List.range' column fields.length ∧
      cells.map (·.raw) = ranges.map (fun range => some (range.slice line)) ∧
      cells.map (·.value) = ranges.map fun range => .text (range.slice line) := by
  -- By induction on the fields: the cells behind the first begin one column further on.
  induction h generalizing column with
  | nil => exact ⟨[], rfl, rfl, rfl, rfl, rfl⟩
  | @cons field range fields ranges hfield _ ih =>
    obtain ⟨cells, hcells, hfields, hcolumns, hraws, hvalues⟩ := ih (column + 1)
    have hcell : Layout.fieldCells line row startRow column field =
        .ok [⟨row, column, field, some (range.slice line), .text (range.slice line)⟩] := by
      unfold Layout.fieldCells
      rw [hfield]
      rfl
    have hwidth : field.width = 1 := by
      unfold Field.width
      rw [hfield]
    refine ⟨⟨row, column, field, some (range.slice line), .text (range.slice line)⟩ :: cells, ?_, ?_, ?_,
      ?_, ?_⟩
    · rw [Layout.cellsFrom, hcell, hwidth]
      simp only [hcells]
      rfl
    · rw [List.map_cons, hfields]
    · rw [List.map_cons, hcolumns, List.length_cons, List.range'_succ]
    · rw [List.map_cons, hraws, List.map_cons]
    · rw [List.map_cons, hvalues, List.map_cons]
      rfl

/-- Adjacent ranges from the first column on share out the characters of a line up to the last
cut, and so do the texts and the values of fixed fields over them. -/
theorem fixed_fields_tile (line : String) (cuts : List Nat)
    (hcuts : List.IsChain (· ≤ ·) (0 :: cuts)) :
    ∃ ranges front, Adjacent 0 cuts ranges ∧
      front = String.ofList (line.toList.take (min (cuts.getLastD 0) line.toList.length)) ∧
      (∀ range ∈ ranges, range.CutsBytes line ∧ ∀ k, (range.slice line).toList[k]? =
        if range.left + k < range.right then line.toList[range.left + k]? else none) ∧
      String.join (ranges.map (·.slice line)) = front ∧
      ∀ fields, List.Forall₂ Field.FixedOver fields ranges → ∀ number row startRow column,
        ∃ cells, Layout.cellsFrom number line row startRow column fields = .ok cells ∧
          cells.map (·.field) = fields ∧ cells.map (·.column) = List.range' column fields.length ∧
          cells.map (·.raw) = ranges.map (fun range => some (range.slice line)) ∧
          cells.map (·.value) = (ranges.map fun range => .text (range.slice line)) ∧
          String.join (cells.map (·.raw.getD "")) = front ∧
          String.join (cells.map (·.value.display)) = front := by
  obtain ⟨ranges, hranges⟩ := exists_adjacent hcuts
  have hjoin := hranges.join line
  refine ⟨ranges, _, hranges, rfl, ?_, hjoin, ?_⟩
  · exact fun range _ => ⟨cutsBytes range line, getElem?_slice range line⟩
  · intro fields hfields number row startRow column
    obtain ⟨cells, hcells, hfield, hcolumn, hraws, hvalues⟩ :=
      cellsFrom_fixed hfields number line row startRow column
    refine ⟨cells, hcells, hfield, hcolumn, hraws, hvalues, ?_, ?_⟩
    · have hmap : cells.map (·.raw.getD "") = (cells.map (·.raw)).map (·.getD "") := by simp
      rw [hmap, hraws, List.map_map, ← hjoin]
      rfl
    · have hmap : cells.map (·.value.display) = (cells.map (·.value)).map (·.display) := by simp
      rw [hmap, hvalues, List.map_map, ← hjoin]
      rfl

/-- A letter of two bytes, an empty range, and cuts behind the end of the line. -/
theorem fixed_fields_tile_short :
    List.IsChain (· ≤ ·) [0, 2, 2, 5, 9] ∧
      ∃ ranges, Adjacent 0 [2, 2, 5, 9] ranges ∧
        ranges.map (·.slice "añoXYZ") = ["añ", "", "oXY", "Z"] ∧
        ranges.map (fun range => byteOffset "añoXYZ" range.right) = [3, 3, 6, 7] ∧
        String.join (ranges.map (·.slice "añoXYZ")) = "añoXYZ" := by
  have hcuts : List.IsChain (· ≤ ·) [0, 2, 2, 5, 9] := by simp
  obtain ⟨ranges, _, hranges, rfl, -, hjoin, -⟩ := fixed_fields_tile "añoXYZ" [2, 2, 5, 9] hcuts
  have hslices : ranges.map (·.slice "añoXYZ") = (ranges.map fun range => (range.left, range.right)).map
      fun bounds => String.ofList (("añoXYZ".toList.drop bounds.1).take (bounds.2 - bounds.1)) := by
    rw [List.map_map]
    rfl
  have hoffsets : ranges.map (fun range => byteOffset "añoXYZ" range.right) =
      (ranges.map fun range => (range.left, range.right)).map fun bounds =>
        byteOffset "añoXYZ" bounds.2 := by
    rw [List.map_map]
    rfl
  refine ⟨hcuts, ranges, hranges, ?_, ?_, hjoin.trans (by decide)⟩
  · rw [hslices, hranges.bounds]
    decide
  · rw [hoffsets, hranges.bounds]
    decide

end ListingGrid
