import ListingGrid.Address
import ListingGrid.Proofs.Grammar.Numerals

/-!
# Names of columns

The letters of a column are read back as that column, so that columns have different names and
cells of a sheet different addresses.
-/

set_option autoImplicit false

namespace ListingGrid

theorem columnNumber?_append (a b : List Char) (number : Nat) :
    columnNumber? (a ++ b) number = (columnNumber? a number).bind (columnNumber? b) := by
  induction a generalizing number with
  | nil => rfl
  | cons c rest ih =>
    simp only [List.cons_append, columnNumber?]
    split
    · split
      · exact ih _
      · rfl
    · rfl

/-- The letter of a digit of base 26, the least one being `A`. -/
theorem toNat_letter {digit : Nat} (h : digit < 26) :
    (Char.ofNat ('A'.toNat + digit)).toNat = 'A'.toNat + digit :=
  Text.toNat_ofNat (by simp; omega)

theorem isUpper_letter {digit : Nat} (h : digit < 26) :
    Text.isUpper (Char.ofNat ('A'.toNat + digit)) = true := by
  rw [Text.isUpper_iff, toNat_letter h]
  simp
  omega

theorem columnLetters_succ (n : Nat) :
    columnLetters (n + 1) = columnLetters (n / 26) ++ [Char.ofNat ('A'.toNat + n % 26)] := by
  rw [columnLetters, if_neg (Nat.succ_ne_zero n), Nat.add_sub_cancel]

theorem columnNumber?_letter {digit number : Nat} (h : digit < 26)
    (hfits : 26 * number + digit + 1 ≤ greatestColumnNumber) :
    columnNumber? [Char.ofNat ('A'.toNat + digit)] number = some (26 * number + digit + 1) := by
  have hupper := isUpper_letter h
  have hletter : Text.isLetter (Char.ofNat ('A'.toNat + digit)) = true :=
    Text.isLetter_of_isUpper hupper
  have hcase : Text.upper (Char.ofNat ('A'.toNat + digit)) = Char.ofNat ('A'.toNat + digit) := by
    refine Text.upper_of_not_lower ?_
    rw [← Bool.not_eq_true, Text.isLower_iff]
    rw [Text.isUpper_iff] at hupper
    omega
  have hnext : 26 * number + (Char.ofNat ('A'.toNat + digit)).toNat - 'A'.toNat + 1 =
      26 * number + digit + 1 := by
    rw [toNat_letter h]
    omega
  rw [columnNumber?, if_pos hletter, hcase, hnext, if_pos hfits]
  rfl

theorem columnNumber?_columnLetters {n : Nat} (h : n ≤ greatestColumnNumber) :
    columnNumber? (columnLetters n) 0 = some n := by
  induction n using Nat.strongRecOn with
  | _ n ih =>
    cases n with
    | zero => rw [columnLetters, if_pos rfl]; rfl
    | succ n =>
      have hmod : n % 26 < 26 := Nat.mod_lt _ (by decide)
      rw [columnLetters_succ, columnNumber?_append, ih (n / 26) (by omega) (by omega),
        Option.bind_some, columnNumber?_letter hmod (by omega), Nat.div_add_mod]

theorem columnIndex?_columnName {column : Nat} (h : column < greatestColumnNumber) :
    columnIndex? (columnName column) = some column := by
  rw [columnIndex?, columnName, String.toList_ofList, columnNumber?_columnLetters h]

theorem isUpper_of_mem_columnLetters {n : Nat} {c : Char} (h : c ∈ columnLetters n) :
    Text.isUpper c = true := by
  induction n using Nat.strongRecOn with
  | _ n ih =>
    cases n with
    | zero =>
      rw [columnLetters, if_pos rfl] at h
      simp at h
    | succ n =>
      rw [columnLetters_succ, List.mem_append, List.mem_singleton] at h
      rcases h with h | rfl
      · exact ih (n / 26) (by omega) h
      · exact isUpper_letter (Nat.mod_lt _ (by decide))

/-- The letters of an address are those of its column. -/
theorem takeWhile_cellAddress (row column : Nat) :
    (cellAddress row column).toList.takeWhile Text.isUpper = (columnName column).toList := by
  obtain ⟨c, digits, hdigits, hc⟩ := Grammar.decimalDigits_head (sheetRow row)
  have hnot : Text.isUpper c = false := by
    rw [← Bool.not_eq_true, Text.isUpper_iff]
    rw [Text.isDigit_iff] at hc
    omega
  rw [cellAddress, String.toList_append, columnName, Text.naturalText, String.toList_ofList,
    String.toList_ofList, hdigits,
    List.takeWhile_append_of_pos fun d hd => isUpper_of_mem_columnLetters hd,
    List.takeWhile_cons_of_neg (by simp [hnot]), List.append_nil]

theorem cellAddress_inj {row other column next : Nat} (hcolumn : column < greatestColumnNumber)
    (hnext : next < greatestColumnNumber) (h : cellAddress row column = cellAddress other next) :
    row = other ∧ column = next := by
  have hname : columnName column = columnName next := by
    rw [← String.toList_inj, ← takeWhile_cellAddress row, h, takeWhile_cellAddress]
  have hrow : Text.naturalText (sheetRow row) = Text.naturalText (sheetRow other) := by
    rw [cellAddress, cellAddress, hname] at h
    simpa [← String.toList_inj] using h
  have hdigits : Text.decimalDigits (sheetRow row) = Text.decimalDigits (sheetRow other) := by
    simpa [Text.naturalText] using congrArg String.toList hrow
  constructor
  · have hsheet : sheetRow row = sheetRow other := by
      rw [← Text.decimalValue_decimalDigits (sheetRow row), hdigits,
        Text.decimalValue_decimalDigits]
    exact Nat.succ.inj hsheet
  · have hindex := columnIndex?_columnName hcolumn
    rw [hname, columnIndex?_columnName hnext] at hindex
    exact (Option.some.inj hindex).symm

end ListingGrid
