import ListingGrid.Proofs.Grid.Columns
import Mathlib.Data.List.Induction
import Mathlib.Data.List.Shortlex
import Mathlib.Data.Nat.Digits.Defs

/-!
# Columns and the words that name them

Names of columns are the words of capital letters that are not empty, in the order of their lengths
and then of the alphabet. A word in any case is read as the number that it denotes in base 26, the
digits running from 1 to 26, as long as this number is not too great.
-/

set_option autoImplicit false

namespace ListingGrid

/-- The digit that a letter of either case stands for: 1 for `A`, 26 for `Z`. -/
def letterDigit (c : Char) : Nat := (Text.upper c).toNat - 'A'.toNat + 1

/-- The number that a word of letters denotes in base 26 without a zero digit. -/
def columnNumber (word : List Char) : Nat := Nat.ofDigits 26 (word.reverse.map letterDigit)

variable {word : List Char} {c : Char}

theorem letterDigit_bounds (h : Text.isLetter c = true) :
    1 ≤ letterDigit c ∧ letterDigit c ≤ 26 := by
  have hupper := Text.isUpper_iff.mp (Text.isUpper_upper h)
  have hfirst : 'A'.toNat = 65 := rfl
  rw [letterDigit, hfirst]
  omega

theorem columnNumber_concat (word : List Char) (c : Char) :
    columnNumber (word ++ [c]) = 26 * columnNumber word + letterDigit c := by
  rw [columnNumber, List.reverse_append, List.reverse_singleton, List.singleton_append,
    List.map_cons, Nat.ofDigits_cons, columnNumber, Nat.add_comm]

theorem columnNumber_pos (hne : word ≠ []) : 0 < columnNumber word := by
  obtain ⟨front, c, rfl⟩ := (List.eq_nil_or_concat' word).resolve_left hne
  rw [columnNumber_concat, letterDigit]
  omega

/-- The last letter of a word is read as its last digit. -/
theorem columnNumber?_last {number n : Nat} :
    columnNumber? [c] number = some n ↔
      Text.isLetter c = true ∧ 26 * number + letterDigit c = n ∧ n ≤ greatestColumnNumber := by
  rw [columnNumber?]
  split
  · next hletter =>
    have hupper := Text.isUpper_iff.mp (Text.isUpper_upper hletter)
    have hfirst : 'A'.toNat = 65 := rfl
    have hnext : 26 * number + (Text.upper c).toNat - 'A'.toNat + 1 =
        26 * number + letterDigit c := by
      rw [letterDigit, hfirst]
      omega
    simp only [hnext, hletter, true_and]
    split
    · next hfits =>
      rw [columnNumber?, Option.some_inj]
      exact ⟨fun h => ⟨h, h ▸ hfits⟩, fun h => h.1⟩
    · next hlarge =>
      constructor
      · intro h
        cases h
      · rintro ⟨rfl, hfits⟩
        exact absurd hfits hlarge
  · next hletter => simp [hletter]

/-- A word is read as a number just if it has letters only and denotes that number, which is not
too great. No reading in between is too great either. -/
theorem columnNumber?_eq_some_iff {n : Nat} :
    columnNumber? word 0 = some n ↔
      (∀ c ∈ word, Text.isLetter c = true) ∧ columnNumber word = n ∧ n ≤ greatestColumnNumber := by
  induction word using List.reverseRecOn generalizing n with
  | nil =>
    rw [columnNumber?, Option.some_inj]
    constructor
    · rintro rfl
      exact ⟨List.forall_mem_nil _, rfl, Nat.zero_le _⟩
    · rintro ⟨-, hn, -⟩
      exact hn
  | append_singleton front c ih =>
    rw [columnNumber?_append, Option.bind_eq_some_iff, columnNumber_concat]
    simp only [ih, columnNumber?_last, List.forall_mem_append, List.forall_mem_singleton]
    constructor
    · rintro ⟨m, ⟨hfront, rfl, -⟩, hc, hn, hfits⟩
      exact ⟨⟨hfront, hc⟩, hn, hfits⟩
    · rintro ⟨⟨hfront, hc⟩, hn, hfits⟩
      exact ⟨columnNumber front, ⟨hfront, rfl, by omega⟩, hc, hn, hfits⟩

/-- The letters of the number that a word denotes are the word in capitals. -/
theorem columnLetters_columnNumber (h : ∀ c ∈ word, Text.isLetter c = true) :
    columnLetters (columnNumber word) = Text.upperAll word := by
  induction word using List.reverseRecOn with
  | nil => rw [columnLetters]; rfl
  | append_singleton front c ih =>
    rw [List.forall_mem_append, List.forall_mem_singleton] at h
    obtain ⟨hleast, hgreatest⟩ := letterDigit_bounds h.2
    obtain ⟨digit, hdigit⟩ := Nat.exists_eq_add_of_le' hleast
    have hdiv : (26 * columnNumber front + digit) / 26 = columnNumber front := by omega
    have hmod : (26 * columnNumber front + digit) % 26 = digit := by omega
    have hletter : Char.ofNat ('A'.toNat + digit) = Text.upper c := by
      have hupper := Text.isUpper_iff.mp (Text.isUpper_upper h.2)
      have hfirst : 'A'.toNat = 65 := rfl
      rw [letterDigit] at hdigit
      rw [show 'A'.toNat + digit = (Text.upper c).toNat by omega, Char.ofNat_toNat]
    rw [columnNumber_concat, hdigit, ← Nat.add_assoc, columnLetters_succ, hdiv, hmod, ih h.1,
      hletter, Text.upperAll_append]
    rfl

theorem columnIndex?_eq_some_iff {s : String} {i : Nat} :
    columnIndex? s = some i ↔ columnNumber? s.toList 0 = some (i + 1) := by
  rw [columnIndex?]
  split
  · next n hn => simp [hn]
  · next hn =>
    constructor
    · intro h
      cases h
    · intro h
      exact absurd h (hn i)

theorem shortlex_concat {a b : List Char} (h : List.Shortlex (· < ·) a b) (x y : Char) :
    List.Shortlex (· < ·) (a ++ [x]) (b ++ [y]) := by
  rcases List.shortlex_def.mp h with hlength | ⟨hlength, hlex⟩
  · exact .of_length_lt (by simpa using hlength)
  · refine .of_lex (by simpa using hlength) ?_
    induction hlex with
    | nil => simp at hlength
    | cons hlex ih =>
      exact .cons (ih (.of_lex (by simpa using hlength) hlex) (by simpa using hlength))
    | rel hlt => exact .rel hlt

/-- The order is that of the last digits, where the digits before them are the same. -/
theorem columnLetters_lt {i j : Nat} (h : i < j) :
    List.Shortlex (· < ·) (columnLetters i) (columnLetters j) := by
  induction j using Nat.strongRecOn generalizing i with
  | _ j ih =>
    obtain ⟨j, rfl⟩ := Nat.exists_eq_add_of_lt (Nat.lt_of_le_of_lt (Nat.zero_le i) h)
    rw [Nat.zero_add] at h ih ⊢
    cases i with
    | zero =>
      rw [columnLetters_succ, columnLetters, if_pos rfl]
      exact .of_length_lt (by simp)
    | succ i =>
      rw [columnLetters_succ, columnLetters_succ]
      rcases Nat.lt_or_ge (i / 26) (j / 26) with hdiv | hdiv
      · exact shortlex_concat (ih (j / 26) (by omega) hdiv) _ _
      · have hsame : i / 26 = j / 26 := by omega
        rw [hsame]
        refine List.Shortlex.append_left ((List.shortlex_singleton_iff ..).mpr ?_) _
        rw [Char.lt_def, UInt32.lt_iff_toNat_lt]
        change (Char.ofNat _).toNat < (Char.ofNat _).toNat
        rw [toNat_letter (Nat.mod_lt _ (by decide)), toNat_letter (Nat.mod_lt _ (by decide))]
        omega

theorem columnLetters_lt_iff {i j : Nat} :
    List.Shortlex (· < ·) (columnLetters i) (columnLetters j) ↔ i < j := by
  refine ⟨fun h => ?_, columnLetters_lt⟩
  rcases Nat.lt_trichotomy i j with hlt | rfl | hgt
  · exact hlt
  · exact absurd h (Std.Irrefl.irrefl _)
  · exact absurd h (Std.Asymm.asymm _ _ (columnLetters_lt hgt))

theorem columnName_lt_iff {i j : Nat} :
    i < j ↔ (columnName i).length < (columnName j).length ∨
      (columnName i).length = (columnName j).length ∧ columnName i < columnName j := by
  rw [← Nat.add_lt_add_iff_right (k := 1), ← columnLetters_lt_iff, List.shortlex_def]
  simp only [columnName, String.length_ofList, String.lt_iff, String.toList_ofList]
  rfl

/-- The names of columns are the words of letters, up to case, and cells have addresses of their
own. -/
theorem columnNames_bijective :
    (∀ i < greatestColumnNumber, columnName i ≠ "" ∧
      (∀ c ∈ (columnName i).toList, 'A' ≤ c ∧ c ≤ 'Z') ∧ columnIndex? (columnName i) = some i) ∧
    (∀ s : String, ((∃ i, columnIndex? s = some i) ↔ s ≠ "" ∧
        (∀ c ∈ s.toList, Text.isLetter c = true) ∧ columnNumber s.toList ≤ greatestColumnNumber) ∧
      ∀ i, columnIndex? s = some i →
        columnNumber s.toList = i + 1 ∧ columnName i = String.ofList (Text.upperAll s.toList)) ∧
    (∀ i j, i < j ↔ (columnName i).length < (columnName j).length ∨
      (columnName i).length = (columnName j).length ∧ columnName i < columnName j) ∧
    ∀ row column other next, column < greatestColumnNumber → next < greatestColumnNumber →
      cellAddress row column = cellAddress other next → row = other ∧ column = next := by
  refine ⟨fun i hi => ⟨?_, fun c hc => ?_, columnIndex?_columnName hi⟩,
    fun s => ⟨?_, fun i hi => ?_⟩, fun i j => columnName_lt_iff,
    fun row column other next => cellAddress_inj⟩
  · rw [columnName, columnLetters_succ, ne_eq, ← String.toList_inj, String.toList_ofList]
    simp
  · rw [columnName, String.toList_ofList] at hc
    simpa [Text.isUpper] using isUpper_of_mem_columnLetters hc
  · simp only [columnIndex?_eq_some_iff, columnNumber?_eq_some_iff]
    constructor
    · rintro ⟨i, hletters, hnumber, hfits⟩
      refine ⟨?_, hletters, hnumber ▸ hfits⟩
      rintro rfl
      exact absurd hnumber (Nat.succ_ne_zero i).symm
    · rintro ⟨hne, hletters, hfits⟩
      have hpos : 0 < columnNumber s.toList := columnNumber_pos (by simpa using hne)
      exact ⟨columnNumber s.toList - 1, hletters, by omega, by omega⟩
  · obtain ⟨hletters, hnumber, -⟩ := columnNumber?_eq_some_iff.mp (columnIndex?_eq_some_iff.mp hi)
    exact ⟨hnumber, by rw [columnName, ← hnumber, columnLetters_columnNumber hletters]⟩

example : columnName 701 = "ZZ" ∧ columnName 702 = "AAA" ∧ columnIndex? "zZ" = some 701 ∧
    columnIndex? "GKGWBYLWRXTLPO" = some (greatestColumnNumber - 1) ∧
    columnIndex? "GKGWBYLWRXTLPP" = none := by
  decide +kernel

end ListingGrid
