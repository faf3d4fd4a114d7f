import ListingGrid.Grid
import ListingGrid.Proofs.Grammar.Numerals

/-!
# Printable texts

What the program spells by itself is printable ASCII: numbers of every kind, names of columns and
addresses of cells.
-/

set_option autoImplicit false

namespace ListingGrid

namespace Text

def isPrintable (c : Char) : Bool := 0x20 ≤ c.toNat && c.toNat ≤ 0x7E

def Printable (cs : List Char) : Prop := ∀ c ∈ cs, isPrintable c = true

variable {c : Char} {a b : List Char}

@[simp] theorem printable_nil : Printable [] := by simp [Printable]

@[simp] theorem printable_cons : Printable (c :: a) ↔ isPrintable c = true ∧ Printable a := by
  simp [Printable]

@[simp] theorem printable_append : Printable (a ++ b) ↔ Printable a ∧ Printable b := by
  simp [Printable, or_imp, forall_and]

theorem Printable.of_all (h : a.all isPrintable = true) : Printable a := List.all_eq_true.mp h

theorem Printable.subset (h : Printable b) (hsub : a ⊆ b) : Printable a :=
  fun c hc => h c (hsub hc)

theorem Printable.take (h : Printable a) (n : Nat) : Printable (a.take n) :=
  h.subset (List.take_subset ..)

theorem Printable.drop (h : Printable a) (n : Nat) : Printable (a.drop n) :=
  h.subset (List.drop_subset ..)

theorem printable_replicate (h : isPrintable c = true) (n : Nat) :
    Printable (List.replicate n c) :=
  fun _ hd => List.eq_of_mem_replicate hd ▸ h

theorem isPrintable_of_isWordChar (h : isWordChar c = true) : isPrintable c = true := by
  simp only [isWordChar_iff, isAlphanumeric_iff, isLetter_iff, isLower_iff, isUpper_iff,
    isDigit_iff] at h
  rcases h with hcode | rfl
  · simp only [isPrintable, Bool.and_eq_true, decide_eq_true_eq]
    omega
  · rfl

theorem printable_decimalDigits (n : Nat) : Printable (decimalDigits n) :=
  fun _ hc => isPrintable_of_isWordChar (isWordChar_of_isDigit (isDigit_of_mem_decimalDigits hc))

theorem printable_integerText (n : Int) : Printable (integerText n).toList := by
  cases n with
  | ofNat m => simpa [integerText] using printable_decimalDigits m
  | negSucc m =>
    have := printable_decimalDigits (m + 1)
    simpa [integerText] using ⟨by decide, this⟩

end Text

open Text

namespace Double

theorem printable_positional (wholePoint : Bool) (d : Digits) :
    Printable (positional wholePoint d) := by
  have hdigits := printable_decimalDigits d.digits
  have hzeros := fun n => printable_replicate (c := '0') (by decide) n
  unfold positional
  split
  · cases wholePoint
    · simp [hdigits, hzeros]
    · simp [hdigits, hzeros, isPrintable]
  · dsimp only
    split
    · simp [hdigits.take, hdigits.drop, isPrintable]
    · simp [hdigits, hzeros, isPrintable]

theorem printable_text (value : Double) : Printable (value.text plain) := by
  have hsign : ∀ negative : Bool, Printable (if negative then ['-'] else []) := fun negative => by
    cases negative <;> simp [isPrintable]
  cases value with
  | nan => exact .of_all (by decide)
  | infinite negative =>
    exact printable_append.mpr ⟨hsign negative, .of_all (by decide)⟩
  | finite negative mantissa exponent =>
    simp only [text, plain, Bool.or_self, Bool.and_false, Bool.false_eq_true, if_false]
    exact printable_append.mpr ⟨hsign negative, printable_positional _ _⟩

end Double

namespace Decimal

theorem printable_magnitudeText {digits : List Char} (h : Printable digits) (scale : Int) :
    Printable (magnitudeText digits scale) := by
  have hzeros := fun n => printable_replicate (c := '0') (by decide) n
  unfold magnitudeText
  split
  · dsimp only
    split
    · simp [h, printable_decimalDigits, isPrintable]
    · simp [h, hzeros]
  · dsimp only
    split
    · simp [h.take, h.drop, isPrintable]
    · split
      · have hbehind := h.drop 1
        generalize digits.drop 1 = behind at hbehind ⊢
        cases behind with
        | nil => simp [h.take, printable_decimalDigits, isPrintable]
        | cons c more =>
          obtain ⟨hc, hmore⟩ := printable_cons.mp hbehind
          simpa [h.take, hmore, printable_decimalDigits, isPrintable] using hc
      · simp [h, hzeros, isPrintable]

theorem printable_text (d : Decimal) : Printable d.text := by
  unfold text
  split
  · simp [isPrintable]
  · have hdigits := printable_magnitudeText (printable_decimalDigits d.unscaled.natAbs) d.scale
    split
    · simp [hdigits, isPrintable]
    · simp [hdigits]

end Decimal

theorem Number.printable_text (n : Number) : Printable n.text.toList := by
  cases n with
  | integer value => exact printable_integerText value
  | float value => simpa [text] using Double.printable_text value
  | decimal value => simpa [text] using Decimal.printable_text value

theorem printable_columnLetters (n : Nat) : Printable (columnLetters n) := by
  fun_induction columnLetters n with
  | case1 => simp
  | case2 n hn ih =>
    have hletter : ∀ k < 26, isPrintable (Char.ofNat ('A'.toNat + k)) = true := by decide
    exact printable_append.mpr ⟨ih, by simpa using hletter _ (Nat.mod_lt _ (by decide))⟩

theorem printable_columnName (column : Nat) : Printable (columnName column).toList := by
  simpa [columnName] using printable_columnLetters (column + 1)

theorem printable_naturalText (n : Nat) : Printable (naturalText n).toList := by
  simpa [naturalText] using printable_decimalDigits n

theorem printable_cellAddress (row column : Nat) : Printable (cellAddress row column).toList := by
  simp [cellAddress, printable_columnName, printable_naturalText]

end ListingGrid
