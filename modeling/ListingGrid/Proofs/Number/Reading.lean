import ListingGrid.Number.Basic
import ListingGrid.Proofs.Text.Letters
import Mathlib.Algebra.Group.Nat.Defs
import Mathlib.Data.List.TakeWhile

/-!
# Readers of numbers

The readers of integers, decimals and doubles agree on texts of a sign, digits, a point and more
digits: they read the number that the digits denote. Only integers have bounds.
-/

set_option autoImplicit false

namespace ListingGrid

namespace Text

theorem cutAt_none {p : Char → Bool} {s : List Char} (h : ∀ c ∈ s, p c = false) :
    cutAt p s = (s, none) := by
  have hdrop : s.dropWhile (fun c => !p c) = [] :=
    List.dropWhile_eq_nil_iff.mpr fun c hc => by simp [h c hc]
  rw [cutAt, hdrop]

theorem cutAt_append {p : Char → Bool} {s rest : List Char} {c : Char}
    (h : ∀ d ∈ s, p d = false) (hc : p c = true) :
    cutAt p (s ++ c :: rest) = (s, some rest) := by
  have hkept : ∀ d ∈ s, (!p d) = true := fun d hd => by simp [h d hd]
  rw [cutAt, List.dropWhile_append_of_pos hkept, List.takeWhile_append_of_pos hkept]
  simp [hc]

theorem decimalValue_append (a b : List Char) :
    decimalValue (a ++ b) = 10 ^ b.length * decimalValue a + decimalValue b :=
  (Nat.ofDigitChars_append 0).trans Nat.ofDigitChars_eq_ofDigitChars_zero

/-- A digit is none of the other characters of numbers. -/
theorem ne_of_isDigit {c d : Char} (h : isDigit c = true) (hd : isDigit d = false) : c ≠ d := by
  rintro rfl
  simp [h] at hd

end Text

def signText (negative : Bool) : List Char := if negative then ['-'] else []

def withSign (negative : Bool) (n : Nat) : Int := if negative then -(n : Int) else n

theorem withSign_natAbs (i : Int) : withSign (decide (i < 0)) i.natAbs = i := by
  rw [withSign]
  split
  · next h =>
    have hneg : i < 0 := of_decide_eq_true h
    omega
  · next h =>
    have hnonneg : ¬i < 0 := fun hneg => h (decide_eq_true hneg)
    omega

def pointed (digits : List Char) : List Char := if digits = [] then [] else '.' :: digits

variable {digits fraction : List Char}

theorem exists_digit (hne : digits ≠ []) (hall : digits.all Text.isDigit = true) :
    ∃ c more, digits = c :: more ∧ Text.isDigit c = true ∧ c ≠ '-' ∧ c ≠ '+' ∧ c ≠ '_' := by
  obtain ⟨c, more, rfl⟩ := List.exists_cons_of_ne_nil hne
  have hc := (Bool.and_eq_true_iff.mp hall).1
  exact ⟨c, more, rfl, hc, Text.ne_of_isDigit hc rfl, Text.ne_of_isDigit hc rfl,
    Text.ne_of_isDigit hc rfl⟩

/-- Digits behind an optional minus are read as the integer that they denote if it fits. -/
theorem Number.integer?_signed (hne : digits ≠ []) (hall : digits.all Text.isDigit = true)
    (negative : Bool) :
    integer? (signText negative ++ digits) =
      if leastInteger ≤ withSign negative (Text.decimalValue digits) ∧
          withSign negative (Text.decimalValue digits) ≤ greatestInteger then
        some (withSign negative (Text.decimalValue digits))
      else none := by
  obtain ⟨c, more, rfl, -, hminus, hplus, -⟩ := exists_digit hne hall
  cases negative with
  | true => simp [integer?, signText, withSign, hall]
  | false => simp [integer?, signText, withSign, hall, hminus, hplus]

namespace Decimal

theorem natural?_digits (hne : digits ≠ []) (hall : digits.all Text.isDigit = true) :
    natural? digits = some (Text.decimalValue digits) := by
  obtain ⟨c, more, hdigits, -, -, -, hunderscore⟩ := exists_digit hne hall
  have hplain : digits.all (fun c => Text.isDigit c || c == '_') = true :=
    List.all_eq_true.mpr fun c hc => by simp [List.all_eq_true.mp hall c hc]
  have hfilter : digits.filter Text.isDigit = digits :=
    List.filter_eq_self.mpr (List.all_eq_true.mp hall)
  rw [natural?, if_neg (by simp [hdigits, hunderscore]), if_pos hplain, hfilter]

theorem signed?_digits (hne : digits ≠ []) (hall : digits.all Text.isDigit = true)
    (negative : Bool) :
    signed? (signText negative ++ digits) =
      some (withSign negative (Text.decimalValue digits)) := by
  have hnatural := natural?_digits hne hall
  obtain ⟨c, more, rfl, -, hminus, hplus, -⟩ := exists_digit hne hall
  cases negative with
  | true => simp [signed?, signText, withSign, hplus, hnatural]
  | false => simp [signed?, signText, withSign, hminus, hplus, hnatural]

end Decimal

section Pointed

variable (hne : digits ≠ []) (hall : digits.all Text.isDigit = true)
  (hfraction : fraction.all Text.isDigit = true)

include hall in
theorem cutAt_pointed (before fraction : List Char) (hbefore : ∀ c ∈ before, c ≠ '.') :
    ∃ part, Text.cutAt (· == '.') (before ++ (digits ++ pointed fraction)) =
      (before ++ digits, part) ∧ part.getD [] = fraction := by
  have hnone : ∀ c ∈ before ++ digits, (c == '.') = false := by
    intro c hc
    rw [beq_eq_false_iff_ne]
    rcases List.mem_append.mp hc with hc | hc
    · exact hbefore c hc
    · exact Text.ne_of_isDigit (List.all_eq_true.mp hall c hc) rfl
  rw [← List.append_assoc, pointed]
  split
  · next hnil =>
    rw [List.append_nil]
    exact ⟨none, Text.cutAt_none hnone, hnil.symm⟩
  · exact ⟨some fraction, Text.cutAt_append hnone rfl, rfl⟩

include hall hfraction in
theorem cutAt_exponent (before : List Char)
    (hbefore : ∀ c ∈ before, (c == 'e' || c == 'E') = false) :
    Text.cutAt (fun c => c == 'e' || c == 'E') (before ++ (digits ++ pointed fraction)) =
      (before ++ (digits ++ pointed fraction), none) := by
  have hdigit : ∀ c, Text.isDigit c = true → (c == 'e' || c == 'E') = false := fun c hc => by
    simp [Text.ne_of_isDigit hc (d := 'e') rfl, Text.ne_of_isDigit hc (d := 'E') rfl]
  refine Text.cutAt_none fun c hc => ?_
  rcases List.mem_append.mp hc with hc | hc
  · exact hbefore c hc
  · rcases List.mem_append.mp hc with hc | hc
    · exact hdigit c (List.all_eq_true.mp hall c hc)
    · rw [pointed] at hc
      split at hc
      · simp at hc
      · rcases List.mem_cons.mp hc with rfl | hc
        · rfl
        · exact hdigit c (List.all_eq_true.mp hfraction c hc)

theorem mem_signText {negative : Bool} {c : Char} (h : c ∈ signText negative) : c = '-' := by
  cases negative with
  | true => exact List.mem_singleton.mp h
  | false => simp [signText] at h

include hne hall hfraction

/-- A decimal keeps all digits, those behind the point as its scale. -/
theorem Decimal.ofChars?_pointed (negative : Bool) :
    ofChars? (signText negative ++ (digits ++ pointed fraction)) =
      some ⟨withSign negative (Text.decimalValue (digits ++ fraction)), fraction.length⟩ := by
  obtain ⟨part, hpoint, hpart⟩ := cutAt_pointed hall (signText negative) fraction
    fun c hc => mem_signText hc ▸ (by decide)
  have hexponent := cutAt_exponent hall hfraction (signText negative)
    fun c hc => mem_signText hc ▸ rfl
  have hsigned : signed? (signText negative ++ (digits ++ fraction)) =
      some (withSign negative (Text.decimalValue (digits ++ fraction))) :=
    signed?_digits (by simp [hne]) (by rw [List.all_append, hall, hfraction]; rfl) negative
  have hplaces : fraction.filter (· != '_') = fraction :=
    List.filter_eq_self.mpr fun c hc => bne_iff_ne.mpr
      (Text.ne_of_isDigit (List.all_eq_true.mp hfraction c hc) rfl)
  rw [ofChars?, hexponent]
  simp only [hpoint, hpart, hplaces, List.append_assoc, hsigned]
  rfl

/-- A double is the one nearest to the number that the digits denote. -/
theorem Double.ofChars?_pointed (negative : Bool) :
    ofChars? (signText negative ++ (digits ++ pointed fraction)) =
      some (ofDecimal negative (Text.decimalValue (digits ++ fraction)) (-(fraction.length : Int))) := by
  obtain ⟨part, hpoint, hpart⟩ := cutAt_pointed hall [] fraction (by simp)
  have hexponent := cutAt_exponent hall hfraction [] (by simp)
  have hdigits : ((digits ++ fraction).isEmpty || !(digits ++ fraction).all Text.isDigit) = false := by
    rw [List.all_append, hall, hfraction]
    simp [hne]
  obtain ⟨c, more, hfirst, hc, hminus, hplus, -⟩ := exists_digit hne hall
  obtain ⟨tail, hbody⟩ : ∃ tail, digits ++ pointed fraction = c :: tail :=
    ⟨more ++ pointed fraction, by rw [hfirst, List.cons_append]⟩
  rw [List.nil_append, List.nil_append, hbody] at hpoint
  rw [List.nil_append, hbody] at hexponent
  have hlower : Text.lower c = c := by
    rw [Text.isDigit_iff] at hc
    exact if_neg (Text.isUpper_iff.not.mpr (by omega))
  have hword : ∀ (d : Char) (word : List Char), Text.isDigit d = false →
      Text.lowerAll (c :: tail) ≠ d :: word := fun d word hd heq =>
    Text.ne_of_isDigit hc hd (hlower ▸ (List.cons.inj heq).1)
  have hinf : Text.lowerAll (c :: tail) ≠ "inf".toList := hword _ _ rfl
  have hinfinity : Text.lowerAll (c :: tail) ≠ "infinity".toList := hword _ _ rfl
  have hnan : Text.lowerAll (c :: tail) ≠ "nan".toList := hword _ _ rfl
  rw [hbody]
  cases negative with
  | true =>
    simp only [ofChars?, signText, if_true, List.cons_append, List.nil_append, hexponent, hpoint,
      hpart, hdigits, hinf, hinfinity, hnan, or_self, if_false, Bool.false_eq_true]
  | false =>
    simp only [ofChars?, signText, List.nil_append, List.cons.injEq, hminus, hplus, false_and,
      imp_self, implies_true, hexponent, hpoint, hpart, hdigits, hinf, hinfinity, hnan, or_self,
      if_false, Bool.false_eq_true]

end Pointed

end ListingGrid
