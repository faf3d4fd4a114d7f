import ListingGrid.Number.Builtin
import ListingGrid.Proofs.Number.Reading
import ListingGrid.Proofs.Pattern.Words

/-!
# Numerals

A numeral is a number as the format of a tag prints it: a sign, digits that may stand in groups of
three, and digits behind a decimal mark. The pattern of a tag matches the texts of its numerals and
no others.
-/

set_option autoImplicit false

namespace ListingGrid

/-- The digits in front of a decimal mark. Where a separator is given, there are up to three of
them and then groups of three. -/
structure Whole (separator : Option Char) where
  lead : List Char
  groups : List (List Char)
  lead_ne : lead ≠ []
  lead_digits : lead.all Text.isDigit = true
  lead_length : separator ≠ none → lead.length ≤ 3
  groups_none : separator = none → groups = []
  groups_length : ∀ group ∈ groups, group.length = 3
  groups_digits : ∀ group ∈ groups, group.all Text.isDigit = true

/-- The digits behind a decimal mark, none where there is no mark. -/
structure Fraction (mark : Option Char) where
  digits : List Char
  all_digits : digits.all Text.isDigit = true
  digits_none : mark = none → digits = []

structure Numeral (tag : NumericTag) where
  negative : Bool
  whole : Whole tag.thousands
  fraction : Fraction tag.decimalMark

namespace Whole

variable {separator : Option Char}

def text (n : Whole separator) : List Char :=
  n.lead ++ n.groups.flatMap fun group => separator.toList ++ group

def digits (n : Whole separator) : List Char := n.lead ++ n.groups.flatten

theorem digits_ne (n : Whole separator) : n.digits ≠ [] := by
  simp [digits, n.lead_ne]

theorem all_digits (n : Whole separator) : n.digits.all Text.isDigit = true := by
  rw [digits, List.all_append, n.lead_digits, Bool.true_and, List.all_eq_true]
  intro c hc
  obtain ⟨group, hgroup, hc⟩ := List.mem_flatten.mp hc
  exact List.all_eq_true.mp (n.groups_digits group hgroup) c hc

end Whole

def Fraction.text {mark : Option Char} (f : Fraction mark) : List Char :=
  if f.digits = [] then [] else mark.toList ++ f.digits

namespace Numeral

variable {tag : NumericTag}

def text (n : Numeral tag) : List Char :=
  signText n.negative ++ (n.whole.text ++ n.fraction.text)

theorem text_ne (n : Numeral tag) : n.text ≠ [] := by
  simp [text, Whole.text, n.whole.lead_ne]

end Numeral

namespace Pattern

theorem contains_digit (c : Char) :
    (CharSet.range '0'.toNat '9'.toNat).contains c = Text.isDigit c := by
  rw [Bool.eq_iff_iff, Text.isDigit_iff]
  simp only [CharSet.contains, CharSet.range, CharSet.holds]
  split
  · next h =>
    have h : c.toNat < 48 := h
    simp only [Bool.false_eq_true, false_iff]
    omega
  · next h =>
    have h : ¬c.toNat < 48 := h
    simp only [Bool.or_false, decide_eq_true_eq]
    change c.toNat ≤ 57 ↔ _
    omega

def digitWord : Language Char := {w | ∃ c, Text.isDigit c = true ∧ w = [c]}

theorem mem_digitWord_pow {n : Nat} {w : List Char} :
    w ∈ digitWord ^ n ↔ w.length = n ∧ w.all Text.isDigit = true := by
  induction n generalizing w with
  | zero =>
    rw [pow_zero, Language.mem_one, List.length_eq_zero_iff]
    constructor
    · rintro rfl
      exact ⟨rfl, rfl⟩
    · exact And.left
  | succ n ih =>
    rw [pow_succ', Language.mem_mul]
    constructor
    · rintro ⟨a, ⟨c, hc, rfl⟩, b, hb, rfl⟩
      obtain ⟨hlength, hall⟩ := ih.mp hb
      exact ⟨by simp [hlength], Bool.and_eq_true_iff.mpr ⟨hc, hall⟩⟩
    · rintro ⟨hlength, hall⟩
      obtain ⟨c, rest, rfl⟩ := List.exists_cons_of_length_eq_add_one hlength
      obtain ⟨hc, hrest⟩ := Bool.and_eq_true_iff.mp hall
      exact ⟨[c], ⟨c, hc, rfl⟩, rest, ih.mpr ⟨by simpa using hlength, hrest⟩, rfl⟩

theorem mem_digitWords {least : Nat} {most : Option Nat} {w : List Char} :
    w ∈ repeatedWords digitWord least most ↔
      least ≤ w.length ∧ (∀ m ∈ most, w.length ≤ max least m) ∧ w.all Text.isDigit = true := by
  constructor
  · rintro ⟨n, hleast, hmost, hw⟩
    obtain ⟨rfl, hall⟩ := mem_digitWord_pow.mp hw
    exact ⟨hleast, hmost, hall⟩
  · rintro ⟨hleast, hmost, hall⟩
    exact ⟨w.length, hleast, hmost, mem_digitWord_pow.mpr ⟨rfl, hall⟩⟩

theorem mem_optionalWords {L : Language Char} {w : List Char} :
    w ∈ repeatedWords L 0 (some 1) ↔ w = [] ∨ w ∈ L := by
  constructor
  · rintro ⟨n, -, hmost, hw⟩
    have hn : n ≤ 1 := hmost 1 rfl
    obtain rfl | rfl : n = 0 ∨ n = 1 := by omega
    · exact .inl ((Language.mem_one w).mp (pow_zero L ▸ hw))
    · exact .inr (pow_one L ▸ hw)
  · rintro (rfl | hw)
    · exact ⟨0, Nat.le_refl 0, by simp, by simp⟩
    · exact ⟨1, Nat.zero_le 1, by simp, (pow_one L).symm ▸ hw⟩

theorem mem_repeatedWords_behind {c : Char} {L : Language Char} {w : List Char} :
    w ∈ repeatedWords ({[c]} * L) 0 none ↔
      ∃ words : List (List Char), (∀ word ∈ words, word ∈ L) ∧ w = words.flatMap (c :: ·) := by
  have hbehind : ∀ {x : List Char}, x ∈ ({[c]} : Language Char) * L ↔ ∃ word ∈ L, x = c :: word := by
    intro x
    rw [Language.mem_mul]
    constructor
    · rintro ⟨a, ha, word, hword, rfl⟩
      obtain rfl : a = [c] := ha
      exact ⟨word, hword, rfl⟩
    · rintro ⟨word, hword, rfl⟩
      exact ⟨[c], rfl, word, hword, rfl⟩
  constructor
  · rintro ⟨n, -, -, hw⟩
    obtain ⟨parts, rfl, -, hparts⟩ := Language.mem_pow.mp hw
    clear hw
    induction parts with
    | nil => exact ⟨[], by simp, rfl⟩
    | cons part more ih =>
      obtain ⟨word, hword, rfl⟩ := hbehind.mp (hparts part (by simp))
      obtain ⟨words, hwords, hmore⟩ := ih fun x hx => hparts x (by simp [hx])
      exact ⟨word :: words, by simpa using ⟨hword, hwords⟩, by simp [hmore]⟩
  · rintro ⟨words, hwords, rfl⟩
    refine ⟨words.length, Nat.zero_le _, by simp, Language.mem_pow.mpr
      ⟨words.map (c :: ·), List.flatMap_def .., by simp, fun x hx => ?_⟩⟩
    obtain ⟨word, hword, rfl⟩ := List.mem_map.mp hx
    exact hbehind.mpr ⟨word, hwords word hword, rfl⟩

end Pattern

namespace NumericTag

open Pattern

def wholeWords : Option Char → Language Char
  | none => repeatedWords digitWord 1 none
  | some c => repeatedWords digitWord 1 (some 3) *
      repeatedWords ({[c]} * repeatedWords digitWord 3 (some 3)) 0 none

def fractionWords : Option Char → Language Char
  | none => 1
  | some c => repeatedWords ({[c]} * repeatedWords digitWord 1 none) 0 (some 1)

def words (tag : NumericTag) : Language Char :=
  repeatedWords {['-']} 0 (some 1) * (wholeWords tag.thousands * fractionWords tag.decimalMark)

theorem describes_digits (least : Nat) (most : Option Nat) :
    Describes (digits least most) (repeatedWords digitWord least most) := by
  have hdigit : Describes digit digitWord := by
    have hchars := describes_chars (.range '0'.toNat '9'.toNat)
    simp only [contains_digit] at hchars
    exact hchars
  exact hdigit.repeated least most true

theorem describes_single {p : Pattern} {L : Language Char} (h : Describes p L) :
    Describes (inOrder [p]) L := by
  simpa using h.inOrder_cons describes_inOrder_nil

theorem describes_wholeParts (separator : Option Char) :
    Describes (inOrder (wholeParts separator)) (wholeWords separator) := by
  cases separator with
  | none => exact describes_single (describes_digits 1 none)
  | some c =>
    refine (describes_digits 1 (some 3)).inOrder_cons (describes_single ?_)
    exact ((describes_literal [c]).seq (describes_digits 3 (some 3))).repeated 0 none true

theorem describes_fractionParts (mark : Option Char) :
    Describes (inOrder (fractionParts mark)) (fractionWords mark) := by
  cases mark with
  | none => exact describes_inOrder_nil
  | some c =>
    refine describes_single ?_
    exact ((describes_literal [c]).seq (describes_digits 1 none)).repeated 0 (some 1) true

theorem isMatch_compiled (tag : NumericTag) (w : List Char) :
    tag.compiled.isMatch w = true ↔ w ∈ tag.words := by
  have hsign : Describes (optional (.literal ['-'])) (repeatedWords {['-']} 0 (some 1)) :=
    (describes_literal ['-']).repeated 0 (some 1) true
  have hparts := hsign.inOrder_cons
    ((describes_wholeParts tag.thousands).inOrder_append (describes_fractionParts tag.decimalMark))
  rw [words, ← isMatch_whole hparts, compiled]
  simp

theorem mem_wholeWords {separator : Option Char} {w : List Char} :
    w ∈ wholeWords separator ↔ ∃ n : Whole separator, n.text = w := by
  cases separator with
  | none =>
    rw [wholeWords, mem_digitWords]
    constructor
    · rintro ⟨hlength, -, hall⟩
      have hne : w ≠ [] := List.ne_nil_of_length_pos hlength
      exact ⟨⟨w, [], hne, hall, by simp, fun _ => rfl, by simp, by simp⟩, by simp [Whole.text]⟩
    · rintro ⟨n, rfl⟩
      have htext : n.text = n.lead := by simp [Whole.text, n.groups_none rfl]
      rw [htext]
      exact ⟨List.length_pos_iff.mpr n.lead_ne, by simp, n.lead_digits⟩
  | some c =>
    rw [wholeWords, Language.mem_mul]
    constructor
    · rintro ⟨lead, hlead, rest, hrest, rfl⟩
      obtain ⟨hpos, hthree, hall⟩ := mem_digitWords.mp hlead
      obtain ⟨groups, hgroups, rfl⟩ := mem_repeatedWords_behind.mp hrest
      refine ⟨⟨lead, groups, List.ne_nil_of_length_pos hpos, hall, fun _ => hthree 3 rfl,
        by simp, fun group hg => ?_, fun group hg => (mem_digitWords.mp (hgroups group hg)).2.2⟩,
        rfl⟩
      obtain ⟨hleast, hmost, -⟩ := mem_digitWords.mp (hgroups group hg)
      exact Nat.le_antisymm (hmost 3 rfl) hleast
    · rintro ⟨n, rfl⟩
      refine ⟨n.lead, mem_digitWords.mpr ⟨List.length_pos_iff.mpr n.lead_ne, ?_, n.lead_digits⟩, _,
        mem_repeatedWords_behind.mpr ⟨n.groups, fun group hg => ?_, rfl⟩, rfl⟩
      · rintro m hm
        rw [← Option.some.inj hm]
        exact n.lead_length (by simp)
      · have hlength := n.groups_length group hg
        refine mem_digitWords.mpr ⟨Nat.le_of_eq hlength.symm, ?_, n.groups_digits group hg⟩
        rintro m hm
        rw [← Option.some.inj hm]
        exact Nat.le_of_eq hlength

theorem mem_fractionWords {mark : Option Char} {w : List Char} :
    w ∈ fractionWords mark ↔ ∃ f : Fraction mark, f.text = w := by
  cases mark with
  | none =>
    rw [fractionWords, Language.mem_one]
    constructor
    · rintro rfl
      exact ⟨⟨[], rfl, fun _ => rfl⟩, rfl⟩
    · rintro ⟨f, rfl⟩
      exact if_pos (f.digits_none rfl)
  | some c =>
    rw [fractionWords, mem_optionalWords, Language.mem_mul]
    constructor
    · rintro (rfl | ⟨a, ha, digits, hdigits, rfl⟩)
      · exact ⟨⟨[], rfl, by simp⟩, rfl⟩
      · obtain rfl : a = [c] := ha
        obtain ⟨hpos, -, hall⟩ := mem_digitWords.mp hdigits
        exact ⟨⟨digits, hall, by simp⟩, if_neg (List.ne_nil_of_length_pos hpos)⟩
    · rintro ⟨f, rfl⟩
      by_cases hdigits : f.digits = []
      · exact .inl (if_pos hdigits)
      · refine .inr ⟨[c], rfl, f.digits, mem_digitWords.mpr ⟨?_, by simp, f.all_digits⟩, ?_⟩
        · exact List.length_pos_iff.mpr hdigits
        · exact (if_neg hdigits).symm

/-- The pattern of a tag matches the texts of its numerals. -/
theorem isMatch_iff_numeral (tag : NumericTag) (w : List Char) :
    tag.compiled.isMatch w = true ↔ ∃ n : Numeral tag, n.text = w := by
  rw [isMatch_compiled, words, Language.mem_mul]
  simp only [Language.mem_mul, mem_optionalWords, mem_wholeWords, mem_fractionWords]
  constructor
  · rintro ⟨sign, hsign, -, ⟨-, ⟨whole, rfl⟩, -, ⟨fraction, rfl⟩, rfl⟩, rfl⟩
    rcases hsign with rfl | hsign
    · exact ⟨⟨false, whole, fraction⟩, rfl⟩
    · obtain rfl : sign = ['-'] := hsign
      exact ⟨⟨true, whole, fraction⟩, rfl⟩
  · rintro ⟨⟨negative, whole, fraction⟩, rfl⟩
    refine ⟨signText negative, ?_, _,
      ⟨_, ⟨whole, rfl⟩, _, ⟨fraction, rfl⟩, rfl⟩, rfl⟩
    cases negative with
    | false => exact .inl rfl
    | true => exact .inr rfl

end NumericTag

end ListingGrid
