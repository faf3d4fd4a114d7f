import ListingGrid.Proofs.Grammar.Lexemes

/-!
# Reading numerals

The decimal text of a number is read as that number, within the bounds of the reader.
-/

set_option autoImplicit false

namespace ListingGrid

namespace Text

theorem isDigit_of_mem_decimalDigits {n : Nat} {c : Char} (h : c ∈ decimalDigits n) :
    isDigit c = true := by
  have hdigit := Nat.isDigit_of_mem_toDigits (by decide) (by decide) h
  rw [isDigit_iff]
  simpa [Char.isDigit, UInt32.le_iff_toNat_le] using hdigit

theorem decimalDigits_all (n : Nat) : (decimalDigits n).all isDigit = true :=
  List.all_eq_true.mpr fun _ hc => isDigit_of_mem_decimalDigits hc

theorem decimalDigits_ne_nil (n : Nat) : decimalDigits n ≠ [] := Nat.toDigits_ne_nil

theorem decimalValue_decimalDigits (n : Nat) : decimalValue (decimalDigits n) = n :=
  Nat.ofDigitChars_toDigits (by decide) (by decide)

theorem toList_integerText (i : Int) :
    (integerText i).toList =
      if i < 0 then '-' :: decimalDigits i.natAbs else decimalDigits i.natAbs := by
  cases i with
  | ofNat m => simp [integerText]
  | negSucc m => simp [integerText]

end Text

namespace Grammar

open ListingGrid.Grammar.Parser

variable {source w rest : List Char} {names : List String} {Next : List Token → Prop}

theorem digits_done (n : Nat) (hrest : Stops Text.isDigit rest) :
    digits (Text.decimalDigits n ++ rest) = .done (Text.decimalDigits n) rest :=
  takeWhile1_append (Text.decimalDigits_all n) (Text.decimalDigits_ne_nil n) hrest

theorem decimalDigits_head (n : Nat) :
    ∃ c others, Text.decimalDigits n = c :: others ∧ Text.isDigit c = true := by
  cases hdigits : Text.decimalDigits n with
  | nil => exact absurd hdigits (Text.decimalDigits_ne_nil n)
  | cons c others =>
    exact ⟨c, others, rfl, Text.isDigit_of_mem_decimalDigits (n := n) (by simp [hdigits])⟩

theorem begins_decimalDigits (n : Nat) : BeginsToken (Text.decimalDigits n) := by
  obtain ⟨c, others, hdigits, hc⟩ := decimalDigits_head n
  rw [hdigits]
  exact begins_of_isLeadChar (isLeadChar_of_isWordChar (Text.isWordChar_of_isDigit hc)) others

def naturalToken (n : Nat) : Token := .exact (Text.decimalDigits n)

def integerToken (i : Int) : Token := .exact (Text.integerText i).toList

theorem begins_integer (i : Int) : BeginsToken (Text.integerText i).toList := by
  rw [Text.toList_integerText]
  split
  · exact ⟨'-', rfl, by decide⟩
  · exact begins_decimalDigits _

theorem Reads.natural {n : Nat} (h : n < Nat.pow 2 32) :
    Reads source (Grammar.lexeme Grammar.natural) [naturalToken n] Next (Only n) := by
  refine Reads.exact (begins_decimalDigits n) fun rest hrest => ?_
  refine filterMap_eq_done.mpr ⟨_, digits_done n (hrest.stops_of (by decide)), ?_⟩
  rw [Text.decimalValue_decimalDigits]
  exact if_pos h

/-- An optional minus and digits, as they make up the text of an integer. -/
theorem sign_done (i : Int) {p : Parser Char} (hp : ∀ rest, p ('-' :: rest) = .done '-' rest)
    (hfails : ∀ c rest, Text.isDigit c = true → Fails p (c :: rest))
    (hrest : Stops Text.isDigit rest) :
    ∃ mid, optional p ((Text.integerText i).toList ++ rest) =
        .done (if i < 0 then some '-' else none) mid ∧
      digits mid = .done (Text.decimalDigits i.natAbs) rest := by
  refine ⟨Text.decimalDigits i.natAbs ++ rest, ?_, digits_done _ hrest⟩
  rw [Text.toList_integerText]
  split
  · exact optional_some (hp _)
  · obtain ⟨c, others, hdigits, hc⟩ := decimalDigits_head i.natAbs
    rw [hdigits]
    exact optional_none (hfails c _ hc)

theorem char_minus_fails (c : Char) (rest : List Char) (hc : Text.isDigit c = true) :
    Fails (char '-') (c :: rest) := by
  refine char_fails ?_
  intro hhead
  obtain rfl : c = '-' := by simpa using hhead
  revert hc
  decide

theorem Reads.integer {i : Int} (h : fitsInt64 i = true) :
    Reads source (Grammar.lexeme Grammar.integer) [integerToken i] Next (Only i) := by
  refine Reads.exact (begins_integer i) fun rest hrest => ?_
  obtain ⟨mid, hsign, hdigits⟩ := sign_done i (p := Parser.char '-') (fun _ => char_eq_done.mpr ⟨rfl, rfl⟩)
    char_minus_fails (hrest.stops_of (by decide))
  refine filterMap_eq_done.mpr
    ⟨(if i < 0 then some '-' else none, Text.decimalDigits i.natAbs), ?_, ?_⟩
  · exact bind_eq_done.mpr ⟨_, mid, hsign, bind_eq_done.mpr ⟨_, rest, hdigits, rfl⟩⟩
  · have hvalue : (if (if i < 0 then some '-' else none).isSome then -(i.natAbs : Int)
        else (i.natAbs : Int)) = i := by
      by_cases hneg : i < 0
      · simp only [if_pos hneg, Option.isSome_some, if_true]
        omega
      · simp only [if_neg hneg, Option.isSome_none, Bool.false_eq_true, if_false]
        omega
    simp only [Text.decimalValue_decimalDigits, hvalue, h, if_true]

theorem digits_misses (h : ∀ name ∈ names, name.toList.head?.all (fun c => !Text.isDigit c) = true)
    {name : String} (hname : name ∈ names) (hw : Text.lowerAll w = Text.lowerAll name.toList)
    (hrest : Apart rest) : Fails digits (w ++ rest) := by
  refine takeWhile1_fails (stops_of_lead Text.caseless_isDigit (by decide) (fun c hc => ?_) hw hrest)
  simpa [hc] using h name hname

theorem natural_misses
    (h : ∀ name ∈ names, name.toList.head?.all (fun c => !Text.isDigit c) = true) :
    Misses (lexeme natural) names :=
  lexeme_misses fun _ hname _ _ hw hrest => filterMap_fails (digits_misses h hname hw hrest)

theorem integer_misses
    (h : ∀ name ∈ names, name.toList.head?.all (fun c => !Text.isDigit c) = true)
    (hminus : ∀ name ∈ names, name.toList.head? ≠ some '-') : Misses (lexeme integer) names := by
  refine lexeme_misses fun name hname w rest hw hrest => filterMap_fails ?_
  have hsign : Fails (char '-') (w ++ rest) := by
    refine char_fails fun hc => ?_
    have hstops : Stops (· == '-') (w ++ rest) :=
      stops_of_lead (Text.caseless_beq rfl) (by decide) (fun c hc => ?_) hw hrest
    · simpa using hstops '-' hc
    · refine beq_eq_false_iff_ne.mpr ?_
      rintro rfl
      exact hminus name hname hc
  refine bind_fails.mpr (.inr ⟨none, _, optional_none hsign, bind_fails.mpr (.inl ?_)⟩)
  exact digits_misses h hname hw hrest

end Grammar

end ListingGrid
