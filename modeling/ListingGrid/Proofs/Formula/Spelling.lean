import ListingGrid.Proofs.Formula.Idempotent

/-!
# Formulas in any spelling

The symbols of a formula may be set apart by any blanks. What is given is the symbols one
behind the other, each in its normalized form, unless a cell with no blank behind it
begins what reads as the name of a sheet.
-/

set_option autoImplicit false

namespace ListingGrid.Grammar

open ListingGrid.Grammar.Parser
open ListingGrid.Grammar.Formula

namespace Formula

variable {p : Placed} {ps : List Placed} {gap rest : List Char}

/-- No cell, and no other address, begins what reads as the name of a sheet. -/
def NoneInSheet (ps : List Placed) (rest : List Char) : Prop :=
  ∀ before p after target, ps = before ++ p :: after → p.symbol = .reference (.plain target) →
    beginsSheet (target.text ++ spell after rest) = false

theorem noneInSheet_nil : NoneInSheet [] rest := fun before _ _ _ hsplit =>
  absurd hsplit (by simp)

theorem noneInSheet_cons : NoneInSheet (p :: ps) rest ↔
    (∀ target, p.symbol = .reference (.plain target) →
      beginsSheet (target.text ++ spell ps rest) = false) ∧ NoneInSheet ps rest := by
  constructor
  · refine fun h => ⟨fun target => h [] p ps target rfl, fun before q after target hsplit => ?_⟩
    exact h (p :: before) q after target (by rw [hsplit, List.cons_append])
  · rintro ⟨hfirst, hmore⟩ before q after target hsplit
    cases before with
    | nil =>
      obtain ⟨rfl, rfl⟩ := List.cons.inj hsplit
      exact hfirst target
    | cons b before => exact hmore before q after target (List.cons.inj hsplit).2

/-- Symbols of which no sheet takes a part are given in their normalized form. -/
theorem shown_of_noneInSheet (h : NoneInSheet ps rest) :
    shown ps rest = (symbols ps).flatMap Symbol.normal := by
  induction ps with
  | nil => rfl
  | cons p ps ih =>
    obtain ⟨hfirst, hmore⟩ := noneInSheet_cons.mp h
    have hshown : p.symbol.shown (spell ps rest) = p.symbol.normal := by
      cases hp : p.symbol with
      | reference target =>
        cases target with
        | plain target =>
          rw [Symbol.shown, hfirst target hp, if_neg Bool.false_ne_true]
          rfl
        | _ => rfl
      | _ => rfl
    rw [shown, hshown, ih hmore]
    rfl

theorem formula_spell (hgap : Blanks gap) (he : Phrase .expression (symbols ps))
    (hrest : EndsExpression rest) :
    formula (gap ++ '=' :: spell ps rest) = .done ('=' :: shown ps rest) rest := by
  have hread : formula ('=' :: spell ps rest) = .done ('=' :: shown ps rest) rest := by
    refine formula_assigned (expressionWithin_spell _ he ?_ hrest)
    have hle := length_spell ps rest
    omega
  rw [formula, lexeme] at hread ⊢
  rwa [hgap.skip]

def difference {gap : List Char} (h : Blanks gap) : List Placed :=
  let column (t : List Char) (ht : t ≠ [] ∧ t.all Text.isLetter = true) : ColumnId := .letters ⟨t, ht⟩
  let row (t : List Char) (ht : IsDigits t) : RowId := .digits ⟨t, ht⟩
  [⟨[], .reference (.plain (.cell
      ⟨false, column ['a'] ⟨by simp, rfl⟩, false, row ['1'] ⟨by simp, rfl⟩⟩)), .none⟩,
    ⟨gap, .operator ⟨'-', .inr (.inl rfl)⟩, h⟩,
    ⟨gap, .reference (.onSheet ⟨['b'], ⟨by decide, by decide, rfl⟩⟩ (.cell
      ⟨false, column ['c'] ⟨by simp, rfl⟩, false, row ['2'] ⟨by simp, rfl⟩⟩)), h⟩]

theorem difference_phrase (h : Blanks gap) : Phrase .expression (symbols (difference h)) :=
  .joined (.reference _) _ (.atom (.reference _))

theorem blanks_comment : Blanks " # less\n".toList := by
  have hcomment : Blanks ('#' :: " less".toList ++ ['\n']) :=
    .comment (by simp) ⟨[], .inl rfl⟩ (.feed .none)
  exact .space (.inl rfl) hcomment

end Formula

variable {ps : List Placed} {gap last : List Char}

/-- An expression is accepted whatever blanks stand around its symbols. Where no sheet
takes a part of it, the blanks leave no trace. -/
theorem readFormula_spell (hgap : Blanks gap) (he : Phrase .expression (symbols ps))
    (hlast : skipBlank last = []) :
    readFormula (String.ofList (gap ++ '=' :: spell ps last)) =
        .ok (String.ofList ('=' :: shown ps last)) ∧
      (NoneInSheet ps last → shown ps last = (symbols ps).flatMap Symbol.normal) := by
  refine ⟨readFormula_eq_ok.mpr ⟨last, ?_, hlast⟩, shown_of_noneInSheet⟩
  rw [String.toList_ofList, String.toList_ofList]
  exact formula_spell hgap he (endsExpression_of_blank hlast)

/-- A blank or a comment in front of the minus sets the cell apart from the sheet. -/
theorem readFormula_spell_apart :
    NoneInSheet (difference blanks_comment) ['\n'] ∧
      readFormula "\t=a1 # less\n- # less\nb!c2\n" = .ok "=A1-b!C2" := by
  have hnone : NoneInSheet (difference blanks_comment) ['\n'] := by
    refine noneInSheet_cons.mpr ⟨?_, noneInSheet_cons.mpr ⟨?_, noneInSheet_cons.mpr ⟨?_, ?_⟩⟩⟩
    · rintro _ ⟨⟩
      decide
    · rintro _ ⟨⟩
    · rintro _ ⟨⟩
    · exact noneInSheet_nil
  have hlast : skipBlank ['\n'] = [] := rfl
  have hread := readFormula_spell (.space (.inr rfl) .none) (difference_phrase blanks_comment) hlast
  refine ⟨hnone, ?_⟩
  rw [hread.2 hnone] at hread
  exact hread.1

/-- With no blanks, the cell and the minus belong to the name of the sheet, and the cell is
not in upper case. -/
theorem readFormula_spell_touching :
    Phrase .expression (symbols (difference .none)) ∧
      symbols (difference .none) = symbols (difference blanks_comment) ∧
      (symbols (difference .none)).flatMap Symbol.normal = "A1-b!C2".toList ∧
      '=' :: spell (difference .none) [] = "=a1-b!c2".toList ∧
      '=' :: spell (difference blanks_comment) [] = "=a1 # less\n- # less\nb!c2".toList ∧
      (readFormula "=a1-b!c2").toOption = some "=a1-b!C2" ∧
      (readFormula "=a1 # less\n- # less\nb!c2").toOption = some "=A1-b!C2" :=
  ⟨difference_phrase .none, rfl, rfl, rfl, rfl, by decide +kernel, by decide +kernel⟩

end ListingGrid.Grammar
