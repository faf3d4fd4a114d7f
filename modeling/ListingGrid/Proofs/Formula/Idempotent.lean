import ListingGrid.Proofs.Formula.Reads
import ListingGrid.Proofs.Outcomes

/-!
# Normalization is idempotent

What the reader of formulas gives is read as it stands, unless it is the inside of a
quoted text: without its quotes, that may be anything.
-/

set_option autoImplicit false

namespace ListingGrid.Grammar

open ListingGrid.Grammar.Parser

namespace Formula

variable {s t rest : List Char}

inductive IsFormula : List Char → Prop where
  | number {t : List Char} (h : IsNumber t) : IsFormula t
  | negative {t : List Char} (h : IsNumber t) : IsFormula ('-' :: t)
  | expression {e : List Char} (h : Normal .expression e) : IsFormula ('=' :: e)

theorem gives_signedNumber : Gives signedNumber IsFormula := by
  refine gives_after fun sign => gives_bind gives_number fun n hn => gives_pure ?_
  split
  · exact .negative hn
  · exact .number hn

theorem gives_assigned : Gives (do
    let _ ← char '='
    let body ← firmly expression
    return '=' :: body) IsFormula :=
  gives_after fun _ => gives_bind (gives_firmly fun s => gives_expressionWithin _ s) fun _ he =>
    gives_pure (.expression he)

theorem formula_cases (h : formula s = .done t rest) :
    quoted (skipBlank s) = .done t rest ∨ IsFormula t := by
  rcases firstOf_eq_done.mp (label_eq_done.mp h) with hquoted | ⟨-, hothers⟩
  · exact .inl hquoted
  · right
    have hgives : Gives (firstOf signedNumber _) IsFormula :=
      gives_firstOf gives_signedNumber (List.forall_mem_singleton.mpr gives_assigned)
    exact hgives _ t rest hothers

theorem IsFormula.begins (h : IsFormula t) : BeginsToken t := by
  cases h with
  | number h =>
    obtain ⟨c, more, rfl, hc⟩ := h.head
    exact beginsToken_of_head (isSheetChar_of_isDigit hc)
  | negative => exact ⟨'-', rfl, rfl, by decide⟩
  | expression => exact ⟨'=', rfl, rfl, by decide⟩

theorem IsFormula.no_quote (h : IsFormula t) : (t ++ rest).head? ≠ some '"' := by
  cases h with
  | number h =>
    obtain ⟨c, more, rfl, hc⟩ := h.head
    intro heq
    obtain rfl : c = '"' := by simpa using heq
    revert hc
    decide
  | negative | expression => simp

theorem sign_fails {c : Char} (h : ['+', '-'].contains c = false) :
    optional (oneOf ['+', '-']) (c :: rest) = .done none (c :: rest) :=
  optional_none (satisfy_fails (stops_cons h))

theorem signedNumber_append (h : IsNumber t) (hrest : EndsExpression rest) :
    signedNumber (t ++ rest) = .done t rest ∧
      signedNumber ('-' :: (t ++ rest)) = .done ('-' :: t) rest := by
  have hread : number (t ++ rest) = .done t rest :=
    number_append h (Stops.mono hrest.word fun _ => Text.isWordChar_of_isDigit) hrest.point
  constructor
  · obtain ⟨c, more, rfl, hc⟩ := h.head
    have hsign := Text.not_sign_of_isDigit hc
    exact bind_eq_done.mpr ⟨none, _, sign_fails hsign, bind_eq_done.mpr ⟨_, rest, hread, rfl⟩⟩
  · refine bind_eq_done.mpr ⟨some '-', t ++ rest, optional_some ?_, ?_⟩
    · exact satisfy_eq_done.mpr ⟨rfl, rfl⟩
    · exact bind_eq_done.mpr ⟨t, rest, hread, rfl⟩

theorem signedNumber_fails (s : List Char) : Fails signedNumber ('=' :: s) := by
  refine bind_fails.mpr (.inr ⟨none, _, sign_fails rfl, ?_⟩)
  exact bind_fails.mpr (.inl (number_fails (stops_cons rfl)))

theorem formula_assigned (h : expression s = .done t rest) :
    formula ('=' :: s) = .done ('=' :: t) rest := by
  rw [formula, lexeme, skipBlank_of_head rfl (by decide)]
  have hquoted : Fails quoted ('=' :: s) := quoted_fails (by simp)
  refine label_eq_done.mpr (firstOf_done [_, _] rfl (by simp [hquoted, signedNumber_fails]) ?_)
  refine bind_eq_done.mpr ⟨'=', s, char_eq_done.mpr ⟨rfl, rfl⟩, ?_⟩
  exact bind_eq_done.mpr ⟨t, rest, firmly_eq_done.mpr h, rfl⟩

/-- A formula with an equals sign in front is that sign and an expression. -/
theorem assigned_of_formula (hs : (skipBlank s).head? = some '=') (h : formula s = .done t rest) :
    ∃ e, t = '=' :: e ∧ Normal .expression e := by
  obtain ⟨more, hskip⟩ := List.head?_eq_some_iff.mp hs
  rw [formula, lexeme, hskip] at h
  rcases firstOf_eq_done.mp (label_eq_done.mp h) with hquoted | ⟨-, hothers⟩
  · exact absurd hquoted (quoted_fails (by simp)).not_done
  · rcases firstOf_eq_done.mp hothers with hnumber | ⟨-, hassigned⟩
    · exact absurd hnumber (signedNumber_fails more).not_done
    · rcases firstOf_eq_done.mp hassigned with hassigned | ⟨-, hnever⟩
      · simp only [bind_eq_done, pure_eq_done, firmly_eq_done] at hassigned
        obtain ⟨_, _, -, e, _, he, rfl, -⟩ := hassigned
        exact ⟨e, rfl, gives_expressionWithin _ _ _ _ he⟩
      · exact hnever.elim

theorem formula_of_signedNumber (ht : BeginsToken t) (hquote : (t ++ rest).head? ≠ some '"')
    (h : signedNumber (t ++ rest) = .done t rest) : formula (t ++ rest) = .done t rest := by
  rw [formula, lexeme, (ht.append rest).skip]
  exact label_eq_done.mpr (firstOf_done [_] rfl (by simpa using quoted_fails hquote) h)

theorem formula_append (h : IsFormula t) (hrest : EndsExpression rest) :
    formula (t ++ rest) = .done t rest := by
  have hbegins := h.begins
  have hquote : (t ++ rest).head? ≠ some '"' := h.no_quote
  cases h with
  | number h => exact formula_of_signedNumber hbegins hquote (signedNumber_append h hrest).1
  | negative h => exact formula_of_signedNumber hbegins hquote (signedNumber_append h hrest).2
  | @expression e h =>
    have hlength : e.length < (e ++ rest).length + 1 := by
      rw [List.length_append]
      omega
    exact formula_assigned (expressionWithin_append _ h hlength hrest)

end Formula

open Formula

variable {text v : String}

/-- A formula is read when nothing but blanks stands behind what its reader takes. -/
theorem readFormula_eq_ok :
    readFormula text = .ok v ↔
      ∃ rest, formula text.toList = .done v.toList rest ∧ skipBlank rest = [] := by
  have hwhole : ∀ body, readAll .formula whole text.toList = .ok body ↔
      ∃ rest, formula text.toList = .done body rest ∧ skipBlank rest = [] := fun _ => readAll_eq_ok
  rw [← hwhole, readFormula]
  cases readAll .formula whole text.toList with
  | error e => simp [Except.map]
  | ok body =>
    simp only [Except.map, Except.ok.injEq]
    constructor
    · rintro rfl
      exact String.toList_ofList.symm
    · rintro rfl
      exact String.ofList_toList

theorem readFormula_of_isFormula (h : IsFormula v.toList) : readFormula v = .ok v := by
  refine readFormula_eq_ok.mpr ⟨[], ?_, rfl⟩
  have hends : EndsExpression [] := endsExpression_of_blank rfl
  have hread := formula_append h hends
  rwa [List.append_nil] at hread

/-- A formula that does not begin with a quoted text is accepted when it is normalized, and
normalizing it again changes nothing. -/
theorem readFormula_idempotent (hquote : (skipBlank text.toList).head? ≠ some '"')
    (h : readFormula text = .ok v) : readFormula v = .ok v := by
  obtain ⟨rest, hread, -⟩ := readFormula_eq_ok.mp h
  rcases formula_cases hread with hquoted | hformula
  · obtain ⟨hsplit, -⟩ := quoted_eq_done hquoted
    exact absurd (by simp [hsplit]) hquote
  · exact readFormula_of_isFormula hformula

/-- With its blanks gone, the minus belongs to the name of a sheet. -/
theorem readFormula_idempotent_minus :
    (skipBlank "= a1 - b!c2".toList).head? ≠ some '"' ∧
      readFormula "= a1 - b!c2" = .ok "=A1-b!C2" ∧ readFormula "=A1-b!C2" = .ok "=A1-b!C2" := by
  have hquote : (skipBlank "= a1 - b!c2".toList).head? ≠ some '"' := by decide
  have hvalue : (readFormula "= a1 - b!c2").toOption = some "=A1-b!C2" := by decide +kernel
  have hread : readFormula "= a1 - b!c2" = .ok "=A1-b!C2" := eq_ok_of_toOption hvalue
  exact ⟨hquote, hread, readFormula_idempotent hquote hread⟩

end ListingGrid.Grammar
