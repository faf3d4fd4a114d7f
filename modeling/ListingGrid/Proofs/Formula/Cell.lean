import ListingGrid.Grammar.Formula
import ListingGrid.Placeholder
import ListingGrid.Proofs.Grammar.Given
import ListingGrid.Proofs.Grammar.Words

/-!
# Cells and addresses of normalized formulas

What the readers of cells and addresses give has one form: capital letters, and an offset
in every placeholder. Letters and digits are a cell, and any other name is not read as one.
-/

set_option autoImplicit false

namespace ListingGrid.Grammar.Formula

open ListingGrid.Grammar.Parser

variable {s t rest : List Char}

structure IsDigits (t : List Char) : Prop where
  ne_nil : t ≠ []
  all : t.all Text.isDigit = true

inductive IsOffset : List Char → Prop where
  | plain {t : List Char} (h : IsDigits t) : IsOffset t
  | minus {t : List Char} (h : IsDigits t) : IsOffset ('-' :: t)

inductive IsColumn : List Char → Prop where
  | letters {t : List Char} (ne_nil : t ≠ []) (all : t.all Text.isUpper = true) : IsColumn t
  | relative {offset : List Char} (h : IsOffset offset) :
    IsColumn (Placeholder.columnOpening ++ offset ++ ['>'])

inductive IsRow : List Char → Prop where
  | digits {t : List Char} (h : IsDigits t) : IsRow t
  | rows : IsRow Placeholder.rowsMark
  | startRow : IsRow Placeholder.startRowMark
  | relative {offset : List Char} (h : IsOffset offset) :
    IsRow (Placeholder.rowOpening ++ offset ++ ['>'])

def IsMark (t : List Char) : Prop := t = [] ∨ t = ['$']

inductive IsCell : List Char → Prop where
  | mk {columnMark column rowMark row : List Char} (hcolumnMark : IsMark columnMark)
    (hcolumn : IsColumn column) (hrowMark : IsMark rowMark) (hrow : IsRow row) :
    IsCell (columnMark ++ column ++ rowMark ++ row)

def IsPlainCell (t : List Char) : Prop :=
  ∃ letters digits, letters ≠ [] ∧ letters.all Text.isLetter = true ∧ IsDigits digits ∧
    t = letters ++ digits

inductive IsAddress : List Char → Prop where
  | range {first last : List Char} (hfirst : IsCell first) (hlast : IsCell last) :
    IsAddress (first ++ ':' :: last)
  | cell {t : List Char} (h : IsCell t) : IsAddress t
  | name {t : List Char} (h : IsName t) (hcell : ¬IsPlainCell t) : IsAddress t

theorem gives_digits : Gives digits IsDigits := by
  intro s t rest h
  obtain ⟨-, hne, hall, -⟩ := takeWhile1_eq_done.mp h
  exact ⟨hne, hall⟩

theorem IsOffset.upperAll (h : IsOffset t) : Text.upperAll t = t := by
  have hdigits : ∀ {t : List Char}, IsDigits t → ∀ c ∈ t, Text.isLower c = false := fun h c hc =>
    Text.isLower_of_isDigit (List.all_eq_true.mp h.all c hc)
  apply Text.upperAll_of_not_lower
  cases h with
  | plain h => exact hdigits h
  | minus h => exact List.forall_mem_cons.mpr ⟨rfl, hdigits h⟩

theorem gives_relative (name : List Char) :
    Gives (relative name) fun t => ∃ offset, IsOffset offset ∧
      t = '<' :: name ++ ':' :: offset ++ ['>'] := by
  have hzero : IsOffset ['0'] := .plain ⟨by simp, by decide⟩
  refine gives_after fun _ => gives_after fun _ => gives_bind (gives_optional
    (P := IsOffset) (gives_after fun _ => gives_after fun sign => gives_bind gives_digits
      fun run hrun => gives_pure ?_)) fun offset hoffset => gives_after fun _ => gives_pure ?_
  · split
    · exact .minus hrun
    · exact .plain hrun
  · cases offset with
    | none => exact ⟨['0'], hzero, rfl⟩
    | some text => exact ⟨text, hoffset text rfl, rfl⟩

theorem gives_columnId : Gives columnId fun t => IsColumn (Text.upperAll t) := by
  refine gives_or ?_ (gives_mono (gives_relative _) ?_)
  · intro s t rest h
    obtain ⟨-, hne, hall, -⟩ := takeWhile1_eq_done.mp h
    refine .letters (by simpa [Text.upperAll] using hne) ?_
    rw [List.all_eq_true] at hall
    simpa [Text.upperAll] using fun c hc => Text.isUpper_upper (hall c hc)
  · rintro t ⟨offset, hoffset, rfl⟩
    have hrelative := IsColumn.relative hoffset
    rw [← hoffset.upperAll] at hrelative
    simpa [Text.upperAll, Placeholder.columnOpening, Text.upper, Text.isLower] using hrelative

theorem IsDigits.upperAll (h : IsDigits t) : Text.upperAll t = t := IsOffset.upperAll (.plain h)

theorem gives_word {text : List Char} (h : IsPlainWord text) :
    Gives (word text) fun t => Text.upperAll t = Text.upperAll text :=
  fun _ _ _ hread => Text.upperAll_eq_of_lowerAll ((word_eq_done h).mp hread).2

theorem gives_rowId : Gives rowId fun t => IsRow (Text.upperAll t) := by
  refine gives_firstOf (gives_mono gives_digits fun t h => ?_) ?_
  · exact h.upperAll.symm ▸ .digits h
  · simp only [List.forall_mem_cons, List.not_mem_nil, false_imp_iff, implies_true, and_true]
    refine ⟨gives_mono (gives_word (by decide)) fun t h => ?_,
      gives_mono (gives_word (by decide)) fun t h => ?_, gives_mono (gives_relative _) ?_⟩
    · exact h ▸ .rows
    · exact h ▸ .startRow
    · rintro t ⟨offset, hoffset, rfl⟩
      have hrelative := IsRow.relative hoffset
      rw [← hoffset.upperAll] at hrelative
      simpa [Text.upperAll, Placeholder.rowOpening, Text.upper, Text.isLower] using hrelative

theorem isMark_of_optional {s rest : List Char} {o : Option Char}
    (h : optional (char '$') s = .done o rest) : IsMark o.toList := by
  rcases optional_eq_done.mp h with ⟨c, rfl, hc⟩ | ⟨rfl, -, -⟩
  · obtain ⟨-, rfl⟩ := char_eq_done.mp hc
    exact .inr rfl
  · exact .inl rfl

theorem IsMark.upperAll (h : IsMark t) : Text.upperAll t = t := by
  rcases h with rfl | rfl <;> rfl

theorem gives_cell : Gives cell IsCell := by
  intro s t rest h
  simp only [cell, bind_eq_done, pure_eq_done] at h
  obtain ⟨columnMark, _, hcolumnMark, column, _, hcolumn, rowMark, _, hrowMark, row, _, hrow, _, _,
    -, rfl, rfl⟩ := h
  rw [Text.upperAll_append, Text.upperAll_append, Text.upperAll_append,
    (isMark_of_optional hcolumnMark).upperAll, (isMark_of_optional hrowMark).upperAll]
  exact .mk (isMark_of_optional hcolumnMark) (gives_columnId _ _ _ hcolumn)
    (isMark_of_optional hrowMark) (gives_rowId _ _ _ hrow)

theorem digits_append (h : IsDigits t) (hrest : Stops Text.isDigit rest) :
    digits (t ++ rest) = .done t rest :=
  takeWhile1_append h.all h.ne_nil hrest

theorem IsDigits.head (h : IsDigits t) : ∃ c more, t = c :: more ∧ Text.isDigit c = true := by
  cases t with
  | nil => exact absurd rfl h.ne_nil
  | cons c more => exact ⟨c, more, rfl, by simpa using (List.all_eq_true.mp h.all c (by simp))⟩

/-- What is in front of a text that begins with a character which is not accepted. -/
theorem rowId_fails (hdigit : Stops Text.isDigit s) (hopen : s.head? ≠ some '<') :
    Fails rowId s := by
  have hlower : ∀ d, s.head? = some d → Text.lower d ≠ Text.lower '<' := by
    intro d hd heq
    exact hopen (by rw [hd, Text.eq_of_lower rfl heq])
  refine firstOf_fails.mpr ⟨takeWhile1_fails hdigit, ?_⟩
  simp only [List.forall_mem_cons, List.not_mem_nil, false_imp_iff, implies_true, and_true]
  refine ⟨word_fails_of_head (by decide) hlower, word_fails_of_head (by decide) hlower, ?_⟩
  exact bind_fails.mpr (.inl (char_fails hopen))

theorem rowId_fails_of_head {c : Char} (hdigit : Text.isDigit c = false) (hopen : c ≠ '<') :
    Fails rowId (c :: rest) :=
  rowId_fails (stops_cons hdigit) (by simpa using hopen)

/-- A run of letters is read as a column, whatever its case. -/
theorem columnId_letters {letters : List Char} (hne : letters ≠ [])
    (hall : letters.all Text.isLetter = true) (hrest : Stops Text.isLetter rest) :
    columnId (letters ++ rest) = .done letters rest :=
  or_eq_done.mpr (.inl (takeWhile1_append hall hne hrest))

theorem ne_dollar_of_isWordChar {c : Char} (h : Text.isWordChar c = true) : c ≠ '$' := by
  rintro rfl
  simp [Text.isWordChar, Text.isAlphanumeric, Text.isLetter, Text.isLower, Text.isUpper,
    Text.isDigit] at h

structure EndsAddress (rest : List Char) : Prop where
  word : Stops Text.isWordChar rest
  dollar : rest.head? ≠ some '$'
  colon : rest.head? ≠ some ':'
  row : Fails rowId rest

/-- A text is its characters of some class in front and others behind. -/
theorem exists_run (accepts : Char → Bool) (t : List Char) :
    ∃ run left, t = run ++ left ∧ run.all accepts = true ∧ Stops accepts left := by
  refine ⟨t.takeWhile accepts, t.dropWhile accepts, ?_, List.all_takeWhile, fun c hc => ?_⟩
  · exact List.takeWhile_append_dropWhile.symm
  · have hhead := List.head?_dropWhile_not accepts t
    simpa [hc] using hhead

/-- No row is read from what follows the letters of a name. -/
theorem row_fails_of_name {left : List Char} (hleft : left.all Text.isWordChar = true)
    (hletter : Stops Text.isLetter left) (hdigits : ¬IsDigits left) (hrest : EndsAddress rest) :
    Fails (do
      let row ← rowId
      notFollowedBy Text.isWordChar
      return row) (left ++ rest) := by
  cases left with
  | nil => exact bind_fails.mpr (.inl hrest.row)
  | cons c more =>
    have hword := List.all_eq_true.mp hleft
    by_cases hc : Text.isDigit c = true
    · obtain ⟨run, behind, hsplit, hrun, hstops⟩ := exists_run Text.isDigit (c :: more)
      cases behind with
      | nil =>
        rw [List.append_nil] at hsplit
        subst hsplit
        exact absurd ⟨by simp, hrun⟩ hdigits
      | cons d others =>
        have hne : run ≠ [] := by
          rintro rfl
          obtain ⟨rfl, -⟩ : c = d ∧ _ := by simpa using hsplit
          simp [hstops c rfl] at hc
        have hd : Text.isWordChar d = true := hword d (by simp [hsplit])
        rw [hsplit, List.append_assoc]
        refine bind_fails.mpr (.inr ⟨run, (d :: others) ++ rest, firstOf_eq_done.mpr (.inl ?_), ?_⟩)
        · exact digits_append ⟨hne, hrun⟩ (stops_append hstops
            (Stops.mono hrest.word fun _ => Text.isWordChar_of_isDigit))
        · exact bind_fails.mpr (.inl (notFollowedBy_fails hd))
    · refine bind_fails.mpr (.inl (rowId_fails_of_head (by simpa using hc) ?_))
      rintro rfl
      exact absurd (hword '<' (by simp)) (by decide)

theorem cell_fails_of_name (h : IsName t) (hcell : ¬IsPlainCell t) (hrest : EndsAddress rest) :
    Fails cell (t ++ rest) := by
  obtain ⟨letters, left, rfl, hletters, hleft⟩ := exists_run Text.isLetter t
  have hall := h.all
  rw [List.all_append, Bool.and_eq_true] at hall
  have hdollar : ∀ {text : List Char}, text.all Text.isWordChar = true →
      (text ++ rest).head? ≠ some '$' := by
    intro text htext
    cases text with
    | nil => exact hrest.dollar
    | cons c more => simpa using ne_dollar_of_isWordChar (List.all_eq_true.mp htext c (by simp))
  have hstops := stops_append hleft
    (Stops.mono hrest.word fun _ => Text.isWordChar_of_isLetter)
  have hmark := optional_none (char_fails (hdollar h.all))
  refine bind_fails.mpr (.inr ⟨none, _, hmark, ?_⟩)
  rw [List.append_assoc]
  by_cases hne : letters = []
  · subst hne
    obtain ⟨c, hc, hstart⟩ := h.head
    obtain ⟨more, rfl⟩ := List.head?_eq_some_iff.mp hc
    have hopen : c ≠ '<' := by
      rintro rfl
      simp [startsName, Text.isLetter, Text.isLower, Text.isUpper] at hstart
    refine bind_fails.mpr (.inl (or_fails.mpr ⟨takeWhile1_fails hstops, ?_⟩))
    exact bind_fails.mpr (.inl (char_fails (by simpa using hopen)))
  · refine bind_fails.mpr (.inr ⟨letters, _, columnId_letters hne hletters hstops, ?_⟩)
    refine bind_fails.mpr (.inr ⟨none, _, optional_none (char_fails (hdollar hall.2)), ?_⟩)
    have hrow := row_fails_of_name hall.2 hleft
      (fun hdigits => hcell ⟨letters, left, hne, hletters, hdigits, rfl⟩) hrest
    rcases bind_fails.mp hrow with hrow | ⟨row, mid, hrow, hfollow⟩
    · exact bind_fails.mpr (.inl hrow)
    · refine bind_fails.mpr (.inr ⟨row, mid, hrow, bind_fails.mpr (.inl ?_)⟩)
      rcases bind_fails.mp hfollow with hfollow | ⟨u, mid', hdone, hnever⟩
      · exact hfollow
      · exact absurd rfl hnever.not_done

end ListingGrid.Grammar.Formula
