import ListingGrid.Proofs.Formula.Characters

/-!
# What may follow a part of a formula

What a reader of one symbol meets behind it is blanks or the next symbol. A blank, an
operator, a comma or a parenthesis ends all that stands in front of it. So does a
comparison: its sign could only open a placeholder if letters and a closing bracket or a
colon followed it, and no operand begins like that.
-/

set_option autoImplicit false

namespace ListingGrid.Grammar.Formula

open ListingGrid.Grammar.Parser

variable {s t rest : List Char} {c : Char}

structure EndsAtom (rest : List Char) : Prop extends EndsAddress rest where
  point : rest.head? ≠ some '.'
  exclamation : rest.head? ≠ some '!'
  call : (skipBlank rest).head? ≠ some '('

structure EndsExpression (rest : List Char) : Prop extends EndsAtom rest where
  operator : ∀ c, (skipBlank rest).head? = some c → ¬IsOperator c

theorem endsAtom_of_apart (h : Apart rest) (hcall : (skipBlank rest).head? ≠ some '(') :
    EndsAtom rest where
  word := h.stops_of (by decide)
  dollar := h.head_ne (by decide)
  colon := h.head_ne (by decide)
  row := rowId_fails (h.stops_of (by decide)) (h.head_ne (by decide))
  point := h.head_ne (by decide)
  exclamation := h.head_ne (by decide)
  call := hcall

theorem endsExpression_of_blank (h : skipBlank rest = []) : EndsExpression rest := by
  have hapart : Apart rest := by
    intro c hc
    obtain ⟨more, rfl⟩ := List.head?_eq_some_iff.mp hc
    cases hblank : isBlank c with
    | true => exact .inl rfl
    | false =>
      refine .inr (Decidable.byContradiction fun hhash => ?_)
      simp [skipBlank_of_head hblank hhash] at h
  exact { endsAtom_of_apart hapart (by simp [h]) with operator := by simp [h] }

theorem EndsAtom.gap {gap : List Char} (h : EndsAtom rest) (hgap : Blanks gap) :
    EndsAtom (gap ++ rest) := by
  by_cases hne : gap = []
  · exact hne ▸ h
  · exact endsAtom_of_apart (hgap.apart hne rest) (by rw [hgap.skip]; exact h.call)

theorem EndsExpression.gap {gap : List Char} (h : EndsExpression rest) (hgap : Blanks gap) :
    EndsExpression (gap ++ rest) :=
  { h.toEndsAtom.gap hgap with operator := by rw [hgap.skip]; exact h.operator }

theorem endsAtom_of_head (hword : Text.isWordChar c = false)
    (hsign : c ≠ '$' ∧ c ≠ ':' ∧ c ≠ '.' ∧ c ≠ '!' ∧ c ≠ '(' ∧ c ≠ '#' ∧ c ≠ '<')
    (hblank : isBlank c = false) (more : List Char) : EndsAtom (c :: more) := by
  obtain ⟨hdollar, hcolon, hpoint, hexclamation, hcall, hhash, hopen⟩ := hsign
  have hdigit : Text.isDigit c = false := by
    simp only [Text.isWordChar, Text.isAlphanumeric, Bool.or_eq_false_iff] at hword
    exact hword.1.2
  exact {
    word := stops_cons hword
    dollar := by simpa using hdollar
    colon := by simpa using hcolon
    row := rowId_fails_of_head hdigit hopen
    point := by simpa using hpoint
    exclamation := by simpa using hexclamation
    call := by simpa [skipBlank_of_head hblank hhash] using hcall }

theorem endsAtom_operator (h : IsOperator c) (more : List Char) : EndsAtom (c :: more) := by
  rcases h with rfl | rfl | rfl | rfl <;> exact endsAtom_of_head (by decide) (by decide) rfl more

def IsClosing (c : Char) : Prop := c = ',' ∨ c = ')'

theorem endsExpression_closing (h : IsClosing c) (more : List Char) : EndsExpression (c :: more) := by
  have hblank : isBlank c = false ∧ c ≠ '#' := by rcases h with rfl | rfl <;> decide
  have hends : EndsAtom (c :: more) := by
    rcases h with rfl | rfl <;> exact endsAtom_of_head (by decide) (by decide) rfl more
  refine { hends with operator := ?_ }
  intro d hd
  rw [skipBlank_of_head hblank.1 hblank.2] at hd
  obtain rfl : c = d := by simpa using hd
  rcases h with rfl | rfl <;> simp [IsOperator]

/-- A text that can stand behind a comparison. It does not lengthen the sign, and its
letters in front are not followed as they are in a placeholder, which the sign could open. -/
def FollowsRelation (t : List Char) : Prop :=
  ∀ letters c rest, letters.all Text.isLetter = true → t = letters ++ c :: rest →
    c ≠ '>' ∧ c ≠ ':' ∧ c ≠ '='

theorem followsRelation_of_head (hletter : Text.isLetter c = false)
    (hc : c ≠ '>' ∧ c ≠ ':' ∧ c ≠ '=')
    (more : List Char) : FollowsRelation (c :: more) := by
  intro letters d rest hall hsplit
  cases letters with
  | nil =>
    obtain rfl : c = d := by simpa using (List.cons.inj hsplit).1
    exact hc
  | cons l others =>
    obtain rfl : c = l := by simpa using (List.cons.inj hsplit).1
    simp [hletter] at hall

theorem FollowsRelation.append (ht : ∀ d ∈ t, d ≠ '>' ∧ d ≠ ':' ∧ d ≠ '=') (h : FollowsRelation rest) :
    FollowsRelation (t ++ rest) := by
  induction t with
  | nil => exact h
  | cons d more ih =>
    obtain ⟨hd, hmore⟩ := List.forall_mem_cons.mp ht
    intro letters e behind hall hsplit
    cases letters with
    | nil =>
      obtain rfl : d = e := by simpa using (List.cons.inj hsplit).1
      exact hd
    | cons l others =>
      rw [List.all_cons, Bool.and_eq_true] at hall
      exact ih hmore others e behind hall.2 (List.cons.inj hsplit).2

def OpensNothing (t : List Char) : Prop :=
  ∀ letters d rest, letters ≠ [] → letters.all Text.isLetter = true → t = letters ++ d :: rest →
    d ≠ '>' ∧ d ≠ ':'

theorem FollowsRelation.opensNothing (h : FollowsRelation t) : OpensNothing t := by
  intro letters d rest _ hall hsplit
  obtain ⟨hclose, hcolon, -⟩ := h letters d rest hall hsplit
  exact ⟨hclose, hcolon⟩

theorem opensNothing_of_head (hletter : Text.isLetter c = false) (more : List Char) :
    OpensNothing (c :: more) := by
  intro letters d rest hne hall hsplit
  cases letters with
  | nil => exact absurd rfl hne
  | cons l others =>
    obtain rfl : c = l := (List.cons.inj hsplit).1
    simp [hletter] at hall

/-- No placeholder without an offset begins with an angle bracket that opens none. -/
theorem word_fails_of_open {name : List Char} (h : OpensNothing t) (hne : name ≠ [])
    (hname : name.all Text.isLetter = true) (hlower : Text.lowerAll name = name)
    (hplain : IsPlainWord ('<' :: name ++ ['>'])) :
    Fails (word ('<' :: name ++ ['>'])) ('<' :: t) := by
  refine word_fails hplain fun taken left hsplit hsame => ?_
  cases taken with
  | nil => simp [Text.lowerAll] at hsame
  | cons d more =>
    obtain ⟨rfl, rfl⟩ : '<' = d ∧ t = more ++ left := by simpa using hsplit
    have hmore : Text.lowerAll more = name ++ ['>'] := by
      have hbehind := (List.cons.inj hsame).2
      simp only [List.append_eq, List.map_append] at hbehind
      exact hbehind.trans (by rw [← Text.lowerAll, hlower]; rfl)
    obtain ⟨letters, rfl, hletters, hlength⟩ := Text.letters_of_lowerAll hname rfl hmore
    have hletters' : letters ≠ [] := by
      rintro rfl
      exact hne (List.length_eq_zero_iff.mp hlength.symm)
    exact (h letters '>' left hletters' hletters (by simp)).1 rfl

theorem relative_fails_of_open {name : List Char} (h : OpensNothing t) (hne : name ≠ [])
    (hname : name.all Text.isLetter = true) (hplain : IsPlainWord name) :
    Fails (relative name) ('<' :: t) := by
  refine bind_fails.mpr (.inr ⟨'<', t, char_eq_done.mpr ⟨rfl, rfl⟩, ?_⟩)
  rcases word_settles name t with ⟨taken, left, hdone⟩ | hfails
  · obtain ⟨rfl, hlower⟩ := (word_eq_done hplain).mp hdone
    have htaken : taken ≠ [] := by
      rintro rfl
      exact hne (List.length_eq_zero_iff.mp (Text.length_of_lowerAll hlower).symm)
    have hletters := (Text.caseless_isLetter.all hlower).trans hname
    have hnext : left.head? ≠ some '>' ∧ left.head? ≠ some ':' := by
      cases left with
      | nil => simp
      | cons d others => simpa using h taken d others htaken hletters rfl
    refine bind_fails.mpr (.inr ⟨taken, left, hdone, ?_⟩)
    refine bind_fails.mpr (.inr ⟨none, left, optional_none ?_, ?_⟩)
    · exact bind_fails.mpr (.inl (char_fails hnext.2))
    · exact bind_fails.mpr (.inl (char_fails hnext.1))
  · exact bind_fails.mpr (.inl hfails)

/-- No row begins with an angle bracket that opens no placeholder. -/
theorem rowId_fails_of_open (h : OpensNothing t) : Fails rowId ('<' :: t) := by
  refine firstOf_fails.mpr ⟨takeWhile1_fails (stops_cons rfl), ?_⟩
  simp only [List.forall_mem_cons, List.not_mem_nil, false_imp_iff, implies_true, and_true]
  have hrows : Fails (word ('<' :: "rows".toList ++ ['>'])) ('<' :: t) :=
    word_fails_of_open h (by decide) (by decide) (by decide) (by decide)
  have hstart : Fails (word ('<' :: "startrow".toList ++ ['>'])) ('<' :: t) :=
    word_fails_of_open h (by decide) (by decide) (by decide) (by decide)
  exact ⟨hrows, hstart, relative_fails_of_open h (by decide) (by decide) (by decide)⟩

theorem ne_of_isSheetChar (h : isSheetChar c = true) : c ≠ '>' ∧ c ≠ ':' ∧ c ≠ '=' := by
  refine ⟨?_, ?_, ?_⟩ <;> rintro rfl <;> revert h <;> decide

theorem IsName.followsRelation (h : IsName t) (hrest : FollowsRelation rest) :
    FollowsRelation (t ++ rest) :=
  .append (fun _ hd => ne_of_isSheetChar
    (isSheetChar_of_isWordChar (List.all_eq_true.mp h.all _ hd))) hrest

def EndsLetters (t : List Char) : Prop :=
  ∃ c, t.head? = some c ∧ Text.isLetter c = false ∧ c ≠ '>' ∧ c ≠ ':' ∧ c ≠ '='

theorem EndsLetters.followsRelation (h : EndsLetters t) (rest : List Char) :
    FollowsRelation (t ++ rest) := by
  obtain ⟨c, hc, hletter, hsign⟩ := h
  obtain ⟨more, rfl⟩ := List.head?_eq_some_iff.mp hc
  exact followsRelation_of_head hletter hsign _

theorem endsLetters_of_digit (h : Text.isDigit c = true) (more : List Char) :
    EndsLetters (c :: more) :=
  ⟨c, rfl, Text.isLetter_of_isDigit h, ne_of_isSheetChar (isSheetChar_of_isDigit h)⟩

theorem followsRelation_gap {gap : List Char} (hgap : Blanks gap) (h : FollowsRelation rest) :
    FollowsRelation (gap ++ rest) := by
  by_cases hne : gap = []
  · exact hne ▸ h
  · have hapart := hgap.apart hne rest
    obtain ⟨c, more, hsplit⟩ := List.exists_cons_of_ne_nil (List.append_ne_nil_of_left_ne_nil hne rest)
    rw [hsplit] at hapart ⊢
    have hne : ∀ d, d ∉ [' ', '\t', '\r', '\n', '#'] → c ≠ d := fun d hd heq =>
      hapart.head_ne hd (heq ▸ rfl)
    exact followsRelation_of_head (hapart.stops_of (by decide) c rfl)
      ⟨hne _ (by decide), hne _ (by decide), hne _ (by decide)⟩ more

theorem RowId.endsLetters (row : RowId) : EndsLetters row.text := by
  obtain ⟨c, more, hsplit, hc | rfl⟩ := row.head
  · exact hsplit ▸ endsLetters_of_digit hc more
  · exact ⟨'<', by rw [hsplit]; rfl, rfl, by decide⟩

theorem ColumnId.endsLetters (column : ColumnId) :
    column.text.all Text.isLetter = true ∨ EndsLetters column.text := by
  cases column with
  | letters run => exact .inl run.2.2
  | relative => exact .inr ⟨'<', rfl, rfl, by decide⟩

theorem CellRef.render_followsRelation {column : ColumnId → List Char} {row : RowId → List Char}
    (hcolumn : ∀ c, (column c).all Text.isLetter = true ∨ EndsLetters (column c))
    (hrow : ∀ r, EndsLetters (row r)) (ref : CellRef) (rest : List Char) :
    FollowsRelation (ref.render column row ++ rest) := by
  have hmark : ∀ more, FollowsRelation more → ∀ mark, FollowsRelation (markText mark ++ more) := by
    intro more hmore mark
    cases mark with
    | true => exact followsRelation_of_head rfl (by decide) _
    | false => exact hmore
  simp only [render, List.append_assoc]
  refine hmark _ ?_ _
  rcases hcolumn ref.column with hletters | hends
  · refine .append (fun d hd => ne_of_isSheetChar (isSheetChar_of_isWordChar
      (Text.isWordChar_of_isLetter (List.all_eq_true.mp hletters d hd)))) ?_
    exact hmark _ ((hrow ref.row).followsRelation rest) _
  · exact hends.followsRelation _

theorem CellRef.followsRelation : ∀ (ref : CellRef) (rest : List Char),
    FollowsRelation (ref.text ++ rest) :=
  render_followsRelation ColumnId.endsLetters RowId.endsLetters

theorem IsFunctionName.followsRelation (h : IsFunctionName t) (hrest : FollowsRelation rest) :
    FollowsRelation (t ++ rest) := by
  cases h with
  | name h => exact IsName.followsRelation h hrest
  | points h =>
    rw [List.append_assoc]
    exact IsName.followsRelation h (followsRelation_of_head rfl (by decide) _)

theorem Reference.render_followsRelation {cellText : CellRef → List Char}
    (hcell : ∀ ref rest, FollowsRelation (cellText ref ++ rest)) (target : Reference)
    (hrest : FollowsRelation rest) : FollowsRelation (target.render cellText ++ rest) := by
  have hbook : ∀ (book : {t : List Char // IsWorkbook t}) (more : List Char),
      FollowsRelation (book.1 ++ more) := fun book more =>
    EndsLetters.followsRelation ⟨'\'', book.2.head, rfl, by decide⟩ more
  cases target with
  | link book =>
    rw [render, List.append_assoc]
    exact hbook book _
  | plain target =>
    cases target with
    | range first =>
      simp only [render, Address.render, List.append_assoc]
      exact hcell first _
    | cell ref => exact hcell ref _
    | name name => exact IsName.followsRelation name.2.1 hrest
  | onSheet sheet =>
    rw [render, List.append_assoc]
    exact .append (fun d hd => ne_of_isSheetChar (List.all_eq_true.mp sheet.2.all d hd))
      (followsRelation_of_head rfl (by decide) _)
  | inBook book =>
    rw [render, List.append_assoc]
    exact hbook book _

theorem followsRelation_operator (h : IsOperator c) (more : List Char) : FollowsRelation (c :: more) := by
  rcases h with rfl | rfl | rfl | rfl <;> exact followsRelation_of_head rfl (by decide) more

theorem IsNumber.followsRelation (h : IsNumber t) (rest : List Char) : FollowsRelation (t ++ rest) := by
  obtain ⟨c, more, rfl, hc⟩ := h.head
  exact (endsLetters_of_digit hc more).followsRelation rest

variable {ps : List Placed}

theorem AtomOf.followsRelation (h : AtomOf ps) (hrest : FollowsRelation rest) :
    FollowsRelation (spell ps rest) := by
  cases h with
  | @reference p target h =>
    rw [spell, h]
    exact followsRelation_gap p.blanks (target.render_followsRelation CellRef.followsRelation hrest)
  | @number p digits h =>
    rw [spell, h]
    exact followsRelation_gap p.blanks (digits.2.followsRelation rest)
  | @call f o c arguments name hf ho =>
    rw [spell, hf, spell, ho]
    refine followsRelation_gap f.blanks (name.2.followsRelation (followsRelation_gap o.blanks ?_))
    exact followsRelation_of_head rfl (by decide) _
  | @nested o c e ho =>
    rw [spell, ho]
    exact followsRelation_gap o.blanks (followsRelation_of_head rfl (by decide) _)

theorem followsRelation_sign {p : Placed} {sign : {c : Char // IsOperator c}}
    (h : p.symbol = .operator sign) (ps : List Placed) (rest : List Char) :
    FollowsRelation (spell (p :: ps) rest) := by
  rw [spell, h]
  exact followsRelation_gap p.blanks (followsRelation_operator sign.2 _)

/-- Nothing that can be compared begins like the inside of a placeholder. -/
theorem Phrase.followsRelation (h : Phrase .operand (symbols ps)) (hrest : FollowsRelation rest) :
    FollowsRelation (spell ps rest) := by
  rcases h.cases_operand with h | ⟨p, body, rfl, hp⟩
  · rcases h.cases_expression with ⟨a, k, rfl, ha, hk⟩ | ⟨o, e, sign, rfl, ho, -⟩
    · rw [spell_append]
      refine ha.followsRelation ?_
      cases hk with
      | nil => exact hrest
      | more sign ho => exact followsRelation_sign ho _ _
    · exact followsRelation_sign ho _ _
  · rw [spell, hp]
    exact followsRelation_gap p.blanks (followsRelation_of_head rfl (by decide) _)

theorem followsRelation_closing (h : IsClosing c) (more : List Char) : FollowsRelation (c :: more) := by
  rcases h with rfl | rfl <;> exact followsRelation_of_head rfl (by decide) more

theorem endsExpression_relation {relation : List Char} (hrelation : relation ∈ relations)
    (h : FollowsRelation rest) : EndsExpression (relation ++ rest) := by
  have hopen : ∀ {more : List Char}, Fails rowId ('<' :: more) → EndsExpression ('<' :: more) :=
    fun hrow => {
      word := stops_cons rfl
      dollar := by simp
      colon := by simp
      row := hrow
      point := by simp
      exclamation := by simp
      call := by simp [skipBlank_of_head, isBlank]
      operator := by simp [skipBlank_of_head, isBlank, IsOperator] }
  have hother : ∀ {d : Char} (more : List Char), d = '>' ∨ d = '=' → EndsExpression (d :: more) := by
    intro d more hd
    rcases hd with rfl | rfl <;>
      exact { endsAtom_of_head (by decide) (by decide) rfl more with
        operator := by simp [skipBlank_of_head, isBlank, IsOperator] }
  simp only [relations, List.mem_cons, List.not_mem_nil, or_false] at hrelation
  rcases hrelation with rfl | rfl | rfl | rfl | rfl | rfl
  · exact hopen (rowId_fails_of_open (opensNothing_of_head rfl _))
  · exact hother _ (.inl rfl)
  · exact hopen (rowId_fails_of_open (opensNothing_of_head rfl _))
  · exact hother _ (.inr rfl)
  · exact hother _ (.inl rfl)
  · exact hopen (rowId_fails_of_open h.opensNothing)

end ListingGrid.Grammar.Formula
