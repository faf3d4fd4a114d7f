import ListingGrid.Proofs.Formula.Ends

/-!
# Formulas with their placeholders filled

Texts for the placeholders fill a formula symbol by symbol. A pass over a filled formula
that rewrites one placeholder fills the formula with other texts: what it rewrites begins
like the inside of a placeholder, and no operand of a comparison does.
-/

set_option autoImplicit false

namespace ListingGrid.Grammar.Formula

variable {t rest : List Char} {cellText : CellRef → List Char} {ts : List Symbol}

structure Fillings where
  startRow : List Char
  rows : List Char
  row : Offset → List Char
  column : Offset → List Char

def Fillings.marks : Fillings where
  startRow := Placeholder.startRowMark
  rows := Placeholder.rowsMark
  row offset := Placeholder.rowOpening ++ offset.normal ++ ['>']
  column offset := Placeholder.columnOpening ++ offset.normal ++ ['>']

def ColumnId.fill (e : Fillings) : ColumnId → List Char
  | letters run => Text.upperAll run
  | relative _ offset => e.column offset

def RowId.fill (e : Fillings) : RowId → List Char
  | digits run => run
  | rows _ => e.rows
  | startRow _ => e.startRow
  | relative _ offset => e.row offset

def CellRef.fill (e : Fillings) : CellRef → List Char := render (ColumnId.fill e) (RowId.fill e)

/-- A symbol with each of its placeholders replaced on its own. -/
def Symbol.fill (e : Fillings) : Symbol → List Char := render (CellRef.fill e)

namespace Symbol

variable (e : Fillings)

theorem fill_function (name : {t : List Char // IsFunctionName t}) :
    (function name).fill e = name := rfl

theorem fill_relation (sign : {t : List Char // t ∈ relations}) :
    (relation sign).fill e = sign := rfl

theorem fill_operator (sign : {c : Char // IsOperator c}) : (operator sign).fill e = [sign.1] := rfl

theorem fill_opening : opening.fill e = ['('] := rfl

theorem fill_closing : closing.fill e = [')'] := rfl

theorem fill_comma : comma.fill e = [','] := rfl

end Symbol

theorem Symbol.fill_marks : Symbol.fill .marks = Symbol.normal := by
  have hcolumn : ColumnId.fill .marks = ColumnId.normal := by
    funext column
    cases column <;> rfl
  have hrow : RowId.fill .marks = RowId.normal := by
    funext row
    cases row <;> rfl
  rw [Symbol.fill, CellRef.fill, hcolumn, hrow]
  rfl

structure Fillings.EndLetters (e : Fillings) : Prop where
  startRow : EndsLetters e.startRow
  rows : EndsLetters e.rows
  row : ∀ offset, EndsLetters (e.row offset)
  column : ∀ offset, EndsLetters (e.column offset)

theorem upperAll_letters (h : t.all Text.isLetter = true) :
    (Text.upperAll t).all Text.isLetter = true := by
  rw [List.all_eq_true] at h
  rw [Text.upperAll, List.all_map, List.all_eq_true]
  exact fun c hc => Text.isLetter_of_isUpper (Text.isUpper_upper (h c hc))

theorem CellRef.fill_followsRelation {e : Fillings} (he : e.EndLetters) :
    ∀ (ref : CellRef) (rest : List Char), FollowsRelation (ref.fill e ++ rest) := by
  refine render_followsRelation (fun column => ?_) (fun row => ?_)
  · cases column with
    | letters run => exact .inl (upperAll_letters run.2.2)
    | relative _ offset => exact .inr (he.column offset)
  · cases row with
    | digits run =>
      obtain ⟨c, more, hrun, hc⟩ := run.2.head
      rw [RowId.fill, hrun]
      exact endsLetters_of_digit hc more
    | rows => exact he.rows
    | startRow => exact he.startRow
    | relative _ offset => exact he.row offset

theorem Phrase.atom_followsRelation (hcell : ∀ ref rest, FollowsRelation (cellText ref ++ rest))
    (h : Phrase .atom ts) (hrest : FollowsRelation rest) :
    FollowsRelation (ts.flatMap (Symbol.render cellText) ++ rest) := by
  cases h with
  | reference target =>
    rw [List.flatMap_singleton]
    exact target.render_followsRelation hcell hrest
  | number digits =>
    rw [List.flatMap_singleton]
    exact digits.2.followsRelation rest
  | call name =>
    rw [List.flatMap_cons, List.append_assoc]
    exact name.2.followsRelation (followsRelation_of_head rfl (by decide) _)
  | nested => exact followsRelation_of_head rfl (by decide) _

/-- Nothing that can be compared begins like the inside of a placeholder, whatever way its
cells are written. -/
theorem Phrase.operand_followsRelation (hcell : ∀ ref rest, FollowsRelation (cellText ref ++ rest))
    (h : Phrase .operand ts) (hrest : FollowsRelation rest) :
    FollowsRelation (ts.flatMap (Symbol.render cellText) ++ rest) := by
  cases h with
  | plain h =>
    cases h with
    | atom h => exact h.atom_followsRelation hcell hrest
    | signed sign => exact followsRelation_operator sign.2 _
    | joined h sign =>
      rw [List.flatMap_append, List.append_assoc]
      exact h.atom_followsRelation hcell (followsRelation_operator sign.2 _)
  | quoted => exact followsRelation_of_head rfl (by decide) _

def OpensPlaceholder (opening : List Char) : Prop :=
  ∃ letters d, opening = '<' :: (letters ++ [d]) ∧ letters ≠ [] ∧
    letters.all Text.isLetter = true ∧ (d = '>' ∨ d = ':')

structure Rewrites (p : List Char → List Char) (opening : List Char) : Prop where
  opens : OpensPlaceholder opening
  nil : p [] = []
  kept : ∀ c rest, ¬opening <+: c :: rest → p (c :: rest) = c :: p rest

structure Refills (p : List Char → List Char) (e e' : Fillings) : Prop where
  startRow : ∀ rest, p (e.startRow ++ rest) = e'.startRow ++ p rest
  rows : ∀ rest, p (e.rows ++ rest) = e'.rows ++ p rest
  row : ∀ offset rest, p (e.row offset ++ rest) = e'.row offset ++ p rest
  column : ∀ offset rest, p (e.column offset ++ rest) = e'.column offset ++ p rest

namespace Rewrites

variable {p : List Char → List Char} {opening : List Char} {e e' : Fillings}

/-- An angle bracket that opens no placeholder is kept. -/
theorem sign (hp : Rewrites p opening) (h : OpensNothing rest) : p ('<' :: rest) = '<' :: p rest := by
  obtain ⟨letters, d, rfl, hne, hletters, hd⟩ := hp.opens
  refine hp.kept '<' rest fun ⟨behind, hprefix⟩ => ?_
  have hsplit : rest = letters ++ d :: behind := by simpa using (List.cons.inj hprefix).2.symm
  obtain ⟨hclose, hcolon⟩ := h letters d behind hne hletters hsplit
  exact hd.elim hclose hcolon

theorem char (hp : Rewrites p opening) {c : Char} (hc : c ≠ '<') (rest : List Char) :
    p (c :: rest) = c :: p rest := by
  obtain ⟨letters, d, rfl, -⟩ := hp.opens
  refine hp.kept c rest fun ⟨behind, hprefix⟩ => ?_
  exact hc (List.cons.inj hprefix).1.symm

theorem plain (hp : Rewrites p opening) (ht : '<' ∉ t) (rest : List Char) :
    p (t ++ rest) = t ++ p rest := by
  induction t with
  | nil => rfl
  | cons c t ih =>
    obtain ⟨hc, ht⟩ := not_or.mp (fun h => ht (List.mem_cons.mpr h))
    rw [List.cons_append, hp.char (Ne.symm hc), ih ht]
    rfl

theorem other (hp : Rewrites p opening) (h : ¬opening <+: '<' :: t ++ rest) (ht : '<' ∉ t) :
    p ('<' :: t ++ rest) = '<' :: t ++ p rest := by
  rw [List.cons_append] at h ⊢
  rw [hp.kept '<' _ h, hp.plain ht]
  rfl

theorem pathChars (hp : Rewrites p opening) (ht : t.all isPathChar = true) (rest : List Char) :
    p (t ++ rest) = t ++ p rest := hp.plain (not_mem_of_all ht rfl) rest

theorem mark (hp : Rewrites p opening) (m : Bool) (rest : List Char) :
    p (markText m ++ rest) = markText m ++ p rest :=
  hp.plain (by cases m <;> decide) rest

theorem cell (hp : Rewrites p opening) (hf : Refills p e e') (ref : CellRef) (rest : List Char) :
    p (ref.fill e ++ rest) = ref.fill e' ++ p rest := by
  have hcolumn : ∀ more, p (ref.column.fill e ++ more) = ref.column.fill e' ++ p more := by
    cases ref.column with
    | letters run =>
      exact hp.pathChars (all_pathChar (upperAll_letters run.2.2) fun _ hc =>
        isPathChar_of_isWordChar (Text.isWordChar_of_isLetter hc))
    | relative _ offset => exact hf.column offset
  have hrow : ∀ more, p (ref.row.fill e ++ more) = ref.row.fill e' ++ p more := by
    cases ref.row with
    | digits run => exact hp.pathChars run.2.pathChars
    | rows => exact hf.rows
    | startRow => exact hf.startRow
    | relative _ offset => exact hf.row offset
  simp only [CellRef.fill, CellRef.render, List.append_assoc, hp.mark, hcolumn, hrow]

theorem address (hp : Rewrites p opening) (hf : Refills p e e') (target : Address)
    (rest : List Char) : p (target.render (CellRef.fill e) ++ rest) =
      target.render (CellRef.fill e') ++ p rest := by
  cases target with
  | range first last =>
    simp only [Address.render, List.append_assoc, List.cons_append, hp.cell hf]
    rw [hp.char (by decide), hp.cell hf]
  | cell ref => exact hp.cell hf ref rest
  | name text => exact hp.pathChars (pathChars_of_isName text.2.1) rest

theorem reference (hp : Rewrites p opening) (hf : Refills p e e') (target : Reference)
    (rest : List Char) : p (target.render (CellRef.fill e) ++ rest) =
      target.render (CellRef.fill e') ++ p rest := by
  have hsheet : ∀ (sheet : {t : List Char // IsSheetName t}) (more : List Char),
      p (sheet.1 ++ '!' :: more) = sheet.1 ++ '!' :: p more := by
    intro sheet more
    rw [hp.plain (not_mem_of_all sheet.2.all rfl), hp.char (by decide)]
  have hbook : ∀ (book : {t : List Char // IsWorkbook t}) (more : List Char),
      p (book.1 ++ more) = book.1 ++ p more := fun book => hp.pathChars book.2.pathChars
  cases target with
  | link book name =>
    simp only [Reference.render, List.append_assoc, List.cons_append, hbook]
    rw [hp.char (by decide), hp.pathChars (pathChars_of_isName name.2)]
  | plain target => exact hp.address hf target rest
  | onSheet sheet target =>
    simp only [Reference.render, List.append_assoc, List.cons_append, hsheet, hp.address hf]
  | inBook book sheet target =>
    simp only [Reference.render, List.append_assoc, List.cons_append, hbook, hsheet, hp.address hf]

theorem relation (hp : Rewrites p opening) (ht : t ∈ relations) (h : FollowsRelation rest) :
    p (t ++ rest) = t ++ p rest := by
  have hopen : ∀ c, Text.isLetter c = false → c ≠ '<' → p ('<' :: c :: rest) = '<' :: c :: p rest := by
    intro c hletter hc
    rw [hp.sign (opensNothing_of_head hletter rest), hp.char hc]
  simp only [relations, List.mem_cons, List.not_mem_nil, or_false] at ht
  rcases ht with rfl | rfl | rfl | rfl | rfl | rfl
  · exact hopen '>' rfl (by decide)
  · exact hp.plain (by decide) rest
  · exact hopen '=' rfl (by decide)
  · exact hp.plain (by decide) rest
  · exact hp.plain (by decide) rest
  · exact hp.sign h.opensNothing

/-- A pass over a filled formula without quoted texts fills it with other texts. -/
theorem fill (hp : Rewrites p opening) (hf : Refills p e e') (he : e.EndLetters) {part : Part}
    (h : Phrase part ts) (hquoted : ∀ body, Symbol.quoted body ∉ ts)
    (hrest : part = .argument ∨ part = .arguments → FollowsRelation rest) :
    p (ts.flatMap (Symbol.fill e) ++ rest) = ts.flatMap (Symbol.fill e') ++ p rest := by
  have hoperator : ∀ (sign : {c : Char // IsOperator c}) (more : List Char),
      p (sign.1 :: more) = sign.1 :: p more := by
    intro sign more
    refine hp.char ?_ more
    rcases sign.2 with h | h | h | h <;> rw [h] <;> decide
  induction h generalizing rest with
  | reference target =>
    simp only [List.flatMap_singleton]
    exact hp.reference hf target rest
  | number digits =>
    simp only [List.flatMap_singleton]
    exact hp.pathChars digits.2.pathChars rest
  | call name _ ih =>
    simp only [List.flatMap_cons, List.flatMap_append, List.flatMap_nil, List.append_assoc,
      Symbol.fill_function, Symbol.fill_opening, Symbol.fill_closing, List.cons_append,
      List.nil_append]
    rw [hp.pathChars name.2.pathChars, hp.char (by decide), ih (fun body hb => hquoted body ?_)
      fun _ => followsRelation_closing (.inr rfl) rest, hp.char (by decide)]
    simp [hb]
  | nested _ ih =>
    simp only [List.flatMap_cons, List.flatMap_append, List.flatMap_nil, List.append_assoc,
      Symbol.fill_opening, Symbol.fill_closing, List.cons_append, List.nil_append]
    rw [hp.char (by decide), ih (fun body hb => hquoted body ?_) (by simp), hp.char (by decide)]
    simp [hb]
  | atom _ ih => exact ih hquoted (by simp)
  | signed sign _ _ ih =>
    simp only [List.flatMap_cons, Symbol.fill_operator, List.cons_append, List.nil_append]
    rw [hoperator, ih (fun body hb => hquoted body ?_) (by simp)]
    simp [hb]
  | joined _ sign _ iha ihe =>
    simp only [List.flatMap_cons, List.flatMap_append, List.append_assoc, Symbol.fill_operator,
      List.cons_append, List.nil_append]
    rw [iha (fun body hb => hquoted body (by simp [hb])) (by simp), hoperator,
      ihe (fun body hb => hquoted body (by simp [hb])) (by simp)]
  | plain _ ih => exact ih hquoted (by simp)
  | quoted body => exact absurd (List.mem_singleton.mpr rfl) (hquoted body)
  | single _ ih => exact ih hquoted (by simp)
  | @compared left right _ sign hright ihleft ihright =>
    have hfollows : FollowsRelation (right.flatMap (Symbol.fill e) ++ rest) :=
      hright.operand_followsRelation (CellRef.fill_followsRelation he) (hrest (.inl rfl))
    simp only [List.flatMap_cons, List.flatMap_append, List.append_assoc, Symbol.fill_relation]
    rw [ihleft (fun body hb => hquoted body (by simp [hb])) (by simp),
      hp.relation sign.2 hfollows, ihright (fun body hb => hquoted body (by simp [hb])) (by simp)]
  | none => rfl
  | last _ ih => exact ih hquoted fun _ => hrest (.inr rfl)
  | more _ _ _ iha ihothers =>
    simp only [List.flatMap_cons, List.flatMap_append, List.append_assoc, Symbol.fill_comma,
      List.cons_append, List.nil_append]
    rw [iha (fun body hb => hquoted body (by simp [hb]))
      fun _ => followsRelation_closing (.inl rfl) _, hp.char (by decide),
      ihothers (fun body hb => hquoted body (by simp [hb])) fun _ => hrest (.inr rfl)]

theorem assigned (hp : Rewrites p opening) (hf : Refills p e e') (he : e.EndLetters)
    (h : Phrase .expression ts) (hquoted : ∀ body, Symbol.quoted body ∉ ts) :
    p ('=' :: ts.flatMap (Symbol.fill e)) = '=' :: ts.flatMap (Symbol.fill e') := by
  have hfill : p (ts.flatMap (Symbol.fill e) ++ []) = ts.flatMap (Symbol.fill e') ++ p [] :=
    hp.fill hf he h hquoted (by simp)
  rw [hp.nil, List.append_nil, List.append_nil] at hfill
  rw [hp.char (by decide), hfill]

end Rewrites

end ListingGrid.Grammar.Formula
