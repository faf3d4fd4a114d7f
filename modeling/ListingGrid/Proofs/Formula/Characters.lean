import ListingGrid.Proofs.Formula.Phrase

/-!
# Characters of symbols

What the symbols of a formula begin with, and the characters that they are made of. No
symbol begins like a blank, and only placeholders and comparisons hold angle brackets.
-/

set_option autoImplicit false

namespace ListingGrid.Grammar.Formula

open ListingGrid.Grammar.Parser

variable {s t rest : List Char} {c : Char}

theorem isBlank_of_isSheetChar (h : isSheetChar c = true) : isBlank c = false ∧ c ≠ '#' := by
  constructor
  · cases hb : isBlank c with
    | false => rfl
    | true =>
      simp only [isBlank, Bool.or_eq_true, beq_iff_eq] at hb
      rcases hb with ((rfl | rfl) | rfl) | rfl <;> revert h <;> decide
  · rintro rfl
    revert h
    decide

theorem isSheetChar_of_isWordChar (h : Text.isWordChar c = true) : isSheetChar c = true := by
  rcases Text.isWordChar_iff.mp h with hc | rfl
  · simp [isSheetChar, hc]
  · rfl

theorem beginsToken_of_head {more : List Char} (h : isSheetChar c = true) :
    BeginsToken (c :: more) := ⟨c, rfl, isBlank_of_isSheetChar h⟩

theorem isSheetChar_of_isDigit (h : Text.isDigit c = true) : isSheetChar c = true :=
  isSheetChar_of_isWordChar (Text.isWordChar_of_isDigit h)

theorem isSheetChar_of_startsName (h : startsName c = true) : isSheetChar c = true :=
  isSheetChar_of_isWordChar (isWordChar_of_startsName h)

theorem begins_of_isName (h : IsName t) : BeginsToken t := by
  obtain ⟨c, hc, hstart⟩ := h.head
  exact ⟨c, hc, isBlank_of_isSheetChar (isSheetChar_of_startsName hstart)⟩

theorem IsSheetName.begins (h : IsSheetName t) : BeginsToken t := by
  obtain ⟨hleast, -, hall⟩ := h
  cases t with
  | nil => simp at hleast
  | cons c more => exact beginsToken_of_head (List.all_eq_true.mp hall c (by simp))

theorem IsWorkbook.begins (h : IsWorkbook t) : BeginsToken t := ⟨'\'', h.head, rfl, by decide⟩

theorem CellRef.begins (ref : CellRef) : BeginsToken ref.text := by
  obtain ⟨c, column, hc, hhead⟩ := ref.column.head
  unfold text render
  cases ref.columnMark with
  | true => exact ⟨'$', rfl, rfl, by decide⟩
  | false =>
    rw [hc]
    rcases hhead with hletter | rfl
    · exact beginsToken_of_head (isSheetChar_of_isWordChar (Text.isWordChar_of_isLetter hletter))
    · exact ⟨'<', rfl, rfl, by decide⟩

theorem Address.begins (target : Address) : BeginsToken target.text := by
  cases target with
  | range first last => exact first.begins.append _
  | cell ref => exact ref.begins
  | name text => exact begins_of_isName text.2.1

theorem Reference.begins (target : Reference) : BeginsToken target.text := by
  cases target with
  | link book => exact book.2.begins.append _
  | plain target => exact target.begins
  | onSheet sheet => exact sheet.2.begins.append _
  | inBook book => exact book.2.begins.append _

theorem IsFunctionName.begins (h : IsFunctionName t) : BeginsToken t := by
  cases h with
  | name h => exact begins_of_isName h
  | points h => exact (begins_of_isName h).append _

theorem IsNumber.head (h : IsNumber t) : ∃ c more, t = c :: more ∧ Text.isDigit c = true := by
  cases h with
  | whole h => exact h.head
  | fraction h =>
    obtain ⟨c, more, rfl, hc⟩ := h.head
    exact ⟨c, _, rfl, hc⟩

theorem begins_relation (h : t ∈ relations) : BeginsToken t := by
  simp only [relations, List.mem_cons, List.not_mem_nil, or_false] at h
  rcases h with rfl | rfl | rfl | rfl | rfl | rfl <;> exact ⟨_, rfl, rfl, by decide⟩

theorem begins_operator (h : IsOperator c) (rest : List Char) : BeginsToken (c :: rest) := by
  rcases h with rfl | rfl | rfl | rfl <;> exact ⟨_, rfl, rfl, by decide⟩

theorem Symbol.begins (symbol : Symbol) : BeginsToken symbol.text := by
  cases symbol with
  | number digits =>
    obtain ⟨c, more, hsplit, hc⟩ := digits.2.head
    rw [text, render, hsplit]
    exact beginsToken_of_head (isSheetChar_of_isDigit hc)
  | reference target => exact target.begins
  | function name => exact name.2.begins
  | quoted => exact ⟨'"', rfl, rfl, by decide⟩
  | relation sign => exact begins_relation sign.2
  | operator sign => exact begins_operator sign.2 []
  | opening => exact ⟨'(', rfl, rfl, by decide⟩
  | closing => exact ⟨')', rfl, rfl, by decide⟩
  | comma => exact ⟨',', rfl, rfl, by decide⟩

theorem skip_spell (p : Placed) (ps : List Placed) (rest : List Char) :
    skipBlank (spell (p :: ps) rest) = p.symbol.text ++ spell ps rest := by
  rw [spell, p.blanks.skip, (p.symbol.begins.append _).skip]

theorem skip_operator {o : Placed} {sign : {c : Char // IsOperator c}}
    (ho : o.symbol = .operator sign) (e : List Placed) (rest : List Char) :
    skipBlank (spell (o :: e) rest) = sign.1 :: spell e rest := by
  rw [skip_spell, ho]
  rfl

theorem not_mem_of_all {accepts : Char → Bool} (h : t.all accepts = true)
    (hc : accepts c = false) : c ∉ t := by
  intro hmem
  rw [List.all_eq_true.mp h c hmem] at hc
  cases hc

theorem head_ne_of_all {accepts : Char → Bool} (hne : t ≠ []) (h : t.all accepts = true)
    (hc : accepts c = false) : (t ++ rest).head? ≠ some c := by
  cases t with
  | nil => exact absurd rfl hne
  | cons d more =>
    intro heq
    obtain rfl : d = c := by simpa using heq
    exact not_mem_of_all h hc (by simp)

theorem IsSheetName.ne_nil (h : IsSheetName t) : t ≠ [] := by
  rintro rfl
  exact absurd h.least (by simp)

def isAddressChar (c : Char) : Bool := Text.isWordChar c || ['$', '<', '>', ':', '-', '+'].contains c

theorem all_addressChar {accepts : Char → Bool} (h : t.all accepts = true)
    (hle : ∀ c, accepts c = true → Text.isWordChar c = true) : t.all isAddressChar = true := by
  rw [List.all_eq_true] at h ⊢
  exact fun c hc => by simp [isAddressChar, hle c (h c hc)]

theorem caseless_isAddressChar : Text.Caseless isAddressChar :=
  Text.caseless_isWordChar.or (Text.caseless_contains (by decide))

theorem Spelled.addressChars {name : List Char} (word : Spelled name)
    (h : name.all isAddressChar = true) : word.1.all isAddressChar = true := by
  rwa [caseless_isAddressChar.all word.2]

theorem IsDigits.addressChars (h : IsDigits t) : t.all isAddressChar = true :=
  all_addressChar h.all fun _ => Text.isWordChar_of_isDigit

theorem Offset.addressChars (offset : Offset) : offset.text.all isAddressChar = true := by
  cases offset with
  | zero => rfl
  | plain run | plus run | minus run => simpa [text, isAddressChar] using run.2.addressChars

theorem ColumnId.addressChars (column : ColumnId) : column.text.all isAddressChar = true := by
  cases column with
  | letters run => exact all_addressChar run.2.2 fun _ => Text.isWordChar_of_isLetter
  | relative word offset =>
    rw [text, List.all_append, List.all_append, offset.addressChars, List.all_cons,
      word.addressChars (by decide)]
    decide

theorem RowId.addressChars (row : RowId) : row.text.all isAddressChar = true := by
  cases row with
  | digits run => exact run.2.addressChars
  | rows word => exact word.addressChars (by decide)
  | startRow word => exact word.addressChars (by decide)
  | relative word offset =>
    rw [text, List.all_append, List.all_append, offset.addressChars, List.all_cons,
      word.addressChars (by decide)]
    decide

theorem markText_addressChars (mark : Bool) : (markText mark).all isAddressChar = true := by
  cases mark <;> decide

theorem CellRef.addressChars (ref : CellRef) : ref.text.all isAddressChar = true := by
  rw [text, render, List.all_append, List.all_append, List.all_append, markText_addressChars,
    ref.column.addressChars, markText_addressChars, ref.row.addressChars]
  rfl

theorem Address.all (target : Address) : target.text.all isAddressChar = true := by
  cases target with
  | range first last =>
    rw [text, render, List.all_append, List.all_cons, first.addressChars, last.addressChars]
    decide
  | cell ref => exact ref.addressChars
  | name text => exact all_addressChar text.2.1.all fun _ hc => hc

def isPathChar (c : Char) : Bool :=
  Text.isWordChar c || ['.', '-', ':', '\'', '\\', '/'].contains c

theorem all_pathChar {accepts : Char → Bool} (h : t.all accepts = true)
    (hle : ∀ c, accepts c = true → isPathChar c = true) : t.all isPathChar = true := by
  rw [List.all_eq_true] at h ⊢
  exact fun c hc => hle c (h c hc)

theorem isPathChar_of_isWordChar (h : Text.isWordChar c = true) : isPathChar c = true := by
  simp [isPathChar, h]

theorem isPathChar_of_isHostChar (h : isHostChar c = true) : isPathChar c = true := by
  simp only [isHostChar, Bool.or_eq_true, beq_iff_eq] at h
  rcases h with ((h | rfl) | rfl) | rfl
  · exact isPathChar_of_isWordChar (by simp [Text.isWordChar, h])
  all_goals decide

theorem caseless_isPathChar : Text.Caseless isPathChar :=
  Text.caseless_isWordChar.or (Text.caseless_contains (by decide))

theorem IsDigits.pathChars (h : IsDigits t) : t.all isPathChar = true :=
  all_pathChar h.all fun _ hc => isPathChar_of_isWordChar (Text.isWordChar_of_isDigit hc)

theorem pathChars_of_isName (h : IsName t) : t.all isPathChar = true :=
  all_pathChar h.all fun _ => isPathChar_of_isWordChar

theorem IsNumber.pathChars (h : IsNumber t) : t.all isPathChar = true := by
  cases h with
  | whole h => exact h.pathChars
  | fraction h hfraction =>
    rw [List.all_append, List.all_cons, h.pathChars, hfraction.pathChars]
    rfl

theorem IsFunctionName.pathChars (h : IsFunctionName t) : t.all isPathChar = true := by
  induction h with
  | name h => exact pathChars_of_isName h
  | points h _ ih =>
    rw [List.all_append, List.all_cons, pathChars_of_isName h, ih]
    rfl

theorem IsSeparator.pathChar (h : IsSeparator c) : isPathChar c = true := by
  rcases h with rfl | rfl <;> decide

theorem IsOpening.pathChars (h : IsOpening t) : t.all isPathChar = true := by
  cases h with
  | backslashes | slashes => decide
  | scheme h =>
    have hword : Text.lowerAll _ = Text.lowerAll "smb:".toList := h
    rw [List.all_append, caseless_isPathChar.all hword]
    decide

theorem IsRoot.pathChars (h : IsRoot t) : t.all isPathChar = true := by
  cases h with
  | drive h =>
    rw [List.all_cons, isPathChar_of_isWordChar (Text.isWordChar_of_isLetter h)]
    decide
  | server hopening hhost hseparator hshare =>
    simp [hopening.pathChars, all_pathChar hhost.all fun _ => isPathChar_of_isHostChar,
      hseparator.pathChar, pathChars_of_isName hshare]

theorem IsFolders.pathChars (h : IsFolders t) : t.all isPathChar = true := by
  induction h with
  | none => rfl
  | more hname hseparator _ ih =>
    rw [List.all_append, List.all_cons, pathChars_of_isName hname, hseparator.pathChar, ih]
    rfl

theorem IsPath.pathChars (h : IsPath t) : t.all isPathChar = true := by
  cases h with
  | relative hseparator h =>
    rw [List.all_cons, hseparator.pathChar, h.pathChars]
    rfl
  | absolute hroot hseparator h =>
    rw [List.all_append, List.all_cons, hroot.pathChars, hseparator.pathChar, h.pathChars]
    rfl

theorem IsFileName.pathChars (h : IsFileName t) : t.all isPathChar = true := by
  cases h with
  | plain h => exact pathChars_of_isName h
  | dotted h hextension =>
    rw [List.all_append, List.all_cons, pathChars_of_isName h, pathChars_of_isName hextension]
    rfl

theorem IsWorkbook.pathChars (h : IsWorkbook t) : t.all isPathChar = true := by
  cases h with
  | name h =>
    rw [List.all_append, List.all_cons, h.pathChars]
    decide
  | path hpath h =>
    rw [List.all_append, List.all_append, List.all_cons, hpath.pathChars, h.pathChars]
    decide

end ListingGrid.Grammar.Formula
