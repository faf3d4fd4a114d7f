import ListingGrid.Proofs.Formula.Cell

/-!
# Cells and addresses as they are written

The letters of a cell may have any case, and the offset of a placeholder may have a plus
or be left out. Whatever way a cell or an address is written, its reader gives the
normalized form.
-/

set_option autoImplicit false

namespace ListingGrid.Grammar.Formula

open ListingGrid.Grammar.Parser

variable {rest : List Char}

abbrev Digits := {t : List Char // IsDigits t}

abbrev Spelled (name : List Char) := {t : List Char // Text.lowerAll t = Text.lowerAll name}

inductive Offset where
  | zero
  | plain (run : Digits)
  | plus (run : Digits)
  | minus (run : Digits)

namespace Offset

def text : Offset → List Char
  | zero => []
  | plain run => ':' :: run
  | plus run => ':' :: '+' :: run
  | minus run => ':' :: '-' :: run

def normal : Offset → List Char
  | zero => ['0']
  | plain run => run
  | plus run => run
  | minus run => '-' :: run

end Offset

inductive ColumnId where
  | letters (run : {t : List Char // t ≠ [] ∧ t.all Text.isLetter = true})
  | relative (word : Spelled "col".toList) (offset : Offset)

namespace ColumnId

def text : ColumnId → List Char
  | letters run => run
  | relative word offset => '<' :: word ++ offset.text ++ ['>']

def normal : ColumnId → List Char
  | letters run => Text.upperAll run
  | relative _ offset => Placeholder.columnOpening ++ offset.normal ++ ['>']

end ColumnId

inductive RowId where
  | digits (run : Digits)
  | rows (word : Spelled "<rows>".toList)
  | startRow (word : Spelled "<startrow>".toList)
  | relative (word : Spelled "row".toList) (offset : Offset)

namespace RowId

def text : RowId → List Char
  | digits run => run
  | rows word => word
  | startRow word => word
  | relative word offset => '<' :: word ++ offset.text ++ ['>']

def normal : RowId → List Char
  | digits run => run
  | rows _ => Placeholder.rowsMark
  | startRow _ => Placeholder.startRowMark
  | relative _ offset => Placeholder.rowOpening ++ offset.normal ++ ['>']

end RowId

structure CellRef where
  columnMark : Bool
  column : ColumnId
  rowMark : Bool
  row : RowId

def markText : Bool → List Char
  | true => ['$']
  | false => []

namespace CellRef

def render (column : ColumnId → List Char) (row : RowId → List Char) (ref : CellRef) : List Char :=
  markText ref.columnMark ++ (column ref.column ++ (markText ref.rowMark ++ row ref.row))

def text : CellRef → List Char := render ColumnId.text RowId.text

def normal : CellRef → List Char := render ColumnId.normal RowId.normal

end CellRef

inductive Address where
  | range (first last : CellRef)
  | cell (ref : CellRef)
  | name (text : {t : List Char // IsName t ∧ ¬IsPlainCell t})

namespace Address

def render (cellText : CellRef → List Char) : Address → List Char
  | range first last => cellText first ++ ':' :: cellText last
  | cell ref => cellText ref
  | name text => text

def text : Address → List Char := render CellRef.text

def normal : Address → List Char := render CellRef.normal

end Address

theorem isPlus_fails {run : Digits} (rest : List Char) :
    Fails (oneOf ['+', '-']) (run.1 ++ rest) := by
  obtain ⟨c, more, hrun, hc⟩ := run.2.head
  rw [hrun]
  exact satisfy_fails (stops_cons (Text.not_sign_of_isDigit hc))

/-- The reader of offsets, behind the name of a placeholder. -/
theorem Offset.reads (offset : Offset) (rest : List Char) : ∃ o, optional (do
      let _ ← char ':'
      let sign ← optional (oneOf ['+', '-'])
      let run ← Grammar.digits
      return if sign = some '-' then '-' :: run else run : Parser (List Char))
        (offset.text ++ '>' :: rest) = .done o ('>' :: rest) ∧ o.getD ['0'] = offset.normal := by
  have hdigits : ∀ run : Digits, Grammar.digits (run.1 ++ '>' :: rest) = .done run.1 ('>' :: rest) :=
    fun run => digits_append run.2 (stops_cons rfl)
  have hsign : ∀ {c : Char} (more : List Char), ['+', '-'].contains c = true →
      optional (oneOf ['+', '-']) (c :: more) = .done (some c) more := fun more hc =>
    optional_some (satisfy_eq_done.mpr ⟨rfl, hc⟩)
  have hcolon : ∀ more : List Char, char ':' (':' :: more) = .done ':' more := fun more =>
    char_eq_done.mpr ⟨rfl, rfl⟩
  cases offset with
  | zero =>
    exact ⟨none, optional_none (bind_fails.mpr (.inl (char_fails (by simp [text])))), rfl⟩
  | plain run =>
    refine ⟨some run, optional_some (bind_eq_done.mpr ⟨':', _, hcolon _, ?_⟩), rfl⟩
    refine bind_eq_done.mpr ⟨none, _, optional_none (isPlus_fails _), ?_⟩
    exact bind_eq_done.mpr ⟨run, _, hdigits run, rfl⟩
  | plus run =>
    refine ⟨some run, optional_some (bind_eq_done.mpr ⟨':', _, hcolon _, ?_⟩), rfl⟩
    refine bind_eq_done.mpr ⟨some '+', _, hsign _ (by decide), ?_⟩
    exact bind_eq_done.mpr ⟨run, _, hdigits run, rfl⟩
  | minus run =>
    refine ⟨some ('-' :: run.1), optional_some (bind_eq_done.mpr ⟨':', _, hcolon _, ?_⟩), rfl⟩
    refine bind_eq_done.mpr ⟨some '-', _, hsign _ (by decide), ?_⟩
    exact bind_eq_done.mpr ⟨run, _, hdigits run, rfl⟩

theorem relative_reads (name : List Char) (hname : IsPlainWord name) {word : List Char}
    (hword : Text.lowerAll word = Text.lowerAll name) (offset : Offset) (rest : List Char) :
    relative name ('<' :: word ++ offset.text ++ '>' :: rest) =
      .done ('<' :: name ++ ':' :: offset.normal ++ ['>']) rest := by
  obtain ⟨o, hoffset, hnormal⟩ := offset.reads rest
  rw [List.append_assoc]
  refine bind_eq_done.mpr ⟨'<', _, char_eq_done.mpr ⟨rfl, rfl⟩, ?_⟩
  refine bind_eq_done.mpr ⟨word, _, (word_eq_done hname).mpr ⟨rfl, hword⟩, ?_⟩
  refine bind_eq_done.mpr ⟨o, _, hoffset, bind_eq_done.mpr ⟨'>', rest, ?_, ?_⟩⟩
  · exact char_eq_done.mpr ⟨rfl, rfl⟩
  · rw [hnormal]
    rfl

theorem Offset.upperAll (offset : Offset) : Text.upperAll offset.normal = offset.normal := by
  cases offset with
  | zero => rfl
  | plain run => exact run.2.upperAll
  | plus run => exact run.2.upperAll
  | minus run => exact congrArg ('-' :: ·) run.2.upperAll

theorem ColumnId.reads (column : ColumnId) (hrest : Stops Text.isLetter rest) :
    ∃ t, columnId (column.text ++ rest) = .done t rest ∧ Text.upperAll t = column.normal := by
  cases column with
  | letters run =>
    exact ⟨run, or_eq_done.mpr (.inl (takeWhile1_append run.2.2 run.2.1 hrest)), rfl⟩
  | relative word offset =>
    have hread := relative_reads "col".toList (by decide) word.2 offset rest
    refine ⟨"<col:".toList ++ offset.normal ++ ['>'],
      or_eq_done.mpr (.inr ⟨takeWhile1_fails (stops_cons rfl), ?_⟩), ?_⟩
    · simpa [text] using hread
    · rw [Text.upperAll_append, Text.upperAll_append, offset.upperAll]
      rfl

/-- A word is not read from another one that is no shorter and does not begin with it. -/
theorem word_fails_of_spelled {text name : List Char} (htext : IsPlainWord text) (t : Spelled name)
    (h : ¬Text.lowerAll text <+: Text.lowerAll name) (hlength : text.length ≤ name.length)
    (rest : List Char) : Fails (word text) (t.1 ++ rest) := by
  refine word_fails htext fun taken left hsplit hsame => h ?_
  have htaken : taken <+: t.1 := by
    refine List.prefix_of_prefix_length_le ?_ (List.prefix_append t.1 rest) ?_
    · exact hsplit ▸ List.prefix_append taken left
    · rwa [Text.length_of_lowerAll hsame, Text.length_of_lowerAll t.2]
  rw [← hsame, ← t.2]
  exact List.IsPrefix.map Text.lower htaken

theorem Spelled.opens {name : List Char} (t : Spelled ('<' :: name)) : ∃ more, t.1 = '<' :: more := by
  obtain ⟨c, more, hsplit, hc, -⟩ := List.map_eq_cons_iff.mp t.2
  obtain rfl : c = '<' := Text.eq_of_lower rfl hc
  exact ⟨more, hsplit⟩

theorem Offset.head (offset : Offset) (rest : List Char) :
    ∃ c more, offset.text ++ '>' :: rest = c :: more ∧ (c = ':' ∨ c = '>') := by
  cases offset <;> exact ⟨_, _, rfl, by simp⟩

/-- A placeholder is no longer word that begins otherwise. -/
theorem word_fails_of_relative {name : List Char} (hname : IsPlainWord name)
    (hlength : 5 ≤ name.length)
    (hne : ¬"<row:".toList <+: Text.lowerAll name ∧ ¬"<row>".toList <+: Text.lowerAll name)
    (row : Spelled "row".toList) (offset : Offset) (rest : List Char) :
    Fails (word name) ('<' :: row ++ offset.text ++ '>' :: rest) := by
  obtain ⟨c, more, hsplit, hc⟩ := offset.head rest
  have hfront : '<' :: row.1 ++ offset.text ++ '>' :: rest = ('<' :: row.1 ++ [c]) ++ more := by
    simp [hsplit]
  have hlower : Text.lowerAll ('<' :: row.1 ++ [c]) = "<row".toList ++ [c] := by
    have hrow := row.2
    simp only [Text.lowerAll] at hrow
    rcases hc with rfl | rfl <;> simp [Text.lowerAll, hrow, Text.lower, Text.isUpper]
  have hsize : ('<' :: row.1 ++ [c]).length = 5 := by simpa using Text.length_of_lowerAll row.2
  rw [hfront]
  refine word_fails_of_front _ hname (by omega) ?_ more
  rw [hlower]
  rcases hc with rfl | rfl
  · exact hne.1
  · exact hne.2

theorem RowId.reads (row : RowId) (hrest : Stops Text.isDigit rest) :
    ∃ t, rowId (row.text ++ rest) = .done t rest ∧ Text.upperAll t = row.normal := by
  have hdigits : ∀ {name : List Char} (t : Spelled ('<' :: name)), Fails Grammar.digits (t.1 ++ rest) := by
    intro name t
    obtain ⟨more, ht⟩ := t.opens
    rw [ht]
    exact takeWhile1_fails (stops_cons rfl)
  unfold rowId
  cases row with
  | digits run => exact ⟨run, firstOf_eq_done.mpr (.inl (digits_append run.2 hrest)), run.2.upperAll⟩
  | rows word =>
    have hread : Parser.word "<rows>".toList (word.1 ++ rest) = .done word.1 rest :=
      (word_eq_done (by decide)).mpr ⟨rfl, word.2⟩
    exact ⟨word, firstOf_done [_] rfl (List.forall_mem_singleton.mpr (hdigits word)) hread,
      Text.upperAll_eq_of_lowerAll word.2⟩
  | startRow word =>
    have hrows : Fails (Parser.word "<rows>".toList) (word.1 ++ rest) :=
      word_fails_of_spelled (by decide) word (by decide) (by decide) rest
    have hread : Parser.word "<startrow>".toList (word.1 ++ rest) = .done word.1 rest :=
      (word_eq_done (by decide)).mpr ⟨rfl, word.2⟩
    have hfails : ∀ p ∈ [Grammar.digits, Parser.word "<rows>".toList], Fails p (word.1 ++ rest) :=
      List.forall_mem_cons.mpr ⟨hdigits word, List.forall_mem_singleton.mpr hrows⟩
    exact ⟨word, firstOf_done [_, _] rfl hfails hread, Text.upperAll_eq_of_lowerAll word.2⟩
  | relative word offset =>
    have hread := relative_reads "row".toList (by decide) word.2 offset rest
    have htext : (RowId.relative word offset).text ++ rest =
        '<' :: word ++ offset.text ++ '>' :: rest := by simp [text]
    rw [htext]
    refine ⟨"<row:".toList ++ offset.normal ++ ['>'],
      firstOf_eq_done.mpr (.inr ⟨takeWhile1_fails (stops_cons rfl), ?_⟩), ?_⟩
    · refine firstOf_eq_done.mpr (.inr ⟨?_, firstOf_eq_done.mpr (.inr ⟨?_, ?_⟩)⟩)
      · exact word_fails_of_relative (by decide) (by decide) (by decide) word offset rest
      · exact word_fails_of_relative (by decide) (by decide) (by decide) word offset rest
      · exact firstOf_eq_done.mpr (.inl hread)
    · rw [Text.upperAll_append, Text.upperAll_append, offset.upperAll]
      rfl

theorem ColumnId.head (column : ColumnId) :
    ∃ c more, column.text = c :: more ∧ (Text.isLetter c = true ∨ c = '<') := by
  cases column with
  | letters run =>
    obtain ⟨t, hne, hall⟩ := run
    cases t with
    | nil => exact absurd rfl hne
    | cons c more => exact ⟨c, more, rfl, .inl (List.all_eq_true.mp hall c (by simp))⟩
  | relative => exact ⟨'<', _, rfl, .inr rfl⟩

theorem RowId.head (row : RowId) :
    ∃ c more, row.text = c :: more ∧ (Text.isDigit c = true ∨ c = '<') := by
  cases row with
  | digits run =>
    obtain ⟨c, more, hrun, hc⟩ := run.2.head
    exact ⟨c, more, hrun, .inl hc⟩
  | rows word =>
    obtain ⟨more, hword⟩ := word.opens
    exact ⟨'<', more, hword, .inr rfl⟩
  | startRow word =>
    obtain ⟨more, hword⟩ := word.opens
    exact ⟨'<', more, hword, .inr rfl⟩
  | relative => exact ⟨'<', _, rfl, .inr rfl⟩

theorem mark_reads (mark : Bool) {rest : List Char} (hrest : rest.head? ≠ some '$') :
    ∃ o, optional (char '$') (markText mark ++ rest) = .done o rest ∧ o.toList = markText mark := by
  cases mark with
  | false => exact ⟨none, optional_none (char_fails hrest), rfl⟩
  | true => exact ⟨some '$', optional_some (char_eq_done.mpr ⟨rfl, rfl⟩), rfl⟩

theorem markText_upperAll (mark : Bool) : Text.upperAll (markText mark) = markText mark := by
  cases mark <;> rfl

theorem CellRef.reads (ref : CellRef) (hrest : Stops Text.isWordChar rest) :
    cell (ref.text ++ rest) = .done ref.normal rest := by
  obtain ⟨c, column, hc, hcolumnHead⟩ := ref.column.head
  obtain ⟨d, row, hd, hrowHead⟩ := ref.row.head
  have hletter : Stops Text.isLetter (markText ref.rowMark ++ (ref.row.text ++ rest)) := by
    cases ref.rowMark with
    | true => exact stops_cons rfl
    | false =>
      rw [hd]
      refine stops_cons ?_
      rcases hrowHead with hrowHead | rfl
      · exact Text.isLetter_of_isDigit hrowHead
      · rfl
  have hdigit : Stops Text.isDigit rest := Stops.mono hrest fun _ => Text.isWordChar_of_isDigit
  have hcolumnStart : (ref.column.text ++ (markText ref.rowMark ++ (ref.row.text ++ rest))).head? ≠
      some '$' := by
    rw [hc]
    rintro heq
    obtain rfl : c = '$' := by simpa using heq
    rcases hcolumnHead with h | h <;> revert h <;> decide
  have hrowStart : (ref.row.text ++ rest).head? ≠ some '$' := by
    rw [hd]
    rintro heq
    obtain rfl : d = '$' := by simpa using heq
    rcases hrowHead with h | h <;> revert h <;> decide
  obtain ⟨o, ho, hcolumnMark⟩ := mark_reads ref.columnMark hcolumnStart
  obtain ⟨first, hfirst, hcolumn⟩ := ref.column.reads hletter
  obtain ⟨o', ho', hrowMark⟩ := mark_reads ref.rowMark hrowStart
  obtain ⟨second, hsecond, hrow⟩ := ref.row.reads hdigit
  simp only [text, render, List.append_assoc]
  refine bind_eq_done.mpr ⟨o, _, ho, bind_eq_done.mpr ⟨first, _, hfirst, ?_⟩⟩
  refine bind_eq_done.mpr ⟨o', _, ho', bind_eq_done.mpr ⟨second, _, hsecond, ?_⟩⟩
  refine bind_eq_done.mpr ⟨(), rest, notFollowedBy_done hrest, pure_eq_done.mpr ⟨?_, rfl⟩⟩
  simp only [hcolumnMark, hrowMark, Text.upperAll_append, hcolumn, hrow, markText_upperAll, normal,
    render, List.append_assoc]

theorem Address.reads (target : Address) (hrest : EndsAddress rest) :
    address (target.text ++ rest) = .done target.normal rest := by
  cases target with
  | range first last =>
    refine firstOf_eq_done.mpr (.inl ?_)
    simp only [text, render, List.append_assoc]
    refine bind_eq_done.mpr ⟨first.normal, _, first.reads (stops_cons rfl), ?_⟩
    refine bind_eq_done.mpr ⟨':', last.text ++ rest, char_eq_done.mpr ⟨rfl, rfl⟩, ?_⟩
    exact bind_eq_done.mpr ⟨last.normal, rest, last.reads hrest.word, rfl⟩
  | cell ref =>
    have hread : Formula.cell (ref.text ++ rest) = .done ref.normal rest := ref.reads hrest.word
    have hrange : Fails Formula.range (ref.text ++ rest) :=
      bind_fails.mpr (.inr ⟨_, rest, hread, bind_fails.mpr (.inl (char_fails hrest.colon))⟩)
    exact firstOf_eq_done.mpr (.inr ⟨hrange, firstOf_eq_done.mpr (.inl hread)⟩)
  | name text =>
    have hread := cell_fails_of_name text.2.1 text.2.2 hrest
    refine firstOf_eq_done.mpr (.inr ⟨bind_fails.mpr (.inl hread), ?_⟩)
    refine firstOf_eq_done.mpr (.inr ⟨hread, firstOf_eq_done.mpr (.inl ?_)⟩)
    exact identifier_append text.2.1 hrest.word

theorem IsPlainCell.reads {t : List Char} (h : IsPlainCell t) (hrest : Stops Text.isWordChar rest) :
    cell (t ++ rest) = .done (Text.upperAll t) rest := by
  obtain ⟨letters, digits, hne, hletters, hdigits, rfl⟩ := h
  have hread := CellRef.reads
    ⟨false, .letters ⟨letters, hne, hletters⟩, false, .digits ⟨digits, hdigits⟩⟩ hrest
  simpa [CellRef.text, CellRef.normal, CellRef.render, markText, ColumnId.text, ColumnId.normal, RowId.text,
    RowId.normal, Text.upperAll_append, hdigits.upperAll] using hread

theorem gives_address : Gives address IsAddress := by
  intro s t rest h
  rcases firstOf_eq_done.mp h with hrange | ⟨-, h⟩
  · simp only [range, bind_eq_done, pure_eq_done, char_eq_done] at hrange
    obtain ⟨first, _, hfirst, _, _, ⟨-, rfl⟩, last, _, hlast, rfl, rfl⟩ := hrange
    exact .range (gives_cell _ _ _ hfirst) (gives_cell _ _ _ hlast)
  · rcases firstOf_eq_done.mp h with hcell | ⟨hcell, h⟩
    · exact .cell (gives_cell _ _ _ hcell)
    · rcases firstOf_eq_done.mp h with hname | ⟨-, hnever⟩
      · obtain ⟨rfl, hname, hrest⟩ := identifier_eq_done.mp hname
        refine .name hname fun hplain => ?_
        exact hcell.not_done (hplain.reads hrest)
      · exact hnever.elim

theorem IsOffset.written {t : List Char} (h : IsOffset t) :
    ∃ offset : Offset, offset.text = ':' :: t ∧ offset.normal = t := by
  cases h with
  | plain h => exact ⟨.plain ⟨_, h⟩, rfl, rfl⟩
  | minus h => exact ⟨.minus ⟨_, h⟩, rfl, rfl⟩

theorem IsColumn.written {t : List Char} (h : IsColumn t) :
    ∃ column : ColumnId, column.text = t ∧ column.normal = t := by
  cases h with
  | letters hne hall =>
    rw [List.all_eq_true] at hall
    refine ⟨.letters ⟨t, hne, ?_⟩, rfl, ?_⟩
    · exact List.all_eq_true.mpr fun c hc => Text.isLetter_of_isUpper (hall c hc)
    · exact Text.upperAll_of_not_lower fun c hc => Text.isLower_of_isUpper (hall c hc)
  | relative h =>
    obtain ⟨offset, htext, hnormal⟩ := h.written
    refine ⟨.relative ⟨"COL".toList, by decide⟩ offset, ?_, ?_⟩
    · simp [ColumnId.text, htext, Placeholder.columnOpening]
    · simp [ColumnId.normal, hnormal]

theorem IsRow.written {t : List Char} (h : IsRow t) : ∃ row : RowId, row.text = t ∧ row.normal = t := by
  cases h with
  | digits h => exact ⟨.digits ⟨t, h⟩, rfl, rfl⟩
  | rows => exact ⟨.rows ⟨Placeholder.rowsMark, by decide⟩, rfl, rfl⟩
  | startRow => exact ⟨.startRow ⟨Placeholder.startRowMark, by decide⟩, rfl, rfl⟩
  | relative h =>
    obtain ⟨offset, htext, hnormal⟩ := h.written
    refine ⟨.relative ⟨"ROW".toList, by decide⟩ offset, ?_, ?_⟩
    · simp [RowId.text, htext, Placeholder.rowOpening]
    · simp [RowId.normal, hnormal]

theorem IsMark.written {t : List Char} (h : IsMark t) : ∃ mark, markText mark = t := by
  rcases h with rfl | rfl
  · exact ⟨false, rfl⟩
  · exact ⟨true, rfl⟩

theorem IsCell.written {t : List Char} (h : IsCell t) :
    ∃ ref : CellRef, ref.text = t ∧ ref.normal = t := by
  obtain ⟨hcolumnMark, hcolumn, hrowMark, hrow⟩ := h
  obtain ⟨columnMark, rfl⟩ := hcolumnMark.written
  obtain ⟨column, htext, hnormal⟩ := hcolumn.written
  obtain ⟨rowMark, rfl⟩ := hrowMark.written
  obtain ⟨row, hrowText, hrowNormal⟩ := hrow.written
  refine ⟨⟨columnMark, column, rowMark, row⟩, ?_, ?_⟩
  · simp [CellRef.text, CellRef.render, htext, hrowText]
  · simp [CellRef.normal, CellRef.render, hnormal, hrowNormal]

theorem IsAddress.written {t : List Char} (h : IsAddress t) :
    ∃ target : Address, target.text = t ∧ target.normal = t := by
  cases h with
  | range hfirst hlast =>
    obtain ⟨first, hfirstText, hfirstNormal⟩ := hfirst.written
    obtain ⟨last, hlastText, hlastNormal⟩ := hlast.written
    refine ⟨.range first last, ?_, ?_⟩
    · simp [Address.text, Address.render, hfirstText, hlastText]
    · simp [Address.normal, Address.render, hfirstNormal, hlastNormal]
  | cell h =>
    obtain ⟨ref, htext, hnormal⟩ := h.written
    exact ⟨.cell ref, htext, hnormal⟩
  | name h hcell => exact ⟨.name ⟨t, h, hcell⟩, rfl, rfl⟩

end ListingGrid.Grammar.Formula
