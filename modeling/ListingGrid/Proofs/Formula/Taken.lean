import ListingGrid.Proofs.Formula.Atoms

/-!
# What the readers of atoms take

Cells, numbers, sheets and the names of functions are taken as they are written, and what
is left does not go on with them.
-/

set_option autoImplicit false

namespace ListingGrid.Grammar.Formula

open ListingGrid.Grammar.Parser

variable {s t rest : List Char}

theorem offset_taken {o : Option (List Char)} (h : optional (do
      let _ ← char ':'
      let sign ← optional (oneOf ['+', '-'])
      let run ← Grammar.digits
      return if sign = some '-' then '-' :: run else run : Parser (List Char)) s = .done o rest) :
    ∃ offset : Offset, s = offset.text ++ rest := by
  rcases optional_eq_done.mp h with ⟨t, -, h⟩ | ⟨-, rfl, -⟩
  · simp only [bind_eq_done, pure_eq_done] at h
    obtain ⟨_, behind, hcolon, sign, mid, hsign, run, last, hrun, -, rfl⟩ := h
    obtain ⟨rfl, -⟩ := char_eq_done.mp hcolon
    obtain ⟨rfl, hne, hall, -⟩ := takeWhile1_eq_done.mp hrun
    rcases optional_eq_done.mp hsign with ⟨c, -, hc⟩ | ⟨-, rfl, -⟩
    · obtain ⟨rfl, hsignChar⟩ := satisfy_eq_done.mp hc
      rcases (by simpa using hsignChar : c = '+' ∨ c = '-') with rfl | rfl
      · exact ⟨.plus ⟨run, hne, hall⟩, rfl⟩
      · exact ⟨.minus ⟨run, hne, hall⟩, rfl⟩
    · exact ⟨.plain ⟨run, hne, hall⟩, rfl⟩
  · exact ⟨.zero, rfl⟩

theorem relative_taken {name : List Char} (hname : IsPlainWord name)
    (h : relative name s = .done t rest) : ∃ (word : Spelled name) (offset : Offset),
      s = '<' :: word ++ offset.text ++ ['>'] ++ rest := by
  simp only [relative, bind_eq_done, pure_eq_done] at h
  obtain ⟨_, behind, hopen, word, mid, hword, o, last, hoffset, _, left, hclose, -, rfl⟩ := h
  obtain ⟨rfl, -⟩ := char_eq_done.mp hopen
  obtain ⟨rfl, hlower⟩ := (word_eq_done hname).mp hword
  obtain ⟨offset, rfl⟩ := offset_taken hoffset
  obtain ⟨rfl, -⟩ := char_eq_done.mp hclose
  exact ⟨⟨word, hlower⟩, offset, by simp⟩

theorem columnId_taken (h : columnId s = .done t rest) :
    ∃ column : ColumnId, s = column.text ++ rest := by
  rcases or_eq_done.mp h with h | ⟨-, h⟩
  · obtain ⟨rfl, hne, hall, -⟩ := takeWhile1_eq_done.mp h
    exact ⟨.letters ⟨t, hne, hall⟩, rfl⟩
  · obtain ⟨word, offset, rfl⟩ := relative_taken (by decide) h
    exact ⟨.relative word offset, rfl⟩

theorem rowId_taken (h : rowId s = .done t rest) : ∃ row : RowId, s = row.text ++ rest := by
  rcases firstOf_eq_done.mp h with h | ⟨-, h⟩
  · obtain ⟨rfl, hne, hall, -⟩ := takeWhile1_eq_done.mp h
    exact ⟨.digits ⟨t, hne, hall⟩, rfl⟩
  rcases firstOf_eq_done.mp h with h | ⟨-, h⟩
  · obtain ⟨rfl, hlower⟩ := (word_eq_done (by decide)).mp h
    exact ⟨.rows ⟨t, hlower⟩, rfl⟩
  rcases firstOf_eq_done.mp h with h | ⟨-, h⟩
  · obtain ⟨rfl, hlower⟩ := (word_eq_done (by decide)).mp h
    exact ⟨.startRow ⟨t, hlower⟩, rfl⟩
  rcases firstOf_eq_done.mp h with h | ⟨-, h⟩
  · obtain ⟨word, offset, rfl⟩ := relative_taken (by decide) h
    exact ⟨.relative word offset, rfl⟩
  · exact h.elim

theorem mark_taken {o : Option Char} (h : optional (char '$') s = .done o rest) :
    ∃ mark, s = markText mark ++ rest := by
  rcases optional_eq_done.mp h with ⟨c, -, hc⟩ | ⟨-, rfl, -⟩
  · obtain ⟨rfl, -⟩ := char_eq_done.mp hc
    exact ⟨true, rfl⟩
  · exact ⟨false, rfl⟩

/-- A cell is read from one as it is written, and from nothing else. -/
theorem cell_eq_done : cell s = .done t rest ↔
    ∃ ref : CellRef, s = ref.text ++ rest ∧ t = ref.normal ∧ Stops Text.isWordChar rest := by
  constructor
  · intro h
    have hread := h
    simp only [cell, bind_eq_done, pure_eq_done] at h
    obtain ⟨_, _, hcolumnMark, _, _, hcolumn, _, _, hrowMark, _, behind, hrow, _, _, hstops, -, rfl⟩ := h
    obtain ⟨columnMark, rfl⟩ := mark_taken hcolumnMark
    obtain ⟨column, rfl⟩ := columnId_taken hcolumn
    obtain ⟨rowMark, rfl⟩ := mark_taken hrowMark
    obtain ⟨row, rfl⟩ := rowId_taken hrow
    obtain ⟨rfl, hstops⟩ := stops_of_notFollowedBy hstops
    have hsplit : markText columnMark ++ (column.text ++ (markText rowMark ++ (row.text ++ behind))) =
        CellRef.text ⟨columnMark, column, rowMark, row⟩ ++ behind := by
      simp [CellRef.text, CellRef.render]
    rw [hsplit, CellRef.reads _ hstops, Result.done.injEq] at hread
    exact ⟨_, hsplit, hread.1.symm, hstops⟩
  · rintro ⟨ref, rfl, rfl, hstops⟩
    exact ref.reads hstops

theorem cell_settles : Settles cell := by
  have hoffset : Settles (do
      let _ ← char ':'
      let sign ← optional (oneOf ['+', '-'])
      let run ← Grammar.digits
      return if sign = some '-' then '-' :: run else run : Parser (List Char)) :=
    bind_settles (char_settles ':') fun _ =>
      bind_settles (optional_settles (satisfy_settles _)) fun _ =>
        bind_settles (takeWhile1_settles _) fun _ => pure_settles _
  have hrelative : ∀ name, Settles (relative name) := fun name =>
    bind_settles (char_settles '<') fun _ => bind_settles (word_settles name) fun _ =>
      bind_settles (optional_settles hoffset) fun _ => bind_settles (char_settles '>') fun _ =>
        pure_settles _
  have hrow : Settles rowId := by
    refine firstOf_settles (takeWhile1_settles _) ?_
    simp only [List.forall_mem_cons, List.not_mem_nil, false_imp_iff, implies_true, and_true]
    exact ⟨word_settles _, word_settles _, hrelative _⟩
  have hmark : Settles (optional (char '$')) := optional_settles (char_settles '$')
  exact bind_settles hmark fun _ =>
    bind_settles (or_settles (takeWhile1_settles _) (hrelative _)) fun _ =>
      bind_settles hmark fun _ => bind_settles hrow fun _ =>
        bind_settles (notFollowedBy_settles _) fun _ => pure_settles _

theorem Spelled.last {name : List Char} (hname : name.getLast? = some '>') (word : Spelled name) :
    ∃ front, word.1 = front ++ ['>'] := by
  have hlast := congrArg List.getLast? word.2
  simp only [Text.lowerAll, List.getLast?_map, hname, Option.map_some, Option.map_eq_some_iff] at hlast
  obtain ⟨c, hc, hlower⟩ := hlast
  obtain rfl := Text.eq_of_lower rfl hlower
  obtain ⟨front, hfront⟩ := List.getLast?_eq_some_iff.mp hc
  exact ⟨front, hfront⟩

theorem RowId.last (row : RowId) :
    ∃ front c, row.text = front ++ [c] ∧ (Text.isDigit c = true ∨ c = '>') := by
  cases row with
  | digits run =>
    obtain ⟨front, c, hrun⟩ := (List.eq_nil_or_concat run.1).resolve_left run.2.ne_nil
    rw [List.concat_eq_append] at hrun
    refine ⟨front, c, hrun, .inl (List.all_eq_true.mp run.2.all c ?_)⟩
    simp [hrun]
  | rows word =>
    obtain ⟨front, hfront⟩ := Spelled.last rfl word
    exact ⟨front, '>', hfront, .inr rfl⟩
  | startRow word =>
    obtain ⟨front, hfront⟩ := Spelled.last rfl word
    exact ⟨front, '>', hfront, .inr rfl⟩
  | relative word offset => exact ⟨_, '>', rfl, .inr rfl⟩

theorem CellRef.last (ref : CellRef) :
    ∃ front c, ref.text = front ++ [c] ∧ (Text.isDigit c = true ∨ c = '>') := by
  obtain ⟨front, c, hfront, hc⟩ := ref.row.last
  refine ⟨markText ref.columnMark ++ (ref.column.text ++ (markText ref.rowMark ++ front)), c, ?_, hc⟩
  simp [text, render, hfront]

theorem number_taken (h : number s = .done t rest) :
    s = t ++ rest ∧ IsNumber t ∧ Stops Text.isDigit rest := by
  simp only [number, bind_eq_done, pure_eq_done] at h
  obtain ⟨whole, mid, hwhole, o, left, hfraction, rfl, rfl⟩ := h
  obtain ⟨rfl, hne, hall, hstops⟩ := takeWhile1_eq_done.mp hwhole
  rcases optional_eq_done.mp hfraction with ⟨fraction, rfl, hread⟩ | ⟨rfl, rfl, -⟩
  · obtain ⟨_, behind, hpoint, hrun⟩ := bind_eq_done.mp hread
    obtain ⟨rfl, -⟩ := char_eq_done.mp hpoint
    obtain ⟨rfl, hne', hall', hstops'⟩ := takeWhile1_eq_done.mp hrun
    exact ⟨by simp, .fraction ⟨hne, hall⟩ ⟨hne', hall'⟩, hstops'⟩
  · exact ⟨rfl, .whole ⟨hne, hall⟩, hstops⟩

theorem functionName_taken (h : functionName s = .done t rest) :
    s = t ++ rest ∧ IsFunctionName t ∧ Stops Text.isWordChar rest := by
  obtain ⟨first, mid, hfirst, hmore⟩ := bind_eq_done.mp h
  obtain ⟨more, left, hmany, hdone⟩ := bind_eq_done.mp hmore
  obtain ⟨rfl, rfl⟩ := pure_eq_done.mp hdone
  clear h hmore hdone
  induction more generalizing s first mid with
  | nil =>
    obtain ⟨rfl, hname, hstops⟩ := identifier_eq_done.mp hfirst
    rcases many_eq_done.mp hmany with ⟨-, rfl, -⟩ | ⟨_, _, _, hnil, -⟩
    · exact ⟨by simp, by simpa using IsFunctionName.name hname, hstops⟩
    · simp at hnil
  | cons item more ih =>
    obtain ⟨rfl, hname, -⟩ := identifier_eq_done.mp hfirst
    rcases many_eq_done.mp hmany with ⟨hnil, -⟩ | ⟨_, behind, _, hcons, hitem, -, hothers⟩
    · simp at hnil
    obtain ⟨rfl, rfl⟩ := List.cons.inj hcons
    obtain ⟨_, _, hpoint, hbehind⟩ := bind_eq_done.mp hitem
    obtain ⟨name, last, hread, hdone⟩ := bind_eq_done.mp hbehind
    obtain ⟨rfl, rfl⟩ := pure_eq_done.mp hdone
    obtain ⟨rfl, -⟩ := char_eq_done.mp hpoint
    obtain ⟨rfl, hmoreNames, hstops⟩ := ih name last hread hothers
    exact ⟨by simp, by simpa using IsFunctionName.points hname hmoreNames, hstops⟩

theorem sheet_taken (h : sheet s = .done t rest) :
    ∃ name, IsSheetName name ∧ ((s = name ++ '!' :: rest ∧ t = name ++ ['!']) ∨
      ∃ book, IsWorkbook book ∧ s = book ++ (name ++ '!' :: rest) ∧ t = book ++ name ++ ['!']) := by
  simp only [sheet, bind_eq_done, pure_eq_done] at h
  obtain ⟨o, mid, hbook, name, behind, hname, _, left, hmark, rfl, rfl⟩ := h
  have hsheet := gives_sheetName _ _ _ hname
  obtain ⟨rfl, -⟩ := takeBetween_eq_done hname
  obtain ⟨rfl, -⟩ := char_eq_done.mp hmark
  refine ⟨name, hsheet, ?_⟩
  rcases optional_eq_done.mp hbook with ⟨book, rfl, hread⟩ | ⟨rfl, rfl, -⟩
  · obtain ⟨rfl, hworkbook⟩ := linkedWorkbook_eq_done hread
    exact .inr ⟨book, hworkbook, rfl, rfl⟩
  · exact .inl ⟨rfl, rfl⟩

theorem address_taken (h : address s = .done t rest) :
    ∃ a, s = a ++ rest ∧ a.all isAddressChar = true ∧ Stops Text.isWordChar rest := by
  rcases firstOf_eq_done.mp h with h | ⟨-, h⟩
  · obtain ⟨_, mid, hfirst, hmore⟩ := bind_eq_done.mp h
    obtain ⟨_, behind, hcolon, hmore⟩ := bind_eq_done.mp hmore
    obtain ⟨_, _, hlast, hdone⟩ := bind_eq_done.mp hmore
    obtain ⟨-, rfl⟩ := pure_eq_done.mp hdone
    obtain ⟨first, rfl, -, -⟩ := cell_eq_done.mp hfirst
    obtain ⟨rfl, -⟩ := char_eq_done.mp hcolon
    obtain ⟨last, rfl, -, hstops⟩ := cell_eq_done.mp hlast
    refine ⟨first.text ++ ':' :: last.text, by simp, ?_, hstops⟩
    rw [List.all_append, List.all_cons, first.addressChars, last.addressChars]
    decide
  rcases firstOf_eq_done.mp h with h | ⟨-, h⟩
  · obtain ⟨ref, rfl, -, hstops⟩ := cell_eq_done.mp h
    exact ⟨ref.text, rfl, ref.addressChars, hstops⟩
  rcases firstOf_eq_done.mp h with h | ⟨-, h⟩
  · obtain ⟨rfl, hname, hstops⟩ := identifier_eq_done.mp h
    exact ⟨t, rfl, all_addressChar hname.all fun _ hc => hc, hstops⟩
  · exact h.elim

/-- A reference is a name in another workbook, or an address that a sheet in another
workbook, a sheet or nothing stands in front of. -/
theorem reference_cases (h : reference s = .done t rest) :
    (∃ book name, IsWorkbook book ∧ IsName name ∧ Stops Text.isWordChar rest ∧
      s = book ++ '!' :: name ++ rest ∧ t = book ++ '!' :: name) ∨
    (∃ book name mid target, IsWorkbook book ∧ IsSheetName name ∧
      s = book ++ (name ++ '!' :: mid) ∧ address mid = .done target rest ∧
      t = book ++ (name ++ '!' :: target)) ∨
    (∃ name mid target, IsSheetName name ∧ s = name ++ '!' :: mid ∧
      address mid = .done target rest ∧ t = name ++ '!' :: target) ∨
    (s.head? ≠ some '\'' ∧ Fails sheet s ∧ address s = .done t rest) := by
  rcases or_eq_done.mp h with h | ⟨-, h⟩
  · simp only [bind_eq_done, pure_eq_done] at h
    obtain ⟨book, mid, hbook, _, behind, hmark, name, _, hname, rfl, rfl⟩ := h
    obtain ⟨rfl, hworkbook⟩ := linkedWorkbook_eq_done hbook
    obtain ⟨rfl, -⟩ := char_eq_done.mp hmark
    obtain ⟨rfl, hname, hstops⟩ := identifier_eq_done.mp hname
    exact .inl ⟨book, name, hworkbook, hname, hstops, by simp, rfl⟩
  · simp only [bind_eq_done, pure_eq_done] at h
    obtain ⟨o, mid, hsheet, target, _, htarget, rfl, rfl⟩ := h
    rcases optional_eq_done.mp hsheet with ⟨qualifier, rfl, hread⟩ | ⟨rfl, rfl, hfails⟩
    · obtain ⟨name, hname, ⟨rfl, rfl⟩ | ⟨book, hbook, rfl, rfl⟩⟩ := sheet_taken hread
      · exact .inr (.inr (.inl ⟨name, mid, target, hname, rfl, htarget, by simp⟩))
      · exact .inr (.inl ⟨book, name, mid, target, hbook, hname, rfl, htarget, by simp⟩)
    · refine .inr (.inr (.inr ⟨fun heq => ?_, hfails, htarget⟩))
      obtain ⟨more, rfl⟩ := List.head?_eq_some_iff.mp heq
      exact (address_fails (by decide) (by decide)).not_done htarget

end ListingGrid.Grammar.Formula
