import ListingGrid.Proofs.Formula.Fillings
import ListingGrid.Proofs.Formula.Idempotent
import ListingGrid.Proofs.Grammar.Numerals
import ListingGrid.Proofs.Number.Reading
import ListingGrid.Proofs.Outcomes
import ListingGrid.Report.Layout

/-!
# Placeholders of stored formulas

A formula is stored with the references to its group replaced, and shown with the
references to its cell replaced. Each of these passes searches the whole text, and together
they replace each placeholder on its own and nothing else.
-/

set_option autoImplicit false

namespace ListingGrid.Placeholder

open ListingGrid.Grammar
open ListingGrid.Grammar.Formula

variable {mark opening : List Char} {text : List Char → List Char}

theorem replaceFrom_skip (mark text t rest : List Char) :
    replaceFrom mark text (t ++ rest) t.length = replaceAll mark text rest := by
  induction t with
  | nil => rfl
  | cons c t ih => exact ih

theorem rewrites_replaceAll (h : OpensPlaceholder mark) (text : List Char) :
    Rewrites (replaceAll mark text) mark where
  opens := h
  nil := rfl
  kept c rest hprefix := by
    rw [← List.isPrefixOf_iff_prefix] at hprefix
    rw [replaceAll, replaceFrom, if_neg hprefix]
    rfl

theorem replaceAll_mark (h : OpensPlaceholder mark) (text rest : List Char) :
    replaceAll mark text (mark ++ rest) = text ++ replaceAll mark text rest := by
  obtain ⟨letters, d, rfl, -⟩ := h
  have hprefix : ('<' :: (letters ++ [d])).isPrefixOf ('<' :: (letters ++ [d] ++ rest)) = true :=
    List.isPrefixOf_iff_prefix.mpr ⟨rest, by simp⟩
  rw [replaceAll, List.cons_append, replaceFrom, if_pos hprefix]
  exact congrArg (text ++ ·) (replaceFrom_skip _ _ (letters ++ [d]) rest)

theorem isOffsetDigit_of_isDigit {c : Char} (h : Text.isDigit c = true) : isOffsetDigit c = true := by
  have hall : ∀ n < 10, isOffsetDigit (Char.ofNat (48 + n)) = true := by decide +kernel
  obtain ⟨hleast, hmost⟩ := Text.isDigit_iff.mp h
  have hc := hall (c.toNat - 48) (by omega)
  rwa [Nat.add_sub_cancel' hleast, Char.ofNat_toNat] at hc

theorem offsetDigits (run : Digits) (rest : List Char) :
    (run.1 ++ '>' :: rest).takeWhile isOffsetDigit = run ∧
      (run.1 ++ '>' :: rest).dropWhile isOffsetDigit = '>' :: rest := by
  have hall : run.1.all isOffsetDigit = true :=
    List.all_eq_true.mpr fun c hc => isOffsetDigit_of_isDigit (List.all_eq_true.mp run.2.all c hc)
  exact Parser.takeWhile_run hall (Parser.stops_cons (by decide +kernel))

theorem offset?_digits (run : Digits) (rest : List Char) :
    offset? (run.1 ++ '>' :: rest) = some (run.1, run.1.length + 1) ∧
      offset? ('-' :: (run.1 ++ '>' :: rest)) = some ('-' :: run.1, run.1.length + 2) := by
  obtain ⟨htake, hdrop⟩ := offsetDigits run rest
  have hne : run.1.isEmpty = false := by simpa using run.2.ne_nil
  constructor
  · unfold offset?
    split
    · next heq => exact absurd (congrArg List.head? heq) (head_ne_of_all run.2.ne_nil run.2.all rfl)
    · next heq => exact absurd (congrArg List.head? heq) (head_ne_of_all run.2.ne_nil run.2.all rfl)
    · simp [htake, hdrop, run.2.ne_nil]
  · simp only [offset?, List.length_singleton, List.drop_one, List.tail_cons, htake, hdrop, hne]
    rw [Nat.add_comm 1, if_neg Bool.false_ne_true]
    rfl

theorem offset?_normal (offset : Offset) (rest : List Char) :
    offset? (offset.normal ++ '>' :: rest) = some (offset.normal, offset.normal.length + 1) := by
  cases offset with
  | zero => exact (offset?_digits ⟨['0'], by simp, rfl⟩ rest).1
  | plain run => exact (offset?_digits run rest).1
  | plus run => exact (offset?_digits run rest).1
  | minus run => exact (offset?_digits run rest).2

theorem marker?_normal (opening : List Char) (offset : Offset) (rest : List Char) :
    marker? opening (opening ++ offset.normal ++ '>' :: rest) =
      some (offset.normal, opening.length + (offset.normal.length + 1)) := by
  have hprefix : opening.isPrefixOf (opening ++ offset.normal ++ '>' :: rest) = true :=
    List.isPrefixOf_iff_prefix.mpr ⟨offset.normal ++ '>' :: rest, by simp⟩
  rw [marker?, if_pos hprefix, List.append_assoc, List.drop_left, offset?_normal]
  rfl

theorem replaceMarkers_skip (opening : List Char) (text : List Char → List Char)
    (t rest : List Char) :
    replaceMarkers opening text (t ++ rest) t.length = replaceMarkers opening text rest 0 := by
  induction t with
  | nil => rfl
  | cons c t ih => exact ih

theorem rewrites_replaceMarkers (h : OpensPlaceholder opening) (text : List Char → List Char) :
    Rewrites (replaceMarkers opening text · 0) opening where
  opens := h
  nil := rfl
  kept c rest hprefix := by
    rw [← List.isPrefixOf_iff_prefix] at hprefix
    have hnone : marker? opening (c :: rest) = none := by rw [marker?, if_neg hprefix]
    simp only [replaceMarkers, hnone]

theorem replaceMarkers_marker (h : OpensPlaceholder opening) (text : List Char → List Char)
    (offset : Offset) (rest : List Char) :
    replaceMarkers opening text (opening ++ offset.normal ++ ['>'] ++ rest) 0 =
      text offset.normal ++ replaceMarkers opening text rest 0 := by
  have hmarker := marker?_normal opening offset rest
  obtain ⟨letters, d, rfl, -⟩ := h
  have hskip := replaceMarkers_skip ('<' :: (letters ++ [d])) text
    (letters ++ [d] ++ offset.normal ++ ['>']) rest
  have hlength : (letters ++ [d] ++ offset.normal ++ ['>']).length =
      ('<' :: (letters ++ [d])).length + (offset.normal.length + 1) - 1 := by
    simp only [List.length_append, List.length_cons, List.length_nil]
    omega
  rw [hlength] at hskip
  rw [← hskip]
  simp only [List.cons_append, List.append_assoc, List.nil_append] at hmarker ⊢
  rw [replaceMarkers]
  simp only [hmarker]

def FitsInteger (n : Int) : Prop := Number.leastInteger ≤ n ∧ n ≤ Number.greatestInteger

instance (n : Int) : Decidable (FitsInteger n) := inferInstanceAs (Decidable (_ ∧ _))

def offsetValue : Offset → Int
  | .zero => 0
  | .plain run => Text.decimalValue run
  | .plus run => Text.decimalValue run
  | .minus run => -(Text.decimalValue run)

theorem integer?_digits (run : Digits) :
    Number.integer? run = (if FitsInteger (Text.decimalValue run) then
      some (Text.decimalValue run : Int) else none) ∧
    Number.integer? ('-' :: run) = if FitsInteger (-(Text.decimalValue run)) then
      some (-(Text.decimalValue run : Int)) else none :=
  ⟨Number.integer?_signed run.2.ne_nil run.2.all false,
    Number.integer?_signed run.2.ne_nil run.2.all true⟩

theorem integer?_normal (offset : Offset) :
    Number.integer? offset.normal =
      if FitsInteger (offsetValue offset) then some (offsetValue offset) else none := by
  cases offset with
  | zero => rfl
  | plain run => exact (integer?_digits run).1
  | plus run => exact (integer?_digits run).1
  | minus run => exact (integer?_digits run).2

/-- The text of a place that is moved by an offset, where all numbers fit 64 bits and no
place is in front of the least one. -/
def moved (least : Int) (place : Nat) (text : Nat → List Char) (offset : Offset) : List Char :=
  let target : Int := place + offsetValue offset
  if FitsInteger place ∧ FitsInteger (offsetValue offset) ∧ FitsInteger target ∧ least ≤ target then
    text target.toNat
  else invalidReference

theorem shift?_normal (base : Nat) (offset : Offset) :
    shift? base offset.normal =
      if FitsInteger base ∧ FitsInteger (offsetValue offset) ∧
        FitsInteger (base + offsetValue offset) ∧ 0 ≤ base + offsetValue offset
      then some (base + offsetValue offset).toNat else none := by
  have hleast : Number.leastInteger ≤ 0 := by decide
  rw [shift?, integer?_normal]
  by_cases hfits : FitsInteger (offsetValue offset)
  · rw [if_pos hfits]
    have hiff : (FitsInteger base ∧ FitsInteger (offsetValue offset) ∧
        FitsInteger (base + offsetValue offset) ∧ 0 ≤ base + offsetValue offset) ↔
        ((base : Int) ≤ Number.greatestInteger ∧ 0 ≤ base + offsetValue offset ∧
          base + offsetValue offset ≤ Number.greatestInteger) := by
      simp only [FitsInteger] at hfits ⊢
      omega
    simp only [hiff]
  · rw [if_neg hfits, if_neg fun h => hfits h.2.1]

theorem rowText_normal (row : Nat) (offset : Offset) :
    rowText row offset.normal = moved 1 (sheetRow row) Text.decimalDigits offset := by
  rw [rowText, shift?_normal, moved]
  generalize offsetValue offset = n
  split
  · next target heq =>
    obtain ⟨⟨hplace, hoffset, htarget, -⟩, hsome⟩ := Option.ite_none_right_eq_some.mp heq
    have hvalue : ((sheetRow row : Int) + n).toNat = target + 1 := Option.some.inj hsome
    have hone : 1 ≤ (sheetRow row : Int) + n := by omega
    rw [if_pos ⟨hplace, hoffset, htarget, hone⟩, hvalue]
  · next hnone =>
    refine (if_neg fun ⟨hplace, hoffset, htarget, hone⟩ => ?_).symm
    refine hnone (((sheetRow row : Int) + n).toNat - 1) ?_
    rw [if_pos ⟨hplace, hoffset, htarget, by omega⟩]
    exact congrArg some (by omega)

theorem columnText_normal (column : Nat) (offset : Offset) :
    columnText column offset.normal =
      moved 0 column (fun target => (columnName target).toList) offset := by
  rw [columnText, shift?_normal, moved]
  split
  · next target heq =>
    obtain ⟨hcondition, hsome⟩ := Option.ite_none_right_eq_some.mp heq
    rw [if_pos hcondition, Option.some.inj hsome]
  · next heq => exact (if_neg fun hcondition => by simp [if_pos hcondition] at heq).symm

theorem opens_startRow : OpensPlaceholder startRowMark :=
  ⟨"STARTROW".toList, '>', rfl, by decide, by decide, .inl rfl⟩

theorem opens_rows : OpensPlaceholder rowsMark :=
  ⟨"ROWS".toList, '>', rfl, by decide, by decide, .inl rfl⟩

theorem opens_row : OpensPlaceholder rowOpening :=
  ⟨"ROW".toList, ':', rfl, by decide, by decide, .inr rfl⟩

theorem opens_column : OpensPlaceholder columnOpening :=
  ⟨"COL".toList, ':', rfl, by decide, by decide, .inr rfl⟩

theorem not_prefix_of_getElem? {a b : List Char} (k : Nat) (ha : k < a.length) (hb : k < b.length)
    (h : a[k]? ≠ b[k]?) (more : List Char) : ¬a <+: b ++ more := by
  rintro ⟨behind, hprefix⟩
  have hk := congrArg (·[k]?) hprefix
  simp only [List.getElem?_append_left ha, List.getElem?_append_left hb] at hk
  exact h hk

theorem offset_noOpening (offset : Offset) : '<' ∉ offset.normal := by
  cases offset with
  | zero => decide
  | plain run => exact not_mem_of_all run.2.pathChars rfl
  | plus run => exact not_mem_of_all run.2.pathChars rfl
  | minus run => simpa [Offset.normal] using not_mem_of_all run.2.pathChars rfl

/-- The texts that the placeholders of a formula have in a cell. -/
def texts (startRow row column : Nat) : Fillings where
  startRow := Text.decimalDigits startRow
  rows := Text.decimalDigits row
  row := moved 1 (sheetRow row) Text.decimalDigits
  column := moved 0 column fun target => (columnName target).toList

section Refills

variable {p : List Char → List Char} {other : List Char} {e : Fillings}

theorem opens_plain (h : OpensPlaceholder other) : ∃ front, other = '<' :: front ∧ '<' ∉ front := by
  obtain ⟨letters, d, rfl, -, hletters, hd⟩ := h
  refine ⟨letters ++ [d], rfl, ?_⟩
  have hfront := not_mem_of_all hletters (c := '<') rfl
  rcases hd with rfl | rfl <;> simp [hfront]

theorem kept_mark (hp : Rewrites p opening) (hother : OpensPlaceholder other)
    (h : ∀ more, ¬opening <+: other ++ more) (rest : List Char) :
    p (other ++ rest) = other ++ p rest := by
  obtain ⟨front, rfl, hfront⟩ := opens_plain hother
  exact hp.other (h rest) hfront

theorem kept_marker (hp : Rewrites p opening) (hother : OpensPlaceholder other)
    (h : ∀ more, ¬opening <+: other ++ more) (offset : Offset) (rest : List Char) :
    p (other ++ offset.normal ++ ['>'] ++ rest) = other ++ offset.normal ++ ['>'] ++ p rest := by
  have hbehind : '<' ∉ offset.normal ++ ['>'] := by simp [offset_noOpening]
  rw [List.append_assoc, List.append_assoc, kept_mark hp hother h, ← List.append_assoc,
    hp.plain hbehind]
  simp

theorem refills_startRow (text : List Char) :
    Refills (replaceAll startRowMark text) .marks
      ⟨text, rowsMark, Fillings.marks.row, Fillings.marks.column⟩ where
  startRow := replaceAll_mark opens_startRow text
  rows := kept_mark (rewrites_replaceAll opens_startRow text) opens_rows
    (not_prefix_of_getElem? 1 (by decide) (by decide) (by decide))
  row := kept_marker (rewrites_replaceAll opens_startRow text) opens_row
    (not_prefix_of_getElem? 1 (by decide) (by decide) (by decide))
  column := kept_marker (rewrites_replaceAll opens_startRow text) opens_column
    (not_prefix_of_getElem? 1 (by decide) (by decide) (by decide))

structure Inert (t : List Char) : Prop where
  ends : EndsLetters t
  plain : '<' ∉ t

variable {startRow rows : List Char}

theorem refills_rows (hstart : Inert startRow) (text : List Char) :
    Refills (replaceAll rowsMark text)
      ⟨startRow, rowsMark, Fillings.marks.row, Fillings.marks.column⟩
      ⟨startRow, text, Fillings.marks.row, Fillings.marks.column⟩ where
  startRow := (rewrites_replaceAll opens_rows text).plain hstart.plain
  rows := replaceAll_mark opens_rows text
  row := kept_marker (rewrites_replaceAll opens_rows text) opens_row
    (not_prefix_of_getElem? 4 (by decide) (by decide) (by decide))
  column := kept_marker (rewrites_replaceAll opens_rows text) opens_column
    (not_prefix_of_getElem? 1 (by decide) (by decide) (by decide))

theorem refills_row (hstart : Inert startRow) (hrows : Inert rows)
    (text : List Char → List Char) :
    Refills (replaceMarkers rowOpening text · 0)
      ⟨startRow, rows, Fillings.marks.row, Fillings.marks.column⟩
      ⟨startRow, rows, fun offset => text offset.normal, Fillings.marks.column⟩ where
  startRow := (rewrites_replaceMarkers opens_row text).plain hstart.plain
  rows := (rewrites_replaceMarkers opens_row text).plain hrows.plain
  row := replaceMarkers_marker opens_row text
  column := kept_marker (rewrites_replaceMarkers opens_row text) opens_column
    (not_prefix_of_getElem? 1 (by decide) (by decide) (by decide))

theorem refills_column (hstart : Inert startRow) (hrows : Inert rows) {row : Offset → List Char}
    (hrow : ∀ offset, Inert (row offset)) (text : List Char → List Char) :
    Refills (replaceMarkers columnOpening text · 0)
      ⟨startRow, rows, row, Fillings.marks.column⟩
      ⟨startRow, rows, row, fun offset => text offset.normal⟩ where
  startRow := (rewrites_replaceMarkers opens_column text).plain hstart.plain
  rows := (rewrites_replaceMarkers opens_column text).plain hrows.plain
  row offset := (rewrites_replaceMarkers opens_column text).plain (hrow offset).plain
  column := replaceMarkers_marker opens_column text

/-- One pass after the other fills a formula without quoted texts with the texts of all of
them. -/
theorem passes_assigned {ts : List Symbol} (h : Phrase .expression ts)
    (hquoted : ∀ body, Symbol.quoted body ∉ ts) (hstart : Inert startRow) (hrows : Inert rows)
    {row : List Char → List Char} (hrow : ∀ offset, Inert (row offset))
    (column : List Char → List Char) :
    replaceMarkers columnOpening column
        (replaceMarkers rowOpening row
          (replaceAll rowsMark rows
            (replaceAll startRowMark startRow ('=' :: ts.flatMap Symbol.normal))) 0) 0 =
      '=' :: ts.flatMap (Symbol.fill ⟨startRow, rows, fun offset => row offset.normal,
        fun offset => column offset.normal⟩) := by
  have hopen : ∀ rest : List Char, EndsLetters ('<' :: rest) := fun _ => ⟨'<', rfl, rfl, by decide⟩
  have hrowMark : ∀ offset, EndsLetters (Fillings.marks.row offset) := fun _ => hopen _
  have hcolumnMark : ∀ offset, EndsLetters (Fillings.marks.column offset) := fun _ => hopen _
  have hfirst := (rewrites_replaceAll opens_startRow startRow).assigned (refills_startRow startRow)
    ⟨hopen _, hopen _, hrowMark, hcolumnMark⟩ h hquoted
  have hsecond := (rewrites_replaceAll opens_rows rows).assigned (refills_rows hstart rows)
    ⟨hstart.ends, hopen _, hrowMark, hcolumnMark⟩ h hquoted
  have hthird := (rewrites_replaceMarkers opens_row row).assigned (refills_row hstart hrows row)
    ⟨hstart.ends, hrows.ends, hrowMark, hcolumnMark⟩ h hquoted
  have hfourth := (rewrites_replaceMarkers opens_column column).assigned
    (refills_column hstart hrows (fun offset => hrow offset.normal) column)
    ⟨hstart.ends, hrows.ends, fun offset => (hrow offset.normal).ends, hcolumnMark⟩ h hquoted
  rw [← Symbol.fill_marks, hfirst, hsecond, hthird, hfourth]

end Refills

theorem inert_decimalDigits (n : Nat) : Inert (Text.decimalDigits n) where
  ends := by
    obtain ⟨c, more, hdigits, hc⟩ := decimalDigits_head n
    exact hdigits ▸ endsLetters_of_digit hc more
  plain := not_mem_of_all (Text.decimalDigits_all n) rfl

theorem inert_rowText (row : Nat) (offset : List Char) : Inert (rowText row offset) := by
  unfold rowText
  split
  · exact inert_decimalDigits _
  · exact ⟨⟨'#', rfl, rfl, by decide⟩, by decide⟩

/-- A formula without quoted texts is shown with each of its placeholders replaced on its
own, and nothing else. -/
theorem resolve_assigned {ts : List Symbol} (h : Phrase .expression ts)
    (hquoted : ∀ body, Symbol.quoted body ∉ ts) (startRow row column : Nat) :
    resolve (resolveGroup ('=' :: ts.flatMap Symbol.normal) startRow row) row column =
      '=' :: ts.flatMap (Symbol.fill (texts startRow row column)) := by
  have hpasses := passes_assigned h hquoted (inert_decimalDigits startRow) (inert_decimalDigits row)
    (inert_rowText row) (columnText column)
  simp only [rowText_normal, columnText_normal] at hpasses
  exact hpasses

end ListingGrid.Placeholder

namespace ListingGrid.Layout

open ListingGrid.Grammar
open ListingGrid.Grammar.Formula

def comparison : List Symbol :=
  [.function ⟨['f'], .name ⟨⟨'f', rfl, rfl⟩, rfl⟩⟩, .opening,
    .reference (.plain (.cell ⟨false, .letters ⟨['A'], List.cons_ne_nil _ _, rfl⟩, false,
      .relative ⟨"ROW".toList, by decide⟩ (.minus ⟨['4'], List.cons_ne_nil _ _, rfl⟩)⟩)),
    .relation ⟨['<'], by simp [relations]⟩,
    .reference (.plain (.cell ⟨false, .letters ⟨['B'], List.cons_ne_nil _ _, rfl⟩, false,
      .startRow ⟨"<STARTROW>".toList, by decide⟩⟩)),
    .closing]

/-- A function field fills its cell with its formula, in which each placeholder is replaced
on its own by what it stands for in the row and the column of the cell. Rows and columns are
natural numbers: a row without a successor in its machine word is not covered. -/
theorem fieldCells_function {text formula : String} (hread : readFormula text = .ok formula)
    (hassigned : (skipBlank text.toList).head? = some '=') (hquoted : '"' ∉ formula.toList) :
    (∃ ts, Phrase .expression ts ∧ formula.toList = '=' :: ts.flatMap Symbol.normal) ∧
      ∀ ts, Phrase .expression ts → formula.toList = '=' :: ts.flatMap Symbol.normal →
        ∀ (line : String) (row startRow column : Nat) (field : Field),
          field.kind = .function formula →
          ∃ cell, fieldCells line row startRow column field = .ok [cell] ∧
            cell.row = row ∧ cell.column = column ∧
            cell.value = .formula (String.ofList
              ('=' :: ts.flatMap (Symbol.fill (Placeholder.texts startRow row column)))) := by
  constructor
  · obtain ⟨rest, hformula, -⟩ := readFormula_eq_ok.mp hread
    obtain ⟨e, he, hnormal⟩ := assigned_of_formula hassigned hformula
    obtain ⟨ts, hts, -, rfl⟩ := hnormal.written
    exact ⟨ts, hts, he⟩
  · intro ts hts hformula line row startRow column field hkind
    have hplain : ∀ body, Symbol.quoted body ∉ ts := by
      intro body hmem
      have hbody : '"' ∈ (Symbol.quoted body).normal := by simp [Symbol.normal, Symbol.render]
      refine hquoted (hformula ▸ List.mem_cons_of_mem _ ?_)
      exact List.mem_flatMap.mpr ⟨_, hmem, hbody⟩
    have hresolved := Placeholder.resolve_assigned hts hplain startRow row column
    refine ⟨⟨row, column, field, some formula, .formula (String.ofList
      (Placeholder.resolveGroup formula.toList startRow row))⟩, ?_, rfl, rfl, ?_⟩
    · simp [fieldCells, hkind]
    · simp only [Cell.value, String.toList_ofList, hformula, hresolved]

theorem fieldCells_function_comparison :
    (readFormula "=f(a<row:-4> < b<startrow>)").toOption = some "=f(A<ROW:-4><B<STARTROW>)" ∧
      ∃ cell, fieldCells "" 5 3 0 ⟨0, .function "=f(A<ROW:-4><B<STARTROW>)", none, none⟩ =
          .ok [cell] ∧ cell.value = .formula "=f(A2<B3)" := by
  have hvalue : (readFormula "=f(a<row:-4> < b<startrow>)").toOption =
      some "=f(A<ROW:-4><B<STARTROW>)" := by decide +kernel
  have hread := eq_ok_of_toOption hvalue
  have hphrase : Phrase .expression comparison :=
    .atom (.call _ (.last (.compared (.plain (.atom (.reference _))) _ (.plain (.atom (.reference _))))))
  obtain ⟨-, hcells⟩ := fieldCells_function hread (by decide) (by decide)
  obtain ⟨cell, hcell, -, -, hshown⟩ :=
    hcells comparison hphrase (by decide +kernel) "" 5 3 0 ⟨0, _, none, none⟩ rfl
  refine ⟨hvalue, cell, hcell, hshown.trans ?_⟩
  decide +kernel

/-- A row that does not fit 64 bits is no place to count from, though the row that is meant
fits. -/
theorem fieldCells_function_unfit :
    (readFormula "=A<ROW:-5>").toOption = some "=A<ROW:-5>" ∧
      Placeholder.FitsInteger (-5) ∧ Placeholder.FitsInteger (9223372036854775807 + 1 + -5) ∧
      1 ≤ (9223372036854775807 : Int) + 1 + -5 ∧
      ∃ cell, fieldCells "" 9223372036854775807 1 0 ⟨0, .function "=A<ROW:-5>", none, none⟩ =
          .ok [cell] ∧ cell.value = .formula "=A#REF!" :=
  ⟨by decide +kernel, by decide, by decide, by decide, _, rfl, by decide +kernel⟩

end ListingGrid.Layout
