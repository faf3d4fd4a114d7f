import ListingGrid.Output.Xml
import ListingGrid.Proofs.Output.ReadBack
import ListingGrid.Proofs.Report.Origin
import ListingGrid.Proofs.Text.Printable
import ListingGrid.Proofs.Text.Trim

/-!
# Characters of XML documents

XML 1.0 leaves out most control characters, and no entity stands for them. A text that is written
keeps the characters that it has, so a document has the allowed ones only if all the texts have.
-/

set_option autoImplicit false

namespace ListingGrid

/-- The characters that a document of XML 1.0 may have. -/
def isXmlChar (c : Char) : Bool :=
  c == '\t' || c == '\n' || c == '\r' || (0x20 ≤ c.toNat && c.toNat ≤ 0xD7FF) ||
    (0xE000 ≤ c.toNat && c.toNat ≤ 0xFFFD) || 0x10000 ≤ c.toNat

def XmlChars (cs : List Char) : Prop := ∀ c ∈ cs, isXmlChar c = true

namespace XmlChars

variable {c : Char} {a b : List Char}

@[simp] theorem nil : XmlChars [] := by simp [XmlChars]

@[simp] theorem cons : XmlChars (c :: a) ↔ isXmlChar c = true ∧ XmlChars a := by simp [XmlChars]

@[simp] theorem append : XmlChars (a ++ b) ↔ XmlChars a ∧ XmlChars b := by
  simp [XmlChars, or_imp, forall_and]

theorem of_all (h : a.all isXmlChar = true) : XmlChars a := List.all_eq_true.mp h

theorem subset (h : XmlChars b) (hsub : a ⊆ b) : XmlChars a := fun c hc => h c (hsub hc)

theorem of_printable (h : Text.Printable a) : XmlChars a := by
  intro c hc
  have hprintable := h c hc
  simp only [Text.isPrintable, Bool.and_eq_true, decide_eq_true_eq] at hprintable
  simp only [isXmlChar, Bool.or_eq_true, Bool.and_eq_true, decide_eq_true_eq]
  omega

end XmlChars

def XmlTexts (texts : List String) : Prop := ∀ text ∈ texts, XmlChars text.toList

namespace XmlTexts

variable {text : String} {a b : List String}

@[simp] theorem nil : XmlTexts [] := by simp [XmlTexts]

@[simp] theorem cons : XmlTexts (text :: a) ↔ XmlChars text.toList ∧ XmlTexts a := by
  simp [XmlTexts]

@[simp] theorem append : XmlTexts (a ++ b) ↔ XmlTexts a ∧ XmlTexts b := by
  simp [XmlTexts, or_imp, forall_and]

theorem flatMap {α : Type} {l : List α} {f : α → List String} :
    XmlTexts (l.flatMap f) ↔ ∀ x ∈ l, XmlTexts (f x) :=
  List.forall_mem_flatMap

end XmlTexts

namespace Markup

mutual

def texts : Markup → List String
  | .leaf _ attributes text => attributes.map (·.2) ++ [text]
  | .single _ attributes => attributes.map (·.2)
  | .node _ attributes children => attributes.map (·.2) ++ allTexts children

def allTexts : List Markup → List String
  | [] => []
  | m :: more => texts m ++ allTexts more

end

theorem allTexts_eq (ms : List Markup) : allTexts ms = ms.flatMap texts := by
  induction ms with
  | nil => rfl
  | cons m more ih => simp [allTexts, ih]

theorem xmlChars_escapeChar (c : Char) : XmlChars (escapeChar c) ↔ isXmlChar c = true := by
  have hall : (escapeChar c).all isXmlChar = isXmlChar c := by
    unfold escapeChar
    split
    · rfl
    · rfl
    · rfl
    · rfl
    · rfl
    · simp
  rw [← hall]
  exact List.all_eq_true.symm

theorem xmlChars_escape (text : String) : XmlChars (escape text) ↔ XmlChars text.toList := by
  unfold escape
  induction text.toList with
  | nil => rfl
  | cons c rest ih => rw [List.flatMap_cons, XmlChars.append, xmlChars_escapeChar, ih, XmlChars.cons]

theorem xmlChars_name {name : String} (h : isName name = true) : XmlChars name.toList := by
  refine .of_printable fun c hc => ?_
  simp only [isName, Bool.and_eq_true, List.all_eq_true] at h
  rcases Bool.or_eq_true_iff.mp (h.2 c hc) with hword | hhyphen
  · exact Text.isPrintable_of_isWordChar hword
  · exact (beq_iff_eq.mp hhyphen) ▸ rfl

theorem xmlChars_newLine (depth : Nat) : XmlChars (newLine depth) := by
  have hblanks : XmlChars (List.replicate (2 * depth) ' ') := by
    intro c hc
    rw [List.eq_of_mem_replicate hc]
    rfl
  exact XmlChars.cons.mpr ⟨rfl, hblanks⟩

theorem xmlChars_attributes {attributes : List (String × String)}
    (h : ∀ a ∈ attributes, isName a.1 = true) :
    XmlChars (attributes.flatMap attributeText) ↔ XmlTexts (attributes.map (·.2)) := by
  induction attributes with
  | nil => simp
  | cons a more ih =>
    have hname := xmlChars_name (h a (by simp))
    rw [List.flatMap_cons, XmlChars.append, ih fun b hb => h b (by simp [hb])]
    simp [attributeText, hname, xmlChars_escape, isXmlChar]

theorem xmlChars_tagText {tag : String} {attributes : List (String × String)}
    (h : Tag.isNamed ⟨tag, attributes⟩ = true) :
    XmlChars (tagText tag attributes) ↔ XmlTexts (attributes.map (·.2)) := by
  obtain ⟨htag, hattributes⟩ := Tag.isNamed_iff.mp h
  rw [tagText, XmlChars.append, and_iff_right (xmlChars_name htag), xmlChars_attributes hattributes]

variable {holdsText : String → Bool}

mutual

theorem xmlChars_render {m : Markup} (h : m.Fits holdsText) (depth : Nat) :
    XmlChars (render depth m) ↔ XmlTexts m.texts := by
  cases m with
  | leaf tag attributes text =>
    have hname := xmlChars_name (Tag.isName_of_isNamed h.1)
    simp [render, texts, closingTag, xmlChars_newLine, xmlChars_tagText h.1, xmlChars_escape, hname,
      isXmlChar]
  | single tag attributes =>
    simp [render, texts, xmlChars_newLine, xmlChars_tagText h, isXmlChar]
  | node tag attributes children =>
    obtain ⟨htag, -, hchildren⟩ := h
    have hname := xmlChars_name (Tag.isName_of_isNamed htag)
    simp [render, texts, closingTag, xmlChars_newLine, xmlChars_tagText htag,
      xmlChars_renderAll hchildren (depth + 1), hname, isXmlChar]

theorem xmlChars_renderAll {ms : List Markup} (h : AllFit holdsText ms) (depth : Nat) :
    XmlChars (renderAll depth ms) ↔ XmlTexts (allTexts ms) := by
  cases ms with
  | nil => simp [renderAll, allTexts]
  | cons m more =>
    rw [renderAll, XmlChars.append, xmlChars_render h.1, xmlChars_renderAll h.2, allTexts,
      XmlTexts.append]

end

end Markup

/-- What a cell shows besides numbers: its name, and its text if it has one. -/
def Cell.shownTexts (cell : Cell) : List String := cell.name :: cell.value.text?.toList

/-- What the grid of a report shows, and what is said about it. -/
def Report.shownTexts (report : Report) : List String :=
  report.title :: report.description.toList ++
    report.groups.toList.flatMap fun group => group.cells.flatMap Cell.shownTexts

theorem CellValue.xmlChars_display (value : CellValue) :
    XmlChars value.display.toList ↔ XmlTexts value.text?.toList := by
  cases value with
  | empty => simp [display, text?]
  | text t => simp [display, text?]
  | number n => simpa [display, text?] using XmlChars.of_printable n.printable_text
  | formula t => simp [display, text?]

namespace Xml

theorem xmlTexts_cell (cell : Cell) :
    XmlTexts (cellElement cell).texts ↔ XmlTexts cell.shownTexts := by
  have haddress := XmlChars.of_printable (printable_cellAddress cell.row cell.column)
  rw [Cell.shownTexts, XmlTexts.cons, ← CellValue.xmlChars_display]
  simp only [cellElement]
  split
  · next hempty => simp [Markup.texts, Cell.address, haddress, String.isEmpty_iff.mp hempty]
  · simp [Markup.texts, Cell.address, haddress]

theorem xmlChars_keyword (role : Role) : XmlChars role.keyword.toList := by
  cases role with
  | header => exact .of_all (by decide)
  | body => exact .of_all (by decide)
  | footer => exact .of_all (by decide)

theorem xmlTexts_row (row : Row) :
    XmlTexts (rowElement row).texts ↔ XmlTexts (row.cells.flatMap Cell.shownTexts) := by
  simp only [rowElement, Markup.texts, Markup.allTexts_eq, List.flatMap_map, XmlTexts.append,
    XmlTexts.flatMap, xmlTexts_cell]
  simp [xmlChars_keyword]

theorem xmlTexts_group (group : CellGroup) :
    XmlTexts (groupElement group).texts ↔ XmlTexts (group.cells.flatMap Cell.shownTexts) := by
  have hnumber := fun n => XmlChars.of_printable (printable_naturalText n)
  simp only [groupElement, Markup.texts, Markup.allTexts_eq, List.flatMap_map, XmlTexts.append,
    CellGroup.cells, List.flatMap_assoc, XmlTexts.flatMap, xmlTexts_row]
  simp [hnumber]

/-- A document has allowed characters only if all the texts have. -/
theorem xmlChars_render (report : Report) :
    XmlChars (render report) ↔ XmlTexts report.shownTexts := by
  have hdeclaration : XmlChars "<?xml version=\"1.0\" encoding=\"UTF-8\"?>".toList :=
    .of_all (by decide)
  rw [render, Markup.document, XmlChars.append, and_iff_right hdeclaration,
    Markup.xmlChars_render (reportElement_reads report).fits]
  simp only [reportElement, Report.shownTexts, Markup.texts, Markup.allTexts_eq,
    List.flatMap_append, List.flatMap_map, XmlTexts.append, XmlTexts.flatMap, xmlTexts_group]
  cases report.description with
  | none => simp
  | some text => simp [and_assoc]

end Xml

namespace Placeholder

theorem xmlChars_replaceFrom {mark text s : List Char} {skip : Nat} (htext : XmlChars text)
    (h : XmlChars s) : XmlChars (replaceFrom mark text s skip) := by
  fun_induction replaceFrom mark text s skip with
  | case1 => exact XmlChars.nil
  | case2 c rest skip ih => exact ih (XmlChars.cons.mp h).2
  | case3 c rest hmark ih => exact XmlChars.append.mpr ⟨htext, ih (XmlChars.cons.mp h).2⟩
  | case4 c rest hmark ih =>
    exact XmlChars.cons.mpr ⟨(XmlChars.cons.mp h).1, ih (XmlChars.cons.mp h).2⟩

theorem xmlChars_replaceMarkers {opening s : List Char} {text : List Char → List Char} {skip : Nat}
    (htext : ∀ offset, XmlChars (text offset)) (h : XmlChars s) :
    XmlChars (replaceMarkers opening text s skip) := by
  fun_induction replaceMarkers opening text s skip with
  | case1 => exact XmlChars.nil
  | case2 c rest skip ih => exact ih (XmlChars.cons.mp h).2
  | case3 c rest offset length hmarker ih =>
    exact XmlChars.append.mpr ⟨htext offset, ih (XmlChars.cons.mp h).2⟩
  | case4 c rest hmarker ih =>
    exact XmlChars.cons.mpr ⟨(XmlChars.cons.mp h).1, ih (XmlChars.cons.mp h).2⟩

theorem xmlChars_digits (n : Nat) : XmlChars (Text.decimalDigits n) :=
  .of_printable (Text.printable_decimalDigits n)

theorem xmlChars_invalidReference : XmlChars invalidReference := .of_all (by decide)

/-- The references of a formula that has allowed characters only are replaced by such texts. -/
theorem xmlChars_resolve {formula : List Char} (h : XmlChars formula) (row column : Nat) :
    XmlChars (resolve formula row column) := by
  have hrow : ∀ offset, XmlChars (rowText row offset) := fun offset => by
    unfold rowText
    split
    · exact xmlChars_digits _
    · exact xmlChars_invalidReference
  have hcolumn : ∀ offset, XmlChars (columnText column offset) := fun offset => by
    unfold columnText
    split
    · exact .of_printable (printable_columnName _)
    · exact xmlChars_invalidReference
  exact xmlChars_replaceMarkers hcolumn (xmlChars_replaceMarkers hrow h)

theorem xmlChars_resolveGroup {formula : List Char} (h : XmlChars formula) (startRow rows : Nat) :
    XmlChars (resolveGroup formula startRow rows) :=
  xmlChars_replaceFrom (xmlChars_digits rows) (xmlChars_replaceFrom (xmlChars_digits startRow) h)

end Placeholder

/-- The texts that a definition gives to a field: its name, and a constant or a formula. -/
def Field.givenTexts (field : Field) : List String :=
  field.name.toList ++
    match field.kind with
    | .const (.text text) => [text]
    | .function formula => [formula]
    | _ => []

/-- The texts of a definition that reports of it show. -/
def Report.givenTexts (report : Report) : List String :=
  report.title :: report.description.toList ++
    report.sections.flatMap fun s => s.allFieldsets.flatMap fun fieldset =>
      fieldset.fields.flatMap Field.givenTexts

theorem Extraction.xmlChars_transform {extraction : Extraction} {raw : String} {value : CellValue}
    (h : extraction.transform raw = .ok value) (hraw : XmlChars raw.toList) :
    XmlChars value.display.toList := by
  cases extraction with
  | string =>
    obtain rfl := Except.ok.inj h
    simpa [CellValue.display, Text.trimmed] using hraw.subset (Text.trim_infix raw.toList).subset
  | fixed =>
    obtain rfl := Except.ok.inj h
    exact hraw
  | numeric tag =>
    cases hnumber : tag.toNumber (Text.trimmed raw) with
    | error cause => simp [transform, hnumber, Except.map] at h
    | ok n =>
      rw [transform, hnumber] at h
      obtain rfl := Except.ok.inj h
      exact .of_printable n.printable_text

/-- What a field shows for a text has the characters of the text, or its own. -/
theorem Field.xmlChars_slot {field : Field} (h : XmlTexts field.givenTexts) {text : String}
    (htext : XmlChars text.toList) (startRow row : Nat) :
    XmlChars ((field.slot text).value startRow row).display.toList := by
  have hgiven := (XmlTexts.append.mp h).2
  unfold Field.slot
  split
  · next extraction range hkind =>
    have hslice : XmlChars (range.slice text).toList := by
      rw [ColumnRange.slice, String.toList_ofList]
      exact (htext.subset (List.drop_subset _ _)).subset (List.take_subset _ _)
    dsimp only
    split
    · next value hvalue => exact Extraction.xmlChars_transform hvalue hslice
    · exact XmlChars.nil
  · exact XmlChars.nil
  · next value hkind =>
    rw [hkind] at hgiven
    cases value with
    | text t => exact (XmlTexts.cons.mp hgiven).1
    | number n => exact .of_printable n.printable_text
  · next formula hkind =>
    rw [hkind] at hgiven
    simpa [CellValue.display] using
      Placeholder.xmlChars_resolveGroup (XmlTexts.cons.mp hgiven).1 startRow row

theorem Cell.xmlChars_value {cell : Cell} (h : XmlChars cell.stored.display.toList) :
    XmlChars cell.value.display.toList := by
  unfold Cell.value
  split
  · next text hstored =>
    rw [hstored] at h
    simpa [CellValue.display] using Placeholder.xmlChars_resolve h cell.row cell.column
  · exact h

theorem Cell.xmlChars_name {cell : Cell} (h : XmlTexts cell.field.name.toList) :
    XmlChars cell.name.toList := by
  have hnumber := XmlChars.of_printable (printable_naturalText cell.column)
  unfold Cell.name
  split
  · simpa [hnumber] using XmlChars.of_all (by decide : "field".toList.all isXmlChar = true)
  · next name count hname hkind =>
    have hgiven := h name (by simp [hname])
    split
    · exact hgiven
    · simpa [hnumber] using hgiven
  · next name hname _ => exact h name (by simp [hname])

theorem Cell.FilledFrom.xmlTexts {cell : Cell} {sections : List Section} {texts : List String}
    (h : cell.FilledFrom sections texts)
    (hfields : ∀ s ∈ sections, ∀ fieldset ∈ s.allFieldsets, ∀ field ∈ fieldset.fields,
      XmlTexts field.givenTexts)
    (htexts : XmlTexts texts) : XmlTexts cell.shownTexts := by
  obtain ⟨slot, startRow, ⟨s, hs, fieldset, hfieldset, field, hfield, text, htext, rfl⟩, hcell⟩ := h
  have hgiven := hfields s hs fieldset hfieldset field hfield
  have hfield : cell.field = field := by rw [hcell]; exact field.slot_field text
  have hstored : cell.stored = (field.slot text).value startRow cell.row := by rw [hcell]; rfl
  refine XmlTexts.cons.mpr ⟨xmlChars_name (hfield ▸ (XmlTexts.append.mp hgiven).1),
    (CellValue.xmlChars_display _).mp (xmlChars_value ?_)⟩
  rw [hstored]
  exact Field.xmlChars_slot hgiven (htexts text htext) _ _

namespace Report

/-- The document of a pass has allowed characters exactly if all texts that it shows have, and so
whenever the definition and the lines have. Nothing on the way takes other characters out. -/
theorem process_xmlChars {report : Report} {text : String} (h : report.IsLoaded text)
    (lines : List String) :
    (XmlChars (Xml.render (report.process lines).report) ↔
      XmlTexts (report.process lines).report.shownTexts) ∧
    (XmlTexts (report.givenTexts ++ lines) →
      XmlTexts (report.process lines).report.shownTexts) := by
  refine ⟨Xml.xmlChars_render _, fun htexts => ?_⟩
  obtain ⟨hgiven, hlines⟩ := XmlTexts.append.mp htexts
  simp only [givenTexts, List.cons_append, XmlTexts.cons, XmlTexts.append, XmlTexts.flatMap] at hgiven
  obtain ⟨htitle, hdescription, hfields⟩ := hgiven
  have hafter := (run_ends (loaded_sound h) ⟨lines.map .line, none⟩ none).2
  have hcells := run_filledFrom (loaded_sound h) ⟨lines.map .line, none⟩ none
  rw [Reading.lines_map] at hcells
  simp only [shownTexts, List.cons_append, XmlTexts.cons, XmlTexts.append, XmlTexts.flatMap]
  refine ⟨?_, ?_, ?_⟩
  · rw [process, hafter]
    exact htitle
  · rw [process, hafter]
    exact hdescription
  · intro group hgroup cell hcell
    exact (hcells cell (List.mem_flatMap.mpr ⟨group, hgroup, hcell⟩)).xmlTexts hfields
      (XmlTexts.cons.mpr ⟨by simp, hlines⟩)

def fixedText : String := "title T\nsection body fieldset include_filters \"A\" fixed 0 2\n"

/-- A definition and lines that have allowed characters only make such a document. -/
theorem process_xmlChars_plain : ∃ report : Report, report.IsLoaded fixedText ∧
    XmlTexts (report.givenTexts ++ ["A1"]) ∧
    XmlChars (Xml.render (report.process ["A1"]).report) := by
  obtain ⟨report, hload, hcheck⟩ := exists_of_loads fixedText rfl
    (fun report => (report.givenTexts ++ ["A1"]).all fun text => text.toList.all isXmlChar)
    (by decide +kernel)
  have htexts : XmlTexts (report.givenTexts ++ ["A1"]) := by
    simpa only [XmlTexts, XmlChars, List.all_eq_true] using hcheck
  obtain ⟨hdocument, hshown⟩ := process_xmlChars (ofText_isLoaded hload) ["A1"]
  exact ⟨report, ofText_isLoaded hload, htexts, hdocument.mpr (hshown htexts)⟩

/-- A form feed of a line stands in the document, in which XML does not allow it. -/
theorem process_form_feed : ¬∀ (report : Report) (text : String) (lines : List String),
    report.IsLoaded text → XmlChars (Xml.render (report.process lines).report) := by
  obtain ⟨report, hload, hcheck⟩ := exists_of_loads fixedText rfl
    (fun report => (Xml.render (report.process ["A\x0c"]).report).any (!isXmlChar ·))
    (by decide +kernel)
  intro hall
  obtain ⟨c, hc, hchar⟩ := List.any_eq_true.mp hcheck
  have hallowed := hall report fixedText ["A\x0c"] (ofText_isLoaded hload) c hc
  simp [hallowed] at hchar

end Report

end ListingGrid
