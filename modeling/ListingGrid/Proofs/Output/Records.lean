import ListingGrid.Output.Render
import ListingGrid.Proofs.Report.Pieces
import ListingGrid.Proofs.Text.Encoded

/-!
# Records read back as the grid

A reader of delimited text that does not know the writer: fields stand between delimiters, a
record ends with its line, and in a quoted field nothing but a quote that is not doubled has a
meaning. A line without characters is no record. From the text of a report it reads one record for
each row, with the displays of the row's cells.
-/

set_option autoImplicit false

namespace ListingGrid

namespace Csv

inductive Place where
  | line
  | field
  | plain (seen : List Char)
  | quoted (seen : List Char)
  /-- Behind a quote in a quoted field, which ends the field unless it is doubled. -/
  | closed (seen : List Char)

structure Reader where
  place : Place
  fields : List (List Char)
  records : List (List (List Char))

def isLineEnd (c : Char) : Bool := c == '\n' || c == '\r'

namespace Reader

def move (r : Reader) (place : Place) : Reader := { r with place }

/-- Ends a field of which the characters were seen, and the record with it at a line end. -/
def close (delimiter : Char) (r : Reader) (seen : List Char) (c : Char) : Option Reader :=
  if c = delimiter then some ⟨.field, r.fields ++ [seen.reverse], r.records⟩
  else if isLineEnd c then some ⟨.line, [], r.records ++ [r.fields ++ [seen.reverse]]⟩
  else none

/-- The first character of a field, or the one behind a field without characters. -/
def start (delimiter : Char) (r : Reader) (c : Char) : Option Reader :=
  if c = '"' then some (r.move (.quoted []))
  else (r.close delimiter [] c).or (some (r.move (.plain [c])))

def step (delimiter : Char) (r : Reader) (c : Char) : Option Reader :=
  match r.place with
  | .line => if isLineEnd c then some r else r.start delimiter c
  | .field => r.start delimiter c
  | .plain seen =>
    if c = '"' then none
    else (r.close delimiter seen c).or (some (r.move (.plain (c :: seen))))
  | .quoted seen =>
    some (r.move (if c = '"' then .closed seen else .quoted (c :: seen)))
  | .closed seen =>
    if c = '"' then some (r.move (.quoted ('"' :: seen))) else r.close delimiter seen c

def run (delimiter : Char) (r : Reader) (cs : List Char) : Option Reader :=
  cs.foldlM (step delimiter) r

/-- The records of a text that ends here. The last one may lack its line end. -/
def finish (r : Reader) : Option (List (List (List Char))) :=
  match r.place with
  | .line => some r.records
  | .field => some (r.records ++ [r.fields ++ [[]]])
  | .plain seen | .closed seen => some (r.records ++ [r.fields ++ [seen.reverse]])
  | .quoted _ => none

end Reader

def read (delimiter : Char) (text : String) : Option (List (List String)) :=
  ((⟨.line, [], []⟩ : Reader).run delimiter text.toList).bind fun r =>
    r.finish.map (·.map (·.map String.ofList))

/-- The bytes that part fields: those of ASCII characters but quotes and line ends. -/
structure IsDelimiter (delimiter : Nat) : Prop where
  ascii : delimiter < 128
  not_quote : delimiter ≠ '"'.toNat
  not_lineFeed : delimiter ≠ '\n'.toNat
  not_return : delimiter ≠ '\r'.toNat

theorem joinWith_cons {α : Type} (separator : α) (piece : List α) {more : List (List α)}
    (h : more ≠ []) :
    joinWith separator (piece :: more) = piece ++ separator :: joinWith separator more := by
  obtain ⟨next, rest, rfl⟩ := List.exists_cons_of_ne_nil h
  rfl

variable {delimiter : Nat}

def isSpecial (delimiter : Nat) (c : Char) : Bool :=
  c == '"' || isLineEnd c || c == Char.ofNat delimiter

theorem needsQuotes_eq (h : IsDelimiter delimiter) (field : List Char) :
    needsQuotes delimiter field = field.any (isSpecial delimiter) := by
  have hbytes : delimiter ∈ bytesOf field ↔ ∃ c ∈ field, c = Char.ofNat delimiter := by
    rw [bytesOf, Text.mem_bytes_ofList h.ascii]
    simp
  rw [needsQuotes, Bool.eq_iff_iff, Bool.or_eq_true_iff, List.contains_iff_mem, hbytes]
  simp only [List.any_eq_true, isSpecial, isLineEnd, Bool.or_eq_true, beq_iff_eq, ← exists_or,
    ← and_or_left]
  exact exists_congr fun c => and_congr_right fun _ => by tauto

namespace IsDelimiter

theorem toNat_char (h : IsDelimiter delimiter) : (Char.ofNat delimiter).toNat = delimiter :=
  Text.toNat_ofNat h.ascii

theorem ne_quote (h : IsDelimiter delimiter) : Char.ofNat delimiter ≠ '"' :=
  fun he => h.not_quote (by rw [← he, h.toNat_char])

theorem not_isLineEnd (h : IsDelimiter delimiter) : isLineEnd (Char.ofNat delimiter) = false := by
  have hfeed : Char.ofNat delimiter ≠ '\n' := fun he => h.not_lineFeed (by rw [← he, h.toNat_char])
  have hreturn : Char.ofNat delimiter ≠ '\r' := fun he => h.not_return (by rw [← he, h.toNat_char])
  simp [isLineEnd, hfeed, hreturn]

theorem ne_lineFeed (h : IsDelimiter delimiter) : '\n' ≠ Char.ofNat delimiter :=
  fun he => h.not_lineFeed (by rw [he, h.toNat_char])

end IsDelimiter

namespace Reader

theorem run_cons {r t : Reader} {c : Char} {d : Char} (h : r.step d c = some t)
    (cs : List Char) : r.run d (c :: cs) = t.run d cs := by
  simp [run, h]

theorem run_plain {field : List Char} (h : field.any (isSpecial delimiter) = false)
    (fields : List (List Char)) (records : List (List (List Char))) (seen rest : List Char) :
    (⟨.plain seen, fields, records⟩ : Reader).run (Char.ofNat delimiter) (field ++ rest) =
      (⟨.plain (field.reverse ++ seen), fields, records⟩ : Reader).run (Char.ofNat delimiter)
        rest := by
  induction field generalizing seen with
  | nil => rfl
  | cons c more ih =>
    obtain ⟨hc, hmore⟩ := Bool.or_eq_false_iff.mp h
    have hplain : c ≠ '"' ∧ isLineEnd c = false ∧ c ≠ Char.ofNat delimiter := by
      simpa [isSpecial, and_assoc] using hc
    rw [List.cons_append, run_cons (t := ⟨.plain (c :: seen), fields, records⟩), ih hmore]
    · simp
    · simp [step, close, move, hplain]

/-- A quoted field is read up to the quote that ends it. -/
theorem run_quoted (d : Char) (field : List Char) (fields : List (List Char))
    (records : List (List (List Char))) (seen rest : List Char) :
    (⟨.quoted seen, fields, records⟩ : Reader).run d (doubleQuotes field ++ rest) =
      (⟨.quoted (field.reverse ++ seen), fields, records⟩ : Reader).run d rest := by
  induction field generalizing seen with
  | nil => rfl
  | cons c more ih =>
    have hnext := ih (c :: seen)
    by_cases hc : c = '"'
    · subst hc
      rw [doubleQuotes, if_pos rfl, List.cons_append, List.cons_append,
        run_cons (t := ⟨.closed seen, fields, records⟩) (by simp [step, move]),
        run_cons (t := ⟨.quoted ('"' :: seen), fields, records⟩) (by simp [step, move]), hnext]
      simp
    · rw [doubleQuotes, if_neg hc, List.cons_append,
        run_cons (t := ⟨.quoted (c :: seen), fields, records⟩) (by simp [step, move, hc]), hnext]
      simp

theorem close_delimiter (d : Char) (r : Reader) (seen : List Char) :
    r.close d seen d = some ⟨.field, r.fields ++ [seen.reverse], r.records⟩ :=
  if_pos rfl

theorem close_lineEnd {d c : Char} (hc : isLineEnd c = true) (hd : c ≠ d) {r : Reader}
    {seen : List Char} :
    r.close d seen c = some ⟨.line, [], r.records ++ [r.fields ++ [seen.reverse]]⟩ := by
  rw [close, if_neg hd, if_pos hc]

def AtField (r : Reader) : Prop := r.place = .line ∨ r.place = .field

/-- In front of a field, a character other than a quote ends a field without characters or is the
first one of a plain field. -/
theorem step_start {d : Char} {r : Reader} (hr : r.AtField) {c : Char} (hc : c ≠ '"')
    (hline : r.place = .line → isLineEnd c = false) :
    r.step d c = (r.close d [] c).or (some (r.move (.plain [c]))) := by
  rcases hr with hr | hr
  · simp [step, hr, start, hc, hline hr]
  · simp [step, hr, start, hc]

/-- A quoted field is read, by the character behind its last quote. -/
theorem run_quotedField (d : Char) {r : Reader} (hr : r.AtField) (field : List Char) {c : Char}
    (hquote : c ≠ '"') (rest : List Char) :
    r.run d ('"' :: (doubleQuotes field ++ '"' :: c :: rest)) =
      (r.close d field.reverse c).bind (·.run d rest) := by
  obtain ⟨place, fields, records⟩ := r
  have hopen : (⟨place, fields, records⟩ : Reader).step d '"' = some ⟨.quoted [], fields, records⟩ := by
    rcases hr with hr | hr <;> cases hr <;> simp [step, start, move, isLineEnd]
  have hclosed : (⟨.closed field.reverse, fields, records⟩ : Reader).step d c =
      (⟨place, fields, records⟩ : Reader).close d field.reverse c := by
    simp [step, close, hquote]
  rw [run_cons hopen, run_quoted, List.append_nil,
    run_cons (t := ⟨.closed field.reverse, fields, records⟩) (by simp [step, move]), ← hclosed]
  simp [run]

/-- A field without special characters is read, by the character behind it. -/
theorem run_plainField (h : IsDelimiter delimiter) {r : Reader} (hr : r.AtField) {field : List Char}
    (hspecial : field.any (isSpecial delimiter) = false) {c : Char} (hquote : c ≠ '"')
    (hc : c = Char.ofNat delimiter ∨ isLineEnd c = true)
    (hline : r.place = .line → field = [] → isLineEnd c = false) (rest : List Char) :
    r.run (Char.ofNat delimiter) (field ++ c :: rest) =
      (r.close (Char.ofNat delimiter) field.reverse c).bind (·.run (Char.ofNat delimiter) rest) := by
  obtain ⟨place, fields, records⟩ := r
  cases field with
  | nil =>
    obtain ⟨next, hnext⟩ : ∃ next,
        (⟨place, fields, records⟩ : Reader).close (Char.ofNat delimiter) [] c = some next := by
      by_cases hd : c = Char.ofNat delimiter
      · exact ⟨_, by rw [hd, close_delimiter]⟩
      · exact ⟨_, close_lineEnd (hc.resolve_left hd) hd⟩
    have hstep := step_start (d := Char.ofNat delimiter) hr hquote fun hp => hline hp rfl
    rw [hnext, Option.some_or] at hstep
    rw [List.nil_append, run_cons hstep, List.reverse_nil, hnext, Option.bind_some]
  | cons f more =>
    obtain ⟨hf, hmore⟩ := Bool.or_eq_false_iff.mp hspecial
    have hother : f ≠ '"' ∧ isLineEnd f = false ∧ f ≠ Char.ofNat delimiter := by
      simpa [isSpecial, and_assoc] using hf
    have hstep := step_start (d := Char.ofNat delimiter) hr hother.1 fun _ => hother.2.1
    have hopen : (⟨place, fields, records⟩ : Reader).close (Char.ofNat delimiter) [] f = none := by
      simp [close, hother]
    have hplain : ∀ seen, (⟨.plain seen, fields, records⟩ : Reader).step (Char.ofNat delimiter) c =
        (⟨place, fields, records⟩ : Reader).close (Char.ofNat delimiter) seen c := by
      intro seen
      rcases hc with rfl | hc
      · simp [step, close, hquote]
      · by_cases hd : c = Char.ofNat delimiter
        · simp [step, close, hd, h.ne_quote]
        · simp [step, close, hquote, hd, hc]
    rw [hopen, Option.none_or] at hstep
    rw [List.cons_append, run_cons hstep, move, run_plain hmore, List.reverse_cons, ← hplain]
    simp [run]

/-- A field is read as it was before it was written, by the character behind it. A line end in
front of a record is none. -/
theorem run_fieldText (h : IsDelimiter delimiter) {r : Reader} (hr : r.AtField) {field : List Char}
    {c : Char} (hc : c = Char.ofNat delimiter ∨ isLineEnd c = true)
    (hline : r.place = .line → field = [] → isLineEnd c = false) (rest : List Char) :
    r.run (Char.ofNat delimiter) (fieldText delimiter field ++ c :: rest) =
      (r.close (Char.ofNat delimiter) field.reverse c).bind (·.run (Char.ofNat delimiter) rest) := by
  have hquote : c ≠ '"' := by
    rintro rfl
    rcases hc with hc | hc
    · exact h.ne_quote hc.symm
    · simp [isLineEnd] at hc
  rw [fieldText, needsQuotes_eq h]
  split
  · rw [List.cons_append, List.cons_append, List.append_assoc, List.singleton_append]
    exact run_quotedField _ hr field hquote rest
  · next hspecial => exact run_plainField h hr (by simpa using hspecial) hquote hc hline rest

/-- The fields of a record are read one after the other, up to the line end behind the last. -/
theorem run_fields (h : IsDelimiter delimiter) {fields : List (List Char)} (hne : fields ≠ [])
    {r : Reader} (hr : r.AtField) (hline : r.place = .line → fields ≠ [[]]) (rest : List Char) :
    r.run (Char.ofNat delimiter)
        (joinWith (Char.ofNat delimiter) (fields.map (fieldText delimiter)) ++ '\n' :: rest) =
      (⟨.line, [], r.records ++ [r.fields ++ fields]⟩ : Reader).run (Char.ofNat delimiter) rest := by
  have hfeed : isLineEnd '\n' = true := rfl
  induction fields generalizing r with
  | nil => exact absurd rfl hne
  | cons field more ih =>
    cases more with
    | nil =>
      have hfield : r.place = .line → field = [] → isLineEnd '\n' = false :=
        fun hp hf => absurd (by rw [hf]) (hline hp)
      rw [List.map_singleton, joinWith, run_fieldText h hr (.inr hfeed) hfield,
        close_lineEnd hfeed h.ne_lineFeed, List.reverse_reverse, Option.bind_some]
    | cons next more =>
      rw [List.map_cons, joinWith_cons _ _ (by simp), List.append_assoc, List.cons_append,
        run_fieldText h hr (.inl rfl) (fun _ _ => h.not_isLineEnd), close_delimiter,
        List.reverse_reverse, Option.bind_some]
      have hnext := ih (List.cons_ne_nil next more)
        (r := ⟨.field, r.fields ++ [field], r.records⟩) (.inr rfl) nofun
      rw [hnext, List.append_assoc, List.singleton_append]

theorem run_recordText (h : IsDelimiter delimiter) {fields : List (List Char)} (hne : fields ≠ [])
    (records : List (List (List Char))) (rest : List Char) :
    (⟨.line, [], records⟩ : Reader).run (Char.ofNat delimiter)
        (recordText delimiter fields ++ rest) =
      (⟨.line, [], records ++ [fields]⟩ : Reader).run (Char.ofNat delimiter) rest := by
  unfold recordText
  split
  · -- A line without characters would be no record, so this one has two quotes.
    have hclose : (⟨.closed [], [], records⟩ : Reader).close (Char.ofNat delimiter) [] '\n' =
        some ⟨.line, [], records ++ [[[]]]⟩ := close_lineEnd rfl h.ne_lineFeed
    rw [List.cons_append, List.cons_append, List.cons_append, List.nil_append,
      run_cons (t := ⟨.quoted [], [], records⟩) (by simp [step, start, move, isLineEnd]),
      run_cons (t := ⟨.closed [], [], records⟩) (by simp [step, move]),
      run_cons (t := ⟨.line, [], records ++ [[[]]]⟩) (by simpa [step] using hclose)]
  · next hfields =>
    rw [List.append_assoc, List.singleton_append, run_fields h hne (.inl rfl) fun _ => hfields]
    simp

end Reader

/-- Records that have fields are read as they were before they were written. -/
theorem read_records (h : IsDelimiter delimiter) (records : List (List (List Char)))
    (hne : ∀ fields ∈ records, fields ≠ []) :
    read (Char.ofNat delimiter) (String.ofList (records.flatMap (recordText delimiter))) =
      some (records.map (·.map String.ofList)) := by
  have hrun : ∀ before, (⟨.line, [], before⟩ : Reader).run (Char.ofNat delimiter)
      (records.flatMap (recordText delimiter)) = some ⟨.line, [], before ++ records⟩ := by
    induction records with
    | nil => intro before; simp [Reader.run]
    | cons fields more ih =>
      intro before
      rw [List.flatMap_cons, Reader.run_recordText h (hne fields (by simp)),
        ih (fun f hf => hne f (by simp [hf]))]
      simp
  rw [read, String.toList_ofList, hrun [], Option.bind_some]
  simp [Reader.finish]

theorem flatMap_joinWith {α β : Type} {f : α → List β} {a : α} {b : β} (h : f a = [b])
    (pieces : List (List α)) :
    (joinWith a pieces).flatMap f = joinWith b (pieces.map (·.flatMap f)) := by
  induction pieces with
  | nil => rfl
  | cons piece more ih =>
    cases more with
    | nil => rfl
    | cons next rest =>
      rw [joinWith_cons a piece (List.cons_ne_nil next rest), List.flatMap_append,
        List.flatMap_cons, h, ih]
      rfl

/-- A delimiter of ASCII is one byte, so that a file of records holds their text. -/
theorem recordBytes_eq (h : IsDelimiter delimiter) (fields : List (List Char)) :
    recordBytes delimiter fields = bytesOf (recordText delimiter fields) := by
  unfold recordBytes
  split
  · rfl
  · next hfields =>
    have hfeed : Text.charBytes '\n' = ['\n'.toNat] := Text.charBytes_ascii (by decide)
    have htext : recordText delimiter fields =
        joinWith (Char.ofNat delimiter) (fields.map (fieldText delimiter)) ++ ['\n'] := by
      unfold recordText
      split
      · exact absurd rfl hfields
      · rfl
    rw [htext, bytesOf, Text.bytes_ofList, List.flatMap_append, List.flatMap_singleton, hfeed,
      flatMap_joinWith (Text.charBytes_ascii h.ascii), List.map_map]
    congr 2
    exact List.map_congr_left fun field _ => Text.bytes_ofList _

theorem renderBytes_eq (h : IsDelimiter delimiter) (report : Report) :
    renderBytes delimiter report = Text.bytes (String.ofList (render delimiter report)) := by
  rw [renderBytes, render, Text.bytes_ofList, List.flatMap_assoc]
  exact List.flatMap_congr fun row _ => (recordBytes_eq h _).trans (Text.bytes_ofList _)

/-- Fields that are set one column after the other fill the first columns. -/
theorem foldl_fields {cells : List Cell} (h : cells.map (·.column) = List.range cells.length)
    {columns : Nat} (hle : cells.length ≤ columns) :
    (cells.foldl (fun fields cell => fields.setIfInBounds cell.column cell.value.display.toList)
      (Array.replicate columns [])).toList =
      cells.map (fun cell => cell.value.display.toList) ++
        List.replicate (columns - cells.length) [] := by
  induction cells using List.reverseRecOn with
  | nil => simp
  | append_singleton cells cell ih =>
    simp only [List.length_append, List.length_singleton, List.map_append, List.map_singleton,
      List.range_succ] at h hle ⊢
    obtain ⟨hcells, hcell⟩ := List.append_inj' h rfl
    have hcolumn : cell.column = cells.length := List.singleton_inj.mp hcell
    rw [List.foldl_append, List.foldl_cons, List.foldl_nil, Array.toList_setIfInBounds,
      ih hcells (by omega), hcolumn, List.set_append_right _ _ (by simp)]
    obtain ⟨k, hk⟩ : ∃ k, columns - cells.length = k + 1 := ⟨columns - cells.length - 1, by omega⟩
    have hrest : columns - (cells.length + 1) = k := by omega
    simp [hk, hrest, List.replicate_succ]

theorem foldl_columns {cells : List Cell} (h : cells.map (·.column) = List.range cells.length) :
    cells.foldl (fun columns cell => max columns (cell.column + 1)) 0 = cells.length := by
  induction cells using List.reverseRecOn with
  | nil => rfl
  | append_singleton cells cell ih =>
    simp only [List.length_append, List.length_singleton, List.map_append, List.map_singleton,
      List.range_succ] at h ⊢
    obtain ⟨hcells, hcell⟩ := List.append_inj' h rfl
    have hcolumn : cell.column = cells.length := List.singleton_inj.mp hcell
    rw [List.foldl_append, List.foldl_cons, List.foldl_nil, ih hcells, hcolumn]
    exact Nat.max_eq_right (Nat.le_succ _)

/-- Where the cells of a row stand side by side, its fields are their displays. -/
theorem fieldsOf_eq {row : Row}
    (h : row.cells.map (·.column) = List.range row.cells.length) :
    fieldsOf row = row.cells.map fun cell => cell.value.display.toList := by
  have hcolumns : columnsOf row = row.cells.length := foldl_columns h
  rw [fieldsOf, foldl_fields h (Nat.le_of_eq hcolumns.symm), hcolumns]
  simp

end Csv

namespace Report

/-- A head of one empty cell, and lines of two kinds, of which those of the first kind keep their
row open. -/
def recordsText : String :=
  "title T\nsection header fieldset empty body fieldset include_filters \"A\" keep_in_row " ++
    "fixed 0 4 fieldset include_filters \"B\" fixed 1 4 empty 2\n"

/-- From the text of a pass a reader has one record for each row of the grid, in order, and in it
the displays of the row's cells, whatever the delimiter. A file holds the bytes of that text. -/
theorem csv_reads_back {report : Report} {text : String} (h : report.IsLoaded text)
    (reading : Reading) (path : Option Path) {options : RenderOptions}
    (hd : Csv.IsDelimiter options.delimiter) :
    ∃ csv, (report.run reading path).report.renderText .csv options = .ok csv ∧
      (report.run reading path).report.contents .csv options = .ok (.bytes (Text.bytes csv)) ∧
      Csv.read (Char.ofNat options.delimiter) csv =
        some ((report.run reading path).report.groups.toList.flatMap fun group =>
          group.rows.toList.map fun row => row.cells.map (·.value.display)) := by
  have hsound := loaded_sound h
  have hgeometry := (run_geometry h reading path).1
  have hpieced := run_pieced hsound reading path
  set after := (report.run reading path).report
  have hfields : ∀ row ∈ Csv.rowsOf after,
      Csv.fieldsOf row = row.cells.map (fun cell => cell.value.display.toList) ∧
        Csv.fieldsOf row ≠ [] := by
    intro row hrow
    obtain ⟨group, hgroup, hrow⟩ := List.mem_flatMap.mp hrow
    have hcells := Csv.fieldsOf_eq (hgeometry.columns group hgroup row hrow)
    exact ⟨hcells, by simpa [hcells] using (hpieced group hgroup row hrow).cells_ne hsound.sections⟩
  have hascii : Csv.isText options.delimiter after = true := by simp [Csv.isText, hd.ascii]
  refine ⟨_, by rw [renderText, if_pos hascii], by rw [contents, Csv.renderBytes_eq hd], ?_⟩
  have hread := Csv.read_records hd ((Csv.rowsOf after).map Csv.fieldsOf)
    (by simpa using fun row hrow => (hfields row hrow).2)
  have hrecords : ((Csv.rowsOf after).map Csv.fieldsOf).map (·.map String.ofList) =
      (Csv.rowsOf after).map fun row => row.cells.map (·.value.display) := by
    rw [List.map_map]
    refine List.map_congr_left fun row hrow => ?_
    rw [Function.comp_apply, (hfields row hrow).1, List.map_map]
    exact List.map_congr_left fun cell _ => String.ofList_toList
  rw [hrecords, List.flatMap_map] at hread
  rw [Csv.render, hread, Csv.rowsOf, List.map_flatMap]

/-- Quotes, delimiters and line ends stand in the fields of a merged row, and a row of one empty
cell is there. -/
theorem csv_reads_back_quoted : ∃ report : Report, report.IsLoaded recordsText ∧
    Csv.IsDelimiter RenderOptions.default.delimiter ∧
    ∃ csv, (report.run ⟨[.line "A;\"1", .line "A\n", .line "B\"\"\""], none⟩ none).report.renderText
        .csv RenderOptions.default = .ok csv ∧
      Csv.read ';' csv = some [[""], ["A;\"1", "A\n", "\"\"\"", "", ""]] := by
  obtain ⟨report, hload, hcheck⟩ := exists_of_loads recordsText (append_eq_ofList rfl rfl)
    (fun report => ((report.run ⟨[.line "A;\"1", .line "A\n", .line "B\"\"\""], none⟩
        none).report.groups.toList.flatMap fun group =>
          group.rows.toList.map fun row => row.cells.map (·.value.display)) ==
      [[""], ["A;\"1", "A\n", "\"\"\"", "", ""]]) (by decide +kernel)
  have hd : Csv.IsDelimiter RenderOptions.default.delimiter :=
    ⟨by decide, by decide, by decide, by decide⟩
  obtain ⟨csv, hcsv, -, hread⟩ := csv_reads_back (ofText_isLoaded hload)
    ⟨[.line "A;\"1", .line "A\n", .line "B\"\"\""], none⟩ none hd
  rw [beq_iff_eq.mp hcheck] at hread
  exact ⟨report, ofText_isLoaded hload, hd, csv, hcsv, hread⟩

end Report

end ListingGrid
