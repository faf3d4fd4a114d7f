import ListingGrid.Proofs.Definition.Sections
import ListingGrid.Proofs.Definition.Styles

/-!
# Reading whole definitions

A definition that was written is read back in any layout, with the lines of its fields.
The title ends with its line and the description with its mark; every other part ends
where the keyword of a later one stands.
-/

set_option autoImplicit false

namespace ListingGrid.Grammar.Report

open ListingGrid.Grammar.Parser

variable {source rest : List Char} {ts more : List Token} {names : List String}
  {Next : List Token → Prop}

def afterWidths : List String := ["exclude_filters", "style", "section"]

def afterEncoding : List String := "columns_width" :: afterWidths

def afterDescription : List String := "encoding" :: afterEncoding

theorem caseless_isEncodingChar : Text.Caseless isEncodingChar :=
  (Text.caseless_isAlphanumeric.or (Text.caseless_beq rfl)).or (Text.caseless_beq rfl)

theorem ofLabel?_label {w : List Char} (e : Encoding)
    (hw : Text.lowerAll w = Text.lowerAll e.label.toList) :
    Encoding.ofLabel? (string w) = some e := by
  have hlabel : Encoding.ofLabel? e.label = some e := by cases e <;> decide
  simp only [Encoding.ofLabel?, Text.sameText, Text.sameWord, string, String.toList_ofList] at hlabel ⊢
  rw [hw]
  exact hlabel

theorem reads_encoding (e : Encoding) : Reads source encoding [.word e.label] Next (Only e) := by
  have hlabel : e.label.toList.all isEncodingChar = true := by cases e <;> decide
  have hhead : e.label.toList.head?.any isLeadChar = true := by cases e <;> decide
  refine Reads.lexeme (fun _ => rfl) ?_ ?_
  · rintro w ⟨hw⟩
    exact begins_of_head hhead hw
  · rintro w rest ⟨hw⟩ hrest
    have hne : w ≠ [] := (begins_of_head hhead hw).ne_nil
    refine label_eq_done.mpr (filterMap_eq_done.mpr ⟨w, ?_, ofLabel?_label e hw⟩)
    exact takeWhile1_append ((caseless_isEncodingChar.all hw).trans hlabel) hne
      (hrest.stops_of (by decide))

theorem reads_widths {items : List Nat} (hsome : items ≠ [])
    (hitems : ∀ width ∈ items, width < Nat.pow 2 32) :
    Reads source widths (items.map naturalToken) (Follows afterWidths) (Only items) := by
  have heach : Each (fun width ts => [naturalToken width] = ts) items (items.map naturalToken) := by
    rw [List.map_eq_flatMap]
    exact each_flatMap (fun _ => rfl) items
  refine ((Reads.many1 (M := fun _ => True) (R := Only) heach hsome ?_ ?_ (fun _ _ => trivial)
    (by decide) (natural_misses (by decide))).mono fun _ _ htogether => htogether.only).label _
  · rintro width hwidth _ rfl
    exact Reads.natural (hitems width hwidth)
  · rintro width _ others rfl
    exact ⟨by simp, trivial⟩

theorem descriptionEnd_space : ∀ c ∈ descriptionEnd.toList, Text.isSpace c = false := by
  have hall : descriptionEnd.toList.all (fun c => !Text.isSpace c) = true := by decide
  exact fun c hc => by simpa using List.all_eq_true.mp hall c hc

theorem isWordChar_of_isSpace {c : Char} (h : Text.isSpace c = true) :
    Text.isWordChar c = false := by
  cases hword : Text.isWordChar c with
  | false => rfl
  | true =>
    have hlt := ascii_of_isWordChar hword
    rw [Text.isWordChar_iff, Text.isAlphanumeric_iff, Text.isLetter_iff, Text.isLower_iff,
      Text.isUpper_iff, Text.isDigit_iff] at hword
    simp only [Text.isSpace, Bool.or_eq_true, Bool.and_eq_true, decide_eq_true_eq, beq_iff_eq] at h
    rcases hword with hword | rfl
    · omega
    · simp at h

/-- A text between its marks, with white space around it. -/
theorem description_done {text : String} {before after : List Char}
    (htext : IsDescription text.toList) (hbefore : before.all Text.isSpace = true)
    (hafter : after.all Text.isSpace = true) (rest : List Char) :
    description (before ++ text.toList ++ after ++ (descriptionEnd.toList ++ rest)) =
      .done text rest := by
  have hmark : ¬descriptionEnd.toList <:+: before ++ text.toList ++ after := fun hinside =>
    htext.mark (Text.infix_of_infix_surround (by decide) descriptionEnd_space hbefore hafter hinside)
  have hcut : takeUntil descriptionEnd.toList
      (before ++ text.toList ++ after ++ (descriptionEnd.toList ++ rest)) =
      .done (before ++ text.toList ++ after) rest := by
    have hend : descriptionEnd.toList = '/' :: "description".toList := by decide
    rw [hend] at hmark ⊢
    unfold takeUntil
    rw [Text.cutAround?_append (by decide) hmark rest]
  refine label_eq_done.mpr (map_eq_done.mpr ⟨_, hcut, ?_⟩)
  rw [Text.trim_surround hbefore hafter, htext.trimmed, string, String.ofList_toList]

theorem reads_description {text : Option String}
    (htext : ∀ t, text = some t → IsDescription t.toList) :
    Reads source (clause "description" description) (text.map .description).toList
      (Follows afterDescription) (Only text) := by
  cases text with
  | none =>
    exact Reads.optional_none (bind_misses (keyword_misses (by decide) (by decide))) (by decide)
  | some t =>
    intro others s lines hnext hs
    have hname : IsKeyword "description" := by decide
    have hlower : ∀ {w : List Char}, Text.lowerAll w = "description".toList →
        Text.lowerAll w = Text.lowerAll "description".toList := fun hw => hw
    have hbegins : ∀ w, Spells (.description t) w → BeginsToken w := by
      intro _ hwritten
      cases hwritten with
      | description hw =>
        exact ((begins_of_lead hname.isLead hname.ne_empty (hlower hw)).append _).append _
    obtain ⟨w, rest, after, hskip, hw, hapart, hshort, hlines, hahead⟩ := hs.next hbegins
    cases hw with
    | @description _ w before behind hw hne hbefore hbehind =>
      have hstops : Stops Text.isWordChar (before ++ t.toList ++ behind ++
          (descriptionEnd.toList ++ rest)) := by
        intro c hc
        cases before with
        | nil => exact absurd rfl hne
        | cons d before =>
          obtain rfl : d = c := by simpa using hc
          exact isWordChar_of_isSpace (List.all_eq_true.mp hbefore d (by simp))
      have hkeyword : keyword "description" s = .done () (before ++ t.toList ++ behind ++
          (descriptionEnd.toList ++ rest)) := by
        rw [keyword, lexeme, hskip, List.append_assoc, List.append_assoc]
        exact hname.word_done (hlower hw) hstops
      have hdone : description (before ++ t.toList ++ behind ++ (descriptionEnd.toList ++ rest)) =
          .done t rest := description_done (htext t rfl) hbefore hbehind rest
      refine ⟨some t, [], rest, after, optional_some ?_, ⟨rfl, rfl⟩, hlines, hshort, hahead⟩
      exact bind_eq_done.mpr ⟨(), _, hkeyword, firmly_eq_done.mpr hdone⟩

theorem stops_beginsLine {accepts : Char → Bool} (hends : accepts '\r' = false ∧ accepts '\n' = false)
    (h : BeginsLine rest) : Stops accepts rest := by
  obtain ⟨more, rfl | rfl⟩ := h
  · rintro c ⟨rfl⟩
    exact hends.2
  · rintro c ⟨rfl⟩
    exact hends.1

/-- A title alone on its line, with spaces and tabs around it. -/
theorem title_done {text : String} {pad pad' : List Char} (htext : IsTitle text.toList)
    (hpad : ∀ c ∈ pad ++ pad', c = ' ' ∨ c = '\t') (hline : BeginsLine rest) :
    title (pad ++ text.toList ++ pad' ++ rest) = .done text rest := by
  have hspace : ∀ c, c = ' ' ∨ c = '\t' → Text.isSpace c = true := by
    rintro c (rfl | rfl) <;> decide
  have hplain : ∀ c ∈ pad ++ text.toList ++ pad', c ≠ '\r' ∧ c ≠ '\n' := by
    intro c hc
    simp only [List.mem_append] at hc hpad
    rcases hc with (hc | hc) | hc
    · rcases hpad c (.inl hc) with rfl | rfl <;> decide
    · exact htext.line c hc
    · rcases hpad c (.inr hc) with rfl | rfl <;> decide
  have htrim : Text.trim (pad ++ text.toList ++ pad') = text.toList := by
    rw [Text.trim_surround, htext.trimmed]
    · exact List.all_eq_true.mpr fun c hc => hspace c (hpad c (List.mem_append_left _ hc))
    · exact List.all_eq_true.mpr fun c hc => hspace c (hpad c (List.mem_append_right _ hc))
  generalize hbody : pad ++ text.toList ++ pad' = body at hplain htrim
  obtain ⟨run, line, rfl, hrun, hstops⟩ : ∃ run line, body = run ++ line ∧
      run.all (fun c => c == ' ' || c == '\t') = true ∧
      Stops (fun c => c == ' ' || c == '\t') (line ++ rest) := by
    refine ⟨_, _, List.takeWhile_append_dropWhile.symm, List.all_takeWhile, ?_⟩
    cases hdrop : body.dropWhile (fun c => c == ' ' || c == '\t') with
    | nil => exact stops_beginsLine (by decide) hline
    | cons c others =>
      rintro d ⟨rfl⟩
      have hnot := List.head?_dropWhile_not (fun c => c == ' ' || c == '\t') body
      rw [hdrop] at hnot
      simpa using hnot
  rw [List.append_assoc]
  refine bind_eq_done.mpr ⟨run, line ++ rest, takeWhile_append hrun hstops, ?_⟩
  refine map_eq_done.mpr ⟨line, restOfLine_done
    (fun c hc => hplain c (List.mem_append_right run hc)) hline, ?_⟩
  have hsame : Text.trim (run ++ line ++ []) = Text.trim line := by
    refine Text.trim_surround (List.all_eq_true.mpr fun c hc => hspace c ?_) rfl line
    simpa using List.all_eq_true.mp hrun c hc
  rw [List.append_nil, htrim] at hsame
  rw [← hsame, string, String.ofList_toList]

theorem written_style {style : Style} (h : style.Written ts) (more : List Token) :
    ts ≠ [] ∧ Follows ["style", "section"] (ts ++ more) := by
  obtain ⟨options, values, -, -, rfl⟩ := h
  exact ⟨by simp, by decide, by simp [Token.name]⟩

theorem reads_styles {items : List Style} (hitems : ∀ style ∈ items, style.Readable)
    (h : Each Style.Written items ts) :
    Reads source (many StyleBlock.style) ts (Follows ["section"]) (Only items) := by
  refine (Reads.many (R := Only) h
    (fun style hstyle ts hts => StyleBlock.reads_style (hitems style hstyle) hts)
    (fun _ _ _ hwritten => written_style hwritten _) (fun others hothers => hothers.mono (by decide))
    (by decide) StyleBlock.style_misses).mono fun _ _ htogether => htogether.only

theorem reads_encodingClause (e : Option Encoding) :
    Reads source (clause "encoding" encoding)
      (clauseTokens "encoding" (e.map fun e => Token.word e.label).toList) (Follows afterEncoding)
      (Only e) := by
  cases e with
  | none =>
    refine reads_clause (by decide) (by decide) (by decide) (fun _ => ⟨rfl, rfl⟩) ?_
    exact fun hne => absurd rfl hne
  | some e =>
    refine reads_clause (by decide) (by decide) (by decide) nofun fun _ => ?_
    refine (reads_encoding e).mono ?_
    rintro _ _ ⟨rfl, rfl⟩
    exact ⟨rfl, rfl⟩

theorem reads_widthsClause {items : List Nat} (hitems : ∀ width ∈ items, width < Nat.pow 2 32) :
    Reads source (clause "columns_width" widths)
      (clauseTokens "columns_width" (items.map naturalToken)) (Follows afterWidths)
      fun got own => Only items (got.getD []) own := by
  refine reads_clause (by decide) (by decide) (by decide) (fun hnil => ?_) fun hne => ?_
  · exact ⟨(List.map_eq_nil_iff.mp hnil).symm, rfl⟩
  · exact reads_widths (fun hnil => hne (by rw [hnil]; rfl)) hitems

theorem reads_filtersClause {items : List String} (hitems : ∀ text ∈ items, IsQuotedBody text.toList) :
    Reads source (clause "exclude_filters" quotedList)
      (clauseTokens "exclude_filters" (listTokens items)) (Follows ["style", "section"])
      fun got own => Only items (got.getD []) own := by
  refine reads_clause (by decide) (by decide) (by decide) (fun hnil => ?_) fun hne => ?_
  · cases items with
    | nil => exact ⟨rfl, rfl⟩
    | cons => simp [listTokens] at hnil
  · exact Reads.quotedList (fun hnil => hne (by rw [hnil]; rfl)) hitems (by decide) (by decide)

theorem reads_parts {d : Definition} (hd : d.Readable) (h : d.Written ts) :
    Reads source (do
      let descriptionText ← clause "description" description
      let enc ← clause "encoding" encoding
      let columnWidths ← clause "columns_width" widths
      let excludeFilters ← clause "exclude_filters" quotedList
      let styles ← many StyleBlock.style
      let sections ← many1 (sectionDefinition source)
      return (⟨d.title, descriptionText, enc, columnWidths.getD [], excludeFilters.getD [],
        styles, sections⟩ : Definition)) ts (Follows [""])
      fun got own => got.unlined = d.unlined ∧ own = got.lines := by
  obtain ⟨styles, sections, hstyles, hsections, rfl⟩ := h
  have hsectionFirst : ∀ others, Follows ["section"] (sections ++ others) := fun others =>
    (hsections.front hd.some fun _ _ _ hwritten => written_section hwritten _).2
  have hstyleFirst : ∀ others, Follows ["style", "section"] (styles ++ (sections ++ others)) :=
    fun others => hstyles.next (fun _ _ _ hwritten => written_style hwritten _)
      ((hsectionFirst others).mono (by decide))
  have hfilterFirst : ∀ others, Follows afterWidths
      (clauseTokens "exclude_filters" (listTokens d.excludeFilters) ++
        (styles ++ (sections ++ others))) :=
    fun others => Follows.clause (by decide) ((hstyleFirst others).mono (by decide))
  have hwidthFirst : ∀ others, Follows afterEncoding
      (clauseTokens "columns_width" (d.columnWidths.map naturalToken) ++
        (clauseTokens "exclude_filters" (listTokens d.excludeFilters) ++
          (styles ++ (sections ++ others)))) :=
    fun others => Follows.clause (by decide) ((hfilterFirst others).mono (by decide))
  refine (reads_description hd.description).seq (fun others _ => ?_)
    ((reads_encodingClause d.encoding).seq (fun others _ => ?_)
      ((reads_widthsClause hd.columnWidths).bind (fun others _ => ?_) ?_))
  · simp only [List.append_assoc]
    exact Follows.clause (by decide) ((hwidthFirst others).mono (by decide))
  · simpa only [List.append_assoc] using hwidthFirst others
  · simpa only [List.append_assoc] using hfilterFirst others
  rintro gotWidths _ ⟨hgotWidths, rfl⟩
  refine (reads_filtersClause hd.excludeFilters).bind (fun others _ => ?_) ?_
  · simpa only [List.append_assoc] using hstyleFirst others
  rintro gotFilters _ ⟨hgotFilters, rfl⟩
  refine (reads_styles hd.styles hstyles).seq (fun others _ => hsectionFirst others)
    ((reads_sections hd.some hd.sections hsections).give ?_)
  rintro got _ ⟨hsame, rfl⟩
  refine ⟨?_, rfl⟩
  simp only [Definition.unlined, hgotWidths, hgotFilters, hsame]

end ListingGrid.Grammar.Report
