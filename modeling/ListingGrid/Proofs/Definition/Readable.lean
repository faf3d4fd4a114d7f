import ListingGrid.Proofs.Definition.StyleOptions
import ListingGrid.Proofs.Formula.Idempotent
import ListingGrid.Proofs.Grammar.Fieldsets
import ListingGrid.Proofs.Text.Trim

/-!
# What readers of definitions give

Every part of a definition that was read can be written again: names are names, quoted
texts end where they should, numbers are within bounds, and what a keyword introduces is
not empty.
-/

set_option autoImplicit false

namespace ListingGrid

open ListingGrid.Grammar ListingGrid.Grammar.Parser

def Color.Readable : Color → Prop
  | .named _ => True
  | .code digits => ∃ code, digits = String.ofList ('#' :: code) ∧ code.length = 6 ∧
      code.all Text.isHexDigit = true ∧ Text.upperAll code = code

namespace Grammar.StyleBlock

def StyleOption.Readable : StyleOption → Prop
  | .format text | .font text => IsQuotedBody text.toList
  | .size points => points < Nat.pow 2 32
  | .border tint _ => ∀ c, tint = some c → c.Readable
  | .background tint | .color tint => tint.Readable
  | _ => True

end Grammar.StyleBlock

open StyleBlock (StyleOption)

structure Style.Readable (s : Style) : Prop where
  id : IsName s.id.toList
  options : ∀ option, s.Has option → option.Readable
  framed : s.Framed

def FieldSpec.Readable : FieldSpec → Prop
  | .extracted _ left right => fitsInt64 left = true ∧ fitsInt64 right = true
  | .empty count => fitsInt64 count = true
  | .const (.text text) => IsQuotedBody text.toList
  | .const (.number number) => ∀ i, number = .integer i → fitsInt64 i = true
  | .function formula => IsQuotedBody formula.toList ∨ Formula.IsFormula formula.toList

structure FieldDefinition.Readable (d : FieldDefinition) : Prop where
  spec : d.spec.Readable
  name : ∀ text, d.name = some text → IsName text.toList
  styleId : ∀ text, d.styleId = some text → IsName text.toList

structure FieldsetDefinition.ReadableSpecial (d : FieldsetDefinition) : Prop where
  plain : d.includeFilters = [] ∧ d.newRow = false ∧ d.keepInRow = false
  some : d.fields ≠ []
  fields : ∀ field ∈ d.fields, field.Readable ∧ field.spec.IsSpecial

structure FieldsetDefinition.Readable (d : FieldsetDefinition) : Prop where
  filtered : d.includeFilters ≠ []
  filters : ∀ text ∈ d.includeFilters, IsQuotedBody text.toList
  some : d.fields ≠ []
  fields : ∀ field ∈ d.fields, field.Readable

structure SectionDefinition.Readable (d : SectionDefinition) : Prop where
  header : ∀ fieldset ∈ d.header, fieldset.ReadableSpecial
  some : d.body ≠ []
  body : ∀ fieldset ∈ d.body, fieldset.Readable
  footer : ∀ fieldset ∈ d.footer, fieldset.ReadableSpecial

structure IsTitle (text : List Char) : Prop where
  trimmed : Text.trim text = text
  line : ∀ c ∈ text, c ≠ '\r' ∧ c ≠ '\n'

structure IsDescription (text : List Char) : Prop where
  trimmed : Text.trim text = text
  mark : ¬Report.descriptionEnd.toList <:+: text

structure Definition.Readable (d : Definition) : Prop where
  title : IsTitle d.title.toList
  description : ∀ text, d.description = some text → IsDescription text.toList
  columnWidths : ∀ width ∈ d.columnWidths, width < Nat.pow 2 32
  excludeFilters : ∀ text ∈ d.excludeFilters, IsQuotedBody text.toList
  styles : ∀ style ∈ d.styles, style.Readable
  some : d.sections ≠ []
  sections : ∀ s ∈ d.sections, s.Readable

namespace Grammar

variable {α : Type} {p : Parser α} {P : α → Prop}

theorem gives_lexeme (h : Gives p P) : Gives (lexeme p) P := fun s => h (skipBlank s)

theorem gives_filterMap {β : Type} {f : α → Option β} {Q : β → Prop} (hp : Gives p P)
    (h : ∀ a b, P a → f a = some b → Q b) : Gives (filterMap p f) Q := by
  intro s b rest hs
  obtain ⟨a, hread, hf⟩ := filterMap_eq_done.mp hs
  exact h a b (hp s a rest hread) hf

theorem gives_quoted : Gives (map String.ofList (lexeme quoted)) fun text =>
    IsQuotedBody text.toList := by
  refine gives_map fun s body rest hs => ?_
  simpa using (quoted_eq_done hs).2

theorem gives_name : Gives (lexeme identifier) IsName :=
  gives_lexeme fun _ _ _ hs => (identifier_eq_done.mp hs).2.1

theorem gives_natural : Gives (lexeme natural) (· < Nat.pow 2 32) := by
  refine gives_lexeme (gives_filterMap (gives_trivial _) fun run n _ hn => ?_)
  split at hn
  · next hlt => exact Option.some.inj hn ▸ hlt
  · simp at hn

theorem gives_integer : Gives integer fun i => fitsInt64 i = true := by
  refine gives_filterMap (gives_trivial _) fun run i _ hi => ?_
  simp only at hi
  generalize hvalue : (if run.1.isSome then -(Text.decimalValue run.2 : Int)
    else (Text.decimalValue run.2 : Int)) = value at hi
  split at hi
  · next hfits => exact Option.some.inj hi ▸ hfits
  · simp at hi

theorem gives_quotedList : Gives quotedList fun items =>
    items ≠ [] ∧ ∀ text ∈ items, IsQuotedBody text.toList := gives_sepBy1 gives_quoted

end Grammar

namespace Grammar.StyleBlock

theorem gives_color : Gives color Color.Readable := by
  refine gives_or (gives_map fun _ _ _ _ => trivial) ?_
  refine gives_bind (P := fun code => code.length = 6 ∧ code.all Text.isHexDigit = true) ?_
    fun code hcode => gives_after fun _ => gives_pure ?_
  · intro s code rest hs
    obtain ⟨-, hall, hleast, hmost⟩ := takeBetween_eq_done hs
    exact ⟨Nat.le_antisymm hmost hleast, hall⟩
  · refine ⟨Text.upperAll code, rfl, ?_, ?_, ?_⟩
    · simpa [Text.upperAll] using hcode.1
    · rw [Text.upperAll, List.all_map]
      refine List.all_eq_true.mpr fun c hc => ?_
      exact (Text.caseless_isHexDigit.upper c).trans (List.all_eq_true.mp hcode.2 c hc)
    · simp [Text.upperAll, Text.upper_upper]

theorem gives_border : Gives border StyleOption.Readable := by
  refine gives_or ?_ ?_
  · refine gives_bind (gives_lexeme gives_color) fun c hc => gives_after fun line => gives_pure ?_
    rintro _ ⟨rfl⟩
    exact hc
  · exact gives_after fun line => gives_bind (gives_optional (gives_lexeme gives_color))
      fun o ho => gives_pure ho

theorem gives_valued (name : String) {p : Parser StyleOption} (hp : Gives p StyleOption.Readable) :
    Gives (valued name p) StyleOption.Readable :=
  gives_after fun _ => gives_firmly hp

theorem gives_styleOption : Gives styleOption StyleOption.Readable := by
  have hflag : ∀ {option : StyleOption}, option.Readable → Gives (flag option) StyleOption.Readable :=
    fun h => gives_map fun _ _ _ _ => h
  have htext : Gives (lexeme quoted) fun text => IsQuotedBody (String.ofList text).toList := by
    intro s body rest hs
    simpa using (quoted_eq_done hs).2
  refine gives_firstOf (gives_valued _ (gives_map htext)) ?_
  simp only [List.forall_mem_cons, List.not_mem_nil, false_imp_iff, implies_true, and_true]
  refine ⟨gives_valued _ (gives_map htext),
    gives_valued _ (gives_map (gives_label gives_natural)), hflag trivial, hflag trivial,
    hflag trivial, hflag trivial, gives_valued _ (gives_map fun _ _ _ _ => trivial),
    gives_valued _ (gives_map fun _ _ _ _ => trivial), gives_valued _ (gives_label gives_border),
    gives_valued _ (gives_map (gives_label (gives_lexeme gives_color))),
    gives_valued _ (gives_map (gives_label (gives_lexeme gives_color))),
    hflag trivial, hflag trivial, hflag trivial, hflag trivial⟩

theorem apply_readable {option : StyleOption} {style : Style} (hoption : option.Readable)
    (h : style.Readable) : (option.apply style).Readable := by
  refine ⟨Style.id_apply (s := style) ▸ h.id, fun other hother => ?_, h.framed.apply option⟩
  rcases Style.has_apply.mp hother with rfl | ⟨hmem, -⟩
  · exact hoption
  · exact h.options other hmem

theorem gives_options (seen : List String) {style : Style} (h : style.Readable) :
    Gives (options seen style) Style.Readable := by
  intro s result rest hs
  fun_induction options seen style s with
  | case2 seen style s option left hread _ _ ih =>
    exact ih (apply_readable (gives_styleOption _ option left hread) h) hs
  | case1 | case5 => cases hs
  | case3 | case4 =>
    obtain ⟨rfl, -⟩ := Result.done.inj hs
    exact h

theorem gives_style : Gives style Style.Readable := by
  refine gives_after fun _ => gives_bind (gives_firmly (gives_label gives_name)) fun id hid => ?_
  exact gives_options [] ⟨by simpa [Style.plain] using hid,
    fun option hoption => absurd hoption (Style.not_has_plain _), fun _ => rfl⟩

end Grammar.StyleBlock

namespace Grammar.Report

theorem gives_title : Gives title fun text => IsTitle text.toList := by
  refine gives_after fun _ => gives_map fun s line rest hs => ?_
  have hline : ∀ c ∈ line, c ≠ '\r' ∧ c ≠ '\n' := by
    have htake : line = s.takeWhile (fun c => c != '\r' && c != '\n') := by
      unfold restOfLine at hs
      simp only at hs
      split at hs
      · exact (Result.done.inj hs).1.symm
      · simp at hs
      · exact (Result.done.inj hs).1.symm
    intro c hc
    rw [htake] at hc
    simpa using List.all_eq_true.mp List.all_takeWhile c hc
  simp only [string, String.toList_ofList]
  exact ⟨Text.trim_trim line, fun c hc => hline c ((Text.trim_infix line).mem hc)⟩

theorem gives_description : Gives description fun text => IsDescription text.toList := by
  refine gives_label (gives_map fun s raw rest hs => ?_)
  unfold takeUntil at hs
  split at hs
  · next before after hcut =>
    obtain ⟨rfl, rfl⟩ : before = raw ∧ after = rest := by simpa using hs
    obtain ⟨-, hmark⟩ := Text.cutAround?_eq_some (by decide) hcut
    simp only [string, String.toList_ofList]
    exact ⟨Text.trim_trim before, fun hinside => hmark (hinside.trans (Text.trim_infix before))⟩
  · simp at hs

theorem gives_constValue : Gives constValue fun value => (FieldSpec.const value).Readable := by
  refine gives_or (gives_map fun s body rest hs => ?_) (gives_map ?_)
  · simpa [FieldSpec.Readable, string] using (quoted_eq_done hs).2
  · refine gives_filterMap (gives_trivial _) ?_
    rintro ⟨sign, whole, fraction⟩ number - hnumber i rfl
    cases fraction with
    | some run => simp at hnumber
    | none =>
      simp only at hnumber
      generalize (if sign = some '-' then -(Text.decimalValue whole : Int)
        else (Text.decimalValue whole : Int)) = value at hnumber
      split at hnumber
      · next hfits =>
        obtain rfl := Number.integer.inj (Option.some.inj hnumber)
        exact hfits
      · simp at hnumber

theorem gives_formula : Gives Formula.formula fun text =>
    IsQuotedBody text ∨ Formula.IsFormula text := by
  intro s text rest hs
  rcases Formula.formula_cases hs with hquoted | hformula
  · exact .inl (quoted_eq_done hquoted).2
  · exact .inr hformula

theorem gives_specialField_readable : Gives specialField FieldSpec.Readable := by
  refine gives_firstOf ?_ ?_
  · refine gives_after fun _ => gives_bind (gives_optional (gives_lexeme gives_integer)) fun o ho => gives_pure ?_
    cases o with
    | none => exact (by decide : fitsInt64 1 = true)
    | some count => exact ho count rfl
  · simp only [List.forall_mem_cons, List.not_mem_nil, false_imp_iff, implies_true, and_true]
    refine ⟨gives_after fun _ => gives_map (gives_firmly (gives_label
      (gives_lexeme gives_constValue))), gives_after fun _ => gives_map (gives_firmly ?_)⟩
    exact gives_mono gives_formula fun text htext => by simpa [FieldSpec.Readable, string] using htext

theorem gives_extractedField : Gives extractedField FieldSpec.Readable := by
  refine gives_after fun kind => gives_firmly ?_
  have hbound : Gives bound fun i => fitsInt64 i = true := gives_lexeme (gives_label gives_integer)
  exact gives_bind hbound fun left hleft => gives_bind hbound fun right hright =>
    gives_pure ⟨hleft, hright⟩

theorem gives_fieldSpec (inBody : Bool) : Gives (fieldSpec inBody) FieldSpec.Readable := by
  intro s spec rest hs
  unfold fieldSpec at hs
  split at hs
  · simp at hs
  · split at hs
    · simp at hs
    · cases inBody with
      | false => exact gives_specialField_readable s spec rest hs
      | true => exact gives_or gives_specialField_readable gives_extractedField s spec rest hs

theorem gives_field_readable (source : List Char) (inBody : Bool) :
    Gives (field source inBody) FieldDefinition.Readable := by
  intro s d rest hs
  have hname : ∀ {o : Option (List Char)} {text : String}, (∀ t, o = some t → IsName t) →
      o.map string = some text → IsName text.toList := by
    intro o text ho htext
    obtain ⟨t, rfl, rfl⟩ := Option.map_eq_some_iff.mp htext
    simpa [string] using ho t rfl
  refine gives_bind (Q := FieldDefinition.Readable) (gives_fieldSpec inBody) (fun spec hspec => ?_)
    (skipBlank s) d rest hs
  refine gives_bind (gives_optional (gives_after fun _ => gives_firmly (gives_label gives_name)))
    fun name hname' => ?_
  refine gives_bind (gives_optional (gives_after fun _ => gives_firmly (gives_label gives_name)))
    fun styleId hstyle => gives_pure ?_
  exact ⟨hspec, fun text => hname hname', fun text => hname hstyle⟩

theorem gives_specialFieldset_readable (source : List Char) :
    Gives (specialFieldset source) FieldsetDefinition.ReadableSpecial := by
  have hfield : Gives (field source false) fun d => d.Readable ∧ d.spec.IsSpecial :=
    fun s d rest hs => ⟨gives_field_readable source false s d rest hs,
      gives_field source false gives_fieldSpec_special s d rest hs⟩
  exact gives_after fun _ => gives_bind (gives_firmly (gives_many1 hfield)) fun fields hfields =>
    gives_pure ⟨⟨rfl, rfl, rfl⟩, hfields.1, hfields.2⟩

theorem gives_bodyFieldset_readable (source : List Char) :
    Gives (bodyFieldset source) FieldsetDefinition.Readable := by
  refine gives_after fun _ => gives_bind (gives_firmly (gives_after fun _ => gives_quotedList))
    fun filters hfilters => gives_after fun (newRow, keepInRow) => ?_
  exact gives_bind (gives_firmly (gives_many1 (gives_field_readable source true)))
    fun fields hfields => gives_pure ⟨hfilters.1, hfilters.2, hfields.1, hfields.2⟩

theorem gives_sectionDefinition_readable (source : List Char) :
    Gives (sectionDefinition source) SectionDefinition.Readable := by
  refine gives_after fun _ => gives_after fun (once, blankRow) => ?_
  refine gives_bind (gives_clause_many1 "header" (gives_specialFieldset_readable source))
    fun header hheader => ?_
  refine gives_bind (gives_firmly (gives_after fun _ =>
    gives_many1 (gives_bodyFieldset_readable source))) fun body hbody => ?_
  refine gives_bind (gives_clause_many1 "footer" (gives_specialFieldset_readable source))
    fun footer hfooter => ?_
  exact gives_pure ⟨hheader, hbody.1, hbody.2, hfooter⟩

theorem gives_clause {α : Type} (name : String) {p : Parser α} {P : α → Prop} (hp : Gives p P) :
    Gives (clause name p) fun o => ∀ a, o = some a → P a :=
  gives_optional (gives_after fun _ => gives_firmly hp)

theorem gives_definition_readable (source : List Char) :
    Gives (definition source) Definition.Readable := by
  refine gives_after fun _ => gives_bind gives_title fun title htitle => ?_
  refine gives_bind (gives_clause "description" gives_description) fun text htext => ?_
  refine gives_after fun _ => ?_
  refine gives_bind (gives_clause "columns_width" (gives_label (gives_many1 gives_natural)))
    fun widths hwidths => ?_
  refine gives_bind (gives_clause "exclude_filters" gives_quotedList) fun filters hfilters => ?_
  refine gives_bind (gives_many StyleBlock.gives_style) fun styles hstyles => ?_
  refine gives_bind (gives_many1 (gives_sectionDefinition_readable source))
    fun sections hsections => gives_pure ?_
  refine ⟨htitle, htext, ?_, ?_, hstyles, hsections.1, hsections.2⟩
  · cases widths with
    | none => simp
    | some items => exact (hwidths items rfl).2
  · cases filters with
    | none => simp
    | some items => exact (hfilters items rfl).2

end Grammar.Report

theorem readDefinition_readable {text : String} {d : Definition}
    (h : readDefinition text = .ok d) : d.Readable :=
  readDefinition_gives Report.gives_definition_readable h

end ListingGrid
