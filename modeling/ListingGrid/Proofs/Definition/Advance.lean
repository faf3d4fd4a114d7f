import ListingGrid.Grammar.Definition
import ListingGrid.Proofs.Grammar.Advance
import ListingGrid.Proofs.Text.Trim

/-!
# The grammars go forward

Every reader of the grammars of formulas, styles and definitions leaves an end of the text
it is given, also where it fails.
-/

set_option autoImplicit false

namespace ListingGrid.Grammar

open ListingGrid.Grammar.Parser

namespace Formula

theorem advances_number : Advances number :=
  advances_bind advances_digits fun _ => advances_bind
    (advances_optional (advances_bind (advances_char _) fun _ => advances_digits))
    fun _ => advances_pure _

theorem advances_sign : Advances (optional (oneOf ['+', '-'])) := advances_optional (advances_oneOf _)

theorem advances_signedNumber : Advances signedNumber :=
  advances_bind advances_sign fun _ => advances_bind advances_number fun _ => advances_pure _

theorem advances_offset : Advances (do
    let _ ← char ':'
    let sign ← optional (oneOf ['+', '-'])
    let run ← digits
    return if sign = some '-' then '-' :: run else run) :=
  advances_bind (advances_char _) fun _ => advances_bind advances_sign fun _ =>
    advances_bind advances_digits fun _ => advances_pure _

theorem advances_relative (name : List Char) : Advances (relative name) :=
  advances_bind (advances_char _) fun _ => advances_bind (advances_word _) fun _ =>
    advances_bind (advances_optional advances_offset) fun _ => advances_bind (advances_char _)
      fun _ => advances_pure _

theorem advances_columnId : Advances columnId :=
  advances_or (advances_takeWhile1 _) (advances_relative _)

theorem advances_rowId : Advances rowId := by
  refine advances_firstOf advances_digits ?_
  simp only [List.forall_mem_cons, List.not_mem_nil, false_imp_iff, implies_true, and_true]
  exact ⟨advances_word _, advances_word _, advances_relative _⟩

theorem advances_cell : Advances cell :=
  advances_bind (advances_optional (advances_char _)) fun _ => advances_bind advances_columnId
    fun _ => advances_bind (advances_optional (advances_char _)) fun _ =>
      advances_bind advances_rowId fun _ => advances_bind (advances_notFollowedBy _) fun _ =>
        advances_pure _

theorem advances_range : Advances range :=
  advances_bind advances_cell fun _ => advances_bind (advances_char _) fun _ =>
    advances_bind advances_cell fun _ => advances_pure _

theorem advances_address : Advances address := by
  refine advances_firstOf advances_range ?_
  simp only [List.forall_mem_cons, List.not_mem_nil, false_imp_iff, implies_true, and_true]
  exact ⟨advances_cell, advances_identifier⟩

theorem advances_pathSeparator : Advances pathSeparator := advances_oneOf _

theorem advances_drive : Advances drive :=
  advances_bind (advances_satisfy _) fun _ => advances_bind (advances_char _) fun _ =>
    advances_pure _

theorem advances_server : Advances server := by
  have hscheme : Advances (do
      let scheme ← optional (word "smb:".toList)
      let slashes ← tag ['/', '/']
      return scheme.getD [] ++ slashes) :=
    advances_bind (advances_optional (advances_word _)) fun _ =>
      advances_bind (advances_tag _) fun _ => advances_pure _
  exact advances_bind (advances_or (advances_tag _) hscheme) fun _ =>
    advances_bind (advances_takeWhile1 _) fun _ => advances_bind advances_pathSeparator fun _ =>
      advances_bind advances_identifier fun _ => advances_pure _

theorem advances_workbookPath : Advances workbookPath := by
  have hfolder : Advances (do
      let name ← identifier
      let separator ← pathSeparator
      return name ++ [separator]) :=
    advances_bind advances_identifier fun _ => advances_bind advances_pathSeparator fun _ =>
      advances_pure _
  exact advances_bind (advances_optional (advances_or advances_drive advances_server)) fun _ =>
    advances_bind advances_pathSeparator fun _ => advances_bind (advances_many hfolder) fun _ =>
      advances_pure _

theorem advances_fileName : Advances fileName := by
  have hextension : Advances (do
      let _ ← char '.'
      let name ← identifier
      return '.' :: name) :=
    advances_bind (advances_char _) fun _ => advances_bind advances_identifier fun _ =>
      advances_pure _
  exact advances_bind advances_identifier fun _ => advances_bind (advances_optional hextension)
    fun _ => advances_pure _

theorem advances_linkedWorkbook : Advances linkedWorkbook :=
  advances_bind (advances_char _) fun _ => advances_bind (advances_optional advances_workbookPath)
    fun _ => advances_bind advances_fileName fun _ => advances_bind (advances_char _) fun _ =>
      advances_pure _

theorem advances_sheet : Advances sheet :=
  advances_bind (advances_optional advances_linkedWorkbook) fun _ =>
    advances_bind (advances_takeBetween _ _ _) fun _ => advances_bind (advances_char _) fun _ =>
      advances_pure _

theorem advances_reference : Advances reference := by
  refine advances_or ?_ ?_
  · exact advances_bind advances_linkedWorkbook fun _ => advances_bind (advances_char _) fun _ =>
      advances_bind advances_identifier fun _ => advances_pure _
  · exact advances_bind (advances_optional advances_sheet) fun _ => advances_bind advances_address
      fun _ => advances_pure _

theorem advances_relational : Advances relational := by
  refine advances_firstOf (advances_tag _) ?_
  simp only [List.forall_mem_cons, List.not_mem_nil, false_imp_iff, implies_true, and_true]
  exact ⟨advances_tag _, advances_tag _, advances_tag _, advances_tag _, advances_tag _⟩

theorem advances_functionName : Advances functionName := by
  have hpoint : Advances (do
      let _ ← char '.'
      let name ← identifier
      return '.' :: name) :=
    advances_bind (advances_char _) fun _ => advances_bind advances_identifier fun _ =>
      advances_pure _
  exact advances_bind advances_identifier fun _ => advances_bind (advances_many hpoint) fun _ =>
    advances_pure _

theorem advances_closing : Advances closing := advances_label _ (advances_lexeme (advances_char _))

variable {inner p : Parser (List Char)}

theorem advances_operand (h : Advances inner) : Advances (operand inner) :=
  advances_or h (advances_map _ (advances_lexeme advances_quoted))

theorem advances_argument (h : Advances inner) : Advances (argument inner) := by
  have hcomparison : Advances (do
      let sign ← lexeme relational
      let right ← firmly (operand inner)
      return sign ++ right) :=
    advances_bind (advances_lexeme advances_relational) fun _ =>
      advances_bind (advances_firmly (advances_operand h)) fun _ => advances_pure _
  exact advances_bind (advances_operand h) fun _ => advances_bind (advances_optional hcomparison)
    fun _ => advances_pure _

theorem advances_call (h : Advances inner) : Advances (call inner) :=
  advances_bind advances_functionName fun _ => advances_bind (advances_lexeme (advances_char _))
    fun _ => advances_bind
      (advances_sepBy (advances_lexeme (advances_char _)) (advances_argument h)) fun _ =>
        advances_bind (advances_firmly advances_closing) fun _ => advances_pure _

theorem advances_factor (h : Advances inner) : Advances (factor inner) := by
  refine advances_lexeme (advances_label _ (advances_firstOf (advances_call h) ?_))
  simp only [List.forall_mem_cons, List.not_mem_nil, false_imp_iff, implies_true, and_true]
  refine ⟨advances_reference, advances_number, ?_, ?_⟩
  · exact advances_bind (advances_oneOf _) fun _ => advances_bind (advances_firmly h) fun _ =>
      advances_pure _
  · exact advances_bind (advances_char _) fun _ => advances_bind (advances_firmly h) fun _ =>
      advances_bind (advances_firmly advances_closing) fun _ => advances_pure _

theorem shortens_relative (name : List Char) : Shortens (relative name) :=
  shortens_bind (shortens_char _) fun _ => advances_bind (advances_word _) fun _ =>
    advances_bind (advances_optional advances_offset) fun _ => advances_bind (advances_char _)
      fun _ => advances_pure _

theorem shortens_cell : Shortens cell :=
  shortens_after (advances_optional (advances_char _)) fun _ =>
    shortens_bind (shortens_or (shortens_takeWhile1 _) (shortens_relative _)) fun _ =>
      advances_bind (advances_optional (advances_char _)) fun _ =>
        advances_bind advances_rowId fun _ =>
          advances_bind (advances_notFollowedBy _) fun _ => advances_pure _

theorem shortens_address : Shortens address := by
  refine shortens_firstOf (shortens_bind shortens_cell fun _ =>
    advances_bind (advances_char _) fun _ => advances_bind advances_cell fun _ =>
      advances_pure _) ?_
  simp only [List.forall_mem_cons, List.not_mem_nil, false_imp_iff, implies_true, and_true]
  exact ⟨shortens_cell, shortens_identifier⟩

theorem shortens_reference : Shortens reference := by
  refine shortens_or ?_ ?_
  · exact shortens_after advances_linkedWorkbook fun _ => shortens_bind (shortens_char _) fun _ =>
      advances_bind advances_identifier fun _ => advances_pure _
  · exact shortens_after (advances_optional advances_sheet) fun _ =>
      shortens_bind shortens_address fun _ => advances_pure _

theorem shortens_call (h : Advances inner) : Shortens (call inner) :=
  shortens_after advances_functionName fun _ =>
    shortens_bind (shortens_lexeme (shortens_char _)) fun _ => advances_bind
      (advances_sepBy (advances_lexeme (advances_char _)) (advances_argument h)) fun _ =>
        advances_bind (advances_firmly advances_closing) fun _ => advances_pure _

theorem shortens_factor (h : Advances inner) : Shortens (factor inner) := by
  refine shortens_lexeme (shortens_label _ (shortens_firstOf (shortens_call h) ?_))
  simp only [List.forall_mem_cons, List.not_mem_nil, false_imp_iff, implies_true, and_true]
  refine ⟨shortens_reference, ?_, ?_, ?_⟩
  · exact shortens_bind (shortens_takeWhile1 _) fun _ => advances_bind (advances_optional
      (advances_bind (advances_char _) fun _ => advances_digits)) fun _ => advances_pure _
  · exact shortens_bind (shortens_satisfy _) fun _ => advances_bind (advances_firmly h) fun _ =>
      advances_pure _
  · exact shortens_bind (shortens_char _) fun _ => advances_bind (advances_firmly h) fun _ =>
      advances_bind (advances_firmly advances_closing) fun _ => advances_pure _

theorem advances_chain (operators : List Char) (hp : Advances p) : Advances (chain operators p) := by
  have hitem : Advances (do
      let operator ← lexeme (oneOf operators)
      let next ← firmly p
      return operator :: next) :=
    advances_bind (advances_lexeme (advances_oneOf _)) fun _ =>
      advances_bind (advances_firmly hp) fun _ => advances_pure _
  exact advances_bind hp fun _ => advances_foldMany _ _ hitem

theorem advances_expressionWithin (depth : Nat) : Advances (expressionWithin depth) := by
  induction depth with
  | zero => exact advances_failing _
  | succ depth ih => exact advances_chain _ (advances_chain _ (advances_factor ih))

theorem advances_expression : Advances expression := fun s => advances_expressionWithin _ s

theorem advances_formula : Advances formula := by
  refine advances_lexeme (advances_label _ (advances_firstOf advances_quoted ?_))
  simp only [List.forall_mem_cons, List.not_mem_nil, false_imp_iff, implies_true, and_true]
  refine ⟨advances_signedNumber, ?_⟩
  exact advances_bind (advances_char _) fun _ =>
    advances_bind (advances_firmly advances_expression) fun _ => advances_pure _

theorem advances_whole : Advances whole :=
  advances_bind advances_formula fun _ => advances_bind advances_blank fun _ => advances_pure _

end Formula

namespace StyleBlock

theorem advances_choice {α : Type} (all : List α) (keyword : α → String) :
    Advances (choice all keyword) := advances_filterMap _ advances_identifier

theorem advances_color : Advances color := by
  refine advances_or (advances_map _ (advances_choice _ _)) ?_
  exact advances_bind (advances_takeBetween _ _ _) fun _ =>
    advances_bind (advances_notFollowedBy _) fun _ => advances_pure _

theorem advances_borderLine : Advances borderLine := advances_choice _ _

theorem advances_border : Advances border := by
  refine advances_or ?_ ?_
  · exact advances_bind (advances_lexeme advances_color) fun _ =>
      advances_bind (advances_lexeme advances_borderLine) fun _ => advances_pure _
  · exact advances_bind (advances_lexeme advances_borderLine) fun _ =>
      advances_bind (advances_optional (advances_lexeme advances_color)) fun _ => advances_pure _

theorem advances_valued (name : String) {p : Parser StyleOption} (hp : Advances p) :
    Advances (valued name p) :=
  advances_bind (advances_keyword name) fun _ => advances_firmly hp

theorem advances_flag (option : StyleOption) : Advances (flag option) :=
  advances_map _ (advances_keyword _)

theorem advances_styleOption : Advances styleOption := by
  have hquoted : ∀ f : List Char → StyleOption, Advances (map f (lexeme quoted)) :=
    fun f => advances_map f (advances_lexeme advances_quoted)
  have hcolor : ∀ f : Color → StyleOption, Advances (map f (label "color" (lexeme color))) :=
    fun f => advances_map f (advances_label _ (advances_lexeme advances_color))
  refine advances_firstOf (advances_valued _ (hquoted _)) ?_
  simp only [List.forall_mem_cons, List.not_mem_nil, false_imp_iff, implies_true, and_true]
  exact ⟨advances_valued _ (hquoted _),
    advances_valued _ (advances_map _ (advances_label _ (advances_lexeme advances_natural))),
    advances_flag _, advances_flag _, advances_flag _, advances_flag _,
    advances_valued _ (advances_map _ (advances_label _ (advances_lexeme (advances_choice _ _)))),
    advances_valued _ (advances_map _ (advances_label _ (advances_lexeme (advances_choice _ _)))),
    advances_valued _ (advances_label _ advances_border), advances_valued _ (hcolor _),
    advances_valued _ (hcolor _), advances_flag _, advances_flag _, advances_flag _,
    advances_flag _⟩

theorem advances_options (seen : List String) (style : Style) : Advances (options seen style) := by
  intro s
  have hoption : Advances (lexeme styleOption) := advances_lexeme advances_styleOption
  fun_induction options seen style s with
  | case1 seen style s => exact skipBlank_suffix s
  | case2 seen style s option rest hread _ _ ih => exact ih.trans (hoption.suffix hread)
  | case3 | case4 => exact List.suffix_rfl
  | case5 seen style s failure hread =>
    have hs := hoption s
    rwa [lexeme, hread] at hs

theorem advances_style : Advances style :=
  advances_bind (advances_keyword _) fun _ => advances_bind
    (advances_firmly (advances_label _ (advances_lexeme advances_identifier))) fun _ =>
      advances_options _ _

end StyleBlock

namespace Report

theorem advances_clause {α : Type} (name : String) {p : Parser α} (hp : Advances p) :
    Advances (clause name p) :=
  advances_optional (advances_bind (advances_keyword name) fun _ => advances_firmly hp)

theorem advances_title : Advances title :=
  advances_bind (advances_takeWhile _) fun _ => advances_map _ advances_restOfLine

theorem advances_takeUntil {mark : List Char} (hmark : mark ≠ []) : Advances (takeUntil mark) := by
  intro s
  unfold takeUntil
  split
  · next before after hcut =>
    rw [(Text.cutAround?_eq_some hmark hcut).1, ← List.append_assoc]
    exact List.suffix_append _ _
  · exact List.suffix_rfl

theorem advances_description : Advances description :=
  advances_label _ (advances_map _ (advances_takeUntil (by decide)))

theorem advances_encoding : Advances encoding :=
  advances_lexeme (advances_label _ (advances_filterMap _ (advances_takeWhile1 _)))

theorem advances_widths : Advances widths :=
  advances_label _ (advances_many1 (advances_lexeme advances_natural))

theorem advances_flags (first second : String) (set : Bool × Bool) :
    Advances (flags first second set) := by
  intro s
  have hkeyword : ∀ name, Advances (lexeme (keyword name)) := fun name =>
    advances_lexeme (advances_keyword name)
  fun_induction flags first second set s with
  | case1 set s | case4 set s => exact skipBlank_suffix s
  | case2 set s mark rest hread _ _ ih => exact ih.trans ((hkeyword first).suffix hread)
  | case5 set s mark rest hread _ _ _ ih => exact ih.trans ((hkeyword second).suffix hread)
  | case3 | case6 | case7 => exact List.suffix_rfl

theorem advances_constValue : Advances constValue := by
  refine advances_or (advances_map _ advances_quoted) (advances_map _ (advances_filterMap _ ?_))
  exact advances_bind Formula.advances_sign fun _ => advances_bind advances_digits fun _ =>
    advances_bind (advances_optional (advances_bind (advances_char _) fun _ => advances_digits))
      fun _ => advances_pure _

theorem advances_specialField : Advances specialField := by
  refine advances_firstOf ?_ ?_
  · exact advances_bind (advances_keyword _) fun _ => advances_bind
      (advances_optional (advances_lexeme advances_integer)) fun _ => advances_pure _
  · simp only [List.forall_mem_cons, List.not_mem_nil, false_imp_iff, implies_true, and_true]
    refine ⟨?_, ?_⟩
    · exact advances_bind (advances_keyword _) fun _ => advances_map _
        (advances_firmly (advances_label _ (advances_lexeme advances_constValue)))
    · exact advances_bind (advances_keyword _) fun _ => advances_map _
        (advances_firmly Formula.advances_formula)

theorem advances_extraction : Advances extraction := advances_filterMap _ advances_identifier

theorem advances_bound : Advances bound := advances_lexeme (advances_label _ advances_integer)

theorem advances_extractedField : Advances extractedField := by
  refine advances_bind advances_extraction fun _ => advances_firmly ?_
  exact advances_bind advances_bound fun _ => advances_bind advances_bound fun _ => advances_pure _

theorem advances_fieldSpec (inBody : Bool) : Advances (fieldSpec inBody) := by
  intro s
  have hspec : Advances (if inBody then or specialField extractedField else specialField) := by
    cases inBody with
    | true => exact advances_or advances_specialField advances_extractedField
    | false => exact advances_specialField
  unfold fieldSpec
  split
  · exact List.suffix_rfl
  · split
    · exact List.suffix_rfl
    · exact hspec s

theorem advances_field (source : List Char) (inBody : Bool) : Advances (field source inBody) := by
  intro s
  refine List.IsSuffix.trans ?_ (skipBlank_suffix s)
  refine advances_bind (advances_fieldSpec inBody) (fun _ => ?_) (skipBlank s)
  refine advances_bind
    (advances_clause _ (advances_label _ (advances_lexeme advances_identifier))) fun _ => ?_
  refine advances_bind (advances_optional ?_) fun _ => advances_pure _
  exact advances_bind (advances_lexeme (advances_char _)) fun _ =>
    advances_firmly (advances_label _ (advances_lexeme advances_identifier))

theorem advances_specialFieldset (source : List Char) : Advances (specialFieldset source) :=
  advances_bind (advances_keyword _) fun _ => advances_bind
    (advances_firmly (advances_many1 (advances_field source false))) fun _ => advances_pure _

theorem advances_bodyFieldset (source : List Char) : Advances (bodyFieldset source) := by
  refine advances_bind (advances_keyword _) fun _ => advances_bind (advances_firmly ?_) fun _ => ?_
  · exact advances_bind (advances_keyword _) fun _ => advances_quotedList
  · exact advances_bind (advances_flags _ _ _) fun _ => advances_bind
      (advances_firmly (advances_many1 (advances_field source true))) fun _ => advances_pure _

theorem advances_sectionDefinition (source : List Char) : Advances (sectionDefinition source) := by
  have hspecial : ∀ name, Advances (clause name (many1 (specialFieldset source))) :=
    fun name => advances_clause name (advances_many1 (advances_specialFieldset source))
  refine advances_bind (advances_keyword _) fun _ => advances_bind (advances_flags _ _ _) fun _ =>
    advances_bind (hspecial _) fun _ => advances_bind (advances_firmly ?_) fun _ =>
      advances_bind (hspecial _) fun _ => advances_pure _
  exact advances_bind (advances_keyword _) fun _ => advances_many1 (advances_bodyFieldset source)

theorem advances_definition (source : List Char) : Advances (definition source) :=
  advances_bind (advances_keyword _) fun _ => advances_bind advances_title fun _ =>
    advances_bind (advances_clause _ advances_description) fun _ =>
      advances_bind (advances_clause _ advances_encoding) fun _ =>
        advances_bind (advances_clause _ advances_widths) fun _ =>
          advances_bind (advances_clause _ advances_quotedList) fun _ =>
            advances_bind (advances_many StyleBlock.advances_style) fun _ =>
              advances_bind (advances_many1 (advances_sectionDefinition source)) fun _ =>
                advances_pure _

theorem advances_whole (source : List Char) : Advances (whole source) :=
  advances_bind (advances_definition source) fun _ => advances_bind advances_blank fun _ =>
    advances_pure _

end Report

end ListingGrid.Grammar
