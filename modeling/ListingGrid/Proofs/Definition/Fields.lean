import ListingGrid.Proofs.Definition.Readable

/-!
# Reading fields

A field that was written is read back, and its line is the one on which its keyword
stands. A formula is read up to the blank behind it: no sign that could go on with it
stands behind a field.
-/

set_option autoImplicit false

namespace ListingGrid.Grammar

open ListingGrid.Grammar.Parser

variable {source s w rest : List Char} {ts : List Token} {lines : List Nat}
  {Next : List Token → Prop} {names : List String}

def kindNames : List String := FieldType.all.map (·.keyword)

def fieldEnds : List String := ["fieldset", "body", "footer", "section", ""]

def afterField : List String := kindNames ++ fieldEnds

def afterName : List String := ":" :: afterField

def afterSpec : List String := "as" :: afterName

theorem afterSpec_lead : ∀ name ∈ afterSpec, IsLead name := by decide

theorem afterName_lead : ∀ name ∈ afterName, IsLead name := by decide

theorem afterField_lead : ∀ name ∈ afterField, IsLead name := by decide

theorem fieldEnds_lead : ∀ name ∈ fieldEnds, IsLead name := by decide

theorem kind_mem (type : FieldType) : type.keyword ∈ kindNames := by
  cases type with
  | numeric tag => cases tag <;> decide
  | _ => decide

theorem kindNames_names : ∀ name ∈ kindNames, NamesKeyword name := by decide

theorem kindNames_keyword : ∀ name ∈ kindNames, IsKeyword name := by decide

namespace Formula

/-- A formula that is left as it is, is no quoted text. -/
theorem isFormula_of_readFormula {text : String} (h : readFormula text = .ok text) :
    IsFormula text.toList := by
  obtain ⟨rest, hread, -⟩ := readFormula_eq_ok.mp h
  rcases formula_cases hread with hquoted | hformula
  · obtain ⟨hsplit, -⟩ := quoted_eq_done hquoted
    have hlength := skipFrom_length_le text.toList false
    rw [← skipBlank, hsplit] at hlength
    simp only [List.length_append, List.length_cons] at hlength
    omega
  · exact hformula

/-- Nothing that may stand behind a field goes on with a formula. -/
theorem endsExpression_of_ahead (hrest : Apart rest) (h : Ahead source ts rest lines)
    (hfollows : Follows afterSpec ts) : EndsExpression rest := by
  have hskip : ∀ c, (skipBlank rest).head? = some c → isLeadChar c = true ∨
      c ∈ [' ', '\t', '\r', '\n', '#'] := by
    obtain ⟨name, hname, w, behind, hsplit, hw, hbehind⟩ := h.front hfollows afterSpec_lead
    intro c hc
    rw [hsplit] at hc
    cases w with
    | nil => exact .inr (blank_cases (hbehind c hc))
    | cons d others =>
      obtain rfl : d = c := by simpa using hc
      have hall := (caseless_isLeadChar.all hw).trans (afterSpec_lead name hname)
      exact .inl (List.all_eq_true.mp hall d (by simp))
  refine { endsAtom_of_apart hrest fun hopen => ?_ with operator := fun c hc hoperator => ?_ }
  · rcases hskip _ hopen with hlead | hblank
    · exact absurd hlead (by decide)
    · exact absurd hblank (by decide)
  · rcases hoperator with rfl | rfl | rfl | rfl <;>
      exact absurd (hskip _ hc) (by decide)

end Formula

theorem isNormalized_iff {formula : String} :
    isNormalized formula = true ↔ readFormula formula = .ok formula := by
  unfold isNormalized
  split
  · next value hread => simp [hread]
  · next hread => simp [hread]

theorem reads_formula {formula : String} (h : (FieldSpec.function formula).Readable) :
    Reads source Formula.formula [formulaToken formula] (Follows afterSpec)
      (Only formula.toList) := by
  intro more s lines hnext hs
  by_cases hnormalized : isNormalized formula = true
  · rw [formulaToken, if_pos hnormalized] at hs
    have hformula := Formula.isFormula_of_readFormula (isNormalized_iff.mp hnormalized)
    obtain ⟨w, rest, after, hskip, hw, hapart, hshort, hlines, hahead⟩ :=
      hs.next (by rintro w ⟨⟩; exact hformula.begins)
    cases hw
    have hread := Formula.formula_append hformula
      (Formula.endsExpression_of_ahead hapart hahead hnext)
    refine ⟨_, [], rest, after, ?_, ⟨rfl, rfl⟩, hlines, hshort, hahead⟩
    rw [Formula.formula, lexeme, (hformula.begins.append rest).skip] at hread
    rw [Formula.formula, lexeme, hskip, hread]
  · rw [formulaToken, if_neg hnormalized] at hs
    have hquoted : IsQuotedBody formula.toList :=
      h.resolve_right fun hformula => hnormalized (isNormalized_iff.mpr (readFormula_of_isFormula hformula))
    refine Reads.of_eq_done (Reads.quoted hquoted) ?_ more s lines hnext hs
    rintro s _ _ rest hread ⟨rfl, rfl⟩
    exact ⟨_, label_eq_done.mpr (firstOf_eq_done.mpr (.inl hread)), rfl, rfl⟩

namespace Report

theorem oneOf_sign_fails (c : Char) (rest : List Char) (hc : Text.isDigit c = true) :
    Fails (oneOf ['+', '-']) (c :: rest) := by
  refine satisfy_fails fun d hd => ?_
  obtain rfl : c = d := by simpa using hd
  exact Text.not_sign_of_isDigit hc

theorem constNumber_done {i : Int} (h : fitsInt64 i = true) (hrest : Apart rest) :
    constNumber ((Text.integerText i).toList ++ rest) = .done (.integer i) rest := by
  obtain ⟨mid, hsign, hdigits⟩ := sign_done i (p := oneOf ['+', '-'])
    (fun _ => satisfy_eq_done.mpr ⟨rfl, rfl⟩) oneOf_sign_fails (hrest.stops_of (by decide))
  have hpoint : Fails (char '.') rest := by
    refine char_fails fun hc => ?_
    exact absurd (blank_cases (hrest _ hc)) (by decide)
  refine filterMap_eq_done.mpr
    ⟨(if i < 0 then some '-' else none, Text.decimalDigits i.natAbs, none), ?_, ?_⟩
  · refine bind_eq_done.mpr ⟨_, mid, hsign, bind_eq_done.mpr ⟨_, rest, hdigits, ?_⟩⟩
    exact bind_eq_done.mpr ⟨none, rest, optional_none (bind_fails.mpr (.inl hpoint)), rfl⟩
  · have hvalue : (if (if i < 0 then some '-' else none) = some '-' then -(i.natAbs : Int)
        else (i.natAbs : Int)) = i := by
      by_cases hneg : i < 0
      · simp only [if_pos hneg, if_true]
        omega
      · simp only [if_neg hneg, reduceCtorEq, if_false]
        omega
    simp only [Text.decimalValue_decimalDigits, hvalue, h, if_true]

theorem reads_constText {text : String} (h : IsQuotedBody text.toList) :
    Reads source (lexeme constValue) [quotedToken text] Next (Only (.text text)) := by
  refine Reads.of_eq_done (Reads.quoted h) ?_
  rintro s _ _ rest hread ⟨rfl, rfl⟩
  refine ⟨_, or_eq_done.mpr (.inl (map_eq_done.mpr ⟨_, hread, rfl⟩)), ?_, rfl⟩
  rw [string, String.ofList_toList]

theorem reads_constInteger {i : Int} (h : fitsInt64 i = true) :
    Reads source (lexeme constValue) [integerToken i] Next (Only (.number (.integer i))) := by
  refine Reads.exact (begins_integer i) fun rest hrest => ?_
  refine or_eq_done.mpr (.inr ⟨map_fails.mpr (quoted_fails ?_), ?_⟩)
  · rw [Text.toList_integerText]
    split
    · simp
    · obtain ⟨c, others, hdigits, hc⟩ := decimalDigits_head i.natAbs
      rw [hdigits]
      intro hquote
      obtain rfl : c = '"' := by simpa using hquote
      revert hc
      decide
  · exact map_eq_done.mpr ⟨_, constNumber_done h hrest, rfl⟩

theorem special_table (empty const function : Unit → Parser FieldSpec) :
    List.Forall₂ BeginsWith
      [keyword "empty" >>= empty, keyword "const" >>= const, keyword "function" >>= function]
      ["empty", "const", "function"] := by
  repeat'
    first
      | exact BeginsWith.bind (by decide)
      | constructor

theorem reads_specialField {spec : FieldSpec} (hspec : spec.Readable) (hspecial : spec.IsSpecial)
    (h : spec.Written ts) : Reads source specialField ts (Follows afterSpec) (Single spec) := by
  have hdiffers : ["empty", "const", "function"].Pairwise Differs := by decide
  unfold specialField
  cases h with
  | extracted => exact absurd hspecial id
  | empty count =>
    refine Reads.alternative (special_table ..) hdiffers 0 rfl rfl (by decide)
      (fun _ _ => ⟨by decide, by simp [Token.name]⟩) ?_
    refine (Reads.kindKeyword (by decide)).field ((Reads.integer hspec).optional_some.give ?_)
    rintro _ _ ⟨_, rfl, rfl, rfl⟩
    exact ⟨rfl, rfl⟩
  | emptyCell =>
    refine Reads.alternative (special_table ..) hdiffers 0 rfl rfl (by decide)
      (fun _ _ => ⟨by decide, by simp [Token.name]⟩) ?_
    exact (Reads.kindKeyword (by decide)).field
      (Reads.optional_none (integer_misses (by decide) (by decide)) afterSpec_lead).only_give
  | constText text =>
    refine Reads.alternative (special_table ..) hdiffers 1 rfl rfl (by decide)
      (fun _ _ => ⟨by decide, by simp [Token.name]⟩) ?_
    exact (Reads.kindKeyword (by decide)).field
      ((reads_constText hspec).label _).firmly.only_map
  | constInteger value =>
    refine Reads.alternative (special_table ..) hdiffers 1 rfl rfl (by decide)
      (fun _ _ => ⟨by decide, by simp [Token.name]⟩) ?_
    exact (Reads.kindKeyword (by decide)).field
      ((reads_constInteger (hspec value rfl)).label _).firmly.only_map
  | function formula =>
    refine Reads.alternative (special_table ..) hdiffers 2 rfl rfl (by decide)
      (fun _ _ => ⟨by decide, by simp [Token.name]⟩) ?_
    refine (Reads.kindKeyword (by decide)).field ((reads_formula hspec).firmly.map ?_)
    rintro _ _ ⟨rfl, rfl⟩
    exact ⟨by rw [string, String.ofList_toList], rfl⟩

theorem ofKeyword?_of_lower {name : String} (hw : Text.lowerAll w = Text.lowerAll name.toList) :
    FieldType.ofKeyword? (string w) = FieldType.ofKeyword? name := by
  simp only [FieldType.ofKeyword?, Text.sameText, Text.sameWord, string, String.toList_ofList, hw]

theorem reads_extraction (kind : Extraction) :
    Reads source (lexeme extraction) [.kind kind.fieldType.keyword] Next (Single kind) := by
  have hname : NamesKeyword kind.fieldType.keyword := kindNames_names _ (kind_mem _)
  have hkind : (FieldType.ofKeyword? kind.fieldType.keyword).bind Extraction.ofFieldType? =
      some kind := by
    cases kind with
    | numeric tag => cases tag <;> decide
    | _ => decide
  refine Reads.kind ?_ ?_ fun w rest hw hrest => ?_
  · exact afterSpec_lead _ (by simp [afterSpec, afterName, afterField, kind_mem])
  · intro hempty
    rw [hempty] at hname
    revert hname
    decide
  · refine filterMap_eq_done.mpr ⟨w, hname.identifier_done hw hrest, ?_⟩
    rw [ofKeyword?_of_lower hw]
    exact hkind

def NoExtraction (name : String) : Prop :=
  name = "" ∨ NamesKeyword name ∧
    (FieldType.ofKeyword? name).bind Extraction.ofFieldType? = none

instance (name : String) : Decidable (NoExtraction name) := by
  unfold NoExtraction
  infer_instance

theorem extraction_misses (h : ∀ name ∈ names, NoExtraction name) :
    Misses (lexeme extraction) names := by
  refine lexeme_misses fun name hmem w rest hw hrest => ?_
  rcases h name hmem with rfl | ⟨hname, hnone⟩
  · obtain rfl : w = [] := by simpa [Text.lowerAll] using hw
    exact filterMap_fails (identifier_fails_of_apart hrest)
  · refine ⟨⟨w ++ rest, .unexpected⟩, ?_⟩
    rw [extraction, filterMap, hname.identifier_done hw hrest]
    simp only
    rw [ofKeyword?_of_lower hw, hnone]

theorem reads_bound {i : Int} (h : fitsInt64 i = true) :
    Reads source bound [integerToken i] Next (Only i) := by
  refine Reads.of_eq_done (Reads.integer h) ?_
  rintro s a own rest hread hP
  exact ⟨a, label_eq_done.mpr hread, hP⟩

theorem reads_extractedField {kind : Extraction} {left right : Int}
    (h : (FieldSpec.extracted kind left right).Readable) :
    Reads source (lexeme extractedField)
      [.kind kind.fieldType.keyword, integerToken left, integerToken right] Next
      (Single (.extracted kind left right)) :=
  (reads_extraction kind).field
    ((reads_bound h.1).step (reads_bound h.2).only_give).firmly

/-- A specification begins with the keyword of its field. -/
theorem written_kind {spec : FieldSpec} (h : spec.Written ts) :
    ∃ name values, ts = .kind name :: values ∧ name ∈ kindNames := by
  cases h with
  | extracted extraction => exact ⟨_, _, rfl, kind_mem _⟩
  | empty | emptyCell => exact ⟨_, _, rfl, kind_mem .empty⟩
  | constText | constInteger => exact ⟨_, _, rfl, kind_mem .const⟩
  | function => exact ⟨_, _, rfl, kind_mem .function⟩

theorem special_misses (h : ∀ key ∈ ["empty", "const", "function"], ∀ name ∈ names,
    Differs key name) : Misses specialField names :=
  alternatives_miss (special_table ..) h

theorem special_differs (kind : Extraction) :
    ∀ key ∈ ["empty", "const", "function"], Differs key kind.fieldType.keyword := by
  cases kind with
  | numeric tag => cases tag <;> decide
  | _ => decide

theorem written_special {spec : FieldSpec} (hspecial : spec.IsSpecial) (h : spec.Written ts)
    (more : List Token) : Follows ["empty", "const", "function"] (ts ++ more) := by
  cases h with
  | extracted => exact absurd hspecial id
  | _ => exact ⟨by decide, by simp [Token.name]⟩

/-- A field of a body is special or cut out of the line. -/
theorem reads_bodySpec {spec : FieldSpec} (hspec : spec.Readable) (h : spec.Written ts) :
    Reads source (lexeme (or specialField extractedField)) ts (Follows afterSpec) (Single spec) := by
  by_cases hspecial : spec.IsSpecial
  · exact (reads_specialField hspec hspecial h).or_left.skipped
      (fun others _ => written_special hspecial h others) (by decide)
  · cases h with
    | extracted kind left right =>
      have hname : IsKeyword kind.fieldType.keyword := kindNames_keyword _ (kind_mem _)
      have hmiss : Misses specialField [kind.fieldType.keyword] :=
        special_misses fun key hkey => by simpa using special_differs kind key hkey
      exact Reads.or_right (reads_extractedField hspec)
        (fun others _ => ⟨hname.ne_empty, by simp [Token.name]⟩) (by simpa using hname.isLead)
        hmiss.lexeme
    | _ => exact absurd trivial hspecial

/-- Fields of heads and feet are special; those of bodies need not be. -/
theorem reads_fieldSpec {spec : FieldSpec} {inBody : Bool} (hspec : spec.Readable)
    (hplace : inBody = true ∨ spec.IsSpecial) (h : spec.Written ts) :
    Reads source (lexeme (fieldSpec inBody)) ts (Follows afterSpec) (Single spec) := by
  cases inBody with
  | true =>
    refine (reads_bodySpec hspec h).of_eq_done fun s a own rest hdone hP => ⟨a, ?_, hP⟩
    rw [lexeme] at hdone ⊢
    simp only [fieldSpec, Bool.not_true, Bool.false_and, Bool.false_eq_true, if_false, if_true,
      hdone]
  | false =>
    have hspecial : spec.IsSpecial := hplace.resolve_left (by decide)
    have hfirst := written_special hspecial h
    intro others s lines hnext hs
    have hread : Reads source (lexeme specialField) ts (Follows afterSpec) (Single spec) :=
      (reads_specialField hspec hspecial h).skipped (fun others _ => hfirst others) (by decide)
    obtain ⟨a, own, rest, after, hdone, hmore⟩ := hread others s lines hnext hs
    obtain ⟨failure, hfails⟩ := hs.misses (hfirst others) (by decide) (extraction_misses (by decide))
    refine ⟨a, own, rest, after, ?_, hmore⟩
    rw [lexeme] at hdone hfails ⊢
    simp only [fieldSpec, startsExtracted, hfails, Bool.and_false, Bool.false_eq_true, if_false,
      hdone]

theorem Follows.label {sign : Token} {text : Option String} {more : List Token}
    (hsign : sign.name ≠ "" ∧ sign.name ∈ names) (h : Follows names more) :
    Follows names (labelTokens sign text ++ more) := by
  refine Follows.append (fun t ht => ?_) h
  cases text with
  | none => simp [labelTokens] at ht
  | some name => exact Option.some.inj ht ▸ hsign

theorem reads_label {α : Type} {key : Parser α} {a : α} {sign : Token} {text : Option String}
    (what : String) (hkey : Reads source key [sign] (fun _ => True) (Only a))
    (hmiss : Misses key names) (hlead : ∀ name ∈ names, IsLead name)
    (htext : ∀ name, text = some name → IsName name.toList) :
    Reads source (optional (key >>= fun _ => firmly (Parser.label what (lexeme identifier))))
      (labelTokens sign text) (Follows names) (Only (text.map String.toList)) := by
  cases text with
  | none => exact Reads.optional_none (bind_misses hmiss) hlead
  | some name =>
    refine (hkey.step ((Reads.identifier (htext name rfl)).label what).firmly).optional_some.mono ?_
    rintro _ _ ⟨_, rfl, rfl, rfl⟩
    exact ⟨rfl, rfl⟩

theorem reads_fieldOn {d : FieldDefinition} {inBody : Bool} (hd : d.Readable)
    (hplace : inBody = true ∨ d.spec.IsSpecial) (h : d.Written ts) (line : Nat) :
    Reads source (lexeme (do
      let spec ← fieldSpec inBody
      let name ← clause "as" (label "field name" (lexeme identifier))
      let styleId ← optional (do
        let _ ← lexeme (char ':')
        firmly (label "style id" (lexeme identifier)))
      return (⟨spec, name.map string, styleId.map string, line⟩ : FieldDefinition)))
      ts (Follows afterField) (Single { d with line := line }) := by
  obtain ⟨spec, hspec, rfl⟩ := h
  have hname : Reads source (clause "as" (label "field name" (lexeme identifier)))
      (labelTokens (.word "as") d.name) (Follows afterName) (Only (d.name.map String.toList)) :=
    reads_label "field name" (Reads.keyword (by decide))
      (keyword_misses (by decide) (by decide)) afterName_lead hd.name
  have hstyle : Reads source (optional (do
        let _ ← lexeme (char ':')
        firmly (label "style id" (lexeme identifier))))
      (labelTokens (.exact [':']) d.styleId) (Follows afterField)
      (Only (d.styleId.map String.toList)) :=
    reads_label "style id" (Reads.char (by decide)) (char_misses rfl (by decide) (by decide))
      afterField_lead hd.styleId
  have hmiddle : ∀ others, Follows afterField others →
      Follows afterName (labelTokens (.exact [':']) d.styleId ++ others) :=
    fun others hothers => Follows.label (by decide) (hothers.mono (List.subset_cons_self _ _))
  refine (reads_fieldSpec hd.spec hplace hspec).fieldSeq
    (fun others hothers => ?_) (hname.seq hmiddle (hstyle.give ?_))
  · rw [List.append_assoc]
    exact Follows.label (by decide) ((hmiddle others hothers).mono (List.subset_cons_self _ _))
  · rintro _ _ ⟨rfl, rfl⟩
    simp [Only, string, Option.map_map, Function.comp_def]

/-- A field that was written is read back, on the line of its keyword. -/
theorem reads_field {d : FieldDefinition} {inBody : Bool} (hd : d.Readable)
    (hplace : inBody = true ∨ d.spec.IsSpecial) (h : d.Written ts) :
    Reads source (field source inBody) ts (Follows afterField)
      fun a own => a.unlined = d.unlined ∧ own = [a.line] := by
  intro more s lines hnext hs
  obtain ⟨spec, hspec, rfl⟩ := h
  obtain ⟨name, values, rfl, hname⟩ := written_kind hspec
  have hkeyword := kindNames_keyword name hname
  have hbegins : ∀ w, Spells (.kind name) w → BeginsToken w := fun _ hw =>
    begins_of_lead hkeyword.isLead hkeyword.ne_empty (spells_lower hw hkeyword.ne_empty)
  obtain ⟨_, _, _, -, -, -, -, hfirst, -⟩ := hs.next hbegins
  obtain ⟨a, own, rest, after, hread, ⟨rfl, hown⟩, hlines, hmore⟩ :=
    reads_fieldOn hd hplace ⟨_, hspec, rfl⟩
      (Text.lineNumber (source.take (source.length - (skipBlank s).length))) more s lines hnext hs
  refine ⟨_, own, rest, after, hread, ⟨rfl, ?_⟩, hlines, hmore⟩
  obtain ⟨line, rfl⟩ := List.length_eq_one_iff.mp hown
  rw [hlines] at hfirst
  exact congrArg (fun n => [n]) (List.cons.inj hfirst).1

theorem fieldSpec_misses {inBody : Bool} (hspecial : ∀ key ∈ ["empty", "const", "function"],
    ∀ name ∈ names, Differs key name) (hextracted : ∀ name ∈ names, NoExtraction name) :
    Misses (lexeme (fieldSpec inBody)) names := by
  intro name hname s w rest hskip hw hrest
  have hfails : Fails specialField (skipBlank s) :=
    (special_misses hspecial).lexeme name hname s w rest hskip hw hrest
  have hextraction : Fails extraction (skipBlank s) :=
    extraction_misses hextracted name hname s w rest hskip hw hrest
  refine ⟨⟨skipBlank s, .expected "field"⟩, ?_⟩
  rw [lexeme]
  cases inBody with
  | true =>
    obtain ⟨failure, hboth⟩ := or_fails.mpr ⟨hfails, bind_fails.mpr (.inl hextraction)⟩
    simp only [fieldSpec, Bool.not_true, Bool.false_and, Bool.false_eq_true, if_false, if_true]
    rw [extractedField, hboth]
  | false =>
    obtain ⟨failure, hfails⟩ := hfails
    obtain ⟨failure', hextraction⟩ := hextraction
    simp only [fieldSpec, startsExtracted, hextraction, hfails, Bool.and_false, Bool.false_eq_true,
      if_false]

/-- No field begins with what stands behind the fields of a fieldset. -/
theorem field_misses (source : List Char) (inBody : Bool) :
    Misses (field source inBody) fieldEnds := by
  intro name hname s w rest hskip hw hrest
  have hspec : Misses (lexeme (fieldSpec inBody)) fieldEnds :=
    fieldSpec_misses (by decide) (by decide)
  exact bind_fails (p := lexeme (fieldSpec inBody)) |>.mpr (.inl (hspec name hname s w rest hskip hw hrest))

end Report

end ListingGrid.Grammar
