import ListingGrid.Proofs.Definition.Exchange
import ListingGrid.Proofs.Definition.FieldPlaces
import ListingGrid.Proofs.Definition.Sound

/-!
# The formulas of function fields

A formula in a definition ends where it would end alone: nothing that may follow a function
field goes on with a formula. So every formula that is accepted alone may take the place of
one in a definition, and all else in the definition stays as it was.
-/

set_option autoImplicit false

namespace ListingGrid

open ListingGrid.Grammar ListingGrid.Grammar.Parser

/-- A function field of a source: its keyword in any case, the blanks behind it, its formula
as it is written, and what follows. The formula is read as the given value. -/
structure FunctionField (source : List Char) (value : String) where
  before : List Char
  word : List Char
  gap : List Char
  formula : List Char
  after : List Char
  source_eq : source = before ++ (word ++ (gap ++ (formula ++ after)))
  keyword : Text.lowerAll word = Text.lowerAll "function".toList
  ends : Stops Text.isWordChar (gap ++ (formula ++ after))
  blank : skipBlank (gap ++ (formula ++ after)) = formula ++ after
  reads : Grammar.Formula.formula (formula ++ after) = .done value.toList after

namespace FunctionField

variable {source : List Char} {value : String}

/-- The source with a space, another text and a line feed in place of the formula. -/
def replaced (place : FunctionField source value) (t : List Char) : List Char :=
  place.before ++ (place.word ++ (place.gap ++ (' ' :: t ++ '\n' :: place.after)))

end FunctionField

namespace Grammar

variable {source s rest word gap g after U V : List Char} {value : String} {inBody : Bool}

namespace Report

theorem formula_congr (h : skipBlank s = skipBlank rest) :
    Formula.formula s = Formula.formula rest := by
  change label _ _ (skipBlank s) = label _ _ (skipBlank rest)
  rw [h]

/-- Behind the keyword stands a formula, which is what the field holds. -/
theorem specialField_eq_function : specialField s = .done (.function value) rest ↔
    Fails (keyword "empty") s ∧ Fails (keyword "const") s ∧ ∃ mid,
      keyword "function" s = .done () mid ∧ Formula.formula mid = .done value.toList rest := by
  have hvalue : ∀ {mid : List Char}, map (fun text => FieldSpec.function (string text))
      (firmly Formula.formula) mid = .done (.function value) rest ↔
        Formula.formula mid = .done value.toList rest := by
    intro mid
    rw [map_eq_done, ← firmly_eq_done (p := Formula.formula)]
    constructor
    · rintro ⟨text, hread, hspec⟩
      obtain rfl : string text = value := FieldSpec.function.inj hspec
      simpa [string] using hread
    · exact fun hread => ⟨value.toList, hread, by simp [string]⟩
  constructor
  · intro hread
    obtain hread | ⟨hempty, hread⟩ := firstOf_eq_done.mp hread
    · obtain ⟨_, mid, -, hmore⟩ := bind_eq_done.mp hread
      obtain ⟨count, left, -, hspec⟩ := bind_eq_done.mp hmore
      cases (pure_eq_done.mp hspec).1
    obtain hread | ⟨hconst, hread⟩ := firstOf_eq_done.mp hread
    · obtain ⟨_, mid, -, hmore⟩ := bind_eq_done.mp hread
      obtain ⟨value, -, hspec⟩ := map_eq_done.mp hmore
      cases hspec
    obtain hread | ⟨-, hread⟩ := firstOf_eq_done.mp hread
    · obtain ⟨_, mid, hword, hmore⟩ := bind_eq_done.mp hread
      exact ⟨(bind_fails_iff fun _ => firm_bind (firm_optional _) fun _ => firm_pure _).mp hempty,
        (bind_fails_iff fun _ => firm_map (firm_firmly _)).mp hconst, mid, hword,
        hvalue.mp hmore⟩
    · exact hread.elim
  · rintro ⟨hempty, hconst, mid, hword, hmore⟩
    exact firstOf_done [_, _] rfl (by simp [bind_fails, hempty, hconst])
      (bind_eq_done.mpr ⟨(), mid, hword, hvalue.mpr hmore⟩)

theorem specOf_of_special {spec : FieldSpec} (h : specialField s = .done spec rest) :
    specOf inBody s = .done spec rest := by
  cases inBody with
  | false => exact h
  | true => exact or_eq_done.mpr (.inl h)

section Word

variable (hword : Text.lowerAll word = Text.lowerAll "function".toList)

include hword

theorem letters_of_function : word.all Text.isLetter = true ∧
    ∃ c more, word = c :: more ∧ Text.lower c = 'f' := by
  refine ⟨(Text.caseless_isLetter.all hword).trans (by decide), ?_⟩
  cases word with
  | nil => simp [Text.lowerAll] at hword
  | cons c more =>
    obtain ⟨d, hd, hlower⟩ := Text.head_of_lowerAll hword rfl
    obtain rfl : 'f' = d := by simpa using hd
    exact ⟨c, more, rfl, hlower.trans (by decide)⟩

theorem skipBlank_function (U : List Char) : skipBlank (word ++ U) = word ++ U := by
  obtain ⟨hletters, c, more, rfl, -⟩ := letters_of_function hword
  rw [List.all_cons, Bool.and_eq_true] at hletters
  obtain ⟨hblank, hhash, -⟩ := ne_blank_of_isLetter hletters.1
  exact skipBlank_of_head hblank hhash

theorem keyword_function (hU : Stops Text.isWordChar U) :
    keyword "function" (word ++ U) = .done () U := by
  rw [keyword, lexeme, skipBlank_function hword]
  exact IsKeyword.word_done (by decide) hword hU

theorem keyword_fails_of_function (letter : Char) (name : List Char)
    (hname : IsPlainWord (letter :: name)) (hletter : Text.lower letter ≠ 'f') :
    Fails (keyword (String.ofList (letter :: name))) (word ++ U) := by
  obtain ⟨-, c, more, hsplit, hc⟩ := letters_of_function hword
  unfold Fails
  rw [keyword, lexeme, skipBlank_function hword, String.toList_ofList]
  refine label_fails.mpr (bind_fails.mpr (.inl (word_fails_of_head hname fun d hd => ?_)))
  obtain rfl : c = d := by simpa [hsplit] using hd
  exact fun heq => hletter (heq ▸ hc)

theorem specialField_function (hU : Stops Text.isWordChar U)
    (hread : Formula.formula U = .done value.toList rest) :
    specialField (word ++ U) = .done (.function value) rest :=
  specialField_eq_function.mpr ⟨keyword_fails_of_function hword 'e' "mpty".toList (by decide)
    (by decide), keyword_fails_of_function hword 'c' "onst".toList (by decide) (by decide), U,
      keyword_function hword hU, hread⟩

end Word

/-- What a formula begins with is no part of a word and no beginning of a comment. -/
theorem formula_begins {a : List Char} (hread : Formula.formula s = .done a rest) :
    ∃ c, (skipBlank s).head? = some c ∧ c ∉ barred ∧ c ≠ kelvin := by
  obtain ⟨c, hc, hbegins⟩ := Formula.formula_head hread
  refine ⟨c, hc, ?_⟩
  rcases hbegins with hbegins | hbegins
  · refine ⟨not_barred_of_begins hbegins, ?_⟩
    rintro rfl
    revert hbegins
    decide
  · simp only [List.mem_cons, List.not_mem_nil, or_false] at hbegins
    rcases hbegins with rfl | rfl <;> decide

/-- Where a word ends in front of blanks and a formula, it ends in front of the same blanks
and another text. -/
structure Gap (gap s : List Char) : Prop where
  skips : skipBlank (gap ++ s) = s
  ends : Stops Text.isWordChar (gap ++ s)
  reads : ∃ a rest, Formula.formula s = .done a rest

namespace Gap

variable (h : Gap gap s)

include h

theorem head : ∃ c, s.head? = some c ∧ c ∉ barred ∧ c ≠ kelvin := by
  obtain ⟨a, rest, hread⟩ := h.reads
  have hskip : skipBlank s = s := by rw [← h.skips, skipBlank_skipBlank]
  exact hskip ▸ formula_begins hread

theorem ne_nil : s ≠ [] := by
  rintro rfl
  obtain ⟨c, hc, -⟩ := h.head
  simp at hc

/-- No other character than a blank or a hash begins the gap. -/
theorem blank {c : Char} (hc : gap.head? = some c) : isBlank c = true ∨ c = '#' := by
  obtain ⟨more, rfl⟩ := List.head?_eq_some_iff.mp hc
  by_contra hplain
  simp only [not_or, Bool.not_eq_true] at hplain
  have hskips := congrArg List.length h.skips
  rw [List.cons_append, skipBlank_of_head hplain.1 hplain.2] at hskips
  simp at hskips
  omega

theorem endsWord : EndsWord (gap ++ s) where
  ne_nil hnil := h.ne_nil (List.append_eq_nil_iff.mp hnil).2
  word := h.ends
  kelvin hc := by
    cases gap with
    | nil =>
      obtain ⟨c, hc', -, hkelvin⟩ := h.head
      exact hkelvin (Option.some.inj (hc'.symm.trans hc))
    | cons d more =>
      obtain rfl : d = kelvin := by simpa using hc
      exact absurd (h.blank rfl) (by decide)

theorem apart (t : List Char) : Apart (gap ++ ' ' :: t) := by
  intro c hc
  cases gap with
  | nil => exact .inl (Option.some.inj hc ▸ rfl)
  | cons d more => exact h.blank hc

theorem endsWord_space (t : List Char) : EndsWord (gap ++ ' ' :: t) where
  ne_nil := by simp
  word := (h.apart t).stops_of (by decide)
  kelvin := (h.apart t).head_ne (by decide)

theorem skip_space (t : List Char) : skipBlank (gap ++ ' ' :: t) = skipBlank t := by
  have hfeed : s = [] → ∃ more, ' ' :: t = '\n' :: more := fun hnil => absurd hnil h.ne_nil
  obtain ⟨c, hc, hbarred, -⟩ := h.head
  have hskips : skipFrom (gap ++ s) false = s := h.skips
  have hhash : s.head? ≠ some '#' := fun heq =>
    hbarred (Option.some.inj (hc.symm.trans heq) ▸ hash_mem_barred)
  obtain ⟨y, hy, hy'⟩ := skipFrom_append (x := gap) hfeed false (by rw [hskips]) (by rwa [hskips])
  obtain rfl : y = [] := List.append_left_eq_self.mp (hy.symm.trans hskips)
  rw [skipBlank, hy', if_pos rfl]
  simp [skipBlank, skipFrom, isBlank]

end Gap

/-- A function field stays one with another formula that is accepted alone. -/
theorem exchange_function {t f : String} (hword : Text.lowerAll word = Text.lowerAll "function".toList)
    (hgap : Gap gap (g ++ after)) (hread : Formula.formula (g ++ after) = .done value.toList after)
    (ht : readFormula t = .ok f) :
    Exchange (word ++ (gap ++ g)) (word ++ (gap ++ (' ' :: t.toList ++ ['\n']))) after
      (.function f) := by
  have hold : word ++ (gap ++ g) ++ after = word ++ (gap ++ (g ++ after)) := by simp
  have hnew : word ++ (gap ++ (' ' :: t.toList ++ ['\n'])) ++ after =
      word ++ (gap ++ ' ' :: (t.toList ++ '\n' :: after)) := by simp
  obtain ⟨hletters, c, more, hne, -⟩ := letters_of_function hword
  have hspecial : specialField (word ++ (gap ++ (g ++ after))) = .done (.function value) after :=
    specialField_function hword hgap.ends ((formula_congr (by
      rw [hgap.skips, ← hgap.skips, skipBlank_skipBlank])).trans hread)
  refine ⟨?_, by simp [hne], fun h => ?_, fun h hafter => ?_⟩
  · rw [hold, hnew]
    exact .intro hletters (by simp [hne]) hgap.endsWord (hgap.endsWord_space _) (hgap.apart _)
  · rw [hold] at h
    exact (Result.done.inj ((specOf_of_special hspecial).symm.trans (fieldSpec_eq_done.mp h).2)).2.symm
  · rw [hold] at h
    obtain ⟨left, hformula, hleft⟩ := formula_embedded ht hafter
    refine ⟨left, ?_, hleft⟩
    rw [hnew]
    refine fieldSpec_eq_done.mpr ⟨fun hbody => worded_extraction.fails hgap.endsWord
      (hgap.endsWord_space _) ((fieldSpec_eq_done.mp h).1 hbody), specOf_of_special ?_⟩
    exact specialField_function hword (hgap.endsWord_space _).word
      ((formula_congr (hgap.skip_space _)).trans hformula)

theorem fieldSpec_function (h : fieldSpec inBody s = .done (.function value) rest) :
    specialField s = .done (.function value) rest := by
  obtain ⟨-, hread⟩ := fieldSpec_eq_done.mp h
  cases inBody with
  | false => exact hread
  | true =>
    obtain hread | ⟨-, hread⟩ := or_eq_done.mp hread
    · exact hread
    · obtain ⟨kind, mid, -, hmore⟩ := bind_eq_done.mp hread
      obtain ⟨left, mid', -, hmore⟩ := bind_eq_done.mp (firmly_eq_done.mp hmore)
      obtain ⟨right, mid'', -, hspec⟩ := bind_eq_done.mp hmore
      cases (pure_eq_done.mp hspec).1

/-- Where a field of a source holds a formula, a function field stands. -/
theorem exists_functionField {d : FieldDefinition} (hs : s <:+ source)
    (hread : field (places source.length) inBody s = .done d rest) (hspec : d.spec = .function value) :
    ∃ place : FunctionField source value, d.line = place.before.length + 1 := by
  have hline := field_line hread
  rw [field_eq, fieldHere_eq] at hread
  obtain ⟨spec, after, hspecial, hmore⟩ := bind_eq_done.mp hread
  obtain ⟨names, -, rfl⟩ := map_eq_done.mp hmore
  obtain rfl : spec = .function value := hspec
  obtain ⟨-, -, _, hkeyword, hformula⟩ := specialField_eq_function.mp (fieldSpec_function hspecial)
  rw [keyword, lexeme, skipBlank_skipBlank, label_eq_done] at hkeyword
  obtain ⟨word, left, hword, hends⟩ := bind_eq_done.mp hkeyword
  obtain ⟨rfl, hstops⟩ := stops_of_notFollowedBy hends
  obtain ⟨hstart, hlower⟩ := (word_eq_done (by decide)).mp hword
  obtain ⟨before, hbefore⟩ := (skipBlank_suffix s).trans hs
  obtain ⟨gap, hgap⟩ := skipBlank_suffix left
  have hskip := formula_congr (skipBlank_skipBlank left)
  obtain ⟨g, hg⟩ := Formula.advances_formula.suffix (hskip.trans hformula)
  refine ⟨⟨before, word, gap, g, after, ?_, hlower, ?_, ?_, ?_⟩, ?_⟩
  · rw [hg, hgap, ← hstart, hbefore]
  · rwa [hg, hgap]
  · rw [hg, hgap]
  · rw [hg, hskip, hformula]
  · have hlength := congrArg List.length hbefore
    rw [List.length_append] at hlength
    rw [hline, lineAt_places]
    change source.length - (skipBlank s).length + 1 = before.length + 1
    omega

theorem definition_replaced (place : FunctionField source value) {placed : Definition}
    (hread : definition (places source.length) source = .done placed rest)
    (hmark : place.before.length + 1 ∈ placed.lines) (hrest : Unjoined rest) {t f : String}
    (ht : readFormula t = .ok f) :
    ∃ rest', definition (place.replaced t.toList) (place.replaced t.toList) =
      .done (placed.mapFields (·.exchanged source (place.before.length + 1)
        (t.toList.count '\n' + 1) (place.formula.count '\n') (.function f))) rest' ∧
      skipBlank rest' = skipBlank rest := by
  obtain ⟨before, word, gap, g, after, rfl, hword, hends, hblank, hreads⟩ := place
  have hgap : Gap gap (g ++ after) := ⟨hblank, hends, _, _, hreads⟩
  have hold : before ++ (word ++ (gap ++ (g ++ after))) =
      before ++ (word ++ (gap ++ g) ++ after) := by simp
  have hnew : before ++ (word ++ (gap ++ (' ' :: t.toList ++ '\n' :: after))) =
      before ++ (word ++ (gap ++ (' ' :: t.toList ++ ['\n'])) ++ after) := by simp
  have hcount : (word ++ (gap ++ g)).count '\n' + (t.toList.count '\n' + 1) =
      (word ++ (gap ++ (' ' :: t.toList ++ ['\n']))).count '\n' + g.count '\n' := by
    simp
    omega
  simp only [FunctionField.replaced, hnew]
  rw [hold] at hread ⊢
  exact definition_exchanged (exchange_function hword hgap hreads ht) hcount hread hmark hrest

end Report

end Grammar

/-- Where a function field stands in a definition that is accepted, every formula that is
accepted alone may stand instead, between a space and a line feed. The definition is accepted
again, as the same tree, in which that field has the other formula and the fields behind it
are on other lines. `placed` is that tree with places in the source for lines. -/
theorem function_formula_replaced {text : String} {d : Definition} (hd : readDefinition text = .ok d) :
    ∃ placed : Definition, d = placed.mapFields (·.onLine text.toList) ∧
      placed.lines.Pairwise (· < ·) ∧
      ∀ field ∈ placed.fields, ∀ value, field.spec = .function value →
        ∃ place : FunctionField text.toList value, field.line = place.before.length + 1 ∧
          ∀ t f, readFormula t = .ok f →
            readDefinition (String.ofList (place.replaced t.toList)) =
              .ok (placed.mapFields (·.exchanged text.toList field.line
                (t.toList.count '\n' + 1) (place.formula.count '\n') (.function f))) := by
  obtain ⟨rest, hread, hrest⟩ := readDefinition_eq_ok.mp hd
  rw [Report.definition_places] at hread
  obtain ⟨placed, hplaced, rfl⟩ := map_eq_done.mp hread
  refine ⟨placed, rfl, ?_, fun field hfield value hspec => ?_⟩
  · obtain ⟨_, hpasses, rfl⟩ := Report.meets_definition _ _ placed rest hplaced
    exact (hpasses.strict Nat.le.refl).1
  have hfound := Report.givesIn_definition (P := fun d => ∃ inBody s rest, s <:+ text.toList ∧
    Report.field (places text.toList.length) inBody s = .done d rest)
    (fun inBody s hs d rest hread => ⟨inBody, s, rest, hs, hread⟩) List.suffix_rfl placed rest hplaced
  obtain ⟨inBody, s, left, hs, hfieldRead⟩ := hfound field hfield
  obtain ⟨place, hline⟩ := Report.exists_functionField hs hfieldRead hspec
  refine ⟨place, hline, fun t f ht => readDefinition_eq_ok.mpr ?_⟩
  have hmark : place.before.length + 1 ∈ placed.lines := by
    rw [Definition.lines_eq, ← hline]
    exact List.mem_map_of_mem hfield
  have hunjoined : Unjoined rest := by simp [Unjoined, hrest]
  obtain ⟨rest', hreplaced, hrest'⟩ :=
    Report.definition_replaced place hplaced hmark hunjoined ht
  rw [hline, String.toList_ofList]
  exact ⟨rest', hreplaced, hrest'.trans hrest⟩

theorem function_formula_replaced_named :
    ∃ placed : Definition,
      readDefinition
          "title T\nsection body fieldset include_filters \"x\"\nfunction =a1 as n : s fixed 0 3" =
        .ok (placed.mapFields (·.onLine
          "title T\nsection body fieldset include_filters \"x\"\nfunction =a1 as n : s fixed 0 3".toList)) ∧
      readFormula "\n1.50" = .ok "1.50" ∧
      ∃ field ∈ placed.fields, ∃ place : FunctionField
          "title T\nsection body fieldset include_filters \"x\"\nfunction =a1 as n : s fixed 0 3".toList
          "=A1",
        field.line = place.before.length + 1 ∧
          readDefinition (String.ofList (place.replaced "\n1.50".toList)) =
            .ok (placed.mapFields (·.exchanged
              "title T\nsection body fieldset include_filters \"x\"\nfunction =a1 as n : s fixed 0 3".toList
              field.line 2 (place.formula.count '\n') (.function "1.50"))) := by
  have hread : readDefinition
      "title T\nsection body fieldset include_filters \"x\"\nfunction =a1 as n : s fixed 0 3" =
      .ok ⟨"T", none, none, [], [], [], [⟨false, false, [], [⟨["x"], false, false,
        [⟨.function "=A1", some "n", some "s", 3⟩, ⟨.extracted .fixed 0 3, none, none, 3⟩]⟩], []⟩]⟩ :=
    (readDefinition_ofList rfl).trans (by decide +kernel)
  have hformula : readFormula "\n1.50" = .ok "1.50" := by decide +kernel
  obtain ⟨placed, hplaced, -, hreplaced⟩ := function_formula_replaced hread
  have hspecs : placed.fields.map (·.spec) = [.function "=A1", .extracted .fixed 0 3] := by
    rw [← Definition.specs_onLine, ← hplaced]
    rfl
  have hmem : FieldSpec.function "=A1" ∈ placed.fields.map (·.spec) := by simp [hspecs]
  obtain ⟨field, hfield, hspec⟩ := List.mem_map.mp hmem
  obtain ⟨place, hline, hformulas⟩ := hreplaced field hfield _ hspec
  exact ⟨placed, hplaced ▸ hread, hformula, field, hfield, place, hline, hformulas _ _ hformula⟩

end ListingGrid
