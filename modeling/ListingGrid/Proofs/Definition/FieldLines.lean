import ListingGrid.Proofs.Definition.Advance
import ListingGrid.Proofs.Definition.Written
import ListingGrid.Proofs.Grammar.Fieldsets
import ListingGrid.Proofs.Text.Places

/-!
# The lines of the fields that are read

A reader of definitions meets its fields from left to right, each behind the one before it,
so the lines that it notes are lines of the source and never go back.
-/

set_option autoImplicit false

namespace ListingGrid.Grammar

open ListingGrid.Grammar.Parser

variable {α β : Type} {source s start mid rest : List Char} {lines more : List Nat}

def lineAt (source s : List Char) : Nat := Text.lineNumber (source.take (source.length - s.length))

/-- From one end of a source on to another, fields begin on the given lines one after the
other. -/
inductive Passes (source : List Char) : List Char → List Nat → List Char → Prop
  | none {s rest : List Char} (h : rest <:+ s) : Passes source s [] rest
  | field {s start mid rest : List Char} {lines : List Nat} (hstart : start <:+ s)
    (hmid : mid <:+ start) (hread : mid.length < start.length)
    (h : Passes source mid lines rest) : Passes source s (lineAt source start :: lines) rest

theorem Passes.behind (hs : mid <:+ s) (h : Passes source mid lines rest) :
    Passes source s lines rest := by
  cases h with
  | none h => exact .none (h.trans hs)
  | field hstart hmid hread h => exact .field (hstart.trans hs) hmid hread h

theorem Passes.append (h : Passes source s lines mid) (hmore : Passes source mid more rest) :
    Passes source s (lines ++ more) rest := by
  induction h with
  | none h => exact hmore.behind h
  | field hstart hmid hread _ ih => exact .field hstart hmid hread (ih hmore)

theorem lineAt_mono (h : start <:+ s) : lineAt source s ≤ lineAt source start := by
  have htake : source.take (source.length - s.length) <+:
      source.take (source.length - start.length) :=
    List.take_prefix_take_left (by have := h.length_le; omega)
  exact Nat.succ_le_succ (htake.sublist.count_le '\n')

theorem lineAt_le (hs : s <:+ source) (hne : s ≠ []) :
    lineAt source s ≤ (Text.lines source).length := by
  obtain ⟨before, rfl⟩ := hs
  have htake : (before ++ s).take ((before ++ s).length - s.length) = before := by simp
  rw [lineAt, htake]
  exact Text.lineNumber_le before hne

/-- The lines do not decrease, and they are lines of the source. -/
theorem Passes.ordered (h : Passes source s lines rest) (hs : s <:+ source) :
    lines.Pairwise (· ≤ ·) ∧
      ∀ line ∈ lines, lineAt source s ≤ line ∧ line ≤ (Text.lines source).length := by
  induction h with
  | none => simp
  | @field s start mid rest lines hstart hmid hread _ ih =>
    obtain ⟨hpairwise, hbounds⟩ := ih (hmid.trans (hstart.trans hs))
    have hne : start ≠ [] := by
      rintro rfl
      simp at hread
    have hline := lineAt_le (hstart.trans hs) hne
    have hbefore : lineAt source s ≤ lineAt source start := lineAt_mono hstart
    have hbehind : ∀ line ∈ lines, lineAt source start ≤ line := fun line hmem =>
      Nat.le_trans (lineAt_mono hmid) (hbounds line hmem).1
    refine ⟨List.pairwise_cons.mpr ⟨hbehind, hpairwise⟩, List.forall_mem_cons.mpr ⟨⟨hbefore, hline⟩, ?_⟩⟩
    exact fun line hmem => ⟨Nat.le_trans hbefore (hbehind line hmem), (hbounds line hmem).2⟩

namespace Parser

def Meets (source : List Char) (p : Parser α) (P : α → List Nat → Prop) : Prop :=
  ∀ s a rest, p s = .done a rest → ∃ lines, Passes source s lines rest ∧ P a lines

variable {p : Parser α} {f : α → Parser β} {P : α → List Nat → Prop} {Q : β → List Nat → Prop}

theorem meets_pure {a : α} (h : P a []) : Meets source (Pure.pure a) P := by
  intro s b rest hs
  obtain ⟨rfl, rfl⟩ := pure_eq_done.mp hs
  exact ⟨[], .none List.suffix_rfl, h⟩

theorem meets_bind (hp : Meets source p P)
    (hf : ∀ a lines, P a lines → Meets source (f a) fun b more => Q b (lines ++ more)) :
    Meets source (p >>= f) Q := by
  intro s b rest hs
  obtain ⟨a, mid, ha, hb⟩ := bind_eq_done.mp hs
  obtain ⟨lines, hlines, hP⟩ := hp s a mid ha
  obtain ⟨more, hmore, hQ⟩ := hf a lines hP mid b rest hb
  exact ⟨lines ++ more, hlines.append hmore, hQ⟩

theorem meets_after (hp : Advances p) (hf : ∀ a, Meets source (f a) Q) :
    Meets source (p >>= f) Q := by
  intro s b rest hs
  obtain ⟨a, mid, ha, hb⟩ := bind_eq_done.mp hs
  obtain ⟨more, hmore, hQ⟩ := hf a mid b rest hb
  have hmid := hp.suffix ha
  exact ⟨more, hmore.behind hmid, hQ⟩

theorem meets_firmly (hp : Meets source p P) : Meets source (firmly p) P :=
  fun s a rest hs => hp s a rest (firmly_eq_done.mp hs)

theorem meets_optional (hp : Meets source p P) :
    Meets source (optional p) fun o lines => o.elim (lines = []) fun a => P a lines := by
  intro s o rest hs
  rcases optional_eq_done.mp hs with ⟨a, rfl, ha⟩ | ⟨rfl, rfl, -⟩
  · exact hp s a rest ha
  · exact ⟨[], .none List.suffix_rfl, rfl⟩

/-- Items that are met one after the other have their lines one behind the other. -/
theorem meets_many {own : α → List Nat} (hp : Meets source p fun a lines => lines = own a) :
    Meets source (many p) fun items lines => lines = items.flatMap own := by
  intro s items rest hs
  induction items generalizing s with
  | nil =>
    rcases many_eq_done.mp hs with ⟨-, rfl, -⟩ | ⟨_, _, _, heq, -⟩
    · exact ⟨[], .none List.suffix_rfl, rfl⟩
    · simp at heq
  | cons a items ih =>
    rcases many_eq_done.mp hs with ⟨heq, -⟩ | ⟨_, mid, _, heq, ha, -, hmore⟩
    · simp at heq
    · obtain ⟨rfl, rfl⟩ := List.cons.inj heq
      obtain ⟨_, hlines, rfl⟩ := hp s a mid ha
      obtain ⟨_, hrest, rfl⟩ := ih mid hmore
      exact ⟨_, hlines.append hrest, rfl⟩

theorem meets_many1 {own : α → List Nat} (hp : Meets source p fun a lines => lines = own a) :
    Meets source (many1 p) fun items lines => lines = items.flatMap own := by
  refine meets_bind hp ?_
  rintro a _ rfl
  refine meets_bind (meets_many hp) ?_
  rintro items _ rfl
  exact meets_pure (by simp)

end Parser

namespace Report

theorem shortens_specialField : Shortens specialField := by
  refine shortens_firstOf (shortens_bind (shortens_keyword (by decide)) fun _ => ?_) ?_
  · exact advances_bind (advances_optional (advances_lexeme advances_integer)) fun _ =>
      advances_pure _
  · simp only [List.forall_mem_cons, List.not_mem_nil, false_imp_iff, implies_true, and_true]
    refine ⟨shortens_bind (shortens_keyword (by decide)) fun _ => ?_,
      shortens_bind (shortens_keyword (by decide)) fun _ => ?_⟩
    · exact advances_map _ (advances_firmly (advances_label _ (advances_lexeme advances_constValue)))
    · exact advances_map _ (advances_firmly Formula.advances_formula)

theorem shortens_extractedField : Shortens extractedField := by
  refine shortens_bind (shortens_filterMap shortens_identifier) fun _ => advances_firmly ?_
  exact advances_bind advances_bound fun _ => advances_bind advances_bound fun _ => advances_pure _

theorem shortens_fieldSpec (inBody : Bool) : Shortens (fieldSpec inBody) := by
  intro s spec rest hs
  unfold fieldSpec at hs
  split at hs
  · simp at hs
  · split at hs
    · simp at hs
    · cases inBody with
      | false => exact shortens_specialField s spec rest hs
      | true => exact shortens_or shortens_specialField shortens_extractedField s spec rest hs

def fieldHere (inBody : Bool) (line : Nat) : Parser FieldDefinition := do
  let spec ← fieldSpec inBody
  let name ← clause "as" (label "field name" (lexeme identifier))
  let styleId ← optional (do
    let _ ← lexeme (char ':')
    firmly (label "style id" (lexeme identifier)))
  return ⟨spec, name.map string, styleId.map string, line⟩

theorem field_eq (source : List Char) (inBody : Bool) (s : List Char) :
    field source inBody s = fieldHere inBody (lineAt source (skipBlank s)) (skipBlank s) := rfl

theorem shortens_fieldHere (inBody : Bool) (line : Nat) : Shortens (fieldHere inBody line) := by
  refine shortens_bind (shortens_fieldSpec inBody) fun _ => ?_
  refine advances_bind
    (advances_clause _ (advances_label _ (advances_lexeme advances_identifier))) fun _ => ?_
  refine advances_bind (advances_optional ?_) fun _ => advances_pure _
  exact advances_bind (advances_lexeme (advances_char _)) fun _ =>
    advances_firmly (advances_label _ (advances_lexeme advances_identifier))

theorem gives_fieldHere (inBody : Bool) (line : Nat) :
    Gives (fieldHere inBody line) fun d => d.line = line :=
  gives_after fun _ => gives_after fun _ => gives_after fun _ => gives_pure rfl

/-- A field is met where it begins, behind the blanks. -/
theorem meets_field (source : List Char) (inBody : Bool) :
    Meets source (field source inBody) fun d lines => lines = [d.line] := by
  intro s d rest hs
  have hrest := advances_field source inBody (skipBlank s)
  rw [field_eq, skipBlank_skipBlank] at hrest
  rw [field_eq] at hs
  rw [hs] at hrest
  refine ⟨[d.line], ?_, rfl⟩
  rw [gives_fieldHere inBody _ _ d rest hs]
  exact .field (skipBlank_suffix s) hrest (shortens_fieldHere inBody _ _ d rest hs)
    (.none List.suffix_rfl)

theorem meets_specialFieldset (source : List Char) :
    Meets source (specialFieldset source) fun d lines => lines = d.lines := by
  refine meets_after (advances_keyword _) fun _ => ?_
  refine meets_bind (meets_firmly (meets_many1 (meets_field source false))) ?_
  rintro fields _ rfl
  exact meets_pure (by simp [FieldsetDefinition.lines, List.map_eq_flatMap])

theorem meets_bodyFieldset (source : List Char) :
    Meets source (bodyFieldset source) fun d lines => lines = d.lines := by
  refine meets_after (advances_keyword _) fun _ => meets_after (advances_firmly ?_) fun _ => ?_
  · exact advances_bind (advances_keyword _) fun _ => advances_quotedList
  · refine meets_after (advances_flags _ _ _) fun (newRow, keepInRow) => ?_
    refine meets_bind (meets_firmly (meets_many1 (meets_field source true))) ?_
    rintro fields _ rfl
    exact meets_pure (by simp [FieldsetDefinition.lines, List.map_eq_flatMap])

theorem meets_clause {α : Type} (name : String) {p : Parser (List α)} {own : α → List Nat}
    (hp : Meets source p fun items lines => lines = items.flatMap own) :
    Meets source (clause name p) fun o lines => lines = (o.getD []).flatMap own := by
  intro s o rest hs
  obtain ⟨lines, hlines, ho⟩ := meets_optional (meets_after (advances_keyword name) fun _ =>
    meets_firmly hp) s o rest hs
  refine ⟨lines, hlines, ?_⟩
  cases o with
  | none => simpa using ho
  | some items => exact ho

theorem meets_sectionDefinition (source : List Char) :
    Meets source (sectionDefinition source) fun d lines => lines = d.lines := by
  refine meets_after (advances_keyword _) fun _ =>
    meets_after (advances_flags _ _ _) fun (once, blankRow) => ?_
  refine meets_bind (meets_clause "header" (meets_many1 (meets_specialFieldset source))) ?_
  rintro header _ rfl
  refine meets_bind (meets_firmly (meets_after (advances_keyword "body") fun _ =>
    meets_many1 (meets_bodyFieldset source))) ?_
  rintro body _ rfl
  refine meets_bind (meets_clause "footer" (meets_many1 (meets_specialFieldset source))) ?_
  rintro footer _ rfl
  exact meets_pure (by simp [SectionDefinition.lines])

/-- The fields of a definition are met in the order header, body, footer, within one section
after the other. -/
theorem meets_definition (source : List Char) :
    Meets source (definition source) fun d lines => lines = d.lines := by
  refine meets_after (advances_keyword _) fun _ => meets_after advances_title fun _ => ?_
  refine meets_after (advances_clause _ advances_description) fun _ => ?_
  refine meets_after (advances_clause _ advances_encoding) fun _ => ?_
  refine meets_after (advances_clause _ advances_widths) fun _ => ?_
  refine meets_after (advances_clause _ advances_quotedList) fun _ => ?_
  refine meets_after (advances_many StyleBlock.advances_style) fun _ => ?_
  refine meets_bind (meets_many1 (meets_sectionDefinition source)) ?_
  rintro sections _ rfl
  exact meets_pure (by simp [Definition.lines])

end Report

end ListingGrid.Grammar
