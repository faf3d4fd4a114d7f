import ListingGrid.Proofs.Definition.FieldLines
import ListingGrid.Proofs.Definition.Readable

/-!
# Accepted definitions are sound

Whatever text a definition was read from, nothing in it is empty that a report relies on, names
are names, colors are colors, and the lines of its fields are lines of the text, in order.
-/

set_option autoImplicit false

namespace ListingGrid

open ListingGrid.Grammar ListingGrid.Grammar.Parser

def IsColorCode (text : List Char) : Prop :=
  ∃ digits, text = '#' :: digits ∧ digits.length = 6 ∧
    ∀ c ∈ digits, Text.isDigit c = true ∨ 'A' ≤ c ∧ c ≤ 'F'

namespace Style

def colors (s : Style) : List Color :=
  s.borderColor.toList ++ (s.background.toList ++ s.fontColor.toList)

structure Sound (s : Style) : Prop where
  id : IsName s.id.toList
  border : s.borderColor.isSome → s.border.isSome
  colors : ∀ code, .code code ∈ s.colors → IsColorCode code.toList

end Style

/-- The names that a field has are identifiers. -/
structure FieldDefinition.Sound (d : FieldDefinition) : Prop where
  name : ∀ text, d.name = some text → IsName text.toList
  styleId : ∀ text, d.styleId = some text → IsName text.toList

namespace FieldsetDefinition

structure Sound (d : FieldsetDefinition) : Prop where
  some : d.fields ≠ []
  fields : ∀ field ∈ d.fields, field.Sound

structure SoundBody (d : FieldsetDefinition) : Prop extends d.Sound where
  filtered : d.includeFilters ≠ []

structure SoundSpecial (d : FieldsetDefinition) : Prop extends d.Sound where
  unfiltered : d.includeFilters = []
  newRow : d.newRow = false
  keepInRow : d.keepInRow = false
  special : ∀ field ∈ d.fields, ∀ extraction left right,
    field.spec ≠ .extracted extraction left right

end FieldsetDefinition

structure SectionDefinition.Sound (d : SectionDefinition) : Prop where
  header : ∀ fieldset ∈ d.header, fieldset.SoundSpecial
  some : d.body ≠ []
  body : ∀ fieldset ∈ d.body, fieldset.SoundBody
  footer : ∀ fieldset ∈ d.footer, fieldset.SoundSpecial

/-- A definition whose fields stand on the lines of the text. -/
structure Definition.Sound (d : Definition) (text : String) : Prop where
  some : d.sections ≠ []
  sections : ∀ s ∈ d.sections, s.Sound
  styles : ∀ style ∈ d.styles, style.Sound
  lines : ∀ line ∈ d.lines, 1 ≤ line ∧ line ≤ (Text.lines text.toList).length
  ordered : d.lines.Pairwise (· ≤ ·)

theorem upperHex_of_upper {c : Char} (hhex : Text.isHexDigit c = true) (hupper : Text.upper c = c) :
    Text.isDigit c = true ∨ 'A' ≤ c ∧ c ≤ 'F' := by
  simp only [Text.isHexDigit, Bool.or_eq_true, Bool.and_eq_true, decide_eq_true_eq] at hhex
  rcases hhex with (hdigit | hsmall) | hletter
  · exact .inl hdigit
  · -- A small letter is not its own upper case.
    have hlower : Text.isLower c = true := by
      simp only [Text.isLower, Bool.and_eq_true, decide_eq_true_eq]
      exact ⟨hsmall.1, Char.le_trans hsmall.2 (by decide)⟩
    have hletter : Text.isLetter c = true := by simp [Text.isLetter, hlower]
    have hnot := Text.isLower_of_isUpper (hupper ▸ Text.isUpper_upper hletter)
    rw [hlower] at hnot
    cases hnot
  · exact .inr hletter

theorem isColorCode_of_readable {code : String} (h : (Color.code code).Readable) :
    IsColorCode code.toList := by
  obtain ⟨digits, rfl, hlength, hall, hupper⟩ := h
  refine ⟨digits, by simp, hlength, fun c hc => ?_⟩
  have hsame : ∀ c ∈ digits, Text.upper c = id c :=
    List.map_inj_left.mp (hupper.trans (List.map_id digits).symm)
  exact upperHex_of_upper (List.all_eq_true.mp hall c hc) (hsame c hc)

theorem Style.Readable.sound {s : Style} (h : s.Readable) : s.Sound := by
  have hborder : s.borderColor.isSome → s.border.isSome := by
    intro hcolor
    cases hline : s.border with
    | none => simp [h.framed hline] at hcolor
    | some line => rfl
  refine ⟨h.id, hborder, fun code hcode => isColorCode_of_readable ?_⟩
  simp only [Style.colors, List.mem_append, Option.mem_toList] at hcode
  rcases hcode with hcode | hcode | hcode
  · obtain ⟨line, hline⟩ := Option.isSome_iff_exists.mp (hborder (by simp [hcode]))
    exact h.options (.border s.borderColor line) ⟨hline, rfl⟩ _ hcode
  · exact h.options (.background (.code code)) hcode
  · exact h.options (.color (.code code)) hcode

theorem FieldDefinition.Readable.sound {d : FieldDefinition} (h : d.Readable) : d.Sound :=
  ⟨h.name, h.styleId⟩

theorem FieldsetDefinition.Readable.sound {d : FieldsetDefinition} (h : d.Readable) :
    d.SoundBody where
  some := h.some
  fields := fun field hfield => (h.fields field hfield).sound
  filtered := h.filtered

theorem FieldsetDefinition.ReadableSpecial.sound {d : FieldsetDefinition} (h : d.ReadableSpecial) :
    d.SoundSpecial where
  some := h.some
  fields := fun field hfield => (h.fields field hfield).1.sound
  unfiltered := h.plain.1
  newRow := h.plain.2.1
  keepInRow := h.plain.2.2
  special := by
    intro field hfield extraction left right hspec
    have hspecial := (h.fields field hfield).2
    rw [hspec] at hspecial
    exact hspecial

theorem SectionDefinition.Readable.sound {d : SectionDefinition} (h : d.Readable) : d.Sound where
  header := fun fieldset hmem => (h.header fieldset hmem).sound
  some := h.some
  body := fun fieldset hmem => (h.body fieldset hmem).sound
  footer := fun fieldset hmem => (h.footer fieldset hmem).sound

/-- Every accepted definition is sound. -/
theorem readDefinition_sound {text : String} {d : Definition} (h : readDefinition text = .ok d) :
    d.Sound text := by
  have hreadable := readDefinition_readable h
  obtain ⟨rest, hread, -⟩ := readDefinition_eq_ok.mp h
  obtain ⟨_, hlines, rfl⟩ := Report.meets_definition text.toList text.toList d rest hread
  obtain ⟨hordered, hbounds⟩ := hlines.ordered List.suffix_rfl
  have hfirst : lineAt text.toList text.toList = 1 := by simp [lineAt, Text.lineNumber]
  exact {
    some := hreadable.some
    sections := fun s hs => (hreadable.sections s hs).sound
    styles := fun style hstyle => (hreadable.styles style hstyle).sound
    lines := fun line hline => hfirst ▸ hbounds line hline
    ordered := hordered }

set_option maxRecDepth 1000 in
theorem readDefinition_sound_styled :
    ∃ d, readDefinition
        "title N\nstyle s color 0a0b0c border red thin\nsection header fieldset empty 2\nbody fieldset include_filters \"x\"\nfixed 0 3 as n\nfunction =a1 : s" = .ok d ∧
      d.lines = [3, 5, 6] ∧ d.styles.map (·.fontColor) = [some (.code "#0A0B0C")] ∧
      d.Sound
        "title N\nstyle s color 0a0b0c border red thin\nsection header fieldset empty 2\nbody fieldset include_filters \"x\"\nfixed 0 3 as n\nfunction =a1 : s" := by
  have hread : readDefinition
      "title N\nstyle s color 0a0b0c border red thin\nsection header fieldset empty 2\nbody fieldset include_filters \"x\"\nfixed 0 3 as n\nfunction =a1 : s" =
      .ok ⟨"N", none, none, [], [], [{ Style.plain "s" with
          fontColor := some (.code "#0A0B0C"), border := some .thin, borderColor := some (.named .red) }],
        [⟨false, false, [⟨[], false, false, [⟨.empty 2, none, none, 3⟩]⟩],
          [⟨["x"], false, false, [⟨.extracted .fixed 0 3, some "n", none, 5⟩,
            ⟨.function "=A1", none, some "s", 6⟩]⟩], []⟩]⟩ :=
    (readDefinition_ofList rfl).trans (by decide +kernel)
  exact ⟨_, hread, rfl, rfl, readDefinition_sound hread⟩

end ListingGrid
