import ListingGrid.Grammar.Definition
import ListingGrid.Proofs.Grammar.Given
import ListingGrid.Proofs.Grammar.Reading

/-!
# The fieldsets of definitions

Every fieldset of a definition that was read has a field, and no field of a
head or a foot is cut out of the line.
-/

set_option autoImplicit false

namespace ListingGrid

def FieldSpec.IsSpecial : FieldSpec → Prop
  | .extracted .. => False
  | .empty _ | .const _ | .function _ => True

def FieldsetDefinition.IsSpecial (d : FieldsetDefinition) : Prop :=
  d.fields ≠ [] ∧ ∀ field ∈ d.fields, field.spec.IsSpecial

structure SectionDefinition.Furnished (d : SectionDefinition) : Prop where
  header : ∀ fieldset ∈ d.header, fieldset.IsSpecial
  body : ∀ fieldset ∈ d.body, fieldset.fields ≠ []
  footer : ∀ fieldset ∈ d.footer, fieldset.IsSpecial

namespace Grammar.Report

open ListingGrid.Grammar.Parser

variable {s rest : List Char} {first second : String}

theorem flags_stop {set : Bool × Bool} (hfirst : Fails (lexeme (keyword first)) s)
    (hsecond : Fails (lexeme (keyword second)) s) : flags first second set s = .done set s := by
  obtain ⟨failure, hfirst⟩ := hfirst
  obtain ⟨failure', hsecond⟩ := hsecond
  rw [lexeme] at hfirst hsecond
  unfold flags
  rw [hfirst, hsecond]

theorem flags_first {set : Bool × Bool} (hread : lexeme (keyword first) s = .done () rest)
    (hnew : set.1 = false) (hlt : rest.length < s.length) :
    flags first second set s = flags first second (true, set.2) rest := by
  rw [lexeme] at hread
  rw [flags, hread]
  simp only [hnew, Bool.false_eq_true, if_false, if_pos hlt]

theorem flags_second {set : Bool × Bool} (hfails : Fails (lexeme (keyword first)) s)
    (hread : lexeme (keyword second) s = .done () rest) (hnew : set.2 = false)
    (hlt : rest.length < s.length) :
    flags first second set s = flags first second (set.1, true) rest := by
  obtain ⟨failure, hfails⟩ := hfails
  rw [lexeme] at hfails hread
  rw [flags, hfails, hread]
  simp only [hnew, Bool.false_eq_true, if_false, if_pos hlt]

theorem gives_specialField : Gives specialField FieldSpec.IsSpecial := by
  refine gives_firstOf ?_ fun q hq => ?_
  · exact gives_after fun _ => gives_after fun _ => gives_pure trivial
  · rcases List.mem_cons.mp hq with rfl | hq
    · exact gives_after fun _ => gives_map fun _ _ _ _ => trivial
    · obtain rfl := List.mem_singleton.mp hq
      exact gives_after fun _ => gives_map fun _ _ _ _ => trivial

theorem gives_fieldSpec_special : Gives (fieldSpec false) FieldSpec.IsSpecial := by
  intro s spec rest hs
  unfold fieldSpec at hs
  split at hs
  · simp at hs
  · split at hs
    · simp at hs
    · exact gives_specialField s spec rest hs

theorem gives_field (source : List Char) (inBody : Bool) {P : FieldSpec → Prop}
    (h : Gives (fieldSpec inBody) P) : Gives (field source inBody) fun d => P d.spec := by
  intro s d rest hs
  refine gives_bind (Q := fun d => P d.spec) h (fun spec hspec => ?_) (skipBlank s) d rest hs
  exact gives_after fun _ => gives_after fun _ => gives_pure hspec

theorem gives_specialFieldset (source : List Char) :
    Gives (specialFieldset source) FieldsetDefinition.IsSpecial := by
  refine gives_after fun _ => ?_
  refine gives_bind (gives_firmly (gives_many1 (gives_field source false gives_fieldSpec_special)))
    fun fields hf => gives_pure hf

theorem gives_bodyFieldset (source : List Char) :
    Gives (bodyFieldset source) fun d => d.fields ≠ [] := by
  refine gives_after fun _ => gives_after fun _ => gives_after fun (newRow, keepInRow) => ?_
  exact gives_bind (gives_firmly (gives_many1 (gives_trivial _))) fun fields hf => gives_pure hf.1

theorem gives_clause_many1 {α : Type} (name : String) {p : Parser α} {P : α → Prop}
    (hp : Gives p P) :
    Gives (clause name (many1 p)) fun o => ∀ a ∈ o.getD [], P a := by
  refine gives_mono (gives_optional (gives_after fun _ => gives_firmly (gives_many1 hp))) ?_
  intro o ho
  cases o with
  | none => simp
  | some items => exact (ho items rfl).2

theorem gives_sectionDefinition (source : List Char) :
    Gives (sectionDefinition source) SectionDefinition.Furnished := by
  refine gives_after fun _ => gives_after fun (once, blankRow) => ?_
  refine gives_bind (gives_clause_many1 "header" (gives_specialFieldset source)) fun header hh => ?_
  refine gives_bind (gives_firmly (gives_after fun _ => gives_many1 (gives_bodyFieldset source)))
    fun body hb => ?_
  refine gives_bind (gives_clause_many1 "footer" (gives_specialFieldset source)) fun footer hf => ?_
  exact gives_pure ⟨hh, hb.2, hf⟩

theorem gives_definition (source : List Char) :
    Gives (definition source) fun d => ∀ s ∈ d.sections, s.Furnished := by
  refine gives_after fun _ => gives_after fun _ => gives_after fun _ => gives_after fun _ => ?_
  refine gives_after fun _ => gives_after fun _ => gives_after fun _ => ?_
  exact gives_bind (gives_many1 (gives_sectionDefinition source)) fun _ hs => gives_pure hs.2

end Grammar.Report

/-- A text is accepted when nothing but blanks stands behind what the reader of definitions
takes. -/
theorem readDefinition_eq_ok {text : String} {d : Definition} :
    Grammar.readDefinition text = .ok d ↔
      ∃ rest, Grammar.Report.definition text.toList text.toList = .done d rest ∧
        Grammar.skipBlank rest = [] :=
  Grammar.readAll_eq_ok

/-- What the grammar gives for every source is what a definition that was read has. -/
theorem readDefinition_gives {P : Definition → Prop} {text : String} {d : Definition}
    (hP : ∀ source, Grammar.Parser.Gives (Grammar.Report.definition source) P)
    (h : Grammar.readDefinition text = .ok d) : P d := by
  obtain ⟨rest, hread, -⟩ := readDefinition_eq_ok.mp h
  exact hP _ _ _ _ hread

theorem sections_furnished {text : String} {d : Definition}
    (h : Grammar.readDefinition text = .ok d) : ∀ s ∈ d.sections, s.Furnished :=
  readDefinition_gives Grammar.Report.gives_definition h

end ListingGrid
