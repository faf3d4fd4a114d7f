import ListingGrid.Proofs.Definition.Agreement
import ListingGrid.Proofs.Definition.Written
import ListingGrid.Proofs.Grammar.Across

/-!
# Sections across a change

The exchanged part of a definition belongs to one field. It is told from the line of that
field which fieldset and which section hold it: all others stand in front or behind.
-/

set_option autoImplicit false

namespace ListingGrid.Grammar.Report

open ListingGrid.Grammar.Parser

variable {M N : Matching} {text source source' : List Char} {mark : Nat}
  {ψ : FieldDefinition → FieldDefinition}

/-- Two texts that agree in front of the exchanged part and behind it, and in the field on
the line `mark` that holds it. -/
structure FieldsAcross (M N : Matching) (text source source' : List Char) (mark : Nat)
    (ψ : FieldDefinition → FieldDefinition) : Prop where
  sides : Sides text M N
  front : FieldsAgree M source source' ψ
  behind : FieldsAgree N source source' ψ
  field (inBody : Bool) : Across M N text (field source inBody) (field source' inBody)
    (fun d => d.line = mark) ψ

theorem exists_mem_getD {α : Type} {o : Option (List α)} {own : α → Prop} :
    (∃ a ∈ o.getD [], own a) ↔ ∃ items ∈ o, ∃ a ∈ items, own a := by
  cases o <;> simp

section Sections

variable (h : FieldsAcross M N text source source' mark ψ)

include h

theorem across_fields (inBody : Bool) : Across M N text (firmly (many1 (field source inBody)))
    (firmly (many1 (field source' inBody))) (fun fields => ∃ d ∈ fields, d.line = mark)
    (List.map ψ) :=
  across_firmly (across_many1 h.sides (h.field inBody) (h.front.field inBody)
    (h.behind.field inBody) (shortens_field source inBody) (shortens_field source' inBody))

theorem across_specialFieldset : Across M N text (specialFieldset source)
    (specialFieldset source') (fun d => mark ∈ d.lines) (FieldsetDefinition.mapFields ψ) := by
  refine across_after (φ := id) h.sides (h.front.keyword (by decide)).tracks fun _ =>
    across_bind h.sides (across_fields h false) (tracks_fields h.front false)
      (fun fields => across_pure ?_) fun fields =>
        tracks_pure (φ := FieldsetDefinition.mapFields ψ) ⟨[], false, false, fields⟩
  simp [FieldsetDefinition.lines]

theorem across_bodyFieldset : Across M N text (bodyFieldset source) (bodyFieldset source')
    (fun d => mark ∈ d.lines) (FieldsetDefinition.mapFields ψ) := by
  refine across_after (φ := id) h.sides (h.front.keyword (by decide)).tracks fun _ => ?_
  refine across_after (φ := id) h.sides (tracks_firmly (tracks_bind (φ := id)
    (h.front.keyword (by decide)).tracks fun _ => h.front.list)) fun filters => ?_
  refine across_after (φ := id) h.sides (tracks_flags (by decide) (by decide)
    (agree_flag h.front (by decide)) (agree_flag h.front (by decide)) _)
    fun (newRow, keepInRow) => ?_
  refine across_bind h.sides (across_fields h true) (tracks_fields h.front true)
    (fun fields => across_pure ?_) fun fields =>
      tracks_pure (φ := FieldsetDefinition.mapFields ψ) ⟨filters, newRow, keepInRow, fields⟩
  simp [FieldsetDefinition.lines]

theorem across_clause {α β : Type} {name : String} {p : Parser α} {p' : Parser β} {φ : α → β}
    {own : α → Prop} (hname : IsKeyword name) (hp : Across M N text p p' own φ) :
    Across M N text (clause name p) (clause name p') (fun o => ∃ a ∈ o, own a) (Option.map φ) :=
  across_optional (across_after (φ := id) h.sides (h.front.keyword hname).tracks fun _ =>
    across_firmly hp)

theorem across_specialFieldsets {name : String} (hname : IsKeyword name) :
    Across M N text (clause name (many1 (specialFieldset source)))
      (clause name (many1 (specialFieldset source')))
      (fun o => ∃ fieldsets ∈ o, ∃ d ∈ fieldsets, mark ∈ d.lines)
      (Option.map (List.map (FieldsetDefinition.mapFields ψ))) :=
  across_clause h hname (across_many1 h.sides (across_specialFieldset h)
    (agree_specialFieldset h.front) (agree_specialFieldset h.behind)
    (shortens_specialFieldset source) (shortens_specialFieldset source'))

theorem across_body : Across M N text
    (firmly (do
      keyword "body"
      many1 (bodyFieldset source)))
    (firmly (do
      keyword "body"
      many1 (bodyFieldset source')))
    (fun fieldsets => ∃ d ∈ fieldsets, mark ∈ d.lines)
    (List.map (FieldsetDefinition.mapFields ψ)) :=
  across_firmly (across_after (φ := id) h.sides (h.front.keyword (by decide)).tracks fun _ =>
    across_many1 h.sides (across_bodyFieldset h) (agree_bodyFieldset h.front)
      (agree_bodyFieldset h.behind) (shortens_bodyFieldset source) (shortens_bodyFieldset source'))

theorem across_sectionDefinition : Across M N text (sectionDefinition source)
    (sectionDefinition source') (fun d => mark ∈ d.lines) (SectionDefinition.mapFields ψ) := by
  refine across_after (φ := id) h.sides (h.front.keyword (by decide)).tracks fun _ => ?_
  refine across_after (φ := id) h.sides (tracks_flags (by decide) (by decide)
    (agree_flag h.front (by decide)) (agree_flag h.front (by decide)) _)
    fun (once, blankRow) => ?_
  refine across_bind h.sides (across_specialFieldsets h (by decide))
    (agree_clause (h.front.keyword (by decide)) (tracks_specialFieldsets h.front)).tracks
    (fun header => ?_) fun header => tracks_body h.behind once blankRow header
  refine across_bind h.sides (across_body h) (tracks_firmly (tracks_bind (φ := id)
    (h.front.keyword (by decide)).tracks fun _ => tracks_bodyFieldsets h.front)) (fun body => ?_)
    fun body => tracks_footer h.behind once blankRow header body
  refine across_bind h.sides (across_specialFieldsets h (by decide))
    (agree_clause (h.front.keyword (by decide)) (tracks_specialFieldsets h.front)).tracks
    (fun footer => across_pure ?_) fun footer => ?_
  · -- A line of the section is one of its head, its body or its foot.
    rintro ⟨⟨⟨hmark, hheader⟩, hbody⟩, hfooter⟩
    rw [← exists_mem_getD] at hheader hfooter
    simp only [SectionDefinition.lines, List.mem_append, List.mem_flatMap] at hmark
    exact hmark.elim hheader (Or.rec hbody hfooter)
  · have hpure := tracks_pure (M := N) (φ := SectionDefinition.mapFields ψ)
      ⟨once, blankRow, header.getD [], body, footer.getD []⟩
    cases header <;> cases footer <;> exact hpure

theorem across_sections : Across M N text (many1 (sectionDefinition source))
    (many1 (sectionDefinition source')) (fun sections => ∃ d ∈ sections, mark ∈ d.lines)
    (List.map (SectionDefinition.mapFields ψ)) :=
  across_many1 h.sides (across_sectionDefinition h) (agree_sectionDefinition h.front)
    (agree_sectionDefinition h.behind) (shortens_sectionDefinition source)
    (shortens_sectionDefinition source')

end Sections

end ListingGrid.Grammar.Report
