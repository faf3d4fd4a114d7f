import ListingGrid.Proofs.Definition.Agreement

/-!
# The places of fields

Fields on one line are told apart by their places, the numbers of characters in front of
them. A reader of definitions counts line feeds in front of a field; with a source of line
feeds alone it counts characters instead. What it reads otherwise does not depend on the
source, so lines are got from places.
-/

set_option autoImplicit false

namespace ListingGrid

/-- A text of line feeds alone, in which the line of a place is one more than the number of
characters in front of it. -/
def places (size : Nat) : List Char := List.replicate size '\n'

/-- The field on the line of the source where its place is. -/
def FieldDefinition.onLine (source : List Char) (d : FieldDefinition) : FieldDefinition :=
  { d with line := Text.lineNumber (source.take (d.line - 1)) }

namespace Grammar

open ListingGrid.Grammar.Parser

variable {s rest source source' : List Char}

namespace Report

theorem lineAt_places (size : Nat) (s : List Char) :
    lineAt (places size) s = size - s.length + 1 := by
  simp [lineAt, places, Text.lineNumber, List.take_replicate]

theorem field_places (source : List Char) (inBody : Bool) :
    field source inBody = map (·.onLine source) (field (places source.length) inBody) := by
  funext s
  rw [map, field_eq, field_eq, lineAt_places,
    fieldHere_map inBody (source.length - (skipBlank s).length + 1), map]
  cases hread : fieldHere inBody (source.length - (skipBlank s).length + 1) (skipBlank s) with
  | fail | abort => rfl
  | done d rest =>
    have hline := gives_fieldHere inBody _ _ d rest hread
    simp [FieldDefinition.onLine, hline, lineAt]

theorem specialFieldset_places (source : List Char) : specialFieldset source =
    map (FieldsetDefinition.mapFields (·.onLine source))
      (specialFieldset (places source.length)) := by
  simp only [specialFieldset, field_places source, many1_map, firmly_map, bind_map, map_bind,
    map_pure]
  rfl

theorem bodyFieldset_places (source : List Char) : bodyFieldset source =
    map (FieldsetDefinition.mapFields (·.onLine source)) (bodyFieldset (places source.length)) := by
  simp only [bodyFieldset, field_places source, many1_map, firmly_map, bind_map, map_bind,
    map_pure]
  rfl

theorem clause_map {α β : Type} (name : String) (f : α → β) (p : Parser α) :
    clause name (map f p) = map (Option.map f) (clause name p) := by
  have hbody : (do
      keyword name
      firmly (map f p) : Parser β) = map f (do
      keyword name
      firmly p) := by
    rw [map_bind]
    simp only [firmly_map]
  rw [clause, hbody, optional_map]
  rfl

theorem getD_map_list {α β : Type} (f : α → β) (o : Option (List α)) :
    (Option.map (List.map f) o).getD [] = List.map f (o.getD []) := by
  cases o <;> rfl

theorem sectionDefinition_places (source : List Char) : sectionDefinition source =
    map (SectionDefinition.mapFields (·.onLine source))
      (sectionDefinition (places source.length)) := by
  have hbody : (do
      keyword "body"
      many1 (bodyFieldset source) : Parser (List FieldsetDefinition)) =
      map (List.map (FieldsetDefinition.mapFields (·.onLine source))) (do
        keyword "body"
        many1 (bodyFieldset (places source.length))) := by
    rw [map_bind, bodyFieldset_places source]
    simp only [many1_map]
  unfold sectionDefinition
  rw [hbody]
  generalize (do
    keyword "body"
    many1 (bodyFieldset (places source.length)) : Parser (List FieldsetDefinition)) = bodies
  simp only [specialFieldset_places source, many1_map, clause_map, firmly_map, bind_map, map_bind,
    map_pure, getD_map_list]
  rfl

/-- The same definition, with each field on the line of its place. -/
theorem definition_places (source : List Char) : definition source =
    map (Definition.mapFields (·.onLine source)) (definition (places source.length)) := by
  simp only [definition, sectionDefinition_places source, many1_map, bind_map, map_bind, map_pure]
  rfl

end Report

end Grammar

end ListingGrid
