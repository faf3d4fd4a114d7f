import ListingGrid.Proofs.Definition.Places
import ListingGrid.Proofs.Definition.Written

/-!
# Fields at their places

Every field of a definition was read at a place of its source, and no two of them at the same
one: where lines are counted like characters, they increase from field to field.
-/

set_option autoImplicit false

namespace ListingGrid

def SectionDefinition.fields (d : SectionDefinition) : List FieldDefinition :=
  (d.header ++ (d.body ++ d.footer)).flatMap (·.fields)

/-- All fields, in the order in which they are read. -/
def Definition.fields (d : Definition) : List FieldDefinition := d.sections.flatMap (·.fields)

theorem SectionDefinition.lines_eq (d : SectionDefinition) : d.lines = d.fields.map (·.line) := by
  simp only [lines, fields, FieldsetDefinition.lines, List.flatMap_append, List.map_append,
    List.map_flatMap]

theorem Definition.lines_eq (d : Definition) : d.lines = d.fields.map (·.line) := by
  simp only [lines, fields, SectionDefinition.lines_eq, List.map_flatMap]

theorem Definition.fields_mapFields (f : FieldDefinition → FieldDefinition) (d : Definition) :
    (d.mapFields f).fields = d.fields.map f := by
  simp only [fields, mapFields, SectionDefinition.fields, SectionDefinition.mapFields,
    FieldsetDefinition.mapFields, List.flatMap_map, List.map_flatMap, ← List.map_append]

theorem Definition.specs_onLine (source : List Char) (d : Definition) :
    (d.mapFields (·.onLine source)).fields.map (·.spec) = d.fields.map (·.spec) := by
  rw [fields_mapFields, List.map_map]
  rfl

namespace Grammar

open ListingGrid.Grammar.Parser

variable {source s rest : List Char} {lines : List Nat} {size : Nat}

theorem Passes.strict (h : Passes (places size) s lines rest) (hs : s.length ≤ size) :
    lines.Pairwise (· < ·) ∧ ∀ line ∈ lines, size - s.length + 1 ≤ line := by
  induction h with
  | none => simp
  | @field s start mid rest lines hstart hmid hread _ ih =>
    have hle := hstart.length_le
    obtain ⟨hpairwise, hbounds⟩ := ih (by omega)
    simp only [Report.lineAt_places, List.pairwise_cons, List.forall_mem_cons]
    refine ⟨⟨fun line hline => ?_, hpairwise⟩, by omega, fun line hline => ?_⟩ <;>
    · have hbound := hbounds line hline
      omega

namespace Parser

variable {α β : Type} {p : Parser α} {P : α → Prop}

/-- Everything that the parser gives at a place of the source has the property. -/
def GivesIn (source : List Char) (p : Parser α) (P : α → Prop) : Prop :=
  ∀ ⦃s⦄, s <:+ source → ∀ a rest, p s = .done a rest → P a

theorem givesIn_pure {a : α} (h : P a) : GivesIn source (Pure.pure a) P := fun _ _ _ _ hread =>
  (pure_eq_done.mp hread).1 ▸ h

theorem givesIn_bind {f : α → Parser β} {Q : β → Prop} (hadvances : Advances p)
    (hp : GivesIn source p P) (hf : ∀ a, P a → GivesIn source (f a) Q) :
    GivesIn source (p >>= f) Q := by
  intro s hs b rest hread
  obtain ⟨a, mid, ha, hb⟩ := bind_eq_done.mp hread
  exact hf a (hp hs a mid ha) ((hadvances.suffix ha).trans hs) b rest hb

theorem givesIn_after {f : α → Parser β} {Q : β → Prop} (hadvances : Advances p)
    (hf : ∀ a, GivesIn source (f a) Q) : GivesIn source (p >>= f) Q :=
  givesIn_bind (P := fun _ => True) hadvances (fun _ _ _ _ _ => trivial) fun a _ => hf a

theorem givesIn_firmly (hp : GivesIn source p P) : GivesIn source (firmly p) P :=
  fun _ hs a rest hread => hp hs a rest (firmly_eq_done.mp hread)

theorem givesIn_optional (hp : GivesIn source p P) :
    GivesIn source (optional p) fun o => ∀ a ∈ o, P a := by
  rintro s hs _ rest hread a rfl
  obtain ⟨_, heq, ha⟩ | ⟨heq, -⟩ := optional_eq_done.mp hread
  · cases heq
    exact hp hs a rest ha
  · cases heq

theorem givesIn_many (hadvances : Advances p) (hp : GivesIn source p P) :
    GivesIn source (many p) fun items => ∀ a ∈ items, P a := by
  intro s hs items rest hread
  induction items generalizing s with
  | nil => simp
  | cons a items ih =>
    obtain ⟨heq, -⟩ | ⟨_, mid, _, heq, ha, -, hmore⟩ := many_eq_done.mp hread
    · cases heq
    cases heq
    exact List.forall_mem_cons.mpr
      ⟨hp hs a mid ha, ih ((hadvances.suffix ha).trans hs) hmore⟩

theorem givesIn_many1 (hadvances : Advances p) (hp : GivesIn source p P) :
    GivesIn source (many1 p) fun items => ∀ a ∈ items, P a :=
  givesIn_bind hadvances hp fun _ ha => givesIn_bind (advances_many hadvances)
    (givesIn_many hadvances hp) fun _ hitems => givesIn_pure (List.forall_mem_cons.mpr ⟨ha, hitems⟩)

end Parser

namespace Report

variable {text : List Char} {P : FieldDefinition → Prop}
  (h : ∀ inBody, GivesIn text (field source inBody) P)

include h

theorem givesIn_fields (inBody : Bool) :
    GivesIn text (firmly (many1 (field source inBody))) fun fields => ∀ d ∈ fields, P d :=
  givesIn_firmly (givesIn_many1 (advances_field source inBody) (h inBody))

theorem givesIn_specialFieldset :
    GivesIn text (specialFieldset source) fun d => ∀ field ∈ d.fields, P field :=
  givesIn_after (advances_keyword _) fun _ => givesIn_bind (advances_firmly (advances_many1
    (advances_field source false))) (givesIn_fields h false) fun _ hfields => givesIn_pure hfields

theorem givesIn_bodyFieldset :
    GivesIn text (bodyFieldset source) fun d => ∀ field ∈ d.fields, P field := by
  refine givesIn_after (advances_keyword _) fun _ => givesIn_after (advances_firmly
    (advances_bind (advances_keyword _) fun _ => advances_quotedList)) fun _ => ?_
  refine givesIn_after (advances_flags _ _ _) fun (newRow, keepInRow) => ?_
  exact givesIn_bind (advances_firmly (advances_many1 (advances_field source true)))
    (givesIn_fields h true) fun _ hfields => givesIn_pure hfields

theorem givesIn_specialFieldsets (name : String) :
    GivesIn text (clause name (many1 (specialFieldset source)))
      fun o => ∀ fieldsets ∈ o, ∀ d ∈ fieldsets, ∀ field ∈ d.fields, P field :=
  givesIn_optional (givesIn_after (advances_keyword name) fun _ => givesIn_firmly
    (givesIn_many1 (advances_specialFieldset source) (givesIn_specialFieldset h)))

theorem givesIn_sectionDefinition :
    GivesIn text (sectionDefinition source) fun d => ∀ field ∈ d.fields, P field := by
  have hspecial : ∀ name, Advances (clause name (many1 (specialFieldset source))) :=
    fun name => advances_clause name (advances_many1 (advances_specialFieldset source))
  refine givesIn_after (advances_keyword _) fun _ =>
    givesIn_after (advances_flags _ _ _) fun (once, blankRow) => ?_
  refine givesIn_bind (hspecial _) (givesIn_specialFieldsets h _) fun header hheader => ?_
  refine givesIn_bind (P := fun body => ∀ d ∈ body, ∀ field ∈ d.fields, P field)
    (advances_firmly (advances_bind (advances_keyword _) fun _ =>
      advances_many1 (advances_bodyFieldset source)))
    (givesIn_firmly (givesIn_after (advances_keyword _) fun _ =>
      givesIn_many1 (advances_bodyFieldset source) (givesIn_bodyFieldset h))) fun body hbody => ?_
  refine givesIn_bind (hspecial _) (givesIn_specialFieldsets h _) fun footer hfooter => ?_
  refine givesIn_pure fun field hfield => ?_
  simp only [SectionDefinition.fields, List.mem_flatMap, List.mem_append] at hfield
  obtain ⟨d, hd | hd | hd, hmem⟩ := hfield
  · cases header with
    | none => simp at hd
    | some fieldsets => exact hheader fieldsets rfl d hd field hmem
  · exact hbody d hd field hmem
  · cases footer with
    | none => simp at hd
    | some fieldsets => exact hfooter fieldsets rfl d hd field hmem

/-- What holds for every field that is read at a place of the text holds for every field of a
definition that is read there. -/
theorem givesIn_definition :
    GivesIn text (definition source) fun d => ∀ field ∈ d.fields, P field := by
  refine givesIn_after (advances_keyword _) fun _ => givesIn_after advances_title fun _ => ?_
  refine givesIn_after (advances_clause _ advances_description) fun _ => ?_
  refine givesIn_after (advances_clause _ advances_encoding) fun _ => ?_
  refine givesIn_after (advances_clause _ advances_widths) fun _ => ?_
  refine givesIn_after (advances_clause _ advances_quotedList) fun _ => ?_
  refine givesIn_after (advances_many StyleBlock.advances_style) fun _ => ?_
  refine givesIn_bind (advances_many1 (advances_sectionDefinition source))
    (givesIn_many1 (advances_sectionDefinition source) (givesIn_sectionDefinition h))
    fun sections hsections => givesIn_pure fun field hfield => ?_
  obtain ⟨d, hd, hmem⟩ := List.mem_flatMap.mp hfield
  exact hsections d hd field hmem

end Report

end Grammar

end ListingGrid
