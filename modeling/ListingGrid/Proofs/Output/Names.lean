import ListingGrid.Proofs.Report.Pieces
import ListingGrid.Proofs.Grammar.Numerals
import Mathlib.Data.String.Basic

/-!
# Names of cells

Where the names that fields were given differ, cells of one row share a name in two cases: a field
names a cell of each of the lines that were merged into the row, or a given name ends in a digit
and looks like one that was made of a column.
-/

set_option autoImplicit false

namespace ListingGrid

/-- Whether a text ends like one that a number was appended to. -/
def Text.endsInDigit (text : String) : Bool := text.toList.getLast?.any isDigit

/-- The name that all cells of the field have, if there is one. -/
def Field.keptName? (field : Field) : Option String :=
  match field.kind with
  | .empty count => if count = 1 then field.name else none
  | _ => field.name

def Field.stem (field : Field) : String := field.name.getD "field"

/-- Whether lines with a cell of the field may follow each other in a row. -/
def Field.Repeats (field : Field) (sections : List Section) : Prop :=
  ∃ s ∈ sections, ∃ fieldset ∈ s.allFieldsets,
    field ∈ fieldset.fields ∧ fieldset.keepInRow = true ∧ fieldset.newRow = false

def allFields (sections : List Section) : List Field :=
  (sections.flatMap Section.allFieldsets).flatMap (·.fields)

def givenNames (sections : List Section) : List String := (allFields sections).filterMap (·.name)

/-- Whether the field names no two cells of a row: the name that it was given does not end in a
digit, and where all its cells have it, lines with the field do not follow each other in a row. -/
def Field.NamesOne (field : Field) (sections : List Section) : Prop :=
  (∀ name ∈ field.name, Text.endsInDigit name = false) ∧
    (field.keptName?.isSome = true → ¬field.Repeats sections)

instance (field : Field) (sections : List Section) : Decidable (field.Repeats sections) :=
  inferInstanceAs (Decidable (∃ s ∈ sections, ∃ fieldset ∈ s.allFieldsets,
    field ∈ fieldset.fields ∧ fieldset.keepInRow = true ∧ fieldset.newRow = false))

instance (field : Field) (sections : List Section) : Decidable (field.NamesOne sections) :=
  inferInstanceAs (Decidable ((∀ name ∈ field.name, Text.endsInDigit name = false) ∧
    (field.keptName?.isSome = true → ¬field.Repeats sections)))

namespace Text

theorem endsInDigit_append (stem : String) (n : Nat) :
    endsInDigit (stem ++ naturalText n) = true := by
  have hne := decimalDigits_ne_nil n
  rw [endsInDigit, String.toList_append, naturalText, String.toList_ofList,
    List.getLast?_append_of_ne_nil _ hne, List.getLast?_eq_some_getLast hne]
  exact isDigit_of_mem_decimalDigits (List.getLast_mem hne)

/-- The digits at the end of a stem that does not end in one are those of the number. -/
theorem takeWhile_reverse {stem : String} (h : endsInDigit stem = false) (n : Nat) :
    (stem ++ naturalText n).toList.reverse.takeWhile isDigit = (decimalDigits n).reverse := by
  have hstem : stem.toList.reverse.takeWhile isDigit = [] := by
    rw [endsInDigit, ← List.head?_reverse] at h
    cases hs : stem.toList.reverse with
    | nil => rfl
    | cons c rest =>
      rw [hs] at h
      exact List.takeWhile_cons_of_neg (Bool.not_eq_true _ ▸ h)
  rw [String.toList_append, naturalText, String.toList_ofList, List.reverse_append,
    List.takeWhile_append_of_pos fun c hc =>
      isDigit_of_mem_decimalDigits (List.mem_reverse.mp hc), hstem, List.append_nil]

theorem append_naturalText_inj {stem other : String} (hs : endsInDigit stem = false)
    (ho : endsInDigit other = false) {m n : Nat}
    (h : stem ++ naturalText m = other ++ naturalText n) : m = n := by
  have hdigits : (decimalDigits m).reverse = (decimalDigits n).reverse := by
    rw [← takeWhile_reverse hs, h, takeWhile_reverse ho]
  rw [← decimalValue_decimalDigits m, List.reverse_injective hdigits, decimalValue_decimalDigits]

end Text

theorem Field.keptName?_eq_some {field : Field} {name : String}
    (h : field.keptName? = some name) : field.name = some name ∧ field.width = 1 := by
  rw [keptName?] at h
  rw [width]
  cases hk : field.kind with
  | empty count =>
    rw [hk] at h
    obtain ⟨hone, hname⟩ := Option.ite_none_right_eq_some.mp h
    exact ⟨hname, hone⟩
  | _ =>
    rw [hk] at h
    exact ⟨h, rfl⟩

namespace Cell

theorem name_eq (cell : Cell) :
    cell.name = match cell.field.keptName? with
      | some name => name
      | none => cell.field.stem ++ Text.naturalText cell.column := by
  unfold name Field.keptName? Field.stem
  cases hname : cell.field.name with
  | none => cases cell.field.kind <;> simp
  | some given =>
    cases cell.field.kind with
    | empty count => by_cases hcount : count = 1 <;> simp [hcount]
    | extracted | const | function => simp

/-- Whether the cell has a given name that ends in a digit, or one made of it. -/
def NameEndsInDigit (cell : Cell) : Prop :=
  ∃ name, cell.field.name = some name ∧ Text.endsInDigit name = true

theorem stem_endsInDigit {cell : Cell} (h : ¬cell.NameEndsInDigit) :
    Text.endsInDigit cell.field.stem = false := by
  rw [← Bool.not_eq_true]
  intro hstem
  cases hname : cell.field.name with
  | none =>
    rw [Field.stem, hname] at hstem
    exact absurd hstem (by decide)
  | some name => exact h ⟨name, hname, by simpa [Field.stem, hname] using hstem⟩

theorem not_keptName_append {cell : Cell} (h : ¬cell.NameEndsInDigit) (stem : String) (n : Nat) :
    cell.field.keptName? ≠ some (stem ++ Text.naturalText n) :=
  fun hkept => h ⟨_, (Field.keptName?_eq_some hkept).1, Text.endsInDigit_append stem n⟩

/-- Where no given name ends in a digit, cells in different columns have the same name only if it
was given to the fields of both. -/
theorem keptName_of_name_eq {a b : Cell} (ha : ¬a.NameEndsInDigit) (hb : ¬b.NameEndsInDigit)
    (hcolumn : a.column ≠ b.column) (h : a.name = b.name) :
    ∃ name, a.field.keptName? = some name ∧ b.field.keptName? = some name := by
  rw [name_eq, name_eq] at h
  cases hka : a.field.keptName? with
  | some name =>
    cases hkb : b.field.keptName? with
    | some other =>
      rw [hka, hkb] at h
      exact ⟨name, rfl, by rw [show name = other from h]⟩
    | none =>
      rw [hka, hkb] at h
      exact absurd (show name = _ from h) fun he => not_keptName_append ha _ _ (he ▸ hka)
  | none =>
    cases hkb : b.field.keptName? with
    | some other =>
      rw [hka, hkb] at h
      exact absurd (show _ = other from h) fun he => not_keptName_append hb _ _ (he ▸ hkb)
    | none =>
      rw [hka, hkb] at h
      exact absurd (Text.append_naturalText_inj (stem_endsInDigit ha) (stem_endsInDigit hb) h)
        hcolumn

end Cell

def Field.Apart (a b : Field) : Prop := ∀ m ∈ a.name, ∀ n ∈ b.name, m ≠ n

def Fieldset.Apart (a b : Fieldset) : Prop := ∀ f ∈ a.fields, ∀ g ∈ b.fields, f.Apart g

instance : Std.Symm Field.Apart := ⟨fun _ _ h m hm n hn => (h n hn m hm).symm⟩

instance : Std.Symm Fieldset.Apart := ⟨fun _ _ h f hf g hg => Std.Symm.symm _ _ (h g hg f hf)⟩

section NamesDiffer

variable {sections : List Section} (h : (givenNames sections).Nodup)

include h

theorem fieldsets_apart {s t : Section} {a b : Fieldset} (hs : s ∈ sections) (ht : t ∈ sections)
    (ha : a ∈ s.allFieldsets) (hb : b ∈ t.allFieldsets) :
    a.fields.Pairwise Field.Apart ∧ (a ≠ b → a.Apart b) := by
  have hfields : (allFields sections).Pairwise Field.Apart := List.pairwise_filterMap.mp h
  obtain ⟨hwithin, hacross⟩ := List.pairwise_flatMap.mp hfields
  have hacross : (sections.flatMap Section.allFieldsets).Pairwise Fieldset.Apart := hacross
  have hmem : ∀ {u : Section} {c : Fieldset}, u ∈ sections → c ∈ u.allFieldsets →
      c ∈ sections.flatMap Section.allFieldsets := fun hu hc => List.mem_flatMap.mpr ⟨_, hu, hc⟩
  exact ⟨hwithin a (hmem hs ha), hacross.forall (hmem hs ha) (hmem ht hb)⟩

theorem fieldset_of_name {s t : Section} {a b : Fieldset} (hs : s ∈ sections) (ht : t ∈ sections)
    (ha : a ∈ s.allFieldsets) (hb : b ∈ t.allFieldsets) {f g : Field} (hf : f ∈ a.fields)
    (hg : g ∈ b.fields) {name : String} (hfn : f.name = some name) (hgn : g.name = some name) :
    a = b ∧ f = g := by
  have hab : a = b := by
    by_contra hne
    exact (fieldsets_apart h hs ht ha hb).2 hne f hf g hg name hfn name hgn rfl
  subst hab
  refine ⟨rfl, ?_⟩
  by_contra hne
  exact (fieldsets_apart h hs hs ha ha).1.forall hf hg hne name hfn name hgn rfl

end NamesDiffer

def Slot.Merged (sections : List Section) (a b : Slot) : Prop :=
  ∀ name, a.field.keptName? = some name → b.field.keptName? = some name →
    a.field = b.field ∧ a.field.Repeats sections

instance : IsTrans Piece Piece.Continued := ⟨fun _ _ _ hab hbc => ⟨hab.1, hbc.2⟩⟩

theorem Slot.field_of_mem {line : String} {fields : List Field} {slot : Slot}
    (h : slot ∈ ofFields line fields) : slot.field ∈ fields := by
  obtain ⟨field, hfield, hslot⟩ := List.mem_flatMap.mp h
  rw [List.eq_of_mem_replicate hslot, Field.slot_field]
  exact hfield

variable {sections : List Section}

theorem Slot.ofFields_merged {fields : List Field} (h : fields.Pairwise Field.Apart)
    (line : String) : (ofFields line fields).Pairwise (Slot.Merged sections) := by
  refine List.pairwise_flatMap.mpr ⟨fun field _ => List.pairwise_replicate.mpr ?_, ?_⟩
  · -- A field that names its cells has only one.
    by_cases hwidth : field.width ≤ 1
    · exact .inl hwidth
    · refine .inr fun name hname _ => absurd (Nat.le_of_eq ?_) hwidth
      rw [Field.slot_field] at hname
      exact (Field.keptName?_eq_some hname).2
  · refine h.imp fun hab x hx y hy name hxn hyn => ?_
    rw [List.eq_of_mem_replicate hx, Field.slot_field] at hxn
    rw [List.eq_of_mem_replicate hy, Field.slot_field] at hyn
    exact absurd rfl (hab name (Field.keptName?_eq_some hxn).1 name (Field.keptName?_eq_some hyn).1)

/-- Where the names of fields differ, one field names several cells of a row only over lines that
were merged. -/
theorem Slot.MadeOf.merged {slots : List Slot} {s : Section} {pieces : List Piece}
    (h : Slot.MadeOf slots s pieces) (hs : s ∈ sections) (hnames : (givenNames sections).Nodup) :
    slots.Pairwise (Slot.Merged sections) := by
  rw [h.slots_eq]
  refine List.pairwise_flatMap.mpr ⟨fun p hp => ?_, ?_⟩
  · exact Slot.ofFields_merged (fieldsets_apart hnames hs hs (h.fieldsets p hp)
      (h.fieldsets p hp)).1 p.2
  · refine h.continued.pairwise.imp_of_mem fun {p q} hp hq hpq x hx y hy name hxn hyn => ?_
    obtain ⟨hfieldset, hfield⟩ := fieldset_of_name hnames hs hs (h.fieldsets p hp)
      (h.fieldsets q hq) (field_of_mem hx) (field_of_mem hy) (Field.keptName?_eq_some hxn).1
      (Field.keptName?_eq_some hyn).1
    exact ⟨hfield, s, hs, p.1, h.fieldsets p hp, field_of_mem hx, hpq.1, hfieldset ▸ hpq.2⟩

/-- Why two cells of a row have the same name: lines that were merged have the same field, or a
given name ends in a digit. -/
def Cell.Clash (sections : List Section) (a b : Cell) : Prop :=
  (a.field = b.field ∧ a.field.keptName?.isSome = true ∧ a.field.Repeats sections) ∨
    a.NameEndsInDigit ∨ b.NameEndsInDigit

theorem Row.Pieced.clash {row : Row} (h : row.Pieced sections)
    (hnames : (givenNames sections).Nodup) :
    row.cells.Pairwise fun a b => a.name = b.name → Cell.Clash sections a b := by
  obtain ⟨s, hs, pieces, slots, startRow, position, hmade, hcells⟩ := h
  have hmerged := List.pairwise_iff_getElem.mp (hmade.merged hs hnames)
  rw [hcells, List.pairwise_iff_getElem]
  intro i j hi hj hij hname
  simp only [Slot.cells, List.getElem_mapIdx, List.length_mapIdx] at hi hj hname ⊢
  set a := slots[i].cell startRow position (0 + i)
  set b := slots[j].cell startRow position (0 + j)
  by_cases ha : a.NameEndsInDigit
  · exact .inr (.inl ha)
  by_cases hb : b.NameEndsInDigit
  · exact .inr (.inr hb)
  have hcolumn : a.column ≠ b.column := by
    change 0 + i ≠ 0 + j
    omega
  obtain ⟨name, hka, hkb⟩ := Cell.keptName_of_name_eq ha hb hcolumn hname
  obtain ⟨hfield, hrepeats⟩ := hmerged i j hi hj hij name hka hkb
  exact .inl ⟨hfield, by rw [hka]; rfl, hrepeats⟩

theorem Row.Pieced.field_mem {row : Row} (h : row.Pieced sections) {cell : Cell}
    (hcell : cell ∈ row.cells) : cell.field ∈ allFields sections := by
  obtain ⟨s, hs, pieces, slots, startRow, position, hmade, hcells⟩ := h
  rw [hcells] at hcell
  obtain ⟨k, hk, rfl⟩ := List.mem_mapIdx.mp hcell
  have hslot : slots[k] ∈ pieces.flatMap fun p => p.1.slots p.2 :=
    hmade.slots_eq ▸ List.getElem_mem hk
  obtain ⟨p, hp, hslot⟩ := List.mem_flatMap.mp hslot
  exact List.mem_flatMap.mpr ⟨p.1, List.mem_flatMap.mpr ⟨s, hs, hmade.fieldsets p hp⟩,
    Slot.field_of_mem hslot⟩

/-- Cells of fields that name no two of a row have different names. -/
theorem Row.Pieced.names_nodup {row : Row} (h : row.Pieced sections)
    (hnames : (givenNames sections).Nodup)
    (hone : ∀ field ∈ allFields sections, field.NamesOne sections) :
    (row.cells.map Cell.name).Nodup := by
  have hdigit : ∀ cell ∈ row.cells, ¬cell.NameEndsInDigit := by
    rintro cell hcell ⟨name, hname, hends⟩
    simp [(hone _ (h.field_mem hcell)).1 name hname] at hends
  refine List.pairwise_map.mpr ((h.clash hnames).imp_of_mem fun {a b} ha hb hclash hname => ?_)
  rcases hclash hname with ⟨-, hkept, hrepeats⟩ | hends | hends
  · exact (hone _ (h.field_mem ha)).2 hkept hrepeats
  · exact hdigit a ha hends
  · exact hdigit b hb hends

end ListingGrid
