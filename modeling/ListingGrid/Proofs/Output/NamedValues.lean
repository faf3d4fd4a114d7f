import ListingGrid.Output.Json
import ListingGrid.Proofs.Output.Names
import Mathlib.Data.List.Nodup

/-!
# Rows as named values

The named values of a row are in the order of the names, and each is that of the last cell of its
name. A row loses no cell just where the names of its cells differ.
-/

set_option autoImplicit false

namespace ListingGrid

namespace Json

def entry (cell : Cell) : String × Scalar := (cell.name, valueScalar cell.value)

abbrev Ordered (members : List (String × Scalar)) : Prop := members.Pairwise fun a b => a.1 < b.1

/-- Whether members are those of the last cells of each name, in the order of names. -/
structure HoldsLast (cells : List Cell) (members : List (String × Scalar)) : Prop where
  ordered : Ordered members
  mem : ∀ member, member ∈ members ↔ ∃ before cell after, cells = before ++ cell :: after ∧
    (∀ other ∈ after, other.name ≠ cell.name) ∧ member = entry cell

variable {key : String} {value : Scalar} {members : List (String × Scalar)}

theorem mem_insertMember (h : Ordered members) (member : String × Scalar) :
    member ∈ insertMember key value members ↔
      member = (key, value) ∨ member.1 ≠ key ∧ member ∈ members := by
  induction members with
  | nil => simp [insertMember]
  | cons first more ih =>
    obtain ⟨other, old⟩ := first
    have ih := ih h.of_cons
    have hbehind : ∀ m ∈ more, other < m.1 := fun m hm => List.rel_of_pairwise_cons h hm
    rw [insertMember]
    split
    · next hlt =>
      have hne : ∀ m ∈ (other, old) :: more, m.1 ≠ key := by
        intro m hm
        rcases List.mem_cons.mp hm with rfl | hm
        · exact hlt.ne'
        · exact (hlt.trans (hbehind m hm)).ne'
      rw [List.mem_cons]
      exact or_congr_right ⟨fun hm => ⟨hne member hm, hm⟩, And.right⟩
    · next hnlt =>
      split
      · next hgt =>
        have hother : member = (other, old) → member.1 ≠ key := by
          rintro rfl
          exact hgt.ne
        rw [List.mem_cons, ih, List.mem_cons, or_left_comm, and_or_left,
          and_iff_right_of_imp hother]
      · next hngt =>
        have hkey : other = key := le_antisymm (not_lt.mp hnlt) (not_lt.mp hngt)
        have hmore : member ∈ more → member.1 ≠ key := fun hm => hkey ▸ (hbehind member hm).ne'
        have hother : ¬(member.1 ≠ key ∧ member = (other, old)) := by
          rintro ⟨hne, rfl⟩
          exact hne hkey
        rw [List.mem_cons, List.mem_cons, and_or_left, and_iff_right_of_imp hmore,
          or_iff_right hother]

theorem insertMember_ordered (h : Ordered members) : Ordered (insertMember key value members) := by
  induction members with
  | nil => exact List.pairwise_singleton ..
  | cons first more ih =>
    obtain ⟨other, old⟩ := first
    have hbehind : ∀ m ∈ more, other < m.1 := fun m hm => List.rel_of_pairwise_cons h hm
    rw [insertMember]
    split
    · next hlt =>
      refine h.cons fun m hm => ?_
      rcases List.mem_cons.mp hm with rfl | hm
      · exact hlt
      · exact hlt.trans (hbehind m hm)
    · next hnlt =>
      split
      · next hgt =>
        refine (ih h.of_cons).cons fun m hm => ?_
        rcases (mem_insertMember h.of_cons m).mp hm with rfl | ⟨-, hm⟩
        · exact hgt
        · exact hbehind m hm
      · next hngt =>
        have hkey : other = key := le_antisymm (not_lt.mp hnlt) (not_lt.mp hngt)
        exact h.of_cons.cons fun m hm => hkey ▸ hbehind m hm

theorem HoldsLast.insert {cells : List Cell} (h : HoldsLast cells members) (cell : Cell) :
    HoldsLast (cells ++ [cell]) (insertMember cell.name (valueScalar cell.value) members) := by
  refine ⟨insertMember_ordered h.ordered, fun member => ?_⟩
  rw [mem_insertMember h.ordered, h.mem]
  constructor
  · rintro (rfl | ⟨hne, before, last, after, rfl, hafter, rfl⟩)
    · exact ⟨cells, cell, [], rfl, by simp, rfl⟩
    · refine ⟨before, last, after ++ [cell], by simp, fun other hother => ?_, rfl⟩
      rcases List.mem_append.mp hother with hother | hother
      · exact hafter other hother
      · exact List.mem_singleton.mp hother ▸ hne.symm
  · rintro ⟨before, last, after, hcells, hafter, rfl⟩
    rcases List.eq_nil_or_concat after with rfl | ⟨init, final, rfl⟩
    · obtain ⟨-, hlast⟩ := List.append_inj' hcells rfl
      rw [List.singleton_inj.mp hlast]
      exact .inl rfl
    · rw [List.concat_eq_append, ← List.cons_append, ← List.append_assoc] at hcells
      obtain ⟨hinit, hfinal⟩ := List.append_inj' hcells rfl
      rw [List.singleton_inj.mp hfinal]
      exact .inr ⟨(hafter final (by simp)).symm, before, last, init, hinit,
        fun other hother => hafter other (by simp [hother]), rfl⟩

theorem rowValues_holdsLast (row : Row) : HoldsLast row.cells (rowValues row) := by
  rw [rowValues]
  induction row.cells using List.reverseRecOn with
  | nil => exact ⟨List.Pairwise.nil, by simp⟩
  | append_singleton cells cell ih =>
    rw [List.foldl_append]
    exact ih.insert cell

theorem HoldsLast.names_nodup {cells : List Cell} (h : HoldsLast cells members) :
    (members.map Prod.fst).Nodup :=
  List.pairwise_map.mpr (h.ordered.imp fun hlt => hlt.ne)

/-- Every cell has its own member just where the names of the cells differ. -/
theorem HoldsLast.perm_iff {cells : List Cell} (h : HoldsLast cells members) :
    members.Perm (cells.map entry) ↔ (cells.map Cell.name).Nodup := by
  have hnames : (cells.map entry).map Prod.fst = cells.map Cell.name := List.map_map ..
  constructor
  · intro hperm
    exact hnames ▸ (hperm.map Prod.fst).nodup_iff.mp h.names_nodup
  · intro hnodup
    refine (List.perm_ext_iff_of_nodup h.names_nodup.of_map
      (List.Nodup.of_map Prod.fst (hnames ▸ hnodup))).mpr fun member => ?_
    rw [h.mem, List.mem_map]
    constructor
    · rintro ⟨before, cell, after, rfl, -, rfl⟩
      exact ⟨cell, by simp, rfl⟩
    · rintro ⟨cell, hcell, rfl⟩
      obtain ⟨before, after, rfl⟩ := List.append_of_mem hcell
      refine ⟨before, cell, after, rfl, fun other hother => ?_, rfl⟩
      rw [List.map_append, List.map_cons] at hnodup
      have hcells := (List.nodup_cons.mp (List.nodup_append.mp hnodup).2.1).1
      exact fun hname => hcells (hname ▸ List.mem_map_of_mem hother)

end Json

namespace Report

def mergedText : String :=
  "title T\nsection body fieldset include_filters \"A\" new_row keep_in_row string 0 2 as a " ++
    "empty 2 as pad fieldset include_filters \"B\" integer 1 3 as n\n"

/-- In the grid of a pass, the named values of a row are those of the last cells of each name, and
every cell has its own just where the names differ. Where the names given to fields differ, cells
share one only where lines that were merged have the same field, or where a given name ends in a
digit, so that no cell is lost where neither can happen. -/
theorem rowValues_law {report : Report} {text : String} (h : report.IsLoaded text)
    (hnames : (givenNames report.sections).Nodup) (reading : Reading) (path : Option Path) :
    ∀ group ∈ (report.run reading path).report.groups.toList, ∀ row ∈ group.rows.toList,
      Json.HoldsLast row.cells (Json.rowValues row) ∧
      ((Json.rowValues row).Perm (row.cells.map Json.entry) ↔ (row.cells.map Cell.name).Nodup) ∧
      row.cells.Pairwise (fun a b => a.name = b.name → Cell.Clash report.sections a b) ∧
      ((∀ field ∈ allFields report.sections, field.NamesOne report.sections) →
        (row.cells.map Cell.name).Nodup) := by
  intro group hgroup row hrow
  have hpieced := run_pieced (loaded_sound h) reading path group hgroup row hrow
  have hlast := Json.rowValues_holdsLast row
  exact ⟨hlast, hlast.perm_iff, hpieced.clash hnames, hpieced.names_nodup hnames⟩

/-- No cell of two lines that make a row is lost. -/
theorem rowValues_law_merged : ∃ report : Report, report.IsLoaded mergedText ∧
    (givenNames report.sections).Nodup ∧
    (∀ field ∈ allFields report.sections, field.NamesOne report.sections) ∧
    ∃ group ∈ (report.run ⟨[.line "A1", .line "B12"], none⟩ none).report.groups.toList,
      ∃ row ∈ group.rows.toList, row.cells.map Cell.name = ["a", "pad1", "pad2", "n"] ∧
        (Json.rowValues row).Perm (row.cells.map Json.entry) := by
  obtain ⟨report, hload, hcheck⟩ := exists_of_loads mergedText (append_eq_ofList rfl rfl)
    (fun report => decide ((givenNames report.sections).Nodup ∧
      (∀ field ∈ allFields report.sections, field.NamesOne report.sections) ∧
      ∃ group ∈ (report.run ⟨[.line "A1", .line "B12"], none⟩ none).report.groups.toList,
        ∃ row ∈ group.rows.toList, row.cells.map Cell.name = ["a", "pad1", "pad2", "n"]))
    (by decide +kernel)
  obtain ⟨hnames, hone, group, hgroup, row, hrow, hcells⟩ := of_decide_eq_true hcheck
  obtain ⟨-, hperm, -, hdiffer⟩ := rowValues_law (ofText_isLoaded hload) hnames
    ⟨[.line "A1", .line "B12"], none⟩ none group hgroup row hrow
  exact ⟨report, ofText_isLoaded hload, hnames, hone, group, hgroup, row, hrow, hcells,
    hperm.mpr (hdiffer hone)⟩

def repeatedText : String :=
  "title T\nsection body fieldset include_filters \"A\" keep_in_row string 0 2 as a\n"

/-- Names that differ do not keep every cell of a row. -/
theorem rowValues_lost : ¬∀ (report : Report) (text : String) (lines : List String),
    report.IsLoaded text → (givenNames report.sections).Nodup →
    ∀ group ∈ (report.process lines).report.groups.toList, ∀ row ∈ group.rows.toList,
      (row.cells.map Cell.name).Nodup ∧ (Json.rowValues row).Perm (row.cells.map Json.entry) := by
  obtain ⟨report, hload, hcheck⟩ := exists_of_loads repeatedText rfl
    (fun report => decide ((givenNames report.sections).Nodup ∧
      ∃ group ∈ (report.process ["A1", "A2"]).report.groups.toList, ∃ row ∈ group.rows.toList,
        row.cells.map Cell.name = ["a", "a"] ∧ Json.rowValues row = [("a", .text "A2")]))
    (by decide +kernel)
  obtain ⟨hnames, group, hgroup, row, hrow, hcells, hvalues⟩ := of_decide_eq_true hcheck
  intro hclaim
  have hperm := (hclaim report repeatedText ["A1", "A2"] (ofText_isLoaded hload) hnames group
    hgroup row hrow).2
  have htwo : row.cells.length = 2 := by simpa using congrArg List.length hcells
  have hone : 1 = row.cells.length := by simpa [hvalues] using hperm.length_eq
  omega

end Report

end ListingGrid
