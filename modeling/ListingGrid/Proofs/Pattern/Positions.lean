import ListingGrid.Pattern.Basic
import Mathlib.Logic.Function.Iterate
import Mathlib.Tactic.Tauto

/-!
# Lists of positions

A search keeps the positions that it has come to as a descending list. What a list function does
with all of them at once is what a relation does with each: this is kept by repeating the function,
a given number of times or until nothing new is reached.
-/

set_option autoImplicit false

namespace ListingGrid.Pattern

/-- Whether a list holds positions of a text of the given size, in descending order. -/
structure Positions (size : Nat) (s : List Nat) : Prop where
  descending : s.Pairwise (· > ·)
  within : ∀ i ∈ s, i ≤ size

def Steps (R : Nat → Nat → Prop) : Nat → Nat → Nat → Prop
  | 0, i, j => i = j
  | n + 1, i, j => ∃ k, R i k ∧ Steps R n k j

/-- Whether a function takes the positions of a text along a relation that never leads back. -/
structure Carries (size : Nat) (f : List Nat → List Nat) (R : Nat → Nat → Prop) : Prop where
  positions : ∀ {s}, Positions size s → Positions size (f s)
  mem : ∀ {s}, Positions size s → ∀ j, j ∈ f s ↔ ∃ i ∈ s, R i j
  forward : ∀ {i j}, R i j → i ≤ j

variable {size : Nat} {s a b seen fresh : List Nat}

theorem mem_union (j : Nat) : j ∈ union a b ↔ j ∈ a ∨ j ∈ b := by
  fun_induction union a b with
  | case1 b => simp
  | case2 a => simp
  | case3 x a y b hlt ih => simp [ih, or_assoc]
  | case4 x a y b hnlt hlt ih =>
    rw [List.mem_cons, ih]
    simp only [List.mem_cons]
    tauto
  | case5 x a y b hnlt hnlt' ih =>
    have hxy : x = y := by omega
    subst hxy
    simp only [List.mem_cons, ih]
    tauto

theorem union_descending (ha : a.Pairwise (· > ·)) (hb : b.Pairwise (· > ·)) :
    (union a b).Pairwise (· > ·) := by
  fun_induction union a b with
  | case1 b => exact hb
  | case2 a => exact ha
  | case3 x a y b hlt ih =>
    refine (ih ha.of_cons hb).cons fun j hj => ?_
    rcases (mem_union j).mp hj with hj | hj
    · exact List.rel_of_pairwise_cons ha hj
    · rcases List.mem_cons.mp hj with rfl | hj
      · exact hlt
      · exact Nat.lt_trans (List.rel_of_pairwise_cons hb hj) hlt
  | case4 x a y b hnlt hlt ih =>
    refine (ih ha hb.of_cons).cons fun j hj => ?_
    rcases (mem_union j).mp hj with hj | hj
    · rcases List.mem_cons.mp hj with rfl | hj
      · exact hlt
      · exact Nat.lt_trans (List.rel_of_pairwise_cons ha hj) hlt
    · exact List.rel_of_pairwise_cons hb hj
  | case5 x a y b hnlt hnlt' ih =>
    have hxy : x = y := by omega
    refine (ih ha.of_cons hb.of_cons).cons fun j hj => ?_
    rcases (mem_union j).mp hj with hj | hj
    · exact List.rel_of_pairwise_cons ha hj
    · exact hxy ▸ List.rel_of_pairwise_cons hb hj

theorem Positions.union (ha : Positions size a) (hb : Positions size b) :
    Positions size (Pattern.union a b) :=
  ⟨union_descending ha.descending hb.descending, fun i hi =>
    ((mem_union i).mp hi).elim (ha.within i) (hb.within i)⟩

theorem without_sublist : (without a b).Sublist a := by
  fun_induction without a b with
  | case1 => exact List.nil_sublist _
  | case2 a => exact List.Sublist.refl _
  | case3 x a y b hlt ih => exact ih.cons_cons x
  | case4 x a y b hnlt hlt ih => exact ih
  | case5 x a y b hnlt hnlt' ih => exact ih.trans (List.sublist_cons_self x a)

theorem mem_without (ha : a.Pairwise (· > ·)) (hb : b.Pairwise (· > ·)) (j : Nat) :
    j ∈ without a b ↔ j ∈ a ∧ j ∉ b := by
  fun_induction without a b with
  | case1 => simp
  | case2 a => simp
  | case3 x a y b hlt ih =>
    have hx : x ∉ y :: b := by
      intro hx
      rcases List.mem_cons.mp hx with rfl | hx
      · exact absurd hlt (Nat.lt_irrefl _)
      · exact absurd (List.rel_of_pairwise_cons hb hx) (by omega)
    rw [List.mem_cons, ih ha.of_cons hb]
    constructor
    · rintro (rfl | ⟨hj, hnot⟩)
      · exact ⟨List.mem_cons_self, hx⟩
      · exact ⟨List.mem_cons_of_mem x hj, hnot⟩
    · rintro ⟨hj, hnot⟩
      exact (List.mem_cons.mp hj).imp_right fun hj => ⟨hj, hnot⟩
  | case4 x a y b hnlt hlt ih =>
    have hy : ∀ j ∈ x :: a, j ≠ y := by
      intro j hj
      rcases List.mem_cons.mp hj with rfl | hj
      · omega
      · have := List.rel_of_pairwise_cons ha hj
        omega
    rw [ih ha hb.of_cons]
    refine and_congr_right fun hj => ?_
    simp [hy j hj]
  | case5 x a y b hnlt hnlt' ih =>
    have hxy : x = y := by omega
    have hx : ∀ j ∈ a, j ≠ x := fun j hj => Nat.ne_of_lt (List.rel_of_pairwise_cons ha hj)
    rw [ih ha.of_cons hb.of_cons, List.mem_cons]
    constructor
    · rintro ⟨hj, hnot⟩
      exact ⟨.inr hj, by simpa [hxy ▸ hx j hj] using hnot⟩
    · rintro ⟨rfl | hj, hnot⟩
      · simp [hxy] at hnot
      · exact ⟨hj, fun hb => hnot (List.mem_cons_of_mem y hb)⟩

theorem Steps.add {R : Nat → Nat → Prop} {m n i j k : Nat} (h : Steps R m i j)
    (hn : Steps R n j k) : Steps R (m + n) i k := by
  induction m generalizing i with
  | zero => exact (Nat.zero_add n).symm ▸ (show i = j from h) ▸ hn
  | succ m ih =>
    obtain ⟨next, hR, hm⟩ := h
    rw [Nat.succ_add]
    exact ⟨next, hR, ih hm⟩

theorem Steps.split {R : Nat → Nat → Prop} {m n i k : Nat} (h : Steps R (m + n) i k) :
    ∃ j, Steps R m i j ∧ Steps R n j k := by
  induction m generalizing i with
  | zero => exact ⟨i, rfl, Nat.zero_add n ▸ h⟩
  | succ m ih =>
    rw [Nat.succ_add] at h
    obtain ⟨next, hR, hmore⟩ := h
    obtain ⟨j, hm, hn⟩ := ih hmore
    exact ⟨j, ⟨next, hR, hm⟩, hn⟩

theorem Steps.forward {R : Nat → Nat → Prop} (hR : ∀ {i j}, R i j → i ≤ j) {n i j : Nat}
    (h : Steps R n i j) : i ≤ j := by
  induction n generalizing i with
  | zero => exact Nat.le_of_eq h
  | succ n ih =>
    obtain ⟨k, hk, hn⟩ := h
    exact Nat.le_trans (hR hk) (ih hn)

theorem Steps.shorten {R : Nat → Nat → Prop} (hR : ∀ {i j}, R i j → i ≤ j) {n i j : Nat}
    (h : Steps R n i j) : ∃ m ≤ n, m ≤ j - i ∧ Steps R m i j := by
  induction n generalizing i with
  | zero => exact ⟨0, Nat.le_refl _, Nat.zero_le _, h⟩
  | succ n ih =>
    obtain ⟨k, hk, hn⟩ := h
    obtain ⟨m, hm, hshort, hsteps⟩ := ih hn
    by_cases hik : i = k
    · exact ⟨m, by omega, hik ▸ hshort, hik ▸ hsteps⟩
    · have hle := hR hk
      have hkj := Steps.forward hR hn
      exact ⟨m + 1, by omega, by omega, k, hk, hsteps⟩

theorem iterate_eq (f : List Nat → List Nat) (n : Nat) (starts : List Nat) :
    iterate f n starts = f^[n] starts := by
  induction n generalizing starts with
  | zero => rfl
  | succ n ih =>
    rw [iterate]
    split
    · next hsame => exact (Function.iterate_fixed (beq_iff_eq.mp hsame) (n + 1)).symm
    · rw [ih, Function.iterate_succ_apply]

variable {f : List Nat → List Nat} {R : Nat → Nat → Prop}

theorem Carries.iterate (h : Carries size f R) (n : Nat) :
    Carries size (Pattern.iterate f n) (Steps R n) := by
  have hpositions : ∀ {s}, Positions size s → Positions size (f^[n] s) := by
    intro s hs
    induction n generalizing s with
    | zero => exact hs
    | succ n ih => exact Function.iterate_succ_apply f n s ▸ ih (h.positions hs)
  refine ⟨fun hs => iterate_eq f n _ ▸ hpositions hs, fun {s} hs j => ?_, Steps.forward h.forward⟩
  rw [iterate_eq]
  clear hpositions
  induction n generalizing s with
  | zero => simp [Steps]
  | succ n ih =>
    rw [Function.iterate_succ_apply, ih (h.positions hs)]
    constructor
    · rintro ⟨k, hk, hsteps⟩
      obtain ⟨i, hi, hR⟩ := (h.mem hs k).mp hk
      exact ⟨i, hi, k, hR, hsteps⟩
    · rintro ⟨i, hi, k, hR, hsteps⟩
      exact ⟨k, (h.mem hs k).mpr ⟨i, hi, hR⟩, hsteps⟩

/-- What a search has seen, and what of it is still to be followed: everything that the rest leads
to was seen. -/
structure Frontier (R : Nat → Nat → Prop) (seen fresh : List Nat) : Prop where
  known : ∀ i ∈ fresh, i ∈ seen
  closed : ∀ i ∈ seen, i ∉ fresh → ∀ j, R i j → j ∈ seen

/-- Steps from what was seen end there or go on from what is to be followed. -/
theorem Frontier.leave (h : Frontier R seen fresh) {n i j : Nat} (hi : i ∈ seen)
    (hsteps : Steps R n i j) : j ∈ seen ∨ ∃ k ∈ fresh, ∃ m ≤ n, Steps R m k j := by
  induction n generalizing i with
  | zero => exact .inl ((show i = j from hsteps) ▸ hi)
  | succ n ih =>
    by_cases hfresh : i ∈ fresh
    · exact .inr ⟨i, hfresh, n + 1, Nat.le_refl _, hsteps⟩
    · obtain ⟨next, hR, hmore⟩ := hsteps
      rcases ih (h.closed i hi hfresh next hR) hmore with hj | ⟨k, hk, m, hm, hsteps⟩
      · exact .inl hj
      · exact .inr ⟨k, hk, m, by omega, hsteps⟩

theorem positions_next (h : Carries size f R) (hfresh : Positions size fresh) (seen : List Nat) :
    Positions size (without (f fresh) seen) :=
  ⟨(h.positions hfresh).descending.sublist without_sublist, fun i hi =>
    (h.positions hfresh).within i (without_sublist.subset hi)⟩

section Reach

variable (h : Carries size f R) (hseen : Positions size seen) (hfresh : Positions size fresh)

include h hseen hfresh

theorem mem_next (j : Nat) :
    j ∈ without (f fresh) seen ↔ (∃ i ∈ fresh, R i j) ∧ j ∉ seen := by
  rw [mem_without (h.positions hfresh).descending hseen.descending, h.mem hfresh]

theorem Frontier.next (hfront : Frontier R seen fresh) :
    Frontier R (union (without (f fresh) seen) seen) (without (f fresh) seen) := by
  have hmem := mem_next h hseen hfresh
  refine ⟨fun i hi => (mem_union i).mpr (.inl hi), fun i hi hnot j hR => (mem_union j).mpr ?_⟩
  have hi : i ∈ seen := ((mem_union i).mp hi).resolve_left hnot
  by_cases hj : j ∈ seen
  · exact .inr hj
  · by_cases hif : i ∈ fresh
    · exact .inl ((hmem j).mpr ⟨⟨i, hif, hR⟩, hj⟩)
    · exact absurd (hfront.closed i hi hif j hR) hj

end Reach

theorem positions_reach (h : Carries size f R) (n : Nat) (hseen : Positions size seen)
    (hfresh : Positions size fresh) : Positions size (reach f n seen fresh) := by
  induction n generalizing seen fresh with
  | zero => exact hseen
  | succ n ih =>
    rw [reach]
    split
    · exact hseen
    · have hnext := positions_next h hfresh seen
      exact ih (hnext.union hseen) hnext

/-- A search finds what was seen and what is reached from the rest in so many steps. -/
theorem mem_reach (h : Carries size f R) (n : Nat) (hseen : Positions size seen)
    (hfresh : Positions size fresh) (hfront : Frontier R seen fresh) (j : Nat) :
    j ∈ reach f n seen fresh ↔ j ∈ seen ∨ ∃ i ∈ fresh, ∃ m ≤ n, Steps R m i j := by
  induction n generalizing seen fresh with
  | zero =>
    refine ⟨.inl, ?_⟩
    rintro (hj | ⟨i, hi, m, hm, hsteps⟩)
    · exact hj
    · obtain rfl : m = 0 := by omega
      exact (show i = j from hsteps) ▸ hfront.known i hi
  | succ n ih =>
    have hmem := mem_next h hseen hfresh
    have hnext := hfront.next h hseen hfresh
    rw [reach]
    split
    · next hempty =>
      refine ⟨.inl, ?_⟩
      rintro (hj | ⟨i, hi, m, -, hsteps⟩)
      · exact hj
      · have hnil : without (f fresh) seen = [] := List.isEmpty_iff.mp hempty
        have hleave := hnext.leave ((mem_union i).mpr (.inr (hfront.known i hi))) hsteps
        simpa [hnil, mem_union] using hleave
    · have hpositions := positions_next h hfresh seen
      rw [ih (hpositions.union hseen) hpositions hnext, mem_union]
      constructor
      · rintro ((hj | hj) | ⟨k, hk, m, hm, hsteps⟩)
        · obtain ⟨⟨i, hi, hR⟩, -⟩ := (hmem j).mp hj
          exact .inr ⟨i, hi, 1, by omega, j, hR, rfl⟩
        · exact .inl hj
        · obtain ⟨⟨i, hi, hR⟩, -⟩ := (hmem k).mp hk
          exact .inr ⟨i, hi, m + 1, by omega, k, hR, hsteps⟩
      · rintro (hj | ⟨i, hi, m, hm, hsteps⟩)
        · exact .inl (.inr hj)
        · cases m with
          | zero => exact .inl (.inr ((show i = j from hsteps) ▸ hfront.known i hi))
          | succ m =>
            obtain ⟨k, hR, hsteps⟩ := hsteps
            have hk : k ∈ union (without (f fresh) seen) seen := by
              rw [mem_union, hmem]
              by_cases hks : k ∈ seen
              · exact .inr hks
              · exact .inl ⟨⟨i, hi, hR⟩, hks⟩
            rcases hnext.leave hk hsteps with hj | ⟨k', hk', m', hm', hsteps'⟩
            · exact .inl ((mem_union j).mp hj)
            · exact .inr ⟨k', hk', m', by omega, hsteps'⟩

end ListingGrid.Pattern
