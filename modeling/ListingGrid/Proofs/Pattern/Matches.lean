import ListingGrid.Proofs.Pattern.Positions

/-!
# Where patterns match

A pattern relates the positions where a match begins to those where it ends, by recursion over the
pattern. A search finds those and no others: a repetition that is given up after as many rounds as
there are positions leaves nothing out.
-/

set_option autoImplicit false

namespace ListingGrid.Pattern

/-- Whether a match that begins at the first position may end at the second. -/
def Matches (text : Array Char) : Pattern → Nat → Nat → Prop
  | .empty, i, j => i = j
  | .literal cs, i, j => literalEnd? text cs i = some j
  | .chars set, i, j => setEnd? text set i = some j
  | .look condition, i, j => i = j ∧ condition.holds text i = true
  | .seq a b, i, j => ∃ k, Matches text a i k ∧ Matches text b k j
  | .alt a b, i, j => Matches text a i j ∨ Matches text b i j
  | .repeated body least most _, i, j =>
    ∃ n, least ≤ n ∧ (∀ m ∈ most, n ≤ max least m) ∧ Steps (Matches text body) n i j
  | .group _ body, i, j => Matches text body i j

variable {text : Array Char} {i j : Nat}

theorem literalEnd?_eq_some {cs : List Char} :
    literalEnd? text cs i = some j ↔
      j = i + cs.length ∧ ∀ k (hk : k < cs.length), text[i + k]? = some cs[k] := by
  induction cs generalizing i with
  | nil => simp [literalEnd?, eq_comm]
  | cons c rest ih =>
    have hcons : (∀ k (hk : k < (c :: rest).length), text[i + k]? = some (c :: rest)[k]) ↔
        text[i]? = some c ∧ ∀ k (hk : k < rest.length), text[i + 1 + k]? = some rest[k] := by
      constructor
      · intro h
        refine ⟨h 0 (by simp), fun k hk => ?_⟩
        have hnext := h (k + 1) (by simpa using hk)
        rwa [← Nat.add_assoc, Nat.add_right_comm] at hnext
      · rintro ⟨hfirst, hrest⟩ (_ | k) hk
        · exact hfirst
        · rw [← Nat.add_assoc, Nat.add_right_comm]
          exact hrest k (by simpa using hk)
    rw [literalEnd?, hcons]
    split
    · next hc =>
      rw [ih, List.length_cons]
      simp only [beq_iff_eq.mp hc, true_and]
      exact and_congr_left fun _ => by omega
    · next hc =>
      have hc : text[i]? ≠ some c := fun he => hc (beq_iff_eq.mpr he)
      simp [hc]

theorem setEnd?_eq_some {set : CharSet} :
    setEnd? text set i = some j ↔ j = i + 1 ∧ ∃ c, text[i]? = some c ∧ set.contains c = true := by
  unfold setEnd?
  split
  · next c hc =>
    split
    · next hset =>
      rw [Option.some_inj]
      exact ⟨fun h => ⟨h.symm, c, hc, hset⟩, fun h => h.1.symm⟩
    · next hset => simp [hc, hset]
  · next hc => simp [hc]

theorem literalEnd?_le {cs : List Char} (hi : i ≤ text.size)
    (h : literalEnd? text cs i = some j) : j ≤ text.size := by
  obtain ⟨rfl, hall⟩ := literalEnd?_eq_some.mp h
  cases hcs : cs.length with
  | zero => simpa using hi
  | succ n =>
    have hlast := hall n (by omega)
    have hlt := (Array.getElem?_eq_some_iff.mp hlast).1
    omega

theorem setEnd?_le {set : CharSet} (h : setEnd? text set i = some j) : j ≤ text.size := by
  obtain ⟨rfl, c, hc, -⟩ := setEnd?_eq_some.mp h
  exact (Array.getElem?_eq_some_iff.mp hc).1

variable {size : Nat} {f g : List Nat → List Nat} {R S : Nat → Nat → Prop}

/-- Positions that are all moved on by the same number of characters stay in order. -/
theorem Carries.shift {next? : Nat → Option Nat} {width : Nat}
    (hwidth : ∀ {i j}, next? i = some j → j = i + width)
    (hsize : ∀ {i j}, i ≤ size → next? i = some j → j ≤ size) :
    Carries size (fun s => s.filterMap next?) fun i j => next? i = some j where
  positions hs := by
    refine ⟨List.pairwise_filterMap.mpr (hs.descending.imp fun hij a ha b hb => ?_), fun j hj => ?_⟩
    · rw [hwidth ha, hwidth hb]
      exact Nat.add_lt_add_right hij width
    · obtain ⟨i, hi, hj⟩ := List.mem_filterMap.mp hj
      exact hsize (hs.within i hi) hj
  mem _ _ := List.mem_filterMap
  forward h := by
    rw [hwidth h]
    exact Nat.le_add_right ..

theorem Carries.filter (p : Nat → Bool) :
    Carries size (fun s => s.filter p) fun i j => i = j ∧ p i = true where
  positions hs := ⟨hs.descending.filter p, fun i hi => hs.within i (List.mem_filter.mp hi).1⟩
  mem _ j := by
    rw [List.mem_filter]
    constructor
    · rintro ⟨hj, hp⟩
      exact ⟨j, hj, rfl, hp⟩
    · rintro ⟨i, hi, rfl, hp⟩
      exact ⟨hi, hp⟩
  forward h := Nat.le_of_eq h.1

theorem Carries.comp (hf : Carries size f R) (hg : Carries size g S) :
    Carries size (fun s => g (f s)) fun i j => ∃ k, R i k ∧ S k j where
  positions hs := hg.positions (hf.positions hs)
  mem hs j := by
    rw [hg.mem (hf.positions hs)]
    constructor
    · rintro ⟨k, hk, hS⟩
      obtain ⟨i, hi, hR⟩ := (hf.mem hs k).mp hk
      exact ⟨i, hi, k, hR, hS⟩
    · rintro ⟨i, hi, k, hR, hS⟩
      exact ⟨k, (hf.mem hs k).mpr ⟨i, hi, hR⟩, hS⟩
  forward := by
    rintro i j ⟨k, hR, hS⟩
    exact Nat.le_trans (hf.forward hR) (hg.forward hS)

theorem Carries.union (hf : Carries size f R) (hg : Carries size g S) :
    Carries size (fun s => Pattern.union (f s) (g s)) fun i j => R i j ∨ S i j where
  positions hs := (hf.positions hs).union (hg.positions hs)
  mem hs j := by
    rw [mem_union, hf.mem hs, hg.mem hs, ← exists_or]
    exact exists_congr fun i => and_or_left.symm
  forward h := h.elim hf.forward hg.forward

/-- A repetition is searched for no longer than new positions can be found. -/
theorem Carries.repeated (h : Carries size f R) (least : Nat) (most : Option Nat) :
    Carries size
      (fun s => reach f
        (match most with
          | none => size + 1
          | some n => min (n - least) (size + 1))
        (Pattern.iterate f least s) (Pattern.iterate f least s))
      fun i j => ∃ n, least ≤ n ∧ (∀ m ∈ most, n ≤ max least m) ∧ Steps R n i j := by
  have hleast := h.iterate least
  refine ⟨fun hs => positions_reach h _ (hleast.positions hs) (hleast.positions hs),
    fun {s} hs j => ?_, ?_⟩
  · have hpositions := hleast.positions hs
    have hfront : Frontier R (Pattern.iterate f least s) (Pattern.iterate f least s) :=
      ⟨fun _ hi => hi, fun i hi hnot => absurd hi hnot⟩
    rw [mem_reach h _ hpositions hpositions hfront]
    constructor
    · rintro (hj | ⟨k, hk, m, hm, hsteps⟩)
      · obtain ⟨i, hi, hsteps⟩ := (hleast.mem hs j).mp hj
        exact ⟨i, hi, least, Nat.le_refl _, fun m _ => Nat.le_max_left .., hsteps⟩
      · obtain ⟨i, hi, hfirst⟩ := (hleast.mem hs k).mp hk
        refine ⟨i, hi, least + m, Nat.le_add_right .., ?_, hfirst.add hsteps⟩
        rintro n rfl
        have hm : m ≤ min (n - least) (size + 1) := hm
        omega
    · rintro ⟨i, hi, n, hn, hmost, hsteps⟩
      obtain ⟨extra, rfl⟩ := Nat.exists_eq_add_of_le hn
      obtain ⟨k, hfirst, hmore⟩ := hsteps.split
      have hk := (hleast.mem hs k).mpr ⟨i, hi, hfirst⟩
      -- More steps than there are positions pass one of them twice, so that fewer will do.
      obtain ⟨m, hm, hshort, hmore⟩ := hmore.shorten h.forward
      have hj : j ≤ size := by
        have hcarried := (h.iterate m).positions hpositions
        exact hcarried.within j (((h.iterate m).mem hpositions j).mpr ⟨k, hk, hmore⟩)
      refine .inr ⟨k, hk, m, ?_, hmore⟩
      split
      · omega
      · next n =>
        have hextra := hmost n rfl
        omega
  · rintro i j ⟨n, -, -, hsteps⟩
    exact Steps.forward h.forward hsteps

/-- A search over a pattern goes where the pattern matches. -/
theorem carries_ends (text : Array Char) (p : Pattern) :
    Carries text.size (ends text p) (Matches text p) := by
  induction p with
  | empty =>
    exact ⟨fun hs => hs, fun _ j => by simp [ends, Matches], fun h => Nat.le_of_eq h⟩
  | literal cs =>
    exact .shift (fun h => (literalEnd?_eq_some.mp h).1) literalEnd?_le
  | chars set => exact .shift (fun h => (setEnd?_eq_some.mp h).1) fun _ => setEnd?_le
  | look condition => exact .filter _
  | seq a b iha ihb => exact iha.comp ihb
  | alt a b iha ihb => exact iha.union ihb
  | repeated body least most greedy ih => exact ih.repeated least most
  | group number body ih => exact ih

/-- A pattern matches somewhere in a line just where a search from all of its positions ends
somewhere. -/
theorem isMatch_iff (p : Pattern) (text : List Char) :
    isMatch p text = true ↔ ∃ i ≤ text.length, ∃ j, Matches text.toArray p i j := by
  have hcarries := carries_ends text.toArray p
  have hstarts : Positions text.toArray.size (List.range (text.length + 1)).reverse := by
    refine ⟨?_, fun i hi => ?_⟩
    · rw [List.pairwise_reverse]
      exact List.pairwise_lt_range
    · have hlt := List.mem_range.mp (List.mem_reverse.mp hi)
      rw [List.size_toArray]
      omega
  have hmem := hcarries.mem hstarts
  rw [isMatch, Bool.not_eq_true', ← Bool.not_eq_true, List.isEmpty_iff]
  constructor
  · intro hne
    obtain ⟨j, hj⟩ := List.exists_mem_of_ne_nil _ hne
    obtain ⟨i, hi, hmatch⟩ := (hmem j).mp hj
    have hlt := List.mem_range.mp (List.mem_reverse.mp hi)
    exact ⟨i, by omega, j, hmatch⟩
  · rintro ⟨i, hi, j, hmatch⟩
    exact List.ne_nil_of_mem
      ((hmem j).mpr ⟨i, List.mem_reverse.mpr (List.mem_range.mpr (by omega)), hmatch⟩)

end ListingGrid.Pattern
