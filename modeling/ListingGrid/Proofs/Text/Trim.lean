import ListingGrid.Text.Cut

/-!
# Trimmed texts and texts between marks

White space around a text does not change what is left when it is trimmed, and no mark
without white space begins or ends in it.
-/

set_option autoImplicit false

namespace ListingGrid.Text

variable {s t before after mark : List Char}

theorem trimStart_append (h : before.all isSpace = true) (t : List Char) :
    trimStart (before ++ t) = trimStart t :=
  List.dropWhile_append_of_pos (List.all_eq_true.mp h)

theorem trimEnd_append (h : after.all isSpace = true) (t : List Char) :
    trimEnd (t ++ after) = trimEnd t := by
  rw [trimEnd, List.reverse_append, List.dropWhile_append_of_pos, trimEnd]
  intro c hc
  exact List.all_eq_true.mp h c (List.mem_reverse.mp hc)

theorem trimStart_all (h : t.all isSpace = true) : trimStart t = [] := by
  have happend := trimStart_append h []
  rwa [List.append_nil] at happend

/-- White space on both sides is no part of the trimmed text. -/
theorem trim_surround (hbefore : before.all isSpace = true) (hafter : after.all isSpace = true)
    (t : List Char) : trim (before ++ t ++ after) = trim t := by
  rw [trim, List.append_assoc, trimStart_append hbefore, trimStart, List.dropWhile_append]
  split
  · next hempty =>
    have hnone : t.dropWhile isSpace = [] := by simpa using hempty
    have hrest := trimStart_all hafter
    rw [trimStart] at hrest
    rw [hrest, trim, trimStart, hnone]
  · rw [trimEnd_append hafter, trim, trimStart]

theorem exists_surround (s : List Char) :
    ∃ before after, s = before ++ trim s ++ after ∧ before.all isSpace = true ∧
      after.all isSpace = true := by
  refine ⟨s.takeWhile isSpace, ((trimStart s).reverse.takeWhile isSpace).reverse, ?_,
    List.all_takeWhile, ?_⟩
  · have hend : trimStart s = trimEnd (trimStart s) ++
        ((trimStart s).reverse.takeWhile isSpace).reverse := by
      rw [trimEnd, ← List.reverse_append, List.takeWhile_append_dropWhile, List.reverse_reverse]
    rw [List.append_assoc, trim, ← hend, trimStart, List.takeWhile_append_dropWhile]
  · rw [List.all_reverse]
    exact List.all_takeWhile

theorem trim_trim (s : List Char) : trim (trim s) = trim s := by
  obtain ⟨before, after, hs, hbefore, hafter⟩ := exists_surround s
  have htrim := trim_surround hbefore hafter (trim s)
  rw [← hs] at htrim
  exact htrim.symm

theorem trim_infix (s : List Char) : trim s <:+: s := by
  obtain ⟨before, after, hs, -, -⟩ := exists_surround s
  exact ⟨before, after, hs.symm⟩

theorem infix_of_infix_append (hne : mark ≠ []) (hmark : ∀ c ∈ mark, isSpace c = false)
    (hbefore : before.all isSpace = true) (h : mark <:+: before ++ t) : mark <:+: t := by
  induction before with
  | nil => exact h
  | cons c before ih =>
    rw [List.all_cons, Bool.and_eq_true] at hbefore
    rcases List.infix_cons_iff.mp h with hprefix | hinside
    · cases mark with
      | nil => exact absurd rfl hne
      | cons m tail =>
        obtain rfl : m = c := (List.cons_prefix_cons.mp hprefix).1
        have hm := hmark m (by simp)
        rw [hbefore.1] at hm
        cases hm
    · exact ih hbefore.2 hinside

/-- A mark without white space lies inside the trimmed text. -/
theorem infix_of_infix_surround (hne : mark ≠ []) (hmark : ∀ c ∈ mark, isSpace c = false)
    (hbefore : before.all isSpace = true) (hafter : after.all isSpace = true)
    (h : mark <:+: before ++ t ++ after) : mark <:+: t := by
  rw [List.append_assoc] at h
  have hleft := infix_of_infix_append hne hmark hbefore h
  rw [← List.reverse_infix, List.reverse_append] at hleft
  have hright := infix_of_infix_append (by simpa using hne)
    (fun c hc => hmark c (List.mem_reverse.mp hc)) (by rwa [List.all_reverse]) hleft
  exact List.reverse_infix.mp hright

theorem cutAround?_eq_some (hne : mark ≠ []) (h : cutAround? mark s = some (before, after)) :
    s = before ++ (mark ++ after) ∧ ¬mark <:+: before := by
  induction s generalizing before with
  | nil => simp [cutAround?] at h
  | cons c rest ih =>
    rw [cutAround?] at h
    split at h
    · next hprefix =>
      obtain ⟨rfl, rfl⟩ : [] = before ∧ (c :: rest).drop mark.length = after := by simpa using h
      rw [List.isPrefixOf_iff_prefix] at hprefix
      refine ⟨(List.prefix_iff_eq_append.mp hprefix).symm, ?_⟩
      simpa using hne
    · next hprefix =>
      rw [List.isPrefixOf_iff_prefix] at hprefix
      obtain ⟨⟨front, behind⟩, hcut, hpair⟩ := Option.map_eq_some_iff.mp h
      obtain ⟨rfl, rfl⟩ : c :: front = before ∧ behind = after := by simpa using hpair
      obtain ⟨rfl, hinside⟩ := ih hcut
      refine ⟨rfl, fun hmark => ?_⟩
      rcases List.infix_cons_iff.mp hmark with hfront | hfront
      · exact hprefix (hfront.trans (List.prefix_append (c :: front) _))
      · exact hinside hfront

/-- A mark whose first character stands nowhere else in it is found behind a text
without it. -/
theorem cutAround?_append {m : Char} {tail : List Char} (hm : m ∉ tail)
    (h : ¬m :: tail <:+: before) (after : List Char) :
    cutAround? (m :: tail) (before ++ (m :: tail ++ after)) = some (before, after) := by
  induction before with
  | nil => simp [cutAround?]
  | cons c before ih =>
    have hprefix : ¬m :: tail <+: c :: before ++ (m :: tail ++ after) := by
      rintro ⟨rest, hsplit⟩
      rcases List.append_eq_append_iff.mp hsplit with ⟨left, hbefore, -⟩ | ⟨left, hmark, hleft⟩
      · exact h ⟨[], left, by simpa using hbefore.symm⟩
      · cases left with
        | nil => exact h ⟨[], [], by simpa using hmark⟩
        | cons d left =>
          obtain ⟨rfl, -⟩ : m = d ∧ _ := by simpa using hleft
          obtain ⟨-, rfl⟩ := List.cons.inj hmark
          exact hm (by simp)
    have hinside : ¬m :: tail <:+: before := fun hmark => h (List.infix_cons hmark)
    rw [List.cons_append, cutAround?, if_neg (by rwa [List.isPrefixOf_iff_prefix]), ih hinside]
    rfl

end ListingGrid.Text
