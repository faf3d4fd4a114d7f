import ListingGrid.Proofs.Grammar.Reading

/-!
# Quoted texts of a source

What stands between quotes is kept as it is written, and read again wherever no further
quote follows the closing one.
-/

set_option autoImplicit false

namespace ListingGrid.Grammar

open ListingGrid.Grammar.Parser

/-- The inside of a quoted text, which ends with the quote behind it unless that one is
doubled. -/
def IsQuotedBody (body : List Char) : Prop :=
  ∀ rest : List Char, rest.head? ≠ some '"' → quotedBody (body ++ '"' :: rest) = (body, '"' :: rest)

theorem IsQuotedBody.nil : IsQuotedBody [] := by
  intro rest hrest
  rw [List.nil_append, quotedBody]
  · simp
  · rintro more - rfl
    exact hrest rfl
  · simp

theorem IsQuotedBody.doubled {body : List Char} (h : IsQuotedBody body) :
    IsQuotedBody ('"' :: '"' :: body) := by
  intro rest hrest
  simp [quotedBody, h rest hrest]

theorem IsQuotedBody.escaped {body : List Char} (c : Char) (h : IsQuotedBody body) :
    IsQuotedBody ('\\' :: c :: body) := by
  intro rest hrest
  simp [quotedBody, h rest hrest]

theorem IsQuotedBody.plain {body : List Char} {c : Char}
    (hc : ¬(c = '"' ∨ c = '\\' ∨ c = '\r' ∨ c = '\n')) (h : IsQuotedBody body) :
    IsQuotedBody (c :: body) := by
  intro rest hrest
  rw [List.cons_append, quotedBody]
  · simp [hc, h rest hrest]
  · rintro more rfl
    simp at hc
  · rintro d more rfl
    simp at hc

theorem quotedBody_eq {s body rest : List Char} (h : quotedBody s = (body, '"' :: rest)) :
    s = body ++ '"' :: rest ∧ IsQuotedBody body := by
  induction s using quotedBody.induct generalizing body with
  | case1 more inside after hmore ih =>
    rw [quotedBody, hmore] at h
    obtain ⟨rfl, rfl⟩ : '"' :: '"' :: inside = body ∧ after = '"' :: rest := by simpa using h
    obtain ⟨rfl, hinside⟩ := ih hmore
    exact ⟨rfl, hinside.doubled⟩
  | case2 c more inside after hmore ih =>
    rw [quotedBody, hmore] at h
    obtain ⟨rfl, rfl⟩ : '\\' :: c :: inside = body ∧ after = '"' :: rest := by simpa using h
    obtain ⟨rfl, hinside⟩ := ih hmore
    exact ⟨rfl, hinside.escaped c⟩
  | case3 c more hdoubled hescaped hc =>
    rw [quotedBody.eq_3 _ _ hdoubled hescaped, if_pos hc] at h
    obtain ⟨rfl, rfl, rfl⟩ : [] = body ∧ c = '"' ∧ more = rest := by simpa using h
    exact ⟨rfl, .nil⟩
  | case4 c more hdoubled hescaped hc inside after hmore ih =>
    rw [quotedBody.eq_3 _ _ hdoubled hescaped, if_neg hc, hmore] at h
    obtain ⟨rfl, rfl⟩ : c :: inside = body ∧ after = '"' :: rest := by simpa using h
    obtain ⟨rfl, hinside⟩ := ih hmore
    exact ⟨rfl, hinside.plain hc⟩
  | case5 => simp [quotedBody] at h

theorem quoted_eq_done {s body rest : List Char} (h : quoted s = .done body rest) :
    s = '"' :: body ++ '"' :: rest ∧ IsQuotedBody body := by
  obtain ⟨_, mid, hopen, hmore⟩ := bind_eq_done.mp h
  obtain ⟨inside, after, hinside, hlast⟩ := bind_eq_done.mp hmore
  obtain ⟨_, last, hclose, hdone⟩ := bind_eq_done.mp hlast
  obtain ⟨rfl, rfl⟩ := pure_eq_done.mp hdone
  obtain ⟨rfl, -⟩ := char_eq_done.mp hopen
  obtain ⟨rfl, -⟩ := char_eq_done.mp hclose
  rw [Result.done.injEq] at hinside
  obtain ⟨hsplit, hbody⟩ := quotedBody_eq (Prod.ext hinside.1 hinside.2)
  exact ⟨congrArg _ hsplit, hbody⟩

/-- A quote behind the closing one would belong to the text. -/
theorem quotedBody_ends {s body rest : List Char} (h : quotedBody s = (body, '"' :: rest)) :
    rest.head? ≠ some '"' := by
  induction s using quotedBody.induct generalizing body with
  | case1 more inside after hmore ih =>
    rw [quotedBody, hmore] at h
    obtain ⟨-, rfl⟩ := Prod.mk.injEq .. ▸ h
    exact ih hmore
  | case2 c more inside after hmore ih =>
    rw [quotedBody, hmore] at h
    obtain ⟨-, rfl⟩ := Prod.mk.injEq .. ▸ h
    exact ih hmore
  | case3 c more hdoubled hescaped hc =>
    rw [quotedBody.eq_3 _ _ hdoubled hescaped, if_pos hc] at h
    obtain ⟨-, rfl, rfl⟩ : [] = body ∧ c = '"' ∧ more = rest := by simpa using h
    intro heq
    obtain ⟨others, rfl⟩ := List.head?_eq_some_iff.mp heq
    exact hdoubled others rfl rfl
  | case4 c more hdoubled hescaped hc inside after hmore ih =>
    rw [quotedBody.eq_3 _ _ hdoubled hescaped, if_neg hc, hmore] at h
    obtain ⟨-, rfl⟩ := Prod.mk.injEq .. ▸ h
    exact ih hmore
  | case5 => simp [quotedBody] at h

theorem quoted_ends {s body rest : List Char} (h : quoted s = .done body rest) :
    rest.head? ≠ some '"' := by
  obtain ⟨_, mid, -, hmore⟩ := bind_eq_done.mp h
  obtain ⟨inside, after, hinside, hlast⟩ := bind_eq_done.mp hmore
  obtain ⟨_, last, hclose, hdone⟩ := bind_eq_done.mp hlast
  obtain ⟨-, rfl⟩ := pure_eq_done.mp hdone
  obtain ⟨rfl, -⟩ := char_eq_done.mp hclose
  rw [Result.done.injEq] at hinside
  exact quotedBody_ends (Prod.ext hinside.1 hinside.2)

theorem quoted_append {body : List Char} (h : IsQuotedBody body) {rest : List Char}
    (hrest : rest.head? ≠ some '"') : quoted ('"' :: body ++ '"' :: rest) = .done body rest := by
  have hread := h rest hrest
  refine bind_eq_done.mpr ⟨'"', body ++ '"' :: rest, char_eq_done.mpr ⟨rfl, rfl⟩, ?_⟩
  refine bind_eq_done.mpr ⟨body, '"' :: rest, by rw [hread], ?_⟩
  exact bind_eq_done.mpr ⟨'"', rest, char_eq_done.mpr ⟨rfl, rfl⟩, rfl⟩

theorem quoted_fails {s : List Char} (h : s.head? ≠ some '"') : Fails quoted s :=
  bind_fails.mpr (.inl (char_fails h))

end ListingGrid.Grammar
