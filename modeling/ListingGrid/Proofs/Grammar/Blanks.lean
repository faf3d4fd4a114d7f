import ListingGrid.Proofs.Grammar.Reading

/-!
# Blanks

Spaces, tabs, line ends and comments may stand between tokens, and readers skip them. A
comment runs up to a line end and holds no carriage return.
-/

set_option autoImplicit false

namespace ListingGrid.Grammar

open ListingGrid.Grammar.Parser

variable {t g rest : List Char}

def BeginsToken (t : List Char) : Prop :=
  ∃ c, t.head? = some c ∧ isBlank c = false ∧ c ≠ '#'

theorem BeginsToken.append (h : BeginsToken t) (rest : List Char) : BeginsToken (t ++ rest) := by
  obtain ⟨c, hc, hplain⟩ := h
  exact ⟨c, by simp [hc], hplain⟩

theorem BeginsToken.skip (h : BeginsToken t) : skipBlank t = t := by
  obtain ⟨c, hc, hblank, hhash⟩ := h
  obtain ⟨more, rfl⟩ := List.head?_eq_some_iff.mp hc
  exact skipBlank_of_head hblank hhash

theorem BeginsToken.ne_nil (h : BeginsToken t) : t ≠ [] := by
  rintro rfl
  obtain ⟨c, hc, -⟩ := h
  simp at hc

theorem skipFrom_idem (s : List Char) (inComment : Bool) :
    skipBlank (skipFrom s inComment) = skipFrom s inComment := by
  fun_induction skipFrom s inComment with
  | case1 => rfl
  | case2 _ _ _ _ ih | case3 _ _ _ _ _ ih | case4 _ _ _ _ _ _ ih => exact ih
  | case5 _ _ _ _ hblank hcomment => simp [skipBlank, skipFrom, hblank, hcomment]

theorem skipBlank_skipBlank (s : List Char) : skipBlank (skipBlank s) = skipBlank s :=
  skipFrom_idem s false

theorem skipFrom_length_le (s : List Char) (inComment : Bool) :
    (skipFrom s inComment).length ≤ s.length := by
  fun_induction skipFrom s inComment with
  | case1 => exact Nat.le_refl _
  | case2 _ _ _ _ ih | case3 _ _ _ _ _ ih | case4 _ _ _ _ _ _ ih => exact Nat.le_succ_of_le ih
  | case5 => exact Nat.le_refl _

def BeginsLine (s : List Char) : Prop := ∃ rest, s = '\n' :: rest ∨ s = '\r' :: '\n' :: rest

inductive Blanks : List Char → Prop where
  | none : Blanks []
  | space {c : Char} {more : List Char} (hc : c = ' ' ∨ c = '\t') (h : Blanks more) :
    Blanks (c :: more)
  | feed {more : List Char} (h : Blanks more) : Blanks ('\n' :: more)
  | returnFeed {more : List Char} (h : Blanks more) : Blanks ('\r' :: '\n' :: more)
  | comment {text more : List Char} (htext : ∀ c ∈ text, c ≠ '\r' ∧ c ≠ '\n')
    (hline : BeginsLine more) (h : Blanks more) : Blanks ('#' :: text ++ more)

theorem restOfLine_done {text : List Char} (htext : ∀ c ∈ text, c ≠ '\r' ∧ c ≠ '\n')
    (hline : BeginsLine rest) : restOfLine (text ++ rest) = .done text rest := by
  have hall : text.all (fun c => c != '\r' && c != '\n') = true := by
    simpa using htext
  have hstop : Stops (fun c => c != '\r' && c != '\n') rest := by
    obtain ⟨more, rfl | rfl⟩ := hline <;> simp [Stops]
  obtain ⟨htake, hdrop⟩ := takeWhile_run hall hstop
  unfold restOfLine
  simp only [htake, hdrop]
  obtain ⟨more, rfl | rfl⟩ := hline <;> rfl

theorem skipFrom_comment {text : List Char} (htext : ∀ c ∈ text, c ≠ '\r' ∧ c ≠ '\n')
    (hline : BeginsLine rest) : skipFrom (text ++ rest) true = skipFrom rest false := by
  induction text with
  | nil => obtain ⟨more, rfl | rfl⟩ := hline <;> simp [skipFrom]
  | cons c text ih =>
    obtain ⟨hc, hmore⟩ := List.forall_mem_cons.mp htext
    rw [List.cons_append, skipFrom, if_pos (by simp [hc])]
    exact ih hmore

theorem Blanks.skip (h : Blanks g) (rest : List Char) : skipBlank (g ++ rest) = skipBlank rest := by
  have hblank : ∀ {c : Char} (more : List Char), isBlank c = true →
      skipBlank (c :: more) = skipBlank more := by
    intro c more hc
    simp [skipBlank, skipFrom, hc]
  induction h with
  | none => rfl
  | space hc _ ih =>
    rw [List.cons_append, hblank _ (by rcases hc with rfl | rfl <;> rfl), ih]
  | feed _ ih => rw [List.cons_append, hblank _ rfl, ih]
  | returnFeed _ ih => rw [List.cons_append, hblank _ rfl, List.cons_append, hblank _ rfl, ih]
  | @comment text more htext hline h ih =>
    have hrest : BeginsLine (more ++ rest) := by
      obtain ⟨others, rfl | rfl⟩ := hline
      · exact ⟨others ++ rest, .inl rfl⟩
      · exact ⟨others ++ rest, .inr rfl⟩
    have hcomment : isComment (text ++ (more ++ rest)) = true := by
      rw [isComment, restOfLine_done htext hrest]
    have hstart : skipBlank ('#' :: (text ++ (more ++ rest))) =
        skipFrom (text ++ (more ++ rest)) true := by
      simp [skipBlank, skipFrom, hcomment, isBlank]
    rw [List.append_assoc, List.cons_append, hstart, skipFrom_comment htext hrest]
    exact ih

def Apart (s : List Char) : Prop := ∀ c, s.head? = some c → isBlank c = true ∨ c = '#'

theorem Blanks.apart (h : Blanks g) (hne : g ≠ []) (rest : List Char) : Apart (g ++ rest) := by
  intro c hc
  cases h with
  | none => exact absurd rfl hne
  | space hd =>
    obtain rfl := Option.some.inj hc
    rcases hd with rfl | rfl <;> exact .inl rfl
  | feed | returnFeed =>
    obtain rfl := Option.some.inj hc
    exact .inl rfl
  | comment =>
    obtain rfl := Option.some.inj hc
    exact .inr rfl

theorem Apart.stops {accepts : Char → Bool} (h : Apart rest)
    (haccepts : ∀ c, isBlank c = true ∨ c = '#' → accepts c = false) : Stops accepts rest :=
  fun c hc => haccepts c (h c hc)

theorem blank_cases {c : Char} (h : isBlank c = true ∨ c = '#') :
    c ∈ [' ', '\t', '\r', '\n', '#'] := by
  simp only [isBlank, Bool.or_eq_true, beq_iff_eq] at h
  simp only [List.mem_cons, List.not_mem_nil, or_false]
  grind

theorem Apart.head_ne {c : Char} (h : Apart rest) (hc : c ∉ [' ', '\t', '\r', '\n', '#']) :
    rest.head? ≠ some c := fun heq => hc (blank_cases (h c heq))

/-- No run of characters that holds no blank goes on behind blanks. -/
theorem Apart.stops_of {accepts : Char → Bool} (h : Apart rest)
    (haccepts : [' ', '\t', '\r', '\n', '#'].all (fun c => !accepts c) = true) :
    Stops accepts rest := by
  refine h.stops fun c hc => ?_
  simpa using List.all_eq_true.mp haccepts c (blank_cases hc)

theorem Blanks.stops {accepts : Char → Bool} (h : Blanks g) (hrest : Stops accepts rest)
    (haccepts : [' ', '\t', '\r', '\n', '#'].all (fun c => !accepts c) = true) :
    Stops accepts (g ++ rest) := by
  by_cases hne : g = []
  · exact hne ▸ hrest
  · exact (h.apart hne rest).stops_of haccepts

theorem Blanks.head_ne {c : Char} (h : Blanks g) (hrest : rest.head? ≠ some c)
    (hc : c ∉ [' ', '\t', '\r', '\n', '#']) : (g ++ rest).head? ≠ some c := by
  by_cases hne : g = []
  · exact hne ▸ hrest
  · exact (h.apart hne rest).head_ne hc

end ListingGrid.Grammar
