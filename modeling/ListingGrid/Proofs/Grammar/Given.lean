import ListingGrid.Grammar.Parser

/-!
# What readers give

A property of everything that a parser gives follows from properties of what
its parts give, whatever text is read.
-/

set_option autoImplicit false

namespace ListingGrid.Grammar

namespace Parser

variable {α β γ : Type}

/-- Everything that the parser gives has the property. -/
def Gives (p : Parser α) (P : α → Prop) : Prop :=
  ∀ s a rest, p s = .done a rest → P a

theorem gives_trivial (p : Parser α) : Gives p fun _ => True :=
  fun _ _ _ _ => trivial

theorem gives_mono {p : Parser α} {P Q : α → Prop} (hp : Gives p P) (h : ∀ a, P a → Q a) :
    Gives p Q :=
  fun s a rest hs => h a (hp s a rest hs)

theorem gives_pure {a : α} {P : α → Prop} (h : P a) : Gives (pure a) P := by
  intro s b rest hs
  simp only [pure, Result.done.injEq] at hs
  exact hs.1 ▸ h

theorem gives_bind {p : Parser α} {f : α → Parser β} {P : α → Prop} {Q : β → Prop}
    (hp : Gives p P) (hf : ∀ a, P a → Gives (f a) Q) : Gives (p >>= f) Q := by
  intro s b rest hs
  change bind p f s = _ at hs
  unfold bind at hs
  split at hs
  · next a left ha => exact hf a (hp s a left ha) left b rest hs
  · simp at hs
  · simp at hs

theorem gives_after {p : Parser α} {f : α → Parser β} {Q : β → Prop}
    (hf : ∀ a, Gives (f a) Q) : Gives (p >>= f) Q :=
  gives_bind (gives_trivial p) fun a _ => hf a

theorem gives_map {f : α → β} {p : Parser α} {Q : β → Prop} (hp : Gives p fun a => Q (f a)) :
    Gives (map f p) Q := by
  intro s b rest hs
  unfold map at hs
  split at hs
  · next a left ha =>
    simp only [Result.done.injEq] at hs
    exact hs.1 ▸ hp s a left ha
  · simp at hs
  · simp at hs

theorem gives_or {p q : Parser α} {P : α → Prop} (hp : Gives p P) (hq : Gives q P) :
    Gives (or p q) P := by
  intro s a rest hs
  unfold or at hs
  split at hs
  · split at hs
    · simp at hs
    · exact hq s a rest hs
  · exact hp s a rest hs

theorem gives_firstOf {p : Parser α} {others : List (Parser α)} {P : α → Prop}
    (hp : Gives p P) (ho : ∀ q ∈ others, Gives q P) : Gives (firstOf p others) P := by
  unfold firstOf
  induction others generalizing p with
  | nil => exact hp
  | cons q others ih =>
    exact ih (gives_or hp (ho q (by simp))) fun r hr => ho r (by simp [hr])

theorem gives_firmly {p : Parser α} {P : α → Prop} (hp : Gives p P) : Gives (firmly p) P := by
  intro s a rest hs
  unfold firmly at hs
  split at hs
  · simp at hs
  · exact hp s a rest hs

theorem gives_optional {p : Parser α} {P : α → Prop} (hp : Gives p P) :
    Gives (optional p) fun o => ∀ a, o = some a → P a := by
  intro s o rest hs
  unfold optional at hs
  split at hs
  · next a left ha =>
    simp only [Result.done.injEq] at hs
    rintro b rfl
    exact Option.some.inj hs.1 ▸ hp s a left ha
  · simp only [Result.done.injEq] at hs
    rintro b rfl
    simp at hs
  · simp at hs

/-- What is true of the items so far stays true as long as each item keeps it. -/
theorem gives_foldMany {p : Parser α} {f : β → α → β} {P : α → Prop} {Q : β → Prop} {acc : β}
    (hp : Gives p P) (hacc : Q acc) (hf : ∀ b a, Q b → P a → Q (f b a)) :
    Gives (foldMany p f acc) Q := by
  intro s b rest hs
  fun_induction foldMany p f acc s with
  | case1 acc s a left hread _ ih => exact ih (hf _ _ hacc (hp s a left hread)) hs
  | case2 | case4 => cases hs
  | case3 =>
    obtain ⟨rfl, -⟩ := Result.done.inj hs
    exact hacc

theorem gives_many {p : Parser α} {P : α → Prop} (hp : Gives p P) :
    Gives (many p) fun items => ∀ a ∈ items, P a := by
  have hnil : ∀ a ∈ ([] : List α).reverse, P a := by simp
  refine gives_map (gives_foldMany hp hnil ?_)
  intro items a hi ha b hb
  rcases List.mem_append.mp (List.reverse_cons ▸ hb) with h | h
  · exact hi b h
  · exact List.mem_singleton.mp h ▸ ha

theorem gives_many1 {p : Parser α} {P : α → Prop} (hp : Gives p P) :
    Gives (many1 p) fun items => items ≠ [] ∧ ∀ a ∈ items, P a := by
  refine gives_bind hp fun a ha => gives_bind (gives_many hp) fun items hi => gives_pure ?_
  exact ⟨List.cons_ne_nil _ _, List.forall_mem_cons.mpr ⟨ha, hi⟩⟩

theorem gives_label {what : String} {p : Parser α} {P : α → Prop} (hp : Gives p P) :
    Gives (label what p) P := by
  intro s a rest hs
  unfold label at hs
  split at hs
  · simp at hs
  · simp at hs
  · exact hp s a rest hs

theorem gives_moreBy {separator : Parser γ} {p : Parser α} {P : α → Prop} (hp : Gives p P) :
    Gives (moreBy separator p) fun items => ∀ a ∈ items, P a := by
  refine gives_many fun s a rest hs => ?_
  split at hs
  · exact hp _ a rest hs
  · simp at hs
  · simp at hs

theorem gives_sepBy1 {separator : Parser γ} {p : Parser α} {P : α → Prop} (hp : Gives p P) :
    Gives (sepBy1 separator p) fun items => items ≠ [] ∧ ∀ a ∈ items, P a := by
  refine gives_bind hp fun a ha => gives_bind (gives_moreBy hp) fun items hi => gives_pure ?_
  exact ⟨List.cons_ne_nil _ _, List.forall_mem_cons.mpr ⟨ha, hi⟩⟩

theorem gives_sepBy {separator : Parser γ} {p : Parser α} {P : α → Prop} (hp : Gives p P) :
    Gives (sepBy separator p) fun items => ∀ a ∈ items, P a := by
  refine gives_map (gives_mono (gives_optional (gives_sepBy1 hp)) fun o ho => ?_)
  cases o with
  | none => simp
  | some items => exact (ho items rfl).2

end Parser

end ListingGrid.Grammar
