import ListingGrid.Grammar.Lexis

/-!
# Readers up to what they give

A reader that changes what another one gives takes the same text. Such a change may be made
in the parts of a reader or in the whole of it.
-/

set_option autoImplicit false

namespace ListingGrid.Grammar

namespace Parser

variable {α β γ : Type}

theorem bind_apply (p : Parser α) (f : α → Parser β) (s : List Char) : (p >>= f) s =
    match p s with
    | .done a rest => f a rest
    | .fail failure => .fail failure
    | .abort failure => .abort failure := rfl

theorem map_pure (f : α → β) (a : α) :
    map f (Pure.pure a : Parser α) = (Pure.pure (f a) : Parser β) := rfl

theorem map_map (f : α → β) (g : β → γ) (p : Parser α) : map g (map f p) = map (g ∘ f) p := by
  funext s
  unfold map
  cases p s <;> rfl

theorem map_bind (f : β → γ) (p : Parser α) (g : α → Parser β) :
    map f (p >>= g) = p >>= fun a => map f (g a) := by
  funext s
  rw [bind_apply, map, bind_apply]
  cases p s <;> rfl

theorem bind_map (f : α → β) (p : Parser α) (g : β → Parser γ) :
    map f p >>= g = p >>= fun a => g (f a) := by
  funext s
  rw [bind_apply, bind_apply, map]
  cases p s <;> rfl

theorem firmly_map (f : α → β) (p : Parser α) : firmly (map f p) = map f (firmly p) := by
  funext s
  cases hread : p s <;> simp [firmly, map, hread]

theorem optional_map (f : α → β) (p : Parser α) :
    optional (map f p) = map (Option.map f) (optional p) := by
  funext s
  cases hread : p s <;> simp [optional, map, hread]

theorem foldMany_map (f : α → β) (p : Parser α) (acc : List α) (s : List Char) :
    foldMany (map f p) (fun items item => item :: items) (acc.map f) s =
      map (List.map f) (foldMany p (fun items item => item :: items) acc) s := by
  fun_induction foldMany p (fun items item => item :: items) acc s with
  | case1 acc s a rest hread hlt ih =>
    rw [foldMany, map, map, hread, foldMany, hread]
    simp only [if_pos hlt]
    exact ih
  | case2 acc s a rest hread hge =>
    rw [foldMany, map, map, hread, foldMany, hread]
    simp only [if_neg hge]
  | case3 acc s failure hread | case4 acc s failure hread =>
    rw [foldMany, map, map, hread, foldMany, hread]

theorem many_map (f : α → β) (p : Parser α) : many (map f p) = map (List.map f) (many p) := by
  have hfold : foldMany (map f p) (fun items item => item :: items) [] =
      map (List.map f) (foldMany p (fun items item => item :: items) []) :=
    funext fun s => foldMany_map f p [] s
  rw [many, many, hfold, map_map, map_map]
  exact congrFun (congrArg map (funext fun items => by simp)) _

theorem many1_map (f : α → β) (p : Parser α) : many1 (map f p) = map (List.map f) (many1 p) := by
  rw [many1, many1, bind_map, map_bind, many_map]
  refine congrArg _ (funext fun a => ?_)
  rw [bind_map, map_bind]
  rfl

end Parser

end ListingGrid.Grammar
