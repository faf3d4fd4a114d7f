import ListingGrid.Proofs.Definition.Written

/-!
# Styles and their options

A style has an option or does not; setting an option replaces the one with the same
keyword and no other. So options with different keywords make up the same style in any
order.
-/

set_option autoImplicit false

namespace ListingGrid

open ListingGrid.Grammar.StyleBlock

variable {s t : Style} {a b : StyleOption} {options : List StyleOption}

namespace Style

def Has (s : Style) : StyleOption → Prop
  | .format text => s.numFormat = some text
  | .font name => s.fontName = some name
  | .size points => s.fontSize = some points
  | .bold => s.bold = true
  | .italic => s.italic = true
  | .underline => s.underline = true
  | .strikeout => s.strikeout = true
  | .align side => s.align = some side
  | .valign side => s.valign = some side
  | .border tint line => s.border = some line ∧ s.borderColor = tint
  | .background tint => s.background = some tint
  | .color tint => s.fontColor = some tint
  | .unlocked => s.unlocked = true
  | .hidden => s.hidden = true
  | .wrap => s.wrap = true
  | .shrink => s.shrink = true

theorem mem_setOption {set : Bool} : a ∈ setOption set b ↔ set = true ∧ a = b := by
  unfold setOption
  split <;> simp_all

theorem mem_options : a ∈ s.options ↔ s.Has a := by
  simp only [options, List.mem_append, mem_setOption, Option.mem_toList, Option.map_eq_some_iff]
  cases a <;> simp [Has]

theorem has_apply : (a.apply s).Has b ↔ b = a ∨ s.Has b ∧ b.keyword ≠ a.keyword := by
  cases a <;> cases b <;> simp [Has, StyleOption.apply, StyleOption.keyword] <;> grind

theorem not_has_plain (id : String) : ¬(plain id).Has a := by
  cases a <;> simp [Has, plain]

theorem id_apply : (a.apply s).id = s.id := by
  cases a <;> rfl

def Framed (s : Style) : Prop := s.border = none → s.borderColor = none

theorem Framed.apply (h : s.Framed) (a : StyleOption) : (a.apply s).Framed := by
  cases a with
  | border => exact fun hborder => by simp [StyleOption.apply] at hborder
  | _ => exact h

/-- Styles with one name and the same options are the same. -/
theorem ext_of_has (hid : s.id = t.id) (hs : s.Framed) (ht : t.Framed)
    (h : ∀ a, s.Has a ↔ t.Has a) : s = t := by
  have hborder : s.border = t.border ∧ s.borderColor = t.borderColor := by
    cases hline : s.border with
    | some line =>
      have hboth := (h (.border s.borderColor line)).mp ⟨hline, rfl⟩
      exact ⟨hboth.1.symm, hboth.2.symm⟩
    | none =>
      cases hline' : t.border with
      | some line =>
        have hboth := (h (.border t.borderColor line)).mpr ⟨hline', rfl⟩
        simp [Has, hline] at hboth
      | none => exact ⟨rfl, (hs hline).trans (ht hline').symm⟩
  cases s
  cases t
  simp only [Style.mk.injEq]
  exact ⟨hid, Option.ext fun x => h (.format x), Option.ext fun x => h (.font x),
    Option.ext fun x => h (.size x), Bool.eq_iff_iff.mpr (h .bold), Bool.eq_iff_iff.mpr (h .italic),
    Bool.eq_iff_iff.mpr (h .underline), Bool.eq_iff_iff.mpr (h .strikeout),
    Option.ext fun x => h (.align x), Option.ext fun x => h (.valign x), hborder.1, hborder.2,
    Option.ext fun x => h (.background x), Option.ext fun x => h (.color x),
    Bool.eq_iff_iff.mpr (h .unlocked), Bool.eq_iff_iff.mpr (h .hidden),
    Bool.eq_iff_iff.mpr (h .wrap), Bool.eq_iff_iff.mpr (h .shrink)⟩

theorem has_foldl (hdistinct : (options.map (·.keyword)).Nodup) (s : Style) :
    (options.foldl (fun style option => option.apply style) s).Has a ↔
      a ∈ options ∨ s.Has a ∧ a.keyword ∉ options.map (·.keyword) := by
  induction options generalizing s with
  | nil => simp
  | cons option options ih =>
    rw [List.map_cons, List.nodup_cons] at hdistinct
    rw [List.foldl_cons, ih hdistinct.2, has_apply, List.mem_cons, List.map_cons, List.mem_cons]
    constructor
    · rintro (h | ⟨rfl | ⟨h, hne⟩, hnot⟩)
      · exact .inl (.inr h)
      · exact .inl (.inl rfl)
      · exact .inr ⟨h, not_or.mpr ⟨hne, hnot⟩⟩
    · rintro ((rfl | h) | ⟨h, hnot⟩)
      · exact .inr ⟨.inl rfl, hdistinct.1⟩
      · exact .inl h
      · obtain ⟨hne, hnot⟩ := not_or.mp hnot
        exact .inr ⟨.inr ⟨h, hne⟩, hnot⟩

theorem sublist_value {α : Type} {f : α → StyleOption} {name : String}
    (hf : ∀ x, (f x).keyword = name) (value : Option α) :
    ((value.map f).toList.map (·.keyword)).Sublist [name] := by
  cases value with
  | none => simp
  | some x => simp [hf x]

theorem sublist_setOption (set : Bool) (option : StyleOption) :
    ((setOption set option).map (·.keyword)).Sublist [option.keyword] := by
  unfold setOption
  split <;> simp

theorem options_distinct (s : Style) : (s.options.map (·.keyword)).Nodup := by
  have hsublist : (s.options.map (·.keyword)).Sublist
      (["format"] ++ (["font"] ++ (["size"] ++ (["bold"] ++ (["italic"] ++ (["underline"] ++
        (["strikeout"] ++ (["align"] ++ (["valign"] ++ (["border"] ++ (["background"] ++
        (["color"] ++ (["unlocked"] ++ (["hidden"] ++ (["wrap"] ++ ["shrink"]))))))))))))))) := by
    simp only [options, List.map_append]
    repeat'
      first
        | apply List.Sublist.append
        | exact sublist_value (by intro x; rfl) _
        | exact sublist_setOption _ _
  exact hsublist.nodup (by decide)

theorem foldl_keeps (options : List StyleOption) (hs : s.Framed) :
    (options.foldl (fun style option => option.apply style) s).id = s.id ∧
      (options.foldl (fun style option => option.apply style) s).Framed := by
  induction options generalizing s with
  | nil => exact ⟨rfl, hs⟩
  | cons option options ih =>
    obtain ⟨hid, hframed⟩ := ih (hs.apply option)
    exact ⟨hid.trans id_apply, hframed⟩

/-- The options of a style make it up, in whatever order they stand. -/
theorem foldl_options (hs : s.Framed) (h : options.Perm s.options) :
    options.foldl (fun style option => option.apply style) (plain s.id) = s := by
  have hdistinct : (options.map (·.keyword)).Nodup := (h.map _).nodup_iff.mpr s.options_distinct
  obtain ⟨hid, hframed⟩ := foldl_keeps options (s := plain s.id) fun _ => rfl
  refine ext_of_has hid hframed hs fun a => ?_
  rw [has_foldl hdistinct, h.mem_iff, mem_options]
  simp [not_has_plain]

end Style

end ListingGrid
