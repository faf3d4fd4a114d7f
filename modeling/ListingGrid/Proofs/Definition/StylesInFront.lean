import ListingGrid.Proofs.Definition.Advance
import ListingGrid.Proofs.Definition.Whole
import ListingGrid.Proofs.Grammar.NumeralTokens

/-!
# Styles in front of a word

The options of a style that stand in front of a word are read alike, whatever follows that
word. A line with its color may be written in two orders; the one that is read in front of
one text is the one that is read in front of the other, for no line is named like a color.
-/

set_option autoImplicit false

namespace ListingGrid.Grammar

open ListingGrid.Grammar.Parser

variable {T T' s s' rest : List Char} {n : Nat} {M : Matching}

theorem shortens_takeBetween {least most : Nat} {accepts : Char → Bool} (hleast : 0 < least) :
    Shortens (takeBetween least most accepts) := by
  intro s run rest h
  obtain ⟨rfl, -, hlength, -⟩ := takeBetween_eq_done h
  rw [List.length_append]
  omega

namespace StyleBlock

theorem worded_choice {α : Type} (all : List α) (keyword : α → String) :
    Worded (choice all keyword) := worded_filterMap _ worded_identifier

theorem shortens_choice {α : Type} (all : List α) (keyword : α → String) :
    Shortens (choice all keyword) := shortens_filterMap shortens_identifier

theorem worded_colorCode : Worded colorCode where
  settles := bind_settles (takeBetween_settles _ _ _) fun _ =>
    bind_settles (notFollowedBy_settles _) fun _ => pure_settles _
  done {U V z rest _} hU hV h := by
    obtain ⟨code, mid, hcode, hmore⟩ := bind_eq_done.mp h
    obtain ⟨_, left, hends, hdone⟩ := bind_eq_done.mp hmore
    obtain ⟨rfl, rfl⟩ := pure_eq_done.mp hdone
    obtain ⟨rfl, hstops⟩ := stops_of_notFollowedBy hends
    obtain ⟨hsplit, hhex, hleast, hmost⟩ := takeBetween_eq_done hcode
    have hcodeWord : code.all Text.isWordChar = true :=
      List.all_eq_true.mpr fun c hc => Text.isWordChar_of_isHexDigit (List.all_eq_true.mp hhex c hc)
    obtain ⟨z', rfl, rfl⟩ := exists_of_run hU hcodeWord hsplit
    have hstops' := stops_again hV (fun _ => id) hstops
    refine ⟨z', rfl, ?_⟩
    rw [List.append_assoc]
    refine bind_eq_done.mpr ⟨code, _, takeBetween_append hhex hleast hmost (hstops'.mono fun _ => Text.isWordChar_of_isHexDigit), ?_⟩
    exact bind_eq_done.mpr ⟨(), _, notFollowedBy_done hstops', rfl⟩

theorem worded_color : Worded color :=
  worded_or (worded_map _ (worded_choice _ _)) worded_colorCode

theorem shortens_color : Shortens color :=
  shortens_or (shortens_map (shortens_choice _ _)) (shortens_bind (shortens_takeBetween (by omega))
    fun _ => advances_bind (advances_notFollowedBy _) fun _ => advances_pure _)

theorem color_fails_of_line {line : Border} (h : borderLine s = .done line rest) : Fails color s := by
  obtain ⟨name, hname, hfind⟩ := filterMap_eq_done.mp h
  obtain ⟨rfl, hword, hstops⟩ := identifier_eq_done.mp hname
  have hlower : Text.lowerAll name = Text.lowerAll line.keyword.toList := by
    have hsame : Text.sameWord line.keyword.toList name = true :=
      List.find?_some (p := fun b : Border => Text.sameWord b.keyword.toList name) hfind
    exact (beq_iff_eq.mp hsame).symm
  obtain ⟨-, hnone, hshort⟩ := noColor_line line
  refine or_fails.mpr ⟨map_fails.mpr ⟨⟨name ++ rest, .unexpected⟩, ?_⟩, bind_fails.mpr (.inl ?_)⟩
  · rw [choice, filterMap, hname]
    simp only [Text.sameWord] at hnone ⊢
    rw [hlower, hnone]
  · have hlength := takeWhile_length Text.caseless_isHexDigit hlower (hstops.mono fun _ => Text.isWordChar_of_isHexDigit)
    refine ⟨⟨name ++ rest, .unexpected⟩, ?_⟩
    unfold takeBetween
    simp only
    rw [if_pos]
    rw [List.length_take]
    omega

section Tokens

variable (h : Stem T T')

include h

theorem agree_color : Agree (inFront n barred T T') (lexeme color) (lexeme color) id :=
  agree_worded h worded_color advances_color shortens_color

theorem agree_choice {α : Type} (all : List α) (keyword : α → String) :
    Agree (inFront n barred T T') (lexeme (choice all keyword)) (lexeme (choice all keyword)) id :=
  agree_worded h (worded_choice _ _) (advances_choice _ _) (shortens_choice _ _)

/-- Where a line is read first, no color stands there in front of the other tail either. -/
theorem tracks_border : Tracks (inFront n barred T T') border border id where
  advances := advances_border
  done {s s' rest option} hs hread hrest := by
    have hline : Tracks (inFront n barred T T') (lexeme borderLine) (lexeme borderLine) id :=
      (agree_choice h Border.all Border.keyword).tracks
    have hcolor := agree_color (n := n) h
    rcases or_eq_done.mp hread with hread | ⟨-, hread⟩
    · have htracks : Tracks (inFront n barred T T') (do
          let c ← lexeme color
          let line ← lexeme borderLine
          return StyleOption.border (some c) line) (do
          let c ← lexeme color
          let line ← lexeme borderLine
          return StyleOption.border (some c) line) id :=
        tracks_bind (φ := id) hcolor.tracks fun c => tracks_bind (φ := id) hline fun line =>
          tracks_pure (φ := id) (StyleOption.border (some c) line)
      obtain ⟨hopen, rest', hread', hpair⟩ := htracks.done hs hread hrest
      exact ⟨hopen, rest', or_eq_done.mpr (.inl hread'), hpair⟩
    · have htracks : Tracks (inFront n barred T T') (do
          let line ← lexeme borderLine
          let c ← optional (lexeme color)
          return StyleOption.border c line) (do
          let line ← lexeme borderLine
          let c ← optional (lexeme color)
          return StyleOption.border c line) id :=
        tracks_bind (φ := id) hline fun line =>
          tracks_bind (φ := Option.map id) (agree_optional hcolor).tracks fun c => by
            rw [Option.map_id]
            exact tracks_pure (φ := id) (StyleOption.border c line)
      obtain ⟨hopen, rest', hread', hpair⟩ := htracks.done hs hread hrest
      obtain ⟨line, mid', hline', -⟩ := bind_eq_done.mp hread'
      refine ⟨hopen, rest', or_eq_done.mpr (.inr ⟨bind_fails.mpr (.inl ?_), hread'⟩), hpair⟩
      exact color_fails_of_line hline'

theorem agree_valued {name : String} (hname : IsKeyword name) {p : Parser StyleOption}
    (hp : Tracks (inFront n barred T T') p p id) :
    Agree (inFront n barred T T') (valued name p) (valued name p) id :=
  agree_bind (φ := id) (agree_keyword h hname) (fun _ => tracks_firmly hp) fun _ => firm_firmly p

theorem agree_flag {option : StyleOption} (hname : IsKeyword option.keyword) :
    Agree (inFront n barred T T') (flag option) (flag option) id :=
  agree_map (φ := id) (agree_keyword h hname) fun _ => rfl

theorem agree_styleOption : Agree (inFront n barred T T') styleOption styleOption id := by
  have hquoted : ∀ f : List Char → StyleOption,
      Tracks (inFront n barred T T') (map f (lexeme quoted)) (map f (lexeme quoted)) id :=
    fun f => tracks_map (φ := id) (tracks_quoted h.tails hash_mem_barred (by decide)) fun _ => rfl
  have hcolor : ∀ f : Color → StyleOption, Tracks (inFront n barred T T')
      (map f (label "color" (lexeme color))) (map f (label "color" (lexeme color))) id :=
    fun f => tracks_map (φ := id) (tracks_label (agree_color h).tracks) fun _ => rfl
  have hsize : Tracks (inFront n barred T T') (map StyleOption.size (label "font size" (lexeme natural)))
      (map StyleOption.size (label "font size" (lexeme natural))) id :=
    tracks_map (φ := id) (tracks_label (agree_numeral h numeral_natural advances_natural).tracks)
      fun _ => rfl
  have hchoice : ∀ {α : Type} (f : α → StyleOption) (what : String) (all : List α)
      (keyword : α → String), Tracks (inFront n barred T T')
        (map f (label what (lexeme (choice all keyword))))
        (map f (label what (lexeme (choice all keyword)))) id :=
    fun f what all keyword => tracks_map (φ := id) (tracks_label (agree_choice h all keyword).tracks)
      fun _ => rfl
  refine agree_firstOf (agree_valued h (by decide) (hquoted _)) ?_
  simp only [List.forall_mem_cons, List.not_mem_nil, false_imp_iff, implies_true, and_true]
  refine ⟨agree_valued h (by decide) (hquoted _), agree_valued h (by decide) hsize, ?_, ?_, ?_, ?_,
    agree_valued h (by decide) (hchoice _ _ _ _), agree_valued h (by decide) (hchoice _ _ _ _),
    agree_valued h (by decide) (tracks_label (tracks_border h)),
    agree_valued h (by decide) (hcolor _), agree_valued h (by decide) (hcolor _), ?_, ?_, ?_, ?_⟩ <;>
    exact agree_flag h (by decide)

end Tokens

theorem shortens_styleOption : Shortens styleOption := by
  have hvalued : ∀ {name : String} {p : Parser StyleOption}, IsKeyword name → Advances p →
      Shortens (valued name p) := fun hname hp =>
    shortens_bind (shortens_keyword hname.1) fun _ => advances_firmly hp
  have hflag : ∀ option : StyleOption, IsKeyword option.keyword → Shortens (flag option) :=
    fun option hname => shortens_map (shortens_keyword hname.1)
  have hquoted : ∀ f : List Char → StyleOption, Advances (map f (lexeme quoted)) :=
    fun f => advances_map f (advances_lexeme advances_quoted)
  have hcolor : ∀ f : Color → StyleOption, Advances (map f (label "color" (lexeme color))) :=
    fun f => advances_map f (advances_label _ (advances_lexeme advances_color))
  have hchoice : ∀ {α : Type} (f : α → StyleOption) (what : String) (all : List α)
      (keyword : α → String), Advances (map f (label what (lexeme (choice all keyword)))) :=
    fun f what all keyword =>
      advances_map f (advances_label what (advances_lexeme (advances_choice all keyword)))
  refine shortens_firstOf (hvalued (by decide) (hquoted _)) ?_
  simp only [List.forall_mem_cons, List.not_mem_nil, false_imp_iff, implies_true, and_true]
  refine ⟨hvalued (by decide) (hquoted _), hvalued (by decide) (advances_map _ (advances_label _
    (advances_lexeme advances_natural))), ?_, ?_, ?_, ?_, hvalued (by decide) (hchoice _ _ _ _),
    hvalued (by decide) (hchoice _ _ _ _), hvalued (by decide) (advances_label _ advances_border),
    hvalued (by decide) (hcolor _), hvalued (by decide) (hcolor _), ?_, ?_, ?_, ?_⟩ <;>
    exact hflag _ (by decide)

/-- Options are read alike up to a place where neither text has a further one. -/
theorem tracks_options (hoption : Agree M (lexeme styleOption) (lexeme styleOption) id)
    (seen : List String) (style : Style) : Tracks M (options seen style) (options seen style) id where
  advances := advances_options seen style
  done {s s' rest result} hs h hrest := by
    have hshort := shortens_lexeme shortens_styleOption
    fun_induction options seen style s generalizing s' with
    | case1 | case5 => cases h
    | case2 seen style s option mid hread hnew _ ih =>
      have hbefore := hoption.tracks.advances.suffix hread
      have hbehind := (advances_options (option.keyword :: seen) (option.apply style)).suffix h
      obtain ⟨other, hother⟩ := M.between hs hrest.1.choose_spec hbehind hbefore
      have hopen := (ih hother h).1
      obtain ⟨hstart, mid', hread', hmid⟩ := hoption.tracks.done hs hread ⟨⟨other, hother⟩, hopen⟩
      obtain ⟨-, rest', hmore, hpair⟩ := ih hmid h
      refine ⟨hstart, rest', ?_, hpair⟩
      rw [options_next hread' (Bool.not_eq_true _ ▸ hnew) (hshort s' _ mid' hread')]
      exact hmore
    | case3 seen style s option mid hread _ hge => exact absurd (hshort s option mid hread) hge
    | case4 seen style s failure hread =>
      obtain ⟨rfl, rfl⟩ := Result.done.inj h
      exact ⟨hrest.2, s', options_stop (hoption.spares hs hrest.2 ⟨failure, hread⟩), hs⟩

theorem firm_options (seen : List String) (style : Style) : Firm (options seen style) := by
  intro s ⟨failure, h⟩
  fun_induction options seen style s with
  | case2 _ _ _ _ _ _ _ _ ih => exact ih h
  | case1 | case3 | case4 | case5 => cases h

theorem shortens_style : Shortens style :=
  shortens_bind (shortens_keyword (by decide)) fun _ => advances_bind
    (advances_firmly (advances_label _ (advances_lexeme advances_identifier))) fun _ =>
      advances_options _ _

theorem agree_style (h : Stem T T') : Agree (inFront n barred T T') style style id :=
  agree_bind (φ := id) (agree_keyword h (by decide)) (fun _ =>
    tracks_bind (φ := id) (tracks_firmly (tracks_label (agree_name h).tracks)) fun _ =>
      tracks_options (agree_skip (skips_stem h) (agree_styleOption h)) _ _)
    fun _ => firm_bind (firm_firmly _) fun _ => firm_options _ _

end StyleBlock

end ListingGrid.Grammar
