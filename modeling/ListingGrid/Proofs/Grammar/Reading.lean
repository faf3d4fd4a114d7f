import ListingGrid.Grammar.Lexis
import ListingGrid.Grammar.SourceError

/-!
# What parsers read

Each combinator reads a text when its parts read theirs, and fails softly where an
alternative is to be tried. Readers of whole constructs are followed step by step with
these lemmas, forwards and backwards.
-/

set_option autoImplicit false

namespace ListingGrid.Grammar

namespace Parser

variable {α β γ : Type} {p q : Parser α} {s rest : List Char} {a : α}

def Fails (p : Parser α) (s : List Char) : Prop := ∃ failure, p s = .fail failure

def Settles (p : Parser α) : Prop := ∀ s, (∃ a rest, p s = .done a rest) ∨ Fails p s

theorem Fails.not_done (h : Fails p s) : p s ≠ .done a rest := by
  obtain ⟨failure, h⟩ := h
  simp [h]

theorem pure_eq_done {b : α} :
    (Pure.pure a : Parser α) s = .done b rest ↔ a = b ∧ s = rest := by
  change Result.done a s = .done b rest ↔ _
  rw [Result.done.injEq]

theorem bind_eq_done {f : α → Parser β} {b : β} :
    (p >>= f) s = .done b rest ↔ ∃ a mid, p s = .done a mid ∧ f a mid = .done b rest := by
  change Parser.bind p f s = _ ↔ _
  unfold Parser.bind
  cases p s <;> grind

theorem bind_fails {f : α → Parser β} :
    Fails (p >>= f) s ↔ Fails p s ∨ ∃ a mid, p s = .done a mid ∧ Fails (f a) mid := by
  unfold Fails
  change (∃ failure, Parser.bind p f s = _) ↔ _
  unfold Parser.bind
  cases p s <;> grind

theorem map_eq_done {f : α → β} {b : β} :
    map f p s = .done b rest ↔ ∃ a, p s = .done a rest ∧ f a = b := by
  unfold map
  cases p s <;> grind

theorem map_fails {f : α → β} : Fails (map f p) s ↔ Fails p s := by
  unfold Fails map
  cases p s <;> simp

theorem or_eq_done :
    or p q s = .done a rest ↔ p s = .done a rest ∨ Fails p s ∧ q s = .done a rest := by
  unfold or Fails
  cases p s with
  | fail failure => cases q s <;> simp
  | done | abort => simp

theorem or_fails : Fails (or p q) s ↔ Fails p s ∧ Fails q s := by
  unfold Fails or
  cases p s with
  | fail failure => cases q s <;> simp
  | done | abort => simp

theorem firstOf_cons (p q : Parser α) (others : List (Parser α)) :
    firstOf p (q :: others) = firstOf (or p q) others := rfl

theorem firstOf_eq_done {others : List (Parser α)} :
    firstOf p others s = .done a rest ↔
      p s = .done a rest ∨ Fails p s ∧
        match others with
        | [] => False
        | q :: others => firstOf q others s = .done a rest := by
  induction others generalizing p with
  | nil => simp [firstOf]
  | cons q others ih =>
    simp only
    rw [firstOf_cons, ih, ih, or_eq_done, or_fails]
    grind

theorem firstOf_done {q : Parser α} {others after : List (Parser α)} (before : List (Parser α))
    (hsplit : p :: others = before ++ q :: after) (hbefore : ∀ r ∈ before, Fails r s)
    (hq : q s = .done a rest) : firstOf p others s = .done a rest := by
  induction before generalizing p others with
  | nil =>
    obtain ⟨rfl, rfl⟩ := List.cons.inj hsplit
    exact firstOf_eq_done.mpr (.inl hq)
  | cons r before ih =>
    obtain ⟨rfl, rfl⟩ := List.cons.inj hsplit
    obtain ⟨hp, hmore⟩ := List.forall_mem_cons.mp hbefore
    cases before with
    | nil => exact firstOf_eq_done.mpr (.inr ⟨hp, ih rfl hmore⟩)
    | cons next before => exact firstOf_eq_done.mpr (.inr ⟨hp, ih rfl hmore⟩)

theorem firstOf_fails {others : List (Parser α)} :
    Fails (firstOf p others) s ↔ Fails p s ∧ ∀ q ∈ others, Fails q s := by
  induction others generalizing p with
  | nil => simp [firstOf]
  | cons q others ih => rw [firstOf_cons, ih, or_fails, List.forall_mem_cons, and_assoc]

theorem firmly_eq_done : firmly p s = .done a rest ↔ p s = .done a rest := by
  unfold firmly
  cases p s <;> simp

theorem label_eq_done {what : String} : label what p s = .done a rest ↔ p s = .done a rest := by
  unfold label
  cases p s <;> simp

theorem label_fails {what : String} : Fails (label what p) s ↔ Fails p s := by
  unfold Fails label
  cases p s <;> simp

theorem optional_eq_done {o : Option α} :
    optional p s = .done o rest ↔
      (∃ a, o = some a ∧ p s = .done a rest) ∨ o = none ∧ rest = s ∧ Fails p s := by
  unfold optional Fails
  cases p s <;> grind

theorem optional_some (h : p s = .done a rest) : optional p s = .done (some a) rest :=
  optional_eq_done.mpr (.inl ⟨a, rfl, h⟩)

theorem optional_none (h : Fails p s) : optional p s = .done none s :=
  optional_eq_done.mpr (.inr ⟨rfl, rfl, h⟩)

theorem filterMap_eq_done {f : α → Option β} {b : β} :
    filterMap p f s = .done b rest ↔ ∃ a, p s = .done a rest ∧ f a = some b := by
  unfold filterMap
  cases p s with
  | done a left => cases hf : f a <;> grind
  | fail | abort => simp

theorem filterMap_fails {f : α → Option β} (h : Fails p s) : Fails (filterMap p f) s := by
  obtain ⟨failure, h⟩ := h
  exact ⟨failure, by simp [filterMap, h]⟩

theorem foldMany_next {f : β → α → β} {acc : β} (h : p s = .done a rest)
    (hlt : rest.length < s.length) : foldMany p f acc s = foldMany p f (f acc a) rest := by
  rw [foldMany, h]
  exact if_pos hlt

theorem foldMany_stop {f : β → α → β} {acc : β} (h : Fails p s) :
    foldMany p f acc s = .done acc s := by
  obtain ⟨failure, h⟩ := h
  rw [foldMany, h]

theorem foldMany_append (p : Parser α) (s : List Char) (items before : List α) :
    foldMany p (fun items item => item :: items) (items ++ before) s =
      map (· ++ before) (foldMany p (fun items item => item :: items) items) s := by
  fun_induction foldMany p (fun items item => item :: items) items s with
  | case1 items s a rest hread hlt ih =>
    rw [foldMany, map, hread, foldMany, hread]
    simp only [if_pos hlt]
    exact ih
  | case2 items s a rest hread hge =>
    rw [foldMany, map, hread, foldMany, hread]
    simp only [if_neg hge]
  | case3 items s failure hread | case4 items s failure hread =>
    rw [foldMany, map, hread, foldMany, hread]

theorem many_of_done (h : p s = .done a rest) (hlt : rest.length < s.length) :
    many p s = map (a :: ·) (many p) rest := by
  have hbefore := foldMany_append p rest [] [a]
  rw [List.nil_append] at hbefore
  unfold many map
  rw [foldMany_next h hlt, hbefore]
  unfold map
  cases foldMany p (fun items item => item :: items) [] rest <;> simp

theorem many_stop (h : Fails p s) : many p s = .done [] s :=
  map_eq_done.mpr ⟨[], foldMany_stop h, rfl⟩

theorem many_stuck (h : p s = .done a rest) (hlt : ¬rest.length < s.length) : Fails (many p) s := by
  refine map_fails.mpr ⟨⟨s, .unexpected⟩, ?_⟩
  rw [foldMany, h]
  exact if_neg hlt

theorem many_next {items : List α} {mid : List Char} (h : p s = .done a mid)
    (hlt : mid.length < s.length) (hmore : many p mid = .done items rest) :
    many p s = .done (a :: items) rest := by
  rw [many_of_done h hlt]
  exact map_eq_done.mpr ⟨items, hmore, rfl⟩

theorem many_eq_done {items : List α} :
    many p s = .done items rest ↔
      (items = [] ∧ rest = s ∧ Fails p s) ∨
        ∃ a mid more, items = a :: more ∧ p s = .done a mid ∧ mid.length < s.length ∧
          many p mid = .done more rest := by
  constructor
  · intro h
    cases hp : p s with
    | fail failure =>
      rw [many_stop ⟨failure, hp⟩, Result.done.injEq] at h
      exact .inl ⟨h.1.symm, h.2.symm, failure, hp⟩
    | abort failure =>
      unfold many map at h
      rw [foldMany, hp] at h
      simp at h
    | done a mid =>
      by_cases hlt : mid.length < s.length
      · rw [many_of_done hp hlt, map_eq_done] at h
        obtain ⟨more, hmore, rfl⟩ := h
        exact .inr ⟨a, mid, more, rfl, rfl, hlt, hmore⟩
      · exact absurd h (many_stuck hp hlt).not_done
  · rintro (⟨rfl, rfl, h⟩ | ⟨a, mid, more, rfl, ha, hlt, hmore⟩)
    · exact many_stop h
    · exact many_next ha hlt hmore

theorem moreBy_stop {separator : Parser γ} (h : Fails separator s) :
    moreBy separator p s = .done [] s := by
  obtain ⟨failure, h⟩ := h
  exact many_stop ⟨failure, by simp only [h]⟩

theorem moreBy_next {separator : Parser γ} {mark : γ} {items : List α} {mid last : List Char}
    (hmark : separator s = .done mark mid) (h : p mid = .done a last)
    (hlt : last.length < s.length) (hmore : moreBy separator p last = .done items rest) :
    moreBy separator p s = .done (a :: items) rest :=
  many_next (by simp only [hmark, h]) hlt hmore

theorem moreBy_eq (separator : Parser γ) (p : Parser α) :
    moreBy separator p = many (separator >>= fun _ => p) := rfl

theorem sepBy1_eq_done {separator : Parser γ} {items : List α} :
    sepBy1 separator p s = .done items rest ↔
      ∃ first more mid, p s = .done first mid ∧ moreBy separator p mid = .done more rest ∧
        first :: more = items := by
  unfold sepBy1
  simp only [bind_eq_done, pure_eq_done]
  constructor
  · rintro ⟨first, mid, hfirst, more, left, hmore, hitems, rfl⟩
    exact ⟨first, more, mid, hfirst, hmore, hitems⟩
  · rintro ⟨first, more, mid, hfirst, hmore, hitems⟩
    exact ⟨first, mid, hfirst, more, rest, hmore, hitems, rfl⟩

theorem sepBy_none {separator : Parser γ} (h : Fails p s) : sepBy separator p s = .done [] s :=
  map_eq_done.mpr ⟨none, optional_none (bind_fails.mpr (.inl h)), rfl⟩

theorem sepBy_some {separator : Parser γ} {items : List α}
    (h : sepBy1 separator p s = .done items rest) : sepBy separator p s = .done items rest :=
  map_eq_done.mpr ⟨some items, optional_some h, rfl⟩

theorem satisfy_eq_done {accepts : Char → Bool} {c : Char} :
    satisfy accepts s = .done c rest ↔ s = c :: rest ∧ accepts c = true := by
  cases s with
  | nil => simp [satisfy]
  | cons d more => by_cases hd : accepts d = true <;> simp [satisfy, hd] <;> grind

theorem satisfy_fails {accepts : Char → Bool} (h : ∀ c, s.head? = some c → accepts c = false) :
    Fails (satisfy accepts) s := by
  cases s with
  | nil => exact ⟨_, rfl⟩
  | cons d more => exact ⟨_, by rw [satisfy, h d rfl]; rfl⟩

theorem char_eq_done {c d : Char} : char c s = .done d rest ↔ s = c :: rest ∧ d = c := by
  cases s with
  | nil => simp [char]
  | cons e more =>
    by_cases he : e = c
    · simp [char, he]
      grind
    · simp [char, he]

theorem char_fails {c : Char} (h : s.head? ≠ some c) : Fails (char c) s := by
  cases s with
  | nil => exact ⟨_, rfl⟩
  | cons d more =>
    have hd : d ≠ c := by simpa using h
    exact ⟨_, by rw [char, if_neg hd]⟩

theorem char_settles (c : Char) : Settles (char c) := by
  intro s
  by_cases h : s.head? = some c
  · obtain ⟨more, rfl⟩ := List.head?_eq_some_iff.mp h
    exact .inl ⟨c, more, char_eq_done.mpr ⟨rfl, rfl⟩⟩
  · exact .inr (char_fails h)

theorem tag_append (text rest : List Char) : tag text (text ++ rest) = .done text rest := by
  simp [tag]

theorem tag_eq_done {text taken : List Char} :
    tag text s = .done taken rest ↔ s = text ++ rest ∧ taken = text := by
  constructor
  · intro h
    unfold tag at h
    split at h
    · next hprefix =>
      simp only [Result.done.injEq] at h
      obtain ⟨rfl, rfl⟩ := h
      rw [List.isPrefixOf_iff_prefix] at hprefix
      exact ⟨(List.prefix_iff_eq_append.mp hprefix).symm, rfl⟩
    · simp at h
  · rintro ⟨rfl, rfl⟩
    exact tag_append ..

theorem tag_fails {text : List Char} : Fails (tag text) s ↔ ¬text <+: s := by
  unfold Fails tag
  split
  · next h =>
    rw [List.isPrefixOf_iff_prefix] at h
    simp [h]
  · next h =>
    rw [List.isPrefixOf_iff_prefix] at h
    simp [h]

/-- What a run of characters ends in front of. -/
def Stops (accepts : Char → Bool) (s : List Char) : Prop :=
  ∀ c, s.head? = some c → accepts c = false

theorem stops_cons {accepts : Char → Bool} {c : Char} (h : accepts c = false) :
    Stops accepts (c :: rest) := by
  intro d hd
  obtain rfl : c = d := by simpa using hd
  exact h

theorem Stops.mono {accepts other : Char → Bool} (h : Stops accepts rest)
    (hle : ∀ c, other c = true → accepts c = true) : Stops other rest := by
  intro c hc
  cases ho : other c with
  | false => rfl
  | true => rw [← h c hc, hle c ho]

/-- Where a text stops, it stops with whatever else behind it. -/
theorem stops_append {accepts : Char → Bool} {left : List Char} (hleft : Stops accepts left)
    (hrest : Stops accepts rest) : Stops accepts (left ++ rest) := by
  cases left with
  | nil => exact hrest
  | cons c more => exact fun d hd => hleft d (by simpa using hd)

theorem takeWhile_run {accepts : Char → Bool} {run : List Char} (hrun : run.all accepts = true)
    (h : Stops accepts rest) :
    (run ++ rest).takeWhile accepts = run ∧ (run ++ rest).dropWhile accepts = rest := by
  have hstop : rest.takeWhile accepts = [] ∧ rest.dropWhile accepts = rest := by
    cases rest with
    | nil => simp
    | cons c more => simp [h c rfl]
  rw [List.all_eq_true] at hrun
  rw [List.takeWhile_append_of_pos hrun, List.dropWhile_append_of_pos hrun, hstop.1, hstop.2]
  simp

theorem takeWhile_append {accepts : Char → Bool} {run : List Char} (hrun : run.all accepts = true)
    (h : Stops accepts rest) : takeWhile accepts (run ++ rest) = .done run rest := by
  obtain ⟨htake, hdrop⟩ := takeWhile_run hrun h
  rw [takeWhile, htake, hdrop]

theorem takeWhile1_append {accepts : Char → Bool} {run : List Char} (hrun : run.all accepts = true)
    (hne : run ≠ []) (h : Stops accepts rest) :
    takeWhile1 accepts (run ++ rest) = .done run rest := by
  obtain ⟨htake, hdrop⟩ := takeWhile_run hrun h
  rw [takeWhile1, htake, hdrop, if_neg (by simpa using hne)]

theorem takeWhile1_eq_done {accepts : Char → Bool} {run : List Char} :
    takeWhile1 accepts s = .done run rest ↔
      s = run ++ rest ∧ run ≠ [] ∧ run.all accepts = true ∧ Stops accepts rest := by
  constructor
  · intro h
    unfold takeWhile1 at h
    split at h
    · simp at h
    · next hne =>
      simp only [Result.done.injEq] at h
      obtain ⟨rfl, rfl⟩ := h
      refine ⟨List.takeWhile_append_dropWhile.symm, by simpa using hne, List.all_takeWhile, ?_⟩
      intro c hc
      have hhead := List.head?_dropWhile_not accepts s
      simpa [hc] using hhead
  · rintro ⟨rfl, hne, hrun, hrest⟩
    exact takeWhile1_append hrun hne hrest

theorem takeWhile1_fails {accepts : Char → Bool} (h : Stops accepts s) :
    Fails (takeWhile1 accepts) s := by
  cases s with
  | nil => exact ⟨_, rfl⟩
  | cons c more => exact ⟨_, by rw [takeWhile1, List.takeWhile_cons_of_neg (by simp [h c rfl])]; rfl⟩

theorem notFollowedBy_done {accepts : Char → Bool} (h : Stops accepts s) :
    notFollowedBy accepts s = .done () s := by
  cases s with
  | nil => rfl
  | cons c more => rw [notFollowedBy, h c rfl]; rfl

theorem notFollowedBy_fails {accepts : Char → Bool} {c : Char} (h : accepts c = true) :
    Fails (notFollowedBy accepts) (c :: rest) :=
  ⟨_, by rw [notFollowedBy, if_pos h]⟩

theorem stops_of_notFollowedBy {accepts : Char → Bool}
    (h : notFollowedBy accepts s = .done () rest) : s = rest ∧ Stops accepts rest := by
  cases s with
  | nil =>
    obtain rfl : [] = rest := by simpa [notFollowedBy] using h
    exact ⟨rfl, by simp [Stops]⟩
  | cons c more =>
    cases hc : accepts c with
    | true => simp [notFollowedBy, hc] at h
    | false =>
      obtain rfl : c :: more = rest := by simpa [notFollowedBy, hc] using h
      exact ⟨rfl, stops_cons hc⟩

theorem pure_settles (a : α) : Settles (Pure.pure a : Parser α) := fun s => .inl ⟨a, s, rfl⟩

theorem bind_settles {f : α → Parser β} (hp : Settles p) (hf : ∀ a, Settles (f a)) :
    Settles (p >>= f) := by
  intro s
  rcases hp s with ⟨a, mid, ha⟩ | hfails
  · rcases hf a mid with ⟨b, rest, hb⟩ | hfails
    · exact .inl ⟨b, rest, bind_eq_done.mpr ⟨a, mid, ha, hb⟩⟩
    · exact .inr (bind_fails.mpr (.inr ⟨a, mid, ha, hfails⟩))
  · exact .inr (bind_fails.mpr (.inl hfails))

theorem or_settles (hp : Settles p) (hq : Settles q) : Settles (or p q) := by
  intro s
  rcases hp s with ⟨a, rest, ha⟩ | hfails
  · exact .inl ⟨a, rest, or_eq_done.mpr (.inl ha)⟩
  rcases hq s with ⟨a, rest, ha⟩ | hfails'
  · exact .inl ⟨a, rest, or_eq_done.mpr (.inr ⟨hfails, ha⟩)⟩
  · exact .inr (or_fails.mpr ⟨hfails, hfails'⟩)

theorem firstOf_settles {others : List (Parser α)} (hp : Settles p)
    (ho : ∀ q ∈ others, Settles q) : Settles (firstOf p others) := by
  unfold firstOf
  induction others generalizing p with
  | nil => exact hp
  | cons q others ih =>
    exact ih (or_settles hp (ho q (by simp))) fun r hr => ho r (by simp [hr])

theorem optional_settles (hp : Settles p) : Settles (optional p) := by
  intro s
  rcases hp s with ⟨a, rest, ha⟩ | hfails
  · exact .inl ⟨some a, rest, optional_some ha⟩
  · exact .inl ⟨none, s, optional_none hfails⟩

theorem map_settles (f : α → β) (hp : Settles p) : Settles (map f p) := by
  intro s
  rcases hp s with ⟨a, rest, ha⟩ | hfails
  · exact .inl ⟨f a, rest, map_eq_done.mpr ⟨a, ha, rfl⟩⟩
  · exact .inr (map_fails.mpr hfails)

theorem filterMap_settles (f : α → Option β) (hp : Settles p) : Settles (filterMap p f) := by
  intro s
  rcases hp s with ⟨a, rest, ha⟩ | hfails
  · unfold Fails filterMap
    rw [ha]
    cases hb : f a with
    | some b => exact .inl ⟨b, rest, by simp [hb]⟩
    | none => exact .inr ⟨⟨s, .unexpected⟩, by simp only [hb]⟩
  · exact .inr (filterMap_fails hfails)

theorem label_settles (what : String) (hp : Settles p) : Settles (label what p) := by
  intro s
  rcases hp s with ⟨a, rest, ha⟩ | hfails
  · exact .inl ⟨a, rest, label_eq_done.mpr ha⟩
  · exact .inr (label_fails.mpr hfails)

theorem satisfy_settles (accepts : Char → Bool) : Settles (satisfy accepts) := by
  intro s
  cases s with
  | nil => exact .inr ⟨_, rfl⟩
  | cons c s =>
    cases hc : accepts c with
    | true => exact .inl ⟨c, s, satisfy_eq_done.mpr ⟨rfl, hc⟩⟩
    | false => exact .inr ⟨_, by rw [satisfy, hc]; rfl⟩

theorem takeWhile1_settles (accepts : Char → Bool) : Settles (takeWhile1 accepts) := by
  intro s
  by_cases hempty : (s.takeWhile accepts).isEmpty = true
  · exact .inr ⟨_, if_pos hempty⟩
  · exact .inl ⟨_, _, if_neg hempty⟩

theorem notFollowedBy_settles (accepts : Char → Bool) : Settles (notFollowedBy accepts) := by
  intro s
  cases s with
  | nil => exact .inl ⟨(), [], rfl⟩
  | cons c s =>
    cases hc : accepts c with
    | true => exact .inr (notFollowedBy_fails hc)
    | false => exact .inl ⟨(), c :: s, by rw [notFollowedBy, hc]; rfl⟩

end Parser

theorem skipBlank_of_head {c : Char} {s : List Char} (hblank : isBlank c = false)
    (hhash : c ≠ '#') : skipBlank (c :: s) = c :: s := by
  simp [skipBlank, skipFrom, hblank, hhash]

theorem ending_eq_done {s rest : List Char} {u : Unit} :
    Parser.ending s = .done u rest ↔ s = [] ∧ rest = [] := by
  cases s with
  | nil => simp [Parser.ending, eq_comm]
  | cons c s => simp [Parser.ending]

/-- A text is read when nothing but blanks stands behind what its parser takes. -/
theorem readAll_eq_ok {α : Type} {kind : SourceKind} {p : Parser α} {s : List Char} {a : α} :
    readAll kind (do
      let value ← p
      blank
      return value) s = .ok a ↔ ∃ rest, p s = .done a rest ∧ skipBlank rest = [] := by
  unfold readAll
  simp only
  generalize hwhole : (do
    let value ← (do
      let value ← p
      blank
      return value : Parser α)
    Parser.ending
    return value : Parser α) s = r
  have hdone : (∃ left, r = .done a left) ↔ ∃ rest, p s = .done a rest ∧ skipBlank rest = [] := by
    rw [← hwhole]
    simp only [Parser.bind_eq_done, Parser.pure_eq_done, ending_eq_done, blank, Result.done.injEq]
    constructor
    · rintro ⟨left, _, _, ⟨taken, rest, htaken, _, _, ⟨-, rfl⟩, rfl, rfl⟩, _, _, ⟨hrest, rfl⟩, rfl, rfl⟩
      exact ⟨rest, htaken, hrest⟩
    · rintro ⟨rest, hread, hrest⟩
      exact ⟨[], a, [], ⟨a, rest, hread, (), [], ⟨trivial, hrest⟩, rfl, rfl⟩, (), [], ⟨rfl, rfl⟩, rfl,
        rfl⟩
  cases r with
  | done value left => simpa using hdone
  | fail failure | abort failure => simpa using hdone

end ListingGrid.Grammar
