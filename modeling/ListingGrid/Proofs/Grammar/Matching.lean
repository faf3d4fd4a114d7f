import ListingGrid.Proofs.Grammar.Advance

/-!
# Two texts read alike

Two texts that differ in some part have places that match: a reader that starts at matching
places and ends where its next token is in sight gives the same in both, and ends at matching
places again. That is kept by every combinator, provided that a reader which fails in one
text fails at the matching place of the other wherever an alternative is taken for it.
-/

set_option autoImplicit false

namespace ListingGrid.Grammar

/-- Places of two texts that match, and the places from which a reader may go on whatever
the other text holds. -/
structure Matching where
  Pair : List Char → List Char → Prop
  Open : List Char → Prop
  between {s s' rest rest' mid : List Char} (hs : Pair s s') (hrest : Pair rest rest')
    (hbehind : rest <:+ mid) (hbefore : mid <:+ s) : ∃ mid', Pair mid mid'

def Matching.Ends (M : Matching) (rest : List Char) : Prop :=
  (∃ rest', M.Pair rest rest') ∧ M.Open rest

namespace Parser

variable {α β γ δ : Type} {M : Matching}

/-- What `p` gives in the first text, `p'` gives in the second one, but for `φ`. -/
structure Tracks (M : Matching) (p : Parser α) (p' : Parser β) (φ : α → β) : Prop where
  advances : Advances p
  done {s s' rest : List Char} {a : α} (hs : M.Pair s s') (h : p s = .done a rest)
    (hrest : M.Ends rest) : M.Open s ∧ ∃ rest', p' s' = .done (φ a) rest' ∧ M.Pair rest rest'

/-- Where `p` leaves the first text to an alternative, `p'` leaves the second one. -/
def Spares (M : Matching) (p : Parser α) (p' : Parser β) : Prop :=
  ∀ ⦃s s'⦄, M.Pair s s' → M.Open s → Fails p s → Fails p' s'

/-- Inside a token: what `p` gives in the first text, `p'` gives in the second one. -/
def Copies (M : Matching) (p p' : Parser α) : Prop :=
  ∀ ⦃s s' a rest⦄, M.Pair s s' → p s = .done a rest → M.Ends rest →
    ∃ rest', p' s' = .done a rest' ∧ M.Pair rest rest'

def Firm (p : Parser α) : Prop := ∀ s, ¬Fails p s

section Firm

variable {p : Parser α}

theorem firm_pure (a : α) : Firm (Pure.pure a : Parser α) := fun _ ⟨_, h⟩ => by cases h

theorem firm_bind {f : α → Parser β} (hp : Firm p) (hf : ∀ a, Firm (f a)) : Firm (p >>= f) :=
  fun s h => (bind_fails.mp h).elim (hp s) fun ⟨a, mid, _, ha⟩ => hf a mid ha

theorem firm_map {f : α → β} (hp : Firm p) : Firm (map f p) := fun s h => hp s (map_fails.mp h)

theorem firm_firmly (p : Parser α) : Firm (firmly p) := by
  rintro s ⟨failure, h⟩
  unfold firmly at h
  split at h <;> simp_all

theorem firm_optional (p : Parser α) : Firm (optional p) := by
  rintro s ⟨failure, h⟩
  unfold optional at h
  split at h <;> simp at h

end Firm

/-- Where only the first part can be left to an alternative. -/
theorem bind_fails_iff {p : Parser α} {f : α → Parser β} {s : List Char} (hf : ∀ a, Firm (f a)) :
    Fails (p >>= f) s ↔ Fails p s := by
  refine ⟨fun h => (bind_fails.mp h).resolve_right ?_, fun h => bind_fails.mpr (.inl h)⟩
  rintro ⟨a, mid, -, ha⟩
  exact hf a mid ha

section Spares

variable {p q : Parser α} {p' q' : Parser β}

theorem spares_of_firm (hp : Firm p) : Spares M p p' := fun s _ _ _ h => absurd h (hp s)

theorem spares_bind {f : α → Parser γ} {f' : β → Parser δ} (hp : Spares M p p')
    (hf : ∀ a, Firm (f a)) : Spares M (p >>= f) (p' >>= f') := fun _ _ hs hopen h =>
  bind_fails.mpr (.inl (hp hs hopen ((bind_fails_iff hf).mp h)))

theorem spares_map {f : α → γ} {f' : β → δ} (hp : Spares M p p') : Spares M (map f p) (map f' p') :=
  fun _ _ hs hopen h => map_fails.mpr (hp hs hopen (map_fails.mp h))

theorem spares_or (hp : Spares M p p') (hq : Spares M q q') : Spares M (or p q) (or p' q') := by
  intro s s' hs hopen h
  obtain ⟨hfirst, hsecond⟩ := or_fails.mp h
  exact or_fails.mpr ⟨hp hs hopen hfirst, hq hs hopen hsecond⟩

end Spares

section Tracks

variable {p q : Parser α} {p' q' : Parser β} {φ : α → β} {χ : γ → δ}

theorem tracks_pure (a : α) : Tracks M (Pure.pure a : Parser α) (Pure.pure (φ a) : Parser β) φ where
  advances := advances_pure a
  done {s s' rest b} hs h hrest := by
    obtain ⟨rfl, rfl⟩ := pure_eq_done.mp h
    exact ⟨hrest.2, s', rfl, hs⟩

theorem tracks_bind {f : α → Parser γ} {f' : β → Parser δ} (hp : Tracks M p p' φ)
    (hf : ∀ a, Tracks M (f a) (f' (φ a)) χ) : Tracks M (p >>= f) (p' >>= f') χ where
  advances := advances_bind hp.advances fun a => (hf a).advances
  done {s s' rest b} hs h hrest := by
    obtain ⟨a, mid, ha, hb⟩ := bind_eq_done.mp h
    have hbefore := hp.advances.suffix ha
    have hbehind := (hf a).advances.suffix hb
    obtain ⟨other, hother⟩ := M.between hs hrest.1.choose_spec hbehind hbefore
    have hopen := ((hf a).done hother hb hrest).1
    obtain ⟨hstart, mid', ha', hmid⟩ := hp.done hs ha ⟨⟨other, hother⟩, hopen⟩
    obtain ⟨-, rest', hb', hpair⟩ := (hf a).done hmid hb hrest
    exact ⟨hstart, rest', bind_eq_done.mpr ⟨φ a, mid', ha', hb'⟩, hpair⟩

theorem tracks_map {f : α → γ} {f' : β → δ} (hp : Tracks M p p' φ)
    (hf : ∀ a, f' (φ a) = χ (f a)) : Tracks M (map f p) (map f' p') χ where
  advances := advances_map f hp.advances
  done {s s' rest c} hs h hrest := by
    obtain ⟨a, ha, rfl⟩ := map_eq_done.mp h
    obtain ⟨hopen, rest', ha', hpair⟩ := hp.done hs ha hrest
    exact ⟨hopen, rest', map_eq_done.mpr ⟨φ a, ha', hf a⟩, hpair⟩

theorem tracks_label {what what' : String} (hp : Tracks M p p' φ) :
    Tracks M (label what p) (label what' p') φ where
  advances := advances_label what hp.advances
  done hs h hrest := by
    obtain ⟨hopen, rest', ha, hpair⟩ := hp.done hs (label_eq_done.mp h) hrest
    exact ⟨hopen, rest', label_eq_done.mpr ha, hpair⟩

theorem tracks_firmly (hp : Tracks M p p' φ) : Tracks M (firmly p) (firmly p') φ where
  advances := advances_firmly hp.advances
  done hs h hrest := by
    obtain ⟨hopen, rest', ha, hpair⟩ := hp.done hs (firmly_eq_done.mp h) hrest
    exact ⟨hopen, rest', firmly_eq_done.mpr ha, hpair⟩

theorem tracks_optional (hp : Tracks M p p' φ) (hspares : Spares M p p') :
    Tracks M (optional p) (optional p') (Option.map φ) where
  advances := advances_optional hp.advances
  done {s s' rest o} hs h hrest := by
    rcases optional_eq_done.mp h with ⟨a, rfl, ha⟩ | ⟨rfl, rfl, hfails⟩
    · obtain ⟨hopen, rest', ha', hpair⟩ := hp.done hs ha hrest
      exact ⟨hopen, rest', optional_some ha', hpair⟩
    · exact ⟨hrest.2, s', optional_none (hspares hs hrest.2 hfails), hs⟩

theorem tracks_or (hp : Tracks M p p' φ) (hspares : Spares M p p') (hq : Tracks M q q' φ) :
    Tracks M (or p q) (or p' q') φ where
  advances := advances_or hp.advances hq.advances
  done {s s' rest a} hs h hrest := by
    rcases or_eq_done.mp h with h | ⟨hfails, h⟩
    · obtain ⟨hopen, rest', ha, hpair⟩ := hp.done hs h hrest
      exact ⟨hopen, rest', or_eq_done.mpr (.inl ha), hpair⟩
    · obtain ⟨hopen, rest', ha, hpair⟩ := hq.done hs h hrest
      exact ⟨hopen, rest', or_eq_done.mpr (.inr ⟨hspares hs hopen hfails, ha⟩), hpair⟩

/-- Items are read alike up to a place where both texts hold no further one. -/
theorem foldMany_tracks (hp : Tracks M p p' φ) (hshort : Shortens p) (hshort' : Shortens p')
    {f : γ → α → γ} {g : δ → β → δ} (hf : ∀ c a, g (χ c) (φ a) = χ (f c a)) {acc c : γ}
    {s s' rest : List Char} (hs : M.Pair s s') (h : foldMany p f acc s = .done c rest)
    (hrest : M.Ends rest) (hstop : ∀ rest', M.Pair rest rest' → Fails p rest → Fails p' rest') :
    M.Open s ∧ ∃ rest', foldMany p' g (χ acc) s' = .done (χ c) rest' ∧ M.Pair rest rest' := by
  fun_induction foldMany p f acc s generalizing s' with
  | case1 acc s a mid hread _ ih =>
    have hbefore := hp.advances.suffix hread
    have hbehind := (advances_foldMany f (f acc a) hp.advances).suffix h
    obtain ⟨other, hother⟩ := M.between hs hrest.1.choose_spec hbehind hbefore
    have hopen := (ih hother h).1
    obtain ⟨hstart, mid', ha, hmid⟩ := hp.done hs hread ⟨⟨other, hother⟩, hopen⟩
    obtain ⟨-, rest', hmore, hpair⟩ := ih hmid h
    refine ⟨hstart, rest', ?_, hpair⟩
    rw [foldMany_next ha (hshort' s' _ mid' ha), hf]
    exact hmore
  | case2 acc s a mid hread hge => exact absurd (hshort s a mid hread) hge
  | case3 acc s failure hread =>
    obtain ⟨rfl, rfl⟩ := Result.done.inj h
    exact ⟨hrest.2, s', foldMany_stop (hstop s' hs ⟨failure, hread⟩), hs⟩
  | case4 => cases h

theorem tracks_foldMany (hp : Tracks M p p' φ) (hspares : Spares M p p') (hshort : Shortens p)
    (hshort' : Shortens p') {f : γ → α → γ} {g : δ → β → δ}
    (hf : ∀ c a, g (χ c) (φ a) = χ (f c a)) (acc : γ) :
    Tracks M (foldMany p f acc) (foldMany p' g (χ acc)) χ where
  advances := advances_foldMany f acc hp.advances
  done hs h hrest := foldMany_tracks hp hshort hshort' hf hs h hrest fun _ hpair =>
    hspares hpair hrest.2

theorem many_tracks (hp : Tracks M p p' φ) (hshort : Shortens p) (hshort' : Shortens p')
    {items : List α} {s s' rest : List Char} (hs : M.Pair s s') (h : many p s = .done items rest)
    (hrest : M.Ends rest) (hstop : ∀ rest', M.Pair rest rest' → Fails p rest → Fails p' rest') :
    M.Open s ∧ ∃ rest', many p' s' = .done (items.map φ) rest' ∧ M.Pair rest rest' := by
  obtain ⟨backward, hread, rfl⟩ := map_eq_done.mp h
  obtain ⟨hopen, rest', hread', hpair⟩ := foldMany_tracks (χ := List.map φ) hp hshort hshort'
    (g := fun items item => item :: items) (fun _ _ => rfl) hs hread hrest hstop
  exact ⟨hopen, rest', map_eq_done.mpr ⟨backward.map φ, hread', by simp⟩, hpair⟩

theorem tracks_many (hp : Tracks M p p' φ) (hspares : Spares M p p') (hshort : Shortens p)
    (hshort' : Shortens p') : Tracks M (many p) (many p') (List.map φ) where
  advances := advances_many hp.advances
  done hs h hrest := many_tracks hp hshort hshort' hs h hrest fun _ hpair => hspares hpair hrest.2

theorem tracks_many1 (hp : Tracks M p p' φ) (hspares : Spares M p p') (hshort : Shortens p)
    (hshort' : Shortens p') : Tracks M (many1 p) (many1 p') (List.map φ) :=
  tracks_bind hp fun a => tracks_bind (tracks_many hp hspares hshort hshort') fun items =>
    tracks_pure (φ := List.map φ) (a :: items)

/-- Items between separators are read alike up to a place where both texts hold no further
one. -/
theorem sepBy1_tracks {separator : Parser γ} {separator' : Parser δ}
    (hseparator : Tracks M separator separator' χ) (hp : Tracks M p p' φ)
    (hshort : Shortens separator) (hshort' : Shortens separator') (hadvances : Advances p')
    {items : List α} {s s' rest : List Char} (hs : M.Pair s s')
    (h : sepBy1 separator p s = .done items rest) (hrest : M.Ends rest)
    (hstop : ∀ rest', M.Pair rest rest' → Fails (separator >>= fun _ => p) rest →
      Fails (separator' >>= fun _ => p') rest') :
    M.Open s ∧ ∃ rest', sepBy1 separator' p' s' = .done (items.map φ) rest' ∧ M.Pair rest rest' := by
  obtain ⟨first, more, mid, hfirst, hmore, rfl⟩ := sepBy1_eq_done.mp h
  rw [moreBy_eq] at hmore
  have hitem : Tracks M (separator >>= fun _ => p) (separator' >>= fun _ => p') φ :=
    tracks_bind hseparator fun _ => hp
  have hshorts : Shortens (separator >>= fun _ => p) := shortens_bind hshort fun _ => hp.advances
  have hshorts' : Shortens (separator' >>= fun _ => p') := shortens_bind hshort' fun _ => hadvances
  have hbefore := hp.advances.suffix hfirst
  have hbehind := (advances_many hitem.advances).suffix hmore
  obtain ⟨other, hother⟩ := M.between hs hrest.1.choose_spec hbehind hbefore
  have hopen := (many_tracks hitem hshorts hshorts' hother hmore hrest hstop).1
  obtain ⟨hstart, mid', hfirst', hmid⟩ := hp.done hs hfirst ⟨⟨other, hother⟩, hopen⟩
  obtain ⟨-, rest', hmore', hpair⟩ := many_tracks hitem hshorts hshorts' hmid hmore hrest hstop
  exact ⟨hstart, rest', sepBy1_eq_done.mpr ⟨φ first, more.map φ, mid', hfirst', hmore', rfl⟩, hpair⟩

end Tracks

/-- Readers of two texts that give the same, but for `φ`, and fail alike. -/
structure Agree (M : Matching) (p : Parser α) (p' : Parser β) (φ : α → β) : Prop where
  tracks : Tracks M p p' φ
  spares : Spares M p p'

section Agree

variable {p : Parser α} {p' : Parser β} {φ : α → β} {χ : γ → δ}

theorem agree_of_firm (hp : Tracks M p p' φ) (hfirm : Firm p) : Agree M p p' φ :=
  ⟨hp, spares_of_firm hfirm⟩

theorem agree_bind {f : α → Parser γ} {f' : β → Parser δ} (hp : Agree M p p' φ)
    (hf : ∀ a, Tracks M (f a) (f' (φ a)) χ) (hfirm : ∀ a, Firm (f a)) :
    Agree M (p >>= f) (p' >>= f') χ :=
  ⟨tracks_bind hp.tracks hf, spares_bind hp.spares hfirm⟩

theorem agree_map {f : α → γ} {f' : β → δ} (hp : Agree M p p' φ) (hf : ∀ a, f' (φ a) = χ (f a)) :
    Agree M (map f p) (map f' p') χ :=
  ⟨tracks_map hp.tracks hf, spares_map hp.spares⟩

theorem agree_or {q : Parser α} {q' : Parser β} (hp : Agree M p p' φ) (hq : Agree M q q' φ) :
    Agree M (or p q) (or p' q') φ :=
  ⟨tracks_or hp.tracks hp.spares hq.tracks, spares_or hp.spares hq.spares⟩

theorem agree_firstOf {others : List (Parser α)} (hp : Agree M p p id)
    (ho : ∀ q ∈ others, Agree M q q id) : Agree M (firstOf p others) (firstOf p others) id := by
  unfold firstOf
  induction others generalizing p with
  | nil => exact hp
  | cons q others ih =>
    exact ih (agree_or hp (ho q (by simp))) fun r hr => ho r (by simp [hr])

theorem agree_optional (hp : Agree M p p' φ) :
    Agree M (optional p) (optional p') (Option.map φ) :=
  agree_of_firm (tracks_optional hp.tracks hp.spares) (firm_optional p)

end Agree

structure Skips (M : Matching) : Prop where
  pair {s s' : List Char} (hs : M.Pair s s') (hopen : M.Open s) :
    M.Pair (skipBlank s) (skipBlank s')
  isOpen (s : List Char) : M.Open (skipBlank s) ↔ M.Open s

theorem agree_skip {p : Parser α} {p' : Parser β} {φ : α → β} (hM : Skips M)
    (hp : Agree M p p' φ) : Agree M (lexeme p) (lexeme p') φ where
  tracks := {
    advances := advances_lexeme hp.tracks.advances
    done := fun {s s' rest a} hs h hrest => by
      have hbehind := hp.tracks.advances (skipBlank s)
      rw [show p (skipBlank s) = .done a rest from h] at hbehind
      obtain ⟨other, hother⟩ := M.between hs hrest.1.choose_spec hbehind (skipBlank_suffix s)
      have hopen := (hM.isOpen s).mp (hp.tracks.done hother h hrest).1
      obtain ⟨-, rest', hread', hpair⟩ := hp.tracks.done (hM.pair hs hopen) h hrest
      exact ⟨hopen, rest', hread', hpair⟩ }
  spares := fun _ _ hs hopen hfails =>
    hp.spares (hM.pair hs hopen) ((hM.isOpen _).mpr hopen) hfails

section Copies

variable {p q : Parser α} {p' q' : Parser α}

theorem copies_map (f : α → β) (hp : Copies M p p') : Copies M (map f p) (map f p') := by
  intro s s' b rest hs h hrest
  obtain ⟨a, ha, rfl⟩ := map_eq_done.mp h
  obtain ⟨rest', ha', hpair⟩ := hp hs ha hrest
  exact ⟨rest', map_eq_done.mpr ⟨a, ha', rfl⟩, hpair⟩

theorem copies_label (what : String) (hp : Copies M p p') : Copies M (label what p) (label what p') := by
  intro s s' a rest hs h hrest
  obtain ⟨rest', ha, hpair⟩ := hp hs (label_eq_done.mp h) hrest
  exact ⟨rest', label_eq_done.mpr ha, hpair⟩

theorem copies_filterMap (f : α → Option β) (hp : Copies M p p') :
    Copies M (filterMap p f) (filterMap p' f) := by
  intro s s' b rest hs h hrest
  obtain ⟨a, ha, hb⟩ := filterMap_eq_done.mp h
  obtain ⟨rest', ha', hpair⟩ := hp hs ha hrest
  exact ⟨rest', filterMap_eq_done.mpr ⟨a, ha', hb⟩, hpair⟩

end Copies

end Parser

end ListingGrid.Grammar
