import ListingGrid.Proofs.Grammar.Matching

/-!
# Reading across a change

Where one part of a text is exchanged, what stands in front of that part and what stands
behind it match by different means. A reader that takes the part itself begins at places
that match in front and ends at places that match behind. What was taken of it is told from
what was read, so in a sequence one of the two readers is the one that goes across.
-/

set_option autoImplicit false

namespace ListingGrid.Grammar

/-- Matchings of what stands in front of a part of a text and of what stands behind it. -/
structure Sides (text : List Char) (M N : Matching) : Prop where
  earlier {s mid mid' : List Char} (hs : s <:+ text) (hmid : mid <:+ s) (h : M.Pair mid mid') :
    ∃ s', M.Pair s s'
  later {s s' rest : List Char} (h : N.Pair s s') (hrest : rest <:+ s) : ∃ rest', N.Pair rest rest'

namespace Parser

variable {α β γ δ : Type} {M N : Matching} {text s mid rest : List Char} {p : Parser α}
  {p' : Parser β} {q : Parser γ} {q' : Parser δ} {φ : α → β} {χ : γ → δ}

/-- Between these places of the first text, `p'` gives `b` in the other text, from matching
places in front to matching places behind. -/
structure Crosses (M N : Matching) (p' : Parser β) (b : β) (s rest : List Char) : Prop where
  passes : ∃ rest', N.Pair rest rest'
  done (hrest : N.Open rest) :
    M.Ends s ∧ ∀ s', M.Pair s s' → ∃ rest', p' s' = .done b rest' ∧ N.Pair rest rest'

theorem Crosses.mono {b : β} {d : δ} (h : Crosses M N p' b s rest)
    (hread : ∀ {s' rest'}, p' s' = .done b rest' → q' s' = .done d rest') :
    Crosses M N q' d s rest where
  passes := h.passes
  done hrest := by
    obtain ⟨hstart, hreads⟩ := h.done hrest
    refine ⟨hstart, fun s' hs' => ?_⟩
    obtain ⟨rest', hdone, hpair⟩ := hreads s' hs'
    exact ⟨rest', hread hdone, hpair⟩

section Sequences

variable {ε : Type} {r' : Parser ε} {e : ε} (hsides : Sides text M N)

include hsides

/-- What is read behind the exchanged part is read alike. -/
theorem Crosses.behind {b : β} {c : γ} (h : Crosses M N p' b s mid) (hq : Tracks N q q' χ)
    (hread : q mid = .done c rest)
    (hboth : ∀ {s' mid' rest'}, p' s' = .done b mid' → q' mid' = .done (χ c) rest' →
      r' s' = .done e rest') : Crosses M N r' e s rest := by
  obtain ⟨mid', hmid⟩ := h.passes
  have hlast := hq.advances.suffix hread
  refine ⟨hsides.later hmid hlast, fun hrest => ?_⟩
  have hends : N.Ends rest := ⟨hsides.later hmid hlast, hrest⟩
  obtain ⟨hstart, hreads⟩ := h.done (hq.done hmid hread hends).1
  refine ⟨hstart, fun s' hs' => ?_⟩
  obtain ⟨other, hfirst, hother⟩ := hreads s' hs'
  obtain ⟨-, rest', hsecond, hpair⟩ := hq.done hother hread hends
  exact ⟨rest', hboth hfirst hsecond, hpair⟩

/-- What is read in front of the exchanged part is read alike. -/
theorem Crosses.front {a : α} {d : δ} (hs : s <:+ text) (hp : Tracks M p p' φ)
    (hread : p s = .done a mid) (h : Crosses M N q' d mid rest)
    (hboth : ∀ {s' mid' rest'}, p' s' = .done (φ a) mid' → q' mid' = .done d rest' →
      r' s' = .done e rest') : Crosses M N r' e s rest := by
  have hbefore := hp.advances.suffix hread
  refine ⟨h.passes, fun hrest => ?_⟩
  obtain ⟨hmid, hreads⟩ := h.done hrest
  obtain ⟨start, hstart⟩ := hsides.earlier hs hbefore hmid.1.choose_spec
  refine ⟨⟨⟨start, hstart⟩, (hp.done hstart hread hmid).1⟩, fun s' hs' => ?_⟩
  obtain ⟨-, mid', hfirst, hpair⟩ := hp.done hs' hread hmid
  obtain ⟨rest', hsecond, hlast⟩ := hreads mid' hpair
  exact ⟨rest', hboth hfirst hsecond, hlast⟩

end Sequences

/-- Where what `p` gives holds the exchanged part, `p'` gives the same in the other text, but
for `φ`. -/
def Across (M N : Matching) (text : List Char) (p : Parser α) (p' : Parser β) (own : α → Prop)
    (φ : α → β) : Prop :=
  ∀ ⦃s rest a⦄, s <:+ text → p s = .done a rest → own a → Crosses M N p' (φ a) s rest

section Rules

variable {own : α → Prop} {own' : γ → Prop}

theorem across_pure {a : α} {b : β} (h : ¬own a) :
    Across M N text (Pure.pure a) (Pure.pure b) own φ :=
  fun _ _ _ _ hread hown => absurd ((pure_eq_done.mp hread).1 ▸ hown) h

theorem across_firmly (hp : Across M N text p p' own φ) :
    Across M N text (firmly p) (firmly p') own φ := fun _ _ _ hs hread hown =>
  (hp hs (firmly_eq_done.mp hread) hown).mono firmly_eq_done.mpr

theorem across_optional (hp : Across M N text p p' own φ) :
    Across M N text (optional p) (optional p') (fun o => ∃ a ∈ o, own a) (Option.map φ) := by
  rintro s rest _ hs hread ⟨a, rfl, hown⟩
  obtain ⟨b, heq, hb⟩ | ⟨heq, -⟩ := optional_eq_done.mp hread
  · cases heq
    exact (hp hs hb hown).mono optional_some
  · cases heq

variable (hsides : Sides text M N)

include hsides

theorem across_after {f : α → Parser γ} {f' : β → Parser δ} (hfront : Tracks M p p' φ)
    (hf : ∀ a, Across M N text (f a) (f' (φ a)) own' χ) :
    Across M N text (p >>= f) (p' >>= f') own' χ := by
  intro s rest c hs hread hown
  obtain ⟨a, mid, ha, hc⟩ := bind_eq_done.mp hread
  have hmid := hfront.advances.suffix ha
  exact (hf a (hmid.trans hs) hc hown).front hsides hs hfront ha fun hfirst hsecond =>
    bind_eq_done.mpr ⟨φ a, _, hfirst, hsecond⟩

/-- What is read first holds the exchanged part, or what is read behind it does. -/
theorem across_bind {f : α → Parser γ} {f' : β → Parser δ} (hp : Across M N text p p' own φ)
    (hfront : Tracks M p p' φ)
    (hf : ∀ a, Across M N text (f a) (f' (φ a)) (fun c => own' c ∧ ¬own a) χ)
    (hbehind : ∀ a, Tracks N (f a) (f' (φ a)) χ) :
    Across M N text (p >>= f) (p' >>= f') own' χ := by
  intro s rest c hs hread hown
  obtain ⟨a, mid, ha, hc⟩ := bind_eq_done.mp hread
  by_cases ha' : own a
  · exact (hp hs ha ha').behind hsides (hbehind a) hc fun hfirst hsecond =>
      bind_eq_done.mpr ⟨φ a, _, hfirst, hsecond⟩
  · have hmid := hfront.advances s
    rw [ha] at hmid
    exact (hf a (hmid.trans hs) hc ⟨hown, ha'⟩).front hsides hs hfront ha fun hfirst hsecond =>
      bind_eq_done.mpr ⟨φ a, _, hfirst, hsecond⟩

theorem across_many (hp : Across M N text p p' own φ) (hfront : Tracks M p p' φ)
    (hbehind : Agree N p p' φ) (hshort : Shortens p) (hshort' : Shortens p') :
    Across M N text (many p) (many p') (fun items => ∃ a ∈ items, own a) (List.map φ) := by
  intro s rest items hs hread hown
  induction items generalizing s with
  | nil => simp at hown
  | cons a items ih =>
    obtain ⟨heq, -⟩ | ⟨_, mid, _, heq, ha, -, hmore⟩ := many_eq_done.mp hread
    · cases heq
    cases heq
    have hnext : ∀ {s' mid' rest'}, p' s' = .done (φ a) mid' →
        many p' mid' = .done (items.map φ) rest' →
          many p' s' = .done ((a :: items).map φ) rest' := fun hfirst hsecond =>
      many_next hfirst (hshort' _ _ _ hfirst) hsecond
    by_cases hown' : own a
    · exact (hp hs ha hown').behind hsides
        (tracks_many hbehind.tracks hbehind.spares hshort hshort') hmore hnext
    · have hmid := hfront.advances s
      rw [ha] at hmid
      have hlater : ∃ b ∈ items, own b := by simpa [hown'] using hown
      exact (ih (hmid.trans hs) hmore hlater).front hsides hs hfront ha hnext

theorem across_many1 (hp : Across M N text p p' own φ) (hfront : Agree M p p' φ)
    (hbehind : Agree N p p' φ) (hshort : Shortens p) (hshort' : Shortens p') :
    Across M N text (many1 p) (many1 p') (fun items => ∃ a ∈ items, own a) (List.map φ) := by
  have hmany := across_many hsides hp hfront.tracks hbehind hshort hshort'
  have hahead := tracks_many hfront.tracks hfront.spares hshort hshort'
  refine across_bind hsides hp hfront.tracks (fun a => ?_) fun a => tracks_bind
    (tracks_many hbehind.tracks hbehind.spares hshort hshort') fun items =>
      tracks_pure (φ := List.map φ) (a :: items)
  refine across_bind hsides hmany hahead (fun items => across_pure ?_) fun items =>
    tracks_pure (φ := List.map φ) (a :: items)
  rintro ⟨⟨⟨b, hb, hown⟩, hnone⟩, hmore⟩
  rcases List.mem_cons.mp hb with rfl | hb
  · exact hnone hown
  · exact hmore ⟨b, hb, hown⟩

end Rules

end Parser

end ListingGrid.Grammar
