import ListingGrid.Proofs.Grammar.Tails

/-!
# Reading in front of two tails

Places in front of two tails match when the same text stands between them and the tails. A
token that ends in front of one tail is read alike in front of the other, and so is
everything made of such tokens.
-/

set_option autoImplicit false

namespace ListingGrid.Grammar

open ListingGrid.Grammar.Parser

variable {T T' x y s s' rest t bad : List Char} {n : Nat} {c : Char}

/-- The places that have the same text of fewer than `n` characters in front of both tails.
From one of them a reader may go on if blanks lead neither into the tail nor to one of the
given signs. -/
def inFront (n : Nat) (bad T T' : List Char) : Matching where
  Pair s s' := ∃ x, x.length < n ∧ s = x ++ T ∧ s' = x ++ T'
  Open s := T.length ≤ (skipBlank s).length ∧ ∀ c, (skipBlank s).head? = some c → c ∉ bad
  between {s s' rest rest' mid} hs hrest hbehind hbefore := by
    obtain ⟨x, hx, rfl, rfl⟩ := hs
    obtain ⟨y, -, rfl, rfl⟩ := hrest
    obtain ⟨z, rfl⟩ := hbehind
    refine ⟨z ++ y ++ T', z ++ y, ?_, by simp, rfl⟩
    have hle := hbefore.length_le
    simp only [List.length_append] at hle ⊢
    omega

theorem inFront_pair (hx : x.length < n) : (inFront n bad T T').Pair (x ++ T) (x ++ T') :=
  ⟨x, hx, rfl, rfl⟩

theorem inFront_mono {m : Nat} (hle : n ≤ m) (h : (inFront n bad T T').Pair s s') :
    (inFront m bad T T').Pair s s' := by
  obtain ⟨x, hx, rfl, rfl⟩ := h
  exact inFront_pair (by omega)

/-- What stands behind the first of two texts is the rest of both. -/
theorem eq_append_of_tail (h : x ++ T = t ++ (y ++ T)) : x = t ++ y := by
  rw [← List.append_assoc] at h
  exact List.append_cancel_right h

variable (h : Tails T T') (hhash : '#' ∈ bad)

include h hhash

/-- Blanks end at matching places. Where the first text has nothing behind them, the second
one goes on with its tail. -/
theorem inFront_skip (hs : (inFront n bad T T').Pair s s') (hopen : (inFront n bad T T').Open s) :
    (∃ y, skipBlank s = y ++ T ∧ skipBlank s' = y ++ T' ∧ y ++ T ≠ [] ∧
      (inFront n bad T T').Pair (skipBlank s) (skipBlank s')) ∨
      skipBlank s = [] ∧ T = [] ∧ skipBlank s' = skipBlank T' := by
  obtain ⟨x, hx, rfl, rfl⟩ := hs
  have hne : (skipBlank (x ++ T)).head? ≠ some '#' := fun heq => hopen.2 '#' heq hhash
  obtain ⟨y, hy, hy'⟩ := h.skipBlank hopen.1 hne
  by_cases hnil : y ++ T = []
  · obtain ⟨rfl, rfl⟩ := List.append_eq_nil_iff.mp hnil
    exact .inr ⟨hy, rfl, by simpa using hy'⟩
  · rw [if_neg hnil] at hy'
    refine .inl ⟨y, hy, hy', hnil, y, ?_, hy, hy'⟩
    have hle := (skipBlank_suffix (x ++ T)).length_le
    rw [hy] at hle
    simp only [List.length_append] at hle
    omega

/-- A class of signs that no blank belongs to, and no sign of which can follow an ended
text, ends in front of both tails. -/
theorem inFront_stops {accepts : Char → Bool} (hjoin : T = [] → ∀ c, accepts c = true → c ∈ joiners)
    (hs : (inFront n bad T T').Pair s s') (hopen : (inFront n bad T T').Open s)
    (hstops : Stops accepts (skipBlank s)) : Stops accepts (skipBlank s') := by
  rcases inFront_skip h hhash hs hopen with ⟨y, hy, hy', hne, -⟩ | ⟨-, rfl, hskip⟩
  · have hhead : (y ++ T).head? = (y ++ T').head? := by
      cases y with
      | cons c y => rfl
      | nil =>
        rcases h.head with ⟨rfl, -⟩ | ⟨c, more, more', rfl, rfl, -⟩
        · simp at hne
        · rfl
    rw [hy] at hstops
    rw [hy']
    exact fun c hc => hstops c (hhead ▸ hc)
  · rcases h.head with ⟨-, more, rfl, hmore⟩ | ⟨c, more, -, hnil, -⟩
    · intro c hc
      have hfeed : skipBlank ('\n' :: more) = skipBlank more := by simp [skipBlank, skipFrom, isBlank]
      rw [hskip, hfeed] at hc
      cases haccepts : accepts c with
      | false => rfl
      | true => exact absurd (hjoin rfl c haccepts) (hmore c hc)
    · simp at hnil

section Lexeme

variable {α : Type} {p p' : Parser α}

/-- Blanks in front of a token lead to matching places. -/
theorem lexeme_in_front {a : α} (hshort : Shortens (lexeme p))
    (hbegins : ∀ s a rest, lexeme p s = .done a rest → ∀ c, (skipBlank s).head? = some c → c ∉ bad)
    (hs : (inFront n bad T T').Pair s s') (hread : lexeme p s = .done a rest)
    (hrest : T.length ≤ rest.length) :
    (inFront n bad T T').Open s ∧ (inFront n bad T T').Pair (skipBlank s) (skipBlank s') := by
  have hlt := hshort (skipBlank s) a rest (by rwa [lexeme, skipBlank_skipBlank])
  have hopen : (inFront n bad T T').Open s := ⟨by omega, hbegins s a rest hread⟩
  rcases inFront_skip h hhash hs hopen with ⟨-, -, -, -, hpair⟩ | ⟨hnil, -⟩
  · exact ⟨hopen, hpair⟩
  · simp [hnil] at hlt

theorem tracks_lexeme (hadvances : Advances (lexeme p)) (hshort : Shortens (lexeme p))
    (hbegins : ∀ s a rest, lexeme p s = .done a rest → ∀ c, (skipBlank s).head? = some c → c ∉ bad)
    (hp : Copies (inFront n bad T T') p p') :
    Tracks (inFront n bad T T') (lexeme p) (lexeme p') id where
  advances := hadvances
  done {s s' rest a} hs hread hrest := by
    obtain ⟨y, -, hy, -⟩ := hrest.1.choose_spec
    obtain ⟨hopen, hpair⟩ := lexeme_in_front h hhash hshort hbegins hs hread (by simp [hy])
    obtain ⟨rest', hread', hlast⟩ := hp hpair hread hrest
    exact ⟨hopen, rest', hread', hlast⟩

/-- A token that is missed for the character in front. -/
theorem spares_lexeme {q : Parser α} (accepts : Char → Bool)
    (hjoin : T = [] → ∀ c, accepts c = true → c ∈ joiners)
    (hp : ∀ s, Fails p s → Stops accepts s) (hq : ∀ s, Stops accepts s → Fails q s) :
    Spares (inFront n bad T T') (lexeme p) (lexeme q) :=
  fun _ _ hs hopen hfails => hq _ (inFront_stops h hhash hjoin hs hopen (hp _ hfails))

end Lexeme

omit h hhash

section Raw

variable {α β : Type} {p p' : Parser α}

/-- A parser takes a text in front of both tails if it takes that text wherever it may stop
in front of the second one. -/
theorem copies_of_text (hp : ∀ s a rest, p s = .done a rest → ∃ t, s = t ++ rest ∧
      ∀ y, rest = y ++ T → (inFront n bad T T').Open rest → p' (t ++ (y ++ T')) = .done a (y ++ T')) :
    Copies (inFront n bad T T') p p' := by
  rintro s s' a rest ⟨x, hx, rfl, rfl⟩ hread ⟨⟨_, y, -, rfl, -⟩, hopen⟩
  obtain ⟨t, hsplit, hread'⟩ := hp _ a _ hread
  obtain rfl := eq_append_of_tail hsplit
  refine ⟨y ++ T', ?_, y, ?_, rfl, rfl⟩
  · rw [List.append_assoc]
    exact hread' y rfl hopen
  · rw [List.length_append] at hx
    omega

/-- What is read alike up to more places is read alike up to fewer. -/
theorem copies_mono {bad' : List Char} {p p' : Parser α} (hsub : ∀ c ∈ bad, c ∈ bad')
    (hp : Copies (inFront n bad T T') p p') : Copies (inFront n bad' T T') p p' := by
  intro s s' a rest hs hread ⟨hpair, hlength, hhead⟩
  exact hp hs hread ⟨hpair, hlength, fun c hc hmem => hhead c hc (hsub c hmem)⟩

theorem copies_satisfy (accepts : Char → Bool) :
    Copies (inFront n bad T T') (satisfy accepts) (satisfy accepts) := by
  refine copies_of_text fun s c rest hread => ?_
  obtain ⟨rfl, hc⟩ := satisfy_eq_done.mp hread
  exact ⟨[c], rfl, fun y _ _ => satisfy_eq_done.mpr ⟨rfl, hc⟩⟩

theorem copies_char (c : Char) : Copies (inFront n bad T T') (char c) (char c) := by
  refine copies_of_text fun s d rest hread => ?_
  obtain ⟨rfl, rfl⟩ := char_eq_done.mp hread
  exact ⟨[d], rfl, fun y _ _ => char_eq_done.mpr ⟨rfl, rfl⟩⟩

/-- What follows the first character of a token is shorter. -/
theorem copies_deeper {f f' : α → Parser β} (hadvances : Advances p) (hshort : Shortens p)
    (hp : Copies (inFront (n + 1) bad T T') p p')
    (hf : ∀ a, Tracks (inFront n bad T T') (f a) (f' a) id) :
    Copies (inFront (n + 1) bad T T') (p >>= f) (p' >>= f') := by
  have hinner : ∀ {s s' mid mid' : List Char} {a : α}, (inFront (n + 1) bad T T').Pair s s' →
      p s = .done a mid → (inFront (n + 1) bad T T').Pair mid mid' →
      (inFront n bad T T').Pair mid mid' := by
    rintro s s' _ _ a ⟨x, hx, rfl, rfl⟩ hread ⟨z, -, rfl, rfl⟩
    have hlt := hshort _ a _ hread
    simp only [List.length_append] at hlt
    exact inFront_pair (by omega)
  intro s s' b rest hs hread hrest
  obtain ⟨a, mid, ha, hb⟩ := bind_eq_done.mp hread
  have hbefore := hadvances.suffix ha
  have hbehind := (hf a).advances.suffix hb
  obtain ⟨other, hother⟩ := (inFront (n + 1) bad T T').between hs hrest.1.choose_spec hbehind hbefore
  have hends : (inFront n bad T T').Ends rest := by
    obtain ⟨⟨_, y, -, rfl, -⟩, hopen⟩ := hrest
    obtain ⟨z, hz, rfl, -⟩ := hinner hs ha hother
    have hle := hbehind.length_le
    simp only [List.length_append] at hle
    exact ⟨⟨_, inFront_pair (by omega)⟩, hopen⟩
  have hopen := ((hf a).done (hinner hs ha hother) hb hends).1
  obtain ⟨mid', ha', hpair⟩ := hp hs ha ⟨⟨other, hother⟩, hopen⟩
  obtain ⟨-, rest', hb', hlast⟩ := (hf a).done (hinner hs ha hpair) hb hends
  exact ⟨rest', bind_eq_done.mpr ⟨a, mid', ha', hb'⟩, inFront_mono (by omega) hlast⟩

theorem copies_takeWhile1 (h : Tails T T') {accepts : Char → Bool}
    (haccepts : [' ', '\t', '\r', '\n', '#'].all (fun c => !accepts c) = true) :
    Copies (inFront n bad T T') (takeWhile1 accepts) (takeWhile1 accepts) := by
  refine copies_of_text fun s run rest hread => ?_
  obtain ⟨rfl, hne, hall, hstops⟩ := takeWhile1_eq_done.mp hread
  refine ⟨run, rfl, ?_⟩
  rintro y rfl -
  exact takeWhile1_append hall hne ((h.stops haccepts y).mp hstops)

theorem copies_quoted (h : Tails T T') : Copies (inFront n bad T T') quoted quoted := by
  refine copies_of_text fun s body rest hread => ?_
  obtain ⟨rfl, hbody⟩ := quoted_eq_done hread
  have hends := quoted_ends hread
  refine ⟨'"' :: body ++ ['"'], by simp, ?_⟩
  rintro y rfl -
  simpa using quoted_append hbody (h.head_ne (by decide) hends)

end Raw

section Signs

variable (h : Tails T T') (hhash : '#' ∈ bad)

include h hhash

theorem tracks_char (hc : c ∉ bad) :
    Tracks (inFront n bad T T') (lexeme (char c)) (lexeme (char c)) id := by
  refine tracks_lexeme h hhash (advances_lexeme (advances_char c))
    (shortens_lexeme (shortens_char c)) ?_ (copies_char c)
  intro s a rest hread d hd
  obtain ⟨hsplit, -⟩ := char_eq_done.mp hread
  obtain rfl : c = d := by simpa [hsplit] using hd
  exact hc

theorem spares_char (hjoin : T = [] → c ∈ joiners) :
    Spares (inFront n bad T T') (lexeme (char c)) (lexeme (char c)) := by
  refine spares_lexeme h hhash (· == c) (fun hnil d hd => ?_) (fun s hfails d hd => ?_)
    fun s hstops => char_fails fun heq => ?_
  · obtain rfl : d = c := by simpa using hd
    exact hjoin hnil
  · obtain ⟨more, rfl⟩ := List.head?_eq_some_iff.mp hd
    exact beq_eq_false_iff_ne.mpr fun heq => hfails.not_done
      (char_eq_done.mpr ⟨by rw [heq], rfl⟩)
  · simpa using hstops c heq

theorem tracks_quoted (hquote : '"' ∉ bad) :
    Tracks (inFront n bad T T') (lexeme quoted) (lexeme quoted) id := by
  refine tracks_lexeme h hhash (advances_lexeme advances_quoted) (shortens_lexeme shortens_quoted)
    ?_ (copies_quoted h)
  intro s a rest hread d hd
  obtain ⟨hsplit, -⟩ := quoted_eq_done hread
  obtain rfl : '"' = d := by simpa [hsplit] using hd
  exact hquote

end Signs

end ListingGrid.Grammar
