import ListingGrid.Pattern.Syntax
import ListingGrid.Proofs.Text.Letters
import Mathlib.Data.List.TakeWhile

/-!
# Patterns with a tail behind them

The text of a pattern may be put in front of a closing parenthesis and more. A reader that reads a
text to some place reads the longer text to the same place. A reader that refuses a text refuses the
longer one as well or reads on into the tail. In verbose patterns, a comment at the end of the text
takes the tail with it.
-/

set_option autoImplicit false

namespace ListingGrid.Pattern

/-- What stands behind a pattern: nothing, or a closing parenthesis and what asks for the end of the
text. -/
structure Tail where
  chars : List Char
  closes : ∀ c ∈ chars.head?, c = ')'
  plain : ∀ c ∈ chars, c = ')' ∨ c = '$'

/-- Whether two texts differ in the tail behind the first one, or both have come to their end. -/
def Along (tail : Tail) (s s' : List Char) : Prop := s' = s ++ tail.chars ∨ s = [] ∧ s' = []

structure Shortens (r s : List Char) : Prop where
  suffix : r <:+ s
  shorter : r.length < s.length

def Past (tail : Tail) (r : List Char) : Prop := Shortens r tail.chars

def Reached (tail : Tail) (r : List Char) : Prop := r <:+ tail.chars ∧ tail.chars ≠ []

structure Gives {β : Type} (x : Except PatternError β) (P : β → Prop) : Prop where
  holds : ∀ b, x = .ok b → P b

/-- How reading a longer text follows reading a text: what is read is alike, both are refused, or
only the longer one is read, in a way that is said. -/
inductive Follows {β : Type} (Alike : β → β → Prop) (Apart : β → Prop) :
    Except PatternError β → Except PatternError β → Prop where
  | ok {b b' : β} (h : Alike b b') : Follows Alike Apart (.ok b) (.ok b')
  | fails (e e' : PatternError) : Follows Alike Apart (.error e) (.error e')
  | apart (e : PatternError) {b' : β} (h : Apart b') : Follows Alike Apart (.error e) (.ok b')

def SameUpTo (tail : Tail) {α : Type} (b b' : α × List Char) : Prop :=
  b'.1 = b.1 ∧ Along tail b.2 b'.2

variable {tail : Tail} {s s' r r' : List Char} {c : Char}

namespace Shortens

theorem of_cons (h : r <:+ s) (c : Char) : Shortens r (c :: s) :=
  ⟨h.trans (List.suffix_cons c s), by simpa using Nat.lt_succ_of_le h.length_le⟩

theorem of_suffix (h : Shortens r s) (hs : s <:+ s') : Shortens r s' :=
  ⟨h.suffix.trans hs, Nat.lt_of_lt_of_le h.shorter hs.length_le⟩

theorem suffix_of (h : s <:+ r) (hs : Shortens r s') : Shortens s s' :=
  ⟨h.trans hs.suffix, Nat.lt_of_le_of_lt h.length_le hs.shorter⟩

theorem trans {t : List Char} (h : Shortens r s) (hs : Shortens s t) : Shortens r t :=
  h.of_suffix hs.suffix

theorem ne_nil (h : Shortens r s) : s ≠ [] :=
  List.ne_nil_of_length_pos (Nat.zero_lt_of_lt h.shorter)

end Shortens

theorem Past.reached (h : Past tail r) : Reached tail r := ⟨h.suffix, Shortens.ne_nil h⟩

theorem Reached.past (h : Reached tail s) (hr : Shortens r s) : Past tail r := hr.of_suffix h.1

theorem Reached.suffix (h : Reached tail s) (hr : r <:+ s) : Reached tail r := ⟨hr.trans h.1, h.2⟩

theorem Past.suffix (h : Past tail s) (hr : r <:+ s) : Past tail r := Shortens.suffix_of hr h

theorem skipSpace_suffix (verbose inComment : Bool) (s : List Char) :
    skipSpace verbose s inComment <:+ s := by
  induction s generalizing inComment with
  | nil => exact List.suffix_refl []
  | cons c rest ih =>
    rw [skipSpace]
    split
    · exact List.suffix_refl _
    · split
      · exact (ih _).trans (List.suffix_cons c rest)
      · split
        · exact (ih _).trans (List.suffix_cons c rest)
        · split
          · exact (ih _).trans (List.suffix_cons c rest)
          · exact List.suffix_refl _

theorem next_shortens (flags : Flags) (c : Char) (s : List Char) :
    Shortens (next flags (c :: s)) (c :: s) := .of_cons (skipSpace_suffix ..) c

namespace Along

theorem append (tail : Tail) (s : List Char) : Along tail s (s ++ tail.chars) := .inl rfl

theorem ended (tail : Tail) : Along tail [] [] := .inr ⟨rfl, rfl⟩

theorem uncons (h : Along tail (c :: s) s') : ∃ r', s' = c :: r' ∧ Along tail s r' := by
  rcases h with rfl | ⟨h, -⟩
  · exact ⟨s ++ tail.chars, rfl, .inl rfl⟩
  · exact nomatch h

/-- At the end of a text the longer one is at its end, or at the closing parenthesis. -/
theorem unnil (h : Along tail [] s') :
    s' = [] ∨ Reached tail s' ∧ ∃ t, s' = ')' :: t := by
  rcases h with rfl | ⟨-, rfl⟩
  · cases htail : tail.chars with
    | nil => exact .inl rfl
    | cons c t =>
      obtain rfl := tail.closes c (by simp [htail])
      exact .inr ⟨⟨by simp [htail], by simp [htail]⟩, t, rfl⟩
  · exact .inl rfl

/-- Both texts have come to their end, the longer one is at the closing parenthesis, or both go on
with the same character. -/
theorem cases (h : Along tail s s') :
    s = [] ∧ s' = [] ∨ s = [] ∧ Reached tail s' ∧ (∃ t, s' = ')' :: t) ∨
      ∃ c r r', s = c :: r ∧ s' = c :: r' ∧ Along tail r r' := by
  cases s with
  | nil =>
    rcases h.unnil with rfl | hclose
    · exact .inl ⟨rfl, rfl⟩
    · exact .inr (.inl ⟨rfl, hclose⟩)
  | cons c r =>
    obtain ⟨r', rfl, hr⟩ := h.uncons
    exact .inr (.inr ⟨c, r, r', rfl, rfl, hr⟩)

theorem head? {d : Char} (h : Along tail s s') (hd : d ≠ ')') :
    s'.head? = some d ↔ s.head? = some d := by
  rcases h.cases with ⟨rfl, rfl⟩ | ⟨rfl, -, t, rfl⟩ | ⟨c, r, r', rfl, rfl, -⟩
  · rfl
  · simp [hd.symm]
  · rfl

/-- No character of the tail is another one than the closing parenthesis and the dollar sign. -/
theorem unnil_all (h : Along tail [] s') {p : Char → Bool} (hclose : p ')' = true)
    (hdollar : p '$' = true) : ∀ c ∈ s', p c = true := by
  intro c hc
  rcases h with rfl | ⟨-, rfl⟩
  · rcases tail.plain c hc with rfl | rfl
    · exact hclose
    · exact hdollar
  · exact nomatch hc

end Along

theorem skipSpace_comment {t : List Char} (h : ∀ c ∈ t, (c != '\n') = true) :
    skipSpace true t true = [] := by
  induction t with
  | nil => rfl
  | cons c rest ih =>
    rw [skipSpace, h c List.mem_cons_self]
    exact ih fun d hd => h d (List.mem_cons_of_mem c hd)

theorem skipSpace_close (verbose : Bool) (t : List Char) :
    skipSpace verbose (')' :: t) false = ')' :: t := by
  cases verbose <;> rfl

theorem Along.skipSpace (h : Along tail s s') (verbose inComment : Bool) :
    Along tail (skipSpace verbose s inComment) (skipSpace verbose s' inComment) := by
  induction s generalizing s' inComment with
  | nil =>
    have h' := h
    rcases h.unnil with rfl | ⟨-, t, rfl⟩
    · exact .ended tail
    · cases inComment with
      | false => rwa [skipSpace_close]
      | true =>
        cases verbose with
        | false => exact h'
        | true =>
          rw [skipSpace_comment (h'.unnil_all rfl rfl)]
          exact .ended tail
  | cons c rest ih =>
    obtain ⟨rest', rfl, hrest⟩ := h.uncons
    rw [Pattern.skipSpace, Pattern.skipSpace]
    split
    · exact h
    · split
      · exact ih hrest _
      · split
        · exact ih hrest _
        · split
          · exact ih hrest _
          · exact h

theorem Along.next (h : Along tail s s') (flags : Flags) (c : Char) :
    Along tail (next flags (c :: s)) (next flags (c :: s')) :=
  h.skipSpace flags.verbose false

/-- Where one character ends a part of a text that no character of the tail ends, the part is the
same, or it goes up to the end. -/
theorem Along.span (h : Along tail s s') {p : Char → Bool} (hclose : p ')' = true)
    (hdollar : p '$' = true) :
    s.dropWhile p = [] ∧ s'.dropWhile p = [] ∨
      s'.takeWhile p = s.takeWhile p ∧ s.dropWhile p ≠ [] ∧
        Along tail (s.dropWhile p) (s'.dropWhile p) := by
  induction s generalizing s' with
  | nil =>
    exact .inl ⟨rfl, List.dropWhile_eq_nil_iff.mpr (h.unnil_all hclose hdollar)⟩
  | cons c rest ih =>
    obtain ⟨rest', rfl, hrest⟩ := h.uncons
    simp only [List.dropWhile_cons, List.takeWhile_cons]
    split
    · rw [List.cons_inj_right]
      exact ih hrest
    · exact .inr ⟨rfl, List.cons_ne_nil c rest, h⟩

theorem Along.dropWhile_isSpace (h : Along tail s s') :
    Along tail (s.dropWhile Text.isSpace) (s'.dropWhile Text.isSpace) := by
  induction s generalizing s' with
  | nil =>
    rcases h.unnil with rfl | ⟨-, t, rfl⟩
    · exact h
    · exact h
  | cons c rest ih =>
    obtain ⟨rest', rfl, hrest⟩ := h.uncons
    rw [List.dropWhile_cons, List.dropWhile_cons]
    split
    · exact ih hrest
    · exact h

section Results

variable {β γ : Type} {x x' : Except PatternError β} {f f' : β → Except PatternError γ}
  {P : β → Prop} {Q : γ → Prop} {Alike : β → β → Prop} {Apart : β → Prop}
  {Alike' : γ → γ → Prop} {Apart' : γ → Prop}

theorem gives_ok {b : β} (h : P b) : Gives (.ok b) P := ⟨fun _ hb => Except.ok.inj hb ▸ h⟩

theorem gives_error (e : PatternError) : Gives (.error e) P := ⟨fun _ h => nomatch h⟩

theorem Gives.bind (h : Gives x P) (hf : ∀ b, P b → Gives (f b) Q) : Gives (x >>= f) Q := by
  cases x with
  | error e => exact gives_error e
  | ok b => exact hf b (h.holds b rfl)

theorem Gives.mono {P' : β → Prop} (h : Gives x P) (hP : ∀ b, P b → P' b) : Gives x P' :=
  ⟨fun b hb => hP b (h.holds b hb)⟩

/-- A text that is refused is followed by whatever is read only apart. -/
theorem Follows.of_error (e : PatternError) (h : Gives x' Apart) :
    Follows Alike Apart (.error e) x' := by
  cases x' with
  | error e' => exact .fails e e'
  | ok b' => exact .apart e (h.holds b' rfl)

theorem Follows.bind (h : Follows Alike Apart x x')
    (halike : ∀ b b', Alike b b' → Follows Alike' Apart' (f b) (f' b'))
    (hapart : ∀ b', Apart b' → Gives (f' b') Apart') :
    Follows Alike' Apart' (x >>= f) (x' >>= f') := by
  cases h with
  | ok h => exact halike _ _ h
  | fails e e' => exact .fails e e'
  | apart e h => exact .of_error e (hapart _ h)

/-- What is known of all that is read is known of what is read alike. -/
theorem Follows.both {P' : β → Prop} (h : Follows Alike Apart x x') (hx : Gives x P)
    (hx' : Gives x' P') : Follows (fun b b' => Alike b b' ∧ P b ∧ P' b') Apart x x' := by
  cases h with
  | ok h => exact .ok ⟨h, hx.holds _ rfl, hx'.holds _ rfl⟩
  | fails e e' => exact .fails e e'
  | apart e h => exact .apart e h

theorem rel_bind {α β γ δ : Type} {R : α → β → Prop} {S : γ → δ → Prop} {x : Option α}
    {x' : Option β} {f : α → Option γ} {f' : β → Option δ} (h : Option.Rel R x x')
    (hf : ∀ a b, R a b → Option.Rel S (f a) (f' b)) : Option.Rel S (x.bind f) (x'.bind f') := by
  cases h with
  | none => exact .none
  | some h => exact hf _ _ h

theorem rel_or {α β : Type} {R : α → β → Prop} {x y : Option α} {x' y' : Option β}
    (hx : Option.Rel R x x') (hy : Option.Rel R y y') :
    Option.Rel R (x.or y) (x'.or y') := by
  cases hx with
  | none => exact hy
  | some h => exact .some h

theorem Follows.mono {Apart'' : β → Prop} (h : Follows Alike Apart x x')
    (hapart : ∀ b', Apart b' → Apart'' b') : Follows Alike Apart'' x x' := by
  cases h with
  | ok h => exact .ok h
  | fails e e' => exact .fails e e'
  | apart e h => exact .apart e (hapart _ h)

end Results

end ListingGrid.Pattern
