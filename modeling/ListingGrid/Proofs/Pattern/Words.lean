import ListingGrid.Pattern.Build
import ListingGrid.Proofs.Pattern.Matches
import Mathlib.Computability.Language

/-!
# The words of a pattern

A pattern without conditions on positions stands for a language: a match is a word of it, wherever
the word stands. Patterns that are put together in their plainest form stand for the languages that
they were put together from, and a pattern between the start and the end of a text matches just the
texts that are words.
-/

set_option autoImplicit false

namespace ListingGrid.Pattern

def Between (L : Language Char) (text : List Char) (i j : Nat) : Prop :=
  ∃ a w b, text = a ++ (w ++ b) ∧ a.length = i ∧ (a ++ w).length = j ∧ w ∈ L

def Describes (p : Pattern) (L : Language Char) : Prop :=
  ∀ (text : List Char) (i j : Nat), i ≤ text.length →
    (Matches text.toArray p i j ↔ Between L text i j)

variable {text : List Char} {i j : Nat} {L M : Language Char} {p q : Pattern}

theorem between_one (hi : i ≤ text.length) : Between 1 text i j ↔ i = j := by
  constructor
  · rintro ⟨a, w, b, -, rfl, rfl, hw⟩
    simp [(Language.mem_one w).mp hw]
  · rintro rfl
    exact ⟨text.take i, [], text.drop i, by simp, by simpa using hi, by simpa using hi,
      Language.nil_mem_one⟩

theorem between_mul : Between (L * M) text i j ↔ ∃ k, Between L text i k ∧ Between M text k j := by
  constructor
  · rintro ⟨a, w, b, rfl, rfl, rfl, hw⟩
    obtain ⟨u, hu, v, hv, rfl⟩ := Language.mem_mul.mp hw
    exact ⟨(a ++ u).length, ⟨a, u, v ++ b, by simp, rfl, rfl, hu⟩, a ++ u, v, b, by simp, rfl,
      by simp, hv⟩
  · rintro ⟨k, ⟨a, u, b, rfl, rfl, rfl, hu⟩, a', v, c, htext, hlength, rfl, hv⟩
    rw [← List.append_assoc] at htext
    obtain ⟨rfl, rfl⟩ := List.append_inj htext hlength.symm
    exact ⟨a, u ++ v, c, by simp, rfl, by simp, Language.append_mem_mul hu hv⟩

theorem Between.le_length (h : Between L text i j) : j ≤ text.length := by
  obtain ⟨a, w, b, rfl, -, rfl, -⟩ := h
  simp only [List.length_append]
  omega

theorem describes_empty : Describes .empty 1 := fun _ _ _ hi => (between_one hi).symm

/-- What the text holds in front of a position, at it and behind it. -/
theorem exists_append_of_getElem? {c : Char} (h : text[i]? = some c) :
    ∃ a b, text = a ++ c :: b ∧ a.length = i := by
  obtain ⟨hi, rfl⟩ := List.getElem?_eq_some_iff.mp h
  exact ⟨text.take i, text.drop (i + 1), by simp, by simp [Nat.min_eq_left (Nat.le_of_lt hi)]⟩

theorem describes_chars (set : CharSet) :
    Describes (.chars set) {w | ∃ c, set.contains c = true ∧ w = [c]} := by
  intro text i j _
  rw [Matches, setEnd?_eq_some, List.getElem?_toArray]
  constructor
  · rintro ⟨rfl, c, hc, hset⟩
    obtain ⟨a, b, rfl, rfl⟩ := exists_append_of_getElem? hc
    exact ⟨a, [c], b, rfl, rfl, by simp, c, hset, rfl⟩
  · rintro ⟨a, w, b, rfl, rfl, rfl, c, hset, rfl⟩
    exact ⟨by simp, c, by simp, hset⟩

theorem literalEnd?_append (text : Array Char) (s t : List Char) (i : Nat) :
    literalEnd? text (s ++ t) i = (literalEnd? text s i).bind (literalEnd? text t) := by
  induction s generalizing i with
  | nil => rfl
  | cons c rest ih =>
    rw [List.cons_append, literalEnd?, literalEnd?]
    split
    · exact ih (i + 1)
    · rfl

theorem describes_character (c : Char) : Describes (.literal [c]) {[c]} := by
  intro text i j _
  have hmatch : Matches text.toArray (.literal [c]) i j ↔ j = i + 1 ∧ text[i]? = some c := by
    rw [Matches, literalEnd?_eq_some]
    simp
  rw [hmatch]
  constructor
  · rintro ⟨rfl, hc⟩
    obtain ⟨a, b, rfl, rfl⟩ := exists_append_of_getElem? hc
    exact ⟨a, [c], b, rfl, rfl, by simp, rfl⟩
  · rintro ⟨a, w, b, rfl, rfl, rfl, hw⟩
    obtain rfl : w = [c] := hw
    exact ⟨by simp, by simp⟩

theorem describes_literal (cs : List Char) : Describes (.literal cs) {cs} := by
  induction cs with
  | nil =>
    intro text i j hi
    exact (show Matches text.toArray (.literal []) i j ↔ i = j by simp [Matches, literalEnd?]).trans
      (between_one hi).symm
  | cons c rest ih =>
    intro text i j hi
    have hlanguage : ({c :: rest} : Language Char) = {[c]} * {rest} := by
      refine Language.ext fun w => ?_
      rw [Language.mem_mul]
      constructor
      · intro hw
        obtain rfl : w = c :: rest := hw
        exact ⟨[c], rfl, rest, rfl, rfl⟩
      · rintro ⟨a, ha, b, hb, rfl⟩
        obtain rfl : a = [c] := ha
        obtain rfl : b = rest := hb
        rfl
    rw [hlanguage, between_mul, Matches, ← List.singleton_append, literalEnd?_append,
      Option.bind_eq_some_iff]
    refine exists_congr fun k => ?_
    rw [← describes_character c text i k hi]
    refine and_congr_right fun hk => ih text k j ?_
    simpa using literalEnd?_le (by simpa using hi) hk

theorem Describes.seq (hp : Describes p L) (hq : Describes q M) : Describes (.seq p q) (L * M) := by
  intro text i j hi
  rw [between_mul, Matches]
  refine exists_congr fun k => ?_
  rw [hp text i k hi]
  exact and_congr_right fun hk => hq text k j hk.le_length

theorem Describes.steps (hp : Describes p L) {n : Nat} (hi : i ≤ text.length) :
    Steps (Matches text.toArray p) n i j ↔ Between (L ^ n) text i j := by
  induction n generalizing i with
  | zero => rw [pow_zero, between_one hi, Steps]
  | succ n ih =>
    rw [pow_succ', between_mul, Steps]
    refine exists_congr fun k => ?_
    rw [hp text i k hi]
    exact and_congr_right fun hk => ih hk.le_length

def repeatedWords (L : Language Char) (least : Nat) (most : Option Nat) : Language Char :=
  {w | ∃ n, least ≤ n ∧ (∀ m ∈ most, n ≤ max least m) ∧ w ∈ L ^ n}

theorem Describes.repeated (hp : Describes p L) (least : Nat) (most : Option Nat) (greedy : Bool) :
    Describes (.repeated p least most greedy) (repeatedWords L least most) := by
  intro text i j hi
  rw [Matches]
  constructor
  · rintro ⟨n, hleast, hmost, hsteps⟩
    obtain ⟨a, w, b, rfl, rfl, rfl, hw⟩ := (hp.steps hi).mp hsteps
    exact ⟨a, w, b, rfl, rfl, rfl, n, hleast, hmost, hw⟩
  · rintro ⟨a, w, b, rfl, rfl, rfl, n, hleast, hmost, hw⟩
    exact ⟨n, hleast, hmost, (hp.steps hi).mpr ⟨a, w, b, rfl, rfl, rfl, hw⟩⟩

section Sequences

variable {text : Array Char}

theorem matches_before (p q : Pattern) :
    Matches text (before p q) i j ↔ ∃ k, Matches text p i k ∧ Matches text q k j := by
  unfold before
  split
  · simp [Matches]
  · simp [Matches]
  · rw [Matches, literalEnd?_append, Option.bind_eq_some_iff]
    rfl
  · simp only [Matches, literalEnd?_append, Option.bind_eq_some_iff]
    constructor
    · rintro ⟨l, ⟨k, hk, hl⟩, hq⟩
      exact ⟨k, hk, l, hl, hq⟩
    · rintro ⟨k, hk, l, hl, hq⟩
      exact ⟨l, ⟨k, hk, hl⟩, hq⟩
  · rfl

theorem matches_followedBy (p q : Pattern) :
    Matches text (followedBy p q) i j ↔ ∃ k, Matches text p i k ∧ Matches text q k j := by
  induction p generalizing i with
  | seq a b _ ihb =>
    rw [followedBy, matches_before]
    simp only [ihb, Matches]
    constructor
    · rintro ⟨k, hk, l, hl, hq⟩
      exact ⟨l, ⟨k, hk, hl⟩, hq⟩
    · rintro ⟨l, ⟨k, hk, hl⟩, hq⟩
      exact ⟨k, hk, l, hl, hq⟩
  | _ => exact matches_before ..

theorem matches_inOrder_cons (p : Pattern) (parts : List Pattern) :
    Matches text (inOrder (p :: parts)) i j ↔
      ∃ k, Matches text p i k ∧ Matches text (inOrder parts) k j :=
  matches_followedBy ..

theorem matches_inOrder_append (parts more : List Pattern) :
    Matches text (inOrder (parts ++ more)) i j ↔
      ∃ k, Matches text (inOrder parts) i k ∧ Matches text (inOrder more) k j := by
  induction parts generalizing i with
  | nil => simp [inOrder, Matches]
  | cons p parts ih =>
    rw [List.cons_append, matches_inOrder_cons]
    simp only [ih, matches_inOrder_cons]
    constructor
    · rintro ⟨k, hk, l, hl, hmore⟩
      exact ⟨l, ⟨k, hk, hl⟩, hmore⟩
    · rintro ⟨l, ⟨k, hk, hl⟩, hmore⟩
      exact ⟨k, hk, l, hl, hmore⟩

end Sequences

theorem describes_inOrder_nil : Describes (inOrder []) 1 := describes_empty

theorem Describes.inOrder_cons {parts : List Pattern} (hp : Describes p L)
    (hparts : Describes (inOrder parts) M) : Describes (inOrder (p :: parts)) (L * M) := by
  intro text i j hi
  rw [matches_inOrder_cons]
  exact hp.seq hparts text i j hi

theorem Describes.inOrder_append {parts more : List Pattern} (hparts : Describes (inOrder parts) L)
    (hmore : Describes (inOrder more) M) : Describes (inOrder (parts ++ more)) (L * M) := by
  intro text i j hi
  rw [matches_inOrder_append]
  exact hparts.seq hmore text i j hi

/-- Between the start and the end of a text only the whole text matches. -/
theorem isMatch_whole {parts : List Pattern} (h : Describes (inOrder parts) L) (text : List Char) :
    isMatch (inOrder (.look .textStart :: parts ++ [.look .textEnd])) text = true ↔ text ∈ L := by
  rw [isMatch_iff]
  simp only [matches_inOrder_append, matches_inOrder_cons]
  have hbetween : Between L text 0 text.length ↔ text ∈ L := by
    constructor
    · rintro ⟨a, w, b, rfl, ha, hlength, hw⟩
      obtain rfl := List.length_eq_zero_iff.mp ha
      have hb : b = [] := by
        rw [← List.length_eq_zero_iff]
        simp only [List.length_append] at hlength
        omega
      simpa [hb] using hw
    · intro hw
      exact ⟨[], text, [], by simp, rfl, by simp, hw⟩
  rw [← hbetween, ← h text 0 text.length (Nat.zero_le _)]
  constructor
  · rintro ⟨i, -, j, k, ⟨i', ⟨rfl, hstart⟩, hparts⟩, k', ⟨rfl, hend⟩, -⟩
    have hi : i = 0 := beq_iff_eq.mp hstart
    have hk : k = text.toArray.size := beq_iff_eq.mp hend
    rw [hi, hk, List.size_toArray] at hparts
    exact hparts
  · intro hparts
    refine ⟨0, Nat.zero_le _, text.length, text.length, ⟨0, ⟨rfl, rfl⟩, hparts⟩, text.length,
      ⟨rfl, ?_⟩, rfl⟩
    simp [Look.holds]

end ListingGrid.Pattern
