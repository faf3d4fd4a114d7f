import ListingGrid.Proofs.Grammar.Reading
import ListingGrid.Proofs.Text.Letters

/-!
# Words and names

A given word is read in any letter case, a name as far as its characters go.
-/

set_option autoImplicit false

namespace ListingGrid.Grammar

open ListingGrid.Grammar.Parser

variable {s rest : List Char}

/-- A word whose characters are ASCII and not the letter that the sign for kelvin has in
lower case. -/
def IsPlainWord (text : List Char) : Prop := ∀ c ∈ text, c.toNat < 128 ∧ Text.lower c ≠ 'k'

instance (text : List Char) : Decidable (IsPlainWord text) := List.decidableBAll _ text

theorem sameLetter_iff {c letter : Char} (h : Text.lower letter ≠ 'k') :
    sameLetter c letter = true ↔ Text.lower c = Text.lower letter := by
  simp [sameLetter, h]

theorem utf8Size_of_lower {c letter : Char} (hletter : letter.toNat < 128)
    (h : Text.lower c = Text.lower letter) : c.utf8Size = 1 := by
  have hc : c.toNat < 128 := by
    have hlower := congrArg Char.toNat h
    rw [Text.toNat_lower, Text.toNat_lower] at hlower
    have hupper := @Text.isUpper_iff c
    have hupper' := @Text.isUpper_iff letter
    split at hlower <;> split at hlower <;> simp_all <;> omega
  rw [Char.utf8Size_eq_one_iff, UInt32.le_iff_toNat_le]
  exact Nat.le_of_lt_succ hc

theorem splitBytes?_lower {word text : List Char} (htext : ∀ c ∈ text, c.toNat < 128)
    (h : Text.lowerAll word = Text.lowerAll text) (rest : List Char) :
    splitBytes? (word ++ rest) text.length = some (word, rest) ∧
      ((word ++ rest).zip text).all (fun (c, letter) => sameLetter c letter) = true := by
  induction text generalizing word with
  | nil =>
    obtain rfl : word = [] := by simpa [Text.lowerAll] using h
    simp [splitBytes?]
  | cons letter more ih =>
    cases word with
    | nil => simp [Text.lowerAll] at h
    | cons c word =>
      obtain ⟨hletter, hmore⟩ := List.forall_mem_cons.mp htext
      simp only [Text.lowerAll, List.map_cons, List.cons.injEq] at h ih
      obtain ⟨hsplit, hall⟩ := ih hmore h.2
      have hsize := utf8Size_of_lower hletter h.1
      have hsame : sameLetter c letter = true := by simp [sameLetter, h.1]
      refine ⟨?_, ?_⟩
      · simp [splitBytes?, hsize, hsplit]
      · simp [hsame, hall]

theorem word_append {taken text : List Char} (htext : ∀ c ∈ text, c.toNat < 128)
    (h : Text.lowerAll taken = Text.lowerAll text) (rest : List Char) :
    word text (taken ++ rest) = .done taken rest := by
  obtain ⟨hsplit, hall⟩ := splitBytes?_lower htext h rest
  simp [word, hsplit, hall]

theorem lower_of_splitBytes? {text taken : List Char} (htext : IsPlainWord text)
    (hsplit : splitBytes? s text.length = some (taken, rest))
    (hall : (s.zip text).all (fun (c, letter) => sameLetter c letter) = true) :
    s = taken ++ rest ∧ Text.lowerAll taken = Text.lowerAll text := by
  induction text generalizing s taken with
  | nil =>
    obtain ⟨rfl, rfl⟩ : taken = [] ∧ rest = s := by simpa [splitBytes?, eq_comm] using hsplit
    exact ⟨rfl, rfl⟩
  | cons letter more ih =>
    cases s with
    | nil => simp [splitBytes?] at hsplit
    | cons c s =>
      obtain ⟨hletter, hmore⟩ := List.forall_mem_cons.mp htext
      simp only [List.zip_cons_cons, List.all_cons, Bool.and_eq_true] at hall
      have hc := (sameLetter_iff hletter.2).mp hall.1
      have hsize := utf8Size_of_lower hletter.1 hc
      simp only [List.length_cons, splitBytes?, hsize, Nat.le_add_left, if_true,
        Nat.add_sub_cancel, Option.map_eq_some_iff] at hsplit
      obtain ⟨⟨front, left⟩, hfront, hpair⟩ := hsplit
      obtain ⟨rfl, rfl⟩ : c :: front = taken ∧ left = rest := by simpa using hpair
      obtain ⟨rfl, hlower⟩ := ih hmore hfront hall.2
      exact ⟨rfl, by simp only [Text.lowerAll, List.map_cons] at hlower ⊢; rw [hc, hlower]⟩

theorem word_eq_done {text taken : List Char} (htext : IsPlainWord text) :
    word text s = .done taken rest ↔
      s = taken ++ rest ∧ Text.lowerAll taken = Text.lowerAll text := by
  unfold word
  constructor
  · intro h
    split at h
    · next front left hsplit =>
      split at h
      · next hall =>
        obtain ⟨rfl, rfl⟩ : front = taken ∧ left = rest := by simpa using h
        exact lower_of_splitBytes? htext hsplit hall
      · simp at h
    · simp at h
  · rintro ⟨rfl, hlower⟩
    exact word_append (fun c hc => (htext c hc).1) hlower rest

theorem word_settles (text : List Char) : Settles (word text) := by
  intro s
  unfold Fails word
  split
  · split
    · exact .inl ⟨_, _, rfl⟩
    · exact .inr ⟨_, rfl⟩
  · exact .inr ⟨_, rfl⟩

theorem word_fails {text : List Char} (htext : IsPlainWord text)
    (h : ∀ taken rest, s = taken ++ rest → Text.lowerAll taken ≠ Text.lowerAll text) :
    Fails (word text) s := by
  rcases word_settles text s with ⟨taken, rest, hdone⟩ | hfails
  · obtain ⟨hs, hlower⟩ := (word_eq_done htext).mp hdone
    exact absurd hlower (h taken rest hs)
  · exact hfails

/-- A word cannot be read where another character begins. -/
theorem word_fails_of_head {letter : Char} {text : List Char} (htext : IsPlainWord (letter :: text))
    (h : ∀ c, s.head? = some c → Text.lower c ≠ Text.lower letter) :
    Fails (word (letter :: text)) s := by
  refine word_fails htext ?_
  rintro taken rest rfl hlower
  cases taken with
  | nil => simp [Text.lowerAll] at hlower
  | cons c more =>
    simp only [Text.lowerAll, List.map_cons, List.cons.injEq] at hlower
    exact h c rfl hlower.1

/-- A word cannot be read where another one has begun. -/
theorem word_fails_of_front (front : List Char) {text : List Char} (htext : IsPlainWord text)
    (hlength : front.length ≤ text.length)
    (h : ¬Text.lowerAll front <+: Text.lowerAll text) (rest : List Char) :
    Fails (word text) (front ++ rest) := by
  refine word_fails htext fun taken left hsplit hlower => h ?_
  have hsize : taken.length = text.length := by
    simpa [Text.lowerAll] using congrArg List.length hlower
  have hprefix : front <+: taken := by
    refine List.prefix_of_prefix_length_le ?_ (List.prefix_append taken left) (by omega)
    exact hsplit ▸ List.prefix_append front rest
  exact hlower ▸ List.IsPrefix.map Text.lower hprefix

def startsName (c : Char) : Bool := Text.isLetter c || c == '_'

structure IsName (text : List Char) : Prop where
  head : ∃ c, text.head? = some c ∧ startsName c = true
  all : text.all Text.isWordChar = true

theorem isWordChar_of_startsName {c : Char} (h : startsName c = true) :
    Text.isWordChar c = true := by
  rcases (by simpa [startsName] using h) with hletter | rfl
  · exact Text.isWordChar_of_isLetter hletter
  · rfl

theorem IsName.ne_nil {text : List Char} (h : IsName text) : text ≠ [] := by
  rintro rfl
  obtain ⟨c, hc, -⟩ := h.head
  simp at hc

theorem identifier_append {text : List Char} (h : IsName text) (hrest : Stops Text.isWordChar rest) :
    identifier (text ++ rest) = .done text rest := by
  cases text with
  | nil => exact absurd rfl h.ne_nil
  | cons c more =>
    obtain ⟨d, hd, hstart⟩ := h.head
    obtain rfl : c = d := by simpa using hd
    have hall : more.all Text.isWordChar = true := by
      have hall := h.all
      simp only [List.all_cons, Bool.and_eq_true] at hall
      exact hall.2
    refine bind_eq_done.mpr ⟨c, more ++ rest, satisfy_eq_done.mpr ⟨rfl, hstart⟩, ?_⟩
    exact bind_eq_done.mpr ⟨more, rest, takeWhile_append hall hrest, rfl⟩

theorem identifier_eq_done {text : List Char} :
    identifier s = .done text rest ↔ s = text ++ rest ∧ IsName text ∧ Stops Text.isWordChar rest := by
  constructor
  · intro h
    simp only [identifier, bind_eq_done, pure_eq_done, satisfy_eq_done] at h
    obtain ⟨c, mid, ⟨rfl, hstart⟩, more, left, hmore, rfl, rfl⟩ := h
    simp only [takeWhile, Result.done.injEq] at hmore
    obtain ⟨rfl, rfl⟩ := hmore
    refine ⟨by simp [List.takeWhile_append_dropWhile], ⟨⟨c, rfl, hstart⟩, ?_⟩, ?_⟩
    · rw [List.all_cons, List.all_takeWhile, isWordChar_of_startsName hstart]
      rfl
    · intro d hd
      have hhead := List.head?_dropWhile_not Text.isWordChar mid
      simpa [hd] using hhead
  · rintro ⟨rfl, hname, hrest⟩
    exact identifier_append hname hrest

theorem identifier_fails (h : Stops startsName s) : Fails identifier s :=
  bind_fails.mpr (.inl (satisfy_fails h))

theorem identifier_settles : Settles identifier := by
  intro s
  cases s with
  | nil => exact .inr (identifier_fails (by simp [Stops]))
  | cons c more =>
    by_cases hc : startsName c = true
    · refine .inl ⟨c :: more.takeWhile Text.isWordChar, more.dropWhile Text.isWordChar, ?_⟩
      exact bind_eq_done.mpr ⟨c, more, satisfy_eq_done.mpr ⟨rfl, hc⟩, rfl⟩
    · exact .inr (identifier_fails (by simpa [Stops] using hc))

theorem takeBetween_append {least most : Nat} {accepts : Char → Bool} {run : List Char}
    (hrun : run.all accepts = true) (hleast : least ≤ run.length) (hmost : run.length ≤ most)
    (h : Stops accepts rest) : takeBetween least most accepts (run ++ rest) = .done run rest := by
  obtain ⟨htake, -⟩ := takeWhile_run hrun h
  unfold takeBetween
  simp only [htake, List.take_of_length_le hmost, List.drop_left]
  exact if_neg (by omega)

theorem takeBetween_eq_done {least most : Nat} {accepts : Char → Bool} {run : List Char}
    (h : takeBetween least most accepts s = .done run rest) :
    s = run ++ rest ∧ run.all accepts = true ∧ least ≤ run.length ∧ run.length ≤ most := by
  unfold takeBetween at h
  simp only at h
  split at h
  · simp at h
  · next hleast =>
    simp only [Result.done.injEq] at h
    obtain ⟨rfl, rfl⟩ := h
    have hprefix : (s.takeWhile accepts).take most <+: s :=
      (List.take_prefix ..).trans (List.takeWhile_prefix _)
    refine ⟨(List.prefix_iff_eq_append.mp hprefix).symm, ?_, by omega, List.length_take_le ..⟩
    · rw [List.all_eq_true]
      intro c hc
      exact List.all_eq_true.mp List.all_takeWhile c (List.mem_of_mem_take hc)

theorem takeBetween_settles (least most : Nat) (accepts : Char → Bool) :
    Settles (takeBetween least most accepts) := by
  intro s
  unfold Fails takeBetween
  simp only
  split
  · exact .inr ⟨_, rfl⟩
  · exact .inl ⟨_, _, rfl⟩

end ListingGrid.Grammar
