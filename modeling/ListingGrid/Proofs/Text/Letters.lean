import ListingGrid.Text.Ascii

/-!
# Classes of characters

The classes are ranges of character numbers, so what they have in common is arithmetic.
Letter case only changes letters.
-/

set_option autoImplicit false

namespace ListingGrid.Text

variable {c d : Char}

theorem isLower_iff : isLower c = true ↔ 97 ≤ c.toNat ∧ c.toNat ≤ 122 := by
  simp [isLower, Char.le_def, UInt32.le_iff_toNat_le]

theorem isUpper_iff : isUpper c = true ↔ 65 ≤ c.toNat ∧ c.toNat ≤ 90 := by
  simp [isUpper, Char.le_def, UInt32.le_iff_toNat_le]

theorem isDigit_iff : isDigit c = true ↔ 48 ≤ c.toNat ∧ c.toNat ≤ 57 := by
  simp [isDigit, Char.le_def, UInt32.le_iff_toNat_le]

theorem isLetter_iff : isLetter c = true ↔ isLower c = true ∨ isUpper c = true := by
  simp [isLetter]

theorem isAlphanumeric_iff : isAlphanumeric c = true ↔ isLetter c = true ∨ isDigit c = true := by
  simp [isAlphanumeric]

theorem isWordChar_iff : isWordChar c = true ↔ isAlphanumeric c = true ∨ c = '_' := by
  simp [isWordChar]

theorem isLetter_of_isUpper (h : isUpper c = true) : isLetter c = true := by simp [isLetter, h]

theorem isWordChar_of_isLetter (h : isLetter c = true) : isWordChar c = true := by
  simp [isWordChar, isAlphanumeric, h]

theorem isWordChar_of_isDigit (h : isDigit c = true) : isWordChar c = true := by
  simp [isWordChar, isAlphanumeric, h]

theorem isLetter_of_isDigit (h : isDigit c = true) : isLetter c = false := by
  rw [← Bool.not_eq_true, isLetter_iff, isLower_iff, isUpper_iff]
  rw [isDigit_iff] at h
  omega

theorem toNat_ofNat {n : Nat} (h : n < 128) : (Char.ofNat n).toNat = n := by
  have hvalid : n.isValidChar := .inl (by omega)
  rw [Char.ofNat, dif_pos hvalid]
  rfl

theorem toNat_upper : (upper c).toNat = if isLower c then c.toNat - 32 else c.toNat := by
  unfold upper
  split
  · next h =>
    rw [isLower_iff] at h
    exact toNat_ofNat (by omega)
  · rfl

theorem toNat_lower : (lower c).toNat = if isUpper c then c.toNat + 32 else c.toNat := by
  unfold lower
  split
  · next h =>
    rw [isUpper_iff] at h
    exact toNat_ofNat (by omega)
  · rfl

theorem isUpper_upper (h : isLetter c = true) : isUpper (upper c) = true := by
  rw [isLetter_iff] at h
  rw [isUpper_iff, toNat_upper]
  split
  · next hlower =>
    rw [isLower_iff] at hlower
    omega
  · next hlower => exact isUpper_iff.mp (h.resolve_left hlower)

theorem upper_of_not_lower (h : isLower c = false) : upper c = c := by simp [upper, h]

theorem isLower_of_isUpper (h : isUpper c = true) : isLower c = false := by
  rw [← Bool.not_eq_true, isLower_iff]
  rw [isUpper_iff] at h
  omega

theorem not_sign_of_isDigit (h : isDigit c = true) : ['+', '-'].contains c = false := by
  cases hmem : ['+', '-'].contains c with
  | false => rfl
  | true => rcases (by simpa using hmem : c = '+' ∨ c = '-') with rfl | rfl <;> simp [isDigit] at h

theorem isLower_of_isDigit (h : isDigit c = true) : isLower c = false := by
  rw [← Bool.not_eq_true, isLower_iff]
  rw [isDigit_iff] at h
  omega

/-- Capitals and lower case letters are told apart by nothing but their case. -/
theorem lower_eq_iff : lower c = lower d ↔ upper c = upper d := by
  simp only [← Char.toNat_inj, toNat_lower, toNat_upper]
  have hc := @isLower_iff c
  have hd := @isLower_iff d
  have hc' := @isUpper_iff c
  have hd' := @isUpper_iff d
  split <;> split <;> split <;> split <;> simp_all <;> omega

theorem eq_of_lower (hd : isLetter d = false) (h : lower c = lower d) : c = d := by
  have hupper : isUpper d = false := by
    cases hu : isUpper d with
    | false => rfl
    | true => simp [isLetter, hu] at hd
  rw [← Bool.not_eq_true, isLetter_iff, isLower_iff, isUpper_iff] at hd
  have hc := @isUpper_iff c
  rw [← Char.toNat_inj, toNat_lower, toNat_lower, hupper] at h
  rw [← Char.toNat_inj]
  split at h
  · next hcu =>
    have hrange := hc.mp hcu
    simp only [Bool.false_eq_true, if_false] at h
    omega
  · simpa using h

theorem isLetter_lower (c : Char) : isLetter (lower c) = isLetter c := by
  rw [Bool.eq_iff_iff, isLetter_iff, isLetter_iff, isLower_iff, isUpper_iff, isLower_iff,
    isUpper_iff, toNat_lower]
  have hc := @isUpper_iff c
  split
  · next hupper =>
    have hrange := hc.mp hupper
    omega
  · exact Iff.rfl

theorem upper_upper (c : Char) : upper (upper c) = upper c := by
  cases hc : isLower c with
  | false => rw [upper_of_not_lower hc, upper_of_not_lower hc]
  | true =>
    have hletter : isLetter c = true := by simp [isLetter, hc]
    exact upper_of_not_lower (isLower_of_isUpper (isUpper_upper hletter))

theorem isHexDigit_iff :
    isHexDigit c = true ↔ isDigit c = true ∨ (97 ≤ c.toNat ∧ c.toNat ≤ 102) ∨
      (65 ≤ c.toNat ∧ c.toNat ≤ 70) := by
  simp [isHexDigit, Char.le_def, UInt32.le_iff_toNat_le, or_assoc]

theorem isWordChar_of_isHexDigit (h : isHexDigit c = true) : isWordChar c = true := by
  rw [isWordChar_iff, isAlphanumeric_iff, isLetter_iff, isLower_iff, isUpper_iff, isDigit_iff]
  rw [isHexDigit_iff, isDigit_iff] at h
  omega

def Caseless (accepts : Char → Bool) : Prop := ∀ c, accepts (lower c) = accepts c

theorem caseless_isLetter : Caseless isLetter := isLetter_lower

theorem caseless_isDigit : Caseless isDigit := by
  intro c
  rw [Bool.eq_iff_iff, isDigit_iff, isDigit_iff, toNat_lower]
  have hc := @isUpper_iff c
  split
  · next hupper =>
    have hrange := hc.mp hupper
    omega
  · exact Iff.rfl

theorem lower_of_not_letter {d : Char} (hd : isLetter d = false) : lower d = d := by
  have hupper : isUpper d = false := by
    cases hu : isUpper d with
    | false => rfl
    | true => simp [isLetter, hu] at hd
  simp [lower, hupper]

theorem caseless_beq {d : Char} (hd : isLetter d = false) : Caseless (· == d) := by
  intro c
  have hlower : lower d = d := lower_of_not_letter hd
  rw [Bool.eq_iff_iff, beq_iff_eq, beq_iff_eq]
  constructor
  · intro h
    exact eq_of_lower hd (h.trans hlower.symm)
  · rintro rfl
    exact hlower

theorem caseless_contains {ds : List Char} (h : ds.all (fun d => !isLetter d) = true) :
    Caseless ds.contains := by
  induction ds with
  | nil => exact fun _ => rfl
  | cons d more ih =>
    rw [List.all_cons, Bool.and_eq_true, Bool.not_eq_true'] at h
    obtain ⟨hd, hmore⟩ := h
    intro c
    have hsame : (lower c == d) = (c == d) := caseless_beq hd c
    rw [List.contains_cons, List.contains_cons, hsame, ih hmore c]

theorem Caseless.or {p q : Char → Bool} (hp : Caseless p) (hq : Caseless q) :
    Caseless fun c => p c || q c := by
  intro c
  simp only [hp c, hq c]

theorem caseless_isAlphanumeric : Caseless isAlphanumeric :=
  caseless_isLetter.or caseless_isDigit

theorem caseless_isWordChar : Caseless isWordChar :=
  caseless_isAlphanumeric.or (caseless_beq rfl)

theorem caseless_isHexDigit : Caseless isHexDigit := by
  intro c
  rw [Bool.eq_iff_iff, isHexDigit_iff, isHexDigit_iff, isDigit_iff, isDigit_iff, toNat_lower]
  have hc := @isUpper_iff c
  split
  · next hupper =>
    have hrange := hc.mp hupper
    omega
  · next hupper =>
    have hrange := mt hc.mpr hupper
    omega

variable {accepts : Char → Bool} {w name : List Char}

theorem Caseless.upper (h : Caseless accepts) (c : Char) : accepts (Text.upper c) = accepts c := by
  rw [← h (Text.upper c), lower_eq_iff.mpr (upper_upper c), h c]

theorem Caseless.apply (h : Caseless accepts) (hcd : lower c = lower d) :
    accepts c = accepts d := by
  rw [← h c, hcd, h d]

theorem Caseless.all (h : Caseless accepts) (hw : lowerAll w = lowerAll name) :
    w.all accepts = name.all accepts := by
  have hlower : accepts ∘ lower = accepts := funext h
  have hall : ∀ s : List Char, (lowerAll s).all accepts = s.all accepts := by
    intro s
    rw [lowerAll, List.all_map, hlower]
  rw [← hall, hw, hall]

theorem length_of_lowerAll (hw : lowerAll w = lowerAll name) : w.length = name.length := by
  simpa [lowerAll] using congrArg List.length hw

/-- The head of a word is that of its name in some case. -/
theorem head_of_lowerAll (hw : lowerAll w = lowerAll name) (hc : w.head? = some c) :
    ∃ d, name.head? = some d ∧ lower c = lower d := by
  obtain ⟨more, rfl⟩ := List.head?_eq_some_iff.mp hc
  cases name with
  | nil => simp [lowerAll] at hw
  | cons d others => exact ⟨d, rfl, by simpa [lowerAll] using (List.cons.inj hw).1⟩

/-- A word in any case is as many letters and the same other character behind them. -/
theorem letters_of_lowerAll {t name : List Char} (hname : name.all isLetter = true)
    (hd : isLetter d = false) (h : lowerAll t = name ++ [d]) :
    ∃ letters, t = letters ++ [d] ∧ letters.all isLetter = true ∧
      letters.length = name.length := by
  obtain ⟨letters, last, rfl, hletters, hlast⟩ := List.map_eq_append_iff.mp h
  obtain ⟨c, rfl, hc⟩ := List.map_eq_singleton_iff.mp hlast
  have hlower : lower d = d := lower_of_not_letter hd
  obtain rfl : c = d := eq_of_lower hd (hc.trans hlower.symm)
  subst hletters
  refine ⟨letters, rfl, ?_, by simp⟩
  rw [List.all_map] at hname
  rw [List.all_eq_true] at hname ⊢
  exact fun x hx => (isLetter_lower x).symm.trans (hname x hx)

theorem upperAll_eq_of_lowerAll {s t : List Char} (h : lowerAll s = lowerAll t) :
    upperAll s = upperAll t := by
  induction s generalizing t with
  | nil => simp_all [lowerAll, upperAll]
  | cons c more ih =>
    cases t with
    | nil => simp [lowerAll] at h
    | cons d others =>
      simp only [lowerAll, upperAll, List.map_cons, List.cons.injEq] at h ih ⊢
      exact ⟨lower_eq_iff.mp h.1, ih h.2⟩

theorem upperAll_of_not_lower {s : List Char} (h : ∀ c ∈ s, isLower c = false) :
    upperAll s = s := by
  rw [upperAll, List.map_congr_left fun c hc => upper_of_not_lower (h c hc), List.map_id']

theorem upperAll_append (s t : List Char) : upperAll (s ++ t) = upperAll s ++ upperAll t :=
  List.map_append

end ListingGrid.Text
