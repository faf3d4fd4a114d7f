import ListingGrid.Proofs.Grammar.Numerals
import ListingGrid.Proofs.Number.Numeral
import Mathlib.Algebra.Order.Field.Rat
import Mathlib.Tactic.FieldSimp
import Mathlib.Tactic.Ring

/-!
# Conversion of numbers

A numeral denotes a rational number. The conversion of a text in the format of a tag reads exactly
the numerals of the tag: integers and decimals are the numbers denoted, digit for digit, and only
integers can be out of range.
-/

set_option autoImplicit false

namespace ListingGrid

def Decimal.toRat (d : Decimal) : ℚ := d.unscaled / (10 : ℚ) ^ d.scale

/-- A decimal is known by its scale and the number that it stands for. -/
theorem Decimal.eq_of_toRat {a b : Decimal} (hscale : a.scale = b.scale) (h : a.toRat = b.toRat) :
    a = b := by
  obtain ⟨unscaled, scale⟩ := a
  obtain ⟨other, otherScale⟩ := b
  obtain rfl : scale = otherScale := hscale
  have hpos : (10 : ℚ) ^ scale ≠ 0 := zpow_ne_zero scale (by decide)
  have hsame : (unscaled : ℚ) = other := (div_left_inj' hpos).mp h
  rw [Int.cast_injective hsame]

theorem Decimal.toRat_places (d : Decimal) :
    d.toRat = (d.unscaled * 10 ^ (-d.scale).toNat : Int) / (10 : ℚ) ^ d.scale.toNat := by
  obtain ⟨unscaled, scale⟩ := d
  rw [toRat]
  obtain ⟨n, rfl | rfl⟩ := scale.eq_nat_or_neg
  · simp
  · simp [div_eq_mul_inv]

namespace Numeral

variable {tag : NumericTag}

def places (n : Numeral tag) : Nat := n.fraction.digits.length

def magnitude (n : Numeral tag) : ℚ :=
  Text.decimalValue n.whole.digits + Text.decimalValue n.fraction.digits / (10 : ℚ) ^ n.places

def value (n : Numeral tag) : ℚ := if n.negative then -n.magnitude else n.magnitude

/-- The text of a numeral without separators of thousands and with a point as decimal mark. -/
def plain (n : Numeral tag) : List Char :=
  signText n.negative ++ (n.whole.digits ++ pointed n.fraction.digits)

/-- Integers have 64 bits. Other numbers always fit. -/
def Fits (n : Numeral tag) : Prop := tag.kind = .integer → -2 ^ 63 ≤ n.value ∧ n.value < 2 ^ 63

/-- A number that is the one that a numeral denotes. -/
def Denotes (n : Numeral tag) : Number → Prop
  | .integer i => (i : ℚ) = n.value
  | .decimal d => d.toRat = n.value ∧ d.scale = n.places
  | .float d => Double.ofChars? n.plain = some d

def unscaled (n : Numeral tag) : Int :=
  withSign n.negative (Text.decimalValue (n.whole.digits ++ n.fraction.digits))

theorem value_eq (n : Numeral tag) : n.value = n.unscaled / (10 : ℚ) ^ n.places := by
  have hmagnitude : n.magnitude =
      Text.decimalValue (n.whole.digits ++ n.fraction.digits) / (10 : ℚ) ^ n.places := by
    rw [magnitude, Text.decimalValue_append, places]
    push_cast
    field_simp
  rw [value, unscaled, withSign, hmagnitude]
  split
  · push_cast
    ring
  · rw [Int.cast_natCast]

theorem toRat_eq (n : Numeral tag) : Decimal.toRat ⟨n.unscaled, n.places⟩ = n.value := by
  rw [value_eq, Decimal.toRat, zpow_natCast]

end Numeral

namespace NumericFormat

variable {separator mark : Option Char} {s : List Char}

theorem withoutSeparator_append (separator : Option Char) (a b : List Char) :
    withoutSeparator separator (a ++ b) =
      withoutSeparator separator a ++ withoutSeparator separator b := by
  cases separator with
  | none => rfl
  | some c => exact List.filter_append ..

theorem withoutSeparator_self (h : ∀ c ∈ s, separator ≠ some c) :
    withoutSeparator separator s = s := by
  cases separator with
  | none => rfl
  | some separator =>
    exact List.filter_eq_self.mpr fun c hc => bne_iff_ne.mpr fun heq => h c hc (heq ▸ rfl)

theorem withPoint_append (mark : Option Char) (a b : List Char) :
    withPoint mark (a ++ b) = withPoint mark a ++ withPoint mark b := by
  cases mark with
  | none => rfl
  | some c => exact List.map_append

theorem withPoint_self (h : ∀ c ∈ s, mark ≠ some c) : withPoint mark s = s := by
  cases mark with
  | none => rfl
  | some mark =>
    refine (List.map_congr_left fun c hc => ?_).trans (List.map_id s)
    exact if_neg fun heq => h c hc (congrArg some heq.symm)

end NumericFormat

theorem ne_of_digits {mark : Option Char} {digits : List Char} (hall : digits.all Text.isDigit = true)
    (hmark : ∀ d ∈ mark, Text.isDigit d = false) : ∀ c ∈ digits, mark ≠ some c := by
  rintro c hc rfl
  exact Text.ne_of_isDigit (List.all_eq_true.mp hall c hc) (hmark c rfl) rfl

open NumericFormat in
theorem Whole.withoutSeparator_text {separator : Option Char} (n : Whole separator)
    (h : ∀ c ∈ separator, Text.isDigit c = false) : withoutSeparator separator n.text = n.digits := by
  have hgroups : ∀ groups : List (List Char), (∀ group ∈ groups, group.all Text.isDigit = true) →
      withoutSeparator separator (groups.flatMap fun group => separator.toList ++ group) =
        groups.flatten := by
    intro groups hall
    induction groups with
    | nil => exact withoutSeparator_self (by simp)
    | cons group more ih =>
      have hseparator : withoutSeparator separator separator.toList = [] := by
        cases separator with
        | none => rfl
        | some c => simp [withoutSeparator]
      rw [List.flatMap_cons, List.flatten_cons, withoutSeparator_append, withoutSeparator_append,
        hseparator, List.nil_append, withoutSeparator_self (ne_of_digits (hall group (by simp)) h),
        ih fun x hx => hall x (by simp [hx])]
  rw [text, digits, withoutSeparator_append, withoutSeparator_self (ne_of_digits n.lead_digits h),
    hgroups n.groups n.groups_digits]

open NumericFormat in
theorem Fraction.withPoint_text {mark : Option Char} (f : Fraction mark)
    (h : ∀ c ∈ mark, Text.isDigit c = false) : withPoint mark f.text = pointed f.digits := by
  rw [text, pointed]
  split
  · exact withPoint_self (by simp)
  · next hne =>
    obtain ⟨c, rfl⟩ := Option.ne_none_iff_exists'.mp (mt f.digits_none hne)
    rw [withPoint_append, withPoint_self (ne_of_digits f.all_digits h)]
    simp [withPoint]

namespace NumericTag

/-- The separators of a tag are neither digits nor signs, and they differ. -/
theorem separators (tag : NumericTag) :
    (∀ c ∈ tag.thousands, Text.isDigit c = false ∧ c ≠ '-' ∧ tag.decimalMark ≠ some c) ∧
      ∀ c ∈ tag.decimalMark, Text.isDigit c = false ∧ c ≠ '-' := by
  cases tag <;> simp [thousands, decimalMark, Text.isDigit]

theorem decimalMark_eq_none_iff (tag : NumericTag) :
    tag.decimalMark = none ↔ tag.kind = .integer := by
  cases tag <;> simp [decimalMark, kind]

end NumericTag

namespace Numeral

variable {tag : NumericTag}

open NumericFormat in
theorem normalized_text (n : Numeral tag) : tag.format.normalized n.text = n.plain := by
  obtain ⟨hthousands, hmark⟩ := tag.separators
  have hsign : ∀ {mark : Option Char}, (∀ c ∈ mark, c ≠ '-') →
      ∀ c ∈ signText n.negative, mark ≠ some c := by
    rintro mark hne c hc rfl
    exact hne c rfl (mem_signText hc)
  have hfraction : ∀ c ∈ n.fraction.text, tag.thousands ≠ some c := by
    intro c hc heq
    rw [Fraction.text] at hc
    split at hc
    · simp at hc
    · rcases List.mem_append.mp hc with hc | hc
      · exact (hthousands c heq).2.2 (Option.mem_toList.mp hc)
      · exact ne_of_digits n.fraction.all_digits (fun d hd => (hthousands d hd).1) c hc heq
  change withPoint tag.decimalMark (withoutSeparator tag.thousands n.text) = n.plain
  rw [text, withoutSeparator_append, withoutSeparator_append,
    withoutSeparator_self (hsign fun c hc => (hthousands c hc).2.1),
    n.whole.withoutSeparator_text fun c hc => (hthousands c hc).1, withoutSeparator_self hfraction,
    withPoint_append, withPoint_append, withPoint_self (hsign fun c hc => (hmark c hc).2),
    withPoint_self (ne_of_digits n.whole.all_digits fun c hc => (hmark c hc).1),
    n.fraction.withPoint_text fun c hc => (hmark c hc).1, plain]

theorem fraction_digits (n : Numeral tag) (hkind : tag.kind = .integer) : n.fraction.digits = [] :=
  n.fraction.digits_none (tag.decimalMark_eq_none_iff.mpr hkind)

theorem value_integer (n : Numeral tag) (hkind : tag.kind = .integer) : n.value = n.unscaled := by
  rw [value_eq, places, n.fraction_digits hkind]
  simp

theorem fits_iff (n : Numeral tag) (hkind : tag.kind = .integer) :
    n.Fits ↔ Number.leastInteger ≤ n.unscaled ∧ n.unscaled ≤ Number.greatestInteger := by
  have hleast : -2 ^ 63 ≤ n.value ↔ Number.leastInteger ≤ n.unscaled := by
    rw [n.value_integer hkind, ← Int.cast_le (R := ℚ)]
    norm_num [Number.leastInteger]
  have hgreatest : n.value < 2 ^ 63 ↔ n.unscaled ≤ Number.greatestInteger := by
    rw [n.value_integer hkind, Number.greatestInteger, Int.le_sub_one_iff]
    norm_cast
  rw [Fits, hleast, hgreatest]
  exact ⟨fun h => h hkind, fun h _ => h⟩

theorem integer?_plain (n : Numeral tag) (hkind : tag.kind = .integer) :
    Number.integer? n.plain =
      if Number.leastInteger ≤ n.unscaled ∧ n.unscaled ≤ Number.greatestInteger then
        some n.unscaled
      else none := by
  have hplain : n.plain = signText n.negative ++ n.whole.digits := by
    rw [plain, n.fraction_digits hkind, pointed, if_pos rfl, List.append_nil]
  have hunscaled : n.unscaled = withSign n.negative (Text.decimalValue n.whole.digits) := by
    rw [unscaled, n.fraction_digits hkind, List.append_nil]
  rw [hplain, hunscaled]
  exact Number.integer?_signed n.whole.digits_ne n.whole.all_digits n.negative

theorem decimal?_plain (n : Numeral tag) :
    Decimal.ofChars? n.plain = some ⟨n.unscaled, n.places⟩ :=
  Decimal.ofChars?_pointed n.whole.digits_ne n.whole.all_digits n.fraction.all_digits n.negative

/-- What is left of a numeral is read as the number that it denotes, and only integers can be out
of range. -/
theorem number?_plain (n : Numeral tag) :
    (n.Fits → ∃ x, Number.ofChars? tag.kind n.plain = some x ∧ x.kind = tag.kind ∧ n.Denotes x) ∧
      (¬n.Fits → Number.ofChars? tag.kind n.plain = none) := by
  cases hkind : tag.kind with
  | integer =>
    rw [Number.ofChars?, n.integer?_plain hkind, n.fits_iff hkind]
    constructor
    · intro hfits
      rw [if_pos hfits]
      exact ⟨.integer n.unscaled, rfl, rfl, (n.value_integer hkind).symm⟩
    · intro hnot
      rw [if_neg hnot]
      rfl
  | float =>
    have hread := Double.ofChars?_pointed n.whole.digits_ne n.whole.all_digits
      n.fraction.all_digits n.negative
    refine ⟨fun _ => ⟨.float _, congrArg (Option.map Number.float) hread, rfl, hread⟩, fun hnot => ?_⟩
    exact absurd (fun h => by simp [hkind] at h) hnot
  | decimal =>
    refine ⟨fun _ => ⟨.decimal ⟨n.unscaled, n.places⟩,
      congrArg (Option.map Number.decimal) n.decimal?_plain, rfl, n.toRat_eq, rfl⟩, fun hnot => ?_⟩
    exact absurd (fun h => by simp [hkind] at h) hnot

end Numeral

def Whole.push {c : Char} (n : Whole (some c)) (group : List Char) (hlength : group.length = 3)
    (hall : group.all Text.isDigit = true) : Whole (some c) where
  lead := n.lead
  groups := n.groups ++ [group]
  lead_ne := n.lead_ne
  lead_digits := n.lead_digits
  lead_length := n.lead_length
  groups_none := by simp
  groups_length := by simpa [or_imp, forall_and] using ⟨n.groups_length, hlength⟩
  groups_digits := by
    intro x hx
    rcases List.mem_append.mp hx with hx | hx
    · exact n.groups_digits x hx
    · exact List.mem_singleton.mp hx ▸ hall

/-- Digits can be put in groups of three from the right. -/
theorem Whole.exists_of_digits (separator : Option Char) {digits : List Char} (hne : digits ≠ [])
    (hall : digits.all Text.isDigit = true) : ∃ n : Whole separator, n.digits = digits := by
  cases separator with
  | none =>
    exact ⟨⟨digits, [], hne, hall, by simp, by simp, by simp, by simp⟩, by simp [Whole.digits]⟩
  | some c =>
    induction hlength : digits.length using Nat.strong_induction_on generalizing digits with
    | _ length ih =>
      by_cases hshort : digits.length ≤ 3
      · exact ⟨⟨digits, [], hne, hall, fun _ => hshort, by simp, by simp, by simp⟩,
          by simp [Whole.digits]⟩
      · obtain ⟨front, group, rfl, hgroup⟩ :
            ∃ front group, digits = front ++ group ∧ group.length = 3 :=
          ⟨_, _, (List.take_append_drop (digits.length - 3) digits).symm, by
            rw [List.length_drop]
            omega⟩
        rw [List.length_append] at hlength hshort
        rw [List.all_append, Bool.and_eq_true] at hall
        obtain ⟨n, rfl⟩ := ih front.length (by omega)
          (List.ne_nil_of_length_pos (by omega)) hall.1 rfl
        exact ⟨n.push group hgroup hall.2, by simp [Whole.push, Whole.digits]⟩

/-- Every number has digits, as many as there are places and more. -/
theorem Text.exists_digits (n places : Nat) :
    ∃ digits, digits.all isDigit = true ∧ places < digits.length ∧ decimalValue digits = n := by
  have hzeros : ∀ zeros, decimalValue (List.replicate zeros '0') = 0 := fun zeros =>
    Nat.ofDigitChars_replicate_zero.trans (Nat.mul_zero _)
  refine ⟨List.replicate (places + 1 - (decimalDigits n).length) '0' ++ decimalDigits n, ?_, ?_, ?_⟩
  · rw [List.all_append, decimalDigits_all, Bool.and_true, List.all_eq_true]
    intro c hc
    rw [List.eq_of_mem_replicate hc]
    rfl
  · rw [List.length_append, List.length_replicate]
    omega
  · rw [decimalValue_append, decimalValue_decimalDigits, hzeros, Nat.mul_zero, Nat.zero_add]

/-- A number with some places behind the point is written with the separators of a tag. -/
theorem Numeral.exists_of_unscaled (tag : NumericTag) (unscaled : Int) (places : Nat)
    (hmark : tag.decimalMark = none → places = 0) :
    ∃ n : Numeral tag, n.places = places ∧ n.unscaled = unscaled := by
  obtain ⟨digits, hall, hlength, hvalue⟩ := Text.exists_digits unscaled.natAbs places
  obtain ⟨front, fraction, rfl, hplaces⟩ :
      ∃ front fraction, digits = front ++ fraction ∧ fraction.length = places :=
    ⟨_, _, (List.take_append_drop (digits.length - places) digits).symm, by
      rw [List.length_drop]
      omega⟩
  rw [List.length_append] at hlength
  rw [List.all_append, Bool.and_eq_true] at hall
  obtain ⟨whole, rfl⟩ := Whole.exists_of_digits tag.thousands
    (List.ne_nil_of_length_pos (by omega)) hall.1
  refine ⟨⟨decide (unscaled < 0), whole, ⟨fraction, hall.2, fun h => ?_⟩⟩, hplaces, ?_⟩
  · rw [← List.length_eq_zero_iff, hplaces, hmark h]
  · rw [Numeral.unscaled, hvalue, withSign_natAbs]

namespace NumericTag

variable {tag : NumericTag} {t : String}

/-- The conversion of a text in the format of a tag. -/
structure Converts (tag : NumericTag) (t : String) : Prop where
  /-- The text is empty or a numeral that fits. -/
  succeeds : (∃ x, tag.toNumber t = .ok x) ↔
    t = "" ∨ ∃ n : Numeral tag, n.text = t.toList ∧ n.Fits
  /-- The number is of the kind of the tag and the one that the text denotes. -/
  number : ∀ x, tag.toNumber t = .ok x → x.kind = tag.kind ∧ (t = "" → x = tag.kind.zero) ∧
    ∀ n : Numeral tag, n.text = t.toList → n.Denotes x
  /-- The text is a numeral that does not fit or no numeral at all. -/
  fails : ∀ m, tag.toNumber t = .error m →
    m.value = t ∧ m.tag = tag ∧ m.pattern = tag.patternText ∧
      (m.reason = .outOfRange ↔ ∃ n : Numeral tag, n.text = t.toList ∧ ¬n.Fits) ∧
      (m.reason = .pattern ↔ ¬∃ n : Numeral tag, n.text = t.toList)

theorem toNumber_numeral (n : Numeral tag) (h : n.text = t.toList) :
    tag.toNumber t = match Number.ofChars? tag.kind n.plain with
      | some x => .ok x
      | none => .error ⟨t, tag, tag.patternText, .outOfRange⟩ := by
  have hmatch : tag.format.compiled.isMatch t.toList = true :=
    (isMatch_iff_numeral tag _).mpr ⟨n, h⟩
  have hnormal : tag.format.normalized t.toList = n.plain := h ▸ n.normalized_text
  have hne : t.toList.isEmpty = false := by
    rw [← h]
    simpa using n.text_ne
  rw [toNumber, NumericFormat.toNumber]
  simp only [hne, hmatch, hnormal]
  rfl

theorem toNumber_fits (n : Numeral tag) (h : n.text = t.toList) (hfits : n.Fits) :
    ∃ x, tag.toNumber t = .ok x ∧ x.kind = tag.kind ∧ n.Denotes x := by
  obtain ⟨x, hread, hx⟩ := n.number?_plain.1 hfits
  exact ⟨x, by rw [toNumber_numeral n h, hread], hx⟩

theorem toNumber_outOfRange (n : Numeral tag) (h : n.text = t.toList) (hnot : ¬n.Fits) :
    tag.toNumber t = .error ⟨t, tag, tag.patternText, .outOfRange⟩ := by
  rw [toNumber_numeral n h, n.number?_plain.2 hnot]

theorem toNumber_pattern (hne : t ≠ "") (h : ¬∃ n : Numeral tag, n.text = t.toList) :
    tag.toNumber t = .error ⟨t, tag, tag.patternText, .pattern⟩ := by
  have hmatch : tag.format.compiled.isMatch t.toList = false := by
    rw [← Bool.not_eq_true]
    exact (isMatch_iff_numeral tag _).not.mpr h
  have hchars : t.toList.isEmpty = false := by simpa using hne
  rw [toNumber, NumericFormat.toNumber]
  simp only [hchars, hmatch]
  rfl

theorem toNumber_empty (tag : NumericTag) : tag.toNumber "" = .ok tag.kind.zero := rfl

theorem denotes_of_toNumber (n : Numeral tag) (h : n.text = t.toList) {x : Number}
    (hx : tag.toNumber t = .ok x) : n.Fits ∧ x.kind = tag.kind ∧ n.Denotes x := by
  by_cases hfits : n.Fits
  · obtain ⟨y, hy, hdenotes⟩ := toNumber_fits n h hfits
    obtain rfl : y = x := Except.ok.inj (hy.symm.trans hx)
    exact ⟨hfits, hdenotes⟩
  · exact nomatch (toNumber_outOfRange n h hfits).symm.trans hx

theorem numeral_of_toNumber {x : Number} (hne : t ≠ "") (hx : tag.toNumber t = .ok x) :
    ∃ n : Numeral tag, n.text = t.toList := by
  by_contra h
  exact nomatch (toNumber_pattern hne h).symm.trans hx

theorem converts (tag : NumericTag) (t : String) : tag.Converts t where
  succeeds := by
    constructor
    · rintro ⟨x, hx⟩
      by_cases hempty : t = ""
      · exact .inl hempty
      · obtain ⟨n, hn⟩ := numeral_of_toNumber hempty hx
        exact .inr ⟨n, hn, (denotes_of_toNumber n hn hx).1⟩
    · rintro (rfl | ⟨n, hn, hfits⟩)
      · exact ⟨_, tag.toNumber_empty⟩
      · obtain ⟨x, hx, -⟩ := toNumber_fits n hn hfits
        exact ⟨x, hx⟩
  number := by
    intro x hx
    have hzero : t = "" → x = tag.kind.zero := by
      rintro rfl
      exact (Except.ok.inj hx).symm
    refine ⟨?_, hzero, fun n hn => (denotes_of_toNumber n hn hx).2.2⟩
    by_cases hempty : t = ""
    · rw [hzero hempty]
      cases tag <;> rfl
    · obtain ⟨n, hn⟩ := numeral_of_toNumber hempty hx
      exact (denotes_of_toNumber n hn hx).2.1
  fails := by
    intro m hm
    by_cases hnumeral : ∃ n : Numeral tag, n.text = t.toList
    · obtain ⟨n, hn⟩ := hnumeral
      have hnot : ¬n.Fits := by
        intro hfits
        obtain ⟨x, hx, -⟩ := toNumber_fits n hn hfits
        exact nomatch hx.symm.trans hm
      obtain rfl := Except.error.inj ((toNumber_outOfRange n hn hnot).symm.trans hm)
      refine ⟨rfl, rfl, rfl, ⟨fun _ => ⟨n, hn, hnot⟩, fun _ => rfl⟩, ⟨fun h => ?_, fun h => ?_⟩⟩
      · exact nomatch h
      · exact absurd ⟨n, hn⟩ h
    · have hne : t ≠ "" := by
        rintro rfl
        exact nomatch tag.toNumber_empty.symm.trans hm
      obtain rfl := Except.error.inj ((toNumber_pattern hne hnumeral).symm.trans hm)
      refine ⟨rfl, rfl, rfl, ⟨fun h => ?_, fun h => ?_⟩, ⟨fun _ => hnumeral, fun _ => rfl⟩⟩
      · exact nomatch h
      · obtain ⟨n, hn, -⟩ := h
        exact absurd ⟨n, hn⟩ hnumeral

/-- Conversion is exact. What is not a numeral fails, and integers and decimals that are written
as numerals are read back. -/
theorem toNumber_exact (tag : NumericTag) :
    (∀ t : String, tag.Converts t) ∧
      (tag.kind = .integer → ∀ i : Int, -2 ^ 63 ≤ i → i < 2 ^ 63 →
        (∃ n : Numeral tag, n.value = i) ∧
          ∀ n : Numeral tag, n.value = i → tag.toNumber (String.ofList n.text) = .ok (.integer i)) ∧
      (tag.kind = .decimal → ∀ d : Decimal,
        (∃ n : Numeral tag, n.value = d.toRat ∧ n.places = d.scale.toNat) ∧
          ∀ n : Numeral tag, n.value = d.toRat →
            ∃ r, tag.toNumber (String.ofList n.text) = .ok (.decimal r) ∧ r.toRat = d.toRat ∧
              (n.places = d.scale → r = d)) := by
  have htext : ∀ n : Numeral tag, n.text = (String.ofList n.text).toList := fun n =>
    String.toList_ofList.symm
  refine ⟨tag.converts, fun hkind i hleast hgreatest => ⟨?_, fun n hn => ?_⟩,
    fun hkind d => ⟨?_, fun n hn => ?_⟩⟩
  · obtain ⟨n, -, rfl⟩ := Numeral.exists_of_unscaled tag i 0 fun _ => rfl
    exact ⟨n, n.value_integer hkind⟩
  · have hfits : n.Fits := by
      intro _
      rw [hn]
      have hlower := (Int.cast_le (R := ℚ)).mpr hleast
      have hupper := (Int.cast_lt (R := ℚ)).mpr hgreatest
      push_cast at hlower hupper
      exact ⟨hlower, hupper⟩
    obtain ⟨x, hx, hxkind, hdenotes⟩ := toNumber_fits n (htext n) hfits
    cases x with
    | integer j =>
      have hj : (j : ℚ) = i := hdenotes.trans hn
      rw [hx, Int.cast_injective hj]
    | float d => exact nomatch hxkind.trans hkind
    | decimal d => exact nomatch hxkind.trans hkind
  · have hmark : tag.decimalMark ≠ none := by
      rw [ne_eq, decimalMark_eq_none_iff, hkind]
      decide
    obtain ⟨n, hplaces, hunscaled⟩ := Numeral.exists_of_unscaled tag
      (d.unscaled * 10 ^ (-d.scale).toNat) d.scale.toNat fun h => absurd h hmark
    exact ⟨n, by rw [n.value_eq, hplaces, hunscaled, d.toRat_places], hplaces⟩
  · have hfits : n.Fits := fun h => nomatch hkind.symm.trans h
    obtain ⟨x, hx, hxkind, hdenotes⟩ := toNumber_fits n (htext n) hfits
    cases x with
    | integer j => exact nomatch hxkind.trans hkind
    | float d => exact nomatch hxkind.trans hkind
    | decimal r =>
      have hrat : r.toRat = d.toRat := hdenotes.1.trans hn
      exact ⟨r, hx, hrat, fun hscale => Decimal.eq_of_toRat (hdenotes.2.trans hscale) hrat⟩

example :
    toNumber .decimalDC "-1.234,50" = .ok (.decimal ⟨-123450, 2⟩) ∧
      toNumber .decimalDC "-12.34,50" =
        .error ⟨"-12.34,50", .decimalDC, patternText .decimalDC, .pattern⟩ := by
  decide +kernel

end NumericTag

end ListingGrid
