import ListingGrid.Listing.Decoder
import Mathlib.Algebra.Group.Nat.Defs
import Mathlib.Tactic.SplitIfs

/-!
# Texts of malformed bytes

A byte of ASCII ends whatever was begun before it and stands for its own character,
which no other bytes stand for. So a text can be cut at such a byte, however
malformed the bytes around it are.
-/

set_option autoImplicit false

namespace ListingGrid.Machine

/-- A machine between two bytes of UTF-8. A character that was begun has a number that
needs more than one byte. -/
inductive ReadsUtf8 : Machine → Prop where
  | start : ReadsUtf8 utf8Start
  | inside {missing low high bits : Nat} (hlow : 0x80 ≤ low)
      (hbits : 0x80 ≤ (bits * 0x40 + (low - 0x80)) * 0x40 ^ missing) :
      ReadsUtf8 (.utf8 (missing + 1) low high bits)

theorem toNat_eq_of_ofNat {c : Char} {n : Nat} (h : c = Char.ofNat n) (hpos : 0 < c.toNat) :
    c.toNat = n := by
  by_cases hvalid : n.isValidChar
  · rw [h, Char.ofNat, dif_pos hvalid]
    rfl
  · rw [h, Char.ofNat, dif_neg hvalid] at hpos
    exact absurd hpos (by decide)

variable {machine : Machine}

theorem utf8First_ascii {d : Nat} (hd : d < 0x80) :
    utf8First d = (utf8Start, [Char.ofNat d]) := if_pos hd

theorem utf8First_reads (b : Nat) : (utf8First b).1.ReadsUtf8 := by
  unfold utf8First
  split_ifs <;> first | exact .start | exact .inside (by omega) (by omega)

theorem mem_utf8First {b : Nat} {c : Char} (h : c ∈ (utf8First b).2) :
    c = replacement ∨ c = Char.ofNat b := by
  unfold utf8First at h
  split_ifs at h <;> simp_all

theorem step_broken {missing low high bits b : Nat} (h : ¬(low ≤ b ∧ b ≤ high)) :
    (utf8 (missing + 1) low high bits).step b =
      ((utf8First b).1, replacement :: (utf8First b).2) := if_neg h

theorem ReadsUtf8.step (h : machine.ReadsUtf8) (b : Nat) : (machine.step b).1.ReadsUtf8 := by
  cases h with
  | start => exact utf8First_reads b
  | @inside missing low high bits hlow hbits =>
    by_cases hb : low ≤ b ∧ b ≤ high
    · rw [Machine.step, if_pos hb]
      cases missing with
      | zero => exact .start
      | succ missing =>
        have hread : (bits * 0x40 + (low - 0x80)) * 0x40 ^ (missing + 1) ≤
            (bits * 0x40 + (b - 0x80)) * 0x40 ^ (missing + 1) :=
          Nat.mul_le_mul_right _ (by omega)
        refine .inside (by omega) ?_
        rw [Nat.sub_self, Nat.add_zero, Nat.mul_assoc, ← Nat.pow_succ']
        exact Nat.le_trans hbits hread
    · rw [step_broken hb]
      exact utf8First_reads b

theorem ReadsUtf8.step_ascii (h : machine.ReadsUtf8) {d : Nat} (hd : d < 0x80) :
    machine.step d = (utf8Start, machine.finish ++ [Char.ofNat d]) := by
  cases h with
  | start => exact utf8First_ascii hd
  | @inside missing low high bits hlow hbits =>
    rw [step_broken (by omega), utf8First_ascii hd]
    rfl

theorem ReadsUtf8.mem_step (h : machine.ReadsUtf8) {b : Nat} {c : Char}
    (hc : c ∈ (machine.step b).2) (hpos : 0 < c.toNat) (hascii : c.toNat < 0x80) :
    c.toNat = b := by
  have hfirst : c ∈ (utf8First b).2 → c.toNat = b := fun hc => by
    rcases mem_utf8First hc with rfl | hchar
    · exact absurd hascii (by decide)
    · exact toNat_eq_of_ofNat hchar hpos
  cases h with
  | start => exact hfirst hc
  | @inside missing low high bits hlow hbits =>
    by_cases hb : low ≤ b ∧ b ≤ high
    · rw [Machine.step, if_pos hb] at hc
      cases missing with
      | zero =>
        have hnumber := toNat_eq_of_ofNat (List.mem_singleton.mp hc) hpos
        omega
      | succ missing => simp at hc
    · rw [step_broken hb] at hc
      rcases List.mem_cons.mp hc with rfl | hc
      · exact absurd hascii (by decide)
      · exact hfirst hc

theorem ReadsUtf8.finish (h : machine.ReadsUtf8) {c : Char} (hc : c ∈ machine.finish) :
    c = replacement := by
  cases h with
  | start => simp [utf8Start, Machine.finish] at hc
  | inside hlow hbits => simpa [Machine.finish] using hc

theorem decode_ascii (h : machine.ReadsUtf8) (front : List Nat) {d : Nat} (hd : d < 0x80)
    (back : List Nat) :
    machine.decode (front ++ d :: back) =
      machine.decode front ++ Char.ofNat d :: utf8Text back := by
  induction front generalizing machine with
  | nil =>
    rw [List.nil_append, decode, decode, h.step_ascii hd]
    simp [utf8Text]
  | cons b front ih => rw [List.cons_append, decode, decode, ih (h.step b), List.append_assoc]

theorem utf8Text_nil : utf8Text [] = [] := rfl

theorem utf8Text_ascii (front : List Nat) {d : Nat} (hd : d < 0x80) (back : List Nat) :
    utf8Text (front ++ d :: back) = utf8Text front ++ Char.ofNat d :: utf8Text back :=
  decode_ascii .start front hd back

theorem mem_decode (h : machine.ReadsUtf8) {bytes : List Nat} {c : Char}
    (hc : c ∈ machine.decode bytes) (hpos : 0 < c.toNat) (hascii : c.toNat < 0x80) :
    c.toNat ∈ bytes := by
  induction bytes generalizing machine with
  | nil =>
    obtain rfl := h.finish hc
    exact absurd hascii (by decide)
  | cons b rest ih =>
    rw [decode, List.mem_append] at hc
    rcases hc with hc | hc
    · exact List.mem_cons.mpr (.inl (h.mem_step hc hpos hascii))
    · exact List.mem_cons_of_mem b (ih (h.step b) hc)

/-- A character of ASCII in a text comes from its own byte. -/
theorem mem_utf8Text {bytes : List Nat} {c : Char} (hc : c ∈ utf8Text bytes)
    (hpos : 0 < c.toNat) (hascii : c.toNat < 0x80) : c.toNat ∈ bytes :=
  mem_decode .start hc hpos hascii

end ListingGrid.Machine
