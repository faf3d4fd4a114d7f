import ListingGrid.Encoding
import ListingGrid.Proofs.Text.Letters

/-!
# Bytes of texts

The bytes of a text are those of its characters, one after the other. A character of ASCII is one
byte, and its byte occurs in no other character.
-/

set_option autoImplicit false

namespace ListingGrid.Text

def charBytes (c : Char) : List Nat := (String.utf8EncodeChar c).map (·.toNat)

theorem toList_loop (bs : ByteArray) (i : Nat) (read : List UInt8) :
    ByteArray.toList.loop bs i read = read.reverse ++ bs.data.toList.drop i := by
  fun_induction ByteArray.toList.loop bs i read with
  | case1 i read hlt ih =>
    have hi : i < bs.data.toList.length := hlt
    rw [ih, List.drop_eq_getElem_cons hi]
    simp [ByteArray.get!, hlt]
  | case2 i read hge =>
    rw [List.drop_eq_nil_of_le (by simpa using Nat.le_of_not_lt hge), List.append_nil]

theorem bytes_ofList (s : List Char) : bytes (String.ofList s) = s.flatMap charBytes := by
  have hbytes : (String.ofList s).toUTF8.toList = s.flatMap String.utf8EncodeChar := by
    rw [ByteArray.toList, toList_loop]
    simp [String.toUTF8, String.toByteArray_ofList, List.utf8Encode]
  rw [bytes, hbytes, List.map_flatMap]
  rfl

/-- A byte of ASCII stands for the character of that number. -/
theorem mem_charBytes {d : Nat} (hd : d < 128) (c : Char) : d ∈ charBytes c ↔ c = Char.ofNat d := by
  have hchar : c = Char.ofNat d ↔ c.toNat = d := by
    constructor
    · rintro rfl
      exact toNat_ofNat hd
    · rintro rfl
      exact (Char.ofNat_toNat c).symm
  rw [hchar]
  unfold charBytes String.utf8EncodeChar
  have hval : c.val.toNat = c.toNat := rfl
  simp only [hval]
  split
  · simp; omega
  · split
    · simp; omega
    · split
      · simp; omega
      · simp; omega

theorem charBytes_ascii {d : Nat} (hd : d < 128) : charBytes (Char.ofNat d) = [d] := by
  have hval : (Char.ofNat d).val.toNat = d := toNat_ofNat hd
  unfold charBytes String.utf8EncodeChar
  simp only [hval]
  rw [if_pos (by omega)]
  simp only [List.map_singleton, UInt8.toNat_ofNat', List.singleton_inj]
  omega

theorem mem_bytes_ofList {d : Nat} (hd : d < 128) (s : List Char) :
    d ∈ bytes (String.ofList s) ↔ Char.ofNat d ∈ s := by
  simp only [bytes_ofList, List.mem_flatMap, mem_charBytes hd]
  simp

theorem bytes_inj {a b : String} : bytes a = bytes b ↔ a = b := by
  refine ⟨fun h => ?_, fun h => h ▸ rfl⟩
  have hlist : a.toUTF8.toList = b.toUTF8.toList :=
    (List.map_inj_right fun _ _ => UInt8.toNat_inj.mp).mp h
  simp only [ByteArray.toList, toList_loop, List.reverse_nil, List.nil_append, List.drop_zero,
    Array.toList_inj] at hlist
  exact String.toByteArray_inj.mp (ByteArray.ext hlist)

end ListingGrid.Text
