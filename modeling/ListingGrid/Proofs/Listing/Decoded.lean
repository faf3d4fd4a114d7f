import ListingGrid.Listing.Decoder

/-!
# Decoding block by block

A decoder that reads one block after the other goes on where it stopped, so the
characters that it yields depend on the bytes alone.
-/

set_option autoImplicit false

namespace ListingGrid.Decoder

def decodeRest (decoder : Decoder) (bytes : List Nat) : List Char :=
  (decoder.feed bytes).2 ++ (decoder.feed bytes).1.finish.1

def decode (encoding : Encoding) (bytes : List Nat) : List Char :=
  (start encoding).decodeRest bytes

/-- The text that is known of a listing when it begins with the given bytes. -/
def decodeFront (encoding : Encoding) (bytes : List Nat) : List Char :=
  ((start encoding).feed bytes).2

variable (decoder : Decoder) (front back : List Nat)

theorem feedOnto_append (decoded : List Char) :
    feedOnto decoder decoded (front ++ back) =
      feedOnto (feedOnto decoder decoded front).1 (feedOnto decoder decoded front).2 back := by
  induction front generalizing decoder decoded with
  | nil => rfl
  | cons b front ih =>
    rw [List.cons_append, feedOnto, feedOnto]
    exact ih _ _

theorem feedOnto_eq (bytes : List Nat) (decoded : List Char) :
    feedOnto decoder decoded bytes =
      ((feedOnto decoder [] bytes).1, (feedOnto decoder [] bytes).2 ++ decoded) := by
  induction bytes generalizing decoder decoded with
  | nil => rfl
  | cons b bytes ih =>
    simp only [feedOnto]
    rw [ih _ ((decoder.step b).2.reverse ++ decoded), ih _ ((decoder.step b).2.reverse ++ [])]
    simp

theorem feed_append :
    decoder.feed (front ++ back) =
      (((decoder.feed front).1.feed back).1,
        (decoder.feed front).2 ++ ((decoder.feed front).1.feed back).2) := by
  simp only [feed]
  rw [feedOnto_append, feedOnto_eq _ back]
  simp

theorem decodeRest_append :
    decoder.decodeRest (front ++ back) =
      (decoder.feed front).2 ++ (decoder.feed front).1.decodeRest back := by
  simp only [decodeRest, feed_append, List.append_assoc]

end ListingGrid.Decoder
