import ListingGrid.Files.Store
import ListingGrid.Output.FileName
import ListingGrid.Proofs.Listing.Replaced
import ListingGrid.Proofs.Outcomes
import ListingGrid.Proofs.Text.Encoded

/-!
# Paths of outputs

An output without a time stamp is named for the stem of its listing, or for its
whole file name where extensions are kept, and for the format. Two listings have the
same output exactly when these are shown alike, and the place of an output ends in its
name.
-/

set_option autoImplicit false

namespace ListingGrid

namespace Path

theorem split_ne_nil (path : List Nat) : split path ≠ [] := by
  cases path with
  | nil => simp [split]
  | cons c more =>
    rw [split]
    split
    · simp
    · split <;> simp

theorem split_append (left right : List Nat) :
    split (left ++ slash :: right) = split left ++ split right := by
  induction left with
  | nil => simp [split]
  | cons c more ih =>
    by_cases hc : c = slash
    · simp [split, hc, ih]
    · simp only [List.cons_append, split, if_neg hc, ih]
      cases hsplit : split more with
      | nil => exact absurd hsplit (split_ne_nil more)
      | cons piece others => rfl

theorem split_of_not_mem {name : Piece} (h : slash ∉ name) : split name = [name] := by
  induction name with
  | nil => rfl
  | cons c more ih =>
    simp only [List.mem_cons, not_or] at h
    simp [split, Ne.symm h.1, ih h.2]

theorem slash_not_mem_split {path piece : List Nat} (h : piece ∈ split path) : slash ∉ piece := by
  induction path generalizing piece with
  | nil =>
    obtain rfl : piece = [] := by simpa [split] using h
    simp
  | cons c more ih =>
    rw [split] at h
    split at h
    · rcases List.mem_cons.mp h with rfl | h
      · simp
      · exact ih h
    · next hc =>
      split at h
      · obtain rfl : piece = [c] := by simpa using h
        simpa using Ne.symm hc
      · next first others hsplit =>
        rw [hsplit] at ih
        rcases List.mem_cons.mp h with rfl | h
        · simpa [Ne.symm hc] using ih (List.mem_cons_self ..)
        · exact ih (List.mem_cons_of_mem _ h)

theorem slash_not_mem_fileName {path : Path} {name : Piece} (h : path.fileName? = some name) :
    slash ∉ name := by
  unfold fileName? at h
  cases hlast : path.pieces.getLast? with
  | none => simp [hlast] at h
  | some piece =>
    have hmem : piece ∈ split path.bytes :=
      (List.mem_filter.mp (List.mem_of_getLast? hlast)).1
    simp only [hlast, Option.ite_none_left_eq_some, Option.some.injEq] at h
    exact h.2 ▸ slash_not_mem_split hmem

/-- What stands behind the last dot of a name, if there is one. -/
theorem behindLastDot (name : Piece) :
    let behind := (name.reverse.takeWhile (· != dot)).reverse
    behind.length = name.length ∨
      name = name.take (name.length - behind.length - 1) ++ dot :: behind := by
  intro behind
  have hparts := List.takeWhile_append_dropWhile (p := (· != dot)) (l := name.reverse)
  have hhead := List.head?_dropWhile_not (· != dot) name.reverse
  cases hdrop : name.reverse.dropWhile (· != dot) with
  | nil =>
    rw [hdrop, List.append_nil] at hparts
    exact .inl (by simp [behind, hparts])
  | cons c front =>
    obtain rfl : c = dot := by simpa [hdrop] using hhead
    have hname : name = front.reverse ++ dot :: behind := by
      have hreverse := congrArg List.reverse hparts
      simpa [hdrop] using hreverse.symm
    have hsize : name.length - behind.length - 1 = front.reverse.length := by
      have hlength := congrArg List.length hname
      simp only [List.length_append, List.length_cons] at hlength
      omega
    have htake : (front.reverse ++ dot :: behind).take (name.length - behind.length - 1) =
        front.reverse := List.take_left' hsize.symm
    rw [← hname] at htake
    exact .inr (htake ▸ hname)

/-- A name is its stem and, behind a dot, its extension. -/
theorem splitName_rejoin (name : Piece) :
    splitName name = (name, none) ∨
      ∃ stem extension, splitName name = (stem, some extension) ∧
        stem ++ dot :: extension = name := by
  unfold splitName
  simp only
  split
  · exact .inl rfl
  · next hsplit =>
    simp only [Bool.or_eq_true, decide_eq_true_eq, not_or] at hsplit
    rcases behindLastDot name with hnone | hname
    · exact absurd hnone hsplit.2
    · exact .inr ⟨_, _, rfl, hname.symm⟩

theorem mem_ofText {d : Nat} (hd : d < 128) (text : String) :
    d ∈ (ofText text).bytes ↔ Char.ofNat d ∈ text.toList := by
  have hmem := Text.mem_bytes_ofList hd text.toList
  rwa [String.ofList_toList] at hmem

theorem ofText_inj {a b : String} : ofText a = ofText b ↔ a = b := by
  rw [ofText, ofText, Path.mk.injEq, Text.bytes_inj]

/-- What a path of a file in a directory has in front of the file. -/
theorem join_front (directory : Path) :
    ∃ front, (front = [] ∨ ∃ before, front = before ++ [slash]) ∧
      ∀ file : Path, slash ∉ file.bytes → (join directory file).bytes = front ++ file.bytes := by
  have hrooted : ∀ file : Path, slash ∉ file.bytes → file.isRooted = false := by
    intro file hfile
    unfold isRooted
    cases hbytes : file.bytes with
    | nil => rfl
    | cons b more =>
      rw [hbytes, List.mem_cons, not_or] at hfile
      simp [Ne.symm hfile.1]
  by_cases hempty : directory.isEmpty = true
  · exact ⟨[], .inl rfl, fun file hfile => by simp [join, hempty]⟩
  · by_cases hslash : directory.bytes.getLast? = some slash
    · refine ⟨directory.bytes, .inr ?_, fun file hfile => ?_⟩
      · exact List.getLast?_eq_some_iff.mp hslash
      · simp [join, hrooted file hfile, hempty, hslash]
    · refine ⟨directory.bytes ++ [slash], .inr ⟨_, rfl⟩, fun file hfile => ?_⟩
      simp [join, hrooted file hfile, hempty, hslash]

theorem join_inj {directory file other : Path} (hfile : slash ∉ file.bytes)
    (hother : slash ∉ other.bytes) : join directory file = join directory other ↔ file = other := by
  obtain ⟨front, -, hjoin⟩ := join_front directory
  have hbytes : ∀ a b : Path, a = b ↔ a.bytes = b.bytes := fun ⟨_⟩ ⟨_⟩ => by simp
  rw [hbytes, hbytes, hjoin file hfile, hjoin other hother, List.append_cancel_left_eq]

theorem split_join_getLast? (directory : Path) {file : Path} (hfile : slash ∉ file.bytes) :
    (split (join directory file).bytes).getLast? = some file.bytes := by
  obtain ⟨front, hfront, hjoin⟩ := join_front directory
  rw [hjoin file hfile]
  rcases hfront with rfl | ⟨before, rfl⟩
  · simp [split_of_not_mem hfile]
  · simp [split_append, split_of_not_mem hfile]

end Path

namespace Store

/-- Pieces lead to a place that ends in the last of them. -/
theorem follow_getLast? {store : Store} {mustEnter : Bool} {reached pieces : List Path.Piece}
    {piece : Path.Piece} {place : Place} (hlast : pieces.getLast? = some piece)
    (hparent : piece ≠ Path.parentPiece) (h : store.follow mustEnter reached pieces = .ok place) :
    place.getLast? = some piece := by
  induction pieces generalizing reached with
  | nil => simp at hlast
  | cons first more ih =>
    cases more with
    | nil =>
      obtain rfl : first = piece := by simpa using hlast
      rw [follow, if_neg hparent] at h
      split at h
      · simp at h
      · split at h
        · obtain rfl : (first :: reached).reverse = place := by simpa using h
          simp
        · split at h
          · obtain rfl : (first :: reached).reverse = place := by simpa [follow] using h
            simp
          · simp at h
          · simp at h
    | cons second more =>
      rw [List.getLast?_cons_cons] at hlast
      rw [follow] at h
      split at h
      · exact ih hlast h
      · split at h
        · simp at h
        · split at h
          · simp_all
          · split at h
            · exact ih hlast h
            · simp at h
            · simp at h

end Store

namespace OutputNaming

variable {naming : OutputNaming}

/-- What an output is named for: the stem of the listing, or its file name where
extensions are kept. -/
def namedFor (naming : OutputNaming) (listing : Path) : List Char :=
  Machine.utf8Text ((if naming.keepExtension then listing.fileName? else listing.stem?).getD [])

def unstamped (naming : OutputNaming) (listing : Path) : String :=
  outputFileName listing naming.format none naming.keepExtension

theorem path_unstamped (h : naming.timeStamp = false) (listing : Path) (now : TimeStamp) :
    naming.path listing now = .join naming.directory (.ofText (naming.unstamped listing)) := by
  simp [path, unstamped, h]

theorem unstamped_eq (naming : OutputNaming) (listing : Path) :
    (naming.unstamped listing).toList =
      naming.namedFor listing ++ '.' :: naming.format.extension.toList := by
  unfold unstamped outputFileName namedFor Path.stem? Path.extension?
  cases listing.fileName? with
  | none => cases naming.keepExtension <;> simp [Machine.utf8Text_nil]
  | some name =>
    rcases Path.splitName_rejoin name with hsplit | ⟨stem, extension, hsplit, rfl⟩
    · cases naming.keepExtension <;> simp [hsplit]
    · have hrejoin : Machine.utf8Text (stem ++ Path.dot :: extension) =
          Machine.utf8Text stem ++ '.' :: Machine.utf8Text extension :=
        Machine.utf8Text_ascii stem (by decide) extension
      cases naming.keepExtension <;> simp [hsplit, hrejoin]

theorem slash_not_mem_namedFor (naming : OutputNaming) (listing : Path) :
    '/' ∉ naming.namedFor listing := by
  intro h
  have hslash : Path.slash ∈
      ((if naming.keepExtension then listing.fileName? else listing.stem?).getD []) :=
    Machine.mem_utf8Text h (by decide) (by decide)
  rw [Path.stem?] at hslash
  cases hname : listing.fileName? with
  | none => cases hkeep : naming.keepExtension <;> simp [hname, hkeep] at hslash
  | some name =>
    have hnot := Path.slash_not_mem_fileName hname
    rcases Path.splitName_rejoin name with hsplit | ⟨stem, extension, hsplit, rfl⟩ <;>
      cases hkeep : naming.keepExtension <;> simp_all

theorem slash_not_mem_unstamped (naming : OutputNaming) (listing : Path) :
    Path.slash ∉ (Path.ofText (naming.unstamped listing)).bytes := by
  rw [Path.mem_ofText (by decide), unstamped_eq, List.mem_append, not_or]
  refine ⟨slash_not_mem_namedFor naming listing, ?_⟩
  cases naming.format <;> decide

/-- Outputs have one path exactly when they are named for the same. -/
theorem path_eq_iff (h : naming.timeStamp = false) (a b : Path) (now later : TimeStamp) :
    naming.path a now = naming.path b later ↔ naming.namedFor a = naming.namedFor b := by
  rw [path_unstamped h, path_unstamped h,
    Path.join_inj (slash_not_mem_unstamped naming a) (slash_not_mem_unstamped naming b),
    Path.ofText_inj, ← String.toList_inj, unstamped_eq, unstamped_eq, List.append_cancel_right_eq]

theorem unstamped_ne_dots (naming : OutputNaming) (listing : Path) {piece : Path.Piece}
    (h : ∀ b ∈ piece, b = Path.dot) : (Path.ofText (naming.unstamped listing)).bytes ≠ piece := by
  obtain ⟨c, hc, hdot, hascii⟩ :
      ∃ c ∈ naming.format.extension.toList, c.toNat ≠ Path.dot ∧ c.toNat < 128 := by
    cases naming.format with
    | xlsx | xml => exact ⟨'x', by decide⟩
    | csv => exact ⟨'c', by decide⟩
    | json => exact ⟨'j', by decide⟩
    | html => exact ⟨'h', by decide⟩
  rintro rfl
  refine hdot (h _ ?_)
  rw [Path.mem_ofText hascii, unstamped_eq, Char.ofNat_toNat]
  simp [hc]

theorem find_path_getLast? {store : Store} {listing : Path} {now : TimeStamp} {place : Place}
    (h : naming.timeStamp = false) (hfind : store.find (naming.path listing now) = .ok place) :
    place.getLast? = some (Path.ofText (naming.unstamped listing)).bytes := by
  have hlast : (naming.path listing now).pieces.getLast? =
      some (Path.ofText (naming.unstamped listing)).bytes := by
    obtain ⟨before, hsplit⟩ := List.getLast?_eq_some_iff.mp
      (Path.split_join_getLast? naming.directory (slash_not_mem_unstamped naming listing))
    have hempty : _ ≠ [] := unstamped_ne_dots naming listing (by simp)
    have hdot : _ ≠ [Path.dot] := unstamped_ne_dots naming listing (by simp)
    rw [path_unstamped h, Path.pieces, hsplit, List.filter_append]
    simp [hempty, hdot]
  obtain ⟨checked, -, hfollow⟩ := bind_eq_ok.mp hfind
  exact Store.follow_getLast? hlast
    (unstamped_ne_dots naming listing (by simp [Path.parentPiece])) hfollow

theorem path_eq_of_find {store : Store} {a b : Path} {now later : TimeStamp} {place : Place}
    (h : naming.timeStamp = false) (ha : store.find (naming.path a now) = .ok place)
    (hb : store.find (naming.path b later) = .ok place) :
    naming.path a now = naming.path b later := by
  have hlast := (find_path_getLast? h ha).symm.trans (find_path_getLast? h hb)
  rw [path_unstamped h, path_unstamped h, show Path.ofText (naming.unstamped a) = _ from
    congrArg Path.mk (Option.some.inj hlast)]

end OutputNaming

end ListingGrid
