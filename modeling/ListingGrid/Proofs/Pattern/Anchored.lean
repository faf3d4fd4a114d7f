import ListingGrid.Filter
import ListingGrid.Number.Format
import ListingGrid.Proofs.Outcomes
import ListingGrid.Proofs.Pattern.Branches
import ListingGrid.Proofs.Pattern.Words

/-!
# Patterns between marks

A filter is tried at the start of a line, and the pattern of a numeric format on a whole value: the
text of the pattern is put into a group between marks, and the whole is read as one pattern. This
says what it is meant to say unless the text closes the group itself.
-/

set_option autoImplicit false

namespace ListingGrid

namespace Pattern

def ended (b : Piece × State) : Except PatternError Piece :=
  if b.2.rest.isEmpty then .ok b.1 else .error .unopenedGroup

/-- Reads a whole text, however deep the pattern is nested and however large it is. -/
def readWhole (s : List Char) : Except PatternError Piece :=
  readBranches (s.length + 1) ⟨s, Flags.default, 0, []⟩ [] [] >>= ended

def withinLimits (piece : Piece) : Except PatternError Pattern :=
  if greatestDepth < piece.depth then .error .tooDeep
  else if piece.pattern.isTooLarge then .error .tooLarge
  else .ok piece.pattern

/-- What does not close a group itself is read to its end. -/
theorem ended_eq_ok {b : Piece × State} (h : ended b ≠ .error .unopenedGroup) :
    ended b = .ok b.1 ∧ b.2.rest = [] := by
  obtain ⟨piece, rest, flags, groups, names⟩ := b
  cases rest with
  | nil => exact ⟨rfl, rfl⟩
  | cons c r => exact absurd rfl h

theorem ofChars_eq (s : List Char) : ofChars s = readWhole s >>= withinLimits := by
  unfold ofChars readWhole
  rw [bind_assoc]
  refine bind_congr fun ⟨piece, after⟩ => ?_
  simp only [ended]
  cases after.rest with
  | nil => rfl
  | cons c r => rfl

theorem withinLimits_eq_ok {piece : Piece} {p : Pattern} :
    withinLimits piece = .ok p ↔
      piece.depth ≤ greatestDepth ∧ piece.pattern.isTooLarge = false ∧ p = piece.pattern := by
  unfold withinLimits
  split
  · next h => exact ⟨(nomatch ·), fun hle => absurd hle.1 (Nat.not_le.mpr h)⟩
  · next h =>
    split
    · next hlarge => simp [hlarge]
    · next hlarge => simp [hlarge, Nat.not_lt.mp h, eq_comm]

/-- What is asked for behind a pattern that is put between marks. -/
inductive Ending where
  | anywhere
  | textEnd

namespace Ending

def text : Ending → List Char
  | anywhere => []
  | textEnd => ['$']

def parts : Ending → List Pattern
  | anywhere => []
  | textEnd => [.look .textEnd]

def tail (ending : Ending) : Tail where
  chars := ')' :: ending.text
  closes := by simp
  plain := by cases ending <;> simp [text]

/-- Behind the closing parenthesis there is no other one. -/
theorem past_ne_close {ending : Ending} {t : List Char} (h : Past ending.tail t) (r : List Char) :
    t ≠ ')' :: r := by
  rintro rfl
  rcases List.suffix_cons_iff.mp (Shortens.suffix h) with hwhole | hsuffix
  · exact absurd (congrArg List.length hwhole) (Nat.ne_of_lt (Shortens.shorter h))
  · have hmem : ')' ∈ ending.text := hsuffix.subset List.mem_cons_self
    cases ending <;> simp [text] at hmem

end Ending

def markedText (ending : Ending) (s : List Char) : List Char :=
  "^(?:".toList ++ (s ++ ending.tail.chars)

/-- What the text of a pattern between marks is meant to say. -/
def marked (ending : Ending) (p : Pattern) : Pattern :=
  inOrder (.look .textStart :: p :: ending.parts)

variable {ending : Ending} {s : List Char} {piece : Piece}

theorem readBranches_marked (ending : Ending) (n : Nat) (p : Pattern) (depth groups : Nat)
    (names : List (List Char)) :
    readBranches (n + 2) ⟨ending.text, Flags.default, groups, names⟩
      [⟨p, depth + 1, true⟩, linePiece Flags.default true] [] =
        .ok (⟨marked ending p, depth + 2, true⟩, ⟨[], Flags.default, groups, names⟩) := by
  cases ending with
  | anywhere =>
    have hdepth : max (max 1 (depth + 1 + 1)) (0 + 1) = depth + 2 := by omega
    rw [← hdepth]
    rfl
  | textEnd =>
    have hdepth : max (max (max 1 (0 + 1)) (depth + 1 + 1)) (0 + 1) = depth + 2 := by omega
    rw [← hdepth]
    rfl

theorem readWhole_marked (ending : Ending) (s : List Char) :
    readWhole (markedText ending s) =
      (readBranches ((s ++ ending.tail.chars).length + 3)
        ⟨s ++ ending.tail.chars, Flags.default, 0, []⟩ [] [] >>=
          closeGroup ((s ++ ending.tail.chars).length + 3) ⟨[], Flags.default, 0, []⟩ false
            [linePiece Flags.default true] []) >>= ended := by
  rfl

/-- The group between the marks is closed behind its pattern. -/
theorem closeGroup_marked (ending : Ending) (n : Nat) (piece : Piece) (flags : Flags) (groups : Nat)
    (names : List (List Char)) :
    closeGroup (n + 3) ⟨[], Flags.default, 0, []⟩ false [linePiece Flags.default true] []
        (piece, ⟨ending.tail.chars, flags, groups, names⟩) =
      .ok (⟨marked ending piece.pattern, piece.depth + 2, true⟩,
        ⟨[], Flags.default, groups, names⟩) :=
  readBranches_marked ..

/-- A text that does not close a group itself is read between marks as it is read alone, if the
closing parenthesis behind it is not taken as part of a comment. -/
theorem readWhole_marked_eq_ok (h : readWhole s ≠ .error .unopenedGroup) {q : Piece} :
    readWhole (markedText ending s) = .ok q ↔
      ∃ piece, readWhole s = .ok piece ∧
        readWhole (s ++ ending.tail.chars) = .error .unopenedGroup ∧
          q = ⟨marked ending piece.pattern, piece.depth + 2, true⟩ := by
  have hfollows := readBranches_follows ending.tail (s.length + 1)
    ((s ++ ending.tail.chars).length + 3) ⟨s, Flags.default, 0, []⟩ (s ++ ending.tail.chars) [] []
    (.append ..) (Nat.lt_succ_self _) (by omega)
  have hfuel : ∀ b, readBranches ((s ++ ending.tail.chars).length + 3)
      ⟨s ++ ending.tail.chars, Flags.default, 0, []⟩ [] [] = .ok b →
        readWhole (s ++ ending.tail.chars) = ended b := by
    intro b hb
    rw [readWhole, readBranches_fuel (by simp) (by simp) hb]
    rfl
  rw [readWhole_marked]
  simp only at hfollows
  generalize hread : readBranches (s.length + 1) ⟨s, Flags.default, 0, []⟩ [] [] = x at hfollows
  generalize readBranches ((s ++ ending.tail.chars).length + 3)
    ⟨s ++ ending.tail.chars, Flags.default, 0, []⟩ [] [] = x' at hfollows hfuel ⊢
  have hwhole : readWhole s = x >>= ended := by rw [readWhole, hread]
  cases hfollows with
  | fails e e' =>
    rw [hwhole]
    exact ⟨(nomatch ·), fun ⟨_, h, _⟩ => nomatch h⟩
  | @apart e b' hpast =>
    rw [hwhole]
    refine ⟨fun hq => ?_, fun ⟨_, h, _⟩ => nomatch h⟩
    change closeGroup _ _ _ _ _ b' >>= _ = _ at hq
    rw [closeGroup_error (Ending.past_ne_close hpast)] at hq
    exact nomatch hq
  | @ok b b' hsame =>
    obtain ⟨piece, after⟩ := b
    obtain ⟨piece', after'⟩ := b'
    obtain ⟨hpiece, rest', rfl, hrest⟩ := hsame
    obtain rfl : piece' = piece := hpiece
    change readWhole s = ended (piece', after) at hwhole
    obtain ⟨hok, hafter⟩ := ended_eq_ok (hwhole ▸ h)
    rw [hafter] at hrest
    rw [hwhole, hok, hfuel _ rfl]
    simp only [Except.ok.injEq, exists_eq_left']
    rcases hrest with hrest | ⟨-, hrest⟩
    · obtain rfl : rest' = ending.tail.chars := hrest
      change closeGroup _ _ _ _ _ (piece', ⟨ending.tail.chars, _, _, _⟩) >>= _ = _ ↔ _
      rw [closeGroup_marked]
      constructor
      · intro hq
        exact ⟨rfl, (Except.ok.inj hq).symm⟩
      · rintro ⟨-, rfl⟩
        rfl
    · obtain rfl : rest' = [] := hrest
      constructor
      · exact fun hq => nomatch hq
      · exact fun hq => nomatch hq.1

/-- Whether the text of a pattern is accepted between marks: it is read by itself, the closing
parenthesis behind it is not taken as part of a comment, and the pattern between the marks keeps to
the limits. -/
structure Accepted (ending : Ending) (s : List Char) (piece : Piece) : Prop where
  read : readWhole s = .ok piece
  closed : readWhole (s ++ ending.tail.chars) = .error .unopenedGroup
  shallow : piece.depth + 2 ≤ greatestDepth
  small : (marked ending piece.pattern).isTooLarge = false

/-- A text that is accepted between marks is a pattern by itself, unless it alone is too large. -/
theorem Accepted.valid (h : Accepted ending s piece) (hsmall : piece.pattern.isTooLarge = false) :
    ofChars s = .ok piece.pattern := by
  rw [ofChars_eq, h.read]
  exact withinLimits_eq_ok.mpr ⟨Nat.le_trans (Nat.le_add_right ..) h.shallow, hsmall, rfl⟩

theorem ofChars_markedText (h : readWhole s ≠ .error .unopenedGroup) {p : Pattern} :
    ofChars (markedText ending s) = .ok p ↔
      ∃ piece, Accepted ending s piece ∧ p = marked ending piece.pattern := by
  have hbind : readWhole (markedText ending s) >>= withinLimits = .ok p ↔
      ∃ q, readWhole (markedText ending s) = .ok q ∧ withinLimits q = .ok p := by
    cases readWhole (markedText ending s) with
    | error e => exact ⟨(nomatch ·), fun ⟨_, hq, _⟩ => nomatch hq⟩
    | ok q => exact ⟨fun hp => ⟨q, rfl, hp⟩, fun ⟨_, hq, hp⟩ => Except.ok.inj hq ▸ hp⟩
  rw [ofChars_eq, hbind]
  constructor
  · rintro ⟨q, hq, hp⟩
    obtain ⟨piece, hread, hclosed, rfl⟩ := (readWhole_marked_eq_ok h).mp hq
    obtain ⟨hshallow, hsmall, rfl⟩ := withinLimits_eq_ok.mp hp
    exact ⟨piece, ⟨hread, hclosed, hshallow, hsmall⟩, rfl⟩
  · rintro ⟨piece, haccepted, rfl⟩
    exact ⟨_, (readWhole_marked_eq_ok h).mpr ⟨piece, haccepted.read, haccepted.closed, rfl⟩,
      withinLimits_eq_ok.mpr ⟨haccepted.shallow, haccepted.small, rfl⟩⟩

theorem matches_le {text : Array Char} {p : Pattern} {i j : Nat} (hi : i ≤ text.size)
    (h : Matches text p i j) : j ≤ text.size := by
  have hstart : Positions text.size [i] := ⟨List.pairwise_singleton _ i, by simpa using hi⟩
  have hcarries := carries_ends text p
  exact (hcarries.positions hstart).within j ((hcarries.mem hstart j).mpr ⟨i, by simp, h⟩)

theorem matches_marked {text : Array Char} {p : Pattern} {i j : Nat} :
    Matches text (marked ending p) i j ↔
      i = 0 ∧ ∃ k, Matches text p 0 k ∧ Matches text (inOrder ending.parts) k j := by
  simp only [marked, matches_inOrder_cons, Matches, Look.holds, beq_iff_eq]
  constructor
  · rintro ⟨k, ⟨rfl, rfl⟩, h⟩
    exact ⟨rfl, h⟩
  · rintro ⟨rfl, h⟩
    exact ⟨0, ⟨rfl, rfl⟩, h⟩

theorem isMatch_marked_anywhere (p : Pattern) (text : List Char) :
    isMatch (marked .anywhere p) text = true ↔ ∃ j ≤ text.length, Matches text.toArray p 0 j := by
  rw [isMatch_iff]
  simp only [matches_marked]
  constructor
  · rintro ⟨i, -, j, -, k, hk, -⟩
    exact ⟨k, matches_le (Nat.zero_le _) hk, hk⟩
  · rintro ⟨j, -, hj⟩
    exact ⟨0, Nat.zero_le _, j, rfl, j, hj, rfl⟩

theorem isMatch_marked_textEnd (p : Pattern) (text : List Char) :
    isMatch (marked .textEnd p) text = true ↔ Matches text.toArray p 0 text.length := by
  have hend : ∀ k j, Matches text.toArray (inOrder Ending.textEnd.parts) k j ↔
      k = j ∧ k = text.length := by
    intro k j
    simp only [Ending.parts, matches_inOrder_cons, Matches, Look.holds, beq_iff_eq,
      List.size_toArray]
    constructor
    · rintro ⟨k', ⟨rfl, hk⟩, hj⟩
      exact ⟨hj, hk⟩
    · rintro ⟨rfl, hk⟩
      exact ⟨k, ⟨rfl, hk⟩, rfl⟩
  rw [isMatch_iff]
  simp only [matches_marked, hend]
  constructor
  · rintro ⟨i, -, j, -, k, hk, -, rfl⟩
    exact hk
  · intro h
    exact ⟨0, Nat.zero_le _, text.length, rfl, text.length, h, rfl, rfl⟩

end Pattern

open Pattern

variable {p : String}

theorem LineFilter.ofPattern_eq_ok (h : readWhole p.toList ≠ .error .unopenedGroup)
    {filter : LineFilter} :
    LineFilter.ofPattern p = .ok filter ↔
      ∃ piece, Accepted .anywhere p.toList piece ∧
        filter = ⟨p, marked .anywhere piece.pattern⟩ := by
  have hbuilt : LineFilter.ofPattern p = .ok filter ↔
      ∃ q, ofChars (markedText .anywhere p.toList) = .ok q ∧ filter = ⟨p, q⟩ := by
    have htext : LineFilter.anchored p.toList = markedText .anywhere p.toList := by
      simp [LineFilter.anchored, markedText, Ending.tail, Ending.text]
    rw [LineFilter.ofPattern, htext]
    cases ofChars (markedText .anywhere p.toList) with
    | error e => exact ⟨(nomatch ·), fun ⟨_, hq, _⟩ => nomatch hq⟩
    | ok q => exact ⟨fun hp => ⟨q, rfl, (Except.ok.inj hp).symm⟩,
        fun ⟨_, hq, hp⟩ => by rw [hp, ← Except.ok.inj hq]; rfl⟩
  rw [hbuilt]
  constructor
  · rintro ⟨q, hq, rfl⟩
    obtain ⟨piece, haccepted, rfl⟩ := (ofChars_markedText h).mp hq
    exact ⟨piece, haccepted, rfl⟩
  · rintro ⟨piece, haccepted, rfl⟩
    exact ⟨_, (ofChars_markedText h).mpr ⟨piece, haccepted, rfl⟩, rfl⟩

theorem NumericFormat.build_eq_ok (h : readWhole p.toList ≠ .error .unopenedGroup)
    {tag : NumericTag} {thousands decimalMark : Option Char} {kind : NumericKind}
    (hseparators : ∀ c, ¬(thousands = some c ∧ decimalMark = some c)) {format : NumericFormat} :
    NumericFormat.build tag p thousands decimalMark kind = .ok format ↔
      ∃ piece, Accepted .textEnd p.toList piece ∧
        format = ⟨tag, p, marked .textEnd piece.pattern, thousands, decimalMark, kind⟩ := by
  have htext : NumericFormat.anchored p.toList = markedText .textEnd p.toList := by
    simp [NumericFormat.anchored, markedText, Ending.tail, Ending.text]
  have hcompile : NumericFormat.build tag p thousands decimalMark kind =
      NumericFormat.build.compile tag p thousands decimalMark kind := by
    unfold NumericFormat.build
    split
    · next t d =>
      rw [if_neg]
      rintro rfl
      exact hseparators t ⟨rfl, rfl⟩
    · rfl
  rw [hcompile, NumericFormat.build.compile, htext]
  constructor
  · intro hformat
    split at hformat
    · next q hq =>
      obtain ⟨piece, haccepted, rfl⟩ := (ofChars_markedText h).mp hq
      exact ⟨piece, haccepted, (Except.ok.inj hformat).symm⟩
    · exact nomatch hformat
  · rintro ⟨piece, haccepted, rfl⟩
    rw [(ofChars_markedText h).mpr ⟨piece, haccepted, rfl⟩]

/-- The text that a format refuses for its pattern is the text that the pattern does not match. -/
theorem NumericFormat.toNumber_follows (format : NumericFormat) {value : String} (h : value ≠ "") :
    (∀ m, format.toNumber value = .error m → m.reason ≠ .pattern) ↔
      format.compiled.isMatch value.toList = true := by
  have hne : value.toList.isEmpty = false := by
    rw [List.isEmpty_eq_false_iff]
    exact fun hnil => h (String.toList_injective hnil)
  unfold NumericFormat.toNumber
  simp only [hne, Bool.false_eq_true, if_false]
  cases format.compiled.isMatch value.toList with
  | false => simp
  | true =>
    simp only [Bool.not_true, Bool.false_eq_true, if_false, iff_true]
    intro m hm
    split at hm
    · exact nomatch hm
    · rw [← Except.error.inj hm]
      exact nofun

/-- The text of a filter or of a numeric format that does not close a group itself says between the
marks what it says alone. -/
theorem patterns_between_marks (p : String) (h : readWhole p.toList ≠ .error .unopenedGroup) :
    ((∃ filter, LineFilter.ofPattern p = .ok filter) ↔ ∃ piece, Accepted .anywhere p.toList piece) ∧
    (∀ filter, LineFilter.ofPattern p = .ok filter →
      ∃ piece, readWhole p.toList = .ok piece ∧ ∀ line : String, filter.isMatch line = true ↔
        ∃ j ≤ line.toList.length, Matches line.toList.toArray piece.pattern 0 j) ∧
    ∀ (tag : NumericTag) (thousands decimalMark : Option Char) (kind : NumericKind),
      (∀ c, ¬(thousands = some c ∧ decimalMark = some c)) →
      ((∃ format, NumericFormat.build tag p thousands decimalMark kind = .ok format) ↔
        ∃ piece, Accepted .textEnd p.toList piece) ∧
      ∀ format, NumericFormat.build tag p thousands decimalMark kind = .ok format →
        ∃ piece, readWhole p.toList = .ok piece ∧ ∀ value : String, value ≠ "" →
          ((∀ m, format.toNumber value = .error m → m.reason ≠ .pattern) ↔
            Matches value.toList.toArray piece.pattern 0 value.toList.length) := by
  refine ⟨⟨?_, ?_⟩, ?_, fun tag thousands decimalMark kind hseparators => ⟨⟨?_, ?_⟩, ?_⟩⟩
  · rintro ⟨filter, hfilter⟩
    obtain ⟨piece, haccepted, -⟩ := (LineFilter.ofPattern_eq_ok h).mp hfilter
    exact ⟨piece, haccepted⟩
  · rintro ⟨piece, haccepted⟩
    exact ⟨_, (LineFilter.ofPattern_eq_ok h).mpr ⟨piece, haccepted, rfl⟩⟩
  · intro filter hfilter
    obtain ⟨piece, haccepted, rfl⟩ := (LineFilter.ofPattern_eq_ok h).mp hfilter
    exact ⟨piece, haccepted.read, fun line => isMatch_marked_anywhere ..⟩
  · rintro ⟨format, hformat⟩
    obtain ⟨piece, haccepted, -⟩ := (NumericFormat.build_eq_ok h hseparators).mp hformat
    exact ⟨piece, haccepted⟩
  · rintro ⟨piece, haccepted⟩
    exact ⟨_, (NumericFormat.build_eq_ok h hseparators).mpr ⟨piece, haccepted, rfl⟩⟩
  · intro format hformat
    obtain ⟨piece, haccepted, rfl⟩ := (NumericFormat.build_eq_ok h hseparators).mp hformat
    refine ⟨piece, haccepted.read, fun value hvalue => ?_⟩
    rw [NumericFormat.toNumber_follows _ hvalue]
    exact isMatch_marked_textEnd ..

theorem patterns_between_marks_optional :
    readWhole "ab?".toList ≠ .error .unopenedGroup ∧
    (∃ filter piece, LineFilter.ofPattern "ab?" = .ok filter ∧
      Accepted .anywhere "ab?".toList piece ∧
      filter.isMatch "abc" = true ∧ filter.isMatch "cab" = false ∧
        ∃ j ≤ "abc".toList.length, Matches "abc".toList.toArray piece.pattern 0 j) ∧
    ∃ piece, Accepted .textEnd "ab?".toList piece := by
  have hread : readWhole "ab?".toList ≠ .error .unopenedGroup := by
    obtain ⟨piece, hpiece, -⟩ := ok_of_toOption (f := Piece.depth)
      (show (readWhole "ab?".toList).toOption.map Piece.depth = some 2 by decide +kernel)
    rw [hpiece]
    exact nofun
  obtain ⟨filter, hfilter, hmatch⟩ := ok_of_toOption
    (f := fun filter : LineFilter => (filter.isMatch "abc", filter.isMatch "cab"))
    (show (LineFilter.ofPattern "ab?").toOption.map _ = some (true, false) by decide +kernel)
  obtain ⟨format, hformat, -⟩ := ok_of_toOption (f := fun format : NumericFormat => format.tag)
    (show (NumericFormat.build .integer "ab?" none none .integer).toOption.map _ = some .integer by
      decide +kernel)
  obtain ⟨haccepted, hmeaning, hformats⟩ := patterns_between_marks "ab?" hread
  obtain ⟨piece, hpiece⟩ := haccepted.mp ⟨filter, hfilter⟩
  obtain ⟨piece', hread', hlines⟩ := hmeaning filter hfilter
  obtain rfl : piece' = piece := Except.ok.inj (hread'.symm.trans hpiece.read)
  obtain ⟨habc, hcab⟩ := Prod.mk.inj hmatch
  exact ⟨hread, ⟨filter, piece', hfilter, hpiece, habc, hcab, (hlines "abc").mp habc⟩,
    (hformats .integer none none .integer nofun).1.mp ⟨format, hformat⟩⟩

/-- A text that closes the group itself is no pattern alone. The filter that is made of it is tried
anywhere in a line, and the format that is made of it takes more than whole values. -/
theorem closing_pattern_not_anchored :
    ofChars "a)|(?:b".toList = .error .unopenedGroup ∧
    (∃ filter, LineFilter.ofPattern "a)|(?:b" = .ok filter ∧ filter.isMatch "xb" = true) ∧
    ∃ format, NumericFormat.build .integer "a)|(?:b" none none .integer = .ok format ∧
      format.compiled.isMatch "xb".toList = true := by
  refine ⟨by rfl, ?_, ?_⟩
  · exact ok_of_toOption (by decide +kernel)
  · exact ok_of_toOption (by decide +kernel)

end ListingGrid
