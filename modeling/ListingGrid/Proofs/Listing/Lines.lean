import ListingGrid.Listing.LineReader
import ListingGrid.Proofs.Listing.Decoded

/-!
# Lines of a listing

A listing gives the lines of the text that its bytes stand for, however its source
divides them: the pieces between the line feeds. When the source fails, it gives those
that a line feed has ended, then the failure and nothing more. This holds of the reader
that is asked for one line after the other and of the reading of all at once.
-/

set_option autoImplicit false

namespace ListingGrid

namespace Answer

/-- The bytes that a source gives until it ends or fails. -/
def bytes : List Answer → List Nat
  | .interrupted :: more => bytes more
  | .block (b :: others) :: more => b :: others ++ bytes more
  | [] | (.block []) :: _ | .failed _ :: _ => []

/-- The failure that ends a source, unless it ends without one. -/
def failure? : List Answer → Option FileError
  | .interrupted :: more => failure? more
  | .block (_ :: _) :: more => failure? more
  | .failed cause :: _ => some cause
  | [] | (.block []) :: _ => none

end Answer

namespace LineReader

/-- The lines of a text of which a line feed ends each. -/
def endedLines (text : List Char) : List String := (text.splitOn '\n').dropLast.map lineText

/-- The lines of a whole text. There is no last one without characters. -/
def allLines (text : List Char) : List String :=
  (if (text.splitOn '\n').getLast? = some [] then (text.splitOn '\n').dropLast
    else text.splitOn '\n').map lineText

/-- What a listing gives: the lines of its text, or those that were ended before the
source failed, and the failure. -/
def given (encoding : Encoding) (source : List Answer) : List (Except FileError String) :=
  match Answer.failure? source with
  | none => (allLines (Decoder.decode encoding (Answer.bytes source))).map .ok
  | some cause =>
    (endedLines (Decoder.decodeFront encoding (Answer.bytes source))).map .ok ++ [.error cause]

variable {line behind unread text : List Char}

/-- A text is one without a line feed, or a line in front of a text. -/
@[elab_as_elim]
theorem induction_lines {motive : List Char → Prop}
    (line : ∀ line behind, '\n' ∉ line → motive behind → motive (line ++ '\n' :: behind))
    (last : ∀ text, '\n' ∉ text → motive text) (text : List Char) : motive text := by
  induction hn : text.length using Nat.strongRecOn generalizing text with
  | ind n ih =>
    by_cases hmem : '\n' ∈ text
    · obtain ⟨front, behind, rfl, hfront⟩ := List.eq_append_cons_of_mem hmem
      exact line front behind hfront (ih behind.length (by simp [← hn]; omega) behind rfl)
    · exact last text hmem

theorem cutLine?_line (h : '\n' ∉ line) : cutLine? (line ++ '\n' :: behind) = some (line, behind) := by
  induction line with
  | nil => simp [cutLine?]
  | cons c line ih =>
    obtain ⟨hc, hline⟩ : '\n' ≠ c ∧ '\n' ∉ line := by simpa using h
    simp [cutLine?, Ne.symm hc, ih hline]

theorem cutLine?_open (h : '\n' ∉ text) : cutLine? text = none := by
  induction text with
  | nil => rfl
  | cons c text ih =>
    obtain ⟨hc, htext⟩ : '\n' ≠ c ∧ '\n' ∉ text := by simpa using h
    simp [cutLine?, Ne.symm hc, ih htext]

theorem splitOn_of_not_mem (h : '\n' ∉ text) : text.splitOn '\n' = [text] :=
  List.splitOnP_eq_singleton fun c hc => by
    have hne : c ≠ '\n' := by
      rintro rfl
      exact h hc
    simpa using hne

theorem splitOn_line (h : '\n' ∉ line) :
    (line ++ '\n' :: behind).splitOn '\n' = line :: behind.splitOn '\n' := by
  refine List.splitOnP_append_cons_of_forall_mem (fun c hc => ?_) '\n' (by simp) behind
  have hne : c ≠ '\n' := by
    rintro rfl
    exact h hc
  simpa using hne

theorem splitOn_ne_nil : text.splitOn '\n' ≠ [] := List.splitOnP_ne_nil _ _

theorem endedLines_line (h : '\n' ∉ line) :
    endedLines (line ++ '\n' :: behind) = lineText line :: endedLines behind := by
  rw [endedLines, splitOn_line h, List.dropLast_cons_of_ne_nil splitOn_ne_nil]
  rfl

theorem allLines_line (h : '\n' ∉ line) :
    allLines (line ++ '\n' :: behind) = lineText line :: allLines behind := by
  have hlast : (line :: behind.splitOn '\n').getLast? = (behind.splitOn '\n').getLast? := by
    rw [List.getLast?_cons_of_ne_nil splitOn_ne_nil]
  simp only [allLines, splitOn_line h, hlast]
  split
  · rw [List.dropLast_cons_of_ne_nil splitOn_ne_nil]
    rfl
  · rfl

theorem endedLines_open (h : '\n' ∉ text) : endedLines text = [] := by
  rw [endedLines, splitOn_of_not_mem h]
  rfl

theorem allLines_open (h : '\n' ∉ text) :
    allLines text = if text.isEmpty then [] else [lineText text] := by
  rw [allLines, splitOn_of_not_mem h]
  cases text <;> simp

def givenFrom (decoder : Decoder) (unread : List Char) (source : List Answer) :
    List (Except FileError String) :=
  match Answer.failure? source with
  | none => (allLines (unread ++ decoder.decodeRest (Answer.bytes source))).map .ok
  | some cause =>
    (endedLines (unread ++ (decoder.feed (Answer.bytes source)).2)).map .ok ++ [.error cause]

/-- The reader gives these and nothing behind them, however often it is asked. -/
def Gives (r : LineReader) (items : List (Except FileError String)) : Prop :=
  ∀ k, call k r = items[k]?

variable {r after : LineReader} {items : List (Except FileError String)}
  {item : Except FileError String} {decoder : Decoder} {source : List Answer}

theorem Gives.cons (hnext : r.next = (some item, after)) (h : Gives after items) :
    Gives r (item :: items) := by
  intro k
  cases k with
  | zero => simp [call, hnext]
  | succ k => simpa [call, hnext] using h k

theorem Gives.congr (h : Gives after items) (hnext : r.next = after.next) : Gives r items := by
  intro k
  rw [← h k]
  cases k <;> simp [call, hnext]

theorem gives_nothing : Gives (.ended []) [] := by
  intro k
  induction k with
  | zero => rfl
  | succ k ih => simpa [call, next, nextEnded, cutLine?] using ih

/-- A reader that let go of its source gives the lines of the text at hand. -/
theorem gives_ended (unread : List Char) : Gives (.ended unread) ((allLines unread).map .ok) := by
  induction unread using induction_lines with
  | line line behind hline ih =>
    rw [allLines_line hline]
    refine Gives.cons ?_ ih
    simp [next, nextEnded, cutLine?_line hline]
  | last text htext =>
    rw [allLines_open htext]
    by_cases hempty : text.isEmpty = true
    · rw [if_pos hempty]
      obtain rfl : text = [] := by simpa using hempty
      exact gives_nothing
    · rw [if_neg hempty]
      refine Gives.cons ?_ gives_nothing
      simp [next, nextEnded, cutLine?_open htext, hempty]

theorem givenFrom_line (hline : '\n' ∉ line) :
    givenFrom decoder (line ++ '\n' :: behind) source =
      .ok (lineText line) :: givenFrom decoder behind source := by
  unfold givenFrom
  split <;> simp [allLines_line hline, endedLines_line hline]

theorem givenFrom_block (b : Nat) (others : List Nat) :
    givenFrom decoder text (.block (b :: others) :: source) =
      givenFrom (decoder.feed (b :: others)).1 (text ++ (decoder.feed (b :: others)).2) source := by
  simp only [givenFrom, Answer.failure?, Answer.bytes]
  rw [Decoder.decodeRest_append, Decoder.feed_append]
  simp

/-- Lines that are complete are given out before the source is asked again. -/
theorem gives_of_open
    (h : ∀ text, '\n' ∉ text → Gives (.reading source decoder text) (givenFrom decoder text source))
    (unread : List Char) : Gives (.reading source decoder unread) (givenFrom decoder unread source) := by
  induction unread using induction_lines with
  | line line behind hline ih =>
    rw [givenFrom_line hline]
    refine Gives.cons ?_ ih
    rw [next, nextFrom.eq_def, cutLine?_line hline]
  | last text htext => exact h text htext

/-- A reader gives what its source and the text at hand tell. -/
theorem gives_reading (source : List Answer) (decoder : Decoder) (unread : List Char) :
    Gives (.reading source decoder unread) (givenFrom decoder unread source) := by
  induction source generalizing decoder unread with
  | nil =>
    refine gives_of_open (fun text htext => ?_) unread
    refine (gives_ended (text ++ decoder.finish.1)).congr ?_
    rw [next, nextFrom, cutLine?_open htext]
    rfl
  | cons answer more ih =>
    refine gives_of_open (fun text htext => ?_) unread
    match answer with
    | .interrupted =>
      refine Gives.congr (ih decoder text) ?_
      rw [next, nextFrom, cutLine?_open htext]
      rfl
    | .failed cause =>
      have hgiven : givenFrom decoder text (.failed cause :: more) = [.error cause] := by
        simp [givenFrom, Answer.failure?, Answer.bytes, Decoder.feed, Decoder.feedOnto,
          endedLines_open htext]
      rw [hgiven]
      refine Gives.cons ?_ gives_nothing
      rw [next, nextFrom, cutLine?_open htext]
    | .block [] =>
      refine Gives.congr (gives_ended (text ++ decoder.finish.1)) ?_
      rw [next, nextFrom, cutLine?_open htext]
      rfl
    | .block (b :: others) =>
      rw [givenFrom_block]
      refine Gives.congr (ih _ _) ?_
      rw [next, nextFrom, cutLine?_open htext]
      rfl

end LineReader

namespace Reading

open LineReader

variable {text : List Char}

def openLine (text : List Char) : List Char := ((text.splitOn '\n').getLast?).getD []

theorem openLine_line {line behind : List Char} (h : '\n' ∉ line) :
    openLine (line ++ '\n' :: behind) = openLine behind := by
  rw [openLine, splitOn_line h, List.getLast?_cons_of_ne_nil splitOn_ne_nil]
  rfl

theorem openLine_open (h : '\n' ∉ text) : openLine text = text := by
  rw [openLine, splitOn_of_not_mem h]
  rfl

theorem not_mem_openLine (text : List Char) : '\n' ∉ openLine text := by
  induction text using induction_lines with
  | line line behind hline ih => rwa [openLine_line hline]
  | last text htext => rwa [openLine_open htext]

/-- Lines that are ended come before all that follows. -/
theorem givenFrom_ended (decoder : Decoder) (text : List Char) (source : List Answer) :
    givenFrom decoder text source =
      (endedLines text).map .ok ++ givenFrom decoder (openLine text) source := by
  induction text using induction_lines with
  | line line behind hline ih =>
    rw [givenFrom_line hline, endedLines_line hline, openLine_line hline, ih]
    rfl
  | last text htext =>
    rw [endedLines_open htext, openLine_open htext]
    rfl

/-- All lines are the ended ones and the open one, unless that has no characters. -/
theorem allLines_eq (text : List Char) :
    allLines text =
      endedLines text ++ if (openLine text).isEmpty then [] else [lineText (openLine text)] := by
  have hpieces : text.splitOn '\n' = (text.splitOn '\n').dropLast ++ [openLine text] := by
    rw [openLine, List.getLast?_eq_some_getLast splitOn_ne_nil]
    exact (List.dropLast_concat_getLast splitOn_ne_nil).symm
  have hlast : (text.splitOn '\n').getLast? = some (openLine text) := by
    rw [hpieces, List.getLast?_concat]
  rw [allLines, endedLines, hlast]
  by_cases hempty : openLine text = []
  · simp [hempty]
  · rw [if_neg (by simpa using hempty), if_neg (by simpa using hempty)]
    exact (congrArg (List.map lineText) hpieces).trans (by simp)

theorem lineOf_reverse (line : List Char) : lineOf line.reverse = lineText line := by
  rcases List.eq_nil_or_concat line with rfl | ⟨front, c, rfl⟩
  · rfl
  · by_cases hc : c = '\r'
    · simp [lineOf, lineText, Text.dropReturn, hc]
    · simp [lineOf, lineText, Text.dropReturn, hc]

/-- Cutting keeps the complete lines, the last first, and the open one. -/
theorem cut_eq (chars : List Char) {current : List Char} (h : '\n' ∉ current) (lines : List String) :
    cut chars current lines =
      ((endedLines (current.reverse ++ chars)).reverse ++ lines,
        (openLine (current.reverse ++ chars)).reverse) := by
  induction chars generalizing current lines with
  | nil =>
    have hopen : '\n' ∉ current.reverse ++ [] := by simpa using h
    rw [endedLines_open hopen, openLine_open hopen]
    simp [cut]
  | cons c chars ih =>
    by_cases hc : c = '\n'
    · subst hc
      have hopen : '\n' ∉ current.reverse := by simpa using h
      rw [cut, if_pos rfl, ih (by simp), endedLines_line hopen, openLine_line hopen]
      simp [← lineOf_reverse]
    · rw [cut, if_neg hc, ih (by simp [h, Ne.symm hc])]
      simp

/-- What a reading holds: its lines and its failure. -/
def results (reading : Reading) : List (Except FileError String) :=
  reading.lines.map .ok ++ reading.failure.toList.map .error

theorem results_lines (lines : List String) (reading : Reading) :
    results ⟨lines.map .line ++ reading.items, reading.failure⟩ = lines.map .ok ++ results reading := by
  simp [results, Reading.lines, List.filterMap_append, Function.comp_def, Item.text?]

theorem finish_results (decoder : Decoder) {current : List Char} (h : '\n' ∉ current) :
    results (finish decoder current) = (allLines (current.reverse ++ decoder.finish.1)).map .ok := by
  unfold finish
  simp only [cut_eq decoder.finish.1 h, allLines_eq, lineOf_reverse]
  cases decoder.finish.2 <;> cases hopen : openLine (current.reverse ++ decoder.finish.1) <;>
    simp [results, Reading.lines, List.filterMap_append, List.filterMap_cons, Function.comp_def,
      Item.text?]

theorem readFrom_results (source : List Answer) (decoder : Decoder) {current : List Char}
    (h : '\n' ∉ current) :
    results (readFrom decoder current source) = givenFrom decoder current.reverse source := by
  induction source generalizing decoder current with
  | nil => exact finish_results decoder h
  | cons answer more ih =>
    match answer with
    | .interrupted => exact ih decoder h
    | .failed cause =>
      simp [results, readFrom, Reading.lines, givenFrom, Answer.failure?, Answer.bytes, Decoder.feed,
        Decoder.feedOnto, endedLines_open, h]
    | .block [] => exact finish_results decoder h
    | .block (b :: others) =>
      rw [readFrom, if_neg (by simp), givenFrom_block, givenFrom_ended]
      simp only [cut_eq _ h, List.append_nil, List.reverse_reverse]
      rw [results_lines, ih _ (by simpa using not_mem_openLine _), List.reverse_reverse]

end Reading

/-- However a source divides its bytes, and wherever it is interrupted, a listing gives the
lines of the text that they stand for. Asked for one line after the other, its reader
gives just these, and then nothing; the reading of all at once holds the same. -/
theorem LineReader.gives_text (encoding : Encoding) (source : List Answer) :
    (∀ k, call k (start encoding source) = (given encoding source)[k]?) ∧
      (Reading.ofAnswers encoding source).results = given encoding source :=
  ⟨gives_reading source (Decoder.start encoding) [],
    Reading.readFrom_results source (Decoder.start encoding) (by simp)⟩

/-- A byte order mark and a line end, both divided between two blocks. -/
example :
    (List.range 4).map (LineReader.call · (LineReader.start .utf8 [.block [0xEF, 0xBB], .interrupted,
      .block [0xBF, 0x61, 0x0D], .block [0x0A, 0x62], .failed .brokenPipe])) =
      [some (.ok "a"), some (.error .brokenPipe), none, none] := by
  rfl

end ListingGrid
