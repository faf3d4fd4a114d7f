import ListingGrid.Text.Cut
import Mathlib.Data.List.Induction

/-!
# Places in a text

A place in a text is told by the number of its line and by its column there. Lines are cut at
line feeds, so the lines in front of a place and those behind it are found independently of
each other, and the two numbers name one place only.
-/

set_option autoImplicit false

namespace ListingGrid.Text

/-- The text ends where a line does: it is empty or its last character is a line feed. -/
def EndsLine (head : List Char) : Prop := head = [] ∨ ∃ front, head = front ++ ['\n']

/-- The line that a text begins with, without the line feed, or the carriage return and the
line feed, that ends it. -/
inductive FirstLine : List Char → List Char → Prop
  | unended {line : List Char} (h : '\n' ∉ line) : FirstLine line line
  | feed {line more : List Char} (h : '\n' ∉ line) (hlast : line.getLast? ≠ some '\r') :
    FirstLine (line ++ '\n' :: more) line
  | returnFeed {line more : List Char} (h : '\n' ∉ line) :
    FirstLine (line ++ '\r' :: '\n' :: more) line

/-- The end of a text is at this line and column: one more than its line feeds, and one more
than the characters behind the last of them. -/
def EndsAt (before : List Char) (line column : Nat) : Prop :=
  line = 1 + before.count '\n' ∧
    ∃ head last, before = head ++ last ∧ EndsLine head ∧ '\n' ∉ last ∧ column = 1 + last.length

variable {head last rest before other source : List Char} {line column : Nat}

theorem exists_lastLine (before : List Char) :
    ∃ head last, before = head ++ last ∧ EndsLine head ∧ '\n' ∉ last := by
  induction before using List.reverseRecOn with
  | nil => exact ⟨[], [], rfl, .inl rfl, by simp⟩
  | append_singleton before c ih =>
    by_cases hc : c = '\n'
    · exact ⟨before ++ ['\n'], [], by simp [hc], .inr ⟨before, rfl⟩, by simp⟩
    · obtain ⟨head, last, rfl, hhead, hlast⟩ := ih
      refine ⟨head, last ++ [c], by simp, hhead, ?_⟩
      simp [hlast, Ne.symm hc]

/-- Characters that stay on the line move the column on. -/
theorem columnNumber_append (hlast : '\n' ∉ last) :
    columnNumber (before ++ last) = columnNumber before + last.length := by
  have hpass : ∀ c ∈ last.reverse, (c != '\n') = true := by
    intro c hc
    have hne : c ≠ '\n' := by
      rintro rfl
      exact hlast (List.mem_reverse.mp hc)
    simpa using hne
  unfold columnNumber
  rw [List.reverse_append, List.takeWhile_append_of_pos hpass, List.length_append,
    List.length_reverse]
  omega

theorem columnNumber_endsLine (hhead : EndsLine head) : columnNumber head = 1 := by
  rcases hhead with rfl | ⟨front, rfl⟩ <;> simp [columnNumber]

theorem endsAt_iff :
    EndsAt before line column ↔ line = lineNumber before ∧ column = columnNumber before := by
  have hcolumn : ∀ {head last : List Char}, EndsLine head → '\n' ∉ last →
      columnNumber (head ++ last) = 1 + last.length := by
    intro head last hhead hlast
    rw [columnNumber_append hlast, columnNumber_endsLine hhead]
  constructor
  · rintro ⟨hline, head, last, rfl, hhead, hlast, rfl⟩
    exact ⟨by rw [hline, lineNumber, Nat.add_comm], (hcolumn hhead hlast).symm⟩
  · rintro ⟨rfl, rfl⟩
    obtain ⟨head, last, rfl, hhead, hlast⟩ := exists_lastLine before
    exact ⟨Nat.add_comm _ _, head, last, rfl, hhead, hlast, hcolumn hhead hlast⟩

/-- Of two places of a text, the later one is on a later line or at a later column. -/
theorem eq_of_front (hfront : before <+: other) (hline : lineNumber before = lineNumber other)
    (hcolumn : columnNumber before = columnNumber other) : before = other := by
  obtain ⟨between, rfl⟩ := hfront
  have hcount : between.count '\n' = 0 := by
    simp only [lineNumber, List.count_append] at hline
    omega
  rw [columnNumber_append (List.count_eq_zero.mp hcount)] at hcolumn
  obtain rfl : between = [] := List.eq_nil_of_length_eq_zero (by omega)
  simp

theorem EndsAt.eq (h : EndsAt before line column) (hother : EndsAt other line column)
    (hsource : before <+: source) (hsource' : other <+: source) : before = other := by
  obtain ⟨rfl, rfl⟩ := endsAt_iff.mp h
  obtain ⟨hline, hcolumn⟩ := endsAt_iff.mp hother
  rcases List.prefix_or_prefix_of_prefix hsource hsource' with hfront | hfront
  · exact eq_of_front hfront hline hcolumn
  · exact (eq_of_front hfront hline.symm hcolumn.symm).symm

theorem splitFeeds_line (hlast : '\n' ∉ last) (more current : List Char) :
    splitFeeds (last ++ '\n' :: more) current =
      (current.reverse ++ last, true) :: splitFeeds more [] := by
  induction last generalizing current with
  | nil => simp [splitFeeds]
  | cons c last ih =>
    obtain ⟨hc, hrest⟩ : '\n' ≠ c ∧ '\n' ∉ last := by simpa using hlast
    rw [List.cons_append, splitFeeds, if_neg hc.symm, ih hrest]
    simp

theorem splitFeeds_unended (hlast : '\n' ∉ last) (current : List Char) :
    splitFeeds last current =
      if (current.reverse ++ last).isEmpty then [] else [(current.reverse ++ last, false)] := by
  induction last generalizing current with
  | nil => simp [splitFeeds]
  | cons c last ih =>
    obtain ⟨hc, hrest⟩ : '\n' ≠ c ∧ '\n' ∉ last := by simpa using hlast
    rw [splitFeeds, if_neg hc.symm, ih hrest]
    simp

/-- The lines behind a line feed do not depend on those in front of it. -/
theorem splitFeeds_append (front rest current : List Char) :
    splitFeeds (front ++ '\n' :: rest) current =
      splitFeeds (front ++ ['\n']) current ++ splitFeeds rest [] := by
  induction front generalizing current with
  | nil => simp [splitFeeds]
  | cons c front ih =>
    by_cases hc : c = '\n'
    · simp [splitFeeds, hc, ih]
    · simp [splitFeeds, hc, ih]

theorem length_splitFeeds (front current : List Char) :
    (splitFeeds (front ++ ['\n']) current).length = (front ++ ['\n']).count '\n' := by
  induction front generalizing current with
  | nil => simp [splitFeeds]
  | cons c front ih =>
    by_cases hc : c = '\n'
    · simp [splitFeeds, hc, ih]
    · simp [splitFeeds, hc, ih]

theorem lines_append (hhead : EndsLine head) (rest : List Char) :
    lines (head ++ rest) = lines head ++ lines rest := by
  rcases hhead with rfl | ⟨front, rfl⟩
  · rfl
  · have hsplit := splitFeeds_append front rest []
    simp only [lines, List.append_assoc, List.singleton_append, hsplit, List.map_append]

theorem length_lines (hhead : EndsLine head) : (lines head).length = head.count '\n' := by
  rcases hhead with rfl | ⟨front, rfl⟩
  · rfl
  · rw [lines, List.length_map, length_splitFeeds]

/-- A text that a line feed ends somewhere begins with a line that ends there. -/
theorem lines_feed (hlast : '\n' ∉ last) (more : List Char) :
    lines (last ++ '\n' :: more) = dropReturn last :: lines more := by
  simp [lines, splitFeeds_line hlast]

theorem lines_unended (hlast : '\n' ∉ last) :
    lines last = if last.isEmpty then [] else [last] := by
  rw [lines, splitFeeds_unended hlast, List.reverse_nil, List.nil_append]
  split <;> rfl

theorem lines_ne_nil (hrest : rest ≠ []) : lines rest ≠ [] := by
  by_cases hfeed : '\n' ∈ rest
  · obtain ⟨line, more, rfl, hline⟩ := List.eq_append_cons_of_mem hfeed
    simp [lines_feed hline]
  · simp [lines_unended hfeed, hrest]

theorem firstLine_lines (s : List Char) : FirstLine s ((lines s).head?.getD []) := by
  by_cases hfeed : '\n' ∈ s
  · obtain ⟨line, more, rfl, hline⟩ := List.eq_append_cons_of_mem hfeed
    rw [lines_feed hline, List.head?_cons, Option.getD_some, dropReturn]
    split
    · next hreturn =>
      obtain ⟨front, rfl⟩ := List.getLast?_eq_some_iff.mp hreturn
      simp only [List.dropLast_concat, List.append_assoc, List.singleton_append]
      exact .returnFeed fun h => hline (by simp [h])
    · next hreturn => exact .feed hline hreturn
  · rw [lines_unended hfeed]
    split
    · next hempty =>
      obtain rfl : s = [] := by simpa using hempty
      exact .unended hfeed
    · exact .unended hfeed

/-- The line of a place begins behind the last line feed in front of it. -/
theorem firstLine_at (hhead : EndsLine head) (hlast : '\n' ∉ last) :
    FirstLine (last ++ rest)
      (((lines (head ++ last ++ rest))[lineNumber (head ++ last) - 1]?).getD []) := by
  have hline : lineNumber (head ++ last) - 1 = (lines head).length := by
    rw [length_lines hhead, lineNumber, List.count_append, List.count_eq_zero.mpr hlast]
    omega
  rw [List.append_assoc, lines_append hhead, hline, List.getElem?_append_right (Nat.le_refl _),
    Nat.sub_self, ← List.head?_eq_getElem?]
  exact firstLine_lines (last ++ rest)

/-- A text has the line of each place that more text stands behind. -/
theorem lineNumber_le (before : List Char) (hrest : rest ≠ []) :
    lineNumber before ≤ (lines (before ++ rest)).length := by
  obtain ⟨head, last, rfl, hhead, hlast⟩ := exists_lastLine before
  have hpositive : 0 < (lines (last ++ rest)).length :=
    List.length_pos_iff.mpr (lines_ne_nil (by simp [hrest]))
  rw [List.append_assoc, lines_append hhead, List.length_append, length_lines hhead, lineNumber,
    List.count_append, List.count_eq_zero.mpr hlast]
  omega

end ListingGrid.Text
