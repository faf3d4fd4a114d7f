import ListingGrid.Proofs.Grammar.Blanks
import ListingGrid.Proofs.Grammar.Matching
import ListingGrid.Proofs.Grammar.Words
import ListingGrid.Proofs.Grammar.Quoted

/-!
# Two tails of one text

What stands in front of some place of a text is read alike whatever follows that place, as
long as no token can go on across it. A tail may begin with a word that goes on in neither
of two texts, or it may be empty in one text and begin with a line feed in the other. Blanks
are skipped alike in front of such tails, but not a comment: whether a hash begins one is
decided at the end of its line.
-/

set_option autoImplicit false

namespace ListingGrid.Grammar

open ListingGrid.Grammar.Parser

variable {T T' x s rest : List Char} {c : Char}

def joiners : List Char := ['+', '-', '*', '/', '(', '<', '>', '=']

def Unjoined (s : List Char) : Prop := ∀ c, (skipBlank s).head? = some c → c ∉ joiners

inductive Tails : List Char → List Char → Prop where
  | ending {more : List Char} (h : Unjoined more) : Tails [] ('\n' :: more)
  | stem {word rest rest' : List Char} (hword : word.all Text.isLetter = true) (hne : word ≠ [])
    (hrest : Stops Text.isWordChar rest) (hrest' : Apart rest') : Tails (word ++ rest) (word ++ rest')

theorem ne_blank_of_isLetter (h : Text.isLetter c = true) :
    isBlank c = false ∧ c ≠ '#' ∧ c ≠ '\r' ∧ c ≠ '\n' := by
  have hne : ∀ d, Text.isLetter d = false → c ≠ d := by
    rintro d hd rfl
    simp [h] at hd
  refine ⟨?_, hne _ rfl, hne _ rfl, hne _ rfl⟩
  simp [isBlank, hne ' ' rfl, hne '\t' rfl, hne '\r' rfl, hne '\n' rfl]

/-- The second tail is a run of letters set apart from what follows. -/
theorem Tails.split (h : Tails T T') :
    ∃ word rest', T' = word ++ rest' ∧ word.all Text.isLetter = true ∧ Apart rest' := by
  cases h with
  | @ending more _ =>
    refine ⟨[], '\n' :: more, rfl, rfl, fun c hc => .inl ?_⟩
    obtain rfl : '\n' = c := by simpa using hc
    rfl
  | stem hword _ _ hrest' => exact ⟨_, _, rfl, hword, hrest'⟩

/-- The tails begin alike, unless there is nothing in the first text. -/
theorem Tails.head (h : Tails T T') :
    (T = [] ∧ ∃ more, T' = '\n' :: more ∧ Unjoined more) ∨
      ∃ c more more', T = c :: more ∧ T' = c :: more' ∧ Text.isLetter c = true := by
  cases h with
  | @ending more h => exact .inl ⟨rfl, more, rfl, h⟩
  | @stem word rest rest' hword hne =>
    cases word with
    | nil => exact absurd rfl hne
    | cons c word =>
      rw [List.all_cons, Bool.and_eq_true] at hword
      exact .inr ⟨c, word ++ rest, word ++ rest', rfl, rfl, hword.1⟩

/-- A run of characters that holds no blank ends in front of both tails or of none. -/
theorem Tails.stops (h : Tails T T') {accepts : Char → Bool}
    (haccepts : [' ', '\t', '\r', '\n', '#'].all (fun c => !accepts c) = true) (x : List Char) :
    Stops accepts (x ++ T) ↔ Stops accepts (x ++ T') := by
  cases x with
  | cons c x => simp [Stops]
  | nil =>
    rcases h.head with ⟨rfl, more, rfl, -⟩ | ⟨c, more, more', rfl, rfl, -⟩
    · have hfeed : accepts '\n' = false := by simpa using (List.all_eq_true.mp haccepts '\n' (by simp))
      simp [Stops, hfeed]
    · simp [Stops]

theorem Tails.head_ne (h : Tails T T') (hc : c ∉ [' ', '\t', '\r', '\n', '#'])
    (hx : (x ++ T).head? ≠ some c) : (x ++ T').head? ≠ some c := by
  have haccepts : [' ', '\t', '\r', '\n', '#'].all (fun d => !(d == c)) = true := by
    refine List.all_eq_true.mpr fun d hd => ?_
    simpa using fun heq : d = c => hc (heq ▸ hd)
  have hstops : Stops (· == c) (x ++ T) := fun d hd =>
    beq_eq_false_iff_ne.mpr fun heq => hx (heq ▸ hd)
  intro heq
  have hsame := (h.stops haccepts x).mp hstops c heq
  simp at hsame

/-- A comment runs up to the end of its line, where no carriage return stands alone. -/
theorem isComment_eq (s : List Char) :
    isComment s = match s.dropWhile (fun c => c != '\r' && c != '\n') with
      | '\r' :: '\n' :: _ => true
      | '\r' :: _ => false
      | _ => true := by
  unfold isComment restOfLine
  simp only
  generalize s.dropWhile (fun c => c != '\r' && c != '\n') = line
  cases line with
  | nil => rfl
  | cons c line =>
    by_cases hreturn : c = '\r'
    · subst hreturn
      cases line with
      | nil => rfl
      | cons d line =>
        by_cases hfeed : d = '\n'
        · subst hfeed
          rfl
        · simp [hfeed]
    · simp [hreturn]

theorem isComment_cons (hreturn : c ≠ '\r') (hfeed : c ≠ '\n') (s : List Char) :
    isComment (c :: s) = isComment s := by
  have hdrop : (c :: s).dropWhile (fun c => c != '\r' && c != '\n') =
      s.dropWhile (fun c => c != '\r' && c != '\n') :=
    List.dropWhile_cons_of_pos (by simp [hreturn, hfeed])
  rw [isComment_eq, isComment_eq, hdrop]

theorem isComment_feed (s : List Char) : isComment ('\n' :: s) = true := rfl

theorem isComment_return (s : List Char) :
    isComment ('\r' :: s) = (s.head? == some '\n') := by
  have hdrop : ('\r' :: s).dropWhile (fun c => c != '\r' && c != '\n') = '\r' :: s :=
    List.dropWhile_cons_of_neg (by simp)
  rw [isComment_eq, hdrop]
  cases s with
  | nil => rfl
  | cons c s =>
    by_cases hc : c = '\n'
    · subst hc
      rfl
    · split
      · simp_all
      · simp [hc]
      · simp_all

variable {r r' : List Char}

theorem skipFrom_cons_lt (c : Char) (s : List Char) :
    (skipFrom (c :: s) true).length < (c :: s).length := by
  have hcomment := skipFrom_length_le s true
  have hplain := skipFrom_length_le s false
  by_cases hreturn : c = '\r'
  · subst hreturn
    simp [skipFrom, isBlank]
    omega
  by_cases hfeed : c = '\n'
  · subst hfeed
    simp [skipFrom, isBlank]
    omega
  simp [skipFrom, hreturn, hfeed]
  omega

/-- A comment that ends in front of some text is one in front of another text. Only where
nothing follows it, a line feed has to stand in the other text. -/
theorem isComment_append (hr : r = [] → ∃ more, r' = '\n' :: more)
    (hcomment : isComment (x ++ r) = true) (hlength : r.length ≤ (skipFrom (x ++ r) true).length) :
    isComment (x ++ r') = true := by
  induction x with
  | nil =>
    cases r with
    | nil =>
      obtain ⟨more, rfl⟩ := hr rfl
      exact isComment_feed more
    | cons c r => exact absurd (skipFrom_cons_lt c r) (by simpa using hlength)
  | cons c x ih =>
    simp only [List.cons_append] at hcomment hlength ⊢
    by_cases hfeed : c = '\n'
    · subst hfeed
      exact isComment_feed _
    by_cases hreturn : c = '\r'
    · subst hreturn
      rw [isComment_return] at hcomment ⊢
      cases x with
      | cons d x => exact hcomment
      | nil =>
        obtain ⟨more, rfl⟩ : ∃ more, r = '\n' :: more := by
          simpa [List.head?_eq_some_iff] using hcomment
        have hle := skipFrom_length_le more false
        simp [skipFrom, isBlank] at hlength
        omega
    · rw [isComment_cons hreturn hfeed] at hcomment ⊢
      refine ih hcomment ?_
      simpa [skipFrom, hreturn, hfeed] using hlength

/-- Skipping that ends in front of some text, or at its beginning, ends at the same place in
front of another text, or goes on into that text. -/
theorem skipFrom_append (hr : r = [] → ∃ more, r' = '\n' :: more) (inComment : Bool)
    (hlength : r.length ≤ (skipFrom (x ++ r) inComment).length)
    (hhash : (skipFrom (x ++ r) inComment).head? ≠ some '#') :
    ∃ y, skipFrom (x ++ r) inComment = y ++ r ∧
      skipFrom (x ++ r') inComment = if y = [] then skipBlank r' else y ++ r' := by
  induction x generalizing inComment with
  | nil =>
    refine ⟨[], ?_, ?_⟩
    · cases r with
      | nil => rfl
      | cons c r => exact (skipFrom_suffix _ _).eq_of_length_le hlength
    · cases r with
      | nil =>
        obtain ⟨more, rfl⟩ := hr rfl
        simp [skipFrom, skipBlank, isBlank]
      | cons c r =>
        cases inComment with
        | false => rfl
        | true => exact absurd (skipFrom_cons_lt c r) (by simpa using hlength)
  | cons c x ih =>
    simp only [List.cons_append, skipFrom] at hlength hhash ⊢
    by_cases hinside : (inComment && c != '\r' && c != '\n') = true
    · simp only [if_pos hinside] at hlength hhash ⊢
      exact ih true hlength hhash
    by_cases hblank : isBlank c = true
    · simp only [if_neg hinside, if_pos hblank] at hlength hhash ⊢
      exact ih false hlength hhash
    simp only [if_neg hinside, if_neg hblank] at hlength hhash ⊢
    by_cases hcomment : (c == '#' && isComment (x ++ r)) = true
    · rw [if_pos hcomment] at hlength hhash ⊢
      obtain ⟨hc, hcomment⟩ := Bool.and_eq_true_iff.mp hcomment
      rw [hc, isComment_append hr hcomment hlength]
      exact ih true hlength hhash
    · rw [if_neg hcomment] at hlength hhash ⊢
      have hc : (c == '#') = false := by simpa using hhash
      exact ⟨c :: x, rfl, by simp [hc]⟩

/-- Skipping ends at the same place in front of both tails. Where nothing is left in the
first text, it goes on into the second tail. -/
theorem Tails.skipBlank (h : Tails T T') (hlength : T.length ≤ (skipBlank (x ++ T)).length)
    (hhash : (skipBlank (x ++ T)).head? ≠ some '#') :
    ∃ y, Grammar.skipBlank (x ++ T) = y ++ T ∧
      Grammar.skipBlank (x ++ T') = if y ++ T = [] then Grammar.skipBlank T' else y ++ T' := by
  have hempty : T = [] → ∃ more, T' = '\n' :: more := by
    rintro rfl
    obtain ⟨-, more, rfl, -⟩ := h.head.resolve_right (by simp)
    exact ⟨more, rfl⟩
  obtain ⟨y, hy, hy'⟩ := skipFrom_append hempty false hlength hhash
  refine ⟨y, hy, hy'.trans ?_⟩
  rcases h.head with ⟨rfl, -⟩ | ⟨c, more, more', rfl, rfl, hletter⟩
  · simp
  · obtain ⟨hblank, hne, -⟩ := ne_blank_of_isLetter hletter
    have hskip : Grammar.skipBlank (c :: more') = c :: more' := by
      simp [Grammar.skipBlank, skipFrom, hblank, hne]
    by_cases hnil : y = []
    · simp [hnil, hskip]
    · simp [hnil]

end ListingGrid.Grammar
