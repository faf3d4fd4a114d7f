import ListingGrid.Proofs.Formula.Ends

/-!
# Reading atoms

How the readers of numbers, sheets and calls take a symbol, and where they leave it to the
next alternative. Only the reader of sheets can see further than one
atom: a minus may stand in the name of a sheet, so in front of an exclamation mark it
takes operands and minus signs for one name.
-/

set_option autoImplicit false

namespace ListingGrid.Grammar.Formula

open ListingGrid.Grammar.Parser

variable {s t rest : List Char} {c : Char} {inner : Parser (List Char)}

theorem number_append (h : IsNumber t) (hdigit : Stops Text.isDigit rest)
    (hpoint : rest.head? ≠ some '.') : number (t ++ rest) = .done t rest := by
  cases h with
  | whole h =>
    refine bind_eq_done.mpr ⟨t, rest, digits_append h hdigit, ?_⟩
    exact bind_eq_done.mpr ⟨none, rest,
      optional_none (bind_fails.mpr (.inl (char_fails hpoint))), rfl⟩
  | @fraction whole fraction h hfraction =>
    rw [List.append_assoc]
    refine bind_eq_done.mpr ⟨whole, _, digits_append h (stops_cons rfl), ?_⟩
    refine bind_eq_done.mpr ⟨some fraction, rest, optional_some ?_, rfl⟩
    exact bind_eq_done.mpr ⟨'.', _, char_eq_done.mpr ⟨rfl, rfl⟩, digits_append hfraction hdigit⟩

theorem number_fails (h : Stops Text.isDigit s) : Fails number s :=
  bind_fails.mpr (.inl (takeWhile1_fails h))

theorem points_append (h : IsFunctionName t) (hword : Stops Text.isWordChar rest)
    (hpoint : rest.head? ≠ some '.') :
    functionName (t ++ rest) = .done t rest := by
  have hstop : ∀ {p : Char → Parser (List Char)}, Fails (char '.' >>= p) rest :=
    bind_fails.mpr (.inl (char_fails hpoint))
  induction h with
  | name h =>
    refine bind_eq_done.mpr ⟨_, rest, identifier_append h hword, ?_⟩
    exact bind_eq_done.mpr ⟨[], rest, many_stop hstop, by simp [pure_eq_done]⟩
  | @points t more h hmore ih =>
    obtain ⟨first, mid, hfirst, hothers⟩ := bind_eq_done.mp ih
    obtain ⟨others, last, hmany, hdone⟩ := bind_eq_done.mp hothers
    obtain ⟨rfl, rfl⟩ := pure_eq_done.mp hdone
    obtain ⟨hsplit, -, -⟩ := identifier_eq_done.mp hfirst
    have hitem : (do
        let _ ← char '.'
        let name ← identifier
        return '.' :: name : Parser (List Char)) ('.' :: (first ++ others.flatten) ++ last) =
        .done ('.' :: first) mid := by
      refine bind_eq_done.mpr ⟨'.', _, char_eq_done.mpr ⟨rfl, rfl⟩, ?_⟩
      exact bind_eq_done.mpr ⟨first, mid, hfirst, rfl⟩
    have hshort : mid.length < ('.' :: (first ++ others.flatten) ++ last).length := by
      have hlength := congrArg List.length hsplit
      simp only [List.length_append, List.length_cons] at hlength ⊢
      omega
    rw [List.append_assoc]
    refine bind_eq_done.mpr ⟨t, _, identifier_append h (stops_cons rfl), ?_⟩
    refine bind_eq_done.mpr ⟨_, last, many_next hitem hshort hmany, ?_⟩
    simp [pure_eq_done]

theorem call_fails_of_head (h : Stops startsName s) : Fails (call inner) s :=
  bind_fails.mpr (.inl (bind_fails.mpr (.inl (identifier_fails h))))

/-- A name without a parenthesis behind it is no call. -/
theorem call_fails_of_name (h : IsName t) (hword : Stops Text.isWordChar rest)
    (hpoint : rest.head? ≠ some '.') (hcall : (skipBlank rest).head? ≠ some '(') :
    Fails (call inner) (t ++ rest) := by
  refine bind_fails.mpr (.inr ⟨t, rest, points_append (.name h) hword hpoint, ?_⟩)
  exact bind_fails.mpr (.inl (char_fails hcall))

/-- Nor is a run of word characters, be it a name or not. -/
theorem call_fails_of_run {run : List Char} (hrun : run.all Text.isWordChar = true)
    (hword : Stops Text.isWordChar rest) (hpoint : rest.head? ≠ some '.')
    (hcall : IsName run → (skipBlank rest).head? ≠ some '(') : Fails (call inner) (run ++ rest) := by
  cases run with
  | nil =>
    exact call_fails_of_head (Stops.mono hword fun _ => isWordChar_of_startsName)
  | cons c more =>
    by_cases hc : startsName c = true
    · have hname : IsName (c :: more) := ⟨⟨c, rfl, hc⟩, hrun⟩
      exact call_fails_of_name hname hword hpoint (hcall hname)
    · exact call_fails_of_head (stops_cons (by simpa using hc))

theorem eq_minus_of_isSheetChar (h : isSheetChar c = true) (hword : Text.isWordChar c = false) :
    c = '-' := by
  simp only [Text.isWordChar, Bool.or_eq_false_iff] at hword
  simp only [isSheetChar, hword.1, Bool.false_or, Bool.or_eq_true, beq_iff_eq] at h
  rcases h with rfl | rfl
  · rfl
  · simp at hword

theorem call_fails_of_sheet {name : List Char} (h : name.all isSheetChar = true) :
    Fails (call inner) (name ++ '!' :: rest) := by
  obtain ⟨run, left, rfl, hrun, hleft⟩ := exists_run Text.isWordChar name
  rw [List.append_assoc]
  cases left with
  | nil => exact call_fails_of_run hrun (stops_cons rfl) (by simp) fun _ => by simp [skipBlank_of_head, isBlank]
  | cons d more =>
    have hd : isSheetChar d = true := List.all_eq_true.mp h d (by simp)
    obtain rfl := eq_minus_of_isSheetChar hd (hleft d rfl)
    exact call_fails_of_run hrun (stops_cons rfl) (by simp) fun _ => by simp [skipBlank_of_head, isBlank]

/-- The characters of an address are no point, no parenthesis and no blank. -/
theorem call_fails_of_address {a : List Char} (ha : a.all isAddressChar = true)
    (hword : Stops Text.isWordChar rest) (hpoint : rest.head? ≠ some '.')
    (hcall : IsName a → (skipBlank rest).head? ≠ some '(') : Fails (call inner) (a ++ rest) := by
  obtain ⟨run, left, rfl, hrun, hleft⟩ := exists_run Text.isWordChar a
  cases left with
  | nil =>
    rw [List.append_nil]
    exact call_fails_of_run hrun hword hpoint fun hname => hcall (by simpa using hname)
  | cons d more =>
    have hd : isAddressChar d = true := List.all_eq_true.mp ha d (by simp)
    have hsign : d ∈ ['$', '<', '>', ':', '-', '+'] := by
      simpa [isAddressChar, hleft d rfl] using hd
    have hplain : d ≠ '.' ∧ d ≠ '(' ∧ isBlank d = false ∧ d ≠ '#' := by
      simp only [List.mem_cons, List.not_mem_nil, or_false] at hsign
      rcases hsign with rfl | rfl | rfl | rfl | rfl | rfl <;> decide
    obtain ⟨hpoint, hcall, hblank, hhash⟩ := hplain
    rw [List.append_assoc]
    refine call_fails_of_run hrun (stops_append hleft hword) (by simpa using hpoint) fun _ => ?_
    simpa [skipBlank_of_head hblank hhash] using hcall

theorem sheet_append (h : IsSheetName t) : sheet (t ++ '!' :: rest) = .done (t ++ ['!']) rest := by
  have hbook : Fails linkedWorkbook (t ++ '!' :: rest) :=
    linkedWorkbook_fails (head_ne_of_all h.ne_nil h.all rfl)
  refine bind_eq_done.mpr ⟨none, _, optional_none hbook, ?_⟩
  refine bind_eq_done.mpr ⟨t, _, takeBetween_append h.all h.least h.most (stops_cons rfl), ?_⟩
  exact bind_eq_done.mpr ⟨'!', rest, char_eq_done.mpr ⟨rfl, rfl⟩, by simp [pure_eq_done]⟩

/-- A sheet is read from a name in front of an exclamation mark and from nothing else. -/
theorem sheet_cases (h : s.head? ≠ some '\'') :
    (∃ name behind, s = name ++ '!' :: behind ∧ IsSheetName name) ∨ Fails sheet s := by
  have hbook := optional_none (linkedWorkbook_fails h)
  rcases takeBetween_settles 1 31 isSheetChar s with ⟨name, mid, hname⟩ | hfails
  · obtain ⟨hsplit, hall, hleast, hmost⟩ := takeBetween_eq_done hname
    rcases char_settles '!' mid with ⟨_, behind, hmark⟩ | hfails
    · obtain ⟨rfl, -⟩ := char_eq_done.mp hmark
      exact .inl ⟨name, behind, hsplit, hleast, hmost, hall⟩
    · refine .inr (bind_fails.mpr (.inr ⟨none, s, hbook, ?_⟩))
      exact bind_fails.mpr (.inr ⟨name, mid, hname, bind_fails.mpr (.inl hfails)⟩)
  · exact .inr (bind_fails.mpr (.inr ⟨none, s, hbook, bind_fails.mpr (.inl hfails)⟩))

theorem beginsSheet_iff : beginsSheet s = true ↔
    ∃ name behind, s = name ++ '!' :: behind ∧ IsSheetName name := by
  constructor
  · intro h
    simp only [beginsSheet, Bool.and_eq_true, decide_eq_true_eq, beq_iff_eq] at h
    obtain ⟨⟨hleast, hmost⟩, hhead⟩ := h
    obtain ⟨behind, hbehind⟩ := List.head?_eq_some_iff.mp hhead
    refine ⟨_, behind, ?_, hleast, hmost, List.all_takeWhile⟩
    rw [← hbehind, List.takeWhile_append_dropWhile]
  · rintro ⟨name, behind, rfl, hname⟩
    have hstop : Stops isSheetChar ('!' :: behind) := stops_cons rfl
    obtain ⟨htake, hdrop⟩ := takeWhile_run hname.all hstop
    simp [beginsSheet, htake, hdrop, hname.most, Nat.one_le_iff_ne_zero, hname.ne_nil]

theorem beginsSheet_of_fails (h : Fails sheet s) : beginsSheet s = false := by
  cases hb : beginsSheet s with
  | false => rfl
  | true =>
    obtain ⟨name, behind, rfl, hname⟩ := beginsSheet_iff.mp hb
    exact absurd (sheet_append hname) h.not_done

theorem address_fails (hname : startsName c = false) (hsign : c ≠ '$' ∧ c ≠ '<') :
    Fails address (c :: rest) := by
  have hletter : Text.isLetter c = false := by
    simp only [startsName, Bool.or_eq_false_iff] at hname
    exact hname.1
  have hcell : Fails cell (c :: rest) := by
    refine bind_fails.mpr (.inr ⟨none, _, optional_none (char_fails (by simpa using hsign.1)), ?_⟩)
    refine bind_fails.mpr (.inl (or_fails.mpr ⟨takeWhile1_fails (stops_cons hletter), ?_⟩))
    exact bind_fails.mpr (.inl (char_fails (by simpa using hsign.2)))
  refine firstOf_fails.mpr ⟨bind_fails.mpr (.inl hcell), ?_⟩
  simp only [List.forall_mem_cons, List.not_mem_nil, false_imp_iff, implies_true, and_true]
  exact ⟨hcell, identifier_fails (stops_cons hname)⟩

/-- Without a workbook in front, a reference is an address that a sheet may qualify. -/
theorem reference_of_sheet (h : s.head? ≠ some '\'') {qualifier target mid : List Char}
    (hsheet : sheet s = .done qualifier mid) (htarget : address mid = .done target rest) :
    reference s = .done (qualifier ++ target) rest := by
  refine or_eq_done.mpr (.inr ⟨bind_fails.mpr (.inl (linkedWorkbook_fails h)), ?_⟩)
  refine bind_eq_done.mpr ⟨some qualifier, mid, optional_some hsheet, ?_⟩
  exact bind_eq_done.mpr ⟨target, rest, htarget, rfl⟩

theorem reference_of_address (h : s.head? ≠ some '\'') (hsheet : Fails sheet s)
    (htarget : address s = .done t rest) : reference s = .done t rest := by
  refine or_eq_done.mpr (.inr ⟨bind_fails.mpr (.inl (linkedWorkbook_fails h)), ?_⟩)
  refine bind_eq_done.mpr ⟨none, s, optional_none hsheet, ?_⟩
  exact bind_eq_done.mpr ⟨t, rest, htarget, rfl⟩

theorem reference_fails (h : s.head? ≠ some '\'') (hsheet : Fails sheet s)
    (htarget : Fails address s) : Fails reference s := by
  refine or_fails.mpr ⟨bind_fails.mpr (.inl (linkedWorkbook_fails h)), ?_⟩
  exact bind_fails.mpr (.inr ⟨none, s, optional_none hsheet, bind_fails.mpr (.inl htarget)⟩)

theorem reference_link {book name : List Char} (hbook : IsWorkbook book) (hname : IsName name)
    (hrest : Stops Text.isWordChar rest) :
    reference (book ++ '!' :: name ++ rest) = .done (book ++ '!' :: name) rest := by
  refine or_eq_done.mpr (.inl (bind_eq_done.mpr ⟨book, '!' :: (name ++ rest), ?_, ?_⟩))
  · simpa using hbook.reads ('!' :: (name ++ rest))
  · refine bind_eq_done.mpr ⟨'!', name ++ rest, char_eq_done.mpr ⟨rfl, rfl⟩, ?_⟩
    exact bind_eq_done.mpr ⟨name, rest, identifier_append hname hrest, rfl⟩

theorem reference_of_book {book name mid : List Char} (hbook : IsWorkbook book)
    (hname : IsSheetName name) (htarget : address mid = .done t rest) :
    reference (book ++ (name ++ '!' :: mid)) = .done (book ++ (name ++ '!' :: t)) rest := by
  have hread := hbook.reads (name ++ '!' :: mid)
  have hmark : (name ++ '!' :: mid).head? ≠ some '!' := head_ne_of_all hname.ne_nil hname.all rfl
  have hsheet : sheet (book ++ (name ++ '!' :: mid)) = .done (book ++ name ++ ['!']) mid := by
    refine bind_eq_done.mpr ⟨some book, _, optional_some hread, ?_⟩
    refine bind_eq_done.mpr ⟨name, _,
      takeBetween_append hname.all hname.least hname.most (stops_cons rfl), ?_⟩
    exact bind_eq_done.mpr ⟨'!', _, char_eq_done.mpr ⟨rfl, rfl⟩, rfl⟩
  refine or_eq_done.mpr (.inr ⟨bind_fails.mpr (.inr ⟨book, _, hread, ?_⟩), ?_⟩)
  · exact bind_fails.mpr (.inl (char_fails hmark))
  · refine bind_eq_done.mpr ⟨some (book ++ name ++ ['!']), _, optional_some hsheet, ?_⟩
    refine bind_eq_done.mpr ⟨t, rest, htarget, ?_⟩
    simp [pure_eq_done]

theorem reference_inBook {book name : List Char} (hbook : IsWorkbook book)
    (hname : IsSheetName name) (target : Address) (hrest : EndsAddress rest) :
    reference (book ++ (name ++ '!' :: target.text) ++ rest) =
      .done (book ++ (name ++ '!' :: target.normal)) rest := by
  have hread := reference_of_book hbook hname (target.reads hrest)
  simpa using hread

end ListingGrid.Grammar.Formula
