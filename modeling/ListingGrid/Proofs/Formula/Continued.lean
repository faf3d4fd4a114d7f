import ListingGrid.Proofs.Definition.Advance
import ListingGrid.Proofs.Formula.Idempotent
import ListingGrid.Proofs.Formula.Taken
import ListingGrid.Proofs.Grammar.NumeralTokens

/-!
# Formulas in front of other text

A formula that ends in front of one tail is read alike in front of another, whatever the
tails hold. Readers look further than what they take: for a parenthesis, a point, the colon
of a range, the exclamation mark of a sheet, an operator. No sheet and no cell reaches into
a run of letters that something else ends, and nothing else looks further than one token.
-/

set_option autoImplicit false

namespace ListingGrid.Grammar.Formula

open ListingGrid.Grammar.Parser

variable {T T' s s' t x y rest : List Char} {n : Nat} {c : Char}

def strays : List Char := ['#', '.']

theorem hash_mem_strays : '#' ∈ strays := by decide

theorem point_mem_strays : '.' ∈ strays := by decide

section Tail

variable (h : Tails T T')

include h

/-- A run of characters in front of the second tail holds letters alone. -/
theorem letters_of_run {accepts : Char → Bool} {run : List Char}
    (haccepts : [' ', '\t', '\r', '\n', '#'].all (fun c => !accepts c) = true)
    (hrun : run.all accepts = true) (hsplit : T' = run ++ rest) : run.all Text.isLetter = true := by
  obtain ⟨word, behind, rfl, hword, hapart⟩ := h.split
  rcases List.append_eq_append_iff.mp hsplit with ⟨more, rfl, hmore⟩ | ⟨more, rfl, -⟩
  · cases more with
    | nil => simpa using hword
    | cons c more =>
      have hc : accepts c = true := List.all_eq_true.mp hrun c (by simp)
      have hstops := hapart.stops_of haccepts c (by rw [hmore]; rfl)
      simp [hc] at hstops
  · rw [List.all_append, Bool.and_eq_true] at hword
    exact hword.1

/-- A cell in front of the second tail ends in front of it. -/
theorem cell_in_front {ref : CellRef} (hsplit : y ++ T' = ref.text ++ rest) :
    ∃ z, y = ref.text ++ z ∧ rest = z ++ T' := by
  rcases List.append_eq_append_iff.mp hsplit with ⟨run, href, hrun⟩ | ⟨z, hy, hrest⟩
  · refine ⟨[], ?_⟩
    rcases List.eq_nil_or_concat run with rfl | ⟨front, c, rfl⟩
    · rw [List.append_nil] at href
      exact ⟨by simp [href], by simpa using hrun.symm⟩
    · rw [List.concat_eq_append] at href hrun
      obtain ⟨front', d, hlast, hd⟩ := ref.last
      have hall := ref.addressChars
      rw [href, List.all_append, Bool.and_eq_true] at hall
      have hletters := letters_of_run h (by decide) hall.2 hrun
      obtain rfl : c = d := by
        rw [href, ← List.append_assoc] at hlast
        simpa using (List.append_inj' hlast rfl).2
      have hletter : Text.isLetter c = true := List.all_eq_true.mp hletters c (by simp)
      rcases hd with hdigit | rfl
      · simp [Text.isLetter_of_isDigit hdigit] at hletter
      · simp [Text.isLetter, Text.isLower, Text.isUpper] at hletter
  · exact ⟨z, hy, hrest⟩

theorem cell_fails_in_front (hfails : Fails cell (y ++ T)) : Fails cell (y ++ T') := by
  refine (cell_settles (y ++ T')).resolve_left ?_
  rintro ⟨t, rest, hread⟩
  obtain ⟨ref, hsplit, -, hstops⟩ := cell_eq_done.mp hread
  obtain ⟨z, rfl, rfl⟩ := cell_in_front h hsplit
  rw [List.append_assoc] at hfails
  exact hfails.not_done (cell_eq_done.mpr ⟨ref, rfl, rfl, (h.stops (by decide) z).mpr hstops⟩)

/-- The name of a sheet and its mark stand in front of the second tail, or not at all. -/
theorem sheet_in_front {name behind : List Char} (hname : name.all isSheetChar = true)
    (hsplit : x ++ T' = name ++ '!' :: behind) : ∃ z, x = name ++ '!' :: z ∧ behind = z ++ T' := by
  have hmark : ∀ run, run.all isSheetChar = true → T' ≠ run ++ '!' :: behind := by
    intro run hrun heq
    have hall : (run ++ ['!']).all (fun c => isSheetChar c || c == '!') = true := by
      simp only [List.all_append, List.all_cons, List.all_nil, beq_self_eq_true, Bool.or_true,
        Bool.and_true, List.all_eq_true] at hrun ⊢
      exact fun c hc => by simp [hrun c hc]
    have hletters := letters_of_run h (by decide) hall
      (show T' = run ++ ['!'] ++ behind by simp [heq])
    simp [Text.isLetter, Text.isLower, Text.isUpper] at hletters
  rcases List.append_eq_append_iff.mp hsplit with ⟨run, rfl, hrun⟩ | ⟨z, rfl, hz⟩
  · rw [List.all_append, Bool.and_eq_true] at hname
    exact absurd hrun (hmark run hname.2)
  · cases z with
    | nil => exact absurd hz.symm (hmark [] rfl)
    | cons c z =>
      obtain ⟨rfl, rfl⟩ := List.cons.inj hz
      exact ⟨z, rfl, rfl⟩

theorem sheet_fails_in_front (hhead : (x ++ T').head? ≠ some '\'') (hfails : Fails sheet (x ++ T)) :
    Fails sheet (x ++ T') := by
  refine (sheet_cases hhead).resolve_left ?_
  rintro ⟨name, behind, hsplit, hname⟩
  obtain ⟨z, rfl, rfl⟩ := sheet_in_front h hname.all hsplit
  rw [List.append_assoc] at hfails
  exact hfails.not_done (sheet_append hname)

theorem identifier_fails_in_front (hfails : Fails identifier (x ++ T)) :
    Fails identifier (x ++ T') := by
  refine identifier_fails ((h.stops (by decide) x).mp fun c hc => ?_)
  obtain ⟨more, hsplit⟩ := List.head?_eq_some_iff.mp hc
  cases hstart : startsName c with
  | false => rfl
  | true =>
    rw [hsplit] at hfails
    have hread : identifier (c :: more) = .done (c :: more.takeWhile Text.isWordChar)
        (more.dropWhile Text.isWordChar) :=
      bind_eq_done.mpr ⟨c, more, satisfy_eq_done.mpr ⟨rfl, hstart⟩, rfl⟩
    exact absurd hread hfails.not_done

omit h in
theorem numeral_number : Numeral isDecimalChar number := numeral_decimal _

theorem copies_number : Copies (inFront n strays T T') number number :=
  copies_numeral h numeral_number (fun _ => id) point_mem_strays

theorem copies_functionName : Copies (inFront n strays T T') functionName functionName := by
  refine copies_of_text fun s t rest hread => ?_
  obtain ⟨rfl, hname, hstops⟩ := functionName_taken hread
  refine ⟨t, rfl, ?_⟩
  rintro y rfl hopen
  exact points_append hname ((h.stops (by decide) y).mp hstops)
    (h.head_ne (by decide) (open_point point_mem_strays hopen))

/-- A cell that begins no range in front of one tail begins none in front of the other: a
colon may follow it, but no cell behind the colon. -/
theorem range_fails_in_front {ref : CellRef} (hstops : Stops Text.isWordChar (y ++ T))
    (hfails : Fails range (ref.text ++ (y ++ T))) : Fails range (ref.text ++ (y ++ T')) := by
  have hread' := ref.reads ((h.stops (by decide) y).mp hstops)
  refine bind_fails.mpr (.inr ⟨_, _, hread', ?_⟩)
  by_cases hcolon : (y ++ T').head? = some ':'
  · cases y with
    | nil =>
      rcases h.head with ⟨-, more, rfl, -⟩ | ⟨c, more, more', -, rfl, hletter⟩
      · simp at hcolon
      · obtain rfl : c = ':' := by simpa using hcolon
        simp [Text.isLetter, Text.isLower, Text.isUpper] at hletter
    | cons c y =>
      obtain rfl : c = ':' := by simpa using hcolon
      have hbehind : Fails cell (y ++ T) := by
        refine (cell_settles _).resolve_left ?_
        rintro ⟨last, rest, hlast⟩
        refine absurd (?_ : _ = Result.done (ref.normal ++ ':' :: last) rest) hfails.not_done
        refine bind_eq_done.mpr ⟨_, _, ref.reads hstops, ?_⟩
        refine bind_eq_done.mpr ⟨':', y ++ T, char_eq_done.mpr ⟨rfl, rfl⟩, ?_⟩
        exact bind_eq_done.mpr ⟨last, rest, hlast, rfl⟩
      refine bind_fails.mpr (.inr ⟨':', y ++ T', char_eq_done.mpr ⟨rfl, rfl⟩, ?_⟩)
      exact bind_fails.mpr (.inl (cell_fails_in_front h hbehind))
  · exact bind_fails.mpr (.inl (char_fails hcolon))

theorem copies_address : Copies (inFront n strays T T') address address := by
  refine copies_of_text fun s t rest hread => ?_
  rcases firstOf_eq_done.mp hread with hrange | ⟨hrange, hothers⟩
  · obtain ⟨_, mid, hfirst, hmore⟩ := bind_eq_done.mp hrange
    obtain ⟨_, behind, hcolon, hmore⟩ := bind_eq_done.mp hmore
    obtain ⟨_, _, hlast, hdone⟩ := bind_eq_done.mp hmore
    obtain ⟨rfl, rfl⟩ := pure_eq_done.mp hdone
    obtain ⟨first, rfl, rfl, -⟩ := cell_eq_done.mp hfirst
    obtain ⟨rfl, -⟩ := char_eq_done.mp hcolon
    obtain ⟨last, rfl, rfl, hstops⟩ := cell_eq_done.mp hlast
    refine ⟨first.text ++ ':' :: last.text, by simp, ?_⟩
    rintro y rfl -
    refine firstOf_eq_done.mpr (.inl ?_)
    simp only [List.append_assoc, List.cons_append]
    refine bind_eq_done.mpr ⟨_, _, first.reads (stops_cons rfl), ?_⟩
    refine bind_eq_done.mpr ⟨':', _, char_eq_done.mpr ⟨rfl, rfl⟩, ?_⟩
    exact bind_eq_done.mpr ⟨_, _, last.reads ((h.stops (by decide) y).mp hstops), rfl⟩
  rcases firstOf_eq_done.mp hothers with hcell | ⟨hcell, hothers⟩
  · obtain ⟨ref, rfl, rfl, hstops⟩ := cell_eq_done.mp hcell
    refine ⟨ref.text, rfl, ?_⟩
    rintro y rfl -
    refine firstOf_eq_done.mpr (.inr ⟨range_fails_in_front h hstops hrange, ?_⟩)
    exact firstOf_eq_done.mpr (.inl (ref.reads ((h.stops (by decide) y).mp hstops)))
  rcases firstOf_eq_done.mp hothers with hidentifier | ⟨-, hnone⟩
  · obtain ⟨rfl, hname, hstops⟩ := identifier_eq_done.mp hidentifier
    refine ⟨t, rfl, ?_⟩
    rintro y rfl -
    have hfails : Fails cell (t ++ (y ++ T')) := by
      rw [← List.append_assoc] at hcell ⊢
      exact cell_fails_in_front h hcell
    refine firstOf_done [_, _] rfl (by simp [Formula.range, bind_fails, hfails]) ?_
    exact identifier_append hname ((h.stops (by decide) y).mp hstops)
  · exact hnone.elim

theorem address_fails_in_front (hfails : Fails address (x ++ T)) : Fails address (x ++ T') := by
  obtain ⟨-, hothers⟩ := firstOf_fails.mp hfails
  have hcell := cell_fails_in_front h (hothers cell (by simp))
  refine firstOf_fails.mpr ⟨bind_fails.mpr (.inl hcell), ?_⟩
  simp only [List.forall_mem_cons, List.not_mem_nil, false_imp_iff, implies_true, and_true]
  exact ⟨hcell, identifier_fails_in_front h (hothers identifier (by simp))⟩

theorem copies_reference : Copies (inFront n strays T T') reference reference := by
  rintro _ _ t rest ⟨x, hx, rfl, rfl⟩ hread hrest
  obtain ⟨⟨_, y, hy, rfl, -⟩, hopen⟩ := hrest
  have haddress : ∀ (front : List Char) {mid target : List Char}, x ++ T = front ++ mid →
      address mid = .done target (y ++ T) →
      ∃ z, x = front ++ z ∧ address (z ++ T') = .done target (y ++ T') := by
    intro front mid target hsplit htarget
    obtain ⟨a, rfl, -⟩ := address_taken htarget
    refine ⟨a ++ y, ?_, ?_⟩
    · rw [← List.append_assoc, ← List.append_assoc] at hsplit
      simpa using List.append_cancel_right hsplit
    · have hpair : (inFront ((a ++ y).length + 1) strays T T').Pair (a ++ (y ++ T))
          (a ++ y ++ T') := ⟨a ++ y, by omega, by simp, rfl⟩
      obtain ⟨_, hread', z, -, hz, rfl⟩ := copies_address h hpair htarget
        ⟨⟨_, inFront_pair (x := y) (by rw [List.length_append]; omega)⟩, hopen⟩
      obtain rfl := List.append_cancel_right hz
      exact hread'
  refine ⟨y ++ T', ?_, inFront_pair hy⟩
  rcases reference_cases hread with ⟨book, name, hbook, hname, hstops, hsplit, rfl⟩ |
    ⟨book, name, mid, target, hbook, hname, hsplit, htarget, rfl⟩ |
    ⟨name, mid, target, hname, hsplit, htarget, rfl⟩ | ⟨hhead, hsheet, htarget⟩
  · obtain rfl := eq_append_of_tail hsplit
    have hread' := reference_link hbook hname ((h.stops (by decide) y).mp hstops)
    simpa using hread'
  · obtain ⟨z, rfl, htarget'⟩ := haddress (book ++ (name ++ ['!'])) (by simp [hsplit]) htarget
    have hread' := reference_of_book hbook hname htarget'
    simpa using hread'
  · obtain ⟨z, rfl, htarget'⟩ := haddress (name ++ ['!']) (by simp [hsplit]) htarget
    have hread' := reference_of_sheet (s := name ++ '!' :: (z ++ T'))
      (head_ne_of_all hname.ne_nil hname.all rfl) (sheet_append hname) htarget'
    simpa using hread'
  · obtain ⟨z, rfl, htarget'⟩ := haddress [] rfl htarget
    have hhead' := h.head_ne (by decide) hhead
    exact reference_of_address hhead' (sheet_fails_in_front h hhead' hsheet) htarget'

/-- Where no name, cell or workbook begins, no reference is read in front of the second tail
if none is in front of the first. -/
theorem reference_fails_in_front (hname : startsName c = false) (hsign : c ≠ '$' ∧ c ≠ '<')
    (hquote : c ≠ '\'') (hfails : Fails reference (c :: x ++ T)) :
    Fails reference (c :: x ++ T') := by
  have hhead : (c :: x ++ T').head? ≠ some '\'' := by simpa using hquote
  rcases sheet_cases hhead with ⟨name, behind, hsplit, hsheet⟩ | hsheet
  · obtain ⟨z, hz, rfl⟩ := sheet_in_front h hsheet.all hsplit
    rw [hz] at hfails ⊢
    rw [List.append_assoc, List.cons_append] at hfails ⊢
    have hlink : ∀ tail, Fails linkedWorkbook (name ++ '!' :: (z ++ tail)) := fun tail =>
      linkedWorkbook_fails (head_ne_of_all hsheet.ne_nil hsheet.all rfl)
    have haddress : Fails address (z ++ T) := by
      rcases bind_fails.mp (or_fails.mp hfails).2 with hnever | ⟨o, mid, hread, hmore⟩
      · exact absurd hnever (firm_optional _ _)
      · rw [optional_some (sheet_append hsheet), Result.done.injEq] at hread
        obtain ⟨-, rfl⟩ := hread
        exact (bind_fails.mp hmore).resolve_right fun ⟨_, _, _, hpure⟩ => firm_pure _ _ hpure
    refine or_fails.mpr ⟨bind_fails.mpr (.inl (hlink T')), ?_⟩
    refine bind_fails.mpr (.inr ⟨_, _, optional_some (sheet_append hsheet), ?_⟩)
    exact bind_fails.mpr (.inl (address_fails_in_front h haddress))
  · exact reference_fails hhead hsheet (address_fails hname hsign)

end Tail

def beginsRelation (c : Char) : Bool := ['<', '>', '='].contains c

theorem relational_stops (hfails : Fails relational s) : Stops beginsRelation s := by
  intro c hc
  obtain ⟨more, rfl⟩ := List.head?_eq_some_iff.mp hc
  obtain ⟨-, hothers⟩ := firstOf_fails.mp hfails
  simp only [List.forall_mem_cons, tag_fails, List.cons_prefix_cons] at hothers
  simp only [beginsRelation, List.contains_cons, Bool.or_eq_false_iff, beq_eq_false_iff_ne]
  simp_all [eq_comm]

theorem relational_fails_of_stops (hstops : Stops beginsRelation s) : Fails relational s := by
  cases s with
  | nil => simp [relational, firstOf_fails, tag_fails]
  | cons c more =>
    have hc := hstops c rfl
    simp only [beginsRelation, List.contains_cons, Bool.or_eq_false_iff, beq_eq_false_iff_ne] at hc
    exact relational_fails ⟨hc.1, hc.2.1, hc.2.2.1⟩

/-- Whether a sign is the whole comparison is told by the next character. -/
theorem relational_again {sign : List Char} (hread : relational s = .done sign rest) :
    s = sign ++ rest ∧ ∀ rest', rest'.head? = rest.head? →
      relational (sign ++ rest') = .done sign rest' := by
  simp only [relational, firstOf_eq_done, tag_eq_done, tag_fails] at hread ⊢
  rcases hread with ⟨rfl, rfl⟩ | ⟨hfirst, ⟨rfl, rfl⟩ | ⟨hsecond, ⟨rfl, rfl⟩ | ⟨hthird, ⟨rfl, rfl⟩ |
    ⟨-, ⟨rfl, rfl⟩ | ⟨-, ⟨rfl, rfl⟩ | ⟨-, hnone⟩⟩⟩⟩⟩⟩
  case inr.inr.inr.inr.inr.inr => exact hnone.elim
  all_goals
    refine ⟨rfl, fun rest' hhead => ?_⟩
    cases rest <;> cases rest' <;> simp_all [List.cons_prefix_cons]

theorem copies_relational (h : Tails T T') :
    Copies (inFront n strays T T') relational relational := by
  refine copies_of_text fun s sign rest hread => ?_
  obtain ⟨rfl, hagain⟩ := relational_again hread
  refine ⟨sign, rfl, ?_⟩
  rintro y rfl -
  cases y with
  | cons c y => exact hagain _ rfl
  | nil =>
    rcases h.head with ⟨-, more, rfl, -⟩ | ⟨c, more, more', rfl, rfl, -⟩
    · exact relational_append (gives_relational _ _ _ hread) (by simp)
    · exact hagain _ rfl

end ListingGrid.Grammar.Formula
