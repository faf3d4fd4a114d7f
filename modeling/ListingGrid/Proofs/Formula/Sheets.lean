import ListingGrid.Proofs.Formula.Atoms

/-!
# Sheets that take more than one operand

A minus may stand in the name of a sheet. Where no blank sets them apart, the reader of
sheets takes operands and the minus signs between them for one name, up to an exclamation
mark. The exclamation mark belongs to a symbol that has a sheet itself, and so what is
read behind it is an address and an operator, as if the sheet had been a smaller one.
-/

set_option autoImplicit false

namespace ListingGrid.Grammar.Formula

open ListingGrid.Grammar.Parser

variable {ps k : List Placed} {n s rest behind : List Char} {P : Char → Prop}

theorem Tail.ends (h : Tail P k) (hrest : EndsExpression rest) : EndsAtom (spell k rest) := by
  cases h with
  | nil => exact hrest.toEndsAtom
  | @more o e sign ho =>
    rw [spell, ho]
    exact (endsAtom_operator sign.2 _).gap o.blanks

theorem append_split {a y : List Char} (ha : '!' ∉ a) (h : a ++ y = n ++ '!' :: behind) :
    ∃ n', n = a ++ n' ∧ y = n' ++ '!' :: behind := by
  rcases List.append_eq_append_iff.mp h with ⟨n', hn, hy⟩ | ⟨more, ha', hmore⟩
  · exact ⟨n', hn, hy⟩
  · cases more with
    | nil => exact ⟨[], by simpa using ha'.symm, by simpa using hmore.symm⟩
    | cons c more =>
      obtain ⟨rfl, -⟩ : '!' = c ∧ _ := by simpa using hmore
      exact absurd (by simp [ha']) ha

/-- A text that begins with another character is no name in front of an exclamation mark. -/
theorem not_sheet_of_head {c : Char} {y : List Char} (hc : isSheetChar c = false) (hmark : c ≠ '!')
    (hn : n.all isSheetChar = true) : c :: y ≠ n ++ '!' :: behind := by
  intro h
  cases n with
  | nil => exact hmark (List.cons.inj h).1
  | cons d more =>
    obtain rfl : c = d := (List.cons.inj h).1
    simp [hc] at hn

theorem gap_nil_of_sheet {gap : List Char} (hgap : Blanks gap) (hn : n.all isSheetChar = true)
    (h : gap ++ s = n ++ '!' :: behind) : gap = [] := by
  refine Decidable.byContradiction fun hne => ?_
  have hapart := hgap.apart hne s
  rw [h] at hapart
  cases n with
  | nil => exact hapart.head_ne (c := '!') (by decide) rfl
  | cons c more =>
    have hstop : isSheetChar c = false := hapart.stops_of (by decide) c rfl
    rw [List.all_cons, Bool.and_eq_true, hstop] at hn
    exact absurd hn.1 Bool.false_ne_true

theorem not_sheet_of_symbol {p : Placed} {c : Char} {t : List Char} (ht : t.head? = some c)
    (hc : isSheetChar c = false) (hmark : c ≠ '!') (hn : n.all isSheetChar = true) :
    p.gap ++ t ≠ n ++ '!' :: behind := by
  intro h
  rw [gap_nil_of_sheet p.blanks hn h] at h
  obtain ⟨more, rfl⟩ := List.head?_eq_some_iff.mp ht
  exact not_sheet_of_head hc hmark hn h

/-- Nothing that may follow an expression belongs to a sheet. -/
theorem not_sheet_of_ends (hrest : EndsExpression rest) (hn : n.all isSheetChar = true) :
    rest ≠ n ++ '!' :: behind := by
  rintro rfl
  cases n with
  | nil => exact hrest.exclamation rfl
  | cons c more =>
    have hc : isSheetChar c = true := List.all_eq_true.mp hn c (by simp)
    obtain rfl := eq_minus_of_isSheetChar hc (hrest.word c rfl)
    refine hrest.operator '-' ?_ (.inr (.inl rfl))
    simp [skipBlank_of_head, isBlank]

/-- Whether symbols begin with a sheet of the given name and an address, behind which an
operator follows or nothing. -/
def TakenBySheet (n : List Char) (ps : List Placed) (rest : List Char) : Prop :=
  ∃ (front k : List Placed) (target : Address), ps = front ++ k ∧ front ≠ [] ∧
    (∀ other, spell front other = n ++ '!' :: (target.text ++ other)) ∧
    shown front (spell k rest) = n ++ '!' :: target.normal ∧ Tail (fun _ => True) k

/-- A symbol that is kept as it is written goes in front of the name. -/
theorem TakenBySheet.cons {p : Placed} (h : TakenBySheet n ps rest) (hgap : p.gap = [])
    (hshown : p.symbol.shown (spell ps rest) = p.symbol.text) :
    TakenBySheet (p.symbol.text ++ n) (p :: ps) rest := by
  obtain ⟨front, k, target, rfl, -, hspell, hfront, hk⟩ := h
  rw [spell_append] at hshown
  refine ⟨p :: front, k, target, rfl, by simp, fun other => ?_, ?_, hk⟩
  · simp [spell, hgap, hspell]
  · rw [shown, hshown, hfront, List.append_assoc]

/-- An operator in the name of a sheet is a minus, and the name goes on behind it. -/
theorem operator_in_sheet {o : Placed} {e : List Placed} {sign : {c : Char // IsOperator c}}
    (ho : o.symbol = .operator sign)
    (he : ∀ {n : List Char}, n.all isSheetChar = true → n.length ≤ 31 →
      spell e rest = n ++ '!' :: behind → TakenBySheet n e rest)
    (hn : n.all isSheetChar = true) (hmost : n.length ≤ 31)
    (h : spell (o :: e) rest = n ++ '!' :: behind) : TakenBySheet n (o :: e) rest := by
  have hgap := gap_nil_of_sheet o.blanks hn h
  simp only [spell, hgap, ho, Symbol.text, Symbol.render, List.nil_append, List.singleton_append] at h
  cases n with
  | nil =>
    have hsign : sign.1 = '!' := (List.cons.inj h).1
    have hoperator := sign.2
    simp [IsOperator, hsign] at hoperator
  | cons c n =>
    obtain ⟨rfl, hbehind⟩ := List.cons.inj h
    rw [List.all_cons, Bool.and_eq_true] at hn
    rw [List.length_cons] at hmost
    have htaken := (he hn.2 (by omega) hbehind).cons hgap (by rw [ho]; rfl)
    rwa [ho] at htaken

/-- A symbol without an exclamation mark belongs to the name as a whole. -/
theorem symbol_in_sheet {p : Placed}
    (hk : ∀ {n : List Char}, n.all isSheetChar = true → n.length ≤ 31 →
      spell k rest = n ++ '!' :: behind → TakenBySheet n k rest)
    (hmark : '!' ∉ p.symbol.text)
    (hshown : beginsSheet (p.symbol.text ++ spell k rest) = true →
      p.symbol.shown (spell k rest) = p.symbol.text)
    (hn : n.all isSheetChar = true) (hmost : n.length ≤ 31)
    (h : spell (p :: k) rest = n ++ '!' :: behind) : TakenBySheet n (p :: k) rest := by
  have hgap := gap_nil_of_sheet p.blanks hn h
  simp only [spell, hgap, List.nil_append] at h
  obtain ⟨n', rfl, hleft⟩ := append_split hmark h
  have hpos := List.length_pos_iff.mpr p.symbol.begins.ne_nil
  have hname : IsSheetName (p.symbol.text ++ n') := by
    refine ⟨?_, hmost, hn⟩
    rw [List.length_append]
    omega
  rw [List.all_append, Bool.and_eq_true] at hn
  rw [List.length_append] at hmost
  exact (hk hn.2 (by omega) hleft).cons hgap (hshown (beginsSheet_iff.mpr ⟨_, _, h, hname⟩))

theorem atom_in_sheet {a : List Placed} (ha : AtomOf a) (htail : Tail (fun _ => True) k)
    (hk : ∀ {n : List Char}, n.all isSheetChar = true → n.length ≤ 31 →
      spell k rest = n ++ '!' :: behind → TakenBySheet n k rest)
    (hn : n.all isSheetChar = true) (hmost : n.length ≤ 31)
    (h : spell (a ++ k) rest = n ++ '!' :: behind) : TakenBySheet n (a ++ k) rest := by
  cases ha with
  | @reference p target hp =>
    have hbook : ∀ (book : {t : List Char // IsWorkbook t}) {more : List Char},
        (book.1 ++ more).head? = some '\'' := fun book => by simp [book.2.head]
    have hspell := h
    simp only [List.singleton_append, spell, hp, Symbol.text, Symbol.render] at hspell
    cases target with
    | link book name =>
      rw [Reference.render, List.append_assoc] at hspell
      exact absurd hspell (not_sheet_of_symbol (hbook book) rfl (by decide) hn)
    | inBook book sheet target =>
      rw [Reference.render, List.append_assoc] at hspell
      exact absurd hspell (not_sheet_of_symbol (hbook book) rfl (by decide) hn)
    | plain target =>
      refine symbol_in_sheet hk ?_ (fun hbegins => ?_) hn hmost h
      · rw [hp]
        exact not_mem_of_all target.all rfl
      · rw [hp] at hbegins ⊢
        exact if_pos hbegins
    | onSheet sheet target =>
      have hgap := gap_nil_of_sheet p.blanks hn hspell
      rw [hgap, List.nil_append, Reference.render, List.append_assoc] at hspell
      obtain ⟨n', rfl, hmark⟩ := append_split (not_mem_of_all sheet.2.all rfl) hspell
      obtain rfl : n' = [] := by
        rw [List.all_append, Bool.and_eq_true] at hn
        cases n' with
        | nil => rfl
        | cons d more =>
          obtain rfl : '!' = d := (List.cons.inj hmark).1
          rw [List.all_cons, Bool.and_eq_true] at hn
          exact absurd hn.2.1 (by decide)
      refine ⟨[p], k, target, rfl, by simp, fun other => ?_, ?_, htail⟩
      · simp [spell, hgap, hp, Symbol.text, Symbol.render, Reference.render, Address.text]
      · simp [shown, hp, Symbol.shown, Symbol.normal, Symbol.render, Reference.render, Address.normal]
  | @number p digits hp =>
    refine symbol_in_sheet hk ?_ (fun _ => ?_) hn hmost h
    · rw [hp]
      exact not_mem_of_all digits.2.pathChars rfl
    · rw [hp]
      rfl
  | @call f o c arguments name hf ho =>
    simp only [List.cons_append, spell, hf, ho, Symbol.text, Symbol.render] at h
    have hgap := gap_nil_of_sheet f.blanks hn h
    rw [hgap, List.nil_append] at h
    obtain ⟨n', rfl, hopen⟩ := append_split (not_mem_of_all name.2.pathChars rfl) h
    rw [List.all_append, Bool.and_eq_true] at hn
    exact absurd hopen (not_sheet_of_symbol (c := '(') rfl (by decide) (by decide) hn.2)
  | @nested o c e ho =>
    simp only [List.cons_append, spell, ho, Symbol.text, Symbol.render] at h
    exact absurd h (not_sheet_of_symbol (c := '(') rfl (by decide) (by decide) hn)

/-- Where a sheet begins in front of an expression, it takes all up to an address. -/
theorem expression_in_sheet (hrest : EndsExpression rest) (he : Phrase .expression (symbols ps))
    (hn : n.all isSheetChar = true) (hmost : n.length ≤ 31)
    (h : spell ps rest = n ++ '!' :: behind) : TakenBySheet n ps rest := by
  generalize hlength : ps.length = length
  induction length using Nat.strongRecOn generalizing ps n with
  | ind length ih =>
    have hmore : ∀ {o : Placed} {e : List Placed} {n : List Char}
        (sign : {c : Char // IsOperator c}), o.symbol = .operator sign →
        Phrase .expression (symbols e) → e.length < length → n.all isSheetChar = true →
        n.length ≤ 31 → spell (o :: e) rest = n ++ '!' :: behind → TakenBySheet n (o :: e) rest :=
      fun sign ho hf hshort hn hmost h => operator_in_sheet ho
        (fun hn hmost h => ih _ hshort hf hn hmost h rfl) hn hmost h
    rcases he.cases_expression with ⟨a, k, rfl, ha, hk⟩ | ⟨o, e, sign, rfl, ho, -, he⟩
    · refine atom_in_sheet ha hk (fun {n} hn hmost h => ?_) hn hmost h
      cases hk with
      | nil => exact absurd h (not_sheet_of_ends hrest hn)
      | more sign ho _ hf =>
        refine hmore sign ho hf ?_ hn hmost h
        simp only [List.length_append, List.length_cons] at hlength
        omega
    · exact hmore sign ho he (by simp only [List.length_cons] at hlength; omega) hn hmost h

end ListingGrid.Grammar.Formula
