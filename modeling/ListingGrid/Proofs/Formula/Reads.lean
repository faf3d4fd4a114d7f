import ListingGrid.Proofs.Formula.Sheets

/-!
# Reading expressions

An expression is read as its symbols tell, whatever blanks stand between them. The reader
need not split it as it was split when it was written: `a-b!c` begins with a sheet, be it
written for `a - b!c` or not. But what a factor takes is always followed by an operator
and another expression, and so the operators of all ranks together take the whole.
-/

set_option autoImplicit false

namespace ListingGrid.Grammar.Formula

open ListingGrid.Grammar.Parser

variable {ps k : List Placed} {rest : List Char} {P : Char → Prop}

theorem length_spell (ps : List Placed) (rest : List Char) :
    ps.length + rest.length ≤ (spell ps rest).length := by
  induction ps with
  | nil => simp [spell]
  | cons p ps ih =>
    have hpos := List.length_pos_iff.mpr p.symbol.begins.ne_nil
    simp only [spell, List.length_append, List.length_cons]
    omega

theorem Phrase.ne_nil (h : Phrase .expression (symbols ps)) : ps ≠ [] := by
  rcases h.cases_expression with ⟨a, k, rfl, ha, -⟩ | ⟨o, e, -, rfl, -⟩
  · cases ha <;> simp
  · simp

/-- What may stand behind an argument: a comma or a closing parenthesis, possibly behind
blanks. -/
structure Closes (c : Char) (s : List Char) : Prop where
  skip : ∃ more, skipBlank s = c :: more
  ends : EndsExpression s
  quote : s.head? ≠ some '"'
  follows : FollowsRelation s

theorem closes_of_gap {gap : List Char} {c : Char} (hgap : Blanks gap) (hc : IsClosing c)
    (more : List Char) : Closes c (gap ++ c :: more) where
  skip := ⟨more, by
    rw [hgap.skip]
    rcases hc with rfl | rfl <;> simp [skipBlank_of_head, isBlank]⟩
  ends := (endsExpression_closing hc more).gap hgap
  quote := hgap.head_ne (by rcases hc with rfl | rfl <;> simp) (by decide)
  follows := followsRelation_gap hgap (followsRelation_closing hc more)

section Nested

variable {inner : Parser (List Char)} {bound : Nat}

/-- A reader of nested expressions that takes those of fewer symbols than a bound and fails
softly where none begins. -/
structure ReadsNested (inner : Parser (List Char)) (bound : Nat) : Prop where
  done : ∀ (ps : List Placed) (rest : List Char), Phrase .expression (symbols ps) →
    ps.length < bound → EndsExpression rest → inner (spell ps rest) = .done (shown ps rest) rest
  closing : ∀ s, (skipBlank s).head? = some ')' → Fails inner s
  quote : ∀ s, (skipBlank s).head? = some '"' → Fails inner s

theorem operand_reads (hinner : ReadsNested inner bound) (h : Phrase .operand (symbols ps))
    (hlength : ps.length < bound) (hrest : EndsExpression rest) (hquote : rest.head? ≠ some '"') :
    operand inner (spell ps rest) = .done (shown ps rest) rest := by
  rcases h.cases_operand with h | ⟨p, body, rfl, hp⟩
  · exact or_eq_done.mpr (.inl (hinner.done ps rest h hlength hrest))
  · have hskip : skipBlank (spell [p] rest) = '"' :: body.1 ++ '"' :: rest := by
      rw [skip_spell, hp]
      simp [Symbol.text, Symbol.render, spell]
    refine or_eq_done.mpr (.inr ⟨hinner.quote _ (by rw [hskip]; rfl), ?_⟩)
    refine map_eq_done.mpr ⟨body, ?_, ?_⟩
    · rw [lexeme, hskip]
      exact quoted_append body.2 hquote
    · simp [shown, hp, Symbol.shown, Symbol.normal, Symbol.render]

theorem relational_append {relation : List Char} (h : relation ∈ relations)
    (hrest : rest.head? ≠ some '>' ∧ rest.head? ≠ some '=') :
    relational (relation ++ rest) = .done relation rest := by
  simp only [relations, List.mem_cons, List.not_mem_nil, or_false] at h
  unfold relational
  rcases h with rfl | rfl | rfl | rfl | rfl | rfl <;> cases rest <;>
    simp_all [firstOf_eq_done, tag_eq_done, tag_fails, List.cons_prefix_cons, eq_comm]

theorem relational_fails {c : Char} (h : c ≠ '<' ∧ c ≠ '>' ∧ c ≠ '=') :
    Fails relational (c :: rest) := by
  obtain ⟨hless, hgreater, hequal⟩ := h
  unfold relational
  simp [firstOf_fails, tag_fails, List.cons_prefix_cons, hless.symm, hgreater.symm, hequal.symm]

theorem head_relation {relation : List Char} (h : relation ∈ relations) {c : Char}
    (hc : c ≠ '<' ∧ c ≠ '>' ∧ c ≠ '=') (rest : List Char) : (relation ++ rest).head? ≠ some c := by
  obtain ⟨hless, hgreater, hequal⟩ := hc
  simp only [relations, List.mem_cons, List.not_mem_nil, or_false] at h
  rcases h with rfl | rfl | rfl | rfl | rfl | rfl <;>
    simp [hless.symm, hgreater.symm, hequal.symm]

theorem argument_reads (hinner : ReadsNested inner bound) {c : Char}
    (h : Phrase .argument (symbols ps)) (hlength : ps.length < bound) (hc : IsClosing c)
    (hrest : Closes c rest) : argument inner (spell ps rest) = .done (shown ps rest) rest := by
  rcases h.cases_argument with h | ⟨left, right, r, sign, rfl, hleft, hr, hright⟩
  · have hnone : Fails (lexeme relational) rest := by
      obtain ⟨more, hskip⟩ := hrest.skip
      rw [Fails, lexeme, hskip]
      exact relational_fails (by rcases hc with rfl | rfl <;> decide)
    refine bind_eq_done.mpr ⟨_, _, operand_reads hinner h hlength hrest.ends hrest.quote, ?_⟩
    refine bind_eq_done.mpr ⟨none, _, optional_none (bind_fails.mpr (.inl hnone)), ?_⟩
    simp [pure_eq_done]
  · simp only [List.length_append, List.length_cons] at hlength
    have hopens : FollowsRelation (spell right rest) := hright.followsRelation hrest.follows
    have hfirst : (spell right rest).head? ≠ some '>' ∧ (spell right rest).head? ≠ some '=' := by
      constructor <;> intro heq <;> obtain ⟨more, hmore⟩ := List.head?_eq_some_iff.mp heq
      · exact (hopens [] _ more rfl hmore).1 rfl
      · exact (hopens [] _ more rfl hmore).2.2 rfl
    have hspell : spell (r :: right) rest = r.gap ++ (sign ++ spell right rest) := by
      rw [spell, hr, Symbol.text, Symbol.render]
    have hends : EndsExpression (spell (r :: right) rest) := by
      rw [hspell]
      exact (endsExpression_relation sign.2 hopens).gap r.blanks
    have hquote : (spell (r :: right) rest).head? ≠ some '"' := by
      rw [hspell]
      exact r.blanks.head_ne (head_relation sign.2 (by decide) _) (by decide)
    have hshown : shown (left ++ r :: right) rest =
        shown left (spell (r :: right) rest) ++ (sign ++ shown right rest) := by
      simp [shown, hr, Symbol.shown, Symbol.normal, Symbol.render]
    rw [spell_append, hshown]
    refine bind_eq_done.mpr ⟨_, _, operand_reads hinner hleft (by omega) hends hquote, ?_⟩
    refine bind_eq_done.mpr ⟨some (sign ++ shown right rest), rest, optional_some ?_, rfl⟩
    refine bind_eq_done.mpr ⟨sign, spell right rest, ?_, ?_⟩
    · rw [lexeme, skip_spell, hr]
      exact relational_append sign.2 hfirst
    · refine bind_eq_done.mpr ⟨_, rest, firmly_eq_done.mpr ?_, rfl⟩
      exact operand_reads hinner hright (by omega) hrest.ends hrest.quote

theorem arguments_from (hinner : ReadsNested inner bound) (h : Phrase .arguments (symbols ps))
    (hne : ps ≠ []) (hlength : ps.length < bound) (hrest : Closes ')' rest) :
    ∃ first more mid, mid.length ≤ (spell ps rest).length ∧
      argument inner (spell ps rest) = .done first mid ∧
      moreBy (lexeme (char ',')) (argument inner) mid = .done more rest ∧
      joinCommas (first :: more) = shown ps rest := by
  generalize hsize : ps.length = size
  induction size using Nat.strongRecOn generalizing ps with
  | ind size ih =>
    rcases h.cases_arguments hne with h | ⟨a, others, c, rfl, ha, hc, hothers, hothersNe⟩
    · have hread := argument_reads hinner h hlength (.inr rfl) hrest
      refine ⟨_, [], rest, by have := length_spell ps rest; omega, hread, moreBy_stop ?_, rfl⟩
      obtain ⟨more, hskip⟩ := hrest.skip
      rw [Fails, lexeme, hskip]
      exact char_fails (by simp)
    · simp only [List.length_append, List.length_cons] at hlength hsize
      obtain ⟨first, more, mid, hmid, hfirst, hmore, hjoin⟩ :=
        ih others.length (by omega) hothers hothersNe (by omega) rfl
      have hspell : spell (c :: others) rest = c.gap ++ ',' :: spell others rest := by
        rw [spell, hc]
        rfl
      have hread : argument inner (spell a (spell (c :: others) rest)) =
          .done (shown a (spell (c :: others) rest)) (spell (c :: others) rest) := by
        refine argument_reads hinner ha (by omega) (.inl rfl) ?_
        rw [hspell]
        exact closes_of_gap c.blanks (.inl rfl) _
      have hcomma : lexeme (char ',') (spell (c :: others) rest) = .done ',' (spell others rest) := by
        rw [lexeme, skip_spell, hc]
        exact char_eq_done.mpr ⟨rfl, rfl⟩
      have hshort : mid.length < (spell (c :: others) rest).length := by
        rw [hspell, List.length_append, List.length_cons]
        omega
      rw [spell_append]
      refine ⟨_, first :: more, spell (c :: others) rest, ?_, hread,
        moreBy_next hcomma hfirst hshort hmore, ?_⟩
      · have := length_spell a (spell (c :: others) rest)
        omega
      have hitems : ∀ item, joinCommas (item :: first :: more) =
          item ++ ',' :: joinCommas (first :: more) := fun _ => rfl
      rw [hitems, hjoin, shown_append, shown, hc]
      rfl

theorem arguments_reads (hinner : ReadsNested inner bound) (h : Phrase .arguments (symbols ps))
    (hlength : ps.length < bound) (hrest : Closes ')' rest) :
    ∃ items, sepBy (lexeme (char ',')) (argument inner) (spell ps rest) = .done items rest ∧
      joinCommas items = shown ps rest := by
  by_cases hne : ps = []
  · subst hne
    obtain ⟨more, hskip⟩ := hrest.skip
    have hoperand : Fails (operand inner) rest := by
      refine or_fails.mpr ⟨hinner.closing rest (by rw [hskip]; rfl), map_fails.mpr ?_⟩
      rw [Fails, lexeme, hskip]
      exact quoted_fails (by simp)
    exact ⟨[], sepBy_none (bind_fails.mpr (.inl hoperand)), rfl⟩
  · obtain ⟨first, more, mid, -, hfirst, hmore, hjoin⟩ := arguments_from hinner h hne hlength hrest
    exact ⟨first :: more, sepBy_some (sepBy1_eq_done.mpr ⟨first, more, mid, hfirst, hmore, rfl⟩),
      hjoin⟩

theorem closes_of_closing {c : Placed} (hc : c.symbol = .closing) (k : List Placed)
    (rest : List Char) : Closes ')' (spell (c :: k) rest) := by
  rw [spell, hc]
  exact closes_of_gap c.blanks (.inr rfl) _

theorem closing_reads {c : Placed} (hc : c.symbol = .closing) (k : List Placed)
    (rest : List Char) : firmly closing (spell (c :: k) rest) = .done ')' (spell k rest) := by
  refine firmly_eq_done.mpr (label_eq_done.mpr ?_)
  rw [lexeme, skip_spell, hc]
  exact char_eq_done.mpr ⟨rfl, rfl⟩

theorem call_reads (hinner : ReadsNested inner bound) {name : List Char}
    (hname : IsFunctionName name) {o c : Placed} (ho : o.symbol = .opening)
    (h : Phrase .arguments (symbols ps)) (hlength : ps.length < bound) (hc : c.symbol = .closing)
    (rest : List Char) : call inner (name ++ spell (o :: (ps ++ [c])) rest) =
      .done (name ++ '(' :: shown ps (spell [c] rest) ++ [')']) rest := by
  have hspell : spell (o :: (ps ++ [c])) rest = o.gap ++ '(' :: spell ps (spell [c] rest) := by
    simp [spell, ho, Symbol.text, Symbol.render]
  obtain ⟨items, hitems, hjoin⟩ := arguments_reads hinner h hlength (closes_of_closing hc [] rest)
  rw [← hjoin]
  refine bind_eq_done.mpr ⟨name, spell (o :: (ps ++ [c])) rest, ?_, ?_⟩
  · rw [hspell]
    exact points_append hname (o.blanks.stops (stops_cons rfl) (by decide))
      (o.blanks.head_ne (by simp) (by decide))
  · refine bind_eq_done.mpr ⟨'(', spell ps (spell [c] rest), ?_, ?_⟩
    · rw [lexeme, skip_spell, ho, spell_append]
      exact char_eq_done.mpr ⟨rfl, rfl⟩
    · refine bind_eq_done.mpr ⟨items, _, hitems, bind_eq_done.mpr ⟨')', rest, ?_, rfl⟩⟩
      exact closing_reads hc [] rest

section Factor

variable {u s t : List Char}

theorem factor_call (hs : skipBlank u = s) (h : call inner s = .done t rest) :
    factor inner u = .done t rest := by
  rw [factor, lexeme, hs]
  exact label_eq_done.mpr (firstOf_eq_done.mpr (.inl h))

theorem factor_reference (hs : skipBlank u = s) (hcall : Fails (call inner) s)
    (h : reference s = .done t rest) : factor inner u = .done t rest := by
  rw [factor, lexeme, hs]
  exact label_eq_done.mpr (firstOf_done [_] rfl (by simpa using hcall) h)

theorem factor_number (hs : skipBlank u = s) (hcall : Fails (call inner) s)
    (href : Fails reference s) (h : number s = .done t rest) :
    factor inner u = .done t rest := by
  rw [factor, lexeme, hs]
  exact label_eq_done.mpr (firstOf_done [_, _] rfl (by simp [hcall, href]) h)

theorem factor_signed {sign : Char} (hs : skipBlank u = sign :: s) (hsign : IsSign sign)
    (href : Fails reference (sign :: s)) (h : inner s = .done t rest) :
    factor inner u = .done (sign :: t) rest := by
  have hcall : Fails (call inner) (sign :: s) :=
    call_fails_of_head (stops_cons (by rcases hsign with rfl | rfl <;> decide))
  have hnumber : Fails number (sign :: s) :=
    number_fails (stops_cons (by rcases hsign with rfl | rfl <;> decide))
  rw [factor, lexeme, hs]
  refine label_eq_done.mpr (firstOf_done [_, _, _] rfl (by simp [hcall, href, hnumber]) ?_)
  refine bind_eq_done.mpr ⟨sign, s, satisfy_eq_done.mpr ⟨rfl, ?_⟩, ?_⟩
  · rcases hsign with rfl | rfl <;> decide
  · exact bind_eq_done.mpr ⟨t, rest, firmly_eq_done.mpr h, rfl⟩

theorem reference_fails_of_open (s : List Char) : Fails reference ('(' :: s) := by
  refine reference_fails (by simp) ?_ (address_fails (by decide) (by decide))
  rcases sheet_cases (s := '(' :: s) (by simp) with ⟨name, behind, hsplit, hname⟩ | hfails
  · exact absurd hsplit (not_sheet_of_head rfl (by decide) hname.all)
  · exact hfails

theorem factor_nested {mid : List Char} (hs : skipBlank u = '(' :: s) (h : inner s = .done t mid)
    (hclosing : firmly closing mid = .done ')' rest) :
    factor inner u = .done ('(' :: t ++ [')']) rest := by
  have hcall : Fails (call inner) ('(' :: s) := call_fails_of_head (stops_cons rfl)
  have href := reference_fails_of_open s
  have hnumber : Fails number ('(' :: s) := number_fails (stops_cons rfl)
  have hsign : Fails (oneOf ['+', '-']) ('(' :: s) := satisfy_fails (stops_cons (by decide))
  rw [factor, lexeme, hs]
  refine label_eq_done.mpr (firstOf_done [_, _, _, _] rfl
    (by simp [hcall, href, hnumber, bind_fails, hsign]) ?_)
  refine bind_eq_done.mpr ⟨'(', s, char_eq_done.mpr ⟨rfl, rfl⟩, ?_⟩
  refine bind_eq_done.mpr ⟨t, mid, firmly_eq_done.mpr h, ?_⟩
  exact bind_eq_done.mpr ⟨')', rest, hclosing, rfl⟩

end Factor

def Takes (p : Parser (List Char)) (P : Char → Prop) (ps : List Placed) (rest : List Char) : Prop :=
  ∃ front k, ps = front ++ k ∧ front ≠ [] ∧
    p (spell ps rest) = .done (shown front (spell k rest)) (spell k rest) ∧ Tail P k

/-- Where a factor begins with a sheet, it takes the sheet and the address behind it. -/
theorem sheet_takes (he : Phrase .expression (symbols ps)) (hrest : EndsExpression rest)
    {s : List Char} (hs : skipBlank (spell ps rest) = s) (hhead : s.head? ≠ some '\'')
    {name : List Char} (hname : IsSheetName name) (behind : List Char)
    (h : s = name ++ '!' :: behind) : Takes (factor inner) (fun _ => True) ps rest := by
  obtain ⟨p, more, rfl⟩ := List.exists_cons_of_ne_nil he.ne_nil
  have hspell : spell (p.symbol.place :: more) rest = s := by
    rw [← hs, skip_spell]
    rfl
  have hplaced : Phrase .expression (symbols (p.symbol.place :: more)) := he
  obtain ⟨front, k, target, hsplit, hne, hfront, hshown, hk⟩ :=
    expression_in_sheet hrest hplaced hname.all hname.most (hspell.trans h)
  obtain ⟨p', front, rfl⟩ := List.exists_cons_of_ne_nil hne
  obtain ⟨rfl, rfl⟩ := List.cons.inj hsplit
  have hread : s = name ++ '!' :: (target.text ++ spell k rest) := by
    rw [← hspell, ← hfront, ← spell_append]
    rfl
  refine ⟨p :: front, k, rfl, by simp, ?_, hk⟩
  have hgiven : shown (p :: front) (spell k rest) = name ++ '!' :: target.normal := hshown
  rw [hgiven]
  refine factor_reference (hs.trans hread) (call_fails_of_sheet hname.all) ?_
  have href := reference_of_sheet (hread ▸ hhead) (sheet_append hname)
    (target.reads (hk.ends hrest).toEndsAddress)
  simpa using href

theorem stops_of_book {book more : List Char} (h : IsWorkbook book) :
    Stops startsName (book ++ more) := by
  obtain ⟨inside, rfl⟩ := List.head?_eq_some_iff.mp h.head
  exact stops_cons rfl

theorem startsName_of_isDigit {c : Char} (h : Text.isDigit c = true) : startsName c = false := by
  simp only [startsName, Text.isLetter_of_isDigit h, Bool.false_or, beq_eq_false_iff_ne]
  rintro rfl
  revert h
  decide

/-- Where no sheet begins, a factor takes a reference whole. -/
theorem factor_placedReference {p : Placed} {target : Reference} (hp : p.symbol = .reference target)
    (hrest : EndsAtom rest) (hsheet : (skipBlank (spell [p] rest)).head? ≠ some '\'' →
      Fails sheet (skipBlank (spell [p] rest))) :
    factor inner (spell [p] rest) = .done (shown [p] rest) rest := by
  have hskip : skipBlank (spell [p] rest) = target.text ++ rest := by
    rw [skip_spell, hp]
    rfl
  rw [hskip] at hsheet
  cases target with
  | link book name =>
    have hgiven : shown [p] rest = book ++ '!' :: name := by
      simp [shown, hp, Symbol.shown, Symbol.normal, Symbol.render, Reference.render]
    rw [hgiven]
    refine factor_reference hskip ?_ (reference_link book.2 name.2 hrest.word)
    rw [Reference.text, Reference.render, List.append_assoc]
    exact call_fails_of_head (stops_of_book book.2)
  | plain target =>
    have hhead : (target.text ++ rest).head? ≠ some '\'' :=
      head_ne_of_all target.begins.ne_nil target.all rfl
    have hfails : Fails sheet (target.text ++ rest) := hsheet hhead
    have hgiven : shown [p] rest = target.normal := by
      simp [shown, spell, hp, Symbol.shown, beginsSheet_of_fails hfails]
    rw [hgiven]
    refine factor_reference hskip (call_fails_of_address target.all hrest.word
      hrest.point fun _ => hrest.call) ?_
    exact reference_of_address hhead hfails (target.reads hrest.toEndsAddress)
  | onSheet sheet target =>
    rw [Reference.text, Reference.render, List.append_assoc, List.cons_append] at hsheet
    have hfails := hsheet (head_ne_of_all sheet.2.ne_nil sheet.2.all rfl)
    exact absurd (sheet_append sheet.2) hfails.not_done
  | inBook book sheet target =>
    have hgiven : shown [p] rest = book ++ (sheet ++ '!' :: target.normal) := by
      simp [shown, hp, Symbol.shown, Symbol.normal, Symbol.render, Reference.render,
        Address.normal]
    rw [hgiven]
    refine factor_reference hskip ?_
      (reference_inBook book.2 sheet.2 target hrest.toEndsAddress)
    rw [Reference.text, Reference.render, List.append_assoc]
    exact call_fails_of_head (stops_of_book book.2)

/-- Where no sheet begins, a factor takes a number whole. -/
theorem factor_placedNumber {p : Placed} {digits : {t : List Char // IsNumber t}}
    (hp : p.symbol = .number digits) (hrest : EndsAtom rest)
    (hsheet : (skipBlank (spell [p] rest)).head? ≠ some '\'' →
      Fails sheet (skipBlank (spell [p] rest))) :
    factor inner (spell [p] rest) = .done (shown [p] rest) rest := by
  have hskip : skipBlank (spell [p] rest) = digits ++ rest := by
    rw [skip_spell, hp]
    rfl
  have hgiven : shown [p] rest = digits := by
    simp [shown, hp, Symbol.shown, Symbol.normal, Symbol.render]
  obtain ⟨c, more, hc, hdigit⟩ := digits.2.head
  have hname := startsName_of_isDigit hdigit
  have hsign : c ≠ '\'' ∧ c ≠ '$' ∧ c ≠ '<' := by
    refine ⟨?_, ?_, ?_⟩ <;> rintro rfl <;> revert hdigit <;> decide
  have hhead : (digits.1 ++ rest).head? ≠ some '\'' := by simpa [hc] using hsign.1
  rw [hskip] at hsheet
  rw [hgiven]
  refine factor_number hskip ?_ (reference_fails hhead (hsheet hhead) ?_) ?_
  · rw [hc]
    exact call_fails_of_head (stops_cons hname)
  · rw [hc]
    exact address_fails hname hsign.2
  · exact number_append digits.2 (Stops.mono hrest.word fun _ => Text.isWordChar_of_isDigit)
      hrest.point

theorem atom_reads (hinner : ReadsNested inner bound) {a : List Placed} (ha : AtomOf a)
    (hlength : a.length ≤ bound) (hrest : EndsAtom rest)
    (hsheet : (skipBlank (spell a rest)).head? ≠ some '\'' → Fails sheet (skipBlank (spell a rest))) :
    factor inner (spell a rest) = .done (shown a rest) rest := by
  cases ha with
  | reference target hp => exact factor_placedReference hp hrest hsheet
  | number digits hp => exact factor_placedNumber hp hrest hsheet
  | @call f o c arguments name hf ho h hc =>
    simp only [List.length_cons, List.length_append] at hlength
    have hskip : skipBlank (spell (f :: o :: (arguments ++ [c])) rest) =
        name ++ spell (o :: (arguments ++ [c])) rest := by
      rw [skip_spell, hf]
      rfl
    have hgiven : shown (f :: o :: (arguments ++ [c])) rest =
        name ++ '(' :: shown arguments (spell [c] rest) ++ [')'] := by
      simp [shown, hf, ho, hc, Symbol.shown, Symbol.normal, Symbol.render]
    rw [hgiven]
    exact factor_call hskip (call_reads hinner name.2 ho h (by omega) hc rest)
  | @nested o c e ho h hc =>
    simp only [List.length_cons, List.length_append] at hlength
    have hskip : skipBlank (spell (o :: (e ++ [c])) rest) = '(' :: spell e (spell [c] rest) := by
      rw [skip_spell, ho, spell_append]
      rfl
    have hgiven : shown (o :: (e ++ [c])) rest = '(' :: shown e (spell [c] rest) ++ [')'] := by
      simp [shown, ho, hc, Symbol.shown, Symbol.normal, Symbol.render]
    rw [hgiven]
    refine factor_nested hskip (hinner.done e _ h (by omega) ?_) (closing_reads hc [] rest)
    exact (closes_of_closing hc [] rest).ends

/-- A factor takes something in front of an expression. -/
theorem factor_takes (hinner : ReadsNested inner bound) (he : Phrase .expression (symbols ps))
    (hlength : ps.length ≤ bound) (hrest : EndsExpression rest) :
    Takes (factor inner) (fun _ => True) ps rest := by
  by_cases hsheet : ∃ name behind, skipBlank (spell ps rest) = name ++ '!' :: behind ∧
      IsSheetName name ∧ (skipBlank (spell ps rest)).head? ≠ some '\''
  · obtain ⟨name, behind, hsplit, hname, hhead⟩ := hsheet
    exact sheet_takes he hrest rfl hhead hname behind hsplit
  · have hfails : (skipBlank (spell ps rest)).head? ≠ some '\'' →
        Fails sheet (skipBlank (spell ps rest)) := fun hhead =>
      (sheet_cases hhead).resolve_left fun ⟨name, behind, hsplit, hname⟩ =>
        hsheet ⟨name, behind, hsplit, hname, hhead⟩
    rcases he.cases_expression with ⟨a, k, rfl, ha, hk⟩ | ⟨o, e, sign, rfl, ho, hsign, he⟩
    · rw [List.length_append] at hlength
      rw [spell_append] at hfails
      refine ⟨a, k, rfl, by cases ha <;> simp, ?_, hk⟩
      rw [spell_append]
      exact atom_reads hinner ha (by omega) (hk.ends hrest) hfails
    · have hskip := skip_operator ho e rest
      have hhead : (sign.1 :: spell e rest).head? ≠ some '\'' := by
        rcases hsign with h | h <;> rw [h] <;> simp
      have hgiven : shown (o :: e) rest = sign.1 :: shown e rest := by
        simp [shown, ho, Symbol.shown, Symbol.normal, Symbol.render]
      rw [hskip] at hfails
      refine ⟨o :: e, [], by simp, by simp, ?_, .nil⟩
      rw [List.length_cons] at hlength
      rw [spell, hgiven]
      refine factor_signed hskip hsign (reference_fails hhead (hfails hhead) ?_) ?_
      · rcases hsign with h | h <;> rw [h] <;> exact address_fails (by decide) (by decide)
      · exact hinner.done e rest he hlength hrest

end Nested

theorem joined_done {p : Parser (List Char)} {operators next left : List Char} {o : Placed}
    {e : List Placed} {sign : {c : Char // IsOperator c}} (ho : o.symbol = .operator sign)
    (hmem : sign.1 ∈ operators) (hread : p (spell e rest) = .done next left) :
    (do
      let operator ← lexeme (oneOf operators)
      let next ← firmly p
      return operator :: next) (spell (o :: e) rest) = .done (sign.1 :: next) left := by
  refine bind_eq_done.mpr ⟨sign.1, spell e rest, ?_, ?_⟩
  · rw [lexeme, skip_operator ho]
    exact satisfy_eq_done.mpr ⟨rfl, by simpa using hmem⟩
  · exact bind_eq_done.mpr ⟨_, _, firmly_eq_done.mpr hread, rfl⟩

/-- What operators join to the expressions in front of them, one after the other. -/
theorem foldMany_takes {p : Parser (List Char)} {bound : Nat} (operators : List Char)
    (hoperators : ∀ c ∈ operators, IsOperator c) (hrest : EndsExpression rest)
    (hp : ∀ ps, Phrase .expression (symbols ps) → ps.length ≤ bound → Takes p P ps rest)
    (hk : Tail P k) (hlength : k.length ≤ bound) (first : List Char) :
    ∃ front left, k = front ++ left ∧
      foldMany (do
        let operator ← lexeme (oneOf operators)
        let next ← firmly p
        return operator :: next) (· ++ ·) first (spell k rest) =
          .done (first ++ shown front (spell left rest)) (spell left rest) ∧
      Tail (fun c => P c ∧ c ∉ operators) left := by
  -- By induction on the symbols left of the tail, of which each round takes some.
  generalize hn : k.length = n
  induction n using Nat.strongRecOn generalizing k first with
  | ind n ih =>
    cases hk with
    | nil =>
      refine ⟨[], [], rfl, ?_, .nil⟩
      rw [shown, List.append_nil]
      refine foldMany_stop (bind_fails.mpr (.inl (satisfy_fails fun c hc => ?_)))
      cases hmem : operators.contains c with
      | false => rfl
      | true => exact absurd (hoperators c (by simpa using hmem)) (hrest.operator c hc)
    | @more o e sign ho hop he =>
      by_cases hmem : sign.1 ∈ operators
      · rw [List.length_cons] at hlength hn
        obtain ⟨next, k, rfl, hne, hread, hk⟩ := hp e he (by omega)
        rw [List.length_append] at hlength hn
        obtain ⟨front, left, rfl, hmore, hleft⟩ :=
          ih k.length (by omega) hk (by omega) (first ++ sign.1 :: shown next (spell k rest)) rfl
        have hshort : (spell (front ++ left) rest).length <
            (spell (o :: (next ++ (front ++ left))) rest).length := by
          have hlt := length_spell (o :: next) (spell (front ++ left) rest)
          rw [← spell_append, List.cons_append, List.length_cons] at hlt
          omega
        refine ⟨o :: (next ++ front), left, by simp, ?_, hleft⟩
        rw [foldMany_next (joined_done ho hmem hread) hshort, hmore]
        simp [shown, ho, Symbol.shown, Symbol.normal, Symbol.render]
      · refine ⟨[], o :: e, rfl, ?_, .more sign ho ⟨hop, hmem⟩ he⟩
        rw [shown, List.append_nil]
        refine foldMany_stop (bind_fails.mpr (.inl ?_))
        rw [Fails, lexeme, skip_operator ho]
        exact satisfy_fails (stops_cons (by simpa using hmem))

/-- A chain takes all that its operators join and leaves the other operators. -/
theorem chain_takes {p : Parser (List Char)} {bound : Nat} {operators : List Char}
    (hoperators : ∀ c ∈ operators, IsOperator c) (hrest : EndsExpression rest)
    (hp : ∀ ps, Phrase .expression (symbols ps) → ps.length ≤ bound → Takes p P ps rest)
    (he : Phrase .expression (symbols ps)) (hlength : ps.length ≤ bound) :
    Takes (chain operators p) (fun c => P c ∧ c ∉ operators) ps rest := by
  obtain ⟨first, k, rfl, hne, hread, hk⟩ := hp ps he hlength
  rw [List.length_append] at hlength
  obtain ⟨front, left, rfl, hmore, hleft⟩ :=
    foldMany_takes operators hoperators hrest hp hk (by omega) (shown first (spell k rest))
  refine ⟨first ++ front, left, by simp, by simp [hne], ?_, hleft⟩
  rw [shown_append, ← spell_append]
  exact bind_eq_done.mpr ⟨_, _, hread, hmore⟩

/-- Nothing that operators join begins with a sign of another kind. -/
theorem factor_fails {inner : Parser (List Char)} {c : Char}
    (hc : c ∈ [')', '"', ',', '#', '.']) {s : List Char} (hs : s.head? = some c) :
    Fails (firstOf (call inner)
      [reference,
        number,
        do
          let sign ← oneOf ['+', '-']
          let body ← firmly inner
          return sign :: body,
        do
          let _ ← char '('
          let body ← firmly inner
          let _ ← firmly closing
          return '(' :: body ++ [')']]) s := by
  obtain ⟨rest, rfl⟩ := List.head?_eq_some_iff.mp hs
  simp only [List.mem_cons, List.not_mem_nil, or_false] at hc
  have hplain : startsName c = false ∧ Text.isDigit c = false ∧ isSheetChar c = false ∧
      (['+', '-'].contains c) = false := by
    rcases hc with rfl | rfl | rfl | rfl | rfl <;> decide
  have hsign : c ≠ '\'' ∧ c ≠ '!' ∧ c ≠ '$' ∧ c ≠ '<' ∧ c ≠ '(' := by
    rcases hc with rfl | rfl | rfl | rfl | rfl <;> decide
  obtain ⟨hname, hdigit, hsheet, hplus⟩ := hplain
  obtain ⟨hquote, hmark, hdollar, hopen, hparen⟩ := hsign
  have hhead : (c :: rest).head? ≠ some '\'' := by simpa using hquote
  have hreference : Fails reference (c :: rest) := by
    refine reference_fails hhead ?_ (address_fails hname ⟨hdollar, hopen⟩)
    rcases sheet_cases hhead with ⟨name, behind, hsplit, hname⟩ | hfails
    · exact absurd hsplit (not_sheet_of_head hsheet hmark hname.all)
    · exact hfails
  refine firstOf_fails.mpr ⟨call_fails_of_head (stops_cons hname), ?_⟩
  simp only [List.forall_mem_cons, List.not_mem_nil, false_imp_iff, implies_true, and_true]
  refine ⟨hreference, number_fails (stops_cons hdigit), ?_, ?_⟩
  · exact bind_fails.mpr (.inl (satisfy_fails (stops_cons hplus)))
  · exact bind_fails.mpr (.inl (char_fails (by simpa using hparen)))

/-- No expression begins with a closing parenthesis or a quote. -/
theorem expressionWithin_fails {c : Char} (h : c = ')' ∨ c = '"') (depth : Nat) {s : List Char}
    (hs : (skipBlank s).head? = some c) : Fails (expressionWithin depth) s := by
  cases depth with
  | zero => exact ⟨_, rfl⟩
  | succ depth =>
    refine bind_fails.mpr (.inl (bind_fails.mpr (.inl (label_fails.mpr ?_))))
    exact factor_fails (by rcases h with rfl | rfl <;> simp) hs

theorem expressionWithin_spell (depth : Nat) (he : Phrase .expression (symbols ps))
    (hlength : ps.length < depth) (hrest : EndsExpression rest) :
    expressionWithin depth (spell ps rest) = .done (shown ps rest) rest := by
  induction depth generalizing ps rest with
  | zero => omega
  | succ depth ih =>
    have hinner : ReadsNested (expressionWithin depth) depth := {
      done := fun ps rest he hshort hrest => ih he hshort hrest
      closing := fun s => expressionWithin_fails (.inl rfl) depth
      quote := fun s => expressionWithin_fails (.inr rfl) depth }
    have hterm : ∀ ps, Phrase .expression (symbols ps) → ps.length ≤ depth →
        Takes (term (expressionWithin depth)) (fun c => True ∧ c ∉ ['*', '/']) ps rest :=
      fun ps he hshort => chain_takes (by simp [IsOperator]) hrest
        (fun ps he hshort => factor_takes hinner he hshort hrest) he hshort
    have hsum : Takes (sum (expressionWithin depth)) _ ps rest :=
      chain_takes (by simp [IsOperator]) hrest hterm he (by omega)
    obtain ⟨front, k, rfl, -, hread, hk⟩ := hsum
    cases hk with
    | nil =>
      rw [List.append_nil] at hread ⊢
      exact hread
    | more sign ho hsign he =>
      obtain ⟨⟨-, hmul⟩, hadd⟩ := hsign
      rcases sign.2 with h | h | h | h <;> rw [h] at hmul hadd <;> simp at hmul hadd

theorem expressionWithin_append {e : List Char} (depth : Nat) (he : Normal .expression e)
    (hlength : e.length < depth) (hrest : EndsExpression rest) :
    expressionWithin depth (e ++ rest) = .done e rest := by
  obtain ⟨ts, hts, hnormal, rfl⟩ := he.written
  obtain ⟨hspell, hshown⟩ := spell_place hnormal rest
  have hshort : (ts.map Symbol.place).length < depth := by
    have hle := length_spell (ts.map Symbol.place) rest
    rw [hspell, List.length_append] at hle
    omega
  have hread := expressionWithin_spell depth (by rwa [symbols_place]) hshort hrest
  rwa [hspell, hshown] at hread

end ListingGrid.Grammar.Formula
