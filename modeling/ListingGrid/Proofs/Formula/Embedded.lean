import ListingGrid.Proofs.Formula.Continued

/-!
# Embedded formulas

A formula alone and the same formula in front of other text are read alike, as long as the
text behind it begins on another line and with no sign that could join the formula. The
readers are followed from the inside out, each nested expression in front of the same tails
as the expression around it.
-/

set_option autoImplicit false

namespace ListingGrid.Grammar.Formula

open ListingGrid.Grammar.Parser

variable {T T' s s' x y rest : List Char} {n : Nat} {c : Char} {inner inner' p p' : Parser (List Char)}

section Tail

variable (h : Tails T T')

include h

theorem tracks_operator {operators : List Char} (hoperators : ∀ c ∈ operators, c ∉ strays) :
    Tracks (inFront n strays T T') (lexeme (oneOf operators)) (lexeme (oneOf operators)) id := by
  refine tracks_lexeme h hash_mem_strays (advances_lexeme (advances_oneOf _))
    (shortens_lexeme (shortens_satisfy _)) ?_ (copies_satisfy _)
  intro s a rest hread d hd
  obtain ⟨hsplit, hmem⟩ := satisfy_eq_done.mp hread
  obtain rfl : a = d := by simpa [hsplit] using hd
  exact hoperators a (by simpa using hmem)

theorem spares_operator {operators : List Char} (hjoin : ∀ c ∈ operators, c ∈ joiners) :
    Spares (inFront n strays T T') (lexeme (oneOf operators)) (lexeme (oneOf operators)) := by
  refine spares_lexeme h hash_mem_strays operators.contains
    (fun _ c hc => hjoin c (by simpa using hc)) (fun s hfails c hc => ?_) fun s => satisfy_fails
  obtain ⟨more, rfl⟩ := List.head?_eq_some_iff.mp hc
  cases hmem : operators.contains c with
  | false => rfl
  | true => exact absurd (satisfy_eq_done.mpr ⟨rfl, hmem⟩) hfails.not_done

theorem tracks_closing : Tracks (inFront n strays T T') (firmly closing) (firmly closing) id :=
  tracks_firmly (tracks_label (tracks_char h hash_mem_strays (by decide)))

theorem tracks_quotedOperand :
    Tracks (inFront n strays T T') quotedOperand quotedOperand id :=
  tracks_map (φ := id) (tracks_quoted h hash_mem_strays (by decide)) fun _ => rfl

theorem tracks_relational :
    Tracks (inFront n strays T T') (lexeme relational) (lexeme relational) id := by
  refine tracks_lexeme h hash_mem_strays (advances_lexeme advances_relational) ?_ ?_
    (copies_relational h)
  · refine shortens_lexeme (shortens_firstOf (shortens_tag (by simp)) ?_)
    simp only [List.forall_mem_cons, List.not_mem_nil, false_imp_iff, implies_true, and_true]
    refine ⟨?_, ?_, ?_, ?_, ?_⟩ <;> exact shortens_tag (by simp)
  · intro s sign rest hread d hd
    have hmem := gives_relational _ _ _ hread
    obtain ⟨hsplit, -⟩ := relational_again hread
    rw [hsplit] at hd
    intro hstray
    exact head_relation hmem (by
      simp only [strays, List.mem_cons, List.not_mem_nil, or_false] at hstray
      rcases hstray with rfl | rfl <;> decide) rest hd

theorem spares_relational :
    Spares (inFront n strays T T') (lexeme relational) (lexeme relational) := by
  refine spares_lexeme h hash_mem_strays beginsRelation (fun _ c hc => ?_)
    (fun s => relational_stops) fun s => relational_fails_of_stops
  simp only [beginsRelation, List.contains_cons, Bool.or_eq_true, beq_iff_eq, List.contains_nil,
    Bool.false_eq_true, or_false] at hc
  rcases hc with rfl | rfl | rfl <;> decide

omit h in
/-- A name that begins no call has no parenthesis behind it: behind one, nothing is left to
an alternative. -/
theorem no_parenthesis {name : List Char} (hname : IsName name) (hword : Stops Text.isWordChar rest)
    (hpoint : rest.head? ≠ some '.') (hfails : Fails (call inner) (name ++ rest)) :
    (skipBlank rest).head? ≠ some '(' := by
  intro hparen
  obtain ⟨more, hmore⟩ := List.head?_eq_some_iff.mp hparen
  have hread : lexeme (char '(') rest = .done '(' more := char_eq_done.mpr ⟨hmore, rfl⟩
  have hfirm : ∀ give : List (List Char) → List Char, Firm (do
      let arguments ← sepBy (lexeme (char ',')) (argument inner)
      let _ ← firmly closing
      return give arguments : Parser (List Char)) := fun _ =>
    firm_bind (firm_map (firm_optional _)) fun _ => firm_bind (firm_firmly _) fun _ => firm_pure _
  rcases bind_fails.mp hfails with hnever | ⟨t, mid, hgiven, hbehind⟩
  · exact hnever.not_done (points_append (.name hname) hword hpoint)
  · rw [points_append (.name hname) hword hpoint] at hgiven
    obtain ⟨rfl, rfl⟩ := Result.done.inj hgiven
    rcases bind_fails.mp hbehind with hnever | ⟨_, left, -, hnever⟩
    · exact hnever.not_done hread
    · exact hfirm _ left hnever

/-- What a reference was read from in front of the first tail begins no call in front of
the second one either. -/
theorem call_fails_in_front {ref : List Char}
    (hread : reference (x ++ T) = .done ref (y ++ T)) (hopen : (inFront n strays T T').Open (y ++ T))
    (hfails : Fails (call inner) (x ++ T)) : Fails (call inner') (x ++ T') := by
  rcases reference_cases hread with ⟨book, name, hbook, -, -, hsplit, -⟩ |
    ⟨book, name, mid, target, hbook, -, hsplit, htarget, -⟩ |
    ⟨name, mid, target, hname, hsplit, htarget, -⟩ | ⟨-, -, htarget⟩
  · rw [List.append_assoc, ← List.append_assoc] at hsplit
    obtain rfl := eq_append_of_tail (t := book ++ '!' :: name) (by simpa using hsplit)
    rw [List.append_assoc, List.append_assoc]
    exact call_fails_of_head (stops_of_book hbook)
  · obtain ⟨a, rfl, -⟩ := address_taken htarget
    obtain rfl := eq_append_of_tail (t := book ++ (name ++ '!' :: a)) (by simpa using hsplit)
    rw [List.append_assoc, List.append_assoc]
    exact call_fails_of_head (stops_of_book hbook)
  · obtain ⟨a, rfl, -⟩ := address_taken htarget
    obtain rfl := eq_append_of_tail (t := name ++ '!' :: a) (by simpa using hsplit)
    rw [List.append_assoc, List.append_assoc]
    exact call_fails_of_sheet hname.all
  · obtain ⟨a, hsplit, hall, hword⟩ := address_taken htarget
    obtain rfl := eq_append_of_tail hsplit
    rw [List.append_assoc] at hfails ⊢
    refine call_fails_of_address hall ((h.stops (by decide) y).mp hword)
      (h.head_ne (by decide) (open_point point_mem_strays hopen)) fun hname => ?_
    have hparen := no_parenthesis hname hword (open_point point_mem_strays hopen) hfails
    have hstops : Stops (· == '(') (skipBlank (y ++ T)) := fun c hc =>
      beq_eq_false_iff_ne.mpr fun heq => hparen (heq ▸ hc)
    have hstops' := inFront_stops h hash_mem_strays (fun _ c hc => ?_)
      (inFront_pair (n := y.length + 1) (by omega)) hopen hstops
    · intro heq
      simpa using hstops' '(' heq
    · obtain rfl : c = '(' := by simpa using hc
      decide

/-- Where a sign or a digit is in front, no call begins, and no reference does in front of
the second tail if none does in front of the first. -/
theorem others_fail_in_front (hc : c ∈ ['+', '-', '('] ∨ Text.isDigit c = true)
    (hhead : (x ++ T).head? = some c) (href : Fails reference (x ++ T)) :
    (x ++ T').head? = some c ∧ Fails (call inner') (x ++ T') ∧ Fails reference (x ++ T') := by
  have hletter : Text.isLetter c = false := by
    rcases hc with hc | hc
    · simp only [List.mem_cons, List.not_mem_nil, or_false] at hc
      rcases hc with rfl | rfl | rfl <;> decide
    · exact Text.isLetter_of_isDigit hc
  have hname : startsName c = false := by
    simp only [startsName, hletter, Bool.false_or, beq_eq_false_iff_ne]
    rintro rfl
    simp [Text.isDigit] at hc
  have hsign : (c ≠ '$' ∧ c ≠ '<') ∧ c ≠ '\'' := by
    refine ⟨⟨?_, ?_⟩, ?_⟩ <;> rintro rfl <;> simp [Text.isDigit] at hc
  cases x with
  | nil =>
    rcases h.head with ⟨rfl, -⟩ | ⟨d, more, more', rfl, rfl, hd⟩
    · simp at hhead
    · obtain rfl : d = c := by simpa using hhead
      simp [hletter] at hd
  | cons d x =>
    obtain rfl : d = c := by simpa using hhead
    exact ⟨rfl, call_fails_of_head (stops_cons hname),
      reference_fails_in_front h hname hsign.1 hsign.2 href⟩

end Tail

structure TracksNested (n : Nat) (T T' : List Char) (inner inner' : Parser (List Char)) : Prop where
  tracks : Tracks (inFront n strays T T') inner inner' id
  advances : Advances inner'
  closing : ∀ s, (skipBlank s).head? = some ')' → Fails inner' s
  quote : ∀ s, (skipBlank s).head? = some '"' → Fails inner' s

section Nested

variable (h : Tails T T') (hinner : TracksNested n T T' inner inner')

include h hinner

theorem tracks_operand :
    Tracks (inFront n strays T T') (operand inner) (operand inner') id where
  advances := advances_operand hinner.tracks.advances
  done {s s' rest a} hs hread hrest := by
    rcases or_eq_done.mp hread with hread | ⟨-, hread⟩
    · obtain ⟨hopen, rest', hread', hpair⟩ := hinner.tracks.done hs hread hrest
      exact ⟨hopen, rest', or_eq_done.mpr (.inl hread'), hpair⟩
    · obtain ⟨hopen, rest', hread', hpair⟩ := (tracks_quotedOperand h).done hs hread hrest
      refine ⟨hopen, rest', or_eq_done.mpr (.inr ⟨hinner.quote s' ?_, hread'⟩), hpair⟩
      obtain ⟨body, hbody, -⟩ := map_eq_done.mp hread'
      rw [(quoted_eq_done hbody).1]
      rfl

theorem tracks_argument :
    Tracks (inFront n strays T T') (argument inner) (argument inner') id := by
  refine tracks_bind (φ := id) (tracks_operand h hinner) fun left => ?_
  refine tracks_bind (φ := Option.map id) (tracks_optional ?_ ?_) fun comparison => ?_
  · exact tracks_bind (φ := id) (tracks_relational h) fun sign =>
      tracks_bind (φ := id) (tracks_firmly (tracks_operand h hinner)) fun right =>
        tracks_pure (φ := id) _
  · exact spares_bind (spares_relational h) fun _ => firm_bind (firm_firmly _) fun _ => firm_pure _
  · rw [Option.map_id]
    exact tracks_pure (φ := id) _

/-- The arguments of a call end at its closing parenthesis, where no further one begins. -/
theorem tracks_arguments (give : List (List Char) → List Char) :
    Tracks (inFront n strays T T')
      (do
        let arguments ← sepBy (lexeme (char ',')) (argument inner)
        let _ ← firmly closing
        return give arguments)
      (do
        let arguments ← sepBy (lexeme (char ',')) (argument inner')
        let _ ← firmly closing
        return give arguments) id where
  advances := advances_bind (advances_sepBy (advances_lexeme (advances_char _))
    (advances_argument hinner.tracks.advances)) fun _ =>
      advances_bind (advances_firmly advances_closing) fun _ => advances_pure _
  done {s s' rest a} hs hread hrest := by
    obtain ⟨items, mid, hitems, hclosed⟩ := bind_eq_done.mp hread
    obtain ⟨_, _, hclose, hdone⟩ := bind_eq_done.mp hclosed
    obtain ⟨rfl, rfl⟩ := pure_eq_done.mp hdone
    have hadvances := advances_sepBy (advances_lexeme (advances_char ','))
      (advances_argument hinner.tracks.advances) s
    have hbehind := (advances_firmly advances_closing).suffix hclose
    rw [hitems] at hadvances
    obtain ⟨other, hother⟩ :=
      (inFront n strays T T').between hs hrest.1.choose_spec hbehind hadvances
    have hmid : (inFront n strays T T').Ends mid :=
      ⟨⟨other, hother⟩, ((tracks_closing h).done hother hclose hrest).1⟩
    have hparen : ∀ {mid'}, (inFront n strays T T').Pair mid mid' →
        (skipBlank mid').head? = some ')' := by
      intro mid' hpair
      obtain ⟨-, rest', hclose', -⟩ := (tracks_closing h).done hpair hclose hrest
      have hread' : lexeme (char ')') mid' = _ := label_eq_done.mp (firmly_eq_done.mp hclose')
      obtain ⟨hsplit, -⟩ := char_eq_done.mp hread'
      rw [hsplit]
      rfl
    suffices hitems' : (inFront n strays T T').Open s ∧ ∃ mid',
        sepBy (lexeme (char ',')) (argument inner') s' = .done items mid' ∧
        (inFront n strays T T').Pair mid mid' by
      obtain ⟨hopen, mid', hitems', hpair⟩ := hitems'
      obtain ⟨-, rest', hclose', hlast⟩ := (tracks_closing h).done hpair hclose hrest
      exact ⟨hopen, rest', bind_eq_done.mpr ⟨items, mid', hitems',
        bind_eq_done.mpr ⟨_, rest', hclose', rfl⟩⟩, hlast⟩
    obtain ⟨o, hoptional, rfl⟩ := map_eq_done.mp hitems
    rcases optional_eq_done.mp hoptional with ⟨items, rfl, hsome⟩ | ⟨rfl, rfl, -⟩
    · obtain ⟨hopen, mid', hsome', hpair⟩ := sepBy1_tracks (tracks_char h hash_mem_strays (by decide))
        (tracks_argument h hinner) (shortens_lexeme (shortens_char _))
        (shortens_lexeme (shortens_char _)) (advances_argument hinner.advances) hs hsome hmid
        fun mid' hpair _ => bind_fails.mpr (.inl (char_fails (by rw [hparen hpair]; simp)))
      rw [List.map_id] at hsome'
      exact ⟨hopen, mid', sepBy_some hsome', hpair⟩
    · refine ⟨hmid.2, s', sepBy_none (bind_fails.mpr (.inl (or_fails.mpr ⟨?_, ?_⟩))), hs⟩
      · exact hinner.closing s' (hparen hs)
      · refine map_fails.mpr (quoted_fails ?_)
        rw [hparen hs]
        simp

theorem copies_call : Copies (inFront (n + 1) strays T T') (call inner) (call inner') :=
  copies_deeper advances_functionName (shortens_bind shortens_identifier fun _ =>
    advances_bind (advances_many (advances_bind (advances_char _) fun _ =>
      advances_bind advances_identifier fun _ => advances_pure _)) fun _ => advances_pure _)
    (copies_functionName h) fun _ => tracks_bind (φ := id) (tracks_char h hash_mem_strays (by decide)) fun _ =>
      tracks_arguments h hinner _

omit h in
theorem copies_signed : Copies (inFront (n + 1) strays T T')
    (do
      let sign ← oneOf ['+', '-']
      let body ← firmly inner
      return sign :: body)
    (do
      let sign ← oneOf ['+', '-']
      let body ← firmly inner'
      return sign :: body) :=
  copies_deeper (advances_oneOf _) (shortens_satisfy _) (copies_satisfy _) fun _ =>
    tracks_bind (φ := id) (tracks_firmly hinner.tracks) fun _ => tracks_pure (φ := id) _

theorem copies_nested : Copies (inFront (n + 1) strays T T')
    (do
      let _ ← char '('
      let body ← firmly inner
      let _ ← firmly closing
      return '(' :: body ++ [')'])
    (do
      let _ ← char '('
      let body ← firmly inner'
      let _ ← firmly closing
      return '(' :: body ++ [')']) :=
  copies_deeper (advances_char _) (shortens_char _) (copies_char _) fun _ =>
    tracks_bind (φ := id) (tracks_firmly hinner.tracks) fun _ =>
      tracks_bind (φ := id) (tracks_closing h) fun _ => tracks_pure (φ := id) _

theorem tracks_factor : Tracks (inFront (n + 1) strays T T') (factor inner) (factor inner') id := by
  refine tracks_lexeme h hash_mem_strays (advances_factor hinner.tracks.advances)
    (shortens_factor hinner.tracks.advances) ?_ (copies_label _ ?_)
  · intro s a rest hread c hc hstray
    refine absurd (label_eq_done.mp hread) (factor_fails ?_ hc).not_done
    simp only [strays, List.mem_cons, List.not_mem_nil, or_false] at hstray
    rcases hstray with rfl | rfl <;> decide
  rintro s s' a rest hs hread hrest
  obtain ⟨x, hx, rfl, rfl⟩ := id hs
  rcases firstOf_eq_done.mp hread with hcall | ⟨hcall, hothers⟩
  · obtain ⟨rest', hcall', hpair⟩ := copies_call h hinner hs hcall hrest
    exact ⟨rest', firstOf_eq_done.mpr (.inl hcall'), hpair⟩
  rcases firstOf_eq_done.mp hothers with href | ⟨href, hothers⟩
  · obtain ⟨rest', href', hpair⟩ := copies_reference h hs href hrest
    obtain ⟨⟨_, y, -, rfl, -⟩, hopen⟩ := hrest
    have hcall' : Fails (call inner') (x ++ T') := call_fails_in_front h href hopen hcall
    exact ⟨rest', firstOf_done [_] rfl (by simpa using hcall') href', hpair⟩
  rcases firstOf_eq_done.mp hothers with hnumber | ⟨-, hothers⟩
  · obtain ⟨rest', hnumber', hpair⟩ := copies_number h hs hnumber hrest
    obtain ⟨hsplit, hdigits, -⟩ := number_taken hnumber
    obtain ⟨c, more, rfl, hc⟩ := hdigits.head
    obtain ⟨-, hcall', href'⟩ : _ ∧ Fails (call inner') (x ++ T') ∧ Fails reference (x ++ T') :=
      others_fail_in_front h (.inr hc) (by rw [hsplit]; rfl) href
    exact ⟨rest', firstOf_done [_, _] rfl (by simp [hcall', href']) hnumber', hpair⟩
  rcases firstOf_eq_done.mp hothers with hsigned | ⟨-, hothers⟩
  · obtain ⟨rest', hsigned', hpair⟩ := copies_signed hinner hs hsigned hrest
    obtain ⟨sign, mid, hsign, -⟩ := bind_eq_done.mp hsigned
    obtain ⟨hsplit, hmem⟩ := satisfy_eq_done.mp hsign
    have hsign : sign = '+' ∨ sign = '-' := by simpa using hmem
    obtain ⟨hhead', hcall', href'⟩ : (x ++ T').head? = some sign ∧
        Fails (call inner') (x ++ T') ∧ Fails reference (x ++ T') :=
      others_fail_in_front h (.inl (by rcases hsign with rfl | rfl <;> simp)) (by rw [hsplit]; rfl) href
    have hnumber' : Fails number (x ++ T') := number_fails fun d hd => by
      obtain rfl : sign = d := by simpa [hhead'] using hd
      rcases hsign with rfl | rfl <;> decide
    exact ⟨rest', firstOf_done [_, _, _] rfl (by simp [hcall', href', hnumber']) hsigned', hpair⟩
  rcases firstOf_eq_done.mp hothers with hnested | ⟨-, hnever⟩
  · obtain ⟨rest', hnested', hpair⟩ := copies_nested h hinner hs hnested hrest
    obtain ⟨_, mid, hopening, -⟩ := bind_eq_done.mp hnested
    obtain ⟨hsplit, -⟩ := char_eq_done.mp hopening
    obtain ⟨hhead', hcall', href'⟩ : (x ++ T').head? = some '(' ∧
        Fails (call inner') (x ++ T') ∧ Fails reference (x ++ T') :=
      others_fail_in_front h (.inl (by simp)) (by rw [hsplit]; rfl) href
    have hnumber' : Fails number (x ++ T') := number_fails fun d hd => by
      obtain rfl : '(' = d := by simpa [hhead'] using hd
      decide
    have hsigned' : Fails (oneOf ['+', '-']) (x ++ T') := satisfy_fails fun d hd => by
      obtain rfl : '(' = d := by simpa [hhead'] using hd
      decide
    exact ⟨rest', firstOf_done [_, _, _, _] rfl
      (by simp [hcall', href', hnumber', bind_fails, hsigned']) hnested', hpair⟩
  · exact hnever.elim

end Nested

theorem tracks_chain (h : Tails T T') {operators : List Char}
    (hp : Tracks (inFront n strays T T') p p' id) (hp' : Advances p')
    (hoperators : ∀ c ∈ operators, c ∉ strays) (hjoin : ∀ c ∈ operators, c ∈ joiners) :
    Tracks (inFront n strays T T') (chain operators p) (chain operators p') id := by
  have hshort : ∀ {q : Parser (List Char)}, Advances q → Shortens (do
      let operator ← lexeme (oneOf operators)
      let next ← firmly q
      return operator :: next : Parser (List Char)) := fun hq =>
    shortens_bind (shortens_lexeme (shortens_satisfy _)) fun _ =>
      advances_bind (advances_firmly hq) fun _ => advances_pure _
  refine tracks_bind (φ := id) hp fun first => tracks_foldMany (φ := id) (χ := id)
    (f := (· ++ ·)) (g := (· ++ ·)) ?_ ?_ (hshort hp.advances) (hshort hp') (fun _ _ => rfl) first
  · exact tracks_bind (φ := id) (tracks_operator h hoperators) fun operator =>
      tracks_bind (φ := id) (tracks_firmly hp) fun next => tracks_pure (φ := id) _
  · exact spares_bind (spares_operator h hjoin) fun _ =>
      firm_bind (firm_firmly _) fun _ => firm_pure _

/-- A nesting limit that lets an expression through in front of one tail lets it through in
front of the other if it is as high as the text in front is long. -/
theorem tracks_expressionWithin (h : Tails T T') (depth : Nat) :
    ∀ {depth' n : Nat}, n ≤ depth' → Tracks (inFront n strays T T') (expressionWithin depth)
      (expressionWithin depth') id := by
  induction depth with
  | zero =>
    refine fun _ => ⟨advances_failing _, fun _ hread => ?_⟩
    simp [expressionWithin, failing] at hread
  | succ depth ih =>
    intro depth' n hn
    cases n with
    | zero =>
      refine ⟨advances_expressionWithin _, fun hs => ?_⟩
      obtain ⟨x, hx, -⟩ := hs
      omega
    | succ n =>
      obtain ⟨depth', rfl⟩ : ∃ d, depth' = d + 1 := ⟨depth' - 1, by omega⟩
      have hinner : TracksNested n T T' (expressionWithin depth) (expressionWithin depth') := {
        tracks := ih (by omega)
        advances := advances_expressionWithin depth'
        closing := fun s => expressionWithin_fails (.inl rfl) depth'
        quote := fun s => expressionWithin_fails (.inr rfl) depth' }
      have hadvances := advances_factor (advances_expressionWithin depth')
      refine tracks_chain h (tracks_chain h (tracks_factor h hinner) hadvances ?_ ?_)
        (advances_chain _ hadvances) ?_ ?_ <;> simp [strays, joiners]

/-- The limit of an expression is as high as the text is long. -/
theorem tracks_expression (h : Tails T T') :
    Tracks (inFront n strays T T') expression expression id where
  advances := advances_expression
  done {s s' rest a} hs hread hrest := by
    obtain ⟨x, hx, rfl, rfl⟩ := hs
    obtain ⟨⟨_, y, hy, rfl, rfl⟩, hopen⟩ := hrest
    have hread' : expressionWithin ((x ++ T).length + 1) (x ++ T) = _ := hread
    have hle := advances_expression.suffix hread
    have hlength := hle.length_le
    simp only [List.length_append] at hlength
    have htracks : Tracks (inFront (x.length + 1) strays T T')
        (expressionWithin ((x ++ T).length + 1)) (expressionWithin ((x ++ T').length + 1)) id :=
      tracks_expressionWithin h _ (by simp)
    obtain ⟨hstart, rest', hdone, y', hy', hsplit, hsplit'⟩ :=
      htracks.done (inFront_pair (by omega)) hread' ⟨⟨_, inFront_pair (by omega)⟩, hopen⟩
    exact ⟨hstart, rest', hdone, y', by omega, hsplit, hsplit'⟩

theorem numeral_signedNumber : Numeral isDecimalChar signedNumber :=
  numeral_signed (satisfy_settles _) satisfy_eq_done (fun _ hc => by simpa using hc)
    fun _ => numeral_give _ numeral_number

theorem shortens_formula : Shortens formula := by
  refine shortens_lexeme (shortens_label _ (shortens_firstOf shortens_quoted ?_))
  simp only [List.forall_mem_cons, List.not_mem_nil, false_imp_iff, implies_true, and_true]
  exact ⟨numeral_signedNumber.shortens, shortens_bind (shortens_char _) fun _ =>
    advances_bind (advances_firmly advances_expression) fun _ => advances_pure _⟩

theorem formula_head {a : List Char} (h : formula s = .done a rest) :
    ∃ c, (skipBlank s).head? = some c ∧ (beginsNumeral c = true ∨ c ∈ ['"', '=']) := by
  rcases firstOf_eq_done.mp (label_eq_done.mp h) with hquoted | ⟨-, hothers⟩
  · obtain ⟨hsplit, -⟩ := quoted_eq_done hquoted
    exact ⟨'"', by rw [hsplit]; rfl, .inr (by simp)⟩
  rcases firstOf_eq_done.mp hothers with hnumber | ⟨-, hothers⟩
  · obtain ⟨c, t, hsplit, hc, -⟩ := numeral_signedNumber.done hnumber
    exact ⟨c, by rw [hsplit]; rfl, .inl hc⟩
  rcases firstOf_eq_done.mp hothers with hassigned | ⟨-, hnever⟩
  · obtain ⟨_, mid, hsign, -⟩ := bind_eq_done.mp hassigned
    obtain ⟨hsplit, -⟩ := char_eq_done.mp hsign
    exact ⟨'=', by rw [hsplit]; rfl, .inr (by simp)⟩
  · exact hnever.elim

theorem copies_formula (h : Tails T T') : Copies (inFront (n + 1) strays T T')
    (label "formula (\"text\", number or =expression)" (firstOf quoted
      [signedNumber,
        do
          let _ ← char '='
          let body ← firmly expression
          return '=' :: body]))
    (label "formula (\"text\", number or =expression)" (firstOf quoted
      [signedNumber,
        do
          let _ ← char '='
          let body ← firmly expression
          return '=' :: body])) := by
  refine copies_label _ fun s s' a rest hs hread hrest => ?_
  rcases firstOf_eq_done.mp hread with hquoted | ⟨-, hothers⟩
  · obtain ⟨rest', hquoted', hpair⟩ := copies_quoted h hs hquoted hrest
    exact ⟨rest', firstOf_eq_done.mpr (.inl hquoted'), hpair⟩
  rcases firstOf_eq_done.mp hothers with hnumber | ⟨-, hothers⟩
  · obtain ⟨rest', hnumber', hpair⟩ := copies_numeral h numeral_signedNumber (fun _ => id)
      point_mem_strays hs hnumber hrest
    obtain ⟨c, t, hsplit, hc, -⟩ := numeral_signedNumber.done hnumber'
    have hquote : c ≠ '"' := by
      rintro rfl
      simp [beginsNumeral, Text.isDigit] at hc
    have hquoted' : Fails quoted s' := quoted_fails (by rw [hsplit]; simpa using hquote)
    exact ⟨rest', firstOf_done [_] rfl (by simpa using hquoted') hnumber', hpair⟩
  rcases firstOf_eq_done.mp hothers with hassigned | ⟨-, hnever⟩
  · have hcopies : Copies (inFront (n + 1) strays T T')
        (do
          let _ ← char '='
          let body ← firmly expression
          return '=' :: body)
        (do
          let _ ← char '='
          let body ← firmly expression
          return '=' :: body) :=
      copies_deeper (advances_char _) (shortens_char _) (copies_char _) fun _ =>
        tracks_bind (φ := id) (tracks_firmly (tracks_expression h)) fun _ => tracks_pure (φ := id) _
    obtain ⟨rest', hassigned', hpair⟩ := hcopies hs hassigned hrest
    obtain ⟨_, mid, hsign, -⟩ := bind_eq_done.mp hassigned'
    obtain ⟨rfl, -⟩ := char_eq_done.mp hsign
    have hquoted' : Fails quoted ('=' :: mid) := quoted_fails (by simp)
    exact ⟨rest', firstOf_done [_, _] rfl (by simp [hquoted', signedNumber_fails]) hassigned', hpair⟩
  · exact hnever.elim

theorem tracks_formula (h : Tails T T') {bad : List Char} (hhash : '#' ∈ bad)
    (hstrays : ∀ c ∈ strays, c ∈ bad)
    (hbegins : ∀ c, beginsNumeral c = true ∨ c ∈ ['"', '='] → c ∉ bad) :
    Tracks (inFront n bad T T') formula formula id := by
  refine tracks_lexeme h hhash advances_formula shortens_formula ?_ ?_
  · intro s a rest hread c hc
    obtain ⟨d, hd, hplain⟩ := formula_head hread
    obtain rfl : d = c := by simpa [hd] using hc
    exact hbegins d hplain
  · cases n with
    | zero => exact fun _ _ _ _ hs => absurd hs (fun ⟨x, hx, _⟩ => by omega)
    | succ n => exact copies_mono hstrays (copies_formula h)

end Formula

open Formula

/-- A formula that is accepted alone is read alike in front of a line feed and any text that
begins with no sign that could join it, and what is left leads to that text. -/
theorem formula_embedded {text f : String} {after : List Char} (h : readFormula text = .ok f)
    (hafter : Unjoined after) :
    ∃ left, formula (text.toList ++ '\n' :: after) = .done f.toList left ∧
      skipBlank left = skipBlank after := by
  obtain ⟨rest, hread, hnone⟩ := readFormula_eq_ok.mp h
  have htails : Tails [] ('\n' :: after) := .ending hafter
  have hopen : (inFront (text.toList.length + 1) strays [] ('\n' :: after)).Open rest := by
    simp [inFront, hnone]
  have hle := (advances_formula text.toList).length_le
  rw [hread] at hle
  have hrest : (inFront (text.toList.length + 1) strays [] ('\n' :: after)).Pair rest
      (rest ++ '\n' :: after) := ⟨rest, Nat.lt_succ_of_le hle, by simp, rfl⟩
  obtain ⟨-, left, hdone, hpair⟩ := (tracks_formula htails hash_mem_strays (fun _ => id) (by
    rintro c (hc | hc) hmem
    · simp only [strays, List.mem_cons, List.not_mem_nil, or_false] at hmem
      rcases hmem with rfl | rfl <;> simp [beginsNumeral, Text.isDigit] at hc
    · simp only [List.mem_cons, List.not_mem_nil, or_false] at hc
      rcases hc with rfl | rfl <;> simp [strays] at hmem)).done
    ⟨text.toList, Nat.lt_succ_self _, by simp, rfl⟩ hread ⟨⟨_, hrest⟩, hopen⟩
  refine ⟨left, hdone, ?_⟩
  rcases inFront_skip htails hash_mem_strays hpair hopen with ⟨y, hy, -, hne, -⟩ | ⟨-, -, hskip⟩
  · exact absurd (hy.symm.trans hnone) hne
  · simpa [skipBlank, skipFrom, isBlank] using hskip

end ListingGrid.Grammar
