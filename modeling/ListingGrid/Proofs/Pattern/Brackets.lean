import ListingGrid.Pattern.Bracket
import ListingGrid.Proofs.Pattern.Escapes

/-!
# Bracketed sets with a tail behind them

A bracketed set that stands in a text is read alike when the text goes on. A set that is not closed
at the end of the text takes the closing parenthesis of the tail as one of its characters.
-/

set_option autoImplicit false

namespace ListingGrid.Pattern

variable {tail : Tail} {flags : Flags} {s s' r r' : List Char} {c d : Char} {n n' : Nat}

theorem setItem_gives (s : List Char) : Gives (setItem flags s) fun b => Shortens b.2 s := by
  unfold setItem
  split
  · exact gives_error _
  · exact (escape_gives _).mono fun b hb => hb.of_suffix (List.suffix_cons ..)
  · exact gives_ok (.of_cons (List.suffix_refl _) _)

theorem setItem_follows (h : Along tail s s') :
    Follows (SameUpTo tail) (fun b => Past tail b.2 ∨ Stuck flags b) (setItem flags s)
      (setItem flags s') := by
  rcases h.cases with ⟨rfl, rfl⟩ | ⟨rfl, hreached, -⟩ | ⟨c, r, r', rfl, rfl, hr⟩
  · exact .fails _ _
  · exact .of_error _ ((setItem_gives _).mono fun _ hb => .inl (hreached.past hb))
  · by_cases hc : c = '\\'
    · subst hc
      exact escape_follows hr
    · simp only [setItem]
      exact .ok ⟨rfl, hr⟩

theorem peekSpace_go_along (h : Along tail r r') (hd : d ≠ ')') (inComment : Bool) :
    peekSpace.go r' inComment = some d ↔ peekSpace.go r inComment = some d := by
  induction r generalizing r' inComment with
  | nil =>
    rcases h.unnil with rfl | ⟨-, t, rfl⟩
    · rfl
    · have hgo : peekSpace.go (')' :: t) inComment = some ')' := by
        cases inComment <;> rfl
      rw [hgo, Option.some_inj]
      exact ⟨fun h => absurd h.symm hd, fun h => nomatch h⟩
  | cons c rest ih =>
    obtain ⟨rest', rfl, hrest⟩ := h.uncons
    rw [peekSpace.go, peekSpace.go]
    split
    · exact ih hrest _
    · split
      · exact ih hrest _
      · rfl

/-- White space in front of a character does not change what it is taken for. -/
theorem peekSpace_verbose (hspace : Text.isSpace d = false) (hcomment : d ≠ '#') :
    peekSpace true (c :: r) = some d ↔ peekSpace.go r false = some d := by
  simp only [peekSpace, if_true, List.drop_succ_cons, List.drop_zero]
  cases hgo : peekSpace.go r false with
  | some e => rfl
  | none =>
    cases r with
    | nil => rfl
    | cons e rest =>
      have hne : e ≠ d := by
        rintro rfl
        simp [peekSpace.go, hspace, hcomment] at hgo
      simp [hne]

theorem peekSpace_along (h : Along tail r r') (verbose : Bool) (hd : d = ']' ∨ d = '-') :
    peekSpace verbose (c :: r') = some d ↔ peekSpace verbose (c :: r) = some d := by
  have hclose : d ≠ ')' := by rcases hd with rfl | rfl <;> decide
  cases verbose with
  | true =>
    have hspace : Text.isSpace d = false := by rcases hd with rfl | rfl <;> decide
    have hcomment : d ≠ '#' := by rcases hd with rfl | rfl <;> decide
    rw [peekSpace_verbose hspace hcomment, peekSpace_verbose hspace hcomment]
    exact peekSpace_go_along h hclose false
  | false =>
    exact h.head? hclose

def endsItem (flags : Flags) : List Char → Bool
  | [] => true
  | c :: rest =>
    c != '-' || peekSpace flags.verbose (c :: rest) == some ']' ||
      peekSpace flags.verbose (c :: rest) == some '-'

theorem endsItem_along (h : Along tail r r') :
    endsItem flags (c :: r') = endsItem flags (c :: r) := by
  have hpeek : ∀ d, d = ']' ∨ d = '-' → (peekSpace flags.verbose (c :: r') == some d) =
      (peekSpace flags.verbose (c :: r) == some d) := by
    intro d hd
    rw [Bool.eq_iff_iff, beq_iff_eq, beq_iff_eq]
    exact peekSpace_along h flags.verbose hd
  rw [endsItem, endsItem, hpeek _ (.inl rfl), hpeek _ (.inr rfl)]

def oneItem (flags : Flags) (item : Escape) : Except PatternError CharSet :=
  match item with
  | .literal c byte => return .single (← setChar flags c byte)
  | .set set => return set
  | .look _ => .error .badClass

def betweenItems (flags : Flags) (first last : Escape) : Except PatternError CharSet := do
  match first, last with
  | .literal a byteA, .literal b byteB =>
    let a ← setChar flags a byteA
    let b ← setChar flags b byteB
    if a ≤ b then return .range a.toNat b.toNat else .error .badClass
  | _, _ => .error .badClass

def setRangeFrom (flags : Flags) (first : Escape) (s : List Char) :
    Except PatternError (CharSet × List Char) := do
  if s.isEmpty then .error .badClass
  else if endsItem flags s then return (← oneItem flags first, s)
  else
    let (last, rest) ← setItem flags (next flags s)
    return (← betweenItems flags first last, rest)

theorem setRange_eq (s : List Char) :
    setRange flags s = setItem flags s >>= fun b =>
      setRangeFrom flags b.1 (skipSpace flags.verbose b.2 false) := by
  unfold setRange
  refine congrArg _ (funext fun ⟨first, rest⟩ => ?_)
  simp only
  generalize skipSpace flags.verbose rest false = s
  unfold setRangeFrom
  cases s with
  | nil => rfl
  | cons c rest =>
    change (if endsItem flags (c :: rest) = true then _ else _) =
      if endsItem flags (c :: rest) = true then _ else _
    split
    · cases first <;> simp [oneItem]
    · refine congrArg _ (funext fun ⟨last, more⟩ => ?_)
      cases first <;> cases last <;> try rfl
      simp only [betweenItems, bind_assoc]
      refine bind_congr fun a => bind_congr fun b => ?_
      split <;> rfl

theorem setRangeFrom_gives (first : Escape) (s : List Char) :
    Gives (setRangeFrom flags first s) fun b => b.2 <:+ s := by
  unfold setRangeFrom
  split
  · exact gives_error _
  · split
    · cases oneItem flags first with
      | error e => exact gives_error e
      | ok set => exact gives_ok (List.suffix_refl s)
    · refine (setItem_gives _).bind fun ⟨last, rest⟩ hrest => ?_
      simp only
      cases betweenItems flags first last with
      | error e => exact gives_error e
      | ok set => exact gives_ok (hrest.suffix.trans (next_suffix flags s))

theorem setRangeFrom_look (condition : Look) (s : List Char) {P : CharSet × List Char → Prop} :
    Gives (setRangeFrom flags (.look condition) s) P := by
  unfold setRangeFrom
  split
  · exact gives_error _
  · split
    · exact gives_error _
    · cases setItem flags (next flags s) with
      | error e => exact gives_error e
      | ok b => exact gives_error _

theorem setRange_gives (s : List Char) : Gives (setRange flags s) fun b => Shortens b.2 s := by
  rw [setRange_eq]
  exact (setItem_gives s).bind fun b hb => (setRangeFrom_gives ..).mono fun _ h =>
    hb.suffix_of (h.trans (skipSpace_suffix ..))

theorem setRangeFrom_follows (first : Escape) (h : Along tail s s') :
    Follows (SameUpTo tail) (fun b => Reached tail b.2) (setRangeFrom flags first s)
      (setRangeFrom flags first s') := by
  rcases h.cases with ⟨rfl, rfl⟩ | ⟨rfl, hreached, -⟩ | ⟨c, r, r', rfl, rfl, hr⟩
  · exact .fails _ _
  · exact .of_error _ ((setRangeFrom_gives ..).mono fun _ hb => hreached.suffix hb)
  · simp only [setRangeFrom, List.isEmpty_cons, Bool.false_eq_true, if_false, endsItem_along hr]
    split
    · cases oneItem flags first with
      | error e => exact .fails e e
      | ok set => exact .ok ⟨rfl, h⟩
    · refine (setItem_follows (hr.next flags c)).bind ?_ ?_
      · rintro ⟨last, rest⟩ ⟨_, rest'⟩ ⟨rfl, hrest⟩
        simp only
        cases betweenItems flags first _ with
        | error e => exact .fails e e
        | ok set => exact .ok ⟨rfl, hrest⟩
      · rintro ⟨last, rest⟩ (hpast | ⟨⟨condition, rfl⟩, -⟩)
        · simp only
          cases betweenItems flags first last with
          | error e => exact gives_error e
          | ok set => exact gives_ok hpast.reached
        · cases first <;> exact gives_error _

theorem setRange_follows (h : Along tail s s') :
    Follows (SameUpTo tail) (fun b => Reached tail b.2) (setRange flags s) (setRange flags s') := by
  rw [setRange_eq, setRange_eq]
  refine (setItem_follows h).bind ?_ ?_
  · rintro ⟨first, rest⟩ ⟨_, rest'⟩ ⟨rfl, hrest⟩
    exact setRangeFrom_follows _ (hrest.skipSpace ..)
  · rintro ⟨first, rest⟩ (hpast | ⟨⟨condition, rfl⟩, -⟩)
    · exact (setRangeFrom_gives ..).mono fun b hb =>
        (hpast.suffix (hb.trans (skipSpace_suffix ..))).reached
    · exact setRangeFrom_look ..

def circumflex (flags : Flags) (s : List Char) : Bool × List Char :=
  match s with
  | '^' :: _ => (true, next flags s)
  | _ => (false, s)

theorem circumflex_suffix (s : List Char) : (circumflex flags s).2 <:+ s := by
  unfold circumflex
  split
  · exact next_suffix flags _
  · exact List.suffix_refl s

theorem circumflex_along (flags : Flags) (h : Along tail s s') :
    SameUpTo tail (circumflex flags s) (circumflex flags s') := by
  rcases h.cases with ⟨rfl, rfl⟩ | ⟨rfl, -, t, rfl⟩ | ⟨c, r, r', rfl, rfl, hr⟩
  · exact ⟨rfl, h⟩
  · exact ⟨rfl, h⟩
  · by_cases hc : c = '^'
    · subst hc
      exact ⟨rfl, hr.next flags _⟩
    · have hplain : ∀ u, circumflex flags (c :: u) = (false, c :: u) :=
        fun u => circumflex.eq_2 flags _ fun _ heq => hc (List.cons.inj heq).1
      rw [hplain, hplain]
      exact ⟨rfl, h⟩

theorem leadingHyphens_suffix (n : Nat) (items : Items) (s : List Char) :
    (leadingHyphens flags n items s).2 <:+ s := by
  induction n generalizing items s with
  | zero => exact List.suffix_refl s
  | succ n ih =>
    unfold leadingHyphens
    split
    · exact (ih ..).trans (next_suffix flags _)
    · exact List.suffix_refl s

theorem leadingHyphens_along (flags : Flags) (items : Items) (h : Along tail s s')
    (hn : s.length ≤ n) (hn' : s'.length ≤ n') :
    SameUpTo tail (leadingHyphens flags n items s) (leadingHyphens flags n' items s') := by
  induction n generalizing n' items s s' with
  | zero =>
    obtain rfl := List.length_eq_zero_iff.mp (Nat.le_zero.mp hn)
    rcases h.unnil with rfl | ⟨-, t, rfl⟩
    · cases n' <;> exact ⟨rfl, h⟩
    · cases n' <;> exact ⟨rfl, h⟩
  | succ n ih =>
    rcases h.cases with ⟨rfl, rfl⟩ | ⟨rfl, -, t, rfl⟩ | ⟨c, r, r', rfl, rfl, hr⟩
    · cases n' <;> exact ⟨rfl, h⟩
    · cases n' <;> exact ⟨rfl, h⟩
    · obtain ⟨n', rfl⟩ := Nat.exists_eq_succ_of_ne_zero (Nat.ne_of_gt (Nat.lt_of_lt_of_le
        (Nat.succ_pos _) hn'))
      have hshort := (next_shortens flags c r).shorter
      have hshort' := (next_shortens flags c r').shorter
      by_cases hc : c = '-'
      · subst hc
        exact ih _ (hr.next flags _) (by omega) (by omega)
      · have hplain : ∀ n u, leadingHyphens flags (n + 1) items (c :: u) = (items, c :: u) :=
          fun n u => leadingHyphens.eq_3 flags items _ n fun _ heq => hc (List.cons.inj heq).1
        rw [hplain, hplain]
        exact ⟨rfl, h⟩

def firstBracket (flags : Flags) (negated : Bool) (items : Items) (s : List Char) :
    Except PatternError (Bool × Items × List Char) :=
  match s with
  | [] => .error .badClass
  | ']' :: _ =>
    if items.count = 0 then .ok (negated, items.add (.single ']') 0, next flags s)
    else .ok (negated, items, s)
  | _ => .ok (negated, items, s)

theorem setOpening_eq (s : List Char) :
    setOpening flags s =
      let opened := circumflex flags (next flags s)
      let hyphens := leadingHyphens flags opened.2.length .none opened.2
      firstBracket flags opened.1 hyphens.1 hyphens.2 := rfl

theorem firstBracket_gives (negated : Bool) (items : Items) (s : List Char) :
    Gives (firstBracket flags negated items s) fun b => b.2.2 <:+ s := by
  unfold firstBracket
  split
  · exact gives_error _
  · split
    · exact gives_ok (next_suffix flags _)
    · exact gives_ok (List.suffix_refl _)
  · exact gives_ok (List.suffix_refl s)

theorem setOpening_gives (s : List Char) :
    Gives (setOpening flags s) fun b => b.2.2 <:+ next flags s := by
  rw [setOpening_eq]
  exact (firstBracket_gives ..).mono fun b hb =>
    (hb.trans (leadingHyphens_suffix ..)).trans (circumflex_suffix _)

def SameParts (tail : Tail) {α β : Type} (b b' : α × β × List Char) : Prop :=
  b'.1 = b.1 ∧ SameUpTo tail b.2 b'.2

theorem firstBracket_follows (negated : Bool) (items : Items) (h : Along tail s s') :
    Follows (SameParts tail) (fun b => Reached tail b.2.2) (firstBracket flags negated items s)
      (firstBracket flags negated items s') := by
  rcases h.cases with ⟨rfl, rfl⟩ | ⟨rfl, hreached, -⟩ | ⟨c, r, r', rfl, rfl, hr⟩
  · exact .fails _ _
  · exact .of_error _ ((firstBracket_gives ..).mono fun _ hb => hreached.suffix hb)
  · by_cases hc : c = ']'
    · subst hc
      simp only [firstBracket]
      split
      · exact .ok ⟨rfl, rfl, hr.next flags _⟩
      · exact .ok ⟨rfl, rfl, h⟩
    · have hplain : ∀ u, firstBracket flags negated items (c :: u) =
          .ok (negated, items, c :: u) :=
        fun u => firstBracket.eq_3 flags negated items _ (fun heq => nomatch heq)
          fun _ heq => hc (List.cons.inj heq).1
      rw [hplain, hplain]
      exact .ok ⟨rfl, rfl, h⟩

theorem setOpening_follows (h : Along tail r r') :
    Follows (SameParts tail) (fun b => Reached tail b.2.2) (setOpening flags (c :: r))
      (setOpening flags (c :: r')) := by
  rw [setOpening_eq, setOpening_eq]
  obtain ⟨hnegated, hopened⟩ := circumflex_along flags (h.next flags c)
  obtain ⟨hitems, hhyphens⟩ := leadingHyphens_along flags .none hopened (Nat.le_refl _)
    (Nat.le_refl _)
  simp only [hnegated, hitems]
  exact firstBracket_follows _ _ hhyphens

def afterTwo? (first second : Char) : List Char → Option (List Char)
  | c :: d :: rest => if c = first ∧ d = second then some rest else none
  | _ => none

theorem afterTwo?_eq_some {first second : Char} :
    afterTwo? first second s = some r ↔ s = first :: second :: r := by
  cases s with
  | nil => exact ⟨(nomatch ·), (nomatch ·)⟩
  | cons c rest =>
    cases rest with
    | nil => exact ⟨(nomatch ·), (nomatch ·)⟩
    | cons d rest =>
      rw [afterTwo?, List.cons.injEq, List.cons.injEq]
      split
      · next h => simp [h]
      · next h => exact ⟨fun hnone => (nomatch hnone), fun heq => absurd ⟨heq.1, heq.2.1⟩ h⟩

theorem afterTwo?_eq_none {first second : Char} (h : ∀ r, s ≠ first :: second :: r) :
    afterTwo? first second s = none :=
  Option.eq_none_iff_forall_ne_some.mpr fun r hr => h r (afterTwo?_eq_some.mp hr)

theorem afterTwo?_shortens {first second : Char} (h : afterTwo? first second s = some r) :
    Shortens r s := by
  rw [afterTwo?_eq_some.mp h]
  exact .of_cons (List.suffix_cons second r) first

theorem afterTwo?_along {first second : Char} (h : Along tail s s') (hfirst : first ≠ ')')
    (hsecond : second ≠ ')') :
    Option.Rel (Along tail) (afterTwo? first second s) (afterTwo? first second s') := by
  rcases h.cases with ⟨rfl, rfl⟩ | ⟨rfl, -, t, rfl⟩ | ⟨c, r, r', rfl, rfl, hr⟩
  · exact .none
  · cases t with
    | nil => exact .none
    | cons d t =>
      rw [afterTwo?, afterTwo?, if_neg fun h => hfirst h.1.symm]
      · exact .none
      · intro _ _ _ h
        exact nomatch h
  · rcases hr.cases with ⟨rfl, rfl⟩ | ⟨rfl, -, t, rfl⟩ | ⟨d, q, q', rfl, rfl, hq⟩
    · exact .none
    · have hno : afterTwo? first second (c :: ')' :: t) = none :=
        if_neg fun h => hsecond h.2.symm
      rw [hno]
      exact .none
    · rw [afterTwo?, afterTwo?]
      split
      · exact .some hq
      · exact .none

def nameOfSet? (negated : Bool) (s : List Char) : Option (CharSet × Bool × List Char) :=
  (afterTwo? ':' ']' (s.dropWhile (· != ':'))).bind fun after =>
    (CharSet.named? (String.ofList (s.takeWhile (· != ':')))).map fun set => (set, negated, after)

theorem nameOfSet?_eq (negated : Bool) (s : List Char) :
    nameOfSet? negated s =
      match s.dropWhile (· != ':') with
      | ':' :: ']' :: after =>
        (CharSet.named? (String.ofList (s.takeWhile (· != ':')))).map fun set =>
          (set, negated, after)
      | _ => none := by
  unfold nameOfSet?
  split
  · next after hafter =>
    rw [afterTwo?_eq_some.mpr hafter]
    rfl
  · next hne =>
    rw [afterTwo?_eq_none hne]
    rfl

theorem circumflex_default (s : List Char) :
    circumflex Flags.default s =
      match s with
      | '^' :: more => (true, more)
      | _ => (false, s) := by
  unfold circumflex
  split
  · next more => cases more <;> rfl
  · rfl

theorem namedSet?_eq (s : List Char) :
    namedSet? s = (afterTwo? '[' ':' s).bind fun rest =>
      let opened := circumflex Flags.default rest
      nameOfSet? opened.1 opened.2 := by
  unfold namedSet?
  split
  · next rest =>
    rw [afterTwo?_eq_some.mpr rfl, Option.bind_some]
    simp only [circumflex_default]
    exact (nameOfSet?_eq ..).symm
  · next hne =>
    rw [afterTwo?_eq_none hne]
    rfl

theorem nameOfSet?_along (negated : Bool) (h : Along tail s s') :
    Option.Rel (SameParts tail) (nameOfSet? negated s) (nameOfSet? negated s') := by
  rcases h.span (p := (· != ':')) rfl rfl with ⟨hend, hend'⟩ | ⟨hname, -, hrest⟩
  · rw [nameOfSet?, nameOfSet?, hend, hend']
    exact .none
  · rw [nameOfSet?, nameOfSet?, hname]
    refine rel_bind (afterTwo?_along hrest (by decide) (by decide)) fun after after' hafter => ?_
    cases CharSet.named? (String.ofList (s.takeWhile (· != ':'))) with
    | none => exact .none
    | some set => exact .some ⟨rfl, rfl, hafter⟩

theorem namedSet?_shortens {b : CharSet × Bool × List Char} (h : namedSet? s = some b) :
    Shortens b.2.2 s := by
  rw [namedSet?_eq, Option.bind_eq_some_iff] at h
  obtain ⟨rest, hrest, h⟩ := h
  obtain ⟨after, hafter, h⟩ := Option.bind_eq_some_iff.mp h
  obtain ⟨set, -, rfl⟩ := Option.map_eq_some_iff.mp h
  exact (((afterTwo?_shortens hafter).of_suffix (List.dropWhile_suffix _)).of_suffix
    (circumflex_suffix rest)).trans (afterTwo?_shortens hrest)

/-- A named set is written within the text, or not at all. -/
theorem namedSet?_along (h : Along tail s s') :
    Option.Rel (SameParts tail) (namedSet? s) (namedSet? s') := by
  rw [namedSet?_eq, namedSet?_eq]
  refine rel_bind (afterTwo?_along h (by decide) (by decide)) fun rest rest' hrest => ?_
  obtain ⟨hnegated, hopened⟩ := circumflex_along Flags.default hrest
  simp only [hnegated]
  exact nameOfSet?_along _ hopened

def operationSign? (sign : Char) (operation : CharSet → CharSet → CharSet) (s : List Char) :
    Option ((CharSet → CharSet → CharSet) × List Char) :=
  (afterTwo? sign sign s).bind fun rest => some (operation, rest)

def operation? (s : List Char) : Option ((CharSet → CharSet → CharSet) × List Char) :=
  (operationSign? '&' .inter s).or
    ((operationSign? '-' .difference s).or (operationSign? '~' .symmetricDifference s))

theorem operation?_eq_none (hand : ∀ r, s ≠ '&' :: '&' :: r) (hminus : ∀ r, s ≠ '-' :: '-' :: r)
    (htilde : ∀ r, s ≠ '~' :: '~' :: r) : operation? s = none := by
  simp only [operation?, operationSign?, afterTwo?_eq_none hand, afterTwo?_eq_none hminus,
    afterTwo?_eq_none htilde]
  rfl

theorem operation?_shortens {b : (CharSet → CharSet → CharSet) × List Char}
    (h : operation? s = some b) : Shortens b.2 s := by
  have hsign : ∀ {sign operation}, operationSign? sign operation s = some b → Shortens b.2 s := by
    intro sign operation h
    obtain ⟨rest, hrest, h⟩ := Option.bind_eq_some_iff.mp h
    obtain rfl := Option.some_inj.mp h
    exact afterTwo?_shortens hrest
  rcases Option.or_eq_some_iff.mp h with h | ⟨-, h⟩
  · exact hsign h
  · rcases Option.or_eq_some_iff.mp h with h | ⟨-, h⟩
    · exact hsign h
    · exact hsign h

theorem operation?_along (h : Along tail s s') :
    Option.Rel (SameUpTo tail) (operation? s) (operation? s') := by
  have hsign : ∀ sign operation, sign ≠ ')' →
      Option.Rel (SameUpTo tail) (operationSign? sign operation s)
        (operationSign? sign operation s') := fun _ _ hsign =>
    rel_bind (afterTwo?_along h hsign hsign) fun _ _ hrest => .some ⟨rfl, hrest⟩
  exact rel_or (hsign _ _ (by decide))
    (rel_or (hsign _ _ (by decide)) (hsign _ _ (by decide)))

def wholeSet (flags : Flags) (n : Nat) (s : List Char) :
    Except PatternError (CharSet × Nat × List Char) :=
  setOpening flags s >>= fun opened => setBody flags n opened.1 opened.2.1 none opened.2.2

/-- Reads what is added to a set: a class with a name, a set inside it, or a range of characters. -/
def readOperand (flags : Flags) (n : Nat) (c : Char) (r : List Char) :
    Except PatternError (CharSet × Nat × List Char) :=
  if c = '[' then
    match namedSet? (c :: r) with
    | some (named, isNegated, rest) =>
      closeSet flags isNegated named >>= fun set => pure (set, 0, rest)
    | none => wholeSet flags n (c :: r)
  else setRange flags (c :: r) >>= fun item => pure (item.1, 0, item.2)

theorem setBody_eq (negated : Bool) (items : Items) (pending : Option PendingOperation)
    (h : skipSpace flags.verbose s false = c :: r) :
    setBody flags (n + 1) negated items pending s =
      if c = ']' then
        closeSet flags negated (applyPending flags pending items).1 >>= fun set =>
          pure (set, (applyPending flags pending items).2 + 1, r)
      else
        match operation? (c :: r) with
        | some (operation, rest) =>
          setBody flags n negated .none (beginOperation flags pending items operation) rest
        | none =>
          readOperand flags n c r >>= fun inner =>
            setBody flags n negated (items.add inner.1 inner.2.1) pending inner.2.2 := by
  rw [setBody]
  simp only [h]
  split
  case h_1 heq => cases heq
  case h_2 heq | h_3 heq | h_4 heq | h_5 heq =>
    obtain ⟨rfl, rfl⟩ := List.cons.inj heq
    rfl
  case h_6 heq =>
    obtain ⟨rfl, rfl⟩ := List.cons.inj heq
    rw [operation?_eq_none (by simp) (by simp) (by simp), readOperand, if_pos rfl, wholeSet]
    simp only [Char.reduceEq, if_false]
    cases namedSet? ('[' :: r) with
    | none => simp only [bind_assoc]
    | some found => simp only [bind_assoc, pure_bind]
  case h_7 hclose hand hminus htilde hopen =>
    rw [operation?_eq_none hand hminus htilde, if_neg fun hc : c = ']' => hclose r (hc ▸ rfl),
      readOperand, if_neg fun hc : c = '[' => hopen r (hc ▸ rfl)]
    simp only [bind_assoc, pure_bind]

theorem setBody_nil (negated : Bool) (items : Items) (pending : Option PendingOperation)
    (h : skipSpace flags.verbose s false = []) :
    setBody flags n negated items pending s = .error .badClass := by
  cases n with
  | zero => rfl
  | succ n =>
    rw [setBody]
    simp only [h]

def BodyShortens (flags : Flags) (n : Nat) : Prop :=
  ∀ (negated : Bool) (items : Items) (pending : Option PendingOperation) (s : List Char),
    Gives (setBody flags n negated items pending s) fun b =>
      Shortens b.2.2 (skipSpace flags.verbose s false)

theorem wholeSet_gives (hbody : BodyShortens flags n) (s : List Char) :
    Gives (wholeSet flags n s) fun b => Shortens b.2.2 s :=
  (setOpening_gives s).bind fun _ hopened => (hbody ..).mono fun _ hb =>
    hb.of_suffix ((skipSpace_suffix ..).trans (hopened.trans (next_suffix flags s)))

theorem readOperand_gives (hbody : BodyShortens flags n) (c : Char) (r : List Char) :
    Gives (readOperand flags n c r) fun b => Shortens b.2.2 (c :: r) := by
  unfold readOperand
  split
  · split
    · next named isNegated rest hnamed =>
      cases closeSet flags isNegated named with
      | error e => exact gives_error e
      | ok set => exact gives_ok (namedSet?_shortens hnamed)
    · exact wholeSet_gives hbody _
  · exact (setRange_gives _).bind fun item hitem => gives_ok hitem

theorem setBody_gives (n : Nat) : BodyShortens flags n := by
  intro negated items pending s
  induction n generalizing negated items pending s with
  | zero => exact gives_error _
  | succ n ih =>
    cases hs : skipSpace flags.verbose s false with
    | nil =>
      rw [setBody_nil _ _ _ hs]
      exact gives_error _
    | cons c r =>
      have hmore : ∀ negated items pending {rest}, rest <:+ c :: r →
          Gives (setBody flags n negated items pending rest) fun b => Shortens b.2.2 (c :: r) :=
        fun _ _ _ _ hrest => (ih ..).mono fun _ hb =>
          hb.of_suffix ((skipSpace_suffix ..).trans hrest)
      rw [setBody_eq _ _ _ hs]
      split
      · cases closeSet flags negated (applyPending flags pending items).1 with
        | error e => exact gives_error e
        | ok set => exact gives_ok (.of_cons (List.suffix_refl r) c)
      · split
        · next hoperation => exact hmore _ _ _ (operation?_shortens hoperation).suffix
        · exact (readOperand_gives ih c r).bind fun inner hinner => hmore _ _ _ hinner.suffix

/-- Whether the inside of a set of fewer than some number of characters is read alike when the text
goes on. -/
def BodyFollows (tail : Tail) (flags : Flags) (n : Nat) : Prop :=
  ∀ {n' : Nat} {negated : Bool} {items : Items} {pending : Option PendingOperation}
    {s s' : List Char}, Along tail s s' → s.length < n → s'.length < n' →
      Follows (SameParts tail) (fun b => Past tail b.2.2) (setBody flags n negated items pending s)
        (setBody flags n' negated items pending s')

theorem wholeSet_follows (hbody : BodyFollows tail flags n) (h : Along tail r r')
    (hn : r.length < n) (hn' : r'.length < n') :
    Follows (SameParts tail) (fun b => Past tail b.2.2) (wholeSet flags n (c :: r))
      (wholeSet flags n' (c :: r')) := by
  refine ((setOpening_follows h).both (setOpening_gives _) (setOpening_gives _)).bind ?_ ?_
  · rintro ⟨negated, start, rest⟩ ⟨_, _, rest'⟩ ⟨⟨rfl, rfl, hrest⟩, hshort, hshort'⟩
    have hlength := ((next_shortens flags c r).suffix_of hshort).shorter
    have hlength' := ((next_shortens flags c r').suffix_of hshort').shorter
    exact hbody hrest (Nat.lt_of_lt_of_le hlength hn) (Nat.lt_of_lt_of_le hlength' hn')
  · rintro ⟨negated, start, rest⟩ hrest
    exact (setBody_gives ..).mono fun _ hb =>
      Reached.past hrest (hb.of_suffix (skipSpace_suffix ..))

theorem readOperand_follows (hbody : BodyFollows tail flags n) (h : Along tail (c :: r) (c :: r'))
    (hn : r.length < n) (hn' : r'.length < n') :
    Follows (SameParts tail) (fun b => Reached tail b.2.2) (readOperand flags n c r)
      (readOperand flags n' c r') := by
  unfold readOperand
  split
  · have halong := namedSet?_along h
    generalize namedSet? (c :: r) = x at halong ⊢
    generalize namedSet? (c :: r') = x' at halong ⊢
    cases halong with
    | some hb =>
      obtain ⟨hnamed, hnegated, hrest⟩ := hb
      simp only [hnamed, hnegated]
      generalize closeSet flags _ _ = closed
      cases closed with
      | error e => exact .fails e e
      | ok set => exact .ok ⟨rfl, rfl, hrest⟩
    | none =>
      obtain ⟨_, heq, hr⟩ := h.uncons
      obtain ⟨-, rfl⟩ := List.cons.inj heq
      exact (wholeSet_follows hbody hr hn hn').mono fun _ hb => hb.reached
  · refine (setRange_follows h).bind ?_ fun item hitem => gives_ok hitem
    rintro ⟨item, rest⟩ ⟨_, rest'⟩ ⟨rfl, hrest⟩
    exact .ok ⟨rfl, rfl, hrest⟩

theorem setBody_follows (n : Nat) : BodyFollows tail flags n := by
  induction n with
  | zero => exact fun _ hn => absurd hn (Nat.not_lt_zero _)
  | succ n ih =>
    intro n' negated items pending s s' h hn hn'
    obtain ⟨n', rfl⟩ := Nat.exists_eq_succ_of_ne_zero (Nat.ne_of_gt (Nat.zero_lt_of_lt hn'))
    have hskip := h.skipSpace flags.verbose false
    have hle := (skipSpace_suffix flags.verbose false s).length_le
    have hle' := (skipSpace_suffix flags.verbose false s').length_le
    cases hs : skipSpace flags.verbose s false with
    | nil =>
      rw [hs] at hskip
      rw [setBody_nil _ _ _ hs]
      rcases hskip.unnil with hs' | ⟨hreached, -⟩
      · rw [setBody_nil _ _ _ hs']
        exact .fails _ _
      · exact .of_error _ ((setBody_gives ..).mono fun _ hb => hreached.past hb)
    | cons c r =>
      rw [hs] at hskip hle
      obtain ⟨r', hs', hr⟩ := hskip.uncons
      rw [hs'] at hskip hle'
      have hmore : ∀ {negated items pending t t'}, Along tail t t' → Shortens t (c :: r) →
          Shortens t' (c :: r') → Follows (SameParts tail) (fun b => Past tail b.2.2)
            (setBody flags n negated items pending t) (setBody flags n' negated items pending t') :=
        fun ht hlength hlength' => ih ht
          (Nat.lt_of_lt_of_le hlength.shorter (by omega))
          (Nat.lt_of_lt_of_le hlength'.shorter (by omega))
      rw [setBody_eq _ _ _ hs, setBody_eq _ _ _ hs']
      split
      · cases closeSet flags negated (applyPending flags pending items).1 with
        | error e => exact .fails e e
        | ok set => exact .ok ⟨rfl, rfl, hr⟩
      · have halong := operation?_along hskip
        generalize hx : operation? (c :: r) = x at halong ⊢
        generalize hx' : operation? (c :: r') = x' at halong ⊢
        cases halong with
        | some hb =>
          obtain ⟨hsame, hrest⟩ := hb
          simp only [hsame]
          exact hmore hrest (operation?_shortens hx) (operation?_shortens hx')
        | none =>
          have hoperand : Follows (SameParts tail) (fun b => Reached tail b.2.2)
              (readOperand flags n c r) (readOperand flags n' c r') :=
            readOperand_follows ih hskip (Nat.le_of_lt_succ (Nat.lt_of_le_of_lt hle hn))
              (Nat.le_of_lt_succ (Nat.lt_of_le_of_lt hle' hn'))
          refine (hoperand.both (readOperand_gives (setBody_gives n) c r)
            (readOperand_gives (setBody_gives n') c r')).bind ?_ ?_
          · rintro ⟨inner, depth, after⟩ ⟨_, _, after'⟩ ⟨⟨rfl, rfl, hafter⟩, hshort, hshort'⟩
            exact hmore hafter hshort hshort'
          · exact fun inner hinner => (setBody_gives ..).mono fun _ hb =>
              hinner.past (hb.of_suffix (skipSpace_suffix ..))

end ListingGrid.Pattern
