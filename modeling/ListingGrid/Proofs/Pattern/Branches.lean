import ListingGrid.Proofs.Pattern.Tokens

/-!
# Branches with a tail behind them

The branches of a group are read token by token up to a closing parenthesis. A text that is read to
its end is read alike when the text goes on, up to the closing parenthesis of the tail. A text that
is refused, with a tail behind it, is refused as well or read beyond the closing parenthesis of the
tail.
-/

set_option autoImplicit false

namespace ListingGrid.Pattern

variable {tail : Tail} {s s' r r' : List Char} {c : Char} {n n' : Nat} {st : State}
  {branch before : List Piece}

def namesWith (names : List (List Char)) :
    Option (List Char) → Except PatternError (List (List Char))
  | none => .ok names
  | some name => if names.contains name then .error .badGroupName else .ok (name :: names)

def closeGroup (n : Nat) (st : State) (captures : Bool) (branch before : List Piece)
    (b : Piece × State) : Except PatternError (Piece × State) :=
  match b.2.rest with
  | ')' :: rest =>
    readBranches n { b.2 with rest, flags := st.flags } (⟨if captures then
      .group (st.groups + 1) b.1.pattern else b.1.pattern, b.1.depth + 1, true⟩ :: branch) before
  | _ => .error .unclosedGroup

def readOn (n : Nat) (st : State) (branch before : List Piece) (token : Token) (rest : List Char) :
    Except PatternError (Piece × State) :=
  match token with
  | .ending => .ok (alternation (concatenation branch :: before), { st with rest })
  | .bar => readBranches n { st with rest } [] (concatenation branch :: before)
  | .piece piece => readBranches n { st with rest } (piece :: branch) before
  | .repetition bounds greedy => repeatLast branch bounds greedy >>= fun branch =>
    readBranches n { st with rest } branch before
  | .flags flags => readBranches n { st with rest, flags } (⟨.empty, 0, false⟩ :: branch) before
  | .group flags name captures => namesWith st.names name >>= fun names =>
    readBranches n ⟨rest, flags, if captures then st.groups + 1 else st.groups, names⟩ [] [] >>=
      closeGroup n st captures branch before

theorem readBranches_nil (st : State) (h : skipSpace st.flags.verbose st.rest false = []) :
    readBranches (n + 1) st branch before =
      .ok (alternation (concatenation branch :: before), { st with rest := [] }) := by
  rw [readBranches]
  simp only [h]
  rfl

theorem readBranches_cons (st : State) (h : skipSpace st.flags.verbose st.rest false = c :: r) :
    readBranches (n + 1) st branch before =
      tokenAfter st.flags c r >>= fun b => readOn n st branch before b.1 b.2 := by
  rw [readBranches]
  simp only [h]
  unfold tokenAfter
  split
  case h_1 heq => cases heq
  case h_2 heq | h_3 heq | h_6 heq | h_7 heq | h_8 heq | h_12 heq | h_13 heq =>
    obtain ⟨rfl, rfl⟩ := List.cons.inj heq
    rfl
  case h_4 heq =>
    obtain ⟨rfl, rfl⟩ := List.cons.inj heq
    simp only [bind_assoc, pure_bind]
    refine bind_congr fun o => ?_
    cases o with
    | flags flags rest => rfl
    | group flags name captures rest =>
      cases name with
      | none => rfl
      | some name =>
        simp only [Opening.token, readOn, namesWith]
        split
        · rfl
        · rfl
  case h_5 heq =>
    obtain ⟨rfl, rfl⟩ := List.cons.inj heq
    simp only [bracketPiece, wholeSet, bind_assoc, pure_bind]
    rfl
  case h_10 heq =>
    obtain ⟨rfl, rfl⟩ := List.cons.inj heq
    simp only [bind_assoc, pure_bind]
    refine bind_congr fun e => ?_
    obtain ⟨e, rest⟩ := e
    cases e <;> rfl
  case h_9 heq | h_11 heq | h_14 heq =>
    obtain ⟨rfl, rfl⟩ := List.cons.inj heq
    simp only [bind_assoc, pure_bind]
    rfl

theorem closeGroup_close {captures : Bool} {b : Piece × State} {rest : List Char}
    (h : b.2.rest = ')' :: rest) :
    closeGroup n st captures branch before b =
      readBranches n { b.2 with rest, flags := st.flags } (⟨if captures then
        .group (st.groups + 1) b.1.pattern else b.1.pattern, b.1.depth + 1, true⟩ :: branch)
        before := by
  simp only [closeGroup, h]

theorem closeGroup_error {captures : Bool} {b : Piece × State} (h : ∀ r, b.2.rest ≠ ')' :: r) :
    closeGroup n st captures branch before b = .error .unclosedGroup := by
  unfold closeGroup
  split
  · next hrest => exact absurd hrest (h _)
  · rfl

theorem closeGroup_gives (captures : Bool) (b : Piece × State)
    (ih : ∀ st branch before,
      Gives (readBranches n st branch before) fun b => b.2.rest <:+ st.rest) :
    Gives (closeGroup n st captures branch before b) fun b' => Shortens b'.2.rest b.2.rest := by
  unfold closeGroup
  split
  · next rest hrest =>
    rw [hrest]
    exact (ih ..).mono fun b' hb => .of_cons hb ')'
  · exact gives_error _

theorem readOn_gives (token : Token) (rest : List Char)
    (ih : ∀ st branch before,
      Gives (readBranches n st branch before) fun b => b.2.rest <:+ st.rest) :
    Gives (readOn n st branch before token rest) fun b => b.2.rest <:+ rest := by
  cases token with
  | ending => exact gives_ok (List.suffix_refl rest)
  | bar => exact ih ..
  | piece piece => exact ih ..
  | repetition bounds greedy =>
    simp only [readOn]
    cases repeatLast branch bounds greedy with
    | error e => exact gives_error e
    | ok branch => exact ih ..
  | flags flags => exact ih ..
  | group flags name captures =>
    simp only [readOn]
    cases namesWith st.names name with
    | error e => exact gives_error e
    | ok names =>
      exact (ih ..).bind fun b hb => (closeGroup_gives captures b ih).mono fun b' hb' =>
        hb'.suffix.trans hb

theorem readBranches_gives (n : Nat) (st : State) (branch before : List Piece) :
    Gives (readBranches n st branch before) fun b => b.2.rest <:+ st.rest := by
  induction n generalizing st branch before with
  | zero => exact gives_error _
  | succ n ih =>
    have hskip := skipSpace_suffix st.flags.verbose false st.rest
    cases hs : skipSpace st.flags.verbose st.rest false with
    | nil =>
      rw [readBranches_nil _ hs]
      exact gives_ok List.nil_suffix
    | cons c r =>
      rw [hs] at hskip
      rw [readBranches_cons _ hs]
      refine (tokenAfter_gives c r).bind ?_
      rintro ⟨token, rest⟩ htoken
      refine (readOn_gives token rest ih).mono fun b hb => (hb.trans ?_).trans hskip
      rcases htoken with htoken | hrest
      · exact (Prod.mk.inj htoken).2 ▸ List.suffix_refl _
      · exact hrest.suffix

def SameState (tail : Tail) (st st' : State) : Prop :=
  ∃ rest', st' = { st with rest := rest' } ∧ Along tail st.rest rest'

def SameRead (tail : Tail) (b b' : Piece × State) : Prop :=
  b'.1 = b.1 ∧ SameState tail b.2 b'.2

def BranchesFollow (tail : Tail) (n n' : Nat) : Prop :=
  ∀ (st : State) (rest' : List Char) (branch before : List Piece), Along tail st.rest rest' →
    st.rest.length < n → rest'.length < n' →
      Follows (SameRead tail) (fun b => Past tail b.2.rest) (readBranches n st branch before)
        (readBranches n' { st with rest := rest' } branch before)

theorem closeGroup_follows (ih : BranchesFollow tail n n') (captures : Bool)
    {b b' : Piece × State} (h : SameRead tail b b') (hn : b.2.rest.length < n)
    (hn' : b'.2.rest.length < n') :
    Follows (SameRead tail) (fun b => Past tail b.2.rest) (closeGroup n st captures branch before b)
      (closeGroup n' st captures branch before b') := by
  obtain ⟨piece, after⟩ := b
  obtain ⟨piece', after'⟩ := b'
  obtain ⟨hpiece, rest', rfl, hrest⟩ := h
  obtain rfl : piece' = piece := hpiece
  cases hs : after.rest with
  | nil =>
    rw [hs] at hrest
    have hopen :
        closeGroup n st captures branch before (piece', after) = .error .unclosedGroup :=
      closeGroup_error fun _ heq => List.cons_ne_nil _ _ (heq.symm.trans hs)
    rw [hopen]
    rcases hrest.unnil with rfl | ⟨hreached, -⟩
    · exact .fails _ _
    · exact .of_error _ ((closeGroup_gives captures _ (readBranches_gives n')).mono
        fun b hb => hreached.past hb)
  | cons c r =>
    rw [hs] at hrest
    obtain ⟨r', rfl, hr⟩ := hrest.uncons
    by_cases hc : c = ')'
    · subst hc
      rw [closeGroup_close (b := (piece', after)) hs, closeGroup_close rfl]
      rw [hs] at hn
      exact ih _ _ _ _ hr (Nat.lt_of_succ_lt hn) (Nat.lt_of_succ_lt hn')
    · have hopen : ∀ r, after.rest ≠ ')' :: r := fun _ heq =>
        hc (List.cons.inj (hs.symm.trans heq)).1
      have hopen' : ∀ u, c :: r' ≠ ')' :: u := fun _ heq => hc (List.cons.inj heq).1
      rw [closeGroup_error (b := (piece', after)) hopen, closeGroup_error hopen']
      exact .fails _ _

/-- Nothing can be read from a brace that the tail stands behind. -/
theorem readBranches_held (h : HeldBrace st.flags st.rest) {P : Piece × State → Prop} :
    Gives (readBranches n st branch before) P := by
  cases n with
  | zero => exact gives_error _
  | succ n =>
    obtain ⟨r, t, hs, hnext⟩ := h
    have hskip : skipSpace st.flags.verbose st.rest false = '\x7b' :: r := by
      rw [hs]
      cases st.flags.verbose <;> rfl
    have htoken : tokenAfter st.flags '\x7b' r = .error .badRepetition := by
      change repetition st.flags ('\x7b' :: r) >>= _ = _
      rw [repetition_held ⟨r, t, rfl, hs ▸ hnext⟩]
      rfl
    rw [readBranches_cons _ hskip, htoken]
    exact gives_error _

theorem readOn_apart {token : Token} {rest : List Char}
    (h : Token.Apart tail st.flags (token, rest)) :
    Gives (readOn n st branch before token rest) fun b => Past tail b.2.rest := by
  cases h with
  | past _ h => exact (readOn_gives _ _ (readBranches_gives n)).mono fun b hb => h.suffix hb
  | held piece h => exact readBranches_held h
  | group flags name captures h =>
    simp only [readOn]
    cases namesWith st.names name with
    | error e => exact gives_error e
    | ok names =>
      exact (readBranches_gives ..).bind fun b hb => (closeGroup_gives captures b
        (readBranches_gives n)).mono fun b' hb' => h.past (hb'.of_suffix hb)

theorem readOn_follows (ih : BranchesFollow tail n n') {token : Token} {rest rest' u : List Char}
    (h : Along tail rest rest') (hn : token ≠ .ending → rest.length < n)
    (hn' : token ≠ .ending → rest'.length < n') :
    Follows (SameRead tail) (fun b => Past tail b.2.rest) (readOn n st branch before token rest)
      (readOn n' { st with rest := u } branch before token rest') := by
  cases token with
  | ending => exact .ok ⟨rfl, rest', rfl, h⟩
  | bar => exact ih _ _ _ _ h (hn nofun) (hn' nofun)
  | piece piece => exact ih _ _ _ _ h (hn nofun) (hn' nofun)
  | repetition bounds greedy =>
    simp only [readOn]
    cases repeatLast branch bounds greedy with
    | error e => exact .fails e e
    | ok branch => exact ih _ _ _ _ h (hn nofun) (hn' nofun)
  | flags flags => exact ih _ _ _ _ h (hn nofun) (hn' nofun)
  | group flags name captures =>
    simp only [readOn]
    cases namesWith st.names name with
    | error e => exact .fails e e
    | ok names =>
      refine ((ih _ _ _ _ h (hn nofun) (hn' nofun)).both (readBranches_gives ..)
        (readBranches_gives ..)).bind ?_ ?_
      · rintro b b' ⟨hsame, hle, hle'⟩
        exact closeGroup_follows ih captures hsame
          (Nat.lt_of_le_of_lt hle.length_le (hn nofun))
          (Nat.lt_of_le_of_lt hle'.length_le (hn' nofun))
      · exact fun b hb => (closeGroup_gives captures b (readBranches_gives n')).mono fun b' hb' =>
          hb.suffix hb'.suffix

theorem readBranches_follows (tail : Tail) (n n' : Nat) : BranchesFollow tail n n' := by
  induction n generalizing n' with
  | zero => exact fun _ _ _ _ _ hn => absurd hn (Nat.not_lt_zero _)
  | succ n ih =>
    intro st rest' branch before h hn hn'
    obtain ⟨n', rfl⟩ := Nat.exists_eq_succ_of_ne_zero (Nat.ne_of_gt (Nat.zero_lt_of_lt hn'))
    have hskip := h.skipSpace st.flags.verbose false
    have hle := (skipSpace_suffix st.flags.verbose false st.rest).length_le
    have hle' := (skipSpace_suffix st.flags.verbose false rest').length_le
    cases hs : skipSpace st.flags.verbose st.rest false with
    | nil =>
      rw [hs] at hskip
      rw [readBranches_nil _ hs]
      rcases hskip.unnil with hs' | ⟨-, t, hs'⟩
      · rw [readBranches_nil { st with rest := rest' } hs']
        exact .ok ⟨rfl, _, rfl, .ended tail⟩
      · rw [readBranches_cons { st with rest := rest' } hs']
        exact .ok ⟨rfl, _, rfl, hs' ▸ hskip⟩
    | cons c r =>
      rw [hs] at hskip hle
      obtain ⟨r', hs', hr⟩ := hskip.uncons
      rw [hs'] at hskip hle'
      rw [readBranches_cons _ hs, readBranches_cons { st with rest := rest' } hs']
      refine ((tokenAfter_follows hskip hr).both (tokenAfter_gives ..) (tokenAfter_gives ..)).bind
        ?_ fun b hb => readOn_apart hb
      rintro ⟨token, rest⟩ ⟨_, rest'⟩ ⟨⟨rfl, hrest⟩, hshort, hshort'⟩
      refine readOn_follows (ih n') hrest (fun hending => ?_) fun hending => ?_
      · have hlength := (hshort.resolve_left fun h => hending (Prod.mk.inj h).1).shorter
        exact Nat.lt_of_lt_of_le hlength (by omega)
      · have hlength := (hshort'.resolve_left fun h => hending (Prod.mk.inj h).1).shorter
        exact Nat.lt_of_lt_of_le hlength (by omega)

def Tail.none : Tail := ⟨[], nofun, nofun⟩

theorem Along.eq_of_none (h : Along Tail.none s s') : s' = s := by
  rcases h with rfl | ⟨rfl, rfl⟩
  · exact List.append_nil s
  · rfl

/-- What is read does not hang on the fuel, if it is enough. -/
theorem readBranches_fuel {b : Piece × State} (hn : st.rest.length < n) (hn' : st.rest.length < n')
    (hb : readBranches n st branch before = .ok b) : readBranches n' st branch before = .ok b := by
  have hfollows := readBranches_follows Tail.none n n' st st.rest branch before
    (.inl (List.append_nil _).symm) hn hn'
  rw [hb] at hfollows
  generalize hread : readBranches n' { st with rest := st.rest } branch before = x at hfollows
  cases hfollows with
  | ok hsame =>
    obtain ⟨hpiece, rest', hafter, hrest⟩ := hsame
    rw [hrest.eq_of_none] at hafter
    exact congrArg Except.ok (Prod.ext hpiece hafter)

end ListingGrid.Pattern
