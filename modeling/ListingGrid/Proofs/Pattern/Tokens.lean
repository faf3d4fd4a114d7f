import ListingGrid.Pattern.Reader
import ListingGrid.Proofs.Pattern.Brackets

/-!
# The parts of a pattern, with a tail behind them

The branches of a pattern are read part by part: bars, pieces, repetitions, flags and openings of
groups. A part that stands in a text is read alike when the text goes on.
-/

set_option autoImplicit false

namespace ListingGrid.Pattern

variable {tail : Tail} {flags : Flags} {s s' r r' t digits : List Char} {c : Char} {n n' : Nat}

theorem groupName_gives (s : List Char) : Gives (groupName s) fun b => b.2 <:+ s := by
  unfold groupName
  simp only
  split
  · exact gives_error _
  · next d rest hrest =>
    split
    · exact gives_error _
    · split
      · exact gives_ok ((List.suffix_cons d rest).trans (hrest ▸ List.dropWhile_suffix _))
      · exact gives_error _

theorem groupName_follows (h : Along tail s s') :
    Follows (SameUpTo tail) (fun _ => False) (groupName s) (groupName s') := by
  unfold groupName
  simp only
  rcases h.span (p := (· != '>')) rfl rfl with ⟨hend, hend'⟩ | ⟨hname, hne, hrest⟩
  · rw [hend, hend']
    exact .fails _ _
  · obtain ⟨d, rest, hs⟩ := List.exists_cons_of_ne_nil hne
    rw [hs] at hrest
    obtain ⟨rest', hs', hrest⟩ := hrest.uncons
    rw [hs, hs', hname]
    simp only
    split
    · exact .fails _ _
    · split
      · exact .ok ⟨rfl, hrest⟩
      · exact .fails _ _

theorem flagList_gives (seen s : List Char) :
    Gives (flagList flags seen s) fun b => b.2.2 <:+ s ∧ b.2.2 ≠ [] := by
  induction s generalizing flags seen with
  | nil => exact gives_error _
  | cons c rest ih =>
    have hmore : ∀ flags, Gives (flagList flags (c :: seen) rest) fun b =>
        b.2.2 <:+ c :: rest ∧ b.2.2 ≠ [] :=
      fun flags => (ih ..).mono fun _ h => ⟨h.1.trans (List.suffix_cons c rest), h.2⟩
    unfold flagList
    split
    · split
      · exact gives_error _
      · exact gives_ok ⟨List.suffix_refl _, List.cons_ne_nil c rest⟩
    · split
      · exact gives_error _
      · split
        · exact hmore _
        · split
          · exact hmore _
          · exact gives_error _

theorem flagList_follows {seen : List Char} (h : Along tail s s') :
    Follows (SameParts tail) (fun b => Reached tail b.2.2 ∧ ∃ t, b.2.2 = ')' :: t)
      (flagList flags seen s) (flagList flags seen s') := by
  induction s generalizing s' flags seen with
  | nil =>
    rcases h.unnil with rfl | ⟨hreached, t, rfl⟩
    · exact .fails _ _
    · unfold flagList
      rw [if_pos (.inr rfl)]
      split
      · exact .fails _ _
      · exact .apart _ ⟨hreached, t, rfl⟩
  | cons c rest ih =>
    obtain ⟨rest', rfl, hrest⟩ := h.uncons
    unfold flagList
    split
    · split
      · exact .fails _ _
      · exact .ok ⟨rfl, rfl, h⟩
    · split
      · exact .fails _ _
      · split
        · exact ih hrest
        · split
          · exact ih hrest
          · exact .fails _ _

def isLookAround : List Char → Bool
  | [] => false
  | c :: rest =>
    c = '=' ∨ c = '!' ∨ c = '<' ∧ (rest.head? = some '=' ∨ rest.head? = some '!')

def nameStart? : List Char → Option (List Char)
  | '<' :: rest => some rest
  | s => afterTwo? 'P' '<' s

def openedBy (b : Flags × List Char × List Char) : Except PatternError Opening :=
  match b.2.2 with
  | ')' :: after => if b.2.1.isEmpty then .error .nothingToRepeat else .ok (.flags b.1 after)
  | _ => .ok (.group b.1 none false (b.2.2.drop 1))

def openingMark (flags : Flags) (s : List Char) : Except PatternError Opening :=
  if isLookAround s then .error .lookAround
  else
    match nameStart? s with
    | some rest => groupName rest >>= fun b => pure (.group flags (some b.1) true b.2)
    | none => if s.isEmpty then .error .unclosedGroup else flagList flags [] s >>= openedBy

theorem isLookAround_eq_false (heq : ∀ t, s ≠ '=' :: t) (hbang : ∀ t, s ≠ '!' :: t)
    (hbehind : ∀ t, s ≠ '<' :: '=' :: t) (hnot : ∀ t, s ≠ '<' :: '!' :: t) :
    isLookAround s = false := by
  cases s with
  | nil => rfl
  | cons c rest =>
    refine decide_eq_false ?_
    rintro (rfl | rfl | ⟨rfl, h | h⟩)
    · exact heq rest rfl
    · exact hbang rest rfl
    · obtain ⟨t, rfl⟩ := List.head?_eq_some_iff.mp h
      exact hbehind t rfl
    · obtain ⟨t, rfl⟩ := List.head?_eq_some_iff.mp h
      exact hnot t rfl

theorem opening_mark (h : skipSpace flags.verbose s false = '?' :: r) :
    opening flags s = openingMark flags r := by
  unfold opening
  simp only [h]
  split
  case h_1 heq | h_2 heq | h_3 heq | h_4 heq | h_5 heq | h_7 heq =>
    obtain ⟨-, rfl⟩ := List.cons.inj heq
    rfl
  case h_6 hbehind hnot heq =>
    obtain ⟨-, rfl⟩ := List.cons.inj heq
    rw [openingMark, isLookAround_eq_false (by simp) (by simp)
      (fun t ht => hbehind t (List.cons.inj ht).2) (fun t ht => hnot t (List.cons.inj ht).2)]
    rfl
  case h_8 heq hbang hbehind hnot hname hangle hnil hr =>
    obtain ⟨-, rfl⟩ := List.cons.inj hr
    rw [openingMark, isLookAround_eq_false heq hbang hbehind hnot, nameStart?.eq_2 _ hangle,
      afterTwo?_eq_none hname, List.isEmpty_eq_false_iff.mpr hnil]
    rfl
  case h_9 hno => exact absurd rfl (hno _)

theorem opening_plain (h : ∀ r, skipSpace flags.verbose s false ≠ '?' :: r) :
    opening flags s = .ok (.group flags none true (skipSpace flags.verbose s false)) := by
  unfold opening
  simp only
  split
  case h_9 => rfl
  all_goals
    next heq => exact absurd heq (h _)

namespace Opening

def rest : Opening → List Char
  | .flags _ rest => rest
  | .group _ _ _ rest => rest

inductive SameUpTo (tail : Tail) : Opening → Opening → Prop where
  | flags (flags : Flags) {r r' : List Char} (h : Along tail r r') :
    SameUpTo tail (.flags flags r) (.flags flags r')
  | group (flags : Flags) (name : Option (List Char)) (captures : Bool) {r r' : List Char}
    (h : Along tail r r') :
    SameUpTo tail (.group flags name captures r) (.group flags name captures r')

def Apart (tail : Tail) : Opening → Prop
  | .flags _ rest => Past tail rest
  | .group _ _ _ rest => Reached tail rest

end Opening

theorem openedBy_gives (b : Flags × List Char × List Char) :
    Gives (openedBy b) fun o => o.rest <:+ b.2.2 := by
  unfold openedBy
  split
  · next after hafter =>
    split
    · exact gives_error _
    · exact gives_ok (hafter ▸ List.suffix_cons ')' after)
  · exact gives_ok (List.drop_suffix 1 _)

theorem nameStart?_suffix (h : nameStart? s = some r) : r <:+ s := by
  unfold nameStart? at h
  split at h
  · obtain rfl := Option.some_inj.mp h
    exact List.suffix_cons ..
  · exact (afterTwo?_shortens h).suffix

theorem openingMark_gives (s : List Char) : Gives (openingMark flags s) fun o => o.rest <:+ s := by
  unfold openingMark
  split
  · exact gives_error _
  · split
    · next rest hrest =>
      exact (groupName_gives rest).bind fun b hb => gives_ok (hb.trans (nameStart?_suffix hrest))
    · split
      · exact gives_error _
      · exact (flagList_gives ..).bind fun b hb => (openedBy_gives b).mono fun _ h => h.trans hb.1

theorem opening_gives (s : List Char) : Gives (opening flags s) fun o => o.rest <:+ s := by
  have hskip := skipSpace_suffix flags.verbose false s
  by_cases hmark : ∃ r, skipSpace flags.verbose s false = '?' :: r
  · obtain ⟨r, hr⟩ := hmark
    rw [opening_mark hr]
    exact (openingMark_gives r).mono fun _ h =>
      h.trans ((List.suffix_cons '?' r).trans (hr ▸ hskip))
  · rw [opening_plain fun r hr => hmark ⟨r, hr⟩]
    exact gives_ok hskip

theorem openedBy_follows {b b' : Flags × List Char × List Char} (h : SameParts tail b b')
    (hne : b.2.2 ≠ []) :
    Follows (Opening.SameUpTo tail) (Opening.Apart tail) (openedBy b) (openedBy b') := by
  obtain ⟨changed, seen, s⟩ := b
  obtain ⟨changed', seen', s'⟩ := b'
  obtain ⟨hchanged, hseen, h⟩ := h
  obtain rfl : changed' = changed := hchanged
  obtain rfl : seen' = seen := hseen
  obtain ⟨c, r, rfl⟩ := List.exists_cons_of_ne_nil hne
  obtain ⟨r', rfl, hr⟩ := h.uncons
  by_cases hc : c = ')'
  · subst hc
    simp only [openedBy]
    split
    · exact .fails _ _
    · exact .ok (.flags _ hr)
  · have hgroup : ∀ u, openedBy (changed', seen', c :: u) = .ok (.group changed' none false u) := by
      intro u
      unfold openedBy
      split
      · next heq => exact absurd (List.cons.inj heq).1 hc
      · rfl
    rw [hgroup, hgroup]
    exact .ok (.group _ _ _ hr)

theorem isLookAround_along (h : Along tail r r') :
    isLookAround (c :: r') = isLookAround (c :: r) := by
  simp only [isLookAround, h.head? (show '=' ≠ ')' by decide), h.head? (show '!' ≠ ')' by decide)]

theorem nameStart?_along (h : Along tail s s') :
    Option.Rel (Along tail) (nameStart? s) (nameStart? s') := by
  have hplain : (∀ t, s = '<' :: t → False) → (∀ t, s' = '<' :: t → False) →
      Option.Rel (Along tail) (nameStart? s) (nameStart? s') := by
    intro hs hs'
    rw [nameStart?.eq_2 _ hs, nameStart?.eq_2 _ hs']
    exact afterTwo?_along h (by decide) (by decide)
  rcases h.cases with ⟨rfl, rfl⟩ | ⟨rfl, -, t, rfl⟩ | ⟨c, r, r', rfl, rfl, hr⟩
  · exact hplain nofun nofun
  · exact hplain nofun nofun
  · by_cases hc : c = '<'
    · subst hc
      exact .some hr
    · exact hplain (fun _ heq => hc (List.cons.inj heq).1) fun _ heq => hc (List.cons.inj heq).1

theorem openingMark_follows (h : Along tail s s') :
    Follows (Opening.SameUpTo tail) (Opening.Apart tail) (openingMark flags s)
      (openingMark flags s') := by
  rcases h.cases with ⟨rfl, rfl⟩ | ⟨rfl, -, t, rfl⟩ | ⟨c, r, r', rfl, rfl, hr⟩
  · exact .fails _ _
  · have hclose : openingMark flags (')' :: t) = .error .nothingToRepeat := by
      cases t <;> rfl
    rw [hclose]
    exact .fails _ _
  · unfold openingMark
    rw [isLookAround_along hr]
    split
    · exact .fails _ _
    · have hname := nameStart?_along h
      generalize nameStart? (c :: r) = x at hname ⊢
      generalize nameStart? (c :: r') = x' at hname ⊢
      cases hname with
      | some hrest =>
        refine (groupName_follows hrest).bind ?_ fun _ h => h.elim
        rintro ⟨name, rest⟩ ⟨_, rest'⟩ ⟨rfl, hrest⟩
        exact .ok (.group _ _ _ hrest)
      | none =>
        refine ((flagList_follows h).both (flagList_gives ..) (flagList_gives ..)).bind
          (fun b b' hb => openedBy_follows hb.1 hb.2.1.2) ?_
        rintro ⟨changed, seen, rest⟩ ⟨hreached, t, rfl⟩
        simp only [openedBy]
        split
        · exact gives_error _
        · exact gives_ok (hreached.past (.of_cons (List.suffix_refl t) _))

theorem opening_follows (h : Along tail s s') :
    Follows (Opening.SameUpTo tail) (Opening.Apart tail) (opening flags s) (opening flags s') := by
  have hskip := h.skipSpace flags.verbose false
  have hplain : (∀ r, skipSpace flags.verbose s false ≠ '?' :: r) →
      (∀ r, skipSpace flags.verbose s' false ≠ '?' :: r) →
      Follows (Opening.SameUpTo tail) (Opening.Apart tail) (opening flags s)
        (opening flags s') := by
    intro hs hs'
    rw [opening_plain hs, opening_plain hs']
    exact .ok (.group _ _ _ hskip)
  cases hs : skipSpace flags.verbose s false with
  | nil =>
    rw [hs] at hskip
    refine hplain (by simp [hs]) ?_
    rcases hskip.unnil with hs' | ⟨-, t, hs'⟩
    · simp [hs']
    · simp [hs']
  | cons c r =>
    rw [hs] at hskip
    obtain ⟨r', hs', hr⟩ := hskip.uncons
    by_cases hc : c = '?'
    · subst hc
      rw [opening_mark hs, opening_mark hs']
      exact openingMark_follows hr
    · exact hplain (by simp [hs, hc]) (by simp [hs', hc])

theorem digitsFrom_suffix (n : Nat) (digits s : List Char) :
    (count.digitsFrom flags n digits s).2 <:+ s := by
  induction n generalizing digits s with
  | zero => exact List.suffix_refl s
  | succ n ih =>
    unfold count.digitsFrom
    split
    · split
      · exact (ih ..).trans (next_suffix flags _)
      · exact List.suffix_refl _
    · exact List.suffix_refl _

theorem digitsFrom_along (flags : Flags) (digits : List Char) (h : Along tail s s')
    (hn : s.length ≤ n) (hn' : s'.length ≤ n') :
    SameUpTo tail (count.digitsFrom flags n digits s) (count.digitsFrom flags n' digits s') := by
  have hnil : ∀ n n' digits {s'}, Along tail [] s' →
      SameUpTo tail (count.digitsFrom flags n digits []) (count.digitsFrom flags n' digits s') := by
    intro n n' digits s' h
    rcases h.unnil with rfl | ⟨-, t, rfl⟩
    · cases n <;> cases n' <;> exact ⟨rfl, h⟩
    · cases n <;> cases n' <;> exact ⟨rfl, h⟩
  induction n generalizing n' digits s s' with
  | zero =>
    obtain rfl := List.length_eq_zero_iff.mp (Nat.le_zero.mp hn)
    exact hnil _ _ _ h
  | succ n ih =>
    cases s with
    | nil => exact hnil _ _ _ h
    | cons c r =>
      obtain ⟨r', rfl, hr⟩ := h.uncons
      obtain ⟨n', rfl⟩ := Nat.exists_eq_succ_of_ne_zero (Nat.ne_of_gt (Nat.lt_of_lt_of_le
        (Nat.succ_pos _) hn'))
      have hshort := (next_shortens flags c r).shorter
      have hshort' := (next_shortens flags c r').shorter
      simp only [count.digitsFrom]
      split
      · exact ih _ (hr.next flags c) (by omega) (by omega)
      · exact ⟨rfl, h⟩

theorem count_suffix (s : List Char) : (count flags s).2 <:+ s := by
  unfold count
  simp only
  split
  all_goals
    exact (skipSpace_suffix ..).trans ((List.dropWhile_suffix _).trans ((digitsFrom_suffix ..).trans
      (List.dropWhile_suffix _)))

theorem count_along (flags : Flags) (h : Along tail s s') :
    SameUpTo tail (count flags s) (count flags s') := by
  obtain ⟨hdigits, hrest⟩ := digitsFrom_along flags [] h.dropWhile_isSpace (Nat.le_refl _)
    (Nat.le_refl _)
  have hafter := hrest.dropWhile_isSpace.skipSpace flags.verbose false
  unfold count
  simp only [hdigits]
  split
  · exact ⟨rfl, hafter⟩
  · exact ⟨rfl, hafter⟩

theorem count_close (t : List Char) : count flags (')' :: t) = (none, ')' :: t) := by
  have hspace : (')' :: t).dropWhile Text.isSpace = ')' :: t := rfl
  have hdigits : ∀ n, count.digitsFrom flags n [] (')' :: t) = ([], ')' :: t) := by
    intro n
    cases n <;> rfl
  unfold count
  simp only [hspace, hdigits, skipSpace_close, List.isEmpty_nil, if_true]

def exactBounds (least : Option (Option Nat)) : Except PatternError Bounds :=
  match least with
  | some (some n) => .ok ⟨n, some n⟩
  | _ => .error .badRepetition

def bothBounds (least most : Option (Option Nat)) : Except PatternError Bounds :=
  match least, most with
  | some (some n), some (some m) => if n ≤ m then .ok ⟨n, some m⟩ else .error .badRepetition
  | _, _ => .error .badRepetition

def openBounds (least : Option (Option Nat)) : Except PatternError Bounds :=
  match least with
  | some (some n) => .ok ⟨n, none⟩
  | _ => .error .badRepetition

def greatestBound (flags : Flags) (least : Option (Option Nat)) (s : List Char) :
    Except PatternError (Bounds × List Char) :=
  match s with
  | '\x7d' :: rest => openBounds least >>= fun bounds => pure (bounds, '\x7d' :: rest)
  | [] => .error .badRepetition
  | s => bothBounds least (count flags s).1 >>= fun bounds => pure (bounds, (count flags s).2)

def boundsFrom (flags : Flags) (least : Option (Option Nat)) (s : List Char) :
    Except PatternError (Bounds × List Char) :=
  match s with
  | ',' :: _ => greatestBound flags least (next flags s)
  | _ => exactBounds least >>= fun bounds => pure (bounds, s)

def closingBrace (flags : Flags) (bounds : Bounds) (s : List Char) :
    Except PatternError (Bounds × List Char) :=
  match s with
  | '\x7d' :: _ => .ok (bounds, next flags s)
  | _ => .error .badRepetition

theorem repetition_eq (s : List Char) :
    repetition flags s =
      if (next flags s).isEmpty then .error .badRepetition
      else
        boundsFrom flags (count flags (next flags s)).1 (count flags (next flags s)).2 >>= fun b =>
          closingBrace flags b.1 b.2 := by
  unfold repetition
  simp only
  split
  · rfl
  · generalize count flags (next flags s) = b
    obtain ⟨least, s⟩ := b
    simp only
    split
    · rw [boundsFrom]
      generalize next flags _ = s
      split
      · rcases least with _ | _ | n <;> rfl
      · rfl
      · next hbrace hnil =>
        rw [greatestBound.eq_3 _ _ _ hbrace hnil]
        generalize (count flags s).1 = most
        rcases least with _ | _ | n
        · rfl
        · rfl
        · rcases most with _ | _ | m
          · rfl
          · rfl
          · simp only [bothBounds]
            split <;> rfl
    · next hcomma =>
      rw [boundsFrom.eq_2 _ _ _ hcomma]
      rcases least with _ | _ | n <;> rfl

theorem boundsFrom_gives (least : Option (Option Nat)) (s : List Char) :
    Gives (boundsFrom flags least s) fun b => b.2 <:+ s := by
  unfold boundsFrom
  split
  · next r =>
    refine Gives.mono (P := fun b => b.2 <:+ next flags (',' :: r)) ?_ fun _ h =>
      h.trans (next_suffix flags _)
    generalize next flags (',' :: r) = s
    unfold greatestBound
    split
    · cases openBounds least with
      | error e => exact gives_error e
      | ok bounds => exact gives_ok (List.suffix_refl _)
    · exact gives_error _
    · cases bothBounds least (count flags _).1 with
      | error e => exact gives_error e
      | ok bounds => exact gives_ok (count_suffix _)
  · cases exactBounds least with
    | error e => exact gives_error e
    | ok bounds => exact gives_ok (List.suffix_refl s)

theorem repetition_gives (s : List Char) :
    Gives (repetition flags s) fun b => b.2 <:+ next flags s := by
  rw [repetition_eq]
  split
  · exact gives_error _
  · refine (boundsFrom_gives ..).bind fun b hb => ?_
    unfold closingBrace
    split
    · exact gives_ok ((next_suffix flags _).trans (hb.trans (count_suffix _)))
    · exact gives_error _

theorem greatestBound_follows (least : Option (Option Nat)) (h : Along tail s s') :
    Follows (SameUpTo tail) (fun _ => False) (greatestBound flags least s)
      (greatestBound flags least s') := by
  rcases h.cases with ⟨rfl, rfl⟩ | ⟨rfl, -, t, rfl⟩ | ⟨c, r, r', rfl, rfl, hr⟩
  · exact .fails _ _
  · rw [greatestBound, greatestBound, count_close]
    · rcases least with _ | _ | n <;> exact .fails _ _
    · exact fun _ h => nomatch h
    · exact fun h => nomatch h
  · by_cases hc : c = '\x7d'
    · subst hc
      simp only [greatestBound]
      cases openBounds least with
      | error e => exact .fails e e
      | ok bounds => exact .ok ⟨rfl, h⟩
    · have hno : ∀ u rest, c :: u = '\x7d' :: rest → False :=
        fun _ _ heq => hc (List.cons.inj heq).1
      obtain ⟨hmost, hrest⟩ := count_along flags h
      rw [greatestBound.eq_3 _ _ _ (hno r) nofun, greatestBound.eq_3 _ _ _ (hno r') nofun, hmost]
      cases bothBounds least (count flags (c :: r)).1 with
      | error e => exact .fails e e
      | ok bounds => exact .ok ⟨rfl, hrest⟩

theorem boundsFrom_follows (least : Option (Option Nat)) (h : Along tail s s') :
    Follows (SameUpTo tail) (fun _ => False) (boundsFrom flags least s)
      (boundsFrom flags least s') := by
  have hexact : ∀ {s s'}, Along tail s s' → (∀ t, s = ',' :: t → False) →
      (∀ t, s' = ',' :: t → False) → Follows (SameUpTo tail) (fun _ => False)
        (boundsFrom flags least s) (boundsFrom flags least s') := by
    intro s s' h hs hs'
    rw [boundsFrom.eq_2 _ _ _ hs, boundsFrom.eq_2 _ _ _ hs']
    cases exactBounds least with
    | error e => exact .fails e e
    | ok bounds => exact .ok ⟨rfl, h⟩
  rcases h.cases with ⟨rfl, rfl⟩ | ⟨rfl, -, t, rfl⟩ | ⟨c, r, r', rfl, rfl, hr⟩
  · exact hexact h nofun nofun
  · exact hexact h nofun nofun
  · by_cases hc : c = ','
    · subst hc
      exact greatestBound_follows least (hr.next flags _)
    · exact hexact h (fun _ heq => hc (List.cons.inj heq).1) fun _ heq => hc (List.cons.inj heq).1

theorem closingBrace_follows (bounds : Bounds) (h : Along tail s s') :
    Follows (SameUpTo tail) (fun _ => False) (closingBrace flags bounds s)
      (closingBrace flags bounds s') := by
  rcases h.cases with ⟨rfl, rfl⟩ | ⟨rfl, -, t, rfl⟩ | ⟨c, r, r', rfl, rfl, hr⟩
  · exact .fails _ _
  · exact .fails _ _
  · by_cases hc : c = '\x7d'
    · subst hc
      exact .ok ⟨rfl, hr.next flags _⟩
    · have hno : ∀ u, closingBrace flags bounds (c :: u) = .error .badRepetition :=
        fun u => closingBrace.eq_2 _ _ _ fun _ heq => hc (List.cons.inj heq).1
      rw [hno, hno]
      exact .fails _ _

theorem repetition_follows (h : Along tail r r') :
    Follows (SameUpTo tail) (fun _ => False) (repetition flags (c :: r))
      (repetition flags (c :: r')) := by
  have hnext := h.next flags c
  rw [repetition_eq, repetition_eq]
  cases hs : next flags (c :: r) with
  | nil =>
    rw [hs] at hnext
    rcases hnext.unnil with hs' | ⟨-, t, hs'⟩
    · rw [hs']
      exact .fails _ _
    · rw [hs', count_close]
      exact .fails _ _
  | cons d rest =>
    rw [hs] at hnext
    obtain ⟨rest', hs', hrest⟩ := hnext.uncons
    rw [hs'] at hnext ⊢
    obtain ⟨hleast, hafter⟩ := count_along flags hnext
    simp only [List.isEmpty_cons, Bool.false_eq_true, if_false, hleast]
    refine (boundsFrom_follows _ hafter).bind ?_ fun _ h => h.elim
    rintro ⟨bounds, more⟩ ⟨_, more'⟩ ⟨rfl, hmore⟩
    exact closingBrace_follows _ hmore

/-- Nothing can be read from a brace that the tail stands behind. -/
theorem repetition_held (h : HeldBrace flags s) : repetition flags s = .error .badRepetition := by
  obtain ⟨r, t, -, h⟩ := h
  rw [repetition_eq, h, count_close]
  rfl

inductive Token where
  | ending
  | bar
  | piece (piece : Piece)
  | repetition (bounds : Bounds) (greedy : Bool)
  | flags (flags : Flags)
  | group (flags : Flags) (name : Option (List Char)) (captures : Bool)

def Opening.token : Opening → Token
  | .flags flags _ => .flags flags
  | .group flags name captures _ => .group flags name captures

def bracketPiece (flags : Flags) (s : List Char) : Except PatternError (Token × List Char) :=
  wholeSet flags (s.length + 1) s >>= fun b => pure (.piece ⟨ofSet b.1, b.2.1, true⟩, b.2.2)

def escapePiece (flags : Flags) : Escape → Except PatternError Piece
  | .literal c byte => literalPiece flags c byte
  | .set set => .ok (plainPiece (ofSet set))
  | .look condition => .ok (plainPiece (.look condition))

def preferred (flags : Flags) (bounds : Bounds) (s : List Char) : Token × List Char :=
  (.repetition bounds (preference flags s).1, (preference flags s).2)

def tokenAfter (flags : Flags) (c : Char) : List Char → Except PatternError (Token × List Char) :=
  match c with
  | ')' => fun r => .ok (.ending, ')' :: r)
  | '|' => fun r => .ok (.bar, r)
  | '(' => fun r => opening flags r >>= fun o => pure (o.token, o.rest)
  | '[' => fun r => bracketPiece flags ('[' :: r)
  | '*' => fun r => .ok (preferred flags ⟨0, none⟩ r)
  | '+' => fun r => .ok (preferred flags ⟨1, none⟩ r)
  | '?' => fun r => .ok (preferred flags ⟨0, some 1⟩ r)
  | '\x7b' => fun r => repetition flags ('\x7b' :: r) >>= fun b => pure (preferred flags b.1 b.2)
  | '\\' => fun r => escape flags r >>= fun e => escapePiece flags e.1 >>= fun p =>
    pure (.piece p, e.2)
  | '.' => fun r => pointPiece flags >>= fun p => pure (.piece p, r)
  | '^' => fun r => .ok (.piece (linePiece flags true), r)
  | '$' => fun r => .ok (.piece (linePiece flags false), r)
  | c => fun r => literalPiece flags c false >>= fun p => pure (.piece p, r)

inductive TokenStep (flags : Flags) (c : Char) :
    (List Char → Except PatternError (Token × List Char)) → Prop where
  | ending : TokenStep flags c fun r => .ok (.ending, c :: r)
  | alone (x : Except PatternError Token) : TokenStep flags c fun r => x >>= fun t => pure (t, r)
  | opening : TokenStep flags c fun r => opening flags r >>= fun o => pure (o.token, o.rest)
  | bracket : TokenStep flags c fun r => bracketPiece flags (c :: r)
  | times (bounds : Bounds) : TokenStep flags c fun r => .ok (preferred flags bounds r)
  | brace : TokenStep flags c fun r =>
    repetition flags (c :: r) >>= fun b => pure (preferred flags b.1 b.2)
  | escape : TokenStep flags c fun r =>
    escape flags r >>= fun e => escapePiece flags e.1 >>= fun p => pure (.piece p, e.2)

theorem tokenAfter_step (flags : Flags) (c : Char) : TokenStep flags c (tokenAfter flags c) := by
  unfold tokenAfter
  split
  · exact .ending
  · exact .alone (.ok .bar)
  · exact .opening
  · exact .bracket
  · exact .times _
  · exact .times _
  · exact .times _
  · exact .brace
  · exact .escape
  · have hstep : TokenStep flags '.' _ := .alone (Token.piece <$> pointPiece flags)
    simpa using hstep
  · exact .alone (.ok (.piece _))
  · exact .alone (.ok (.piece _))
  · have hstep : TokenStep flags c _ := .alone (Token.piece <$> literalPiece flags c false)
    simpa using hstep

theorem preference_suffix (s : List Char) : (preference flags s).2 <:+ s := by
  unfold preference
  split
  · exact List.suffix_cons ..
  · exact List.suffix_refl _

theorem preferred_along (bounds : Bounds) (h : Along tail s s') :
    SameUpTo tail (preferred flags bounds s) (preferred flags bounds s') := by
  have hplain : (∀ t, s = '?' :: t → False) → (∀ t, s' = '?' :: t → False) →
      SameUpTo tail (preferred flags bounds s) (preferred flags bounds s') := by
    intro hs hs'
    rw [preferred, preferred, preference.eq_2 _ _ hs, preference.eq_2 _ _ hs']
    exact ⟨rfl, h⟩
  rcases h.cases with ⟨rfl, rfl⟩ | ⟨rfl, -, t, rfl⟩ | ⟨c, r, r', rfl, rfl, hr⟩
  · exact hplain nofun nofun
  · exact hplain nofun nofun
  · by_cases hc : c = '?'
    · subst hc
      exact ⟨rfl, hr⟩
    · exact hplain (fun _ heq => hc (List.cons.inj heq).1) fun _ heq => hc (List.cons.inj heq).1

theorem bracketPiece_gives (s : List Char) :
    Gives (bracketPiece flags s) fun b => Shortens b.2 s :=
  (wholeSet_gives (setBody_gives _) _).bind fun _ hb => gives_ok hb

theorem bracketPiece_follows (h : Along tail r r') :
    Follows (SameUpTo tail) (fun b => Past tail b.2) (bracketPiece flags (c :: r))
      (bracketPiece flags (c :: r')) := by
  refine (wholeSet_follows (setBody_follows _) h (Nat.lt_succ_of_lt (Nat.lt_succ_self _))
    (Nat.lt_succ_of_lt (Nat.lt_succ_self _))).bind ?_ fun b hb => gives_ok hb
  rintro ⟨set, depth, more⟩ ⟨_, _, more'⟩ ⟨rfl, rfl, hmore⟩
  exact .ok ⟨rfl, hmore⟩

theorem tokenAfter_gives (c : Char) (r : List Char) :
    Gives (tokenAfter flags c r) fun b => b = (.ending, c :: r) ∨ Shortens b.2 (c :: r) := by
  have hcons : ∀ {t}, t <:+ r → Shortens t (c :: r) := fun ht => .of_cons ht c
  have hstep := tokenAfter_step flags c
  generalize tokenAfter flags c = read at hstep
  cases hstep with
  | ending => exact gives_ok (.inl rfl)
  | alone x =>
    cases x with
    | error e => exact gives_error e
    | ok t => exact gives_ok (.inr (hcons (List.suffix_refl r)))
  | opening => exact (opening_gives r).bind fun o ho => gives_ok (.inr (hcons ho))
  | bracket => exact (bracketPiece_gives _).mono fun _ hb => .inr hb
  | times bounds => exact gives_ok (.inr (hcons (preference_suffix r)))
  | brace =>
    exact (repetition_gives _).bind fun b hb => gives_ok
      (.inr ((next_shortens flags c r).suffix_of ((preference_suffix b.2).trans hb)))
  | escape =>
    refine (escape_gives r).bind fun e he => ?_
    cases escapePiece flags e.1 with
    | error e => exact gives_error e
    | ok p => exact gives_ok (.inr (hcons he.suffix))

/-- How a token may be read that was refused in the text: the tail, some of it or the brace that it
stands behind is left to read. -/
inductive Token.Apart (tail : Tail) (flags : Flags) : Token × List Char → Prop where
  | past (token : Token) {rest : List Char} (h : Past tail rest) :
    Token.Apart tail flags (token, rest)
  | group (flags' : Flags) (name : Option (List Char)) (captures : Bool) {rest : List Char}
    (h : Reached tail rest) : Token.Apart tail flags (.group flags' name captures, rest)
  | held (piece : Piece) {rest : List Char} (h : HeldBrace flags rest) :
    Token.Apart tail flags (.piece piece, rest)

theorem tokenAfter_follows (h : Along tail (c :: r) (c :: r')) (hr : Along tail r r') :
    Follows (SameUpTo tail) (Token.Apart tail flags) (tokenAfter flags c r)
      (tokenAfter flags c r') := by
  have hstep := tokenAfter_step flags c
  generalize tokenAfter flags c = read at hstep
  cases hstep with
  | ending => exact .ok ⟨rfl, h⟩
  | alone x =>
    cases x with
    | error e => exact .fails e e
    | ok t => exact .ok ⟨rfl, hr⟩
  | opening =>
    refine (opening_follows hr).bind ?_ ?_
    · rintro o o' (⟨flags, h⟩ | ⟨flags, name, captures, h⟩)
      · exact .ok ⟨rfl, h⟩
      · exact .ok ⟨rfl, h⟩
    · rintro (⟨flags, rest⟩ | ⟨flags, name, captures, rest⟩) h
      · exact gives_ok (.past _ h)
      · exact gives_ok (.group _ _ _ h)
  | bracket => exact (bracketPiece_follows hr).mono fun _ hb => .past _ hb
  | times bounds => exact .ok (preferred_along bounds hr)
  | brace =>
    refine (repetition_follows hr).bind ?_ fun _ h => h.elim
    rintro ⟨bounds, rest⟩ ⟨_, rest'⟩ ⟨rfl, hrest⟩
    exact .ok (preferred_along _ hrest)
  | escape =>
    refine (escape_follows hr).bind ?_ ?_
    · rintro ⟨e, rest⟩ ⟨_, rest'⟩ ⟨rfl, hrest⟩
      simp only
      cases escapePiece flags _ with
      | error e => exact .fails e e
      | ok p => exact .ok ⟨rfl, hrest⟩
    · rintro ⟨e, rest⟩ (hpast | ⟨-, hheld⟩)
      · cases escapePiece flags e with
        | error e => exact gives_error e
        | ok p => exact gives_ok (.past _ hpast)
      · cases escapePiece flags e with
        | error e => exact gives_error e
        | ok p => exact gives_ok (.held p hheld)

end ListingGrid.Pattern
