import ListingGrid.Pattern.Escape
import ListingGrid.Proofs.Pattern.Continued

/-!
# Escapes with a tail behind them

An escape that stands in a text is read alike when the text goes on. One escape is read apart from
that: `\b` and an opening brace at the end of the text are refused, and with a closing parenthesis
behind the brace they are a condition and a brace that nothing can be read from.
-/

set_option autoImplicit false

namespace ListingGrid.Pattern

variable {tail : Tail} {flags : Flags} {s s' name digits : List Char} {n n' : Nat}

def propertyName (flags : Flags) (s : List Char) :
    Except PatternError (Option (CharSet × Bool) × List Char) :=
  match s with
  | [] => .error .badEscape
  | '\x7b' :: _ => do
    let (name, rest) ← braced flags (s.length + 1) [] (next flags s)
    pure (namedProperty? name, rest)
  | '\\' :: _ => .error .badEscape
  | c :: _ => pure ((CharSet.property? [c]).map (·, false), next flags s)

def propertySet (flags : Flags) (negated : Bool) (found : Option (CharSet × Bool) × List Char) :
    Except PatternError (Escape × List Char) :=
  if !flags.unicode then .error .unicodeNotAllowed
  else
    match found.1 with
    | none => .error .unknownProperty
    | some (set, outside) =>
      let set := foldSet flags set
      .ok (.set (if negated != outside then set.complement else set), found.2)

theorem property_eq (negated : Bool) (s : List Char) :
    property flags negated s = propertyName flags s >>= propertySet flags negated := by
  unfold property propertyName
  simp only
  split
  · rfl
  · simp only [bind_assoc, pure_bind]
    rfl
  · rfl
  · simp only [pure_bind]
    rfl

theorem next_suffix (flags : Flags) (s : List Char) : next flags s <:+ s :=
  (skipSpace_suffix ..).trans (List.drop_suffix 1 s)

theorem fixedHex_gives (n : Nat) (digits s : List Char) :
    Gives (fixedHex flags n digits s) fun b => b.2 <:+ s := by
  induction n generalizing digits s with
  | zero =>
    unfold fixedHex
    split
    · exact gives_ok (List.suffix_refl s)
    · exact gives_error _
  | succ n ih =>
    unfold fixedHex
    split
    · split
      · exact (ih ..).mono fun _ h => h.trans (next_suffix flags _)
      · exact gives_error _
    · exact gives_error _

theorem bracedHex_gives (n : Nat) (digits s : List Char) :
    Gives (bracedHex flags n digits s) fun b => Shortens b.2 s := by
  induction n generalizing digits s with
  | zero => exact gives_error _
  | succ n ih =>
    unfold bracedHex
    split
    · split
      · exact gives_error _
      · split
        · exact gives_ok (next_shortens ..)
        · exact gives_error _
    · split
      · exact (ih ..).mono fun _ h => h.trans (next_shortens ..)
      · exact gives_error _
    · exact gives_error _

theorem braced_gives (n : Nat) (name s : List Char) :
    Gives (braced flags n name s) fun b => Shortens b.2 s := by
  induction n generalizing name s with
  | zero => exact gives_error _
  | succ n ih =>
    unfold braced
    split
    · exact gives_ok (.of_cons (List.suffix_refl _) _)
    · exact (ih ..).mono fun _ h => h.trans (next_shortens ..)
    · exact gives_error _

theorem boundaryName_suffix (flags : Flags) (n : Nat) (name s : List Char) :
    (boundaryName flags n name s).2 <:+ s := by
  induction n generalizing name s with
  | zero => exact List.suffix_refl s
  | succ n ih =>
    unfold boundaryName
    split
    · split
      · exact (ih ..).trans (next_suffix flags _)
      · exact List.suffix_refl _
    · exact List.nil_suffix

theorem propertyName_gives (s : List Char) :
    Gives (propertyName flags s) fun b => Shortens b.2 s := by
  unfold propertyName
  split
  · exact gives_error _
  · exact (braced_gives ..).bind fun b hb => gives_ok (hb.trans (next_shortens ..))
  · exact gives_error _
  · exact gives_ok (next_shortens ..)

theorem property_gives (negated : Bool) (s : List Char) :
    Gives (property flags negated s) fun b => Shortens b.2 s := by
  rw [property_eq]
  refine (propertyName_gives s).bind fun b hb => ?_
  unfold propertySet
  split
  · exact gives_error _
  · split
    · exact gives_error _
    · exact gives_ok hb

theorem boundary_gives (s : List Char) : Gives (boundary flags s) fun b => b.2 <:+ s := by
  unfold boundary
  simp only
  split
  · split
    · exact gives_error _
    · next c rest hnext =>
      have hrest : c :: rest <:+ _ := hnext ▸ next_suffix flags _
      split
      · exact gives_ok (List.suffix_refl _)
      · have hname := boundaryName_suffix flags
        split
        · next rest' hrest' =>
          split
          · refine gives_ok ((List.suffix_cons '\x7d' rest').trans ?_)
            rw [← hrest']
            exact (hname ..).trans hrest
          · exact gives_error _
        · exact gives_error _
  · exact gives_ok (List.suffix_refl _)

theorem hexadecimal_gives (count : Nat) (s : List Char) :
    Gives (hexadecimal flags count s) fun b => b.2 <:+ next flags s := by
  unfold hexadecimal
  split
  · exact gives_error _
  · next rest hnext =>
    refine (bracedHex_gives ..).bind fun b hb => gives_ok ?_
    rw [hnext]
    exact hb.suffix.trans (next_suffix ..)
  · exact (fixedHex_gives ..).bind fun b hb => gives_ok hb

inductive EscapeStep (flags : Flags) (c : Char) :
    (List Char → Except PatternError (Escape × List Char)) → Prop where
  | refused (e : PatternError) : EscapeStep flags c fun _ => .error e
  | done (escape : Escape) : EscapeStep flags c fun rest => .ok (escape, rest)
  | boundary : EscapeStep flags c fun rest => boundary flags rest
  | hexadecimal (count : Nat) (h : count ≠ 0) :
    EscapeStep flags c fun rest => hexadecimal flags count (c :: rest)
  | property (negated : Bool) :
    EscapeStep flags c fun rest => property flags negated (next flags (c :: rest))

theorem letterSet_step (flags : Flags) (c : Char) (set : Bool → CharSet) (negated : Bool) :
    EscapeStep flags c fun rest => (do pure (← letterSet flags set negated, rest)) := by
  cases letterSet flags set negated with
  | error e => exact .refused e
  | ok escape => exact .done escape

def isOtherEscape (c : Char) : Bool := "aftnrvAzbB<>".toList.contains c

theorem escape_other (flags : Flags) {c : Char} (h : isOtherEscape c = true) :
    EscapeStep flags c fun rest => escape flags (c :: rest) := by
  have hmem : c ∈ ['a', 'f', 't', 'n', 'r', 'v', 'A', 'z', 'b', 'B', '<', '>'] :=
    List.contains_iff_mem.mp h
  simp only [List.mem_cons, List.not_mem_nil, or_false] at hmem
  rcases hmem with rfl | rfl | rfl | rfl | rfl | rfl | rfl | rfl | rfl | rfl | rfl | rfl
  all_goals first
    | exact .boundary
    | exact .done _

theorem escape_eq (flags : Flags) {c : Char} (h : isOtherEscape c = false) (rest : List Char) :
    escape flags (c :: rest) =
      if Text.isDigit c then .error .badEscape
      else if c = 'x' then hexadecimal flags 2 (c :: rest)
      else if c = 'u' then hexadecimal flags 4 (c :: rest)
      else if c = 'U' then hexadecimal flags 8 (c :: rest)
      else if c = 'p' ∨ c = 'P' then property flags (c = 'P') (next flags (c :: rest))
      else if c = 'd' ∨ c = 'D' then do
        pure (← letterSet flags CharSet.digit (c = 'D'), rest)
      else if c = 's' ∨ c = 'S' then do
        pure (← letterSet flags CharSet.space (c = 'S'), rest)
      else if c = 'w' ∨ c = 'W' then do
        pure (← letterSet flags CharSet.word (c = 'W'), rest)
      else if isEscapable c then .ok (.literal c false, rest)
      else .error .badEscape := by
  rw [escape]
  · rfl
  all_goals
    rintro rfl
    exact absurd h (by decide)

theorem escape_step (flags : Flags) (c : Char) :
    EscapeStep flags c fun rest => escape flags (c :: rest) := by
  cases h : isOtherEscape c with
  | true => exact escape_other flags h
  | false =>
    rw [funext (escape_eq flags h)]
    split
    · exact .refused _
    split
    · exact .hexadecimal 2 (by decide)
    split
    · exact .hexadecimal 4 (by decide)
    split
    · exact .hexadecimal 8 (by decide)
    split
    · exact .property _
    split
    · exact letterSet_step ..
    split
    · exact letterSet_step ..
    split
    · exact letterSet_step ..
    split
    · exact .done _
    · exact .refused _

theorem escape_gives (s : List Char) : Gives (escape flags s) fun b => Shortens b.2 s := by
  cases s with
  | nil => exact gives_error _
  | cons c rest =>
    have hrest : Shortens rest (c :: rest) := .of_cons (List.suffix_refl rest) c
    have hnext := next_shortens flags c rest
    have hstep := escape_step flags c
    generalize hread : (fun rest => escape flags (c :: rest)) = read at hstep
    rw [show escape flags (c :: rest) = read rest from congrFun hread rest]
    cases hstep with
    | refused e => exact gives_error e
    | done escape => exact gives_ok hrest
    | boundary => exact (boundary_gives rest).mono fun b hb => hrest.suffix_of hb
    | hexadecimal count h => exact (hexadecimal_gives ..).mono fun b hb => hnext.suffix_of hb
    | property negated => exact (property_gives ..).mono fun b hb => hb.trans hnext

def HeldBrace (flags : Flags) (s : List Char) : Prop :=
  ∃ r t, s = '\x7b' :: r ∧ next flags s = ')' :: t

def Stuck (flags : Flags) (b : Escape × List Char) : Prop :=
  (∃ condition, b.1 = .look condition) ∧ HeldBrace flags b.2

theorem fixedHex_follows (h : Along tail s s') :
    Follows (SameUpTo tail) (fun b => Past tail b.2) (fixedHex flags n digits s)
      (fixedHex flags n digits s') := by
  induction n generalizing digits s s' with
  | zero =>
    unfold fixedHex
    split
    · exact .ok ⟨rfl, h⟩
    · exact .fails _ _
  | succ n ih =>
    rcases h.cases with ⟨rfl, rfl⟩ | ⟨rfl, -, t, rfl⟩ | ⟨c, r, r', rfl, rfl, hr⟩
    · exact .fails _ _
    · exact .fails _ _
    · simp only [fixedHex]
      split
      · exact ih (hr.next flags c)
      · exact .fails _ _

theorem bracedHex_follows (h : Along tail s s') (hn : s.length < n) (hn' : s'.length < n') :
    Follows (SameUpTo tail) (fun b => Past tail b.2) (bracedHex flags n digits s)
      (bracedHex flags n' digits s') := by
  induction n generalizing n' digits s s' with
  | zero => omega
  | succ n ih =>
    obtain ⟨n', rfl⟩ := Nat.exists_eq_add_of_lt (Nat.zero_lt_of_lt hn')
    rcases h.cases with ⟨rfl, rfl⟩ | ⟨rfl, -, t, rfl⟩ | ⟨c, r, r', rfl, rfl, hr⟩
    · exact .fails _ _
    · exact .fails _ _
    · have hshort := (next_shortens flags c r).shorter
      have hshort' := (next_shortens flags c r').shorter
      unfold bracedHex
      by_cases hc : c = '\x7d'
      · subst hc
        simp only
        split
        · exact .fails _ _
        · split
          · exact .ok ⟨rfl, hr.next flags _⟩
          · exact .fails _ _
      · simp only
        split
        · exact ih (hr.next flags c) (by omega) (by omega)
        · exact .fails _ _

theorem braced_follows (h : Along tail s s') (hn : s.length < n) (hn' : s'.length < n') :
    Follows (SameUpTo tail) (fun b => Past tail b.2) (braced flags n name s)
      (braced flags n' name s') := by
  induction n generalizing n' name s s' with
  | zero => omega
  | succ n ih =>
    obtain ⟨n', rfl⟩ := Nat.exists_eq_add_of_lt (Nat.zero_lt_of_lt hn')
    rcases h.cases with ⟨rfl, rfl⟩ | ⟨rfl, hreached, -⟩ | ⟨c, r, r', rfl, rfl, hr⟩
    · exact .fails _ _
    · exact .of_error _ ((braced_gives ..).mono fun _ hb => hreached.past hb)
    · have hshort := (next_shortens flags c r).shorter
      have hshort' := (next_shortens flags c r').shorter
      unfold braced
      by_cases hc : c = '\x7d'
      · subst hc
        exact .ok ⟨rfl, hr⟩
      · simp only
        exact ih (hr.next flags c) (by omega) (by omega)

theorem boundaryName_along (h : Along tail s s') (hn : s.length < n) (hn' : s'.length < n') :
    SameUpTo tail (boundaryName flags n name s) (boundaryName flags n' name s') := by
  induction n generalizing n' name s s' with
  | zero => omega
  | succ n ih =>
    obtain ⟨n', rfl⟩ := Nat.exists_eq_add_of_lt (Nat.zero_lt_of_lt hn')
    rcases h.cases with ⟨rfl, rfl⟩ | ⟨rfl, -, t, rfl⟩ | ⟨c, r, r', rfl, rfl, hr⟩
    · exact ⟨rfl, h⟩
    · exact ⟨rfl, h⟩
    · have hshort := (next_shortens flags c r).shorter
      have hshort' := (next_shortens flags c r').shorter
      simp only [boundaryName]
      split
      · exact ih (hr.next flags c) (by omega) (by omega)
      · exact ⟨rfl, h⟩

theorem propertyName_follows (h : Along tail s s') :
    Follows (SameUpTo tail) (fun b => Past tail b.2) (propertyName flags s)
      (propertyName flags s') := by
  rcases h.cases with ⟨rfl, rfl⟩ | ⟨rfl, hreached, -⟩ | ⟨c, r, r', rfl, rfl, hr⟩
  · exact .fails _ _
  · exact .of_error _ ((propertyName_gives _).mono fun _ hb => hreached.past hb)
  · have hnext := hr.next flags c
    have hshort := (next_shortens flags c r).shorter
    have hshort' := (next_shortens flags c r').shorter
    by_cases hbrace : c = '\x7b'
    · subst hbrace
      refine (braced_follows hnext (by omega) (by omega)).bind ?_ fun b hb => gives_ok hb
      rintro ⟨name, rest⟩ ⟨_, rest'⟩ ⟨rfl, hrest⟩
      exact .ok ⟨rfl, hrest⟩
    · by_cases hslash : c = '\\'
      · subst hslash
        exact .fails _ _
      · unfold propertyName
        simp only
        exact .ok ⟨rfl, hnext⟩

theorem property_follows (negated : Bool) (h : Along tail s s') :
    Follows (SameUpTo tail) (fun b => Past tail b.2) (property flags negated s)
      (property flags negated s') := by
  rw [property_eq, property_eq]
  refine (propertyName_follows h).bind ?_ fun b hb => ?_
  · rintro ⟨found, rest⟩ ⟨found', rest'⟩ ⟨hfound, hrest⟩
    obtain rfl : found' = found := hfound
    simp only [propertySet]
    split
    · exact .fails _ _
    · cases found' with
      | none => exact .fails _ _
      | some set => exact .ok ⟨rfl, hrest⟩
  · simp only [propertySet]
    split
    · exact gives_error _
    · split
      · exact gives_error _
      · exact gives_ok hb

def namedCondition (flags : Flags) (b : List Char × List Char) :
    Except PatternError (Escape × List Char) :=
  match b.2 with
  | '\x7d' :: rest =>
    match boundaryNames.find? fun (n, _) => n.toList == b.1 with
    | some (_, condition) => .ok (.look (condition flags.unicode), rest)
    | none => .error .badEscape
  | _ => .error .badEscape

theorem boundary_named {c : Char} {r rest : List Char} (h : next flags ('\x7b' :: r) = c :: rest) :
    boundary flags ('\x7b' :: r) =
      if !isBoundaryChar c then .ok (.look (.wordBoundary flags.unicode), '\x7b' :: r)
      else
        namedCondition flags (boundaryName flags (('\x7b' :: r).length + 1) [] (c :: rest)) := by
  simp only [boundary, h]
  rfl

theorem namedCondition_follows {Apart : Escape × List Char → Prop} {b b' : List Char × List Char}
    (h : SameUpTo tail b b') :
    Follows (SameUpTo tail) Apart (namedCondition flags b) (namedCondition flags b') := by
  obtain ⟨name, rest⟩ := b
  obtain ⟨name', rest'⟩ := b'
  obtain ⟨hname, hrest⟩ := h
  obtain rfl : name' = name := hname
  rcases hrest.cases with ⟨hs, hs'⟩ | ⟨hs, -, t, hs'⟩ | ⟨c, r, r', hs, hs', hr⟩
  · obtain rfl : rest = [] := hs
    obtain rfl : rest' = [] := hs'
    exact .fails _ _
  · obtain rfl : rest = [] := hs
    obtain rfl : rest' = ')' :: t := hs'
    exact .fails _ _
  · obtain rfl : rest = c :: r := hs
    obtain rfl : rest' = c :: r' := hs'
    by_cases hc : c = '\x7d'
    · subst hc
      simp only [namedCondition]
      split
      · exact .ok ⟨rfl, hr⟩
      · exact .fails _ _
    · have hno : ∀ u, namedCondition flags (name', c :: u) = .error .badEscape := by
        intro u
        unfold namedCondition
        split
        · next heq => exact absurd (List.cons.inj heq).1 hc
        · rfl
      rw [hno, hno]
      exact .fails _ _

theorem boundary_follows (h : Along tail s s') :
    Follows (SameUpTo tail) (Stuck flags) (boundary flags s) (boundary flags s') := by
  have hplain : ∀ {s s'}, Along tail s s' → Follows (SameUpTo tail) (Stuck flags)
      (.ok (.look (.wordBoundary flags.unicode), s))
      (.ok (.look (.wordBoundary flags.unicode), s')) :=
    fun h => .ok ⟨rfl, h⟩
  rcases h.cases with ⟨rfl, rfl⟩ | ⟨rfl, -, t, rfl⟩ | ⟨c, r, r', rfl, rfl, hr⟩
  · exact hplain h
  · exact hplain h
  · by_cases hbrace : c = '\x7b'
    · subst hbrace
      have hnext := hr.next flags '\x7b'
      rcases hnext.cases with ⟨hs, hs'⟩ | ⟨hs, -, t, hs'⟩ | ⟨d, rest, rest', hs, hs', -⟩
      · simp only [boundary, hs, hs']
        exact .fails _ _
      · simp only [boundary, hs, hs']
        exact .apart _ ⟨⟨_, rfl⟩, r', t, rfl, hs'⟩
      · have hlength := (next_shortens flags '\x7b' r).shorter
        have hlength' := (next_shortens flags '\x7b' r').shorter
        rw [boundary_named hs, boundary_named hs']
        rw [hs, hs'] at hnext
        rw [hs] at hlength
        rw [hs'] at hlength'
        split
        · exact hplain h
        · exact namedCondition_follows (boundaryName_along hnext (by omega) (by omega))
    · have hb : ∀ u, boundary flags (c :: u) = .ok (.look (.wordBoundary flags.unicode), c :: u) :=
        fun _ => boundary.eq_2 _ _ fun _ heq => hbrace (List.cons.inj heq).1
      rw [hb, hb]
      exact hplain h

theorem hexadecimal_follows {count : Nat} (hcount : count ≠ 0) (c : Char) (h : Along tail s s') :
    Follows (SameUpTo tail) (fun b => Past tail b.2) (hexadecimal flags count (c :: s))
      (hexadecimal flags count (c :: s')) := by
  have hnext := h.next flags c
  have hshort := (next_shortens flags c s).shorter
  have hshort' := (next_shortens flags c s').shorter
  unfold hexadecimal
  rcases hnext.cases with ⟨hs, hs'⟩ | ⟨hs, -, t, hs'⟩ | ⟨d, rest, rest', hs, hs', hrest⟩
  · rw [hs, hs']
    exact .fails _ _
  · rw [hs, hs']
    obtain ⟨count, rfl⟩ := Nat.exists_eq_succ_of_ne_zero hcount
    exact .fails _ _
  · rw [hs, hs'] at hnext ⊢
    rw [hs] at hshort
    rw [hs'] at hshort'
    by_cases hd : d = '\x7b'
    · subst hd
      have hinner := (next_shortens flags '\x7b' rest).shorter
      have hinner' := (next_shortens flags '\x7b' rest').shorter
      refine (bracedHex_follows (hrest.next flags _) (by omega) (by omega)).bind ?_
        fun b hb => gives_ok hb
      rintro ⟨c, r⟩ ⟨_, r'⟩ ⟨rfl, hr⟩
      exact .ok ⟨rfl, hr⟩
    · split
      · next heq => cases heq
      · next heq => exact absurd (List.cons.inj heq).1 hd
      · split
        · next heq => cases heq
        · next heq => exact absurd (List.cons.inj heq).1 hd
        · refine (fixedHex_follows hnext).bind ?_ fun b hb => gives_ok hb
          rintro ⟨c, r⟩ ⟨_, r'⟩ ⟨rfl, hr⟩
          exact .ok ⟨rfl, hr⟩

theorem escape_follows (h : Along tail s s') :
    Follows (SameUpTo tail) (fun b => Past tail b.2 ∨ Stuck flags b) (escape flags s)
      (escape flags s') := by
  rcases h.cases with ⟨rfl, rfl⟩ | ⟨rfl, hreached, -⟩ | ⟨c, r, r', rfl, rfl, hr⟩
  · exact .fails _ _
  · exact .of_error _ ((escape_gives _).mono fun _ hb => .inl (hreached.past hb))
  · have hstep := escape_step flags c
    generalize hread : (fun rest => escape flags (c :: rest)) = read at hstep
    rw [show escape flags (c :: r) = read r from congrFun hread r,
      show escape flags (c :: r') = read r' from congrFun hread r']
    cases hstep with
    | refused e => exact .fails e e
    | done escape => exact .ok ⟨rfl, hr⟩
    | boundary => exact (boundary_follows hr).mono fun _ hb => .inr hb
    | hexadecimal count hcount => exact (hexadecimal_follows hcount c hr).mono fun _ hb => .inl hb
    | property negated => exact (property_follows _ (hr.next flags c)).mono fun _ hb => .inl hb

end ListingGrid.Pattern
