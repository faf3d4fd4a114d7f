import ListingGrid.Proofs.Grammar.Stems

/-!
# Numerals in front of a tail

A reader of numerals takes a sign, digits and perhaps a fraction, and looks no further than
the next character: no digit may stand there, and no point that would begin a fraction. So
it reads alike in front of two tails, and in front of a word it fails in both texts or in
none.
-/

set_option autoImplicit false

namespace ListingGrid.Grammar

open ListingGrid.Grammar.Parser

variable {T T' s s' rest bad : List Char} {n : Nat} {c : Char}

def isNumeralChar (c : Char) : Bool := Text.isDigit c || ['+', '-', '.'].contains c

def beginsNumeral (c : Char) : Bool := Text.isDigit c || ['+', '-'].contains c

def isDecimalChar (c : Char) : Bool := Text.isDigit c || c == '.'

namespace Parser

variable {α β : Type} {p : Parser α} {ends : Char → Bool}

/-- A reader of numerals, which looks no further than one character. -/
structure Numeral (ends : Char → Bool) (p : Parser α) : Prop where
  settles : Settles p
  done {s rest : List Char} {a : α} (h : p s = .done a rest) : ∃ c t, s = c :: t ++ rest ∧
    beginsNumeral c = true ∧ t.all isNumeralChar = true ∧ Stops Text.isDigit rest ∧
      ∀ rest', Stops ends rest' → p (c :: t ++ rest') = .done a rest'

theorem isNumeralChar_of_begins (h : beginsNumeral c = true) : isNumeralChar c = true := by
  simp only [beginsNumeral, isNumeralChar, Bool.or_eq_true] at h ⊢
  refine h.imp_right fun hc => ?_
  simp only [List.contains_cons, List.contains_nil, Bool.or_false, Bool.or_eq_true] at hc ⊢
  exact hc.imp_right .inl

theorem numeral_digits : Numeral Text.isDigit digits where
  settles := takeWhile1_settles _
  done {s rest run} h := by
    obtain ⟨rfl, hne, hall, hstops⟩ := takeWhile1_eq_done.mp h
    cases run with
    | nil => exact absurd rfl hne
    | cons c run =>
      have hdigits := hall
      rw [List.all_cons, Bool.and_eq_true] at hdigits
      refine ⟨c, run, rfl, by simp [beginsNumeral, hdigits.1], ?_, hstops, fun rest' hrest => ?_⟩
      · exact List.all_eq_true.mpr fun d hd => by
          simp [isNumeralChar, List.all_eq_true.mp hdigits.2 d hd]
      · exact takeWhile1_append hall hne hrest

theorem numeral_filterMap (f : α → Option β) (hp : Numeral ends p) :
    Numeral ends (filterMap p f) where
  settles := filterMap_settles f hp.settles
  done h := by
    obtain ⟨a, ha, hb⟩ := filterMap_eq_done.mp h
    obtain ⟨c, t, hsplit, hc, hall, hstops, hagain⟩ := hp.done ha
    exact ⟨c, t, hsplit, hc, hall, hstops, fun rest' hrest =>
      filterMap_eq_done.mpr ⟨a, hagain rest' hrest, hb⟩⟩

theorem numeral_label (what : String) (hp : Numeral ends p) : Numeral ends (label what p) where
  settles := label_settles what hp.settles
  done h := by
    obtain ⟨c, t, hsplit, hc, hall, hstops, hagain⟩ := hp.done (label_eq_done.mp h)
    exact ⟨c, t, hsplit, hc, hall, hstops, fun rest' hrest => label_eq_done.mpr (hagain rest' hrest)⟩

theorem numeral_give (g : α → β) (hp : Numeral ends p) :
    Numeral ends (p >>= fun a => Pure.pure (g a)) where
  settles := bind_settles hp.settles fun _ => pure_settles _
  done h := by
    obtain ⟨a, mid, ha, hdone⟩ := bind_eq_done.mp h
    obtain ⟨rfl, rfl⟩ := pure_eq_done.mp hdone
    obtain ⟨c, t, hsplit, hc, hall, hstops, hagain⟩ := hp.done ha
    exact ⟨c, t, hsplit, hc, hall, hstops, fun rest' hrest =>
      bind_eq_done.mpr ⟨a, rest', hagain rest' hrest, rfl⟩⟩

/-- Digits with an optional fraction. A point without a digit behind it is left. -/
theorem numeral_decimal (g : List Char → Option (List Char) → β) : Numeral isDecimalChar (do
    let whole ← digits
    let fraction ← optional (do
      let _ ← char '.'
      digits)
    return g whole fraction) where
  settles := bind_settles (takeWhile1_settles _) fun _ => bind_settles (optional_settles
    (bind_settles (char_settles _) fun _ => takeWhile1_settles _)) fun _ => pure_settles _
  done h := by
    obtain ⟨whole, mid, hwhole, hmore⟩ := bind_eq_done.mp h
    obtain ⟨fraction, left, hfraction, hdone⟩ := bind_eq_done.mp hmore
    obtain ⟨rfl, rfl⟩ := pure_eq_done.mp hdone
    obtain ⟨c, t, rfl, hc, hall, hstops, hagain⟩ := numeral_digits.done hwhole
    rcases optional_eq_done.mp hfraction with ⟨run, rfl, hread⟩ | ⟨rfl, rfl, -⟩
    · obtain ⟨_, behind, hpoint, hrun⟩ := bind_eq_done.mp hread
      obtain ⟨rfl, rfl⟩ := char_eq_done.mp hpoint
      obtain ⟨d, u, rfl, hd, hall', hstops', hagain'⟩ := numeral_digits.done hrun
      refine ⟨c, t ++ '.' :: d :: u, by simp, hc, ?_, hstops', fun rest' hrest => ?_⟩
      · rw [List.all_append, List.all_cons, List.all_cons, hall, hall', isNumeralChar_of_begins hd]
        rfl
      · have hdigit : Stops Text.isDigit rest' := hrest.mono fun e he => by simp [isDecimalChar, he]
        refine bind_eq_done.mpr ⟨whole, '.' :: d :: u ++ rest', ?_, ?_⟩
        · simpa using hagain ('.' :: d :: u ++ rest') (stops_cons rfl)
        · refine bind_eq_done.mpr ⟨some run, rest', optional_some ?_, rfl⟩
          exact bind_eq_done.mpr ⟨'.', _, char_eq_done.mpr ⟨rfl, rfl⟩, hagain' rest' hdigit⟩
    · refine ⟨c, t, rfl, hc, hall, hstops, fun rest' hrest => ?_⟩
      have hdigit : Stops Text.isDigit rest' := hrest.mono fun e he => by simp [isDecimalChar, he]
      refine bind_eq_done.mpr ⟨whole, rest', hagain rest' hdigit, ?_⟩
      refine bind_eq_done.mpr ⟨none, rest', optional_none (bind_fails.mpr (.inl ?_)), rfl⟩
      refine char_fails fun hpoint => ?_
      have hstop := hrest '.' hpoint
      simp [isDecimalChar] at hstop

theorem numeral_signed {sign : Parser Char} {accepts : Char → Bool} (hsettles : Settles sign)
    (hsign : ∀ {s c rest}, sign s = .done c rest ↔ s = c :: rest ∧ accepts c = true)
    (haccepts : ∀ c, accepts c = true → c ∈ ['+', '-']) {f : Option Char → Parser β}
    (hf : ∀ o, Numeral ends (f o)) : Numeral ends (optional sign >>= f) where
  settles := bind_settles (optional_settles hsettles) fun o => (hf o).settles
  done h := by
    obtain ⟨o, mid, hoptional, hread⟩ := bind_eq_done.mp h
    obtain ⟨c, t, rfl, hc, hall, hstops, hagain⟩ := (hf o).done hread
    rcases optional_eq_done.mp hoptional with ⟨d, rfl, hs⟩ | ⟨rfl, rfl, hfails⟩
    · obtain ⟨rfl, hd⟩ := hsign.mp hs
      refine ⟨d, c :: t, rfl, ?_, ?_, hstops, fun rest' hrest => ?_⟩
      · simp only [beginsNumeral, Bool.or_eq_true]
        exact .inr (by simpa using haccepts d hd)
      · rw [List.all_cons, isNumeralChar_of_begins hc, hall]
        rfl
      · exact bind_eq_done.mpr ⟨some d, c :: t ++ rest', optional_some (hsign.mpr ⟨rfl, hd⟩),
          hagain rest' hrest⟩
    · refine ⟨c, t, rfl, hc, hall, hstops, fun rest' hrest => ?_⟩
      refine bind_eq_done.mpr ⟨none, c :: t ++ rest', optional_none ?_, hagain rest' hrest⟩
      refine (hsettles _).resolve_left ?_
      rintro ⟨d, left, hd⟩
      obtain ⟨hsplit, hd⟩ := hsign.mp hd
      obtain ⟨rfl, -⟩ := List.cons.inj hsplit
      exact hfails.not_done (hsign.mpr ⟨rfl, hd⟩)

theorem numeral_integer : Numeral Text.isDigit integer := by
  have hminus : ∀ {s : List Char} {c : Char} {rest : List Char},
      char '-' s = .done c rest ↔ s = c :: rest ∧ (c == '-') = true := by
    intro s c rest
    rw [char_eq_done]
    grind
  exact numeral_filterMap _ (numeral_signed (char_settles _) hminus (by simp) fun _ =>
    numeral_give _ numeral_digits)

theorem numeral_natural : Numeral Text.isDigit natural := numeral_filterMap _ numeral_digits

theorem Numeral.begins (hp : Numeral ends p) {a : α} (hread : lexeme p s = .done a rest)
    (hc : (skipBlank s).head? = some c) : beginsNumeral c = true := by
  obtain ⟨d, t, hsplit, hd, -⟩ := hp.done hread
  obtain rfl : d = c := by simpa [hsplit] using hc
  exact hd

theorem Numeral.shortens (hp : Numeral ends p) : Shortens p := by
  intro s a rest hread
  obtain ⟨c, t, rfl, -⟩ := hp.done hread
  simp only [List.length_append, List.length_cons]
  omega

end Parser

section Tokens

variable {α : Type} {p : Parser α} {ends : Char → Bool}

/-- From a place where no point is in front, a reader may go on. -/
theorem open_point (hpoint : '.' ∈ bad) (h : (inFront n bad T T').Open s) : s.head? ≠ some '.' := by
  intro heq
  obtain ⟨more, rfl⟩ := List.head?_eq_some_iff.mp heq
  refine h.2 '.' ?_ hpoint
  rw [skipBlank_of_head rfl (by decide)]
  rfl

theorem copies_numeral (h : Tails T T') (hp : Numeral ends p)
    (hends : ∀ c, ends c = true → isDecimalChar c = true) (hpoint : '.' ∈ bad) :
    Copies (inFront n bad T T') p p := by
  refine copies_of_text fun s a rest hread => ?_
  obtain ⟨c, t, rfl, -, -, hstops, hagain⟩ := hp.done hread
  refine ⟨c :: t, rfl, ?_⟩
  rintro y rfl hopen
  refine hagain _ (Stops.mono (fun d hd => ?_) hends)
  have hdigit : Text.isDigit d = false := (h.stops (by decide) y).mp hstops d hd
  have hne : d ≠ '.' := by
    rintro rfl
    exact h.head_ne (by decide) (open_point hpoint hopen) hd
  simp [isDecimalChar, hdigit, hne]

theorem not_barred_of_begins (h : beginsNumeral c = true) : c ∉ barred := by
  intro hbarred
  simp only [barred, List.mem_cons, List.not_mem_nil, or_false] at hbarred
  rcases hbarred with rfl | rfl | rfl <;> simp [beginsNumeral, Text.isDigit] at h

theorem tracks_numeral (h : Tails T T') (hp : Numeral ends p) (hadvances : Advances p)
    (hends : ∀ c, ends c = true → isDecimalChar c = true) :
    Tracks (inFront n barred T T') (lexeme p) (lexeme p) id :=
  tracks_lexeme h hash_mem_barred (advances_lexeme hadvances) (shortens_lexeme hp.shortens)
    (fun _ _ _ hread _ hc => not_barred_of_begins (hp.begins hread hc))
    (copies_numeral h hp hends (by decide))

theorem isNumeralChar_of_isLetter (h : Text.isLetter c = true) : isNumeralChar c = false := by
  have hdigit : Text.isDigit c = false := by
    cases hdigit : Text.isDigit c with
    | false => rfl
    | true => simp [Text.isLetter_of_isDigit hdigit] at h
  have hsign : ∀ d ∈ ['+', '-', '.'], c ≠ d := by
    rintro d hd rfl
    simp only [List.mem_cons, List.not_mem_nil, or_false] at hd
    rcases hd with rfl | rfl | rfl <;> simp [Text.isLetter, Text.isLower, Text.isUpper] at h
  simp only [isNumeralChar, hdigit, Bool.false_or, List.contains_eq_mem, decide_eq_false_iff_not]
  exact fun hmem => hsign c hmem rfl

theorem spares_numeral (h : Stem T T') (hp : Numeral Text.isDigit p) :
    Spares (inFront n barred T T') (lexeme p) (lexeme p) := by
  intro s s' hs hopen hfails
  rcases inFront_skip h.tails hash_mem_barred hs hopen with ⟨y, hy, hy', -⟩ | ⟨-, hnil, -⟩
  · change Fails p (skipBlank s')
    refine (hp.settles _).resolve_left ?_
    rintro ⟨a, rest, hread⟩
    rw [hy'] at hread
    obtain ⟨c, t, hsplit, hc, hall, hstops, hagain⟩ := hp.done hread
    have hfront : ∃ z, y = c :: t ++ z ∧ rest = z ++ T' := by
      rcases List.append_eq_append_iff.mp hsplit with ⟨more, hmore, hrest⟩ | ⟨z, hz, hrest⟩
      · cases more with
        | nil => exact ⟨[], by simpa using hmore.symm, by simpa using hrest.symm⟩
        | cons d more =>
          have hd : isNumeralChar d = true := by
            have hmem : d ∈ c :: t := by simp [hmore]
            rcases List.mem_cons.mp hmem with rfl | hmem
            · exact isNumeralChar_of_begins hc
            · exact List.all_eq_true.mp hall d hmem
          rcases h.tails.head with ⟨hnil, -⟩ | ⟨e, front, front', -, heq, hletter⟩
          · exact absurd hnil h.ne_nil
          · obtain rfl : e = d := by
              rw [heq] at hrest
              simpa using (List.cons.inj hrest).1
            simp [isNumeralChar_of_isLetter hletter] at hd
      · exact ⟨z, hz, hrest⟩
    obtain ⟨z, rfl, rfl⟩ := hfront
    refine absurd (?_ : _ = Result.done a (z ++ T)) hfails.not_done
    rw [lexeme, hy, List.append_assoc]
    exact hagain _ ((h.tails.stops (by decide) z).mpr hstops)
  · exact absurd hnil h.ne_nil

theorem agree_numeral (h : Stem T T') (hp : Numeral Text.isDigit p) (hadvances : Advances p) :
    Agree (inFront n barred T T') (lexeme p) (lexeme p) id :=
  ⟨tracks_numeral h.tails hp hadvances fun c hc => by simp [isDecimalChar, hc], spares_numeral h hp⟩

end Tokens

end ListingGrid.Grammar
