import ListingGrid.Proofs.Grammar.InFront
import ListingGrid.Proofs.Grammar.Lexemes

/-!
# Words in front of what sets them apart

A reader of words looks no further than the characters that a word may hold. In front of a
word that goes on in neither of two texts, it gives the same in both or fails in both, even
where it takes that word itself. Keywords are such readers as well, although they are
compared with more characters than they may take in.
-/

set_option autoImplicit false

namespace ListingGrid.Grammar

open ListingGrid.Grammar.Parser

variable {U V z s s' rest T T' : List Char} {n : Nat}

/-- What no word goes on with: there is something, no word character and not the sign for
kelvin, whose lower case is a letter. -/
structure EndsWord (U : List Char) : Prop where
  ne_nil : U ≠ []
  word : Stops Text.isWordChar U
  kelvin : U.head? ≠ some kelvin

namespace Parser

variable {α β : Type} {p q : Parser α}

structure Worded (p : Parser α) : Prop where
  settles : Settles p
  done {U V z rest : List Char} {a : α} (hU : EndsWord U) (hV : EndsWord V)
    (h : p (z ++ U) = .done a rest) : ∃ z', rest = z' ++ U ∧ p (z ++ V) = .done a (z' ++ V)

theorem Worded.fails (hp : Worded p) (hU : EndsWord U) (hV : EndsWord V)
    (h : Fails p (z ++ U)) : Fails p (z ++ V) := by
  refine (hp.settles _).resolve_left ?_
  rintro ⟨a, rest, hread⟩
  obtain ⟨z', -, hread'⟩ := hp.done hV hU hread
  exact h.not_done hread'

theorem worded_map (f : α → β) (hp : Worded p) : Worded (map f p) where
  settles := map_settles f hp.settles
  done hU hV h := by
    obtain ⟨a, ha, hb⟩ := map_eq_done.mp h
    obtain ⟨z', hrest, ha'⟩ := hp.done hU hV ha
    exact ⟨z', hrest, map_eq_done.mpr ⟨a, ha', hb⟩⟩

theorem worded_filterMap (f : α → Option β) (hp : Worded p) : Worded (filterMap p f) where
  settles := filterMap_settles f hp.settles
  done hU hV h := by
    obtain ⟨a, ha, hb⟩ := filterMap_eq_done.mp h
    obtain ⟨z', hrest, ha'⟩ := hp.done hU hV ha
    exact ⟨z', hrest, filterMap_eq_done.mpr ⟨a, ha', hb⟩⟩

theorem worded_label (what : String) (hp : Worded p) : Worded (label what p) where
  settles := label_settles what hp.settles
  done hU hV h := by
    obtain ⟨z', hrest, ha⟩ := hp.done hU hV (label_eq_done.mp h)
    exact ⟨z', hrest, label_eq_done.mpr ha⟩

theorem worded_or (hp : Worded p) (hq : Worded q) : Worded (or p q) where
  settles := or_settles hp.settles hq.settles
  done hU hV h := by
    rcases or_eq_done.mp h with h | ⟨hfails, h⟩
    · obtain ⟨z', hrest, ha⟩ := hp.done hU hV h
      exact ⟨z', hrest, or_eq_done.mpr (.inl ha)⟩
    · obtain ⟨z', hrest, ha⟩ := hq.done hU hV h
      exact ⟨z', hrest, or_eq_done.mpr (.inr ⟨hp.fails hU hV hfails, ha⟩)⟩

/-- A run of word characters ends in front of what ends a word. -/
theorem exists_of_run {run : List Char} (hU : EndsWord U) (hrun : run.all Text.isWordChar = true)
    (h : z ++ U = run ++ rest) : ∃ z', z = run ++ z' ∧ rest = z' ++ U := by
  rcases List.append_eq_append_iff.mp h with ⟨more, rfl, hmore⟩ | ⟨z', hz, hrest⟩
  · cases more with
    | nil => exact ⟨[], by simp, by simpa using hmore.symm⟩
    | cons c more =>
      have hc : Text.isWordChar c = true := List.all_eq_true.mp hrun c (by simp)
      simp [hU.word c (by rw [hmore]; rfl)] at hc
  · exact ⟨z', hz, hrest⟩

/-- No word character is in front of what ends one word, or in front of what ends another. -/
theorem stops_again {accepts : Char → Bool} (hV : EndsWord V)
    (haccepts : ∀ c, accepts c = true → Text.isWordChar c = true) (h : Stops accepts (z ++ U)) :
    Stops accepts (z ++ V) := by
  cases z with
  | cons c z => exact h
  | nil => exact Stops.mono hV.word haccepts

theorem worded_identifier : Worded identifier where
  settles := identifier_settles
  done hU hV h := by
    obtain ⟨hsplit, hname, hstops⟩ := identifier_eq_done.mp h
    obtain ⟨z', rfl, rfl⟩ := exists_of_run hU hname.all hsplit
    refine ⟨z', rfl, ?_⟩
    rw [List.append_assoc]
    exact identifier_append hname (stops_again hV (fun _ => id) hstops)

theorem splitBytes?_again {taken : List Char} {size : Nat} (hsize : size ≤ z.length)
    (h : splitBytes? (z ++ U) size = some (taken, rest)) :
    ∃ z', rest = z' ++ U ∧ ∀ V, splitBytes? (z ++ V) size = some (taken, z' ++ V) := by
  induction z generalizing size taken with
  | nil =>
    obtain rfl : size = 0 := by simpa using hsize
    obtain ⟨rfl, rfl⟩ : taken = [] ∧ U = rest := by simpa [splitBytes?, eq_comm] using h
    exact ⟨[], rfl, fun V => by simp [splitBytes?]⟩
  | cons c z ih =>
    cases size with
    | zero =>
      obtain ⟨rfl, rfl⟩ : taken = [] ∧ c :: z ++ U = rest := by simpa [splitBytes?, eq_comm] using h
      exact ⟨c :: z, rfl, fun V => by simp [splitBytes?]⟩
    | succ size =>
      simp only [List.cons_append, splitBytes?] at h ⊢
      split at h
      · next hc =>
        obtain ⟨⟨front, left⟩, hfront, hpair⟩ := Option.map_eq_some_iff.mp h
        obtain ⟨rfl, rfl⟩ : c :: front = taken ∧ left = rest := by simpa using hpair
        have hpositive := Char.utf8Size_pos c
        simp only [List.length_cons] at hsize
        obtain ⟨z', hrest, hagain⟩ := ih (by omega) hfront
        refine ⟨z', hrest, fun V => ?_⟩
        rw [if_pos hc, hagain V]
        rfl
      · simp at h

theorem zip_append_of_le {text : List Char} (h : text.length ≤ z.length) (U : List Char) :
    (z ++ U).zip text = z.zip text := by
  induction text generalizing z with
  | nil => simp
  | cons c text ih =>
    cases z with
    | nil => simp at h
    | cons d z =>
      simp only [List.cons_append, List.zip_cons_cons, List.length_cons] at h ⊢
      rw [ih (by omega)]

/-- A keyword does not reach into what ends a word: no character of it could stand there. -/
theorem length_le_of_same {text : List Char} (hU : EndsWord U)
    (htext : text.all Text.isWordChar = true)
    (h : ((z ++ U).zip text).all (fun (c, letter) => sameLetter c letter) = true) :
    text.length ≤ z.length := by
  induction z generalizing text with
  | nil =>
    cases text with
    | nil => simp
    | cons letter text =>
      cases U with
      | nil => exact absurd rfl hU.ne_nil
      | cons c U =>
        have hword : Text.isWordChar c = false := hU.word c rfl
        have hkelvin : c ≠ kelvin := fun heq => hU.kelvin (by rw [heq]; rfl)
        simp only [List.nil_append, List.zip_cons_cons, List.all_cons, Bool.and_eq_true,
          sameLetter, beq_eq_false_iff_ne.mpr hkelvin, Bool.false_and, Bool.or_false,
          beq_iff_eq] at h htext
        rw [Text.caseless_isWordChar.apply h.1, htext.1] at hword
        simp at hword
  | cons c z ih =>
    cases text with
    | nil => simp
    | cons letter text =>
      simp only [List.cons_append, List.zip_cons_cons, List.all_cons, Bool.and_eq_true] at h htext
      have hle := ih htext.2 h.2
      simp only [List.length_cons]
      omega

theorem worded_word {name : String} (hname : name.toList.all Text.isWordChar = true) :
    Worded (do
      let _ ← word name.toList
      notFollowedBy Text.isWordChar) where
  settles := bind_settles (word_settles _) fun _ => notFollowedBy_settles _
  done {U V z rest _} hU hV h := by
    obtain ⟨taken, mid, hword, hends⟩ := bind_eq_done.mp h
    obtain ⟨rfl, hstops⟩ := stops_of_notFollowedBy hends
    unfold word at hword
    split at hword
    · next front left hsplit =>
      split at hword
      · next hsame =>
        obtain ⟨rfl, rfl⟩ : front = taken ∧ left = mid := by simpa using hword
        have hle := length_le_of_same hU hname hsame
        obtain ⟨z', rfl, hagain⟩ := splitBytes?_again hle hsplit
        refine ⟨z', rfl, bind_eq_done.mpr ⟨front, z' ++ V, ?_, ?_⟩⟩
        · unfold word
          rw [hagain V]
          simp only
          rw [zip_append_of_le hle] at hsame ⊢
          rw [if_pos hsame]
        · exact notFollowedBy_done (stops_again hV (fun _ => id) hstops)
      · simp at hword
    · simp at hword

end Parser

inductive Stem : List Char → List Char → Prop where
  | intro {word U V : List Char} (hword : word.all Text.isLetter = true) (hne : word ≠ [])
    (hU : EndsWord U) (hV : EndsWord V) (hapart : Apart V) : Stem (word ++ U) (word ++ V)

theorem Stem.tails (h : Stem T T') : Tails T T' := by
  cases h with
  | intro hword hne hU hV hapart => exact .stem hword hne hU.word hapart

theorem Stem.ne_nil (h : Stem T T') : T ≠ [] := by
  cases h with
  | intro _ hne => simp [hne]

def barred : List Char := ['#', '.', ',']

theorem hash_mem_barred : '#' ∈ barred := by decide

section Tokens

variable {α : Type} {p : Parser α}

/-- What stands in front of a stem is read in front of the other one. -/
theorem worded_again (h : Stem T T') {x : List Char} {a : α} (hp : Worded p)
    (hadvances : Advances p) (hread : p (x ++ T) = .done a rest) (hrest : T.length ≤ rest.length) :
    ∃ y, rest = y ++ T ∧ y.length ≤ x.length ∧ p (x ++ T') = .done a (y ++ T') := by
  have hsuffix := hadvances.suffix hread
  cases h with
  | @intro word U V _ _ hU hV _ =>
    rw [← List.append_assoc] at hread
    obtain ⟨z', rfl, hread'⟩ := hp.done hU hV hread
    have hz : z' <:+ x ++ word := by
      obtain ⟨t, ht⟩ := hsuffix
      have hboth : t ++ z' ++ U = x ++ word ++ U := by simpa using ht
      exact ⟨t, List.append_cancel_right hboth⟩
    have hword : word <:+ z' := by
      refine List.suffix_of_suffix_length_le (List.suffix_append x word) hz ?_
      simpa using hrest
    obtain ⟨y, rfl⟩ := hword
    have hle := hz.length_le
    simp only [List.length_append] at hle
    exact ⟨y, by simp, by omega, by simpa using hread'⟩

def beginsWord (c : Char) : Bool := Text.isWordChar c || c == kelvin

theorem worded_head (hp : Worded p) (hshort : Shortens p) {a : α}
    (hread : lexeme p s = .done a rest) : ∃ c, (skipBlank s).head? = some c ∧ beginsWord c = true := by
  have hlt := hshort (skipBlank s) a rest hread
  cases hskip : skipBlank s with
  | nil => simp [hskip] at hlt
  | cons c more =>
    refine ⟨c, rfl, ?_⟩
    by_contra hc
    simp only [beginsWord, Bool.or_eq_true, beq_iff_eq, not_or, Bool.not_eq_true] at hc
    have hends : EndsWord (c :: more) := ⟨by simp, stops_cons hc.1, by simpa using hc.2⟩
    rw [lexeme, hskip] at hread
    obtain ⟨z', rfl, -⟩ := hp.done (z := []) hends hends hread
    rw [hskip, List.length_append] at hlt
    omega

theorem not_sign_of_beginsWord {c : Char} (h : beginsWord c = true) : c ∉ barred ∧ c ∉ joiners := by
  have hsigns : (barred ++ joiners).all (fun sign => !beginsWord sign) = true := by decide
  have hnone : c ∉ barred ++ joiners := fun hmem => by
    have hc := List.all_eq_true.mp hsigns c hmem
    simp [h] at hc
  exact ⟨fun hmem => hnone (List.mem_append_left _ hmem),
    fun hmem => hnone (List.mem_append_right _ hmem)⟩

theorem lexeme_begins (hp : Worded p) (hshort : Shortens p) : ∀ s a rest,
    lexeme p s = .done a rest → ∀ c, (skipBlank s).head? = some c → c ∉ barred := by
  intro s a rest hread c hc
  obtain ⟨d, hd, hword⟩ := worded_head hp hshort hread
  obtain rfl : d = c := by simpa [hd] using hc
  exact (not_sign_of_beginsWord hword).1

theorem tracks_worded (h : Stem T T') (hp : Worded p) (hadvances : Advances p)
    (hshort : Shortens p) : Tracks (inFront n barred T T') (lexeme p) (lexeme p) id := by
  refine tracks_lexeme h.tails hash_mem_barred (advances_lexeme hadvances) (shortens_lexeme hshort)
    (lexeme_begins hp hshort) ?_
  rintro _ _ a _ ⟨x, hx, rfl, rfl⟩ hread ⟨⟨_, y, hy, rfl, rfl⟩, -⟩
  obtain ⟨y', heq, -, hread'⟩ := worded_again h hp hadvances hread (by simp)
  obtain rfl := List.append_cancel_right heq
  exact ⟨_, hread', inFront_pair hy⟩

theorem spares_worded (h : Stem T T') (hp : Worded p) :
    Spares (inFront n barred T T') (lexeme p) (lexeme p) := by
  intro s s' hs hopen hfails
  rcases inFront_skip h.tails hash_mem_barred hs hopen with ⟨y, hy, hy', -⟩ | ⟨-, hnil, -⟩
  · have hfails' : Fails p (skipBlank s) := hfails
    rw [hy] at hfails'
    change Fails p (skipBlank s')
    rw [hy']
    cases h with
    | intro _ _ hU hV _ =>
      rw [← List.append_assoc] at hfails' ⊢
      exact hp.fails hU hV hfails'
  · exact absurd hnil h.ne_nil

end Tokens

theorem skips_stem (h : Stem T T') : Skips (inFront n barred T T') where
  pair hs hopen := by
    rcases inFront_skip h.tails hash_mem_barred hs hopen with ⟨-, -, -, -, hpair⟩ | ⟨-, hnil, -⟩
    · exact hpair
    · exact absurd hnil h.ne_nil
  isOpen s := by simp only [inFront, skipBlank_skipBlank]

theorem agree_worded {α : Type} {p : Parser α} (h : Stem T T') (hp : Worded p)
    (hadvances : Advances p) (hshort : Shortens p) :
    Agree (inFront n barred T T') (lexeme p) (lexeme p) id :=
  ⟨tracks_worded h hp hadvances hshort, spares_worded h hp⟩

section Words

variable (h : Stem T T') {name : String} (hname : IsKeyword name)

theorem worded_keyword (hname : IsKeyword name) : Worded (label name (do
    let _ ← word name.toList
    notFollowedBy Text.isWordChar)) := worded_label name (worded_word hname.2)

theorem advances_word_keyword : Advances (label name (do
    let _ ← word name.toList
    notFollowedBy Text.isWordChar)) :=
  advances_label name (advances_bind (advances_word _) fun _ => advances_notFollowedBy _)

theorem shortens_word_keyword (hname : IsKeyword name) : Shortens (label name (do
    let _ ← word name.toList
    notFollowedBy Text.isWordChar)) :=
  shortens_label name (shortens_bind (shortens_word hname.1) fun _ => advances_notFollowedBy _)

include h

theorem agree_name : Agree (inFront n barred T T') (lexeme identifier) (lexeme identifier) id :=
  agree_worded h worded_identifier advances_identifier shortens_identifier

include hname

theorem agree_keyword : Agree (inFront n barred T T') (keyword name) (keyword name) id :=
  agree_worded h (worded_keyword hname) advances_word_keyword (shortens_word_keyword hname)

/-- A keyword is read alike whatever stands behind it, be it a text that is no token. -/
theorem keyword_in_front (hs : (inFront n barred T T').Pair s s')
    (hread : keyword name s = .done () rest) (hrest : T.length ≤ rest.length) :
    (inFront n barred T T').Open s ∧ ∃ rest', keyword name s' = .done () rest' ∧
      (inFront n barred T T').Pair rest rest' := by
  obtain ⟨hopen, x, hx, hskip, hskip'⟩ := lexeme_in_front h.tails hash_mem_barred
    (shortens_keyword hname.1) (lexeme_begins (worded_keyword hname) (shortens_word_keyword hname))
    hs hread hrest
  have hword : (label name (do
      let _ ← word name.toList
      notFollowedBy Text.isWordChar)) (x ++ T) = .done () rest := hskip ▸ hread
  obtain ⟨y, rfl, hy, hread'⟩ :=
    worded_again h (worded_keyword hname) advances_word_keyword hword hrest
  refine ⟨hopen, y ++ T', ?_, inFront_pair (by omega)⟩
  rw [keyword, lexeme, hskip']
  exact hread'

end Words

/-- A comma goes on with a list, so none may stand behind it. -/
theorem tracks_quotedList (h : Stem T T') :
    Tracks (inFront n barred T T') quotedList quotedList id where
  advances := advances_quotedList
  done {s s' rest items} hs hread hrest := by
    obtain ⟨hpair, hopen⟩ := hrest
    have hcomma : (skipBlank rest).head? ≠ some ',' := fun heq => hopen.2 ',' heq (by decide)
    have hitem : Tracks (inFront n ['#'] T T') (map String.ofList (lexeme quoted))
        (map String.ofList (lexeme quoted)) id :=
      tracks_map (φ := id) (tracks_quoted h.tails (by simp) (by decide)) fun _ => rfl
    have hends : (inFront n ['#'] T T').Ends rest :=
      ⟨hpair, hopen.1, fun c hc hmem => hopen.2 c hc (by simp_all [barred])⟩
    obtain ⟨hstart, rest', hread', hlast⟩ := sepBy1_tracks (M := inFront n ['#'] T T')
      (tracks_char h.tails (by simp) (by decide)) hitem (shortens_lexeme (shortens_char ','))
      (shortens_lexeme (shortens_char ',')) hitem.advances hs hread hends fun rest' hlast _ =>
        bind_fails.mpr (.inl (spares_char h.tails (by simp) (fun hnil => absurd hnil h.ne_nil) hlast
          hends.2 (char_fails hcomma)))
    rw [List.map_id] at hread'
    refine ⟨⟨hstart.1, fun c hc => ?_⟩, rest', hread', hlast⟩
    obtain ⟨first, _, mid, hfirst, -⟩ := sepBy1_eq_done.mp hread
    obtain ⟨body, hbody, -⟩ := map_eq_done.mp hfirst
    have hquote : skipBlank s = '"' :: body ++ '"' :: mid := (quoted_eq_done hbody).1
    obtain rfl : '"' = c := by simpa [hquote] using hc
    decide

end ListingGrid.Grammar
