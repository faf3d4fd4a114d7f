import ListingGrid.Proofs.Grammar.Reading

/-!
# Parsers go forward

Whatever the outcome, what a parser leaves of a text is an end of that text: the rest
behind what was read, or the place where reading failed. Each combinator keeps this, so
the place of a failure is a place in the source however deep the failure arose.
-/

set_option autoImplicit false

namespace ListingGrid.Grammar

/-- What is left of a text behind what was read, or where reading failed. -/
def Result.left {α : Type} : Result α → List Char
  | .done _ rest => rest
  | .fail failure | .abort failure => failure.rest

namespace Parser

variable {α β γ : Type}

/-- What the parser leaves of a text is an end of it, whatever the outcome. -/
def Advances (p : Parser α) : Prop := ∀ s, (p s).left <:+ s

theorem Advances.suffix {p : Parser α} (h : Advances p) {s rest : List Char} {a : α}
    (hread : p s = .done a rest) : rest <:+ s := by
  have hleft := h s
  rwa [hread] at hleft

theorem advances_pure (a : α) : Advances (pure a) := fun _ => List.suffix_rfl

theorem advances_bind {p : Parser α} {f : α → Parser β} (hp : Advances p)
    (hf : ∀ a, Advances (f a)) : Advances (p >>= f) := by
  intro s
  have hs := hp s
  change (bind p f s).left <:+ s
  unfold bind
  split
  · next a rest hread =>
    rw [hread] at hs
    exact (hf a rest).trans hs
  · next hread => rwa [hread] at hs
  · next hread => rwa [hread] at hs

theorem advances_map {p : Parser α} (f : α → β) (hp : Advances p) : Advances (map f p) := by
  intro s
  have hs := hp s
  unfold map
  split <;> simp_all [Result.left]

theorem advances_failing (reason : Reason) : Advances (failing reason : Parser α) :=
  fun _ => List.suffix_rfl

theorem further_eq (earlier later : Failure) :
    earlier.further later = earlier ∨ earlier.further later = later := by
  unfold Failure.further
  split
  · exact .inr rfl
  · exact .inl rfl

theorem advances_or {p q : Parser α} (hp : Advances p) (hq : Advances q) : Advances (or p q) := by
  intro s
  have hfirst := hp s
  have hsecond := hq s
  unfold or
  split
  · next earlier hread =>
    rw [hread] at hfirst
    split
    · next later hread' =>
      rw [hread'] at hsecond
      rcases further_eq earlier later with h | h
      · simpa only [h] using hfirst
      · simpa only [h] using hsecond
    · exact hsecond
  · exact hfirst

theorem advances_firstOf {p : Parser α} {others : List (Parser α)} (hp : Advances p)
    (ho : ∀ q ∈ others, Advances q) : Advances (firstOf p others) := by
  unfold firstOf
  induction others generalizing p with
  | nil => exact hp
  | cons q others ih =>
    exact ih (advances_or hp (ho q (by simp))) fun r hr => ho r (by simp [hr])

theorem advances_firmly {p : Parser α} (hp : Advances p) : Advances (firmly p) := by
  intro s
  have hs := hp s
  unfold firmly
  split
  · next hread => rwa [hread] at hs
  · exact hs

theorem label_rest (what : String) (s : List Char) (failure : Failure) :
    (failure.label what s).rest = failure.rest := by
  unfold Failure.label
  split <;> rfl

theorem advances_label {p : Parser α} (what : String) (hp : Advances p) :
    Advances (label what p) := by
  intro s
  have hs := hp s
  unfold label
  split
  · next hread => simpa only [Result.left, label_rest, hread] using hs
  · next hread => simpa only [Result.left, label_rest, hread] using hs
  · exact hs

theorem advances_optional {p : Parser α} (hp : Advances p) : Advances (optional p) := by
  intro s
  have hs := hp s
  unfold optional
  split
  · next hread => rwa [hread] at hs
  · exact List.suffix_rfl
  · next hread => rwa [hread] at hs

theorem advances_filterMap {p : Parser α} (f : α → Option β) (hp : Advances p) :
    Advances (filterMap p f) := by
  intro s
  have hs := hp s
  unfold filterMap
  split
  · next hread =>
    rw [hread] at hs
    split
    · exact hs
    · exact List.suffix_rfl
  · next hread => rwa [hread] at hs
  · next hread => rwa [hread] at hs

theorem advances_foldMany {p : Parser α} (f : β → α → β) (acc : β) (hp : Advances p) :
    Advances (foldMany p f acc) := by
  intro s
  fun_induction foldMany p f acc s with
  | case1 acc s a rest hread _ ih => exact ih.trans (hp.suffix hread)
  | case2 | case3 => exact List.suffix_rfl
  | case4 acc s failure hread =>
    have hs := hp s
    rwa [hread] at hs

theorem advances_many {p : Parser α} (hp : Advances p) : Advances (many p) :=
  advances_map _ (advances_foldMany _ _ hp)

theorem advances_many1 {p : Parser α} (hp : Advances p) : Advances (many1 p) :=
  advances_bind hp fun _ => advances_bind (advances_many hp) fun _ => advances_pure _

theorem advances_moreBy {separator : Parser γ} {p : Parser α} (hseparator : Advances separator)
    (hp : Advances p) : Advances (moreBy separator p) := by
  refine advances_many fun s => ?_
  have hs := hseparator s
  split
  · next mark rest hread =>
    rw [hread] at hs
    exact (hp rest).trans hs
  · next hread => rwa [hread] at hs
  · next hread => rwa [hread] at hs

theorem advances_sepBy1 {separator : Parser γ} {p : Parser α} (hseparator : Advances separator)
    (hp : Advances p) : Advances (sepBy1 separator p) :=
  advances_bind hp fun _ => advances_bind (advances_moreBy hseparator hp) fun _ => advances_pure _

theorem advances_sepBy {separator : Parser γ} {p : Parser α} (hseparator : Advances separator)
    (hp : Advances p) : Advances (sepBy separator p) :=
  advances_map _ (advances_optional (advances_sepBy1 hseparator hp))

def Shortens (p : Parser α) : Prop := ∀ s a rest, p s = .done a rest → rest.length < s.length

theorem shortens_bind {p : Parser α} {f : α → Parser β} (hp : Shortens p)
    (hf : ∀ a, Advances (f a)) : Shortens (p >>= f) := by
  intro s b rest h
  obtain ⟨a, mid, ha, hb⟩ := bind_eq_done.mp h
  have hrest := (hf a mid).length_le
  rw [hb] at hrest
  exact Nat.lt_of_le_of_lt hrest (hp s a mid ha)

/-- Behind a part that may take nothing, one that takes something. -/
theorem shortens_after {p : Parser α} {f : α → Parser β} (hp : Advances p)
    (hf : ∀ a, Shortens (f a)) : Shortens (p >>= f) := by
  intro s b rest h
  obtain ⟨a, mid, ha, hb⟩ := bind_eq_done.mp h
  have hmid := (hp s).length_le
  rw [ha] at hmid
  exact Nat.lt_of_lt_of_le (hf a mid b rest hb) hmid

theorem shortens_map {p : Parser α} {f : α → β} (hp : Shortens p) : Shortens (map f p) := by
  intro s b rest h
  obtain ⟨a, ha, -⟩ := map_eq_done.mp h
  exact hp s a rest ha

theorem shortens_filterMap {p : Parser α} {f : α → Option β} (hp : Shortens p) :
    Shortens (filterMap p f) := by
  intro s b rest h
  obtain ⟨a, ha, -⟩ := filterMap_eq_done.mp h
  exact hp s a rest ha

theorem shortens_label {p : Parser α} (what : String) (hp : Shortens p) :
    Shortens (label what p) :=
  fun s a rest h => hp s a rest (label_eq_done.mp h)

theorem shortens_or {p q : Parser α} (hp : Shortens p) (hq : Shortens q) : Shortens (or p q) := by
  intro s a rest h
  rcases or_eq_done.mp h with h | ⟨-, h⟩
  · exact hp s a rest h
  · exact hq s a rest h

theorem shortens_firstOf {p : Parser α} {others : List (Parser α)} (hp : Shortens p)
    (ho : ∀ q ∈ others, Shortens q) : Shortens (firstOf p others) := by
  unfold firstOf
  induction others generalizing p with
  | nil => exact hp
  | cons q others ih =>
    exact ih (shortens_or hp (ho q (by simp))) fun r hr => ho r (by simp [hr])

theorem shortens_satisfy (accepts : Char → Bool) : Shortens (satisfy accepts) := by
  intro s c rest h
  obtain ⟨rfl, -⟩ := satisfy_eq_done.mp h
  simp

theorem shortens_char (c : Char) : Shortens (char c) := by
  intro s d rest h
  obtain ⟨rfl, -⟩ := char_eq_done.mp h
  simp

theorem shortens_tag {text : List Char} (htext : text ≠ []) : Shortens (tag text) := by
  intro s t rest h
  obtain ⟨rfl, -⟩ := tag_eq_done.mp h
  have hpos := List.length_pos_iff.mpr htext
  simp only [List.length_append]
  omega

theorem shortens_takeWhile1 (accepts : Char → Bool) : Shortens (takeWhile1 accepts) := by
  intro s run rest h
  obtain ⟨rfl, hne, -⟩ := takeWhile1_eq_done.mp h
  have hpos := List.length_pos_iff.mpr hne
  simp only [List.length_append]
  omega

theorem advances_satisfy (accepts : Char → Bool) : Advances (satisfy accepts) := by
  intro s
  unfold satisfy
  split
  · split
    · exact List.suffix_cons _ _
    · exact List.suffix_rfl
  · exact List.suffix_rfl

theorem advances_char (c : Char) : Advances (char c) := by
  intro s
  unfold char
  split
  · split
    · exact List.suffix_cons _ _
    · exact List.suffix_rfl
  · exact List.suffix_rfl

theorem advances_oneOf (cs : List Char) : Advances (oneOf cs) := advances_satisfy _

theorem advances_tag (text : List Char) : Advances (tag text) := by
  intro s
  unfold tag
  split
  · exact List.drop_suffix _ _
  · exact List.suffix_rfl

theorem splitBytes?_append {s taken rest : List Char} {n : Nat}
    (h : splitBytes? s n = some (taken, rest)) : s = taken ++ rest := by
  fun_induction splitBytes? s n generalizing taken with
  | case1 =>
    obtain ⟨rfl, rfl⟩ : taken = [] ∧ _ = rest := by simpa using h
    rfl
  | case2 => simp at h
  | case3 c more n _ ih =>
    obtain ⟨⟨front, left⟩, hfront, hpair⟩ := Option.map_eq_some_iff.mp h
    obtain ⟨rfl, rfl⟩ : c :: front = taken ∧ left = rest := by simpa using hpair
    rw [ih hfront, List.cons_append]
  | case4 => simp at h

theorem advances_word (text : List Char) : Advances (word text) := by
  intro s
  unfold word
  split
  · next hsplit =>
    split
    · exact splitBytes?_append hsplit ▸ List.suffix_append _ _
    · exact List.suffix_rfl
  · exact List.suffix_rfl

theorem shortens_word {text : List Char} (htext : text ≠ []) : Shortens (word text) := by
  intro s taken rest h
  have hs := advances_word text s
  rw [h] at hs
  refine Nat.lt_of_le_of_ne hs.length_le fun hlength => ?_
  obtain rfl : rest = s := hs.eq_of_length hlength
  unfold word at h
  split at h
  · next front behind hsplit =>
    split at h
    · obtain ⟨rfl, rfl⟩ : front = taken ∧ behind = rest := by simpa using h
      obtain rfl : front = [] := by simpa using splitBytes?_append hsplit
      cases behind with
      | nil =>
        obtain ⟨letter, more, rfl⟩ := List.exists_cons_of_ne_nil htext
        simp [splitBytes?] at hsplit
      | cons c behind =>
        obtain ⟨letter, more, rfl⟩ := List.exists_cons_of_ne_nil htext
        simp [splitBytes?] at hsplit
    · simp at h
  · simp at h

theorem advances_takeWhile (accepts : Char → Bool) : Advances (takeWhile accepts) :=
  fun _ => List.dropWhile_suffix _

theorem advances_takeWhile1 (accepts : Char → Bool) : Advances (takeWhile1 accepts) := by
  intro s
  unfold takeWhile1
  split
  · exact List.suffix_rfl
  · exact List.dropWhile_suffix _

theorem advances_takeBetween (least most : Nat) (accepts : Char → Bool) :
    Advances (takeBetween least most accepts) := by
  intro s
  unfold takeBetween
  simp only
  split
  · exact List.suffix_rfl
  · exact List.drop_suffix _ _

theorem advances_notFollowedBy (accepts : Char → Bool) : Advances (notFollowedBy accepts) := by
  intro s
  unfold notFollowedBy
  split
  · split <;> exact List.suffix_rfl
  · exact List.suffix_rfl

theorem advances_ending : Advances ending := by
  intro s
  unfold ending
  split <;> exact List.suffix_rfl

end Parser

open ListingGrid.Grammar.Parser

variable {α : Type}

theorem skipFrom_suffix (s : List Char) (inComment : Bool) : skipFrom s inComment <:+ s := by
  fun_induction skipFrom s inComment with
  | case1 => exact List.suffix_rfl
  | case2 _ _ _ _ ih | case3 _ _ _ _ _ ih | case4 _ _ _ _ _ _ ih =>
    exact ih.trans (List.suffix_cons _ _)
  | case5 => exact List.suffix_rfl

theorem skipBlank_suffix (s : List Char) : skipBlank s <:+ s := skipFrom_suffix s false

theorem advances_blank : Advances blank := skipBlank_suffix

theorem advances_lexeme {p : Parser α} (hp : Advances p) : Advances (lexeme p) :=
  fun s => (hp (skipBlank s)).trans (skipBlank_suffix s)

theorem shortens_lexeme {p : Parser α} (hp : Shortens p) : Shortens (lexeme p) :=
  fun s a rest h => Nat.lt_of_lt_of_le (hp (skipBlank s) a rest h) (skipBlank_suffix s).length_le

theorem advances_restOfLine : Advances restOfLine := by
  intro s
  unfold restOfLine
  simp only
  split
  · exact List.dropWhile_suffix _
  · exact List.suffix_rfl
  · exact List.dropWhile_suffix _

theorem advances_keyword (name : String) : Advances (keyword name) :=
  advances_lexeme (advances_label name (advances_bind (advances_word _) fun _ =>
    advances_notFollowedBy _))

theorem shortens_keyword {name : String} (hname : name.toList ≠ []) : Shortens (keyword name) :=
  shortens_lexeme (shortens_label name (shortens_bind (shortens_word hname) fun _ =>
    advances_notFollowedBy _))

theorem shortens_identifier : Shortens identifier :=
  shortens_bind (shortens_satisfy _) fun _ => advances_bind (advances_takeWhile _) fun _ =>
    advances_pure _

theorem advances_identifier : Advances identifier :=
  advances_bind (advances_satisfy _) fun _ => advances_bind (advances_takeWhile _) fun _ =>
    advances_pure _

theorem advances_digits : Advances digits := advances_takeWhile1 _

theorem advances_integer : Advances integer :=
  advances_filterMap _ (advances_bind (advances_optional (advances_char _)) fun _ =>
    advances_bind advances_digits fun _ => advances_pure _)

theorem advances_natural : Advances natural := advances_filterMap _ advances_digits

theorem shortens_natural : Shortens natural := shortens_filterMap (shortens_takeWhile1 _)

theorem quotedBody_suffix (s : List Char) : (quotedBody s).2 <:+ s := by
  fun_induction quotedBody s with
  | case1 rest body after hread ih =>
    rw [hread] at ih
    exact ih.trans ((List.suffix_cons _ _).trans (List.suffix_cons _ _))
  | case2 c rest body after hread ih =>
    rw [hread] at ih
    exact ih.trans ((List.suffix_cons _ _).trans (List.suffix_cons _ _))
  | case3 => exact List.suffix_rfl
  | case4 c rest _ _ _ body after hread ih =>
    rw [hread] at ih
    exact ih.trans (List.suffix_cons _ _)
  | case5 => exact List.suffix_rfl

theorem advances_quoted : Advances quoted := by
  refine advances_bind (advances_char _) fun _ => ?_
  have hbody : Advances fun s => .done (quotedBody s).1 (quotedBody s).2 := quotedBody_suffix
  exact advances_bind hbody fun _ => advances_bind (advances_char _) fun _ => advances_pure _

theorem shortens_quoted : Shortens quoted := by
  refine shortens_bind (shortens_char _) fun _ => ?_
  have hbody : Advances fun s => .done (quotedBody s).1 (quotedBody s).2 := quotedBody_suffix
  exact advances_bind hbody fun _ => advances_bind (advances_char _) fun _ => advances_pure _

theorem advances_quotedList : Advances quotedList :=
  advances_sepBy1 (advances_lexeme (advances_char _))
    (advances_map _ (advances_lexeme advances_quoted))

end ListingGrid.Grammar
