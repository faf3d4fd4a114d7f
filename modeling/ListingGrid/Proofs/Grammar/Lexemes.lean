import ListingGrid.Proofs.Grammar.Quoted
import ListingGrid.Proofs.Grammar.Tokens
import Mathlib.Data.List.Forall2

/-!
# Reading single tokens

Keywords are read in any case and left alone where another keyword stands. Names,
numbers and quoted texts are read as they stand.
-/

set_option autoImplicit false

namespace ListingGrid.Grammar

open ListingGrid.Grammar.Parser

variable {α : Type} {source s w rest : List Char} {c : Char} {name : String}
  {names : List String} {Next : List Token → Prop}

def IsKeyword (name : String) : Prop :=
  name.toList ≠ [] ∧ name.toList.all Text.isWordChar = true

instance (name : String) : Decidable (IsKeyword name) := by
  unfold IsKeyword
  infer_instance

theorem ascii_of_isWordChar (h : Text.isWordChar c = true) : c.toNat < 128 := by
  rcases Text.isWordChar_iff.mp h with hc | rfl
  · rw [Text.isAlphanumeric_iff, Text.isLetter_iff, Text.isLower_iff, Text.isUpper_iff,
      Text.isDigit_iff] at hc
    omega
  · decide

theorem IsKeyword.ascii (h : IsKeyword name) : ∀ c ∈ name.toList, c.toNat < 128 :=
  fun c hc => ascii_of_isWordChar (List.all_eq_true.mp h.2 c hc)

theorem IsKeyword.isLead (h : IsKeyword name) : IsLead name :=
  List.all_eq_true.mpr fun c hc => by simp [isLeadChar, List.all_eq_true.mp h.2 c hc]

theorem IsKeyword.ne_empty (h : IsKeyword name) : name ≠ "" :=
  fun hempty => h.1 (String.toList_eq_nil_iff.mpr hempty)

theorem IsKeyword.word_done (hname : IsKeyword name)
    (hw : Text.lowerAll w = Text.lowerAll name.toList) (hrest : Stops Text.isWordChar rest) :
    label name (do
      let _ ← word name.toList
      notFollowedBy Text.isWordChar) (w ++ rest) = .done () rest := by
  refine label_eq_done.mpr (bind_eq_done.mpr ⟨w, rest, word_append hname.ascii hw rest, ?_⟩)
  exact notFollowedBy_done hrest

/-- A word that is read in front of blanks takes nothing of the blanks. -/
theorem splitBytes?_front {text taken left : List Char} (htext : text.all Text.isWordChar = true)
    (hascii : ∀ c ∈ w, c.utf8Size = 1) (hrest : Apart rest)
    (hsplit : splitBytes? (w ++ rest) text.length = some (taken, left))
    (hall : ((w ++ rest).zip text).all (fun (c, letter) => sameLetter c letter) = true) :
    ∃ behind, w = taken ++ behind ∧ left = behind ++ rest ∧
      Text.lowerAll taken = Text.lowerAll text := by
  induction text generalizing w taken with
  | nil =>
    obtain ⟨rfl, rfl⟩ : taken = [] ∧ left = w ++ rest := by
      simpa [splitBytes?, eq_comm] using hsplit
    exact ⟨w, rfl, rfl, rfl⟩
  | cons letter text ih =>
    rw [List.all_cons, Bool.and_eq_true] at htext
    cases w with
    | nil =>
      cases rest with
      | nil => simp [splitBytes?] at hsplit
      | cons c rest =>
        have hc : c ∈ [' ', '\t', '\r', '\n', '#'] := blank_cases (hrest c rfl)
        have hplain : Text.isWordChar c = false ∧ c ≠ kelvin := by
          simp only [List.mem_cons, List.not_mem_nil, or_false] at hc
          rcases hc with rfl | rfl | rfl | rfl | rfl <;> decide
        simp only [List.nil_append, List.zip_cons_cons, List.all_cons, Bool.and_eq_true] at hall
        have hsame : Text.lower c = Text.lower letter := by
          simpa [sameLetter, hplain.2] using hall.1
        have hword := Text.caseless_isWordChar.apply hsame
        rw [hplain.1, htext.1] at hword
        cases hword
    | cons c w =>
      obtain ⟨hsize, hmore⟩ := List.forall_mem_cons.mp hascii
      have hkelvin : c ≠ kelvin := by
        rintro rfl
        revert hsize
        decide
      simp only [List.cons_append, List.zip_cons_cons, List.all_cons, Bool.and_eq_true] at hall
      have hsame : Text.lower c = Text.lower letter := by
        simpa [sameLetter, hkelvin] using hall.1
      simp only [List.cons_append, List.length_cons, splitBytes?, hsize, Nat.le_add_left, if_true,
        Nat.add_sub_cancel, Option.map_eq_some_iff] at hsplit
      obtain ⟨⟨front, others⟩, hfront, hpair⟩ := hsplit
      obtain ⟨rfl, rfl⟩ : c :: front = taken ∧ others = left := by simpa using hpair
      obtain ⟨behind, rfl, hleft, hlower⟩ := ih htext.2 hmore hfront hall.2
      refine ⟨behind, rfl, hleft, ?_⟩
      simp only [Text.lowerAll, List.map_cons] at hlower ⊢
      rw [hsame, hlower]

/-- What a reader of a word takes in front of blanks is the front of what stands there. -/
theorem word_front {text taken left : List Char} (htext : text.all Text.isWordChar = true)
    (hascii : ∀ c ∈ w, c.utf8Size = 1) (hrest : Apart rest)
    (h : word text (w ++ rest) = .done taken left) :
    ∃ behind, w = taken ++ behind ∧ left = behind ++ rest ∧
      Text.lowerAll taken = Text.lowerAll text := by
  unfold word at h
  split at h
  · next front behind hsplit =>
    split at h
    · next hall =>
      obtain ⟨rfl, rfl⟩ : front = taken ∧ behind = left := by simpa using h
      exact splitBytes?_front htext hascii hrest hsplit hall
    · simp at h
  · simp at h

/-- The characters of a name are of one byte each, in any case. -/
theorem IsLead.ascii (h : IsLead name) (hw : Text.lowerAll w = Text.lowerAll name.toList) :
    ∀ c ∈ w, c.utf8Size = 1 := by
  have hall : w.all isLeadChar = true := (caseless_isLeadChar.all hw).trans h
  intro c hc
  have hchar : isLeadChar c = true := List.all_eq_true.mp hall c hc
  have hlt : c.toNat < 128 := by
    simp only [isLeadChar, Bool.or_eq_true, beq_iff_eq] at hchar
    rcases hchar with hword | rfl | rfl
    · exact ascii_of_isWordChar hword
    · decide
    · decide
  exact utf8Size_of_lower hlt rfl

def Differs (name other : String) : Prop :=
  IsLead other ∧ Text.lowerAll other.toList ≠ Text.lowerAll name.toList ∧
    (other.toList.all Text.isWordChar = true ∨ other.toList.length ≤ 1)

instance (name other : String) : Decidable (Differs name other) := by
  unfold Differs
  infer_instance

theorem keyword_misses (hname : IsKeyword name) (h : ∀ other ∈ names, Differs name other) :
    Misses (keyword name) names := by
  intro other hother s w rest hskip hw hrest
  obtain ⟨hlead, hne, hplain⟩ := h other hother
  rw [keyword, Fails, lexeme, hskip]
  refine label_fails.mpr (bind_fails.mpr ?_)
  rcases word_settles name.toList (w ++ rest) with ⟨taken, left, hdone⟩ | hfails
  · obtain ⟨others, rfl, rfl, hlower⟩ := word_front hname.2 (hlead.ascii hw) hrest hdone
    refine .inr ⟨taken, _, hdone, ?_⟩
    cases others with
    | nil =>
      rw [List.append_nil] at hw
      exact absurd (hw.symm.trans hlower) hne
    | cons d others =>
      refine notFollowedBy_fails ?_
      rcases hplain with hword | hshort
      · rw [← Text.caseless_isWordChar.all hw] at hword
        exact List.all_eq_true.mp hword d (by simp)
      · -- What was read has a letter already, and the name has no other.
        have hlength := Text.length_of_lowerAll hw
        have hfront := Text.length_of_lowerAll hlower
        have hpos := List.length_pos_iff.mpr hname.1
        simp only [List.length_append, List.length_cons] at hlength
        omega
  · exact .inl hfails

theorem Reads.keyword (hname : IsKeyword name) :
    Reads source (keyword name) [.word name] Next (Only ()) := by
  refine Reads.lexeme (fun _ => rfl) ?_ ?_
  · rintro w ⟨hw⟩
    exact begins_of_lead hname.isLead hname.ne_empty hw
  · rintro w rest ⟨hw⟩ hrest
    exact hname.word_done hw (hrest.stops_of (by decide))

theorem Reads.kind {p : Parser α} {a : α} (hlead : IsLead name) (hne : name ≠ "")
    (hread : ∀ w rest, Text.lowerAll w = Text.lowerAll name.toList → Apart rest →
      p (w ++ rest) = .done a rest) :
    Reads source (Grammar.lexeme p) [.kind name] Next (Single a) := by
  intro others s lines _ hs
  have hcase : ∀ {w}, Spells (.kind name) w → Text.lowerAll w = Text.lowerAll name.toList :=
    fun hw => spells_lower hw hne
  obtain ⟨w, rest, after, hskip, hw, hapart, hshort, hlines, hrest⟩ :=
    hs.next fun _ hw => begins_of_lead hlead hne (hcase hw)
  refine ⟨a, _, rest, after, ?_, ⟨rfl, rfl⟩, hlines, hshort, hrest⟩
  rw [Grammar.lexeme, hskip]
  exact hread w rest (hcase hw) hapart

theorem Reads.kindKeyword (hname : IsKeyword name) :
    Reads source (Grammar.keyword name) [.kind name] Next (Single ()) :=
  Reads.kind hname.isLead hname.ne_empty fun _ _ hw hrest =>
    hname.word_done hw (hrest.stops_of (by decide))

/-- A reader of characters misses the names that begin with none of them. -/
theorem stops_of_lead {accepts : Char → Bool} (hcase : Text.Caseless accepts)
    (hblank : [' ', '\t', '\r', '\n', '#'].all (fun c => !accepts c) = true)
    (hname : ∀ c, name.toList.head? = some c → accepts c = false)
    (hw : Text.lowerAll w = Text.lowerAll name.toList) (hrest : Apart rest) :
    Stops accepts (w ++ rest) := by
  intro c hc
  cases w with
  | nil => exact hrest.stops_of hblank c hc
  | cons d others =>
    obtain ⟨letter, hletter, hlower⟩ := Text.head_of_lowerAll hw hc
    rw [hcase.apply hlower]
    exact hname letter hletter

theorem lexeme_misses {p : Parser α}
    (h : ∀ name ∈ names, ∀ w rest, Text.lowerAll w = Text.lowerAll name.toList → Apart rest →
      Fails p (w ++ rest)) : Misses (lexeme p) names := by
  intro name hname s w rest hskip hw hrest
  rw [Fails, lexeme, hskip]
  exact h name hname w rest hw hrest

theorem Misses.lexeme {p : Parser α} (h : Misses p names) : Misses (Grammar.lexeme p) names :=
  fun name hname s w rest hskip hw hrest =>
    h name hname (skipBlank s) w rest (by rw [skipBlank_skipBlank, hskip]) hw hrest

theorem char_misses (hletter : Text.isLetter c = false)
    (hblank : [' ', '\t', '\r', '\n', '#'].all (· != c) = true)
    (h : ∀ name ∈ names, name.toList.head? ≠ some c) : Misses (lexeme (char c)) names := by
  refine lexeme_misses fun name hname w rest hw hrest => char_fails fun hc => ?_
  have hstops := stops_of_lead (Text.caseless_beq hletter) hblank ?_ hw hrest
  · simpa using hstops c hc
  · intro d hd
    refine beq_eq_false_iff_ne.mpr ?_
    rintro rfl
    exact h name hname hd

theorem bind_misses {β : Type} {p : Parser α} {f : α → Parser β} (h : Misses p names) :
    Misses (p >>= f) names :=
  fun name hname s w rest hskip hw hrest => bind_fails.mpr (.inl (h name hname s w rest hskip hw hrest))

theorem firstOf_misses {p : Parser α} {others : List (Parser α)} (hp : Misses p names)
    (h : ∀ q ∈ others, Misses q names) : Misses (firstOf p others) names :=
  fun name hname s w rest hskip hw hrest => firstOf_fails.mpr
    ⟨hp name hname s w rest hskip hw hrest, fun q hq => h q hq name hname s w rest hskip hw hrest⟩

def BeginsWith (p : Parser α) (name : String) : Prop :=
  ∀ names, (∀ other ∈ names, Differs name other) → Misses p names

theorem BeginsWith.bind {β : Type} {f : Unit → Parser β} (hname : IsKeyword name) :
    BeginsWith (keyword name >>= f) name :=
  fun _ h => bind_misses (keyword_misses hname h)

variable {p q : Parser α} {others : List (Parser α)} {keywords : List String}

theorem alternatives_miss (h : List.Forall₂ BeginsWith (p :: others) keywords)
    (hnames : ∀ key ∈ keywords, ∀ name ∈ names, Differs key name) :
    Misses (firstOf p others) names := by
  have hall : ∀ {parsers : List (Parser α)} {keywords : List String},
      List.Forall₂ BeginsWith parsers keywords →
      (∀ key ∈ keywords, ∀ name ∈ names, Differs key name) → ∀ q ∈ parsers, Misses q names := by
    intro parsers keywords h hnames
    induction h with
    | nil => simp
    | cons hp _ ih =>
      obtain ⟨hkey, hkeys⟩ := List.forall_mem_cons.mp hnames
      exact List.forall_mem_cons.mpr ⟨hp _ hkey, ih hkeys⟩
  obtain ⟨hp, hothers⟩ := List.forall_mem_cons.mp (hall h hnames)
  exact firstOf_misses hp hothers

/-- The alternative whose keyword the tokens begin with is read. -/
theorem Reads.alternative {ts : List Token} {P : α → List Nat → Prop} {key : String}
    (h : List.Forall₂ BeginsWith (p :: others) keywords) (hdiffers : keywords.Pairwise Differs)
    (i : Nat) (hq : (p :: others)[i]? = some q) (hkey : keywords[i]? = some key)
    (hlead : IsLead key) (hfirst : ∀ more, Next more → Follows [key] (ts ++ more))
    (hread : Reads source q ts Next P) : Reads source (firstOf p others) ts Next P := by
  induction i generalizing p others keywords with
  | zero =>
    obtain rfl : p = q := by simpa using hq
    exact hread.firstOf_head
  | succ i ih =>
    cases h with
    | @cons _ first _ keys hp hothers =>
      rw [List.pairwise_cons] at hdiffers
      rw [List.getElem?_cons_succ] at hq hkey
      cases others with
      | nil => simp at hq
      | cons r others =>
        have hmem : key ∈ keys := List.mem_of_getElem? hkey
        refine (ih hothers hdiffers.2 hq hkey).firstOf_tail hfirst (by simpa using hlead) ?_
        exact hp _ (by simpa using hdiffers.1 key hmem)

theorem Reads.exact {p : Parser α} {a : α} {text : List Char} (ht : BeginsToken text)
    (h : ∀ rest, Apart rest → p (text ++ rest) = .done a rest) :
    Reads source (Grammar.lexeme p) [.exact text] Next (Only a) := by
  refine Reads.lexeme (fun _ => rfl) ?_ ?_
  · rintro w ⟨⟩
    exact ht
  · rintro w rest ⟨⟩ hrest
    exact h rest hrest

theorem Reads.char (hc : isLeadChar c = true) :
    Reads source (Grammar.lexeme (Parser.char c)) [.exact [c]] Next (Only c) :=
  Reads.exact (begins_of_isLeadChar hc []) fun _ _ => char_eq_done.mpr ⟨rfl, rfl⟩

theorem isLeadChar_of_isWordChar (h : Text.isWordChar c = true) : isLeadChar c = true := by
  simp [isLeadChar, h]

theorem IsName.begins {text : List Char} (h : IsName text) : BeginsToken text := by
  obtain ⟨c, hc, hstart⟩ := h.head
  obtain ⟨others, rfl⟩ := List.head?_eq_some_iff.mp hc
  exact begins_of_isLeadChar (isLeadChar_of_isWordChar (isWordChar_of_startsName hstart)) others

theorem Reads.identifier {text : List Char} (h : IsName text) :
    Reads source (Grammar.lexeme Grammar.identifier) [.exact text] Next (Only text) :=
  Reads.exact h.begins fun _ hrest => identifier_append h (hrest.stops_of (by decide))

theorem caseless_startsName : Text.Caseless startsName :=
  Text.caseless_isLetter.or (Text.caseless_beq rfl)

def NamesKeyword (name : String) : Prop :=
  name.toList.head?.any startsName = true ∧ name.toList.all Text.isWordChar = true

instance (name : String) : Decidable (NamesKeyword name) := by
  unfold NamesKeyword
  infer_instance

theorem NamesKeyword.isName (h : NamesKeyword name)
    (hw : Text.lowerAll w = Text.lowerAll name.toList) : IsName w := by
  obtain ⟨c, hc, hstart⟩ := (Option.any_eq_true _ _).mp h.1
  refine ⟨?_, (Text.caseless_isWordChar.all hw).trans h.2⟩
  obtain ⟨d, hd, hlower⟩ := Text.head_of_lowerAll hw.symm hc
  exact ⟨d, hd, (caseless_startsName.apply hlower).symm.trans hstart⟩

theorem NamesKeyword.begins (h : NamesKeyword name)
    (hw : Text.lowerAll w = Text.lowerAll name.toList) : BeginsToken w := (h.isName hw).begins

theorem NamesKeyword.identifier_done (h : NamesKeyword name)
    (hw : Text.lowerAll w = Text.lowerAll name.toList) (hrest : Apart rest) :
    Grammar.identifier (w ++ rest) = .done w rest :=
  identifier_append (h.isName hw) (hrest.stops_of (by decide))

theorem identifier_fails_of_apart (hrest : Apart rest) : Fails Grammar.identifier rest :=
  identifier_fails (hrest.stops_of (by decide))

def quotedToken (text : String) : Token := .exact ('"' :: text.toList ++ ['"'])

theorem Reads.quoted {text : String} (h : IsQuotedBody text.toList) :
    Reads source (Grammar.lexeme Grammar.quoted) [quotedToken text] Next (Only text.toList) := by
  refine Reads.exact ⟨'"', rfl, by decide⟩ fun rest hrest => ?_
  have hquote : rest.head? ≠ some '"' := by
    intro hc
    have hblank := blank_cases (hrest _ hc)
    simp at hblank
  simpa using quoted_append h hquote

theorem Reads.text {text : String} (h : IsQuotedBody text.toList) :
    Reads source (Parser.map String.ofList (Grammar.lexeme Grammar.quoted)) [quotedToken text] Next
      (Only text) := by
  have hread : Reads source (Parser.map String.ofList (Grammar.lexeme Grammar.quoted)) _ Next
      (Only (String.ofList text.toList)) := (Reads.quoted h).only_map
  rwa [String.ofList_toList] at hread

def listTokens : List String → List Token
  | [] => []
  | text :: more => quotedToken text :: more.flatMap fun text => [.exact [','], quotedToken text]

theorem Reads.quotedList {items : List String} (hne : items ≠ [])
    (h : ∀ text ∈ items, IsQuotedBody text.toList) (hlead : ∀ name ∈ names, IsLead name)
    (hcomma : ∀ name ∈ names, name.toList.head? ≠ some ',') :
    Reads source quotedList (listTokens items) (Follows names) (Only items) := by
  cases items with
  | nil => exact absurd rfl hne
  | cons first more =>
    obtain ⟨hfirst, hmore⟩ := List.forall_mem_cons.mp h
    have hitems : Reads source (Parser.many (Grammar.lexeme (Parser.char ',') >>= fun _ =>
        Parser.map String.ofList (Grammar.lexeme Grammar.quoted)))
        (more.flatMap fun text => [.exact [','], quotedToken text]) (Follows names) (Only more) := by
      have heach : Each (fun text ts => [.exact [','], quotedToken text] = ts) more
          (more.flatMap fun text => [.exact [','], quotedToken text]) :=
        each_flatMap (fun _ => rfl) more
      refine Reads.mono (Reads.many (M := fun _ => True) (R := Only) heach ?_ ?_
        (fun _ _ => trivial) hlead (bind_misses (char_misses rfl (by decide) hcomma)))
        fun _ _ htogether => htogether.only
      · rintro text htext _ rfl
        exact (Reads.char (by decide)).step (Reads.text (hmore text htext))
      · rintro text _ others rfl
        exact ⟨by simp, trivial⟩
    unfold Grammar.quotedList sepBy1
    rw [moreBy_eq]
    exact (Reads.text hfirst).step hitems.only_give

end ListingGrid.Grammar
