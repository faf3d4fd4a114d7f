import ListingGrid.Proofs.Grammar.Blanks
import ListingGrid.Proofs.Grammar.Words
import ListingGrid.Text.Cut

/-!
# Tokens laid out in a source

A source writes tokens one after another, with blanks between them. Readers are
followed along the tokens: what a reader leaves is a source of the tokens that are left,
and the names that these may begin with decide where a repetition or an optional part
ends.
-/

set_option autoImplicit false

namespace ListingGrid.Grammar

open ListingGrid.Grammar.Parser

inductive Token where
  | word (name : String)
  | kind (name : String)
  | exact (text : List Char)
  | description (text : String)

inductive Spells : Token → List Char → Prop where
  | word {name : String} {w : List Char} (h : Text.lowerAll w = Text.lowerAll name.toList) :
    Spells (.word name) w
  | kind {name : String} {w : List Char} (h : Text.lowerAll w = Text.lowerAll name.toList) :
    Spells (.kind name) w
  | exact (text : List Char) : Spells (.exact text) text
  /-- White space stands around the text, which is set apart from the opening keyword. -/
  | description {text : String} {w before after : List Char}
    (hw : Text.lowerAll w = "description".toList) (hne : before ≠ [])
    (hbefore : before.all Text.isSpace = true) (hafter : after.all Text.isSpace = true) :
    Spells (.description text)
      (w ++ (before ++ text.toList ++ after) ++ "/description".toList)

/-- The lines that a token on the given line adds to the lines of fields. -/
def Token.lines (line : Nat) : Token → List Nat
  | .kind _ => [line]
  | _ => []

/-- Behind `before`, the text writes the tokens with blanks between them and perhaps behind
the last. The numbers are the lines on which fields begin. -/
inductive Laid : List Char → List Token → List Char → List Nat → Prop where
  | nil {before : List Char} : Laid before [] [] []
  | cons {before : List Char} {t : Token} {more : List Token} {w g rest : List Char}
    {lines : List Nat} (hw : Spells t w) (hg : Blanks g) (hgap : more ≠ [] → g ≠ [])
    (h : Laid (before ++ (w ++ g)) more rest lines) :
    Laid before (t :: more) (w ++ (g ++ rest)) (t.lines (Text.lineNumber before) ++ lines)

inductive Each {α : Type} (W : α → List Token → Prop) : List α → List Token → Prop where
  | nil : Each W [] []
  | cons {a : α} {items : List α} {ts more : List Token} (h : W a ts) (hmore : Each W items more) :
    Each W (a :: items) (ts ++ more)

variable {α β : Type} {source before s w rest : List Char} {t : Token} {ts more : List Token}
  {lines : List Nat}

def Ahead (source : List Char) (ts : List Token) (s : List Char) (lines : List Nat) : Prop :=
  ∃ before g text, source = before ++ s ∧ s = g ++ text ∧ Blanks g ∧
    Laid (before ++ g) ts text lines

theorem Laid.apart {g : List Char} (hg : Blanks g) (hgap : ts ≠ [] → g ≠ [])
    (h : Laid before ts s lines) : Apart (g ++ s) := by
  by_cases hne : g = []
  · subst hne
    cases h with
    | nil => exact fun c hc => by simp at hc
    | cons => exact absurd rfl (hgap (by simp))
  · exact hg.apart hne s

theorem Ahead.next (h : Ahead source (t :: more) s lines) (ht : ∀ w, Spells t w → BeginsToken w) :
    ∃ w rest after, skipBlank s = w ++ rest ∧ Spells t w ∧ Apart rest ∧
      rest.length < s.length ∧
      lines = t.lines (Text.lineNumber (source.take (source.length - (skipBlank s).length))) ++
        after ∧
      Ahead source more rest after := by
  obtain ⟨before, g, _, hsource, rfl, hg, hlaid⟩ := h
  cases hlaid with
  | @cons _ _ _ w g' rest after hw hg' hgap hmore =>
    have hbegins := ht w hw
    have hskip : skipBlank (g ++ (w ++ (g' ++ rest))) = w ++ (g' ++ rest) := by
      rw [hg.skip, (hbegins.append _).skip]
    have hsize : 0 < w.length := List.length_pos_iff.mpr hbegins.ne_nil
    refine ⟨w, g' ++ rest, after, hskip, hw, hmore.apart hg' hgap, ?_, ?_, ?_⟩
    · simp only [List.length_append]
      omega
    · rw [hskip, hsource, ← List.append_assoc before, List.length_append, Nat.add_sub_cancel,
        List.take_left]
    · exact ⟨before ++ (g ++ w), g', rest, by simp [hsource], rfl, hg', by simpa using hmore⟩

def Token.name : Token → String
  | .word name | .kind name => name
  | .exact text => String.ofList text
  | .description _ => ""

def Follows (names : List String) : List Token → Prop
  | [] => "" ∈ names
  | t :: _ => t.name ≠ "" ∧ t.name ∈ names

theorem Follows.mono {names others : List String} (h : Follows names ts) (hle : names ⊆ others) :
    Follows others ts := by
  cases ts with
  | nil => exact hle h
  | cons => exact ⟨h.1, hle h.2⟩

theorem Follows.append {names : List String}
    (hfirst : ∀ t, ts.head? = some t → t.name ≠ "" ∧ t.name ∈ names) (h : Follows names more) :
    Follows names (ts ++ more) := by
  cases ts with
  | nil => exact h
  | cons t => exact hfirst t rfl

def Misses (p : Parser α) (names : List String) : Prop :=
  ∀ name ∈ names, ∀ s w rest, skipBlank s = w ++ rest →
    Text.lowerAll w = Text.lowerAll name.toList → Apart rest → Fails p s

def isLeadChar (c : Char) : Bool := Text.isWordChar c || (c == ':' || c == ',')

theorem caseless_isLeadChar : Text.Caseless isLeadChar :=
  Text.caseless_isWordChar.or ((Text.caseless_beq rfl).or (Text.caseless_beq rfl))

def IsLead (name : String) : Prop := name.toList.all isLeadChar = true

instance (name : String) : Decidable (IsLead name) := by
  unfold IsLead
  infer_instance

theorem begins_of_isLeadChar {c : Char} (hc : isLeadChar c = true) (others : List Char) :
    BeginsToken (c :: others) := by
  refine ⟨c, rfl, ?_, ?_⟩
  · cases hb : isBlank c with
    | false => rfl
    | true =>
      have hmem := blank_cases (.inl hb)
      revert hc
      simp only [List.mem_cons, List.not_mem_nil, or_false] at hmem
      rcases hmem with rfl | rfl | rfl | rfl | rfl <;> decide
  · rintro rfl
    revert hc
    decide

theorem begins_of_head {name : List Char} (hhead : name.head?.any isLeadChar = true)
    (h : Text.lowerAll w = Text.lowerAll name) : BeginsToken w := by
  obtain ⟨d, hd, hlead⟩ := (Option.any_eq_true _ _).mp hhead
  obtain ⟨c, hc, hlower⟩ := Text.head_of_lowerAll h.symm hd
  obtain ⟨others, rfl⟩ := List.head?_eq_some_iff.mp hc
  exact begins_of_isLeadChar ((caseless_isLeadChar.apply hlower).symm.trans hlead) others

theorem begins_of_lead {name : String} (hlead : IsLead name) (hne : name ≠ "")
    (h : Text.lowerAll w = Text.lowerAll name.toList) : BeginsToken w := by
  refine begins_of_head ?_ h
  cases hname : name.toList with
  | nil => exact absurd (String.toList_eq_nil_iff.mp hname) hne
  | cons d others => exact List.all_eq_true.mp hlead d (by simp [hname])

theorem spells_lower (h : Spells t w) (hname : t.name ≠ "") :
    Text.lowerAll w = Text.lowerAll t.name.toList := by
  cases h with
  | word h | kind h => exact h
  | exact text => simp [Token.name]
  | description => exact absurd rfl hname

/-- The name that stands behind the blanks, in some case. -/
theorem Ahead.front {names : List String} (h : Ahead source ts s lines)
    (hfollows : Follows names ts) (hlead : ∀ name ∈ names, IsLead name) :
    ∃ name ∈ names, ∃ w rest, skipBlank s = w ++ rest ∧
      Text.lowerAll w = Text.lowerAll name.toList ∧ Apart rest := by
  cases ts with
  | nil =>
    obtain ⟨before, g, text, -, rfl, hg, hlaid⟩ := h
    cases hlaid
    exact ⟨"", hfollows, [], [], hg.skip [], rfl, fun c hc => by simp at hc⟩
  | cons t more =>
    obtain ⟨hne, hmem⟩ := hfollows
    have hbegins : ∀ w, Spells t w → BeginsToken w :=
      fun w hw => begins_of_lead (hlead _ hmem) hne (spells_lower hw hne)
    obtain ⟨w, rest, after, hskip, hw, hapart, -⟩ := h.next hbegins
    exact ⟨t.name, hmem, w, rest, hskip, spells_lower hw hne, hapart⟩

theorem Ahead.misses {p : Parser α} {names : List String} (h : Ahead source ts s lines)
    (hfollows : Follows names ts) (hlead : ∀ name ∈ names, IsLead name) (hp : Misses p names) :
    Fails p s := by
  obtain ⟨name, hname, w, rest, hskip, hw, hapart⟩ := h.front hfollows hlead
  exact hp name hname s w rest hskip hw hapart

/-- Skipping the blanks in front of a token changes nothing. -/
theorem Ahead.skip {names : List String} (h : Ahead source ts s lines)
    (hfollows : Follows names ts) (hlead : ∀ name ∈ names, IsLead name) :
    Ahead source ts (skipBlank s) lines ∧ (skipBlank s).length ≤ s.length := by
  obtain ⟨before, g, text, rfl, rfl, hg, hlaid⟩ := h
  have hskip : skipBlank (g ++ text) = text := by
    rw [hg.skip]
    cases hlaid with
    | nil => rfl
    | cons hw =>
      have hbegins := begins_of_lead (hlead _ hfollows.2) hfollows.1 (spells_lower hw hfollows.1)
      exact (hbegins.append _).skip
  rw [hskip]
  refine ⟨⟨before ++ g, [], text, by simp, rfl, .none, by simpa using hlaid⟩, ?_⟩
  rw [List.length_append]
  omega

/-- The parser reads the tokens in front of others that `Next` allows. What it gives
satisfies `P` together with the lines of the fields among the tokens. -/
def Reads (source : List Char) (p : Parser α) (ts : List Token) (Next : List Token → Prop)
    (P : α → List Nat → Prop) : Prop :=
  ∀ more s lines, Next more → Ahead source (ts ++ more) s lines →
    ∃ a own rest after, p s = .done a rest ∧ P a own ∧ lines = own ++ after ∧
      rest.length + ts.length ≤ s.length ∧ Ahead source more rest after

def Only (a b : α) (own : List Nat) : Prop := b = a ∧ own = []

def Single (a b : α) (own : List Nat) : Prop := b = a ∧ own.length = 1

variable {p q : Parser α} {Next M : List Token → Prop} {P Q : α → List Nat → Prop} {a : α}

namespace Reads

theorem bind {R : β → List Nat → Prop} {f : α → Parser β} (hp : Reads source p ts M P)
    (hmid : ∀ others, Next others → M (more ++ others))
    (hf : ∀ a own, P a own → Reads source (f a) more Next fun b others => R b (own ++ others)) :
    Reads source (p >>= f) (ts ++ more) Next R := by
  intro others s lines hnext hs
  rw [List.append_assoc] at hs
  obtain ⟨a, own, mid, left, hread, hP, rfl, hshort, hmidAhead⟩ := hp _ s lines (hmid _ hnext) hs
  obtain ⟨b, own', rest, after, hread', hR, rfl, hshort', hrest⟩ :=
    hf a own hP others mid left hnext hmidAhead
  refine ⟨b, own ++ own', rest, after, bind_eq_done.mpr ⟨a, mid, hread, hread'⟩, hR, ?_, ?_, hrest⟩
  · rw [List.append_assoc]
  · rw [List.length_append]
    omega

theorem seq {R : β → List Nat → Prop} {f : α → Parser β} (hp : Reads source p ts M (Only a))
    (hmid : ∀ others, Next others → M (more ++ others)) (hf : Reads source (f a) more Next R) :
    Reads source (p >>= f) (ts ++ more) Next R := by
  refine hp.bind hmid ?_
  rintro _ _ ⟨rfl, rfl⟩
  exact hf

theorem step {R : β → List Nat → Prop} {f : α → Parser β}
    (hp : Reads source p ts (fun _ => True) (Only a)) (hf : Reads source (f a) more Next R) :
    Reads source (p >>= f) (ts ++ more) Next R :=
  hp.seq (fun _ _ => trivial) hf

theorem fieldSeq {b : β} {f : α → Parser β} (hp : Reads source p ts M (Single a))
    (hmid : ∀ others, Next others → M (more ++ others))
    (hf : Reads source (f a) more Next (Only b)) :
    Reads source (p >>= f) (ts ++ more) Next (Single b) := by
  refine hp.bind hmid ?_
  rintro _ own ⟨rfl, hown⟩ others s lines hnext hs
  obtain ⟨c, own', rest, after, hread, ⟨hc, rfl⟩, hmore⟩ := hf others s lines hnext hs
  exact ⟨c, [], rest, after, hread, ⟨hc, by simpa using hown⟩, hmore⟩

theorem field {b : β} {f : α → Parser β} (hp : Reads source p ts (fun _ => True) (Single a))
    (hf : Reads source (f a) more Next (Only b)) :
    Reads source (p >>= f) (ts ++ more) Next (Single b) :=
  hp.fieldSeq (fun _ _ => trivial) hf

theorem mono (hp : Reads source p ts Next P) (h : ∀ a own, P a own → Q a own) :
    Reads source p ts Next Q := by
  intro others s lines hnext hs
  obtain ⟨a, own, rest, after, hread, hP, hmore⟩ := hp others s lines hnext hs
  exact ⟨a, own, rest, after, hread, h a own hP, hmore⟩

theorem next_mono (hp : Reads source p ts M P) (h : ∀ others, Next others → M others) :
    Reads source p ts Next P :=
  fun others s lines hnext hs => hp others s lines (h others hnext) hs

/-- A reader that gives the same result wherever the tokens stand. -/
theorem of_eq_done {R : β → List Nat → Prop} {r : Parser β} (hp : Reads source p ts Next P)
    (h : ∀ s a own rest, p s = .done a rest → P a own → ∃ b, r s = .done b rest ∧ R b own) :
    Reads source r ts Next R := by
  intro others s lines hnext hs
  obtain ⟨a, own, rest, after, hread, hP, hmore⟩ := hp others s lines hnext hs
  obtain ⟨b, hread', hR⟩ := h s a own rest hread hP
  exact ⟨b, own, rest, after, hread', hR, hmore⟩

theorem map {R : β → List Nat → Prop} {f : α → β} (hp : Reads source p ts Next P)
    (h : ∀ a own, P a own → R (f a) own) : Reads source (Parser.map f p) ts Next R :=
  hp.of_eq_done fun _ a own _ hread hP => ⟨f a, map_eq_done.mpr ⟨a, hread, rfl⟩, h a own hP⟩

theorem only_map {f : α → β} (hp : Reads source p ts Next (Only a)) :
    Reads source (Parser.map f p) ts Next (Only (f a)) := by
  refine hp.map ?_
  rintro _ _ ⟨rfl, rfl⟩
  exact ⟨rfl, rfl⟩

theorem give {R : β → List Nat → Prop} {f : α → β} (hp : Reads source p ts Next P)
    (h : ∀ a own, P a own → R (f a) own) :
    Reads source (p >>= fun a => Pure.pure (f a)) ts Next R :=
  hp.of_eq_done fun _ a own rest hread hP =>
    ⟨f a, bind_eq_done.mpr ⟨a, rest, hread, rfl⟩, h a own hP⟩

theorem only_give {f : α → β} (hp : Reads source p ts Next (Only a)) :
    Reads source (p >>= fun a => Pure.pure (f a)) ts Next (Only (f a)) := by
  refine hp.give ?_
  rintro _ _ ⟨rfl, rfl⟩
  exact ⟨rfl, rfl⟩

theorem label (what : String) (hp : Reads source p ts Next P) :
    Reads source (Parser.label what p) ts Next P :=
  hp.of_eq_done fun _ a _ _ hread hP => ⟨a, label_eq_done.mpr hread, hP⟩

theorem firmly (hp : Reads source p ts Next P) : Reads source (Parser.firmly p) ts Next P :=
  hp.of_eq_done fun _ a _ _ hread hP => ⟨a, firmly_eq_done.mpr hread, hP⟩

theorem or_left (hp : Reads source p ts Next P) : Reads source (Parser.or p q) ts Next P :=
  hp.of_eq_done fun _ a _ _ hread hP => ⟨a, or_eq_done.mpr (.inl hread), hP⟩

/-- An alternative behind one that is left where the tokens begin. -/
theorem or_right {names : List String} (hq : Reads source q ts Next P)
    (hfirst : ∀ others, Next others → Follows names (ts ++ others))
    (hlead : ∀ name ∈ names, IsLead name) (hp : Misses p names) :
    Reads source (Parser.or p q) ts Next P := by
  intro others s lines hnext hs
  obtain ⟨a, own, rest, after, hread, hmore⟩ := hq others s lines hnext hs
  have hfails := hs.misses (hfirst others hnext) hlead hp
  exact ⟨a, own, rest, after, or_eq_done.mpr (.inr ⟨hfails, hread⟩), hmore⟩

theorem firstOf_head {alternatives : List (Parser α)} (hp : Reads source p ts Next P) :
    Reads source (firstOf p alternatives) ts Next P :=
  hp.of_eq_done fun _ a _ _ hread hP => ⟨a, firstOf_eq_done.mpr (.inl hread), hP⟩

theorem firstOf_tail {names : List String} {alternatives : List (Parser α)}
    (hq : Reads source (firstOf q alternatives) ts Next P)
    (hfirst : ∀ others, Next others → Follows names (ts ++ others))
    (hlead : ∀ name ∈ names, IsLead name) (hp : Misses p names) :
    Reads source (firstOf p (q :: alternatives)) ts Next P := by
  intro others s lines hnext hs
  obtain ⟨a, own, rest, after, hread, hmore⟩ := hq others s lines hnext hs
  have hfails := hs.misses (hfirst others hnext) hlead hp
  exact ⟨a, own, rest, after, firstOf_eq_done.mpr (.inr ⟨hfails, hread⟩), hmore⟩

theorem optional_some (hp : Reads source p ts Next P) :
    Reads source (optional p) ts Next fun o own => ∃ a, o = some a ∧ P a own :=
  hp.of_eq_done fun _ a _ _ hread hP => ⟨some a, Parser.optional_some hread, a, rfl, hP⟩

theorem optional_none {names : List String} (hp : Misses p names)
    (hlead : ∀ name ∈ names, IsLead name) :
    Reads source (optional p) [] (Follows names) (Only none) :=
  fun _ s lines hnext hs =>
    ⟨none, [], s, lines, Parser.optional_none (hs.misses hnext hlead hp), ⟨rfl, rfl⟩, rfl,
      Nat.le_refl _, hs⟩

theorem lexeme (hlines : ∀ n, t.lines n = []) (ht : ∀ w, Spells t w → BeginsToken w)
    (hread : ∀ w rest, Spells t w → Apart rest → p (w ++ rest) = .done a rest) :
    Reads source (Grammar.lexeme p) [t] Next (Only a) := by
  intro others s lines _ hs
  obtain ⟨w, rest, after, hskip, hw, hapart, hshort, hlines', hrest⟩ := hs.next ht
  refine ⟨a, [], rest, after, ?_, ⟨rfl, rfl⟩, by rw [hlines', hlines], hshort, hrest⟩
  rw [Grammar.lexeme, hskip]
  exact hread w rest hw hapart

theorem skipped {names : List String} (hp : Reads source p ts Next P)
    (hfirst : ∀ others, Next others → Follows names (ts ++ others))
    (hlead : ∀ name ∈ names, IsLead name) : Reads source (Grammar.lexeme p) ts Next P := by
  intro others s lines hnext hs
  obtain ⟨hskip, hle⟩ := hs.skip (hfirst others hnext) hlead
  obtain ⟨a, own, rest, after, hread, hP, hlines, hshort, hrest⟩ := hp others _ lines hnext hskip
  exact ⟨a, own, rest, after, hread, hP, hlines, Nat.le_trans hshort hle, hrest⟩

end Reads

inductive Together (P : α → β → List Nat → Prop) : List α → List β → List Nat → Prop where
  | nil : Together P [] [] []
  | cons {a : α} {b : β} {as : List α} {bs : List β} {own owns : List Nat} (h : P a b own)
    (hmore : Together P as bs owns) : Together P (a :: as) (b :: bs) (own ++ owns)

theorem Together.only {as bs : List α} {own : List Nat} (h : Together Only as bs own) :
    Only as bs own := by
  induction h with
  | nil => exact ⟨rfl, rfl⟩
  | cons h _ ih =>
    obtain ⟨rfl, rfl⟩ := h
    obtain ⟨rfl, rfl⟩ := ih
    exact ⟨rfl, rfl⟩

variable {W : β → List Token → Prop} {R : β → α → List Nat → Prop} {items : List β}
  {names : List String}

theorem Each.next (h : Each W items ts) (hfirst : ∀ b ts more, W b ts → ts ≠ [] ∧ M (ts ++ more))
    (hmore : M more) : M (ts ++ more) := by
  cases h with
  | nil => exact hmore
  | @cons b _ own others hb _ =>
    rw [List.append_assoc]
    exact (hfirst b own _ hb).2

theorem Each.front (h : Each W items ts) (hne : items ≠ [])
    (hfirst : ∀ b ts more, W b ts → ts ≠ [] ∧ M (ts ++ more)) : ts ≠ [] ∧ M (ts ++ more) := by
  cases h with
  | nil => exact absurd rfl hne
  | @cons b _ own others hb _ =>
    rw [List.append_assoc]
    exact ⟨fun hnil => (hfirst b own [] hb).1 (List.append_eq_nil_iff.mp hnil).1,
      (hfirst b own _ hb).2⟩

theorem each_flatMap {f : β → List Token} (h : ∀ b, W b (f b)) (items : List β) :
    Each W items (items.flatMap f) := by
  induction items with
  | nil => exact .nil
  | cons b items ih => exact .cons (h b) ih

/-- A repetition reads item after item, up to a name that begins no item. -/
theorem Reads.many (h : Each W items ts)
    (hp : ∀ b ∈ items, ∀ ts, W b ts → Reads source p ts M (R b))
    (hfirst : ∀ b ts more, W b ts → ts ≠ [] ∧ M (ts ++ more))
    (hlast : ∀ more, Follows names more → M more)
    (hlead : ∀ name ∈ names, IsLead name) (hmiss : Misses p names) :
    Reads source (many p) ts (Follows names) (Together R items) := by
  induction h with
  | nil =>
    exact fun _ s lines hnext hs =>
      ⟨[], [], s, lines, many_stop (hs.misses hnext hlead hmiss), .nil, rfl, Nat.le_refl _, hs⟩
  | @cons b items own others hb hothers ih =>
    obtain ⟨hitem, hitems⟩ := List.forall_mem_cons.mp hp
    intro behind s lines hnext hs
    rw [List.append_assoc] at hs
    obtain ⟨a, ownLines, mid, left, hread, hR, rfl, hshort, hmid⟩ :=
      hitem own hb _ s lines (hothers.next hfirst (hlast behind hnext)) hs
    obtain ⟨as, owns, rest, after, hreads, hRs, rfl, hshort', hrest⟩ :=
      ih hitems behind mid left hnext hmid
    have hsize : 0 < own.length := List.length_pos_iff.mpr (hfirst b own [] hb).1
    refine ⟨a :: as, ownLines ++ owns, rest, after,
      many_next hread (by omega) hreads, .cons hR hRs, ?_, ?_, hrest⟩
    · rw [List.append_assoc]
    · rw [List.length_append]
      omega

theorem Reads.many1 (h : Each W items ts) (hne : items ≠ [])
    (hp : ∀ b ∈ items, ∀ ts, W b ts → Reads source p ts M (R b))
    (hfirst : ∀ b ts more, W b ts → ts ≠ [] ∧ M (ts ++ more))
    (hlast : ∀ more, Follows names more → M more)
    (hlead : ∀ name ∈ names, IsLead name) (hmiss : Misses p names) :
    Reads source (Parser.many1 p) ts (Follows names) (Together R items) := by
  cases h with
  | nil => exact absurd rfl hne
  | @cons b items own others hb hothers =>
    obtain ⟨hitem, hitems⟩ := List.forall_mem_cons.mp hp
    refine (hitem own hb).bind (fun more hnext => hothers.next hfirst (hlast more hnext))
      fun a ownLines hR => ?_
    have hmany := Reads.many hothers hitems hfirst hlast hlead hmiss
    refine hmany.of_eq_done fun mid as owns rest hread hRs => ?_
    exact ⟨a :: as, bind_eq_done.mpr ⟨as, rest, hread, rfl⟩, .cons hR hRs⟩

end ListingGrid.Grammar
