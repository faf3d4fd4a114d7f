import ListingGrid.Proofs.Definition.Readable
import Mathlib.Data.List.Permutation

/-!
# Reading styles

A style that was written is read back, whatever the order of its options and of the color
and the line of a border.
-/

set_option autoImplicit false

namespace ListingGrid.Grammar.StyleBlock

open ListingGrid.Grammar.Parser

variable {α : Type} {source s w rest : List Char} {Next : List Token → Prop} {names : List String}

theorem choice_done {all : List α} {keyword : α → String} {a : α} (hname : NamesKeyword (keyword a))
    (hfind : all.find? (fun b => Text.sameWord (keyword b).toList (keyword a).toList) = some a)
    (hw : Text.lowerAll w = Text.lowerAll (keyword a).toList) (hrest : Apart rest) :
    choice all keyword (w ++ rest) = .done a rest := by
  refine filterMap_eq_done.mpr ⟨w, hname.identifier_done hw hrest, ?_⟩
  simp only [Text.sameWord] at hfind ⊢
  rw [hw]
  exact hfind

theorem choice_fails {all : List α} {keyword : α → String} {name : String}
    (hname : NamesKeyword name)
    (hfind : all.find? (fun b => Text.sameWord (keyword b).toList name.toList) = none)
    (hw : Text.lowerAll w = Text.lowerAll name.toList) (hrest : Apart rest) :
    Fails (choice all keyword) (w ++ rest) := by
  refine ⟨⟨w ++ rest, .unexpected⟩, ?_⟩
  rw [choice, filterMap, hname.identifier_done hw hrest]
  simp only [Text.sameWord] at hfind ⊢
  rw [hw, hfind]

theorem reads_choice {all : List α} {keyword : α → String} {a : α} (hname : NamesKeyword (keyword a))
    (hfind : all.find? (fun b => Text.sameWord (keyword b).toList (keyword a).toList) = some a) :
    Reads source (lexeme (choice all keyword)) [.word (keyword a)] Next (Only a) := by
  refine Reads.lexeme (fun _ => rfl) ?_ ?_
  · rintro w ⟨hw⟩
    exact hname.begins hw
  · rintro w rest ⟨hw⟩ hrest
    exact choice_done hname hfind hw hrest

theorem paletteColor_fails {code : List Char} (hlength : code.length = 6)
    (hhex : code.all Text.isHexDigit = true) (hrest : Apart rest) :
    Fails paletteColor (code ++ rest) := by
  refine map_fails.mpr ?_
  have hnone : ∀ name : List Char, Text.lowerAll name = Text.lowerAll code →
      ColorName.all.find? (fun b => Text.sameWord b.keyword.toList name) = none := by
    intro name hname
    refine List.find?_eq_none.mpr fun b hb hsame => ?_
    have hplain : ∀ b ∈ ColorName.all,
        ¬(b.keyword.toList.length = 6 ∧ b.keyword.toList.all Text.isHexDigit = true) := by decide
    have hlower : Text.lowerAll b.keyword.toList = Text.lowerAll code := by
      rw [← hname]
      simpa [Text.sameWord] using hsame
    exact hplain b hb ⟨(Text.length_of_lowerAll hlower).trans hlength,
      (Text.caseless_isHexDigit.all hlower).trans hhex⟩
  rcases identifier_settles (code ++ rest) with ⟨name, left, hdone⟩ | hfails
  · obtain ⟨hsplit, hname, hleft⟩ := identifier_eq_done.mp hdone
    have hword : code.all Text.isWordChar = true := by
      refine List.all_eq_true.mpr fun c hc => ?_
      exact Text.isWordChar_of_isHexDigit (List.all_eq_true.mp hhex c hc)
    have hrun := takeWhile_run hword (hrest.stops_of (by decide))
    have hrun' := takeWhile_run hname.all hleft
    obtain rfl : code = name := by rw [← hrun.1, hsplit, hrun'.1]
    refine ⟨⟨code ++ rest, .unexpected⟩, ?_⟩
    rw [choice, filterMap, hdone]
    simp only [hnone code rfl]
  · exact filterMap_fails hfails

theorem reads_color {c : Color} (h : c.Readable) :
    Reads source (lexeme color) [c.token] Next (Only c) := by
  cases c with
  | named name =>
    have hread : Reads source (lexeme (choice ColorName.all ColorName.keyword))
        [.word name.keyword] Next (Only name) :=
      reads_choice (by cases name <;> decide) (by cases name <;> decide)
    refine hread.of_eq_done ?_
    rintro s _ _ rest hdone ⟨rfl, rfl⟩
    exact ⟨_, or_eq_done.mpr (.inl (map_eq_done.mpr ⟨_, hdone, rfl⟩)), rfl, rfl⟩
  | code digits =>
    obtain ⟨code, rfl, hlength, hhex, hupper⟩ := h
    have htoken : (Color.code (String.ofList ('#' :: code))).token = .word (String.ofList code) := by
      simp [Color.token]
    rw [htoken]
    have hcase : ∀ {w : List Char}, Spells (.word (String.ofList code)) w →
        Text.lowerAll w = Text.lowerAll code := by
      rintro w ⟨hw⟩
      simpa using hw
    refine Reads.lexeme (fun _ => rfl) (fun w hw => ?_) fun w rest hw hrest => ?_
    · have hlower := hcase hw
      have hall := (Text.caseless_isHexDigit.all hlower).trans hhex
      have hsize := (Text.length_of_lowerAll hlower).trans hlength
      cases w with
      | nil => simp at hsize
      | cons c others =>
        have hc := List.all_eq_true.mp hall c (by simp)
        exact begins_of_isLeadChar (isLeadChar_of_isWordChar (Text.isWordChar_of_isHexDigit hc)) _
    · have hlower := hcase hw
      have hall := (Text.caseless_isHexDigit.all hlower).trans hhex
      have hsize := (Text.length_of_lowerAll hlower).trans hlength
      refine or_eq_done.mpr (.inr ⟨paletteColor_fails hsize hall hrest, ?_⟩)
      refine bind_eq_done.mpr ⟨w, rest, takeBetween_append hall (Nat.le_of_eq hsize.symm)
        (Nat.le_of_eq hsize) (hrest.stops_of (by decide)), ?_⟩
      refine bind_eq_done.mpr ⟨(), rest, notFollowedBy_done (hrest.stops_of (by decide)), ?_⟩
      rw [Text.upperAll_eq_of_lowerAll hlower, hupper]
      rfl

def NoColor (name : String) : Prop :=
  NamesKeyword name ∧
    ColorName.all.find? (fun b => Text.sameWord b.keyword.toList name.toList) = none ∧
    (name.toList.takeWhile Text.isHexDigit).length < 6

instance (name : String) : Decidable (NoColor name) := by
  unfold NoColor
  infer_instance

theorem takeWhile_length {accepts : Char → Bool} (hcase : Text.Caseless accepts) {name : List Char}
    (hw : Text.lowerAll w = Text.lowerAll name) (hrest : Stops accepts rest) :
    ((w ++ rest).takeWhile accepts).length = (name.takeWhile accepts).length := by
  induction name generalizing w with
  | nil =>
    obtain rfl : w = [] := by simpa [Text.lowerAll] using hw
    rw [(takeWhile_run List.all_nil hrest).1]
    rfl
  | cons d name ih =>
    cases w with
    | nil => simp [Text.lowerAll] at hw
    | cons c w =>
      simp only [Text.lowerAll, List.map_cons, List.cons.injEq] at hw ih
      have hc : accepts c = accepts d := hcase.apply hw.1
      rw [List.cons_append, List.takeWhile_cons, List.takeWhile_cons, hc]
      split
      · simp [ih hw.2]
      · rfl

theorem color_misses (h : ∀ name ∈ names, NoColor name) : Misses (lexeme color) names := by
  refine lexeme_misses fun name hmem w rest hw hrest => ?_
  obtain ⟨hname, hfind, hshort⟩ := h name hmem
  refine or_fails.mpr ⟨map_fails.mpr (choice_fails hname hfind hw hrest), ?_⟩
  refine bind_fails.mpr (.inl ?_)
  have hlength := takeWhile_length Text.caseless_isHexDigit hw (hrest.stops_of (by decide))
  refine ⟨⟨w ++ rest, .unexpected⟩, ?_⟩
  unfold takeBetween
  simp only
  rw [if_pos]
  rw [List.length_take]
  omega

theorem line_namesKeyword (line : Border) : NamesKeyword line.keyword := by
  cases line <;> decide

theorem reads_borderLine (line : Border) :
    Reads source (lexeme borderLine) [.word line.keyword] Next (Only line) :=
  reads_choice (line_namesKeyword line) (by cases line <;> decide)

theorem noColor_line (line : Border) : NoColor line.keyword := by
  cases line <;> decide

def optionKeywords : List String :=
  ["format", "font", "size", "bold", "italic", "underline", "strikeout", "align", "valign",
    "border", "background", "color", "unlocked", "hidden", "wrap", "shrink"]

def optionEnds : List String := optionKeywords ++ ["style", "section"]

theorem optionEnds_lead : ∀ name ∈ optionEnds, IsLead name := by decide

theorem isLead_of_namesKeyword {name : String} (h : NamesKeyword name) : IsLead name :=
  List.all_eq_true.mpr fun c hc =>
    isLeadChar_of_isWordChar (List.all_eq_true.mp h.2 c hc)

theorem reads_border {tint : Option Color} {line : Border} {values : List Token}
    (htint : ∀ c, tint = some c → c.Readable)
    (h : values.Perm ((tint.map (·.token)).toList ++ [.word line.keyword])) :
    Reads source border values (Follows optionEnds) (Only (.border tint line)) := by
  have hline : ∀ others : List Token, Follows [line.keyword] (.word line.keyword :: others) :=
    fun others => ⟨by cases line <;> decide, by simp [Token.name]⟩
  have hlead : ∀ name ∈ [line.keyword], IsLead name := by
    simpa using isLead_of_namesKeyword (line_namesKeyword line)
  have hmiss : Misses (do
      let c ← lexeme color
      let line ← lexeme borderLine
      return .border (some c) line : Parser StyleOption) [line.keyword] :=
    bind_misses (color_misses (by simpa using noColor_line line))
  cases tint with
  | none =>
    obtain rfl : values = [.word line.keyword] := by simpa using h
    refine Reads.or_right ?_ (fun others _ => hline others) hlead hmiss
    refine (reads_borderLine line).step ?_
    exact (Reads.optional_none (color_misses (by decide)) optionEnds_lead).only_give
  | some c =>
    rcases List.perm_pair.mp h with rfl | rfl
    · exact Reads.or_left ((reads_color (htint c rfl)).step (reads_borderLine line).only_give)
    · refine Reads.or_right ?_ (fun others _ => hline others) hlead hmiss
      refine (reads_borderLine line).step ?_
      refine (reads_color (htint c rfl)).optional_some.give ?_
      rintro _ _ ⟨_, rfl, rfl, rfl⟩
      exact ⟨rfl, rfl⟩

theorem reads_valued {name : String} {p : Parser StyleOption} {values : List Token}
    {option : StyleOption} (hname : IsKeyword name) (hp : Reads source p values Next (Only option)) :
    Reads source (valued name p) (.word name :: values) Next (Only option) :=
  (Reads.keyword hname).step hp.firmly

theorem reads_flag {option : StyleOption} (hname : IsKeyword option.keyword) :
    Reads source (flag option) [.word option.keyword] Next (Only option) :=
  (Reads.keyword hname).only_map

theorem reads_quotedValue {f : String → StyleOption} {text : String}
    (h : IsQuotedBody text.toList) :
    Reads source (map (fun t => f (String.ofList t)) (lexeme quoted)) [quotedToken text] Next
      (Only (f text)) := by
  have hread : Reads source (map (fun t => f (String.ofList t)) (lexeme quoted)) [quotedToken text]
      Next (Only (f (String.ofList text.toList))) := (Reads.quoted h).only_map
  rwa [String.ofList_toList] at hread

theorem keyword_mem (option : StyleOption) : option.keyword ∈ optionKeywords := by
  cases option <;> simp [StyleOption.keyword, optionKeywords]

theorem optionKeywords_keyword : ∀ name ∈ optionKeywords, IsKeyword name := by decide

theorem optionKeywords_differ : optionKeywords.Pairwise Differs := by decide

/-- The alternatives of an option begin with the keywords in turn. -/
theorem option_table (format font size align valign border background color : Parser StyleOption) :
    List.Forall₂ BeginsWith
      [valued "format" format, valued "font" font, valued "size" size, flag .bold, flag .italic,
        flag .underline, flag .strikeout, valued "align" align, valued "valign" valign,
        valued "border" border, valued "background" background, valued "color" color,
        flag .unlocked, flag .hidden, flag .wrap, flag .shrink] optionKeywords := by
  repeat'
    first
      | exact BeginsWith.bind (by decide)
      | constructor

/-- Keywords and readers are listed in the order of the constructors. -/
theorem optionKeywords_at (option : StyleOption) :
    optionKeywords[option.ctorIdx]? = some option.keyword := by
  cases option <;> rfl

/-- An option is read by the reader at its place, since the others begin with other keywords. -/
theorem reads_option_at {p q : Parser StyleOption} {others : List (Parser StyleOption)}
    {option : StyleOption} {values : List Token}
    (h : List.Forall₂ BeginsWith (p :: others) optionKeywords)
    (hq : (p :: others)[option.ctorIdx]? = some q)
    (hread : Reads source q (.word option.keyword :: values) (Follows optionEnds) (Only option)) :
    Reads source (firstOf p others) (.word option.keyword :: values) (Follows optionEnds)
      (Only option) := by
  have hkeyword := optionKeywords_keyword _ (keyword_mem option)
  have hlead : IsLead option.keyword :=
    optionEnds_lead _ (List.mem_append_left _ (keyword_mem option))
  have hfirst : ∀ more, Follows optionEnds more →
      Follows [option.keyword] (.word option.keyword :: values ++ more) :=
    fun more _ => ⟨hkeyword.ne_empty, by simp [Token.name]⟩
  exact Reads.alternative h optionKeywords_differ option.ctorIdx hq (optionKeywords_at option) hlead
    hfirst hread

theorem reads_styleOption {option : StyleOption} {ts : List Token} (hoption : option.Readable)
    (h : option.Written ts) : Reads source styleOption ts (Follows optionEnds) (Only option) := by
  obtain ⟨values, hvalues, rfl⟩ := h
  have hkeyword := optionKeywords_keyword _ (keyword_mem option)
  unfold styleOption
  cases option with
  | format | font =>
    obtain rfl := List.perm_singleton.mp hvalues
    exact reads_option_at (option_table ..) rfl (reads_valued hkeyword (reads_quotedValue hoption))
  | size =>
    obtain rfl := List.perm_singleton.mp hvalues
    exact reads_option_at (option_table ..) rfl
      (reads_valued hkeyword ((Reads.natural hoption).label _).only_map)
  | align side | valign side =>
    obtain rfl := List.perm_singleton.mp hvalues
    refine reads_option_at (option_table ..) rfl
      (reads_valued hkeyword (Reads.label _ ?_).only_map)
    exact reads_choice (by cases side <;> decide) (by cases side <;> decide)
  | border =>
    exact reads_option_at (option_table ..) rfl
      (reads_valued hkeyword ((reads_border hoption hvalues).label _))
  | background | color =>
    obtain rfl := List.perm_singleton.mp hvalues
    exact reads_option_at (option_table ..) rfl
      (reads_valued hkeyword ((reads_color hoption).label _).only_map)
  | bold | italic | underline | strikeout | unlocked | hidden | wrap | shrink =>
    obtain rfl := List.perm_nil.mp hvalues
    exact reads_option_at (option_table ..) rfl (reads_flag hkeyword)

theorem styleOption_misses : Misses styleOption ["style", "section"] :=
  alternatives_miss (option_table ..) (by decide)

theorem written_follows {option : StyleOption} {ts : List Token} (h : option.Written ts)
    (more : List Token) : ts ≠ [] ∧ Follows optionEnds (ts ++ more) := by
  obtain ⟨values, -, rfl⟩ := h
  have hkeyword := optionKeywords_keyword _ (keyword_mem option)
  exact ⟨by simp, hkeyword.ne_empty, List.mem_append_left _ (keyword_mem option)⟩

theorem options_stop {seen : List String} {style : Style} (h : Fails (lexeme styleOption) s) :
    options seen style s = .done style s := by
  obtain ⟨failure, hfails⟩ := h
  rw [lexeme] at hfails
  unfold options
  rw [hfails]

theorem options_next {seen : List String} {style : Style} {option : StyleOption}
    (h : lexeme styleOption s = .done option rest) (hnew : seen.contains option.keyword = false)
    (hlt : rest.length < s.length) :
    options seen style s = options (option.keyword :: seen) (option.apply style) rest := by
  rw [lexeme] at h
  conv_lhs => unfold options
  rw [h]
  simp only [hnew, Bool.false_eq_true, if_false, if_pos hlt]

/-- Options with different keywords are read one after another. -/
theorem reads_options {items : List StyleOption} {ts : List Token} {seen : List String}
    (hitems : ∀ option ∈ items, option.Readable)
    (hdistinct : (items.map (·.keyword)).Nodup) (hseen : ∀ option ∈ items, option.keyword ∉ seen)
    (h : Each StyleOption.Written items ts) (style : Style) :
    Reads source (options seen style) ts (Follows ["style", "section"])
      (Only (items.foldl (fun style option => option.apply style) style)) := by
  have hends : ∀ name ∈ ["style", "section"], IsLead name := by decide
  -- By induction on the options; `seen` holds the keywords of those in front.
  induction h generalizing seen style with
  | nil =>
    intro others s lines hnext hs
    have hfails := (hs.skip hnext hends).1.misses hnext hends styleOption_misses
    exact ⟨style, [], s, lines, options_stop hfails, ⟨rfl, rfl⟩, rfl, Nat.le_refl _, hs⟩
  | @cons option items own more hoption hmore ih =>
    obtain ⟨hreadable, hothers⟩ := List.forall_mem_cons.mp hitems
    obtain ⟨hnew, hnews⟩ := List.forall_mem_cons.mp hseen
    rw [List.map_cons, List.nodup_cons] at hdistinct
    intro others s lines hnext hs
    rw [List.append_assoc] at hs
    obtain ⟨hne, hfollows⟩ := written_follows hoption (more ++ others)
    have hmid : Follows optionEnds (more ++ others) :=
      hmore.next (fun _ _ _ hwritten => written_follows hwritten _)
        (hnext.mono (List.subset_append_right _ _))
    obtain ⟨hskip, hle⟩ := hs.skip hfollows optionEnds_lead
    obtain ⟨got, _, mid, after, hread, ⟨hgot, rfl⟩, hlines, hshort, hahead⟩ :=
      reads_styleOption hreadable hoption _ _ lines hmid hskip
    rw [hgot] at hread
    have hnews' : ∀ other ∈ items, other.keyword ∉ option.keyword :: seen := by
      intro other hother hmem
      rcases List.mem_cons.mp hmem with heq | hmem
      · exact hdistinct.1 (heq ▸ List.mem_map_of_mem hother)
      · exact hnews other hother hmem
    obtain ⟨result, _, rest, left, hreads, ⟨hresult, rfl⟩, hlines', hshort', hrest⟩ :=
      ih hothers hdistinct.2 hnews' (option.apply style) others mid after hnext hahead
    have hsize : 0 < own.length := List.length_pos_iff.mpr hne
    refine ⟨result, [], rest, left, ?_, ⟨hresult, rfl⟩, hlines.trans hlines', ?_, hrest⟩
    · exact (options_next hread (by simpa using hnew) (by omega)).trans hreads
    · rw [List.length_append]
      omega

theorem style_misses : Misses style ["section"] :=
  bind_misses (keyword_misses (by decide) (by decide))

theorem reads_style {s : Style} {ts : List Token} (hs : s.Readable) (h : s.Written ts) :
    Reads source style ts (Follows ["style", "section"]) (Only s) := by
  obtain ⟨items, more, hperm, hitems, rfl⟩ := h
  have hreadable : ∀ option ∈ items, option.Readable :=
    fun option hoption => hs.options option (Style.mem_options.mp (hperm.mem_iff.mp hoption))
  have hdistinct : (items.map (·.keyword)).Nodup :=
    (hperm.map _).nodup_iff.mpr s.options_distinct
  refine (Reads.keyword (by decide)).step (((Reads.identifier hs.id).label _).firmly.step ?_)
  have hread : Reads source (options [] (Style.plain s.id)) more (Follows ["style", "section"])
      (Only _) := reads_options hreadable hdistinct (by simp) hitems _
  rwa [Style.foldl_options hs.framed hperm, ← String.ofList_toList (s := s.id)] at hread

end ListingGrid.Grammar.StyleBlock
