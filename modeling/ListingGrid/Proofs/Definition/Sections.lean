import ListingGrid.Proofs.Definition.Fields
import Mathlib.Data.List.Permutation

/-!
# Reading fieldsets and sections

Fieldsets and sections that were written are read back, whatever the order of their
flags, with the lines of their fields. A repetition ends at the keyword of what stands
behind it.
-/

set_option autoImplicit false

namespace ListingGrid.Grammar

open ListingGrid.Grammar.Parser

variable {α β : Type} {source : List Char} {ts more : List Token} {name first second : String}
  {names : List String} {Next : List Token → Prop}

theorem Together.map {f : α → β} {g : α → List Nat} {as bs : List α} {own : List Nat}
    (h : Together (fun a b own => f b = f a ∧ own = g b) as bs own) :
    bs.map f = as.map f ∧ own = bs.flatMap g := by
  induction h with
  | nil => exact ⟨rfl, rfl⟩
  | cons h _ ih =>
    obtain ⟨hsame, rfl⟩ := h
    obtain ⟨hmore, rfl⟩ := ih
    exact ⟨by rw [List.map_cons, List.map_cons, hsame, hmore], rfl⟩

namespace Report

/-- A flag is read by its keyword where readers that miss it fail, and what stands behind it as
the reader goes on. -/
theorem reads_flag {P : Bool × Bool → List Nat → Prop} {p next : Parser (Bool × Bool)}
    (hname : IsKeyword name)
    (hstep : ∀ s rest, (∀ q : Parser Unit, Misses q [name] → Fails q (skipBlank s)) →
      keyword name (skipBlank s) = .done () rest → rest.length < s.length → p s = next rest)
    (h : Reads source next ts Next P) : Reads source p (.word name :: ts) Next P := by
  intro others s lines hnext hs
  have hkeyword : Reads source (keyword name) [.word name] (fun _ => True) (Only ()) :=
    Reads.keyword hname
  have hlead : ∀ other ∈ [name], IsLead other := by simpa using hname.isLead
  have hfollows : Follows [name] (.word name :: ts ++ others) :=
    ⟨hname.ne_empty, List.mem_singleton_self name⟩
  obtain ⟨hskip, hle⟩ := hs.skip hfollows hlead
  obtain ⟨_, _, mid, after, hread, ⟨-, rfl⟩, hlines, hshort, hahead⟩ :=
    hkeyword (ts ++ others) _ lines trivial hskip
  obtain ⟨a, own, rest, left, hreads, hP, hlines', hshort', hrest⟩ := h others mid after hnext hahead
  simp only [List.length_cons, List.length_nil] at hshort
  have hp := hstep s mid (fun q hq => hskip.misses hfollows hlead hq) hread (by omega)
  refine ⟨a, own, rest, left, hp.trans hreads, hP, hlines.trans hlines', ?_, hrest⟩
  rw [List.length_cons]
  omega

theorem reads_firstFlag {P : Bool × Bool → List Nat → Prop} {set : Bool × Bool}
    (hfirst : IsKeyword first) (hnew : set.1 = false)
    (h : Reads source (flags first second (true, set.2)) ts Next P) :
    Reads source (flags first second set) (.word first :: ts) Next P :=
  reads_flag hfirst (fun _ _ _ hread hshort => flags_first hread hnew hshort) h

theorem reads_secondFlag {P : Bool × Bool → List Nat → Prop} {set : Bool × Bool}
    (hfirst : IsKeyword first) (hsecond : IsKeyword second) (hdiffers : Differs first second)
    (hnew : set.2 = false) (h : Reads source (flags first second (set.1, true)) ts Next P) :
    Reads source (flags first second set) (.word second :: ts) Next P := by
  refine reads_flag hsecond (fun s rest hmisses hread hshort => ?_) h
  have hfails := hmisses _ (keyword_misses hfirst (by simpa using hdiffers))
  exact flags_second hfails hread hnew hshort

theorem reads_noFlag {set : Bool × Bool} (hlead : ∀ name ∈ names, IsLead name)
    (hfirst : Misses (keyword first) names) (hsecond : Misses (keyword second) names) :
    Reads source (flags first second set) [] (Follows names) (Only set) := by
  intro others s lines hnext hs
  have hskip := (hs.skip hnext hlead).1
  have hfails : Fails (lexeme (keyword first)) s := hskip.misses hnext hlead hfirst
  have hfails' : Fails (lexeme (keyword second)) s := hskip.misses hnext hlead hsecond
  exact ⟨set, [], s, lines, flags_stop hfails hfails', ⟨rfl, rfl⟩, rfl, Nat.le_refl _, hs⟩

/-- Two flags in any order, up to a name that is neither. -/
theorem reads_flags {a b : Bool} (hfirst : IsKeyword first) (hsecond : IsKeyword second)
    (hdiffers : Differs first second) (hlead : ∀ name ∈ names, IsLead name)
    (hends : ∀ name ∈ names, Differs first name ∧ Differs second name)
    (h : ts.Perm (flagTokens a first ++ flagTokens b second)) :
    Reads source (flags first second (false, false)) ts (Follows names) (Only (a, b)) := by
  have hstop : Reads source (flags first second (a, b)) [] (Follows names) (Only (a, b)) :=
    reads_noFlag hlead (keyword_misses hfirst fun name hname => (hends name hname).1)
      (keyword_misses hsecond fun name hname => (hends name hname).2)
  cases a with
  | false =>
    cases b with
    | false =>
      obtain rfl := List.perm_nil.mp h
      exact hstop
    | true =>
      obtain rfl := List.perm_singleton.mp h
      exact reads_secondFlag hfirst hsecond hdiffers rfl hstop
  | true =>
    cases b with
    | false =>
      obtain rfl := List.perm_singleton.mp h
      exact reads_firstFlag hfirst rfl hstop
    | true =>
      rcases List.perm_pair.mp h with rfl | rfl
      · exact reads_firstFlag hfirst rfl (reads_secondFlag hfirst hsecond hdiffers rfl hstop)
      · exact reads_secondFlag hfirst hsecond hdiffers rfl (reads_firstFlag hfirst rfl hstop)

theorem Follows.flags {a b : Bool} (h : ts.Perm (flagTokens a first ++ flagTokens b second))
    (hfirst : first ≠ "" ∧ first ∈ names) (hsecond : second ≠ "" ∧ second ∈ names)
    (hmore : Follows names more) : Follows names (ts ++ more) := by
  refine Follows.append (fun t ht => ?_) hmore
  have hmem := h.mem_iff.mp (List.mem_of_head? ht)
  cases a <;> cases b <;> simp [flagTokens] at hmem <;>
    first
      | (subst hmem; assumption)
      | (rcases hmem with rfl | rfl <;> assumption)

theorem Follows.clause (hname : name ≠ "" ∧ name ∈ names) (h : Follows names more) :
    Follows names (clauseTokens name ts ++ more) := by
  refine Follows.append (fun t ht => ?_) h
  cases ts with
  | nil => simp [clauseTokens] at ht
  | cons => exact Option.some.inj ht ▸ hname

theorem reads_clause {p : Parser α} {P : Option α → List Nat → Prop} (hname : IsKeyword name)
    (hlead : ∀ other ∈ names, IsLead other) (hends : ∀ other ∈ names, Differs name other)
    (hnone : ts = [] → P none [])
    (hsome : ts ≠ [] → Reads source p ts (Follows names) fun a own => P (some a) own) :
    Reads source (clause name p) (clauseTokens name ts) (Follows names) P := by
  cases ts with
  | nil =>
    refine (Reads.optional_none (bind_misses (keyword_misses hname hends)) hlead).mono ?_
    rintro _ _ ⟨rfl, rfl⟩
    exact hnone rfl
  | cons t ts =>
    refine ((Reads.keyword hname).step (hsome (by simp)).firmly).optional_some.mono ?_
    rintro _ _ ⟨_, rfl, hP⟩
    exact hP

theorem written_field {d : FieldDefinition} (h : d.Written ts) (more : List Token) :
    ts ≠ [] ∧ Follows kindNames (ts ++ more) := by
  obtain ⟨spec, hspec, rfl⟩ := h
  obtain ⟨name, values, rfl, hname⟩ := written_kind hspec
  exact ⟨by simp, (kindNames_keyword name hname).ne_empty, hname⟩

/-- The fields of a fieldset, up to what stands behind them. -/
theorem reads_fields {inBody : Bool} {fields : List FieldDefinition} (hsome : fields ≠ [])
    (hfields : ∀ field ∈ fields, field.Readable ∧ (inBody = true ∨ field.spec.IsSpecial))
    (h : Each FieldDefinition.Written fields ts) :
    Reads source (many1 (field source inBody)) ts (Follows fieldEnds) fun got own =>
      got.map (·.unlined) = fields.map (·.unlined) ∧ own = got.map (·.line) := by
  refine (Reads.many1 (M := Follows afterField) h hsome
    (fun d hd ts hts => reads_field (hfields d hd).1 (hfields d hd).2 hts) ?_ ?_ fieldEnds_lead
    (field_misses source inBody)).mono fun got own htogether => ?_
  · intro d ts others hts
    obtain ⟨hne, hfollows⟩ := written_field hts others
    exact ⟨hne, hfollows.mono (List.subset_append_left _ _)⟩
  · exact fun others hothers => hothers.mono (List.subset_append_right _ _)
  · obtain ⟨hsame, hown⟩ := Together.map (g := fun d : FieldDefinition => [d.line]) htogether
    exact ⟨hsame, hown.trans List.map_eq_flatMap.symm⟩

theorem reads_specialFieldset {d : FieldsetDefinition} (hd : d.ReadableSpecial)
    (h : d.WrittenSpecial ts) : Reads source (specialFieldset source) ts (Follows fieldEnds)
      fun got own => got.unlined = d.unlined ∧ own = got.lines := by
  obtain ⟨fields, hfields, rfl⟩ := h
  refine (Reads.keyword (by decide)).step ((reads_fields hd.some
    (fun field hfield => ⟨(hd.fields field hfield).1, .inr (hd.fields field hfield).2⟩)
    hfields).firmly.give ?_)
  rintro got own ⟨hsame, rfl⟩
  obtain ⟨hfilters, hnewRow, hkeepInRow⟩ := hd.plain
  refine ⟨?_, rfl⟩
  simp only [FieldsetDefinition.unlined, hsame, hfilters, hnewRow, hkeepInRow]

def afterFilters : List String := "new_row" :: "keep_in_row" :: kindNames

theorem reads_bodyFieldset {d : FieldsetDefinition} (hd : d.Readable) (h : d.Written ts) :
    Reads source (bodyFieldset source) ts (Follows fieldEnds)
      fun got own => got.unlined = d.unlined ∧ own = got.lines := by
  obtain ⟨flags, fields, hflags, hfields, rfl⟩ := h
  have hfirst : ∀ others, Follows kindNames (fields ++ others) :=
    fun _ => (hfields.front hd.some fun _ _ _ hfield => written_field hfield _).2
  have hfilters : Reads source (firmly (do
      keyword "include_filters"
      quotedList)) (.word "include_filters" :: listTokens d.includeFilters) (Follows afterFilters)
      (Only d.includeFilters) :=
    ((Reads.keyword (by decide)).step
      (Reads.quotedList hd.filtered hd.filters (by decide) (by decide))).firmly
  have hboth : Reads source (Report.flags "new_row" "keep_in_row" (false, false)) flags
      (Follows kindNames) (Only (d.newRow, d.keepInRow)) :=
    reads_flags (by decide) (by decide) (by decide) (by decide) (by decide) hflags
  have hrest : Reads source (firmly (many1 (field source true)) >>= fun got =>
      Pure.pure (⟨d.includeFilters, d.newRow, d.keepInRow, got⟩ : FieldsetDefinition)) fields
      (Follows fieldEnds) fun got own => got.unlined = d.unlined ∧ own = got.lines := by
    refine (reads_fields hd.some (fun field hfield => ⟨hd.fields field hfield, .inl rfl⟩)
      hfields).firmly.give ?_
    rintro got own ⟨hsame, rfl⟩
    refine ⟨?_, rfl⟩
    simp only [FieldsetDefinition.unlined, hsame]
  refine (Reads.keyword (by decide)).step (hfilters.seq (fun others _ => ?_)
    (hboth.seq (fun others _ => hfirst others) hrest))
  rw [List.append_assoc]
  exact Follows.flags hflags (by decide) (by decide)
    ((hfirst others).mono (List.subset_append_right ["new_row", "keep_in_row"] _))

def fieldsetEnds : List String := ["body", "footer", "section", ""]

/-- Fieldsets of one part of a section, up to the next part. -/
theorem reads_fieldsets {p : Parser FieldsetDefinition} {items : List FieldsetDefinition}
    {W : FieldsetDefinition → List Token → Prop} (h : Each W items ts) (hsome : items ≠ [])
    (hp : ∀ d ∈ items, ∀ ts, W d ts → Reads source p ts (Follows fieldEnds)
      fun got own => got.unlined = d.unlined ∧ own = got.lines)
    (hW : ∀ d ts, W d ts → ∃ values, ts = .word "fieldset" :: values)
    (hmiss : Misses p fieldsetEnds) :
    Reads source (many1 p) ts (Follows fieldsetEnds) fun got own =>
      got.map (·.unlined) = items.map (·.unlined) ∧ own = got.flatMap (·.lines) := by
  refine (Reads.many1 (M := Follows fieldEnds) h hsome hp ?_ ?_ (by decide) hmiss).mono
    fun _ _ htogether => htogether.map
  · intro d ts others hts
    obtain ⟨values, rfl⟩ := hW d ts hts
    exact ⟨by simp, by decide, by simp [Token.name, fieldEnds]⟩
  · exact fun others hothers => hothers.mono (List.subset_cons_self _ _)

theorem reads_specialFieldsets {items : List FieldsetDefinition} (hsome : items ≠ [])
    (hitems : ∀ d ∈ items, d.ReadableSpecial) (h : Each FieldsetDefinition.WrittenSpecial items ts) :
    Reads source (many1 (specialFieldset source)) ts (Follows fieldsetEnds) fun got own =>
      got.map (·.unlined) = items.map (·.unlined) ∧ own = got.flatMap (·.lines) := by
  refine reads_fieldsets h hsome (fun d hd ts hts => reads_specialFieldset (hitems d hd) hts) ?_
    (bind_misses (keyword_misses (by decide) (by decide)))
  rintro d ts ⟨fields, -, rfl⟩
  exact ⟨fields, rfl⟩

theorem reads_bodyFieldsets {items : List FieldsetDefinition} (hsome : items ≠ [])
    (hitems : ∀ d ∈ items, d.Readable) (h : Each FieldsetDefinition.Written items ts) :
    Reads source (many1 (bodyFieldset source)) ts (Follows fieldsetEnds) fun got own =>
      got.map (·.unlined) = items.map (·.unlined) ∧ own = got.flatMap (·.lines) := by
  refine reads_fieldsets h hsome (fun d hd ts hts => reads_bodyFieldset (hitems d hd) hts) ?_
    (bind_misses (keyword_misses (by decide) (by decide)))
  rintro d ts ⟨flags, fields, -, -, rfl⟩
  exact ⟨_, rfl⟩

/-- The fieldsets of a head or a foot, which may be left out. -/
theorem reads_special {items : List FieldsetDefinition} (hname : IsKeyword name)
    (hlead : ∀ other ∈ names, IsLead other) (hends : ∀ other ∈ names, Differs name other)
    (hnames : names ⊆ fieldsetEnds) (hitems : ∀ d ∈ items, d.ReadableSpecial)
    (h : Each FieldsetDefinition.WrittenSpecial items ts) :
    Reads source (clause name (many1 (specialFieldset source))) (clauseTokens name ts)
      (Follows names) fun got own => (got.getD []).map (·.unlined) = items.map (·.unlined) ∧
        own = (got.getD []).flatMap (·.lines) := by
  refine reads_clause hname hlead hends (fun hnil => ?_) fun hne => ?_
  · cases h with
    | nil => exact ⟨rfl, rfl⟩
    | cons hd =>
      obtain ⟨fields, -, rfl⟩ := hd
      simp at hnil
  · have hsome : items ≠ [] := by
      rintro rfl
      cases h
      exact hne rfl
    exact (reads_specialFieldsets hsome hitems h).next_mono fun others hothers =>
      hothers.mono hnames

theorem reads_sectionDefinition {d : SectionDefinition} (hd : d.Readable) (h : d.Written ts) :
    Reads source (sectionDefinition source) ts (Follows ["section", ""])
      fun got own => got.unlined = d.unlined ∧ own = got.lines := by
  obtain ⟨flags, header, body, footer, hflags, hheader, hbody, hfooter, rfl⟩ := h
  have hboth : Reads source (Report.flags "process_only_one_time" "blank_row" (false, false)) flags
      (Follows ["header", "body"]) (Only (d.once, d.blankRow)) :=
    reads_flags (by decide) (by decide) (by decide) (by decide) (by decide) hflags
  have hhead : Reads source (clause "header" (many1 (specialFieldset source)))
      (clauseTokens "header" header) (Follows ["body"]) fun got own =>
        (got.getD []).map (·.unlined) = d.header.map (·.unlined) ∧
          own = (got.getD []).flatMap (·.lines) :=
    reads_special (by decide) (by decide) (by decide) (by decide) hd.header hheader
  have hmiddle : Reads source (firmly (do
      keyword "body"
      many1 (bodyFieldset source))) (.word "body" :: body) (Follows fieldsetEnds) fun got own =>
        got.map (·.unlined) = d.body.map (·.unlined) ∧ own = got.flatMap (·.lines) :=
    ((Reads.keyword (by decide)).step (reads_bodyFieldsets hd.some hd.body hbody)).firmly
  have hfoot : Reads source (clause "footer" (many1 (specialFieldset source)))
      (clauseTokens "footer" footer) (Follows ["section", ""]) fun got own =>
        (got.getD []).map (·.unlined) = d.footer.map (·.unlined) ∧
          own = (got.getD []).flatMap (·.lines) :=
    reads_special (by decide) (by decide) (by decide) (by decide) hd.footer hfooter
  have hbodyFirst : ∀ others, Follows ["body"] (.word "body" :: others) :=
    fun _ => ⟨by decide, List.mem_singleton_self _⟩
  refine (Reads.keyword (by decide)).step (hboth.seq (fun others _ => ?_) (hhead.bind
    (fun others _ => hbodyFirst _) ?_))
  · rw [List.append_assoc]
    exact Follows.clause (by decide) ((hbodyFirst _).mono (by decide))
  rintro gotHeader _ ⟨hsameHeader, rfl⟩
  refine hmiddle.bind (fun others hothers => Follows.clause (by decide) (hothers.mono (by decide))) ?_
  rintro gotBody _ ⟨hsameBody, rfl⟩
  refine hfoot.give ?_
  rintro gotFooter _ ⟨hsameFooter, rfl⟩
  refine ⟨?_, rfl⟩
  simp only [SectionDefinition.unlined, hsameHeader, hsameBody, hsameFooter]

theorem written_section {d : SectionDefinition} (h : d.Written ts) (more : List Token) :
    ts ≠ [] ∧ Follows ["section"] (ts ++ more) := by
  obtain ⟨flags, header, body, footer, -, -, -, -, rfl⟩ := h
  exact ⟨by simp, by decide, by simp [Token.name]⟩

theorem reads_sections {items : List SectionDefinition} (hsome : items ≠ [])
    (hitems : ∀ d ∈ items, d.Readable) (h : Each SectionDefinition.Written items ts) :
    Reads source (many1 (sectionDefinition source)) ts (Follows [""]) fun got own =>
      got.map (·.unlined) = items.map (·.unlined) ∧ own = got.flatMap (·.lines) := by
  refine (Reads.many1 (M := Follows ["section", ""]) h hsome
    (fun d hd ts hts => reads_sectionDefinition (hitems d hd) hts) ?_ ?_ (by decide)
    (bind_misses (keyword_misses (by decide) (by decide)))).mono fun _ _ htogether => htogether.map
  · intro d ts others hts
    obtain ⟨hne, hfollows⟩ := written_section hts others
    exact ⟨hne, hfollows.mono (by decide)⟩
  · exact fun others hothers => hothers.mono (by decide)

end Report

end ListingGrid.Grammar
