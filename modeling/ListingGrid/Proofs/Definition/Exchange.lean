import ListingGrid.Proofs.Definition.Across
import ListingGrid.Proofs.Definition.InFront
import ListingGrid.Proofs.Definition.Places
import ListingGrid.Proofs.Grammar.Behind

/-!
# Exchanging what a field holds

A definition stays one when what a field holds is written otherwise, as long as the new text
begins with the same word and ends where the old one did. Every other field is read as
before; the ones behind shift by the lines that were added or dropped.
-/

set_option autoImplicit false

namespace ListingGrid

/-- A field, which is given by its place in the source, once the field at the place `mark`
holds `spec` and the numbers of line feeds in it are changed. -/
def FieldDefinition.exchanged (source : List Char) (mark added dropped : Nat) (spec : FieldSpec)
    (d : FieldDefinition) : FieldDefinition :=
  if d.line < mark then d.onLine source
  else if d.line = mark then { d.onLine source with spec }
  else { d.onLine source with line := (d.onLine source).line + added - dropped }

namespace Grammar

open ListingGrid.Grammar.Parser

variable {before head head' after s s' rest x y T T' : List Char} {source : List Char}
  {spec : FieldSpec} {inBody : Bool} {d : FieldDefinition}

namespace Report

theorem field_line (h : field source inBody s = .done d rest) :
    d.line = lineAt source (skipBlank s) := by
  rw [field_eq] at h
  exact gives_fieldHere inBody _ _ d rest h

theorem onLine_line (h : d.line = lineAt (places source.length) s) :
    (d.onLine source).line = lineAt source s := by
  rw [lineAt_places] at h
  simp [FieldDefinition.onLine, lineAt, h]

theorem lineAt_front (hle : y.length ≤ before.length) (T : List Char) :
    lineAt (before ++ T) (y ++ T) =
      Text.lineNumber (before.take (before.length - y.length)) := by
  have hlength : (before ++ T).length - (y ++ T).length = before.length - y.length := by
    simp only [List.length_append]
    omega
  rw [lineAt, hlength, List.take_append_of_le_length (Nat.sub_le _ _)]

theorem lineAt_behind (hle : s.length ≤ after.length) :
    lineAt (before ++ (head ++ after)) s =
      before.count '\n' + (head.count '\n' + (after.take (after.length - s.length)).count '\n') + 1 := by
  have hlength : (before ++ (head ++ after)).length - s.length =
      before.length + (head.length + (after.length - s.length)) := by
    simp only [List.length_append]
    omega
  rw [lineAt, hlength, List.take_length_add_append, List.take_length_add_append]
  simp [Text.lineNumber]

/-- `head` is exchanged for `head'`, which holds `spec` in front of `after`. -/
structure Exchange (head head' after : List Char) (spec : FieldSpec) : Prop where
  stem : Stem (head ++ after) (head' ++ after)
  ne_nil : head ≠ []
  passes {inBody : Bool} {old : FieldSpec} {mid : List Char}
    (h : fieldSpec inBody (head ++ after) = .done old mid) : mid = after
  done {inBody : Bool} {old : FieldSpec} {mid : List Char}
    (h : fieldSpec inBody (head ++ after) = .done old mid) (hafter : Unjoined after) :
    ∃ left, fieldSpec inBody (head' ++ after) = .done spec left ∧ skipBlank left = skipBlank after

theorem sides_exchange : Sides (before ++ T) (inFront (before.length + 1) barred T T')
    (behind after) where
  earlier {s mid _} hs hmid h := by
    obtain ⟨y, -, rfl, rfl⟩ := h
    obtain ⟨z, rfl⟩ := hmid
    refine ⟨z ++ y ++ T', z ++ y, ?_, by simp, rfl⟩
    have hle := hs.length_le
    simp only [List.length_append] at hle ⊢
    omega
  later {_ _ rest} h hrest := ⟨rest, behind_pair (hrest.trans h.1)⟩

theorem unjoined_of_fieldSpec (h : fieldSpec inBody (skipBlank s) = .done spec rest) :
    Unjoined s := by
  have hkeyword : ∀ {name : String} {p : Unit → Parser FieldSpec}, IsKeyword name →
      (keyword name >>= p) (skipBlank s) = .done spec rest → Unjoined s := fun hname hread => by
    obtain ⟨_, mid, hword, -⟩ := bind_eq_done.mp hread
    have hunjoined := unjoined_of_keyword hname hword
    rwa [Unjoined, skipBlank_skipBlank] at hunjoined
  have hspecial : specialField (skipBlank s) = .done spec rest → Unjoined s := fun hread => by
    obtain hread | ⟨-, hread⟩ := firstOf_eq_done.mp hread
    · exact hkeyword (by decide) hread
    obtain hread | ⟨-, hread⟩ := firstOf_eq_done.mp hread
    · exact hkeyword (by decide) hread
    obtain hread | ⟨-, hread⟩ := firstOf_eq_done.mp hread
    · exact hkeyword (by decide) hread
    · exact hread.elim
  obtain ⟨-, hread⟩ := fieldSpec_eq_done.mp h
  cases inBody with
  | false => exact hspecial hread
  | true =>
    obtain hread | ⟨-, hread⟩ := or_eq_done.mp hread
    · exact hspecial hread
    · obtain ⟨kind, mid, hkind, -⟩ := bind_eq_done.mp hread
      exact unjoined_of_worded worded_extraction shortens_extraction hkind

/-- A field in front is on the same line in both texts. -/
theorem exchanged_front (hy : y ≠ []) (hle : y.length ≤ before.length)
    (hline : d.line = lineAt (places (before ++ (head ++ after)).length) (y ++ (head ++ after)))
    (added dropped : Nat) :
    d.exchanged (before ++ (head ++ after)) (before.length + 1) added dropped spec =
      { d with line := lineAt (before ++ (head' ++ after)) (y ++ (head' ++ after)) } := by
  have hpositive := List.length_pos_iff.mpr hy
  have hlt : d.line < before.length + 1 := by
    rw [hline, lineAt_places]
    simp only [List.length_append]
    omega
  rw [FieldDefinition.exchanged, if_pos hlt, lineAt_front hle, ← lineAt_front hle (head ++ after),
    ← onLine_line hline]
  rfl

/-- The field at the mark holds something else then, on the line where it was. -/
theorem exchanged_mark (hmark : d.line = before.length + 1) (added dropped : Nat) :
    d.exchanged (before ++ T) (before.length + 1) added dropped spec =
      { d with spec, line := lineAt (before ++ T') T' } := by
  have hline : (d.onLine (before ++ T)).line = lineAt (before ++ T') T' := by
    simp [FieldDefinition.onLine, lineAt, hmark]
  rw [FieldDefinition.exchanged, if_neg (by omega), if_pos hmark, ← hline]
  rfl

/-- The place of the field at the mark is the one where the exchanged part begins. -/
theorem skipBlank_of_mark (hs : s <:+ before ++ T)
    (hread : field (places (before ++ T).length) inBody s = .done d rest)
    (hmark : d.line = before.length + 1) : skipBlank s = T := by
  have hline := field_line hread
  have hsuffix := (skipBlank_suffix s).trans hs
  have hle := hsuffix.length_le
  rw [hmark, lineAt_places] at hline
  have hlength : (skipBlank s).length = T.length := by
    simp only [List.length_append] at hline hle
    omega
  exact (List.suffix_of_suffix_length_le hsuffix (List.suffix_append before T)
    hlength.le).eq_of_length hlength

section Fields

variable (h : Exchange head head' after spec)

include h

theorem Exchange.letter : ∃ c, (head ++ after).head? = some c ∧ c ∉ barred := by
  obtain ⟨c, more, more', heq, -, hletter⟩ :=
    h.stem.tails.head.resolve_left fun hnil => h.stem.ne_nil hnil.1
  have hbegins : beginsWord c = true := by
    rw [beginsWord, Text.isWordChar_of_isLetter hletter, Bool.true_or]
  exact ⟨c, by rw [heq]; rfl, (not_sign_of_beginsWord hbegins).1⟩

/-- A field behind shifts by the lines that the exchanged part has more or less. -/
theorem exchanged_behind (hle : s.length ≤ after.length)
    (hline : d.line = lineAt (places (before ++ (head ++ after)).length) s) {added dropped : Nat}
    (hcount : head.count '\n' + added = head'.count '\n' + dropped) :
    d.exchanged (before ++ (head ++ after)) (before.length + 1) added dropped spec =
      { d with line := lineAt (before ++ (head' ++ after)) s } := by
  have hpositive := List.length_pos_iff.mpr h.ne_nil
  have hlt : before.length + 1 < d.line := by
    rw [hline, lineAt_places]
    simp only [List.length_append]
    omega
  rw [FieldDefinition.exchanged, if_neg (by omega), if_neg (by omega), onLine_line hline,
    lineAt_behind hle, lineAt_behind hle]
  have hshift : before.count '\n' + (head.count '\n' +
        (after.take (after.length - s.length)).count '\n') + 1 + added - dropped =
      before.count '\n' + (head'.count '\n' +
        (after.take (after.length - s.length)).count '\n') + 1 := by omega
  rw [hshift]
  rfl

end Fields

def afterTitle (source : List Char) (titleText : String) : Parser Definition := do
  let descriptionText ← clause "description" description
  let enc ← clause "encoding" encoding
  let columnWidths ← clause "columns_width" widths
  let excludeFilters ← clause "exclude_filters" quotedList
  let styles ← many StyleBlock.style
  let sections ← many1 (sectionDefinition source)
  return ⟨titleText, descriptionText, enc, columnWidths.getD [], excludeFilters.getD [],
    styles, sections⟩

section Agreement

variable {added dropped : Nat} (h : Exchange head head' after spec)

include h

theorem fieldsAgree_front : FieldsAgree
    (inFront (before.length + 1) barred (head ++ after) (head' ++ after))
    (places (before ++ (head ++ after)).length) (before ++ (head' ++ after))
    (·.exchanged (before ++ (head ++ after)) (before.length + 1) added dropped spec) where
  skips := skips_stem h.stem
  keyword := agree_keyword h.stem
  list := tracks_quotedList h.stem
  field inBody := by
    have hskips := skips_stem (n := before.length + 1) h.stem
    have hcolon : Agree (inFront (before.length + 1) barred (head ++ after) (head' ++ after))
        (lexeme (char ':')) (lexeme (char ':')) id :=
      ⟨tracks_char h.stem.tails hash_mem_barred (by decide),
        spares_char h.stem.tails hash_mem_barred fun hnil => absurd hnil h.stem.ne_nil⟩
    refine agree_field (agree_fieldHere (agree_fieldSpec
      (agree_skip hskips (agree_specialField h.stem)) (agree_extraction h.stem).spares
      (agree_extractedField h.stem) inBody)
      (tracks_named (agree_keyword h.stem (by decide)) (agree_name h.stem).tracks hcolon)) ?_
    intro s s' d rest hs hopen hrest hread
    obtain ⟨y, hlt, hy, hy'⟩ := hskips.pair hs hopen
    obtain ⟨z, -, hz, -⟩ := hrest.1.choose_spec
    have hne : y ≠ [] := by
      rintro rfl
      have hshort := shortens_fieldHere inBody _ _ d rest (by rwa [field_eq] at hread)
      rw [hy, hz] at hshort
      simp only [List.length_append, List.nil_append] at hshort
      omega
    rw [hy']
    exact exchanged_front hne (Nat.le_of_lt_succ hlt) (hy ▸ field_line hread) added dropped

theorem fieldsAgree_behind (hcount : head.count '\n' + added = head'.count '\n' + dropped) :
    FieldsAgree (behind after)
    (places (before ++ (head ++ after)).length) (before ++ (head' ++ after))
    (·.exchanged (before ++ (head ++ after)) (before.length + 1) added dropped spec) where
  skips := skips_behind
  keyword := keyword_behind
  list := quotedList_behind.tracks
  field inBody := by
    refine agree_field (fun line => agree_behind
      (advances_fieldHere inBody line) fun s d rest hread => ?_) ?_
    · obtain ⟨old, mid, hspec, -⟩ := bind_eq_done.mp hread
      exact unjoined_of_fieldSpec hspec
    · intro s s' d rest hs hopen hrest hread
      rw [hs.2]
      exact exchanged_behind h (((skipBlank_suffix s).trans hs.1).length_le) (field_line hread) hcount

/-- The field that holds the exchanged part holds `spec` then. Its name and its style stand
behind. -/
theorem Exchange.fieldHere {line : Nat} (line' : Nat)
    (hread : Report.fieldHere inBody line (head ++ after) = .done d rest) :
    rest <:+ after ∧ (Unjoined rest → ∃ rest',
      Report.fieldHere inBody line' (head' ++ after) = .done { d with spec, line := line' } rest' ∧
        (behind after).Pair rest rest') := by
  rw [fieldHere_eq] at hread
  obtain ⟨old, mid, hold, hmore⟩ := bind_eq_done.mp hread
  obtain ⟨names, hnames, rfl⟩ := map_eq_done.mp hmore
  obtain rfl := h.passes hold
  have htracks : Tracks (behind mid) named named id :=
    tracks_named (keyword_behind (by decide)) name_behind.tracks (char_behind (by decide))
  have hlast := htracks.advances.suffix hnames
  refine ⟨hlast, fun hrest => ?_⟩
  have hends : (behind mid).Ends rest := ⟨⟨rest, behind_pair hlast⟩, hrest⟩
  obtain ⟨hafter, -⟩ := htracks.done (behind_pair List.suffix_rfl) hnames hends
  obtain ⟨left, hspec, hleft⟩ := h.done hold hafter
  obtain ⟨-, rest', hnames', hpair⟩ := htracks.done ⟨List.suffix_rfl, hleft⟩ hnames hends
  refine ⟨rest', ?_, hpair⟩
  rw [fieldHere_eq]
  exact bind_eq_done.mpr ⟨spec, left, hspec, map_eq_done.mpr ⟨names, hnames', rfl⟩⟩

theorem across_field (inBody : Bool) :
    Across (inFront (before.length + 1) barred (head ++ after) (head' ++ after)) (behind after)
      (before ++ (head ++ after)) (field (places (before ++ (head ++ after)).length) inBody)
      (field (before ++ (head' ++ after)) inBody) (fun d => d.line = before.length + 1)
      (·.exchanged (before ++ (head ++ after)) (before.length + 1) added dropped spec) := by
  intro s rest d hs hread hmark
  have hstart := skipBlank_of_mark hs hread hmark
  obtain ⟨x, rfl⟩ : ∃ x, x ++ (head ++ after) = s := hstart ▸ skipBlank_suffix s
  rw [field_eq, hstart] at hread
  obtain ⟨hlast, hreads⟩ :=
    h.fieldHere (lineAt (before ++ (head' ++ after)) (head' ++ after)) hread
  refine ⟨⟨rest, behind_pair hlast⟩, fun hrest => ?_⟩
  obtain ⟨rest', hread', hpair⟩ := hreads hrest
  obtain ⟨c, hc, hbarred⟩ := h.letter
  have hopen : (inFront (before.length + 1) barred (head ++ after) (head' ++ after)).Open
      (x ++ (head ++ after)) := by
    refine ⟨by rw [hstart], fun e he => ?_⟩
    rw [hstart, hc] at he
    exact Option.some.inj he ▸ hbarred
  have hx : x.length < before.length + 1 := by
    have hle := hs.length_le
    simp only [List.length_append] at hle
    omega
  refine ⟨⟨⟨x ++ (head' ++ after), inFront_pair hx⟩, hopen⟩, fun s' hs' => ⟨rest', ?_, hpair⟩⟩
  obtain ⟨y, -, hy, hy'⟩ := (skips_stem h.stem).pair hs' hopen
  obtain rfl : y = [] := by
    rw [hstart] at hy
    exact List.append_left_eq_self.mp hy.symm
  rw [field_eq, hy']
  exact hread'.trans (congrArg (Result.done · rest') (exchanged_mark hmark added dropped).symm)

theorem fieldsAcross (before : List Char)
    (hcount : head.count '\n' + added = head'.count '\n' + dropped) :
    FieldsAcross (inFront (before.length + 1) barred (head ++ after) (head' ++ after))
      (behind after) (before ++ (head ++ after)) (places (before ++ (head ++ after)).length)
      (before ++ (head' ++ after)) (before.length + 1)
      (·.exchanged (before ++ (head ++ after)) (before.length + 1) added dropped spec) :=
  ⟨sides_exchange, fieldsAgree_front h, fieldsAgree_behind h hcount, across_field h⟩

theorem across_afterTitle (hcount : head.count '\n' + added = head'.count '\n' + dropped)
    (titleText : String) :
    Across (inFront (before.length + 1) barred (head ++ after) (head' ++ after)) (behind after)
      (before ++ (head ++ after))
      (afterTitle (places (before ++ (head ++ after)).length) titleText)
      (afterTitle (before ++ (head' ++ after)) titleText) (fun d => before.length + 1 ∈ d.lines)
      (Definition.mapFields
        (·.exchanged (before ++ (head ++ after)) (before.length + 1) added dropped spec)) := by
  have hfields := fieldsAcross h before hcount
  have hclause : ∀ {α : Type} {name : String} {p : Parser α}, IsKeyword name →
      Tracks (inFront (before.length + 1) barred (head ++ after) (head' ++ after)) p p id →
      Tracks (inFront (before.length + 1) barred (head ++ after) (head' ++ after)) (clause name p)
        (clause name p) id := fun hname hp => by
    have htracks := (agree_clause (agree_keyword h.stem hname) hp).tracks
    rwa [Option.map_id] at htracks
  have hstyles := tracks_many (StyleBlock.agree_style (n := before.length + 1) h.stem).tracks
    (StyleBlock.agree_style h.stem).spares StyleBlock.shortens_style StyleBlock.shortens_style
  rw [List.map_id_fun] at hstyles
  refine across_after (φ := id) hfields.sides (tracks_description h.stem) fun descriptionText => ?_
  refine across_after (φ := id) hfields.sides (hclause (by decide) (tracks_encoding h.stem))
    fun enc => ?_
  refine across_after (φ := id) hfields.sides (hclause (by decide) (tracks_widths h.stem))
    fun columnWidths => ?_
  refine across_after (φ := id) hfields.sides (hclause (by decide) (tracks_quotedList h.stem))
    fun excludeFilters => ?_
  refine across_after (φ := id) hfields.sides hstyles fun styles => ?_
  refine across_bind hfields.sides (across_sections hfields) (tracks_sections hfields.front)
    (fun sections => across_pure ?_) fun sections => tracks_pure (φ := Definition.mapFields _)
      ⟨titleText, descriptionText, enc, columnWidths.getD [], excludeFilters.getD [], styles, sections⟩
  simp [Definition.lines]

/-- The whole definition is read again, with the field that holds the exchanged part changed
and the lines of the fields behind it shifted. -/
theorem definition_exchanged (hcount : head.count '\n' + added = head'.count '\n' + dropped)
    {placed : Definition}
    (hread : definition (places (before ++ (head ++ after)).length) (before ++ (head ++ after)) =
      .done placed rest)
    (hmark : before.length + 1 ∈ placed.lines) (hrest : Unjoined rest) :
    ∃ rest', definition (before ++ (head' ++ after)) (before ++ (head' ++ after)) =
      .done (placed.mapFields
        (·.exchanged (before ++ (head ++ after)) (before.length + 1) added dropped spec)) rest' ∧
        skipBlank rest' = skipBlank rest := by
  obtain ⟨_, left, hword, hmore⟩ := bind_eq_done.mp hread
  obtain ⟨titleText, mid, htitle, hlater⟩ := bind_eq_done.mp hmore
  have hleft := (advances_keyword "title").suffix hword
  have hmid := advances_title.suffix htitle
  have hcross := across_afterTitle h hcount titleText (hmid.trans hleft) hlater hmark
  obtain ⟨⟨⟨_, y, hy, rfl, -⟩, -⟩, hreads⟩ := hcross.done hrest
  obtain ⟨rest', hlater', -, hskip⟩ := hreads _ (inFront_pair hy)
  have hlength := hmid.length_le
  simp only [List.length_append] at hlength
  obtain ⟨-, left', hword', z, -, rfl, rfl⟩ := keyword_in_front h.stem (by decide)
    (inFront_pair (Nat.lt_succ_self before.length)) hword (by simp; omega)
  have htitle' := title_in_front h.stem htitle
  exact ⟨rest', bind_eq_done.mpr ⟨(), _, hword', bind_eq_done.mpr ⟨titleText, _, htitle', hlater'⟩⟩,
    hskip⟩

end Agreement

end Report

end Grammar

end ListingGrid
