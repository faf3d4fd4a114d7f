import ListingGrid.Proofs.Definition.FieldLines
import ListingGrid.Proofs.Grammar.Lexemes
import ListingGrid.Proofs.Grammar.Mapped
import ListingGrid.Proofs.Grammar.Matching

/-!
# Sections read alike

Sections are made of keywords, lists of quoted texts and fields. Where two texts agree in
these, they agree in whole sections, field for field.
-/

set_option autoImplicit false

namespace ListingGrid

def FieldsetDefinition.mapFields (f : FieldDefinition → FieldDefinition) (d : FieldsetDefinition) :
    FieldsetDefinition :=
  { d with fields := d.fields.map f }

def SectionDefinition.mapFields (f : FieldDefinition → FieldDefinition) (d : SectionDefinition) :
    SectionDefinition :=
  { d with
    header := d.header.map (·.mapFields f)
    body := d.body.map (·.mapFields f)
    footer := d.footer.map (·.mapFields f) }

/-- The same definition with every field changed. -/
def Definition.mapFields (f : FieldDefinition → FieldDefinition) (d : Definition) : Definition :=
  { d with sections := d.sections.map (·.mapFields f) }

namespace Grammar

open ListingGrid.Grammar.Parser

variable {s rest source source' : List Char} {M : Matching} {first second : String}
  {ψ : FieldDefinition → FieldDefinition}

namespace Report

theorem keyword_settles (name : String) : Settles (keyword name) := fun s =>
  label_settles name (bind_settles (word_settles _) fun _ => notFollowedBy_settles _) (skipBlank s)

/-- Flags end where neither is read, or go on behind one of them. -/
theorem flags_cases {set result : Bool × Bool} (hfirst : IsKeyword first) (hsecond : IsKeyword second)
    (h : flags first second set s = .done result rest) :
    (Fails (lexeme (keyword first)) s ∧ Fails (lexeme (keyword second)) s ∧ set = result ∧ s = rest) ∨
      (∃ mid, lexeme (keyword first) s = .done () mid ∧ set.1 = false ∧
        flags first second (true, set.2) mid = .done result rest) ∨
      ∃ mid, Fails (lexeme (keyword first)) s ∧ lexeme (keyword second) s = .done () mid ∧
        set.2 = false ∧ flags first second (set.1, true) mid = .done result rest := by
  have hlt : ∀ {name : String}, IsKeyword name → ∀ {mid},
      lexeme (keyword name) s = .done () mid → mid.length < s.length := fun hname mid hread =>
    shortens_lexeme (shortens_keyword hname.1) s () mid hread
  rcases keyword_settles first (skipBlank s) with ⟨_, mid, hread⟩ | hfails
  · cases hnew : set.1 with
    | false => exact .inr (.inl ⟨mid, hread, rfl, flags_first hread hnew (hlt hfirst hread) ▸ h⟩)
    | true =>
      unfold flags at h
      rw [hread] at h
      simp [hnew] at h
  rcases keyword_settles second (skipBlank s) with ⟨_, mid, hread⟩ | hfails'
  · cases hnew : set.2 with
    | false =>
      exact .inr (.inr ⟨mid, hfails, hread, rfl,
        flags_second hfails hread hnew (hlt hsecond hread) ▸ h⟩)
    | true =>
      obtain ⟨failure, hfails⟩ := hfails
      unfold flags at h
      rw [hfails, hread] at h
      simp [hnew] at h
  · rw [flags_stop hfails hfails'] at h
    obtain ⟨rfl, rfl⟩ := Result.done.inj h
    exact .inl ⟨hfails, hfails', rfl, rfl⟩

theorem firm_flags (first second : String) (set : Bool × Bool) : Firm (flags first second set) := by
  intro s ⟨failure, h⟩
  fun_induction flags first second set s with
  | case2 _ _ _ _ _ _ _ ih | case5 _ _ _ _ _ _ _ _ ih => exact ih h
  | case1 set s again | case4 set s again => simp [again] at h
  | case3 | case6 | case7 => cases h

/-- Flags are read alike up to a place where neither text has a further one. -/
theorem tracks_flags (hfirst : IsKeyword first) (hsecond : IsKeyword second)
    (hf : Agree M (lexeme (keyword first)) (lexeme (keyword first)) id)
    (hg : Agree M (lexeme (keyword second)) (lexeme (keyword second)) id) (set : Bool × Bool) :
    Tracks M (flags first second set) (flags first second set) id where
  advances := advances_flags first second set
  done {s s' rest result} hs h hrest := by
    -- By induction on the length, as either flag may stand in front of the other.
    induction hn : s.length using Nat.strongRecOn generalizing s s' set with
    | ind n ih =>
      have hlt : ∀ {name : String}, IsKeyword name → ∀ {s mid},
          lexeme (keyword name) s = .done () mid → mid.length < s.length := fun hname _ _ hread =>
        shortens_lexeme (shortens_keyword hname.1) _ () _ hread
      have hstep : ∀ {name : String} {set' : Bool × Bool} {mid : List Char}, IsKeyword name →
          Agree M (lexeme (keyword name)) (lexeme (keyword name)) id →
          lexeme (keyword name) s = .done () mid →
          flags first second set' mid = .done result rest →
          M.Open s ∧ ∃ mid' rest', lexeme (keyword name) s' = .done () mid' ∧
            flags first second set' mid' = .done result rest' ∧ M.Pair rest rest' := by
        intro name set' mid hname hagree hread hmore
        have hbefore := hagree.tracks.advances.suffix hread
        have hbehind := (advances_flags first second set').suffix hmore
        obtain ⟨other, hother⟩ := M.between hs hrest.1.choose_spec hbehind hbefore
        have hshort : mid.length < n := hn ▸ hlt hname hread
        have hopen := (ih mid.length hshort set' hother hmore rfl).1
        obtain ⟨hstart, mid', hread', hmid⟩ := hagree.tracks.done hs hread ⟨⟨other, hother⟩, hopen⟩
        obtain ⟨-, rest', hmore', hpair⟩ := ih mid.length hshort set' hmid hmore rfl
        exact ⟨hstart, mid', rest', hread', hmore', hpair⟩
      rcases flags_cases hfirst hsecond h with ⟨hnone, hnone', rfl, rfl⟩ |
        ⟨mid, hread, hnew, hmore⟩ | ⟨mid, hnone, hread, hnew, hmore⟩
      · exact ⟨hrest.2, s', flags_stop (hf.spares hs hrest.2 hnone) (hg.spares hs hrest.2 hnone'), hs⟩
      · obtain ⟨hopen, mid', rest', hread', hmore', hpair⟩ := hstep hfirst hf hread hmore
        refine ⟨hopen, rest', ?_, hpair⟩
        rw [flags_first hread' hnew (hlt hfirst hread')]
        exact hmore'
      · obtain ⟨hopen, mid', rest', hread', hmore', hpair⟩ := hstep hsecond hg hread hmore
        refine ⟨hopen, rest', ?_, hpair⟩
        rw [flags_second (hf.spares hs hopen hnone) hread' hnew (hlt hsecond hread')]
        exact hmore'

theorem agree_clause {α β : Type} {name : String} {p : Parser α} {p' : Parser β} {φ : α → β}
    (hname : Agree M (keyword name) (keyword name) id) (hp : Tracks M p p' φ) :
    Agree M (clause name p) (clause name p') (Option.map φ) :=
  agree_optional (agree_bind (φ := id) hname (fun _ => tracks_firmly hp) fun _ => firm_firmly p)

theorem extraction_settles : Settles extraction := filterMap_settles _ identifier_settles

theorem startsExtracted_eq_false : startsExtracted s = false ↔ Fails extraction s := by
  unfold startsExtracted Fails
  rcases extraction_settles s with ⟨kind, rest, hread⟩ | ⟨failure, hfails⟩
  · simp [hread]
  · simp [hfails]

def specOf (inBody : Bool) : Parser FieldSpec :=
  if inBody then or specialField extractedField else specialField

theorem fieldSpec_eq_done {inBody : Bool} {spec : FieldSpec} : fieldSpec inBody s = .done spec rest ↔
    (inBody = false → Fails extraction s) ∧ specOf inBody s = .done spec rest := by
  rw [← startsExtracted_eq_false]
  unfold fieldSpec
  cases hread : specOf inBody s <;> cases inBody <;> cases hstart : startsExtracted s <;>
    simp_all [specOf]

theorem fieldSpec_fails {inBody : Bool} : Fails (fieldSpec inBody) s ↔
    (inBody = false → Fails extraction s) ∧ Fails (specOf inBody) s := by
  rw [← startsExtracted_eq_false]
  unfold fieldSpec Fails
  cases hread : specOf inBody s <;> cases inBody <;> cases hstart : startsExtracted s <;>
    simp_all [specOf]

theorem agree_fieldSpec (hspecial : Agree M (lexeme specialField) (lexeme specialField) id)
    (hextraction : Spares M (lexeme extraction) (lexeme extraction))
    (hextracted : Agree M (lexeme extractedField) (lexeme extractedField) id) (inBody : Bool) :
    Agree M (lexeme (fieldSpec inBody)) (lexeme (fieldSpec inBody)) id := by
  have hspec : Agree M (lexeme (specOf inBody)) (lexeme (specOf inBody)) id := by
    cases inBody with
    | false => exact hspecial
    | true => exact agree_or hspecial hextracted
  constructor
  · refine ⟨advances_lexeme (advances_fieldSpec inBody), fun {s s' rest spec} hs h hrest => ?_⟩
    obtain ⟨hnone, hread⟩ := fieldSpec_eq_done.mp h
    obtain ⟨hopen, rest', hread', hpair⟩ := hspec.tracks.done hs hread hrest
    exact ⟨hopen, rest', fieldSpec_eq_done.mpr
      ⟨fun hbody => hextraction hs hopen (hnone hbody), hread'⟩, hpair⟩
  · intro s s' hs hopen hfails
    obtain ⟨hnone, hfails⟩ := fieldSpec_fails.mp hfails
    exact fieldSpec_fails.mpr
      ⟨fun hbody => hextraction hs hopen (hnone hbody), hspec.spares hs hopen hfails⟩

def named : Parser (Option (List Char) × Option (List Char)) := do
  let name ← clause "as" (label "field name" (lexeme identifier))
  let styleId ← optional (do
    let _ ← lexeme (char ':')
    firmly (label "style id" (lexeme identifier)))
  return (name, styleId)

theorem fieldHere_eq (inBody : Bool) (line : Nat) : fieldHere inBody line =
    fieldSpec inBody >>= fun spec => map (fun (name, styleId) =>
      (⟨spec, name.map string, styleId.map string, line⟩ : FieldDefinition)) named := by
  simp only [fieldHere, named, map_bind, map_pure]

theorem fieldHere_map (inBody : Bool) (line line' : Nat) :
    fieldHere inBody line' = map (fun d => { d with line := line' }) (fieldHere inBody line) := by
  simp only [fieldHere, map_bind, map_pure]

theorem tracks_named (has : Agree M (keyword "as") (keyword "as") id)
    (hname : Tracks M (lexeme identifier) (lexeme identifier) id)
    (hcolon : Agree M (lexeme (char ':')) (lexeme (char ':')) id) : Tracks M named named id := by
  have hlabel : Agree M (clause "as" (label "field name" (lexeme identifier)))
      (clause "as" (label "field name" (lexeme identifier))) (Option.map id) :=
    agree_clause has (tracks_label hname)
  have hstyle : Agree M
      (optional (do
        let _ ← lexeme (char ':')
        firmly (label "style id" (lexeme identifier))))
      (optional (do
        let _ ← lexeme (char ':')
        firmly (label "style id" (lexeme identifier)))) (Option.map id) :=
    agree_optional (agree_bind (φ := id) hcolon (fun _ => tracks_firmly (tracks_label hname))
      fun _ => firm_firmly _)
  rw [Option.map_id] at hlabel hstyle
  exact tracks_bind hlabel.tracks fun name => tracks_bind hstyle.tracks fun styleId =>
    tracks_pure (φ := id) (name, styleId)

theorem firm_named : Firm named :=
  firm_bind (firm_optional _) fun _ => firm_bind (firm_optional _) fun _ => firm_pure _

/-- A field is read alike, whatever line it is on, if its parts are. -/
theorem agree_fieldHere {inBody : Bool}
    (hspec : Agree M (lexeme (fieldSpec inBody)) (lexeme (fieldSpec inBody)) id)
    (hnamed : Tracks M named named id) (line : Nat) :
    Agree M (lexeme (fieldHere inBody line)) (lexeme (fieldHere inBody line)) id := by
  rw [fieldHere_eq]
  exact agree_bind (φ := id) hspec (fun spec => tracks_map (φ := id) hnamed fun _ => rfl)
    fun _ => firm_map firm_named

/-- A field on a given line is the field of a source, put on that line. -/
theorem lexeme_fieldHere (source : List Char) (inBody : Bool) (line : Nat) :
    lexeme (fieldHere inBody line) = map (fun d => { d with line }) (field source inBody) := by
  funext s
  rw [lexeme, fieldHere_map inBody (lineAt source (skipBlank s)) line]
  rfl

theorem advances_fieldHere (inBody : Bool) (line : Nat) :
    Advances (lexeme (fieldHere inBody line)) := by
  rw [lexeme_fieldHere []]
  exact advances_map _ (advances_field [] inBody)

theorem field_fails {inBody : Bool} (line : Nat) :
    Fails (field source inBody) s ↔ Fails (lexeme (fieldHere inBody line)) s := by
  rw [lexeme_fieldHere source]
  exact map_fails.symm

/-- Fields that agree up to their lines agree once these are put right. -/
theorem agree_field {inBody : Bool}
    (hhere : ∀ line,
      Agree M (lexeme (fieldHere inBody line)) (lexeme (fieldHere inBody line)) id)
    (hline : ∀ s s' d rest, M.Pair s s' → M.Open s → M.Ends rest →
      field source inBody s = .done d rest →
      ψ d = { d with line := lineAt source' (skipBlank s') }) :
    Agree M (field source inBody) (field source' inBody) ψ where
  tracks := {
    advances := advances_field source inBody
    done := fun {s s' rest d} hs h hrest => by
      obtain ⟨hopen, rest', hread, hpair⟩ :=
        (hhere (lineAt source (skipBlank s))).tracks.done hs h hrest
      refine ⟨hopen, rest', ?_, hpair⟩
      rw [field_eq, fieldHere_map inBody (lineAt source (skipBlank s)), hline s s' d rest hs hopen
        hrest h]
      exact map_eq_done.mpr ⟨d, hread, rfl⟩ }
  spares := fun _ _ hs hopen hfails =>
    (field_fails 0).mpr ((hhere 0).spares hs hopen ((field_fails 0).mp hfails))

/-- Two texts that agree in the parts that sections are made of. -/
structure FieldsAgree (M : Matching) (source source' : List Char)
    (ψ : FieldDefinition → FieldDefinition) : Prop where
  skips : Skips M
  keyword {name : String} (hname : IsKeyword name) : Agree M (keyword name) (keyword name) id
  list : Tracks M quotedList quotedList id
  field (inBody : Bool) : Agree M (field source inBody) (field source' inBody) ψ

theorem shortens_field (source : List Char) (inBody : Bool) : Shortens (field source inBody) := by
  intro s d rest h
  rw [field_eq] at h
  exact Nat.lt_of_lt_of_le (shortens_fieldHere inBody _ _ d rest h) (skipBlank_suffix s).length_le

theorem shortens_specialFieldset (source : List Char) : Shortens (specialFieldset source) :=
  shortens_bind (shortens_keyword (by decide)) fun _ => advances_bind (advances_firmly
    (advances_many1 (advances_field source false))) fun _ => advances_pure _

theorem shortens_bodyFieldset (source : List Char) : Shortens (bodyFieldset source) := by
  refine shortens_bind (shortens_keyword (by decide)) fun _ => advances_bind (advances_firmly
    (advances_bind (advances_keyword _) fun _ => advances_quotedList)) fun _ => ?_
  exact advances_bind (advances_flags _ _ _) fun (newRow, keepInRow) => advances_bind
    (advances_firmly (advances_many1 (advances_field source true))) fun _ => advances_pure _

theorem shortens_sectionDefinition (source : List Char) : Shortens (sectionDefinition source) := by
  refine shortens_bind (shortens_keyword (by decide)) fun _ => advances_bind (advances_flags _ _ _)
    fun (once, blankRow) => ?_
  exact advances_bind (advances_clause _ (advances_many1 (advances_specialFieldset source))) fun _ =>
    advances_bind (advances_firmly (advances_bind (advances_keyword _) fun _ =>
      advances_many1 (advances_bodyFieldset source))) fun _ =>
        advances_bind (advances_clause _ (advances_many1 (advances_specialFieldset source))) fun _ =>
          advances_pure _

section Sections

variable (h : FieldsAgree M source source' ψ)

include h

theorem tracks_fields (inBody : Bool) : Tracks M (firmly (many1 (field source inBody)))
    (firmly (many1 (field source' inBody))) (List.map ψ) :=
  tracks_firmly (tracks_many1 (h.field inBody).tracks (h.field inBody).spares
    (shortens_field source inBody) (shortens_field source' inBody))

theorem agree_specialFieldset : Agree M (specialFieldset source) (specialFieldset source')
    (FieldsetDefinition.mapFields ψ) :=
  agree_bind (φ := id) (h.keyword (by decide)) (fun _ => tracks_bind (tracks_fields h false)
    fun fields => tracks_pure (φ := FieldsetDefinition.mapFields ψ) ⟨[], false, false, fields⟩)
    fun _ => firm_bind (firm_firmly _) fun _ => firm_pure _

theorem agree_flag {name : String} (hname : IsKeyword name) :
    Agree M (lexeme (keyword name)) (lexeme (keyword name)) id :=
  agree_skip h.skips (h.keyword hname)

theorem agree_bodyFieldset : Agree M (bodyFieldset source) (bodyFieldset source')
    (FieldsetDefinition.mapFields ψ) := by
  refine agree_bind (φ := id) (h.keyword (by decide)) (fun _ => ?_) fun _ =>
    firm_bind (firm_firmly _) fun _ => firm_bind (firm_flags _ _ _) fun _ =>
      firm_bind (firm_firmly _) fun _ => firm_pure _
  refine tracks_bind (φ := id) (tracks_firmly (tracks_bind (φ := id)
    (h.keyword (by decide)).tracks fun _ => h.list)) fun filters => ?_
  refine tracks_bind (φ := id) (tracks_flags (by decide) (by decide) (agree_flag h (by decide))
    (agree_flag h (by decide)) _) fun (newRow, keepInRow) => ?_
  exact tracks_bind (tracks_fields h true) fun fields =>
    tracks_pure (φ := FieldsetDefinition.mapFields ψ) ⟨filters, newRow, keepInRow, fields⟩

theorem tracks_specialFieldsets : Tracks M (many1 (specialFieldset source))
    (many1 (specialFieldset source')) (List.map (FieldsetDefinition.mapFields ψ)) :=
  tracks_many1 (agree_specialFieldset h).tracks (agree_specialFieldset h).spares
    (shortens_specialFieldset source) (shortens_specialFieldset source')

theorem tracks_bodyFieldsets : Tracks M (many1 (bodyFieldset source))
    (many1 (bodyFieldset source')) (List.map (FieldsetDefinition.mapFields ψ)) :=
  tracks_many1 (agree_bodyFieldset h).tracks (agree_bodyFieldset h).spares
    (shortens_bodyFieldset source) (shortens_bodyFieldset source')

theorem tracks_footer (once blankRow : Bool) (header : Option (List FieldsetDefinition))
    (body : List FieldsetDefinition) :
    Tracks M (do
      let footer ← clause "footer" (many1 (specialFieldset source))
      return (⟨once, blankRow, header.getD [], body, footer.getD []⟩ : SectionDefinition))
    (do
      let footer ← clause "footer" (many1 (specialFieldset source'))
      return ⟨once, blankRow, (header.map (List.map (FieldsetDefinition.mapFields ψ))).getD [],
        body.map (FieldsetDefinition.mapFields ψ), footer.getD []⟩)
    (SectionDefinition.mapFields ψ) := by
  refine tracks_bind (agree_clause (h.keyword (by decide)) (tracks_specialFieldsets h)).tracks
    fun footer => ?_
  have hpure := tracks_pure (M := M) (φ := SectionDefinition.mapFields ψ)
    ⟨once, blankRow, header.getD [], body, footer.getD []⟩
  cases header <;> cases footer <;> exact hpure

theorem tracks_body (once blankRow : Bool) (header : Option (List FieldsetDefinition)) :
    Tracks M (do
      let body ← firmly (do
        keyword "body"
        many1 (bodyFieldset source))
      let footer ← clause "footer" (many1 (specialFieldset source))
      return (⟨once, blankRow, header.getD [], body, footer.getD []⟩ : SectionDefinition))
    (do
      let body ← firmly (do
        keyword "body"
        many1 (bodyFieldset source'))
      let footer ← clause "footer" (many1 (specialFieldset source'))
      return ⟨once, blankRow, (header.map (List.map (FieldsetDefinition.mapFields ψ))).getD [],
        body, footer.getD []⟩)
    (SectionDefinition.mapFields ψ) :=
  tracks_bind (tracks_firmly (tracks_bind (φ := id) (h.keyword (by decide)).tracks fun _ =>
    tracks_bodyFieldsets h)) fun body => tracks_footer h once blankRow header body

theorem agree_sectionDefinition : Agree M (sectionDefinition source) (sectionDefinition source')
    (SectionDefinition.mapFields ψ) := by
  refine agree_bind (φ := id) (h.keyword (by decide)) (fun _ => ?_) fun _ =>
    firm_bind (firm_flags _ _ _) fun _ => firm_bind (firm_optional _) fun _ =>
      firm_bind (firm_firmly _) fun _ => firm_bind (firm_optional _) fun _ => firm_pure _
  refine tracks_bind (φ := id) (tracks_flags (by decide) (by decide) (agree_flag h (by decide))
    (agree_flag h (by decide)) _) fun (once, blankRow) => ?_
  exact tracks_bind (agree_clause (h.keyword (by decide)) (tracks_specialFieldsets h)).tracks
    fun header => tracks_body h once blankRow header

theorem tracks_sections : Tracks M (many1 (sectionDefinition source))
    (many1 (sectionDefinition source')) (List.map (SectionDefinition.mapFields ψ)) :=
  tracks_many1 (agree_sectionDefinition h).tracks (agree_sectionDefinition h).spares
    (shortens_sectionDefinition source) (shortens_sectionDefinition source')

end Sections

end Report

end Grammar

end ListingGrid
