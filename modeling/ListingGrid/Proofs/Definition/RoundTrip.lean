import ListingGrid.Proofs.Definition.Whole

/-!
# Writing a definition and reading it again

A definition that was read, with integers as its only constant numbers, can be written,
and whatever the layout it is read again as the same definition apart from the lines of
its fields. These are the lines on which the fields begin in the text.
-/

set_option autoImplicit false

namespace ListingGrid

open ListingGrid.Grammar ListingGrid.Grammar.Parser

def FieldSpec.Integral : FieldSpec → Prop
  | .const (.number (.integer _)) => True
  | .const (.number _) => False
  | _ => True

def FieldsetDefinition.Integral (d : FieldsetDefinition) : Prop :=
  ∀ field ∈ d.fields, field.spec.Integral

structure SectionDefinition.Integral (d : SectionDefinition) : Prop where
  header : ∀ fieldset ∈ d.header, fieldset.Integral
  body : ∀ fieldset ∈ d.body, fieldset.Integral
  footer : ∀ fieldset ∈ d.footer, fieldset.Integral

def Definition.Integral (d : Definition) : Prop := ∀ s ∈ d.sections, s.Integral

variable {source : List Char} {lines : List Nat} {ts : List Token}

namespace Definition

variable {d : Definition}

theorem ahead_nil {s : List Char} (h : Ahead source [] s lines) : skipBlank s = [] ∧ lines = [] := by
  obtain ⟨before, g, text, -, rfl, hg, hlaid⟩ := h
  cases hlaid
  exact ⟨hg.skip [], rfl⟩

theorem stops_pad {text pad pad' rest : List Char} (hgap : text ≠ [] → pad ≠ [])
    (hpad : ∀ c ∈ pad ++ pad', c = ' ' ∨ c = '\t') (hline : BeginsLine rest) :
    Stops Text.isWordChar (pad ++ text ++ pad' ++ rest) := by
  have hplain : ∀ {c : Char}, c = ' ' ∨ c = '\t' → Text.isWordChar c = false := by
    rintro c (rfl | rfl) <;> decide
  have hend : Stops Text.isWordChar rest := Report.stops_beginsLine (by decide) hline
  cases pad with
  | cons d pad =>
    rintro c ⟨rfl⟩
    exact hplain (hpad d (by simp))
  | nil =>
    obtain rfl : text = [] := not_not.mp fun hne => hgap hne rfl
    cases pad' with
    | cons d pad' =>
      rintro c ⟨rfl⟩
      exact hplain (hpad d (by simp))
    | nil => exact hend

theorem Prints.read (hd : d.Readable) (h : d.Prints source lines) :
    ∃ got rest, Report.definition source source = .done got rest ∧ skipBlank rest = [] ∧
      got.unlined = d.unlined ∧ got.lines = lines := by
  cases h with
  | @intro before w pad pad' g rest ts _ hbefore hw hgap hpad hg hline hts hlaid =>
    have hname : IsKeyword "title" := by decide
    have hlower : Text.lowerAll w = Text.lowerAll "title".toList := hw
    have hbegins : BeginsToken w := begins_of_lead hname.isLead hname.ne_empty hlower
    have hend : BeginsLine (g ++ rest) := by
      obtain ⟨more, rfl | rfl⟩ := hline
      · exact ⟨more ++ rest, .inl rfl⟩
      · exact ⟨more ++ rest, .inr rfl⟩
    have hkeyword : Grammar.keyword "title" (before ++ (w ++ (pad ++ d.title.toList ++ pad')) ++
        (g ++ rest)) = .done () (pad ++ d.title.toList ++ pad' ++ (g ++ rest)) := by
      rw [Grammar.keyword, lexeme, List.append_assoc, List.append_assoc, hbefore.skip,
        (hbegins.append _).skip]
      exact hname.word_done hlower (stops_pad (by simpa using hgap) hpad hend)
    have htitle := Report.title_done hd.title hpad hend
    generalize hsource : before ++ (w ++ (pad ++ d.title.toList ++ pad')) ++ (g ++ rest) = source
      at hkeyword ⊢
    have hahead : Ahead source (ts ++ []) (g ++ rest) lines :=
      ⟨before ++ (w ++ (pad ++ d.title.toList ++ pad')), g, rest, hsource.symm, rfl, hg,
        by rwa [List.append_nil]⟩
    obtain ⟨got, own, left, after, hread, ⟨hsame, rfl⟩, hlines, -, hleft⟩ :=
      Report.reads_parts hd hts [] _ lines (List.mem_singleton_self "") hahead
    obtain ⟨hnothing, rfl⟩ := ahead_nil hleft
    refine ⟨got, left, ?_, hnothing, hsame, by rw [hlines, List.append_nil]⟩
    exact bind_eq_done.mpr ⟨(), _, hkeyword, bind_eq_done.mpr ⟨d.title, _, htitle, hread⟩⟩

/-- What was written is read as the same definition, with its fields on their lines. -/
theorem Prints.readDefinition (hd : d.Readable) (h : d.Prints source lines) :
    ∃ got, Grammar.readDefinition (String.ofList source) = .ok got ∧ got.unlined = d.unlined ∧
      got.lines = lines := by
  obtain ⟨got, rest, hread, hrest, hmore⟩ := h.read hd
  refine ⟨got, readDefinition_eq_ok.mpr ⟨rest, ?_, hrest⟩, hmore⟩
  rwa [String.toList_ofList]

end Definition

theorem exists_each {α : Type} {W : α → List Token → Prop} {items : List α}
    (h : ∀ a ∈ items, ∃ ts, W a ts) : ∃ ts, Each W items ts := by
  induction items with
  | nil => exact ⟨[], .nil⟩
  | cons a items ih =>
    obtain ⟨ha, hitems⟩ := List.forall_mem_cons.mp h
    obtain ⟨ts, hts⟩ := ha
    obtain ⟨more, hmore⟩ := ih hitems
    exact ⟨ts ++ more, .cons hts hmore⟩

theorem exists_spells (t : Token) : ∃ w, Spells t w := by
  cases t with
  | word name => exact ⟨name.toList, .word rfl⟩
  | kind name => exact ⟨name.toList, .kind rfl⟩
  | exact text => exact ⟨text, .exact text⟩
  | description text =>
    exact ⟨"description".toList ++ ([' '] ++ text.toList ++ [' ']) ++ "/description".toList,
      .description (by decide) (by decide) (by decide) (by decide)⟩

theorem exists_laid (ts : List Token) (before : List Char) :
    ∃ text lines, Laid before ts text lines := by
  induction ts generalizing before with
  | nil => exact ⟨[], [], .nil⟩
  | cons t ts ih =>
    obtain ⟨w, hw⟩ := exists_spells t
    obtain ⟨text, lines, h⟩ := ih (before ++ (w ++ [' ']))
    exact ⟨_, _, .cons hw (.space (.inl rfl) .none) (fun _ => by simp) h⟩

theorem Style.exists_written (s : Style) : ∃ ts, s.Written ts := by
  have hoption : ∀ option ∈ s.options, ∃ ts, option.Written ts :=
    fun option _ => ⟨_, option.values, .refl _, rfl⟩
  obtain ⟨ts, hts⟩ := exists_each hoption
  exact ⟨_, s.options, ts, .refl _, hts, rfl⟩

theorem FieldSpec.exists_written {spec : FieldSpec} (h : spec.Integral) : ∃ ts, spec.Written ts := by
  cases spec with
  | extracted kind left right => exact ⟨_, .extracted kind left right⟩
  | empty count => exact ⟨_, .empty count⟩
  | function formula => exact ⟨_, .function formula⟩
  | const value =>
    cases value with
    | text text => exact ⟨_, .constText text⟩
    | number number =>
      cases number with
      | integer i => exact ⟨_, .constInteger i⟩
      | _ => exact absurd h id

theorem FieldsetDefinition.exists_fields {d : FieldsetDefinition} (h : d.Integral) :
    ∃ ts, Each FieldDefinition.Written d.fields ts := by
  refine exists_each fun field hfield => ?_
  obtain ⟨spec, hspec⟩ := FieldSpec.exists_written (h field hfield)
  exact ⟨_, spec, hspec, rfl⟩

theorem FieldsetDefinition.exists_writtenSpecial {d : FieldsetDefinition} (h : d.Integral) :
    ∃ ts, d.WrittenSpecial ts := by
  obtain ⟨fields, hfields⟩ := exists_fields h
  exact ⟨_, fields, hfields, rfl⟩

theorem FieldsetDefinition.exists_written {d : FieldsetDefinition} (h : d.Integral) :
    ∃ ts, d.Written ts := by
  obtain ⟨fields, hfields⟩ := exists_fields h
  exact ⟨_, _, fields, .refl _, hfields, rfl⟩

theorem SectionDefinition.exists_written {d : SectionDefinition} (h : d.Integral) :
    ∃ ts, d.Written ts := by
  obtain ⟨header, hheader⟩ := exists_each fun fieldset hmem =>
    FieldsetDefinition.exists_writtenSpecial (h.header fieldset hmem)
  obtain ⟨body, hbody⟩ := exists_each fun fieldset hmem =>
    FieldsetDefinition.exists_written (h.body fieldset hmem)
  obtain ⟨footer, hfooter⟩ := exists_each fun fieldset hmem =>
    FieldsetDefinition.exists_writtenSpecial (h.footer fieldset hmem)
  exact ⟨_, _, header, body, footer, .refl _, hheader, hbody, hfooter, rfl⟩

namespace Definition

variable {d : Definition}

theorem exists_written (h : d.Integral) : ∃ ts, d.Written ts := by
  obtain ⟨styles, hstyles⟩ := exists_each fun style (_ : style ∈ d.styles) => style.exists_written
  obtain ⟨sections, hsections⟩ := exists_each fun s hmem =>
    SectionDefinition.exists_written (h s hmem)
  exact ⟨_, styles, sections, hstyles, hsections, rfl⟩

theorem exists_prints (h : d.Integral) : ∃ source lines, d.Prints source lines := by
  obtain ⟨ts, hts⟩ := exists_written h
  obtain ⟨text, lines, hlaid⟩ :=
    exists_laid ts ([] ++ ("title".toList ++ ([' '] ++ d.title.toList ++ [])) ++ ['\n'])
  exact ⟨_, lines, .intro .none (by decide) (fun _ => by simp) (by simp) (.feed .none)
    ⟨[], .inl rfl⟩ hts hlaid⟩

/-- Whatever the layout in which a definition that was read is written, it is read again
as the same definition, with its fields on the lines on which they begin. -/
theorem readDefinition_prints {text : String} (h : readDefinition text = .ok d)
    (hintegral : d.Integral) :
    (∃ source lines, d.Prints source lines) ∧ ∀ source lines, d.Prints source lines →
      ∃ got, readDefinition (String.ofList source) = .ok got ∧ got.unlined = d.unlined ∧
        got.lines = lines :=
  ⟨exists_prints hintegral, fun _ _ hprints => hprints.readDefinition (readDefinition_readable h)⟩

theorem readDefinition_prints_function :
    ∃ d, readDefinition
        "title N\nsection body fieldset include_filters \"x\"\nconst 1\nfunction =a1 : s" = .ok d ∧
      d.Integral ∧ (∃ source lines, d.Prints source lines) ∧
      ∀ source lines, d.Prints source lines → ∃ got,
        readDefinition (String.ofList source) = .ok got ∧ got.unlined = d.unlined ∧
          got.lines = lines := by
  have hread : readDefinition
      "title N\nsection body fieldset include_filters \"x\"\nconst 1\nfunction =a1 : s" =
      .ok ⟨"N", none, none, [], [], [], [⟨false, false, [], [⟨["x"], false, false,
        [⟨.const (.number (.integer 1)), none, none, 3⟩, ⟨.function "=A1", none, some "s", 4⟩]⟩],
        []⟩]⟩ :=
    (readDefinition_ofList rfl).trans (by decide +kernel)
  refine ⟨_, hread, ?_, readDefinition_prints hread ?_⟩
  all_goals
    rintro _ (_ | ⟨_, ⟨⟩⟩)
    constructor <;> simp [FieldsetDefinition.Integral, FieldSpec.Integral]

end Definition

end ListingGrid
