import Mathlib.Data.List.Forall2
import ListingGrid.Proofs.Output.MarkupReader

/-!
# Elements of markup

Markup that is written reads back as elements: every element is found where it was written, with
its attributes and its text. Of a text, nothing is left that could open or close anything.
-/

set_option autoImplicit false

namespace ListingGrid

namespace Markup

variable (holdsText : String → Bool)

def indentation (depth : Nat) : Token := .text (String.ofList (newLine depth))

mutual

def tokensAt (depth : Nat) : Markup → List Token
  | .leaf tag attributes text =>
    [indentation depth, .opening ⟨tag, attributes⟩, .text text, .closing tag]
  | .single tag attributes => [indentation depth, .single ⟨tag, attributes⟩]
  | .node tag attributes children =>
    indentation depth :: .opening ⟨tag, attributes⟩ :: allTokensAt (depth + 1) children ++
      [indentation depth, .closing tag]

def allTokensAt (depth : Nat) : List Markup → List Token
  | [] => []
  | m :: more => tokensAt depth m ++ allTokensAt depth more

end

mutual

def element : Markup → Element
  | .leaf tag attributes text => .leaf tag attributes text
  | .single tag attributes =>
    if holdsText tag then .leaf tag attributes "" else .node tag attributes []
  | .node tag attributes children => .node tag attributes (elements children)

def elements : List Markup → List Element
  | [] => []
  | m :: more => element m :: elements more

end

mutual

/-- Whether tags and attributes have names that a reader takes, and texts are where a reader
expects them. -/
def Fits : Markup → Prop
  | .leaf tag attributes _ => Tag.isNamed ⟨tag, attributes⟩ ∧ holdsText tag
  | .single tag attributes => Tag.isNamed ⟨tag, attributes⟩
  | .node tag attributes children =>
    Tag.isNamed ⟨tag, attributes⟩ ∧ holdsText tag = false ∧ AllFit children

def AllFit : List Markup → Prop
  | [] => True
  | m :: more => Fits m ∧ AllFit more

end

variable {holdsText}

structure ReadsAs (holdsText : String → Bool) (m : Markup) (found : Element) : Prop where
  fits : m.Fits holdsText
  element_eq : m.element holdsText = found

namespace ReadsAs

variable {tag : String} {attributes : List (String × String)}

theorem leaf (htag : Tag.isNamed ⟨tag, attributes⟩ = true) (htext : holdsText tag = true)
    (text : String) : ReadsAs holdsText (.leaf tag attributes text) (.leaf tag attributes text) :=
  ⟨⟨htag, htext⟩, rfl⟩

theorem emptyLeaf (htag : Tag.isNamed ⟨tag, attributes⟩ = true) (htext : holdsText tag = true) :
    ReadsAs holdsText (.single tag attributes) (.leaf tag attributes "") :=
  ⟨htag, if_pos htext⟩

theorem single (htag : Tag.isNamed ⟨tag, attributes⟩ = true) (htext : holdsText tag = false) :
    ReadsAs holdsText (.single tag attributes) (.node tag attributes []) :=
  ⟨htag, if_neg (by simp [htext])⟩

theorem all {ms : List Markup} {found : List Element}
    (h : List.Forall₂ (ReadsAs holdsText) ms found) :
    AllFit holdsText ms ∧ elements holdsText ms = found := by
  induction h with
  | nil => exact ⟨trivial, rfl⟩
  | cons hm _ ih => exact ⟨⟨hm.fits, ih.1⟩, by rw [elements, hm.element_eq, ih.2]⟩

theorem node (htag : Tag.isNamed ⟨tag, attributes⟩ = true) (htext : holdsText tag = false)
    {ms : List Markup} {found : List Element} (h : List.Forall₂ (ReadsAs holdsText) ms found) :
    ReadsAs holdsText (.node tag attributes ms) (.node tag attributes found) :=
  ⟨⟨htag, htext, (all h).1⟩, by rw [element, (all h).2]⟩

theorem map {α : Type} {f : α → Markup} {g : α → Element} (h : ∀ x, ReadsAs holdsText (f x) (g x))
    (l : List α) : List.Forall₂ (ReadsAs holdsText) (l.map f) (l.map g) := by
  simpa only [List.forall₂_map_left_iff, List.forall₂_map_right_iff, List.forall₂_same] using
    fun x _ => h x

end ReadsAs

namespace Lexer

theorem run_newLine {ts : List Token} (depth : Nat) (rest : List Char) :
    run ⟨.text [], ts⟩ (newLine depth ++ '<' :: rest) =
      run ⟨.start, ts ++ [indentation depth]⟩ rest := by
  have hraw : unescape (newLine depth) = some (String.ofList (newLine depth)).toList := by
    have hplain : '&' ∉ newLine depth := by simp [newLine]
    rw [unescape_plain hplain, String.toList_ofList]
  exact run_text hraw (by simp [newLine]) rest

mutual

theorem run_render {m : Markup} (h : m.Fits holdsText) (depth : Nat) (ts : List Token)
    (rest : List Char) :
    run ⟨.text [], ts⟩ (render depth m ++ rest) =
      run ⟨.text [], ts ++ tokensAt depth m⟩ rest := by
  cases m with
  | leaf tag attributes text =>
    obtain ⟨htag, -⟩ := h
    simp only [render, closingTag, List.append_assoc, List.cons_append, List.nil_append]
    rw [run_newLine, run_opening htag, run_escape, run_closing (Tag.isName_of_isNamed htag)]
    simp [tokensAt]
  | single tag attributes =>
    simp only [render, List.append_assoc, List.cons_append, List.nil_append]
    rw [run_newLine, run_single h]
    simp [tokensAt]
  | node tag attributes children =>
    obtain ⟨htag, -, hchildren⟩ := h
    simp only [render, closingTag, List.append_assoc, List.cons_append, List.nil_append]
    rw [run_newLine, run_opening htag, run_renderAll hchildren, run_newLine,
      run_closing (Tag.isName_of_isNamed htag)]
    simp [tokensAt]

theorem run_renderAll {ms : List Markup} (h : AllFit holdsText ms) (depth : Nat) (ts : List Token)
    (rest : List Char) :
    run ⟨.text [], ts⟩ (renderAll depth ms ++ rest) =
      run ⟨.text [], ts ++ allTokensAt depth ms⟩ rest := by
  cases ms with
  | nil => simp [renderAll, allTokensAt]
  | cons m more =>
    rw [renderAll, List.append_assoc, run_render h.1, run_renderAll h.2, allTokensAt,
      List.append_assoc]

end

end Lexer

namespace Builder

def run (holdsText : String → Bool) (b : Builder) (ts : List Token) : Option Builder :=
  ts.foldlM (step holdsText) b

def addAll (b : Builder) (elements : List Element) : Builder :=
  { b with current := { b.current with children := b.current.children ++ elements } }

theorem run_step {b next : Builder} {t : Token} (h : step holdsText b t = some next)
    (ts : List Token) : run holdsText b (t :: ts) = run holdsText next ts := by
  simp [run, h]

theorem step_indentation {b : Builder} (h : holdsText b.current.tag.name = false) (depth : Nat) :
    step holdsText b (indentation depth) = some b := by
  have hspace : (newLine depth).all isSpace = true := by simp [newLine, isSpace]
  simp [step, indentation, h, hspace]

theorem step_opening {b : Builder} (h : holdsText b.current.tag.name = false) (tag : Tag) :
    step holdsText b (.opening tag) = some ⟨⟨tag, "", []⟩, b.current :: b.outer⟩ := by
  simp [step, h]

mutual

theorem run_tokensAt {m : Markup} (hm : m.Fits holdsText) (b : Builder)
    (h : holdsText b.current.tag.name = false) (depth : Nat) (ts : List Token) :
    run holdsText b (tokensAt depth m ++ ts) =
      run holdsText (b.addAll [m.element holdsText]) ts := by
  cases m with
  | leaf tag attributes text =>
    obtain ⟨-, htext⟩ := hm
    have hheld : step holdsText ⟨⟨⟨tag, attributes⟩, "", []⟩, b.current :: b.outer⟩ (.text text) =
        some ⟨⟨⟨tag, attributes⟩, text, []⟩, b.current :: b.outer⟩ := by
      simp [step, htext]
    have hclosing : step holdsText ⟨⟨⟨tag, attributes⟩, text, []⟩, b.current :: b.outer⟩ (.closing tag) =
        some (b.addAll [element holdsText (.leaf tag attributes text)]) := by
      simp [step, addAll, Frame.add, Frame.element, element, htext]
    simp only [tokensAt, List.cons_append, List.nil_append]
    rw [run_step (step_indentation h depth), run_step (step_opening h _), run_step hheld,
      run_step hclosing]
  | single tag attributes =>
    have hsingle : step holdsText b (.single ⟨tag, attributes⟩) =
        some (b.addAll [element holdsText (.single tag attributes)]) := by
      simp [step, h, addAll, Frame.add, Frame.element, element]
    simp only [tokensAt, List.cons_append, List.nil_append]
    rw [run_step (step_indentation h depth), run_step hsingle]
  | node tag attributes children =>
    obtain ⟨-, htext, hchildren⟩ := hm
    let opened : Builder := ⟨⟨⟨tag, attributes⟩, "", []⟩, b.current :: b.outer⟩
    have hfull : holdsText (opened.addAll (elements holdsText children)).current.tag.name = false :=
      htext
    have hclosing : step holdsText (opened.addAll (elements holdsText children)) (.closing tag) =
        some (b.addAll [element holdsText (.node tag attributes children)]) := by
      simp [step, opened, addAll, Frame.add, Frame.element, element, htext]
    simp only [tokensAt, List.cons_append, List.append_assoc, List.nil_append]
    rw [run_step (step_indentation h depth), run_step (step_opening h _),
      run_allTokensAt hchildren opened htext, run_step (step_indentation hfull depth),
      run_step hclosing]

theorem run_allTokensAt {ms : List Markup} (hms : AllFit holdsText ms) (b : Builder)
    (h : holdsText b.current.tag.name = false) (depth : Nat) (ts : List Token) :
    run holdsText b (allTokensAt depth ms ++ ts) =
      run holdsText (b.addAll (elements holdsText ms)) ts := by
  cases ms with
  | nil => simp [allTokensAt, elements, addAll]
  | cons m more =>
    have hadd : (b.addAll [m.element holdsText]).addAll (elements holdsText more) =
        b.addAll (elements holdsText (m :: more)) := by
      simp [addAll, elements]
    rw [allTokensAt, List.append_assoc, run_tokensAt hms.1 b h,
      run_allTokensAt hms.2 (b.addAll _) h, hadd]

end

end Builder

def delimiters (cs : List Char) : List Char := cs.filter isDelimiter

theorem delimiters_append (a b : List Char) : delimiters (a ++ b) = delimiters a ++ delimiters b :=
  List.filter_append ..

theorem delimiters_cons (c : Char) (cs : List Char) :
    delimiters (c :: cs) = if isDelimiter c then c :: delimiters cs else delimiters cs :=
  List.filter_cons

theorem delimiters_escape (text : String) : delimiters (escape text) = [] :=
  List.filter_eq_nil_iff.mpr fun _ hc => by simp [not_delimiter_of_mem_escape hc]

def bareAttributes (attributes : List (String × String)) : List (String × String) :=
  attributes.map fun a => (a.1, "")

mutual

def bare : Markup → Markup
  | .leaf tag attributes _ => .leaf tag (bareAttributes attributes) ""
  | .single tag attributes => .single tag (bareAttributes attributes)
  | .node tag attributes children => .node tag (bareAttributes attributes) (bareAll children)

def bareAll : List Markup → List Markup
  | [] => []
  | m :: more => bare m :: bareAll more

end

theorem delimiters_tagText (tag : String) (attributes : List (String × String)) :
    delimiters (tagText tag attributes) = delimiters (tagText tag (bareAttributes attributes)) := by
  have hattribute : ∀ a : String × String,
      delimiters (attributeText a) = delimiters (attributeText (a.1, "")) := fun a => by
    simp only [attributeText, List.cons_append, delimiters_append, delimiters_cons,
      delimiters_escape]
  simp only [tagText, delimiters_append, bareAttributes]
  congr 1
  induction attributes with
  | nil => rfl
  | cons a more ih =>
    simp only [List.map_cons, List.flatMap_cons, delimiters_append, hattribute a, ih]

mutual

theorem delimiters_render (depth : Nat) (m : Markup) :
    delimiters (render depth m) = delimiters (render depth m.bare) := by
  cases m with
  | leaf tag attributes text =>
    simp only [bare, render, List.append_assoc, List.cons_append, delimiters_append,
      delimiters_cons, delimiters_escape, delimiters_tagText tag attributes]
  | single tag attributes =>
    simp only [bare, render, List.append_assoc, List.cons_append, delimiters_append, delimiters_cons,
      delimiters_tagText tag attributes]
  | node tag attributes children =>
    simp only [bare, render, List.append_assoc, List.cons_append, delimiters_append,
      delimiters_cons, delimiters_tagText tag attributes, delimiters_renderAll (depth + 1) children]

theorem delimiters_renderAll (depth : Nat) (ms : List Markup) :
    delimiters (renderAll depth ms) = delimiters (renderAll depth (bareAll ms)) := by
  cases ms with
  | nil => rfl
  | cons m more =>
    rw [bareAll, renderAll, renderAll, delimiters_append, delimiters_append, delimiters_render,
      delimiters_renderAll]

end

/-- The texts and values of a document have no delimiters. -/
theorem delimiters_document (declaration : String) (root : Markup) :
    delimiters (document declaration root) = delimiters (document declaration root.bare) := by
  rw [document, document, delimiters_append, delimiters_append, delimiters_render]

/-- A document reads back as what its root element reads as. -/
theorem read_document {declaration : String} (c : Char) (inside : List Char)
    (hdeclaration : declaration.toList = '<' :: c :: (inside ++ ['>'])) (hc : c = '?' ∨ c = '!')
    (hinside : '>' ∉ inside) {root : Markup} {found : Element} (h : root.ReadsAs holdsText found)
    (hdocument : holdsText "" = false) :
    read holdsText (String.ofList (document declaration root)) = some found := by
  obtain ⟨hroot, rfl⟩ := h
  have htokens : tokens (document declaration root) =
      some ([.text "", .declaration] ++ tokensAt 0 root ++ [.text ""]) := by
    have hrun := Lexer.run_render hroot 0 ([] ++ [.text "", .declaration]) []
    rw [List.append_nil] at hrun
    rw [tokens, document, hdeclaration, List.cons_append, List.cons_append, List.append_assoc,
      List.singleton_append, Lexer.run_declaration hc hinside, hrun]
    rfl
  have hbuilt : Builder.run holdsText .empty ([.text "", .declaration] ++ tokensAt 0 root ++ [.text ""]) =
      some (Builder.empty.addAll [root.element holdsText]) := by
    have hblank : ∀ b : Builder, holdsText b.current.tag.name = false →
        Builder.step holdsText b (.text "") = some b := fun b hb => by simp [Builder.step, hb]
    have hdeclared : Builder.step holdsText .empty .declaration = some .empty := rfl
    rw [List.append_assoc, List.cons_append, List.singleton_append,
      Builder.run_step (hblank _ hdocument), Builder.run_step hdeclared,
      Builder.run_tokensAt hroot _ hdocument, Builder.run_step (hblank _ hdocument)]
    rfl
  rw [read, String.toList_ofList, htokens, Option.bind_eq_bind, Option.bind_some]
  exact (congrArg (Option.bind · Builder.root) hbuilt)

end Markup

end ListingGrid
