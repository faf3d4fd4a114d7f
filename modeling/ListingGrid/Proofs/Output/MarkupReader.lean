import ListingGrid.Output.Markup

/-!
# Reading markup

A reader that does not know the writer. First a text is cut into tags and the texts between them,
with the entities undone. Then the elements are nested by their tags. Text counts only in elements
that hold a text, and is kept there as it is; between other tags only white space may stand.
-/

set_option autoImplicit false

namespace ListingGrid

inductive Element where
  | leaf (tag : String) (attributes : List (String × String)) (text : String)
  | node (tag : String) (attributes : List (String × String)) (children : List Element)

namespace Markup

def unescape : List Char → Option (List Char)
  | [] => some []
  | '&' :: 'l' :: 't' :: ';' :: rest => (unescape rest).map ('<' :: ·)
  | '&' :: 'g' :: 't' :: ';' :: rest => (unescape rest).map ('>' :: ·)
  | '&' :: 'a' :: 'm' :: 'p' :: ';' :: rest => (unescape rest).map ('&' :: ·)
  | '&' :: 'a' :: 'p' :: 'o' :: 's' :: ';' :: rest => (unescape rest).map ('\'' :: ·)
  | '&' :: 'q' :: 'u' :: 'o' :: 't' :: ';' :: rest => (unescape rest).map ('"' :: ·)
  | '&' :: _ => none
  | c :: rest => (unescape rest).map (c :: ·)

def isNameChar (c : Char) : Bool := Text.isWordChar c || c == '-'

def isName (name : String) : Bool := !name.isEmpty && name.toList.all isNameChar

structure Tag where
  name : String
  attributes : List (String × String)

def Tag.isNamed (tag : Tag) : Bool := (tag.name :: tag.attributes.map (·.1)).all isName

inductive Token where
  | text (text : String)
  | opening (tag : Tag)
  | closing (name : String)
  | single (tag : Tag)
  | declaration

inductive Place where
  | text (seen : List Char)
  | start
  | declaration
  | closing (seen : List Char)
  | opening (seen : List Char)
  | inside (tag : Tag)
  | attribute (tag : Tag) (seen : List Char)
  | equals (tag : Tag) (name : String)
  | value (tag : Tag) (name : String) (seen : List Char)
  | ending (tag : Tag)

def word (seen : List Char) : String := String.ofList seen.reverse

def textOf (seen : List Char) : Option String := (unescape seen.reverse).map String.ofList

structure Lexer where
  place : Place
  tokens : List Token

namespace Lexer

def move (l : Lexer) (place : Place) : Lexer := { l with place }

def emit (l : Lexer) (token : Token) (place : Place) : Lexer := ⟨place, l.tokens ++ [token]⟩

def stepInside (l : Lexer) (tag : Tag) (c : Char) : Option Lexer :=
  if c = ' ' then some (l.move (.inside tag))
  else if c = '/' then some (l.move (.ending tag))
  else if c = '>' then some (l.emit (.opening tag) (.text []))
  else if isNameChar c then some (l.move (.attribute tag [c]))
  else none

def step (l : Lexer) (c : Char) : Option Lexer :=
  match l.place with
  | .text seen =>
    if c = '<' then (textOf seen).map fun text => l.emit (.text text) .start
    else some (l.move (.text (c :: seen)))
  | .start =>
    if c = '/' then some (l.move (.closing []))
    else if c = '?' ∨ c = '!' then some (l.move .declaration)
    else if isNameChar c then some (l.move (.opening [c]))
    else none
  | .declaration => some (if c = '>' then l.emit .declaration (.text []) else l)
  | .closing seen =>
    if c = '>' then some (l.emit (.closing (word seen)) (.text []))
    else if isNameChar c then some (l.move (.closing (c :: seen)))
    else none
  | .opening seen =>
    if isNameChar c then some (l.move (.opening (c :: seen)))
    else l.stepInside ⟨word seen, []⟩ c
  | .inside tag => l.stepInside tag c
  | .attribute tag seen =>
    if c = '=' then some (l.move (.equals tag (word seen)))
    else if isNameChar c then some (l.move (.attribute tag (c :: seen)))
    else none
  | .equals tag name => if c = '"' then some (l.move (.value tag name [])) else none
  | .value tag name seen =>
    if c = '"' then
      (textOf seen).map fun value =>
        l.move (.inside ⟨tag.name, tag.attributes ++ [(name, value)]⟩)
    else if c = '<' then none
    else some (l.move (.value tag name (c :: seen)))
  | .ending tag => if c = '>' then some (l.emit (.single tag) (.text [])) else none

def run (l : Lexer) (cs : List Char) : Option Lexer := cs.foldlM step l

def finish (l : Lexer) : Option (List Token) :=
  match l.place with
  | .text seen => (textOf seen).map fun text => l.tokens ++ [.text text]
  | _ => none

end Lexer

def tokens (cs : List Char) : Option (List Token) :=
  ((⟨.text [], []⟩ : Lexer).run cs).bind Lexer.finish

def isSpace (c : Char) : Bool := c == ' ' || c == '\n' || c == '\r' || c == '\t'

structure Frame where
  tag : Tag
  text : String
  children : List Element

/-- What was read: the element that is open, and those around it. -/
structure Builder where
  current : Frame
  outer : List Frame

variable (holdsText : String → Bool)

def Frame.element (frame : Frame) : Element :=
  if holdsText frame.tag.name then .leaf frame.tag.name frame.tag.attributes frame.text
  else .node frame.tag.name frame.tag.attributes frame.children

def Frame.add (frame : Frame) (element : Element) : Frame :=
  { frame with children := frame.children ++ [element] }

namespace Builder

def empty : Builder := ⟨⟨⟨"", []⟩, "", []⟩, []⟩

/-- An element that holds a text has no elements inside. -/
def step (b : Builder) : Token → Option Builder
  | .text text =>
    if holdsText b.current.tag.name then
      some { b with current := { b.current with text := b.current.text ++ text } }
    else if text.toList.all isSpace then some b
    else none
  | .opening tag =>
    if holdsText b.current.tag.name then none else some ⟨⟨tag, "", []⟩, b.current :: b.outer⟩
  | .single tag =>
    if holdsText b.current.tag.name then none
    else some { b with current := b.current.add (Frame.element holdsText ⟨tag, "", []⟩) }
  | .closing name =>
    match b.outer with
    | [] => none
    | parent :: outer =>
      if name = b.current.tag.name then some ⟨parent.add (b.current.element holdsText), outer⟩
      else none
  | .declaration => if b.outer.isEmpty && b.current.children.isEmpty then some b else none

def root (b : Builder) : Option Element :=
  match b.outer, b.current.children with
  | [], [element] => some element
  | _, _ => none

end Builder

def read (document : String) : Option Element := do
  let tokens ← tokens document.toList
  let b ← tokens.foldlM (Builder.step holdsText) .empty
  b.root

theorem unescape_escapeChar (c : Char) (rest : List Char) :
    unescape (escapeChar c ++ rest) = (unescape rest).map (c :: ·) := by
  unfold escapeChar
  split
  · simp [unescape]
  · simp [unescape]
  · simp [unescape]
  · simp [unescape]
  · simp [unescape]
  · simp_all [unescape]

theorem unescape_escape (text : String) : unescape (escape text) = some text.toList := by
  unfold escape
  induction text.toList with
  | nil => rfl
  | cons c rest ih => rw [List.flatMap_cons, unescape_escapeChar, ih]; rfl

theorem unescape_plain {cs : List Char} (h : '&' ∉ cs) : unescape cs = some cs := by
  induction cs with
  | nil => rfl
  | cons c rest ih =>
    have hc : c ≠ '&' := fun he => h (by simp [he])
    have hrest := ih fun hr => h (by simp [hr])
    simp [unescape, hc, hrest]

/-- Whether a character can open or close an element or a value. -/
def isDelimiter (c : Char) : Bool := c == '<' || c == '>' || c == '"'

theorem escapeChar_delimiters (c : Char) : (escapeChar c).any isDelimiter = false := by
  unfold escapeChar
  split
  · rfl
  · rfl
  · rfl
  · rfl
  · rfl
  · simp_all [isDelimiter]

theorem not_delimiter_of_mem_escape {text : String} {c : Char} (h : c ∈ escape text) :
    isDelimiter c = false := by
  obtain ⟨d, -, hd⟩ := List.mem_flatMap.mp h
  simpa using List.any_eq_false.mp (escapeChar_delimiters d) c hd

theorem Tag.isNamed_iff {tag : Tag} :
    tag.isNamed = true ↔ isName tag.name = true ∧ ∀ a ∈ tag.attributes, isName a.1 = true := by
  simp [isNamed]

theorem Tag.isName_of_isNamed {tag : Tag} (h : tag.isNamed = true) : isName tag.name = true :=
  (isNamed_iff.mp h).1

namespace Lexer

variable {ts : List Token} {tag : Tag} {rest : List Char}

theorem run_cons (l : Lexer) (c : Char) (cs : List Char) :
    l.run (c :: cs) = (l.step c).bind fun next => next.run cs := rfl

theorem run_step {l next : Lexer} {c : Char} (h : l.step c = some next) (cs : List Char) :
    l.run (c :: cs) = next.run cs := by
  rw [run_cons, h, Option.bind_some]

/-- Where a place only takes note of the characters, it has seen them all behind them. -/
theorem run_seen {place : List Char → Place} {cs : List Char}
    (hstep : ∀ seen, ∀ c ∈ cs, step ⟨place seen, ts⟩ c = some ⟨place (c :: seen), ts⟩)
    (seen rest : List Char) :
    run ⟨place seen, ts⟩ (cs ++ rest) = run ⟨place (cs.reverse ++ seen), ts⟩ rest := by
  induction cs generalizing seen with
  | nil => rfl
  | cons c more ih =>
    rw [List.cons_append, run_cons, hstep seen c (by simp), Option.bind_some,
      ih (fun seen d hd => hstep seen d (by simp [hd]))]
    simp

theorem run_text {raw : List Char} {text : String} (hraw : unescape raw = some text.toList)
    (hplain : '<' ∉ raw) (rest : List Char) :
    run ⟨.text [], ts⟩ (raw ++ '<' :: rest) = run ⟨.start, ts ++ [.text text]⟩ rest := by
  have hseen : ∀ seen, ∀ c ∈ raw, step ⟨.text seen, ts⟩ c = some ⟨.text (c :: seen), ts⟩ :=
    fun seen c hc => by
      have hne : c ≠ '<' := fun h => hplain (h ▸ hc)
      simp [step, hne, move]
  rw [run_seen hseen]
  exact run_step (by simp [step, textOf, hraw, emit]) rest

theorem run_escape (text : String) (rest : List Char) :
    run ⟨.text [], ts⟩ (escape text ++ '<' :: rest) = run ⟨.start, ts ++ [.text text]⟩ rest :=
  run_text (unescape_escape text) (fun h => by simpa [isDelimiter] using not_delimiter_of_mem_escape h) rest

theorem exists_of_isName {name : String} (h : isName name = true) :
    ∃ c cs, name.toList = c :: cs ∧ isNameChar c = true ∧ ∀ d ∈ cs, isNameChar d = true := by
  simp only [isName, Bool.and_eq_true, Bool.not_eq_true', List.all_eq_true] at h
  obtain ⟨hne, hall⟩ := h
  cases hchars : name.toList with
  | nil => simp [String.toList_eq_nil_iff.mp hchars] at hne
  | cons c cs =>
    rw [hchars] at hall
    exact ⟨c, cs, rfl, hall c (by simp), fun d hd => hall d (by simp [hd])⟩

theorem ne_of_isNameChar {c d : Char} (h : isNameChar c = true) (hd : isNameChar d = false) :
    c ≠ d := by
  rintro rfl
  exact Bool.false_ne_true (hd.symm.trans h)

theorem word_of_chars {name : String} {c : Char} {cs : List Char} (h : name.toList = c :: cs) :
    word (cs.reverse ++ [c]) = name := by
  rw [word, List.reverse_append, List.reverse_reverse, List.reverse_singleton,
    List.singleton_append, ← h, String.ofList_toList]

theorem run_openingName {name : String} (h : isName name = true) {c : Char}
    (hc : isNameChar c = false) (rest : List Char) :
    run ⟨.start, ts⟩ (name.toList ++ c :: rest) = run ⟨.inside ⟨name, []⟩, ts⟩ (c :: rest) := by
  obtain ⟨d, cs, hchars, hd, hcs⟩ := exists_of_isName h
  have hstart : step ⟨.start, ts⟩ d = some ⟨.opening [d], ts⟩ := by
    simp [step, hd, ne_of_isNameChar hd (d := '/') (by decide),
      ne_of_isNameChar hd (d := '?') (by decide), ne_of_isNameChar hd (d := '!') (by decide), move]
  have hname : ∀ seen, ∀ c ∈ cs, step ⟨.opening seen, ts⟩ c = some ⟨.opening (c :: seen), ts⟩ :=
    fun seen c hc => by simp [step, hcs c hc, move]
  rw [hchars, List.cons_append, run_step hstart, run_seen hname, run_cons, run_cons]
  simp only [step, hc, word_of_chars hchars, Bool.false_eq_true, if_false]
  rfl

theorem run_value (name value : String) (rest : List Char) :
    run ⟨.value tag name [], ts⟩ (escape value ++ '"' :: rest) =
      run ⟨.inside ⟨tag.name, tag.attributes ++ [(name, value)]⟩, ts⟩ rest := by
  have hseen : ∀ seen, ∀ c ∈ escape value,
      step ⟨.value tag name seen, ts⟩ c = some ⟨.value tag name (c :: seen), ts⟩ :=
    fun seen c hc => by
      have hplain := not_delimiter_of_mem_escape hc
      simp only [isDelimiter, Bool.or_eq_false_iff, beq_eq_false_iff_ne] at hplain
      simp [step, hplain, move]
  rw [run_seen hseen]
  exact run_step (by simp [step, textOf, unescape_escape, move]) rest

theorem run_attribute {name : String} (h : isName name = true) (value : String) (rest : List Char) :
    run ⟨.inside tag, ts⟩ (attributeText (name, value) ++ rest) =
      run ⟨.inside ⟨tag.name, tag.attributes ++ [(name, value)]⟩, ts⟩ rest := by
  obtain ⟨d, cs, hchars, hd, hcs⟩ := exists_of_isName h
  have hblank : step ⟨.inside tag, ts⟩ ' ' = some ⟨.inside tag, ts⟩ := rfl
  have hfirst : step ⟨.inside tag, ts⟩ d = some ⟨.attribute tag [d], ts⟩ := by
    simp [step, stepInside, hd, ne_of_isNameChar hd (d := ' ') (by decide),
      ne_of_isNameChar hd (d := '/') (by decide), ne_of_isNameChar hd (d := '>') (by decide), move]
  have hname : ∀ seen, ∀ c ∈ cs,
      step ⟨.attribute tag seen, ts⟩ c = some ⟨.attribute tag (c :: seen), ts⟩ := fun seen c hc => by
    simp [step, hcs c hc, ne_of_isNameChar (hcs c hc) (d := '=') (by decide), move]
  have hequals : step ⟨.attribute tag (cs.reverse ++ [d]), ts⟩ '=' = some ⟨.equals tag name, ts⟩ := by
    simp [step, word_of_chars hchars, move]
  have hshape : attributeText (name, value) ++ rest =
      ' ' :: d :: (cs ++ '=' :: '"' :: (escape value ++ '"' :: rest)) := by
    simp [attributeText, hchars]
  have hquote : step ⟨.equals tag name, ts⟩ '"' = some ⟨.value tag name [], ts⟩ := rfl
  rw [hshape, run_step hblank, run_step hfirst, run_seen hname, run_step hequals, run_step hquote,
    run_value]

theorem run_attributes {attributes : List (String × String)}
    (h : ∀ a ∈ attributes, isName a.1 = true) (rest : List Char) :
    run ⟨.inside tag, ts⟩ (attributes.flatMap attributeText ++ rest) =
      run ⟨.inside ⟨tag.name, tag.attributes ++ attributes⟩, ts⟩ rest := by
  induction attributes generalizing tag with
  | nil => simp
  | cons a more ih =>
    rw [List.flatMap_cons, List.append_assoc, run_attribute (h a (by simp)),
      ih fun b hb => h b (by simp [hb])]
    simp

theorem run_tagText {name : String} {attributes : List (String × String)}
    (h : Tag.isNamed ⟨name, attributes⟩ = true) {c : Char} (hc : isNameChar c = false)
    (rest : List Char) :
    run ⟨.start, ts⟩ (tagText name attributes ++ c :: rest) =
      run ⟨.inside ⟨name, attributes⟩, ts⟩ (c :: rest) := by
  obtain ⟨hname, hattributes⟩ := Tag.isNamed_iff.mp h
  have hinside : run ⟨.start, ts⟩ (tagText name attributes ++ c :: rest) =
      run ⟨.inside ⟨name, []⟩, ts⟩ (attributes.flatMap attributeText ++ c :: rest) := by
    rw [tagText, List.append_assoc]
    cases attributes with
    | nil => exact run_openingName hname hc rest
    | cons a more => exact run_openingName hname (by decide) _
  rw [hinside, run_attributes hattributes]
  rfl

theorem run_opening {name : String} {attributes : List (String × String)}
    (h : Tag.isNamed ⟨name, attributes⟩ = true) (rest : List Char) :
    run ⟨.start, ts⟩ (tagText name attributes ++ '>' :: rest) =
      run ⟨.text [], ts ++ [.opening ⟨name, attributes⟩]⟩ rest := by
  rw [run_tagText h (by decide)]
  rfl

theorem run_single {name : String} {attributes : List (String × String)}
    (h : Tag.isNamed ⟨name, attributes⟩ = true) (rest : List Char) :
    run ⟨.start, ts⟩ (tagText name attributes ++ '/' :: '>' :: rest) =
      run ⟨.text [], ts ++ [.single ⟨name, attributes⟩]⟩ rest := by
  rw [run_tagText h (by decide)]
  rfl

theorem run_closing {name : String} (h : isName name = true) (rest : List Char) :
    run ⟨.start, ts⟩ ('/' :: (name.toList ++ '>' :: rest)) =
      run ⟨.text [], ts ++ [.closing name]⟩ rest := by
  obtain ⟨d, cs, hchars, hd, hcs⟩ := exists_of_isName h
  have hname : ∀ seen, ∀ c ∈ d :: cs,
      step ⟨.closing seen, ts⟩ c = some ⟨.closing (c :: seen), ts⟩ := fun seen c hc => by
    have hchar : isNameChar c = true := by
      rcases List.mem_cons.mp hc with rfl | hmore
      · exact hd
      · exact hcs c hmore
    simp [step, hchar, ne_of_isNameChar hchar (d := '>') (by decide), move]
  have hslash : step ⟨.start, ts⟩ '/' = some ⟨.closing [], ts⟩ := rfl
  rw [run_step hslash, hchars, run_seen hname]
  exact run_step (by simp [step, word_of_chars hchars, emit]) rest

theorem run_declaration {c : Char} (hc : c = '?' ∨ c = '!') {inside : List Char}
    (h : '>' ∉ inside) (rest : List Char) :
    run ⟨.text [], ts⟩ ('<' :: c :: (inside ++ '>' :: rest)) =
      run ⟨.text [], ts ++ [.text "", .declaration]⟩ rest := by
  have hseen : ∀ seen : List Char, ∀ d ∈ inside,
      step ⟨.declaration, ts ++ [.text ""]⟩ d = some ⟨.declaration, ts ++ [.text ""]⟩ :=
    fun _ d hd => by
      have hne : d ≠ '>' := fun he => h (he ▸ hd)
      simp [step, hne]
  have hstart : step ⟨.start, ts ++ [.text ""]⟩ c = some ⟨.declaration, ts ++ [.text ""]⟩ := by
    rcases hc with rfl | rfl <;> rfl
  have hopen : step ⟨.text [], ts⟩ '<' = some ⟨.start, ts ++ [.text ""]⟩ := rfl
  rw [run_step hopen, run_step hstart, run_seen hseen []]
  exact run_step (by simp [step, emit]) rest

end Lexer

end Markup

end ListingGrid
