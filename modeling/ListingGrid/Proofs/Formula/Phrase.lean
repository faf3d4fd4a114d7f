import ListingGrid.Proofs.Formula.Normal
import ListingGrid.Proofs.Grammar.Blanks

/-!
# Formulas as they are written

A formula is a sequence of symbols, and blanks may stand in front of each of them. The
phrases of the grammar are made of symbols, whatever the blanks are. What is given for a
symbol is its normalized form, with one exception: where no blank sets a minus apart, a
cell in front of it may belong to the name of a sheet, and is then kept as it is written.
-/

set_option autoImplicit false

namespace ListingGrid.Grammar.Formula

inductive Reference where
  | link (book : {t : List Char // IsWorkbook t}) (name : {t : List Char // IsName t})
  | plain (target : Address)
  | onSheet (sheet : {t : List Char // IsSheetName t}) (target : Address)
  | inBook (book : {t : List Char // IsWorkbook t}) (sheet : {t : List Char // IsSheetName t})
    (target : Address)

namespace Reference

def render (cellText : CellRef → List Char) : Reference → List Char
  | link book name => book ++ '!' :: name
  | plain target => target.render cellText
  | onSheet sheet target => sheet ++ '!' :: target.render cellText
  | inBook book sheet target => book ++ (sheet ++ '!' :: target.render cellText)

def text : Reference → List Char := render CellRef.text

def normal : Reference → List Char := render CellRef.normal

end Reference

inductive Symbol where
  | number (digits : {t : List Char // IsNumber t})
  | reference (target : Reference)
  | function (name : {t : List Char // IsFunctionName t})
  | quoted (body : {t : List Char // IsQuotedBody t})
  | relation (sign : {t : List Char // t ∈ relations})
  | operator (sign : {c : Char // IsOperator c})
  | opening
  | closing
  | comma

/-- Whether a text begins with the name of a sheet and an exclamation mark. -/
def beginsSheet (s : List Char) : Bool :=
  let name := s.takeWhile isSheetChar
  1 ≤ name.length && name.length ≤ 31 && (s.dropWhile isSheetChar).head? == some '!'

namespace Symbol

def render (cellText : CellRef → List Char) : Symbol → List Char
  | number digits => digits
  | reference target => target.render cellText
  | function name => name
  | quoted body => '"' :: body ++ ['"']
  | relation sign => sign
  | operator sign => [sign]
  | opening => ['(']
  | closing => [')']
  | comma => [',']

def text : Symbol → List Char := render CellRef.text

/-- Cells are in upper case, and their placeholders have an offset. -/
def normal : Symbol → List Char := render CellRef.normal

/-- What is given for a symbol in front of other text. A sheet may take a cell that no
sheet qualifies for a part of its name. -/
def shown (behind : List Char) : Symbol → List Char
  | reference (.plain target) =>
    if beginsSheet (target.text ++ behind) then target.text else target.normal
  | symbol => symbol.normal

end Symbol

inductive Phrase : Part → List Symbol → Prop where
  | reference (target : Reference) : Phrase .atom [.reference target]
  | number (digits : {t : List Char // IsNumber t}) : Phrase .atom [.number digits]
  | call (name : {t : List Char // IsFunctionName t}) {arguments : List Symbol}
    (h : Phrase .arguments arguments) :
    Phrase .atom (.function name :: .opening :: (arguments ++ [.closing]))
  | nested {e : List Symbol} (h : Phrase .expression e) : Phrase .atom (.opening :: (e ++ [.closing]))
  | atom {a : List Symbol} (h : Phrase .atom a) : Phrase .expression a
  | signed (sign : {c : Char // IsOperator c}) (hsign : IsSign sign) {e : List Symbol}
    (h : Phrase .expression e) : Phrase .expression (.operator sign :: e)
  | joined {a e : List Symbol} (ha : Phrase .atom a) (sign : {c : Char // IsOperator c})
    (h : Phrase .expression e) : Phrase .expression (a ++ .operator sign :: e)
  | plain {e : List Symbol} (h : Phrase .expression e) : Phrase .operand e
  | quoted (body : {t : List Char // IsQuotedBody t}) : Phrase .operand [.quoted body]
  | single {left : List Symbol} (h : Phrase .operand left) : Phrase .argument left
  | compared {left right : List Symbol} (hleft : Phrase .operand left)
    (sign : {t : List Char // t ∈ relations}) (hright : Phrase .operand right) :
    Phrase .argument (left ++ .relation sign :: right)
  | none : Phrase .arguments []
  | last {a : List Symbol} (h : Phrase .argument a) : Phrase .arguments a
  | more {a others : List Symbol} (ha : Phrase .argument a) (h : Phrase .arguments others)
    (hne : others ≠ []) : Phrase .arguments (a ++ .comma :: others)

structure Placed where
  gap : List Char
  symbol : Symbol
  blanks : Blanks gap

def symbols (ps : List Placed) : List Symbol := ps.map (·.symbol)

/-- Symbols as they are written, in front of other text. -/
def spell : List Placed → List Char → List Char
  | [], rest => rest
  | p :: ps, rest => p.gap ++ (p.symbol.text ++ spell ps rest)

def shown : List Placed → List Char → List Char
  | [], _ => []
  | p :: ps, rest => p.symbol.shown (spell ps rest) ++ shown ps rest

variable {ps qs : List Placed} {rest : List Char}

@[simp] theorem spell_append (ps qs : List Placed) (rest : List Char) :
    spell (ps ++ qs) rest = spell ps (spell qs rest) := by
  induction ps with
  | nil => rfl
  | cons p ps ih => simp [spell, ih]

@[simp] theorem shown_append (ps qs : List Placed) (rest : List Char) :
    shown (ps ++ qs) rest = shown ps (spell qs rest) ++ shown qs rest := by
  induction ps with
  | nil => rfl
  | cons p ps ih => simp [shown, ih]

inductive AtomOf : List Placed → Prop where
  | reference {p : Placed} (target : Reference) (h : p.symbol = .reference target) : AtomOf [p]
  | number {p : Placed} (digits : {t : List Char // IsNumber t}) (h : p.symbol = .number digits) :
    AtomOf [p]
  | call {f o c : Placed} {arguments : List Placed} (name : {t : List Char // IsFunctionName t})
    (hf : f.symbol = .function name) (ho : o.symbol = .opening)
    (h : Phrase .arguments (symbols arguments)) (hc : c.symbol = .closing) :
    AtomOf (f :: o :: (arguments ++ [c]))
  | nested {o c : Placed} {e : List Placed} (ho : o.symbol = .opening)
    (h : Phrase .expression (symbols e)) (hc : c.symbol = .closing) : AtomOf (o :: (e ++ [c]))

theorem Phrase.cases_atom (h : Phrase .atom (symbols ps)) : AtomOf ps := by
  generalize hts : symbols ps = ts at h
  cases h with
  | reference target =>
    obtain ⟨p, rfl, hp⟩ := List.map_eq_singleton_iff.mp hts
    exact .reference target hp
  | number digits =>
    obtain ⟨p, rfl, hp⟩ := List.map_eq_singleton_iff.mp hts
    exact .number digits hp
  | call name h =>
    obtain ⟨f, mid, rfl, hf, hmid⟩ := List.map_eq_cons_iff.mp hts
    obtain ⟨o, inside, rfl, ho, hinside⟩ := List.map_eq_cons_iff.mp hmid
    obtain ⟨arguments, last, rfl, rfl, hlast⟩ := List.map_eq_append_iff.mp hinside
    obtain ⟨c, rfl, hc⟩ := List.map_eq_singleton_iff.mp hlast
    exact .call name hf ho h hc
  | nested h =>
    obtain ⟨o, inside, rfl, ho, hinside⟩ := List.map_eq_cons_iff.mp hts
    obtain ⟨e, last, rfl, rfl, hlast⟩ := List.map_eq_append_iff.mp hinside
    obtain ⟨c, rfl, hc⟩ := List.map_eq_singleton_iff.mp hlast
    exact .nested ho h hc

/-- What is left of an expression behind an atom: nothing, or an operator of some rank
and an expression. -/
inductive Tail (P : Char → Prop) : List Placed → Prop where
  | nil : Tail P []
  | more {o : Placed} {e : List Placed} (sign : {c : Char // IsOperator c})
    (ho : o.symbol = .operator sign) (hsign : P sign) (h : Phrase .expression (symbols e)) :
    Tail P (o :: e)

/-- The first atom of an expression and what is left behind it. -/
theorem Phrase.cases_expression (h : Phrase .expression (symbols ps)) :
    (∃ a k, ps = a ++ k ∧ AtomOf a ∧ Tail (fun _ => True) k) ∨
      ∃ (o : Placed) (e : List Placed) (sign : {c : Char // IsOperator c}), ps = o :: e ∧
        o.symbol = .operator sign ∧ IsSign sign ∧ Phrase .expression (symbols e) := by
  generalize hts : symbols ps = ts at h
  cases h with
  | atom h =>
    subst hts
    exact .inl ⟨ps, [], by simp, h.cases_atom, .nil⟩
  | signed sign hsign h =>
    obtain ⟨o, e, rfl, ho, rfl⟩ := List.map_eq_cons_iff.mp hts
    exact .inr ⟨o, e, sign, rfl, ho, hsign, h⟩
  | joined ha sign h =>
    obtain ⟨a, k, rfl, rfl, hk⟩ := List.map_eq_append_iff.mp hts
    obtain ⟨o, e, rfl, ho, rfl⟩ := List.map_eq_cons_iff.mp hk
    exact .inl ⟨a, o :: e, rfl, ha.cases_atom, .more sign ho trivial h⟩

theorem Phrase.cases_operand (h : Phrase .operand (symbols ps)) :
    Phrase .expression (symbols ps) ∨
      ∃ (p : Placed) (body : {t : List Char // IsQuotedBody t}), ps = [p] ∧
        p.symbol = .quoted body := by
  generalize hts : symbols ps = ts at h
  cases h with
  | plain h => exact .inl h
  | quoted body =>
    obtain ⟨p, rfl, hp⟩ := List.map_eq_singleton_iff.mp hts
    exact .inr ⟨p, body, rfl, hp⟩

theorem Phrase.cases_argument (h : Phrase .argument (symbols ps)) :
    Phrase .operand (symbols ps) ∨
      ∃ (left right : List Placed) (r : Placed) (sign : {t : List Char // t ∈ relations}),
        ps = left ++ r :: right ∧ Phrase .operand (symbols left) ∧ r.symbol = .relation sign ∧
        Phrase .operand (symbols right) := by
  generalize hts : symbols ps = ts at h
  cases h with
  | single h => exact .inl h
  | compared hleft sign hright =>
    obtain ⟨left, mid, rfl, rfl, hmid⟩ := List.map_eq_append_iff.mp hts
    obtain ⟨r, right, rfl, hr, rfl⟩ := List.map_eq_cons_iff.mp hmid
    exact .inr ⟨left, right, r, sign, rfl, hleft, hr, hright⟩

theorem Phrase.cases_arguments (h : Phrase .arguments (symbols ps)) (hne : ps ≠ []) :
    Phrase .argument (symbols ps) ∨
      ∃ (a others : List Placed) (c : Placed), ps = a ++ c :: others ∧
        Phrase .argument (symbols a) ∧ c.symbol = .comma ∧ Phrase .arguments (symbols others) ∧
        others ≠ [] := by
  generalize hts : symbols ps = ts at h
  cases h with
  | none => exact absurd (List.map_eq_nil_iff.mp hts) hne
  | last h => exact .inl h
  | more ha h hothers =>
    obtain ⟨a, mid, rfl, rfl, hmid⟩ := List.map_eq_append_iff.mp hts
    obtain ⟨c, others, rfl, hc, rfl⟩ := List.map_eq_cons_iff.mp hmid
    exact .inr ⟨a, others, c, rfl, ha, hc, h, by rintro rfl; exact hothers rfl⟩

theorem IsReference.written {t : List Char} (h : IsReference t) :
    ∃ target : Reference, target.text = t ∧ target.normal = t := by
  cases h with
  | link hbook hname => exact ⟨.link ⟨_, hbook⟩ ⟨_, hname⟩, rfl, rfl⟩
  | plain h =>
    obtain ⟨target, htext, hnormal⟩ := h.written
    exact ⟨.plain target, htext, hnormal⟩
  | onSheet hname h =>
    obtain ⟨target, rfl, hnormal⟩ := h.written
    exact ⟨.onSheet ⟨_, hname⟩ target, rfl, congrArg (fun t => _ ++ '!' :: t) hnormal⟩
  | inBook hbook hname h =>
    obtain ⟨target, rfl, hnormal⟩ := h.written
    exact ⟨.inBook ⟨_, hbook⟩ ⟨_, hname⟩ target, rfl, congrArg (fun t => _ ++ (_ ++ '!' :: t)) hnormal⟩

structure Makes (ts : List Symbol) (t : List Char) : Prop where
  given : ts.map Symbol.text = ts.map Symbol.normal
  text : ts.flatMap Symbol.normal = t

namespace Makes

variable {ts us : List Symbol} {t u : List Char} {symbol : Symbol}

theorem nil : Makes [] [] := ⟨rfl, rfl⟩

theorem cons (hsymbol : symbol.text = symbol.normal) (h : Makes ts t) :
    Makes (symbol :: ts) (symbol.normal ++ t) := by
  refine ⟨?_, ?_⟩
  · rw [List.map_cons, List.map_cons, hsymbol, h.given]
  · rw [List.flatMap_cons, h.text]

theorem append (h : Makes ts t) (hmore : Makes us u) : Makes (ts ++ us) (t ++ u) := by
  refine ⟨?_, ?_⟩
  · rw [List.map_append, List.map_append, h.given, hmore.given]
  · rw [List.flatMap_append, h.text, hmore.text]

theorem single (hsymbol : symbol.text = symbol.normal) : Makes [symbol] symbol.normal :=
  ⟨congrArg (fun t => [t]) hsymbol, List.flatMap_singleton ..⟩

end Makes

/-- A normalized text is made of symbols that are written as they are given. -/
theorem Normal.written {part : Part} {t : List Char} (h : Normal part t) :
    ∃ ts, Phrase part ts ∧ Makes ts t := by
  induction h with
  | reference h =>
    obtain ⟨target, htext, rfl⟩ := h.written
    exact ⟨_, .reference target, .single htext⟩
  | number h => exact ⟨_, .number ⟨_, h⟩, .single rfl⟩
  | call hname _ ih =>
    obtain ⟨ts, hts, hmakes⟩ := ih
    refine ⟨_, .call ⟨_, hname⟩ hts, ?_⟩
    rw [List.append_assoc]
    exact .cons rfl (.cons rfl (hmakes.append (.single rfl)))
  | nested _ ih =>
    obtain ⟨ts, hts, hmakes⟩ := ih
    exact ⟨_, .nested hts, .cons rfl (hmakes.append (.single rfl))⟩
  | atom _ ih =>
    obtain ⟨ts, hts, hmakes⟩ := ih
    exact ⟨ts, .atom hts, hmakes⟩
  | @signed sign e hsign _ ih =>
    obtain ⟨ts, hts, hmakes⟩ := ih
    have hop : IsOperator sign := hsign.elim .inl fun h => .inr (.inl h)
    exact ⟨_, .signed ⟨sign, hop⟩ hsign hts, .cons rfl hmakes⟩
  | joined _ hop _ ihfirst ihmore =>
    obtain ⟨ts, hts, hmakes⟩ := ihfirst
    obtain ⟨us, hus, hmore⟩ := ihmore
    exact ⟨_, .joined hts ⟨_, hop⟩ hus, hmakes.append (.cons rfl hmore)⟩
  | plain _ ih =>
    obtain ⟨ts, hts, hmakes⟩ := ih
    exact ⟨ts, .plain hts, hmakes⟩
  | quoted h => exact ⟨_, .quoted ⟨_, h⟩, .single rfl⟩
  | single _ ih =>
    obtain ⟨ts, hts, hmakes⟩ := ih
    exact ⟨ts, .single hts, hmakes⟩
  | compared _ hrelation _ ihleft ihright =>
    obtain ⟨ts, hts, hmakes⟩ := ihleft
    obtain ⟨us, hus, hmore⟩ := ihright
    exact ⟨_, .compared hts ⟨_, hrelation⟩ hus, hmakes.append (.cons rfl hmore)⟩
  | none => exact ⟨[], .none, .nil⟩
  | last _ ih =>
    obtain ⟨ts, hts, hmakes⟩ := ih
    exact ⟨ts, .last hts, hmakes⟩
  | more _ _ hne ihfirst ihmore =>
    obtain ⟨ts, hts, hmakes⟩ := ihfirst
    obtain ⟨us, hus, hmore⟩ := ihmore
    have hus' : us ≠ [] := by
      rintro rfl
      exact hne hmore.text.symm
    exact ⟨_, .more hts hus hus', hmakes.append (.cons rfl hmore)⟩

def Symbol.place (symbol : Symbol) : Placed := ⟨[], symbol, .none⟩

theorem symbols_place (ts : List Symbol) : symbols (ts.map Symbol.place) = ts := by
  simp [symbols, Symbol.place, Function.comp_def]

theorem Symbol.shown_of_normal {symbol : Symbol} (h : symbol.text = symbol.normal)
    (behind : List Char) : symbol.shown behind = symbol.normal := by
  unfold shown
  split
  · split
    · exact h
    · rfl
  · rfl

/-- Symbols that are written as they are given, one right behind the other. -/
theorem spell_place {ts : List Symbol} (h : ts.map Symbol.text = ts.map Symbol.normal)
    (rest : List Char) : spell (ts.map Symbol.place) rest = ts.flatMap Symbol.normal ++ rest ∧
      shown (ts.map Symbol.place) rest = ts.flatMap Symbol.normal := by
  induction ts with
  | nil => exact ⟨rfl, rfl⟩
  | cons symbol more ih =>
    obtain ⟨hsymbol, hmore⟩ := List.cons.inj h
    obtain ⟨hspell, hshown⟩ := ih hmore
    constructor
    · simp [spell, Symbol.place, hspell, hsymbol]
    · simp [shown, Symbol.place, hshown, Symbol.shown_of_normal hsymbol]

end ListingGrid.Grammar.Formula
