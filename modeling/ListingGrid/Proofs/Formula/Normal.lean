import ListingGrid.Proofs.Formula.Workbook
import ListingGrid.Proofs.Formula.Written
import ListingGrid.Proofs.Grammar.Quoted

/-!
# Normalized formulas

The texts that the readers of formulas give, part by part. An expression begins with
an atom or a sign, and operators join it to another expression whatever their rank:
how the operators bind leaves no trace in the text.
-/

set_option autoImplicit false

namespace ListingGrid.Grammar.Formula

open ListingGrid.Grammar.Parser

inductive IsNumber : List Char → Prop where
  | whole {t : List Char} (h : IsDigits t) : IsNumber t
  | fraction {t fraction : List Char} (h : IsDigits t) (hfraction : IsDigits fraction) :
    IsNumber (t ++ '.' :: fraction)

structure IsSheetName (t : List Char) : Prop where
  least : 1 ≤ t.length
  most : t.length ≤ 31
  all : t.all isSheetChar = true

inductive IsReference : List Char → Prop where
  | link {book name : List Char} (hbook : IsWorkbook book) (hname : IsName name) :
    IsReference (book ++ '!' :: name)
  | plain {target : List Char} (h : IsAddress target) : IsReference target
  | onSheet {name target : List Char} (hname : IsSheetName name) (h : IsAddress target) :
    IsReference (name ++ '!' :: target)
  | inBook {book name target : List Char} (hbook : IsWorkbook book) (hname : IsSheetName name)
    (h : IsAddress target) : IsReference (book ++ (name ++ '!' :: target))

inductive IsFunctionName : List Char → Prop where
  | name {t : List Char} (h : IsName t) : IsFunctionName t
  | points {t more : List Char} (h : IsName t) (hmore : IsFunctionName more) :
    IsFunctionName (t ++ '.' :: more)

def relations : List (List Char) := [['<', '>'], ['>', '='], ['<', '='], ['='], ['>'], ['<']]

def IsOperator (c : Char) : Prop := c = '+' ∨ c = '-' ∨ c = '*' ∨ c = '/'

def IsSign (c : Char) : Prop := c = '+' ∨ c = '-'

inductive Part where
  | atom
  | expression
  | operand
  | argument
  | arguments

inductive Normal : Part → List Char → Prop where
  | reference {t : List Char} (h : IsReference t) : Normal .atom t
  | number {t : List Char} (h : IsNumber t) : Normal .atom t
  | call {name arguments : List Char} (hname : IsFunctionName name)
    (h : Normal .arguments arguments) : Normal .atom (name ++ '(' :: arguments ++ [')'])
  | nested {e : List Char} (h : Normal .expression e) : Normal .atom ('(' :: e ++ [')'])
  | atom {a : List Char} (h : Normal .atom a) : Normal .expression a
  | signed {sign : Char} {e : List Char} (hsign : IsSign sign) (h : Normal .expression e) :
    Normal .expression (sign :: e)
  | joined {a e : List Char} {operator : Char} (ha : Normal .atom a) (hop : IsOperator operator)
    (h : Normal .expression e) : Normal .expression (a ++ operator :: e)
  | plain {e : List Char} (h : Normal .expression e) : Normal .operand e
  | quoted {body : List Char} (h : IsQuotedBody body) : Normal .operand ('"' :: body ++ ['"'])
  | single {left : List Char} (h : Normal .operand left) : Normal .argument left
  | compared {left relation right : List Char} (hleft : Normal .operand left)
    (hrelation : relation ∈ relations) (hright : Normal .operand right) :
    Normal .argument (left ++ (relation ++ right))
  | none : Normal .arguments []
  | last {a : List Char} (h : Normal .argument a) : Normal .arguments a
  | more {a others : List Char} (ha : Normal .argument a) (h : Normal .arguments others)
    (hne : others ≠ []) : Normal .arguments (a ++ ',' :: others)

theorem Normal.join {e f : List Char} {operator : Char} (he : Normal .expression e)
    (hop : IsOperator operator) (hf : Normal .expression f) :
    Normal .expression (e ++ operator :: f) := by
  generalize hpart : Part.expression = part at he
  induction he with
  | atom ha => exact .joined ha hop hf
  | signed hsign _ ih => exact .signed hsign (ih rfl)
  | joined ha hop' _ _ ih =>
    rw [List.append_assoc]
    exact .joined ha hop' (ih rfl)
  | _ => cases hpart

theorem gives_identifier : Gives identifier IsName :=
  fun _ _ _ h => (identifier_eq_done.mp h).2.1

theorem gives_number : Gives number IsNumber := by
  refine gives_bind gives_digits fun whole hwhole => gives_bind
    (gives_optional (gives_after fun _ => gives_digits)) fun o ho => gives_pure ?_
  cases o with
  | none => exact .whole hwhole
  | some fraction => exact .fraction hwhole (ho fraction rfl)

theorem gives_sheetName : Gives (takeBetween 1 31 isSheetChar) IsSheetName := by
  intro s t rest h
  obtain ⟨-, hall, hleast, hmost⟩ := takeBetween_eq_done h
  exact ⟨hleast, hmost, hall⟩

theorem gives_linkedWorkbook : Gives linkedWorkbook IsWorkbook :=
  fun _ _ _ h => (linkedWorkbook_eq_done h).2

theorem gives_sheet : Gives sheet fun t => ∃ name, IsSheetName name ∧
    (t = name ++ ['!'] ∨ ∃ book, IsWorkbook book ∧ t = book ++ name ++ ['!']) := by
  refine gives_bind (gives_optional gives_linkedWorkbook) fun o ho =>
    gives_bind gives_sheetName fun name hname => gives_after fun _ => gives_pure ?_
  cases o with
  | none => exact ⟨name, hname, .inl rfl⟩
  | some book => exact ⟨name, hname, .inr ⟨book, ho book rfl, rfl⟩⟩

theorem gives_reference : Gives reference IsReference := by
  refine gives_or ?_ ?_
  · refine gives_bind gives_linkedWorkbook fun book hbook => gives_after fun _ =>
      gives_bind gives_identifier fun name hname => gives_pure ?_
    exact .link hbook hname
  · refine gives_bind (gives_optional gives_sheet) fun o ho =>
      gives_bind gives_address fun target htarget => gives_pure ?_
    cases o with
    | none => exact .plain htarget
    | some qualifier =>
      obtain ⟨name, hname, rfl | ⟨book, hbook, rfl⟩⟩ := ho qualifier rfl
      · simpa using IsReference.onSheet hname htarget
      · simpa using IsReference.inBook hbook hname htarget

theorem gives_functionName : Gives functionName IsFunctionName := by
  have hpoint : Gives (do
      let _ ← char '.'
      let name ← identifier
      return '.' :: name) fun t => ∃ name, IsName name ∧ t = '.' :: name :=
    gives_after fun _ => gives_bind gives_identifier fun name hname =>
      gives_pure ⟨name, hname, rfl⟩
  refine gives_bind gives_identifier fun first hfirst =>
    gives_bind (gives_many hpoint) fun more hmore => gives_pure ?_
  clear hpoint
  induction more generalizing first with
  | nil => simpa using IsFunctionName.name hfirst
  | cons t more ih =>
    obtain ⟨name, hname, rfl⟩ := hmore t (by simp)
    exact .points hfirst (ih name hname fun u hu => hmore u (by simp [hu]))

theorem gives_relational : Gives relational (· ∈ relations) := by
  have htag : ∀ t ∈ relations, Gives (tag t) (· ∈ relations) := by
    intro t ht s a rest h
    obtain ⟨-, rfl⟩ := tag_eq_done.mp h
    exact ht
  refine gives_firstOf (htag _ (by simp [relations])) ?_
  simp only [List.forall_mem_cons, List.not_mem_nil, false_imp_iff, implies_true, and_true]
  refine ⟨?_, ?_, ?_, ?_, ?_⟩ <;> exact htag _ (by simp [relations])

theorem isOperator_of_mem {operators : List Char} (h : ∀ c ∈ operators, IsOperator c) :
    Gives (oneOf operators) IsOperator := by
  intro s c rest hread
  obtain ⟨-, hc⟩ := satisfy_eq_done.mp hread
  exact h c (by simpa using hc)

variable {inner p : Parser (List Char)}

theorem gives_operand (h : Gives inner (Normal .expression)) :
    Gives (operand inner) (Normal .operand) :=
  gives_or (gives_mono h fun _ => .plain)
    (gives_map fun _ _ _ hread => .quoted (quoted_eq_done hread).2)

theorem gives_argument (h : Gives inner (Normal .expression)) :
    Gives (argument inner) (Normal .argument) := by
  have hcomparison : Gives (do
      let sign ← lexeme relational
      let right ← firmly (operand inner)
      return sign ++ right) fun t => ∃ relation ∈ relations, ∃ right, Normal .operand right ∧
        t = relation ++ right :=
    gives_bind (fun s => gives_relational (skipBlank s)) fun relation hrelation =>
      gives_bind (gives_firmly (gives_operand h)) fun right hright =>
        gives_pure ⟨relation, hrelation, right, hright, rfl⟩
  refine gives_bind (gives_operand h) fun left hleft =>
    gives_bind (gives_optional hcomparison) fun o ho => gives_pure ?_
  cases o with
  | none => simpa using Normal.single hleft
  | some text =>
    obtain ⟨relation, hrelation, right, hright, rfl⟩ := ho text rfl
    exact .compared hleft hrelation hright

theorem IsCell.ne_nil {t : List Char} (h : IsCell t) : t ≠ [] := by
  obtain ⟨ref, rfl, -⟩ := h.written
  obtain ⟨c, more, hrow, -⟩ := ref.row.head
  simp [CellRef.text, CellRef.render, hrow]

theorem IsReference.ne_nil {t : List Char} (h : IsReference t) : t ≠ [] := by
  cases h with
  | link | onSheet | inBook => simp
  | plain h =>
    cases h with
    | range => simp
    | cell h => exact h.ne_nil
    | name h => exact h.ne_nil

theorem IsNumber.ne_nil {t : List Char} (h : IsNumber t) : t ≠ [] := by
  cases h with
  | whole h => exact h.ne_nil
  | fraction => simp

theorem Normal.ne_nil {part : Part} {t : List Char} (h : Normal part t)
    (hpart : part ≠ .arguments) : t ≠ [] := by
  induction h with
  | reference h => exact h.ne_nil
  | number h => exact h.ne_nil
  | atom _ ih | plain _ ih | single _ ih => exact ih (by simp)
  | compared _ _ _ ih => simp [ih]
  | call | nested | signed | joined | quoted => simp
  | none | last | more => exact absurd rfl hpart

theorem joinCommas_normal {items : List (List Char)} (h : ∀ t ∈ items, Normal .argument t) :
    Normal .arguments (joinCommas items) := by
  induction items with
  | nil => exact .none
  | cons t more ih =>
    have hmore := ih fun u hu => h u (by simp [hu])
    cases more with
    | nil => exact .last (h t (by simp))
    | cons u others =>
      refine .more (h t (by simp)) hmore ?_
      have hu := (h u (by simp)).ne_nil (by simp)
      cases others <;> simp [joinCommas, hu]

theorem gives_call (h : Gives inner (Normal .expression)) : Gives (call inner) (Normal .atom) :=
  gives_bind gives_functionName fun _ hname => gives_after fun _ =>
    gives_bind (gives_sepBy (gives_argument h)) fun _ harguments => gives_after fun _ =>
      gives_pure (.call hname (joinCommas_normal harguments))

theorem gives_factor (h : Gives inner (Normal .expression)) :
    Gives (factor inner) (Normal .expression) := by
  intro s
  refine gives_label (gives_firstOf (gives_mono (gives_call h) fun _ => .atom) ?_) (skipBlank s)
  simp only [List.forall_mem_cons, List.not_mem_nil, false_imp_iff, implies_true, and_true]
  refine ⟨gives_mono gives_reference fun t ht => .atom (.reference ht),
    gives_mono gives_number fun t ht => .atom (.number ht), ?_, ?_⟩
  · refine gives_bind (P := IsSign) ?_ fun sign hsign =>
      gives_bind (gives_firmly h) fun body hbody => gives_pure (.signed hsign hbody)
    intro s c rest hread
    simpa [IsSign] using (satisfy_eq_done.mp hread).2
  · exact gives_after fun _ => gives_bind (gives_firmly h) fun body hbody =>
      gives_after fun _ => gives_pure (.atom (.nested hbody))

theorem gives_chain {operators : List Char} (hoperators : ∀ c ∈ operators, IsOperator c)
    (hp : Gives p (Normal .expression)) : Gives (chain operators p) (Normal .expression) := by
  have hitem : Gives (do
      let operator ← lexeme (oneOf operators)
      let next ← firmly p
      return operator :: next) fun t => ∃ operator e, IsOperator operator ∧
        Normal .expression e ∧ t = operator :: e :=
    gives_bind (fun s => isOperator_of_mem hoperators (skipBlank s)) fun operator hop =>
      gives_bind (gives_firmly hp) fun e he => gives_pure ⟨operator, e, hop, he, rfl⟩
  refine gives_bind hp fun first hfirst => gives_foldMany hitem hfirst ?_
  rintro e t he ⟨operator, f, hop, hf, rfl⟩
  exact he.join hop hf

/-- What the reader of expressions gives is normalized. -/
theorem gives_expressionWithin (depth : Nat) :
    Gives (expressionWithin depth) (Normal .expression) := by
  induction depth with
  | zero => exact fun s t rest h => by simp [expressionWithin, failing] at h
  | succ depth ih =>
    exact gives_chain (by simp [IsOperator]) (gives_chain (by simp [IsOperator]) (gives_factor ih))

end ListingGrid.Grammar.Formula
