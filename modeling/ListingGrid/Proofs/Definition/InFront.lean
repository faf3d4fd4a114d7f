import ListingGrid.Proofs.Definition.Agreement
import ListingGrid.Proofs.Definition.StylesInFront
import ListingGrid.Proofs.Formula.Embedded

/-!
# Definitions in front of a word

What a definition holds in front of a word is read alike, whatever follows that word, as long
as something ends it. No list and no optional part goes on across it: the next token tells in
both texts.
-/

set_option autoImplicit false

namespace ListingGrid.Grammar

open ListingGrid.Grammar.Parser

variable {T T' s s' rest : List Char} {n : Nat}

namespace Report

theorem numeral_constNumber : Numeral isDecimalChar constNumber :=
  numeral_filterMap _ (numeral_signed (satisfy_settles _) satisfy_eq_done
    (fun _ hc => by simpa using hc) fun sign => numeral_decimal fun whole fraction =>
      (sign, whole, fraction))

theorem worded_extraction : Worded extraction := worded_filterMap _ worded_identifier

theorem shortens_extraction : Shortens extraction := shortens_filterMap shortens_identifier

section Tokens

variable (h : Stem T T')

include h

theorem tracks_constValue :
    Tracks (inFront n barred T T') (lexeme constValue) (lexeme constValue) id := by
  refine tracks_lexeme h.tails hash_mem_barred (advances_lexeme advances_constValue)
    (shortens_lexeme (shortens_or (shortens_map shortens_quoted)
      (shortens_map numeral_constNumber.shortens))) ?_ ?_
  · intro s value rest hread c hc
    rcases or_eq_done.mp hread with hread | ⟨-, hread⟩
    · obtain ⟨body, hbody, -⟩ := map_eq_done.mp hread
      obtain rfl : '"' = c := by simpa [(quoted_eq_done hbody).1] using hc
      decide
    · obtain ⟨number, hnumber, -⟩ := map_eq_done.mp hread
      exact not_barred_of_begins (numeral_constNumber.begins hnumber hc)
  · intro s s' value rest hs hread hrest
    rcases or_eq_done.mp hread with hread | ⟨-, hread⟩
    · obtain ⟨rest', hread', hpair⟩ := copies_map _ (copies_quoted h.tails) hs hread hrest
      exact ⟨rest', or_eq_done.mpr (.inl hread'), hpair⟩
    · obtain ⟨rest', hread', hpair⟩ := copies_map _ (copies_numeral h.tails numeral_constNumber
        (fun _ => id) (by decide)) hs hread hrest
      obtain ⟨number, hnumber, -⟩ := map_eq_done.mp hread'
      obtain ⟨c, t, rfl, hc, -⟩ := numeral_constNumber.done hnumber
      have hquote : c ≠ '"' := by
        rintro rfl
        simp [beginsNumeral, Text.isDigit] at hc
      refine ⟨rest', or_eq_done.mpr (.inr ⟨map_fails.mpr (quoted_fails ?_), hread'⟩), hpair⟩
      simpa using hquote

theorem agree_integer : Agree (inFront n barred T T') (lexeme integer) (lexeme integer) id :=
  agree_numeral h numeral_integer advances_integer

theorem tracks_formula_stem :
    Tracks (inFront n barred T T') Formula.formula Formula.formula id := by
  refine Formula.tracks_formula h.tails hash_mem_barred (by simp [Formula.strays, barred]) fun c hc => ?_
  rcases hc with hc | hc
  · exact not_barred_of_begins hc
  · simp only [List.mem_cons, List.not_mem_nil, or_false] at hc
    rcases hc with rfl | rfl <;> decide

theorem agree_specialField : Agree (inFront n barred T T') specialField specialField id := by
  refine agree_firstOf ?_ ?_
  · exact agree_bind (φ := id) (agree_keyword h (by decide)) (fun _ =>
      tracks_bind (φ := Option.map id) (agree_optional (agree_integer h)).tracks fun count => by
        rw [Option.map_id]
        exact tracks_pure (φ := id) _) fun _ => firm_bind (firm_optional _) fun _ => firm_pure _
  · simp only [List.forall_mem_cons, List.not_mem_nil, false_imp_iff, implies_true, and_true]
    constructor
    · exact agree_bind (φ := id) (agree_keyword h (by decide)) (fun _ =>
        tracks_map (φ := id) (tracks_firmly (tracks_label (tracks_constValue h))) fun _ => rfl)
        fun _ => firm_map (firm_firmly _)
    · exact agree_bind (φ := id) (agree_keyword h (by decide)) (fun _ =>
        tracks_map (φ := id) (tracks_firmly (tracks_formula_stem h)) fun _ => rfl)
        fun _ => firm_map (firm_firmly _)

theorem agree_extraction :
    Agree (inFront n barred T T') (lexeme extraction) (lexeme extraction) id :=
  agree_worded h worded_extraction advances_extraction shortens_extraction

theorem tracks_bound : Tracks (inFront n barred T T') bound bound id :=
  (agree_numeral h (numeral_label _ numeral_integer) (advances_label _ advances_integer)).tracks

theorem agree_extractedField :
    Agree (inFront n barred T T') (lexeme extractedField) (lexeme extractedField) id :=
  agree_bind (φ := id) (agree_extraction h) (fun kind => tracks_firmly (tracks_bind (φ := id)
    (tracks_bound h) fun left => tracks_bind (φ := id) (tracks_bound h) fun right =>
      tracks_pure (φ := id) (FieldSpec.extracted kind left right))) fun _ => firm_firmly _

end Tokens

/-- The rest of a line is followed by a line end, if by anything. -/
theorem restOfLine_eq_done {line : List Char} (h : restOfLine s = .done line rest) :
    s = line ++ rest ∧ (∀ c ∈ line, c ≠ '\r' ∧ c ≠ '\n') ∧ (rest = [] ∨ BeginsLine rest) := by
  have hsplit : s.takeWhile (fun c => c != '\r' && c != '\n') ++
      s.dropWhile (fun c => c != '\r' && c != '\n') = s := List.takeWhile_append_dropWhile
  have hall : ∀ c ∈ s.takeWhile (fun c => c != '\r' && c != '\n'), c ≠ '\r' ∧ c ≠ '\n' :=
    fun c hc => by simpa using List.all_eq_true.mp List.all_takeWhile c hc
  have hhead := List.head?_dropWhile_not (fun c => c != '\r' && c != '\n') s
  unfold restOfLine at h
  simp only at h
  generalize s.takeWhile (fun c => c != '\r' && c != '\n') = run at h hsplit hall
  generalize s.dropWhile (fun c => c != '\r' && c != '\n') = left at h hsplit hhead
  split at h
  · next more =>
    obtain ⟨rfl, rfl⟩ := Result.done.inj h
    exact ⟨hsplit.symm, hall, .inr ⟨more, .inr rfl⟩⟩
  · simp at h
  · next hreturn hother =>
    obtain ⟨rfl, rfl⟩ := Result.done.inj h
    refine ⟨hsplit.symm, hall, ?_⟩
    cases left with
    | nil => exact .inl rfl
    | cons c more =>
      by_cases hc : c = '\r'
      · exact absurd (by rw [hc]) (hother more)
      · obtain rfl : c = '\n' := by simpa [hc] using hhead
        exact .inr ⟨more, .inl rfl⟩

section Parts

variable (h : Stem T T') {x y : List Char}

include h

theorem beginsLine_in_front (hline : y ++ T = [] ∨ BeginsLine (y ++ T)) : BeginsLine (y ++ T') := by
  obtain ⟨c, more, more', rfl, -, hletter⟩ :=
    h.tails.head.resolve_left fun hnil => h.ne_nil hnil.1
  obtain ⟨-, -, hreturn, hfeed⟩ := ne_blank_of_isLetter hletter
  obtain ⟨behind, hbehind⟩ := hline.resolve_left (by simp)
  cases y with
  | nil =>
    rcases hbehind with hbehind | hbehind
    · exact absurd (List.cons.inj hbehind).1 hfeed
    · exact absurd (List.cons.inj hbehind).1 hreturn
  | cons d y =>
    rcases hbehind with hbehind | hbehind
    · obtain ⟨rfl, -⟩ := List.cons.inj hbehind
      exact ⟨y ++ T', .inl rfl⟩
    · obtain ⟨rfl, hmore⟩ := List.cons.inj hbehind
      cases y with
      | nil => exact absurd (List.cons.inj hmore).1 hfeed
      | cons e y =>
        obtain ⟨rfl, -⟩ := List.cons.inj hmore
        exact ⟨y ++ T', .inr rfl⟩

theorem title_in_front {text : String} (hread : title (x ++ T) = .done text (y ++ T)) :
    title (x ++ T') = .done text (y ++ T') := by
  obtain ⟨pad, mid, hpad, hmore⟩ := bind_eq_done.mp hread
  obtain ⟨line, hline, rfl⟩ := map_eq_done.mp hmore
  obtain ⟨rfl, hplain, hends⟩ := restOfLine_eq_done hline
  have hbegins := beginsLine_in_front h hends
  rw [takeWhile, Result.done.injEq] at hpad
  have hsplit : x ++ T = pad ++ line ++ (y ++ T) := by
    rw [List.append_assoc, ← hpad.1, ← hpad.2, List.takeWhile_append_dropWhile]
  have hall : pad.all (fun c => c == ' ' || c == '\t') = true := by
    rw [← hpad.1]
    exact List.all_takeWhile
  have hstops : Stops (fun c => c == ' ' || c == '\t') (line ++ (y ++ T')) := by
    cases line with
    | nil => exact stops_beginsLine (by decide) hbegins
    | cons c line =>
      have hhead := List.head?_dropWhile_not (fun c => c == ' ' || c == '\t') (x ++ T)
      rw [hpad.2] at hhead
      exact stops_cons (by simpa using hhead)
  obtain rfl := eq_append_of_tail hsplit
  rw [List.append_assoc, List.append_assoc]
  refine bind_eq_done.mpr ⟨pad, line ++ (y ++ T'), takeWhile_append hall hstops, ?_⟩
  exact map_eq_done.mpr ⟨line, restOfLine_done hplain hbegins, rfl⟩

omit h in
theorem description_in_front {text : String} (hread : description (x ++ T) = .done text (y ++ T)) :
    description (x ++ T') = .done text (y ++ T') := by
  obtain ⟨raw, hraw, rfl⟩ := map_eq_done.mp (label_eq_done.mp hread)
  refine label_eq_done.mpr (map_eq_done.mpr ⟨raw, ?_, rfl⟩)
  have hend : descriptionEnd.toList = '/' :: "description".toList := by decide
  unfold takeUntil at hraw ⊢
  split at hraw
  · next before after hcut =>
    obtain ⟨rfl, rfl⟩ := Result.done.inj hraw
    obtain ⟨hsplit, hmark⟩ := Text.cutAround?_eq_some (by decide) hcut
    rw [← List.append_assoc] at hsplit
    obtain rfl := eq_append_of_tail hsplit
    rw [hend] at hmark ⊢
    rw [List.append_assoc, List.append_assoc, Text.cutAround?_append (by decide) hmark]
  · simp at hraw

/-- The keyword of a description is a token, what follows it is not. -/
theorem tracks_description : Tracks (inFront n barred T T') (clause "description" description)
    (clause "description" description) id where
  advances := advances_clause _ advances_description
  done {s s' rest o} hs hread hrest := by
    have hkeyword : Agree (inFront n barred T T') (keyword "description") (keyword "description")
        id := agree_keyword h (by decide)
    rcases optional_eq_done.mp hread with ⟨text, rfl, hsome⟩ | ⟨rfl, rfl, hfails⟩
    · obtain ⟨_, mid, hname, hfirm⟩ := bind_eq_done.mp hsome
      have hbody := firmly_eq_done.mp hfirm
      have hbehind := advances_description.suffix hbody
      obtain ⟨⟨_, y, hy, rfl, rfl⟩, -⟩ := hrest
      have hlength := hbehind.length_le
      simp only [List.length_append] at hlength
      obtain ⟨hopen, mid', hname', x, hx, rfl, rfl⟩ :=
        keyword_in_front h (by decide) hs hname (by omega)
      refine ⟨hopen, y ++ T', optional_some (bind_eq_done.mpr ⟨(), _, hname', ?_⟩), inFront_pair hy⟩
      exact firmly_eq_done.mpr (description_in_front hbody)
    · refine ⟨hrest.2, s', optional_none (spares_bind hkeyword.spares (fun _ => firm_firmly _) hs
        hrest.2 hfails), hs⟩

theorem tracks_encoding : Tracks (inFront n barred T T') encoding encoding id := by
  refine tracks_lexeme h.tails hash_mem_barred advances_encoding (shortens_lexeme (shortens_label _
    (shortens_filterMap (shortens_takeWhile1 _)))) ?_ (copies_label _ (copies_filterMap _
      (copies_takeWhile1 h.tails (by decide))))
  intro s e rest hread c hc hbarred
  obtain ⟨run, hrun, -⟩ := filterMap_eq_done.mp (label_eq_done.mp hread)
  obtain ⟨hsplit, hne, hall, -⟩ := takeWhile1_eq_done.mp hrun
  cases run with
  | nil => exact hne rfl
  | cons d run =>
    obtain rfl : d = c := by simpa [hsplit] using hc
    have hd : isEncodingChar d = true := List.all_eq_true.mp hall d (by simp)
    simp only [barred, List.mem_cons, List.not_mem_nil, or_false] at hbarred
    rcases hbarred with rfl | rfl | rfl <;>
      simp [isEncodingChar, Text.isAlphanumeric, Text.isLetter, Text.isLower, Text.isUpper,
        Text.isDigit] at hd

theorem tracks_widths : Tracks (inFront n barred T T') widths widths id := by
  have hwidth := agree_numeral (n := n) h numeral_natural advances_natural
  have hwidths := tracks_many1 hwidth.tracks hwidth.spares (shortens_lexeme shortens_natural)
    (shortens_lexeme shortens_natural)
  rw [List.map_id_fun] at hwidths
  exact tracks_label hwidths

end Parts

end Report

end ListingGrid.Grammar
