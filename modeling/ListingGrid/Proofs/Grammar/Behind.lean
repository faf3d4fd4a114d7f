import ListingGrid.Proofs.Grammar.Mapped
import ListingGrid.Proofs.Grammar.Stems

/-!
# Reading behind a change

A text goes on behind the exchanged part as it did. What follows may have blanks in front
in one text that it has not in the other, so only a reader that skips blanks first reads
alike there, and no sign may follow that could join the exchanged part.
-/

set_option autoImplicit false

namespace ListingGrid.Grammar

open ListingGrid.Grammar.Parser

variable {after s s' rest : List Char}

/-- The places behind which, blanks apart, the same follows as behind some place of the given
end of a text. From one of them a reader may go on where no joining sign follows. -/
def behind (after : List Char) : Matching where
  Pair s s' := s <:+ after ∧ skipBlank s' = skipBlank s
  Open := Unjoined
  between {_ _ _ _ mid} hs _ _ hbefore := ⟨mid, hbefore.trans hs.1, rfl⟩

theorem behind_pair (h : s <:+ after) : (behind after).Pair s s := ⟨h, rfl⟩

theorem skips_behind : Skips (behind after) where
  pair {s s'} hs _ := ⟨(skipBlank_suffix s).trans hs.1, by rw [hs.2]⟩
  isOpen s := by simp only [behind, Unjoined, skipBlank_skipBlank]

variable {α : Type} {p : Parser α}

theorem agree_behind (hadvances : Advances (lexeme p))
    (hbegins : ∀ s a rest, lexeme p s = .done a rest → Unjoined s) :
    Agree (behind after) (lexeme p) (lexeme p) id where
  tracks := {
    advances := hadvances
    done := fun {s s' rest a} hs hread _ => by
      have hrest := hadvances.suffix hread
      refine ⟨hbegins s a rest hread, rest, ?_, behind_pair (hrest.trans hs.1)⟩
      rw [lexeme, hs.2]
      exact hread }
  spares := fun s s' hs _ hfails => by
    change Fails p (skipBlank s')
    rw [hs.2]
    exact hfails

theorem unjoined_of_head {c : Char} (hhead : (skipBlank s).head? = some c) (hc : c ∉ joiners) :
    Unjoined s := fun d hd => by
  obtain rfl : c = d := Option.some.inj (hhead.symm.trans hd)
  exact hc

theorem unjoined_of_worded {a : α} (hp : Worded p) (hshort : Shortens p)
    (hread : lexeme p s = .done a rest) : Unjoined s := by
  obtain ⟨c, hc, hbegins⟩ := worded_head hp hshort hread
  exact unjoined_of_head hc (not_sign_of_beginsWord hbegins).2

theorem unjoined_of_keyword {name : String} (hname : IsKeyword name)
    (hread : keyword name s = .done () rest) : Unjoined s :=
  unjoined_of_worded (worded_keyword hname) (shortens_word_keyword hname) hread

theorem keyword_behind {name : String} (hname : IsKeyword name) :
    Agree (behind after) (keyword name) (keyword name) id :=
  agree_behind (advances_keyword name) fun _ _ _ => unjoined_of_keyword hname

theorem name_behind : Agree (behind after) (lexeme identifier) (lexeme identifier) id :=
  agree_behind (advances_lexeme advances_identifier) fun _ _ _ =>
    unjoined_of_worded worded_identifier shortens_identifier

theorem char_behind {c : Char} (hc : c ∉ joiners) :
    Agree (behind after) (lexeme (char c)) (lexeme (char c)) id := by
  refine agree_behind (advances_lexeme (advances_char c)) fun s d rest hread => ?_
  obtain ⟨hsplit, -⟩ := char_eq_done.mp hread
  exact unjoined_of_head (by rw [hsplit]; rfl) hc

theorem quotedList_behind : Agree (behind after) quotedList quotedList id := by
  have hskip : lexeme quotedList = quotedList := by
    funext s
    simp only [lexeme, quotedList, sepBy1, bind_apply, map, skipBlank_skipBlank]
  rw [← hskip]
  refine agree_behind (advances_lexeme advances_quotedList) fun s items rest hread => ?_
  rw [hskip] at hread
  obtain ⟨first, _, mid, hfirst, -⟩ := sepBy1_eq_done.mp hread
  obtain ⟨body, hbody, -⟩ := map_eq_done.mp hfirst
  exact unjoined_of_head (by rw [(quoted_eq_done hbody).1]; rfl) (by decide)

end ListingGrid.Grammar
