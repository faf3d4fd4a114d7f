import ListingGrid.Grammar.Formula
import ListingGrid.Proofs.Grammar.Words

/-!
# Links to workbooks

A linked workbook stands between apostrophes: the path of a file on a drive, on a
server or on the drive at hand, or the name of a file alone. Such a text is read as it
stands, whatever follows the closing apostrophe, and no other text is read.
-/

set_option autoImplicit false

namespace ListingGrid.Grammar.Formula

open ListingGrid.Grammar.Parser

variable {s t rest : List Char}

def IsSeparator (c : Char) : Prop := c = '\\' ∨ c = '/'

inductive IsOpening : List Char → Prop where
  | backslashes : IsOpening ['\\', '\\']
  | slashes : IsOpening ['/', '/']
  | scheme {word : List Char} (h : Text.lowerAll word = "smb:".toList) :
    IsOpening (word ++ ['/', '/'])

structure IsHost (t : List Char) : Prop where
  ne_nil : t ≠ []
  all : t.all isHostChar = true

inductive IsRoot : List Char → Prop where
  | drive {letter : Char} (h : Text.isLetter letter = true) : IsRoot [letter, ':']
  | server {opening host share : List Char} {separator : Char} (hopening : IsOpening opening)
    (hhost : IsHost host) (hseparator : IsSeparator separator) (hshare : IsName share) :
    IsRoot (opening ++ host ++ separator :: share)

inductive IsFolders : List Char → Prop where
  | none : IsFolders []
  | more {name folders : List Char} {separator : Char} (hname : IsName name)
    (hseparator : IsSeparator separator) (h : IsFolders folders) :
    IsFolders (name ++ separator :: folders)

inductive IsPath : List Char → Prop where
  | relative {folders : List Char} {separator : Char} (hseparator : IsSeparator separator)
    (h : IsFolders folders) : IsPath (separator :: folders)
  | absolute {root folders : List Char} {separator : Char} (hroot : IsRoot root)
    (hseparator : IsSeparator separator) (h : IsFolders folders) :
    IsPath (root ++ separator :: folders)

inductive IsFileName : List Char → Prop where
  | plain {stem : List Char} (h : IsName stem) : IsFileName stem
  | dotted {stem extension : List Char} (h : IsName stem) (hextension : IsName extension) :
    IsFileName (stem ++ '.' :: extension)

inductive IsWorkbook : List Char → Prop where
  | name {file : List Char} (h : IsFileName file) : IsWorkbook ('\'' :: file ++ ['\''])
  | path {path file : List Char} (hpath : IsPath path) (h : IsFileName file) :
    IsWorkbook ('\'' :: path ++ file ++ ['\''])

theorem IsWorkbook.head (h : IsWorkbook t) : t.head? = some '\'' := by
  cases h <;> rfl

theorem linkedWorkbook_fails (h : s.head? ≠ some '\'') : Fails linkedWorkbook s :=
  bind_fails.mpr (.inl (char_fails h))

theorem separator_append {c : Char} (h : IsSeparator c) : pathSeparator (c :: rest) = .done c rest :=
  satisfy_eq_done.mpr ⟨rfl, by rcases h with rfl | rfl <;> rfl⟩

theorem stops_separator {accepts : Char → Bool} {c : Char} (h : IsSeparator c)
    (haccepts : accepts '\\' = false ∧ accepts '/' = false) : Stops accepts (c :: rest) := by
  intro d hd
  obtain rfl : c = d := by simpa using hd
  rcases h with rfl | rfl
  · exact haccepts.1
  · exact haccepts.2

def BeginsName (s : List Char) : Prop := ∃ c, s.head? = some c ∧ startsName c = true

theorem IsName.beginsName (h : IsName t) (rest : List Char) : BeginsName (t ++ rest) := by
  obtain ⟨c, hc, hstart⟩ := h.head
  exact ⟨c, by simp [hc], hstart⟩

theorem IsFileName.beginsName (h : IsFileName t) (rest : List Char) : BeginsName (t ++ rest) := by
  cases h with
  | plain h => exact IsName.beginsName h rest
  | dotted h =>
    rw [List.append_assoc]
    exact IsName.beginsName h _

theorem IsFolders.beginsName (h : IsFolders t) (hrest : BeginsName rest) : BeginsName (t ++ rest) := by
  cases h with
  | none => exact hrest
  | more hname =>
    rw [List.append_assoc]
    exact IsName.beginsName hname _

theorem BeginsName.ne (h : BeginsName s) {c : Char} (hc : startsName c = false) :
    s.head? ≠ some c := by
  obtain ⟨d, hd, hstart⟩ := h
  rintro heq
  obtain rfl : d = c := by simpa [hd] using heq
  simp [hc] at hstart

theorem separator_fails (h : s.head? ≠ some '\\' ∧ s.head? ≠ some '/') : Fails pathSeparator s := by
  refine satisfy_fails fun c hc => ?_
  cases hmem : ['\\', '/'].contains c with
  | false => rfl
  | true =>
    rcases (by simpa using hmem : c = '\\' ∨ c = '/') with rfl | rfl
    · exact absurd hc h.1
    · exact absurd hc h.2

theorem drive_fails (h : s.tail.head? ≠ some ':') : Fails drive s := by
  cases s with
  | nil => exact bind_fails.mpr (.inl (satisfy_fails (by simp)))
  | cons c more =>
    cases hc : Text.isLetter c with
    | false => exact bind_fails.mpr (.inl (satisfy_fails (by simpa using hc)))
    | true =>
      refine bind_fails.mpr (.inr ⟨c, more, satisfy_eq_done.mpr ⟨rfl, hc⟩, ?_⟩)
      exact bind_fails.mpr (.inl (char_fails h))

/-- No server is read where no slashes open one, be it behind a scheme or not. -/
theorem server_fails (h : ¬['\\', '\\'] <+: s ∧ ¬['/', '/'] <+: s)
    (hscheme : Fails (word "smb:".toList) s) : Fails server s := by
  refine bind_fails.mpr (.inl (or_fails.mpr ⟨tag_fails.mpr h.1, ?_⟩))
  refine bind_fails.mpr (.inr ⟨none, s, optional_none hscheme, ?_⟩)
  exact bind_fails.mpr (.inl (tag_fails.mpr h.2))

theorem fileName_append (h : IsFileName t) (rest : List Char) :
    fileName (t ++ '\'' :: rest) = .done t ('\'' :: rest) := by
  cases h with
  | plain h =>
    refine bind_eq_done.mpr ⟨t, _, identifier_append h (by simp [Stops]; rfl), ?_⟩
    refine bind_eq_done.mpr ⟨none, _, optional_none (bind_fails.mpr (.inl (char_fails (by simp)))), ?_⟩
    simp [pure_eq_done]
  | @dotted stem extension h hextension =>
    rw [List.append_assoc]
    refine bind_eq_done.mpr ⟨stem, _, identifier_append h (by simp [Stops]; rfl), ?_⟩
    refine bind_eq_done.mpr ⟨some ('.' :: extension), _, optional_some ?_, rfl⟩
    refine bind_eq_done.mpr ⟨'.', _, char_eq_done.mpr ⟨rfl, rfl⟩, ?_⟩
    exact bind_eq_done.mpr ⟨extension, _, identifier_append hextension (by simp [Stops]; rfl), rfl⟩

theorem folders_append (h : IsFolders t) {file : List Char} (hfile : IsFileName file)
    (rest : List Char) : ∃ items, many (do
      let name ← identifier
      let separator ← pathSeparator
      return name ++ [separator]) (t ++ (file ++ '\'' :: rest)) =
        .done items (file ++ '\'' :: rest) ∧ items.flatten = t := by
  induction h with
  | none =>
    refine ⟨[], many_stop ?_, rfl⟩
    cases hfile with
    | plain h =>
      refine bind_fails.mpr (.inr ⟨file, _, identifier_append h (by simp [Stops]; rfl), ?_⟩)
      exact bind_fails.mpr (.inl (separator_fails (by simp)))
    | dotted h =>
      rw [List.nil_append, List.append_assoc]
      refine bind_fails.mpr (.inr ⟨_, _, identifier_append h (by simp [Stops]; rfl), ?_⟩)
      exact bind_fails.mpr (.inl (separator_fails (by simp)))
  | @more name folders separator hname hseparator h ih =>
    obtain ⟨items, hitems, rfl⟩ := ih
    refine ⟨(name ++ [separator]) :: items, many_next ?_ ?_ hitems, by simp⟩
    · rw [List.append_assoc]
      refine bind_eq_done.mpr ⟨name, _, identifier_append hname ?_, ?_⟩
      · exact stops_separator hseparator ⟨by decide, by decide⟩
      · exact bind_eq_done.mpr ⟨separator, _, separator_append hseparator, rfl⟩
    · simp only [List.length_append, List.length_cons]
      omega

theorem opening_append (h : IsOpening t) (rest : List Char) :
    or (tag ['\\', '\\']) (do
      let scheme ← optional (word "smb:".toList)
      let slashes ← tag ['/', '/']
      return scheme.getD [] ++ slashes) (t ++ rest) = .done t rest := by
  refine or_eq_done.mpr ?_
  cases h with
  | backslashes => exact .inl (tag_append ..)
  | slashes =>
    refine .inr ⟨tag_fails.mpr (by simp), ?_⟩
    have hscheme : Fails (word "smb:".toList) (['/', '/'] ++ rest) :=
      word_fails_of_head (by decide) (by simp; decide)
    exact bind_eq_done.mpr ⟨none, _, optional_none hscheme, bind_eq_done.mpr ⟨_, rest, tag_append .., rfl⟩⟩
  | @scheme taken h =>
    rw [List.append_assoc]
    refine .inr ⟨tag_fails.mpr ?_, ?_⟩
    · obtain ⟨c, more, rfl, hc, -⟩ := List.map_eq_cons_iff.mp h
      have hne : '\\' ≠ c := by
        rintro rfl
        revert hc
        decide
      simp [List.cons_prefix_cons, hne]
    · have hread : word "smb:".toList (taken ++ (['/', '/'] ++ rest)) = .done taken _ :=
        (word_eq_done (by decide)).mpr ⟨rfl, h⟩
      exact bind_eq_done.mpr ⟨some taken, _, optional_some hread,
        bind_eq_done.mpr ⟨_, rest, tag_append .., rfl⟩⟩

theorem root_append (h : IsRoot t) (hrest : Stops Text.isWordChar rest) :
    or drive server (t ++ rest) = .done t rest := by
  cases h with
  | drive h =>
    refine or_eq_done.mpr (.inl (bind_eq_done.mpr ⟨_, _, satisfy_eq_done.mpr ⟨rfl, h⟩, ?_⟩))
    exact bind_eq_done.mpr ⟨':', rest, char_eq_done.mpr ⟨rfl, rfl⟩, rfl⟩
  | @server opening host share separator hopening hhost hseparator hshare =>
    simp only [List.append_assoc, List.cons_append]
    refine or_eq_done.mpr (.inr ⟨drive_fails ?_, ?_⟩)
    · cases hopening with
      | backslashes | slashes => simp
      | @scheme taken h =>
        obtain ⟨c, mid, rfl, -, hmid⟩ := List.map_eq_cons_iff.mp h
        obtain ⟨d, more, rfl, hd, -⟩ := List.map_eq_cons_iff.mp hmid
        rintro heq
        obtain rfl : d = ':' := by simpa using heq
        revert hd
        decide
    · refine bind_eq_done.mpr ⟨opening, _, opening_append hopening _, ?_⟩
      refine bind_eq_done.mpr ⟨host, _, takeWhile1_append hhost.all hhost.ne_nil
        (stops_separator hseparator ⟨by decide, by decide⟩), ?_⟩
      refine bind_eq_done.mpr ⟨separator, _, separator_append hseparator, ?_⟩
      exact bind_eq_done.mpr ⟨share, rest, identifier_append hshare hrest, by simp [pure_eq_done]⟩

theorem path_append (h : IsPath t) {file : List Char} (hfile : IsFileName file)
    (rest : List Char) :
    workbookPath (t ++ (file ++ '\'' :: rest)) = .done t (file ++ '\'' :: rest) := by
  cases h with
  | @relative folders separator hseparator h =>
    obtain ⟨items, hitems, rfl⟩ := folders_append h hfile rest
    have hbehind := h.beginsName (hfile.beginsName ('\'' :: rest))
    have hpair : ∀ {c : Char}, startsName c = false →
        ¬[c, c] <+: separator :: items.flatten ++ (file ++ '\'' :: rest) := by
      rintro c hc ⟨left, hleft⟩
      have hmore : c :: left = items.flatten ++ (file ++ '\'' :: rest) := (List.cons.inj hleft).2
      exact hbehind.ne hc (by rw [← hmore]; rfl)
    have hroot : Fails (or drive server)
        (separator :: items.flatten ++ (file ++ '\'' :: rest)) := by
      refine or_fails.mpr ⟨drive_fails (hbehind.ne (by decide)), server_fails ?_ ?_⟩
      · exact ⟨hpair (by decide), hpair (by decide)⟩
      · refine word_fails_of_head (by decide) fun c hc => ?_
        obtain rfl : separator = c := by simpa using hc
        rcases hseparator with rfl | rfl <;> decide
    refine bind_eq_done.mpr ⟨none, _, optional_none hroot, ?_⟩
    refine bind_eq_done.mpr ⟨separator, _, separator_append hseparator, ?_⟩
    exact bind_eq_done.mpr ⟨items, _, hitems, rfl⟩
  | @absolute root folders separator hroot hseparator h =>
    obtain ⟨items, hitems, rfl⟩ := folders_append h hfile rest
    rw [List.append_assoc]
    refine bind_eq_done.mpr ⟨some root, _, optional_some (root_append hroot
      (stops_separator hseparator ⟨by decide, by decide⟩)), ?_⟩
    refine bind_eq_done.mpr ⟨separator, _, separator_append hseparator, ?_⟩
    exact bind_eq_done.mpr ⟨items, _, hitems, rfl⟩

theorem IsFileName.no_colon (h : IsFileName t) : ':' ∉ t := by
  have hname : ∀ {name : List Char}, IsName name → ':' ∉ name := fun h hmem =>
    absurd (List.all_eq_true.mp h.all _ hmem) (by decide)
  cases h with
  | plain h => exact hname h
  | dotted h hextension => simp [hname h, hname hextension]

/-- A file that stands alone names no server: the colon of the scheme would stand in it, or
behind the quotation mark that ends it. -/
theorem scheme_fails (h : IsFileName t) (rest : List Char) :
    Fails (word "smb:".toList) (t ++ '\'' :: rest) := by
  refine word_fails (by decide) fun taken left hsplit hlower => ?_
  have hmark : '\'' ∉ taken := fun hmem => by
    have hlow := List.mem_map_of_mem (f := Text.lower) hmem
    rw [← Text.lowerAll, hlower] at hlow
    revert hlow
    decide
  have hcolon : ':' ∈ taken := by
    have hlow : ':' ∈ Text.lowerAll taken := by rw [hlower]; decide
    obtain ⟨c, hmem, hc⟩ := List.mem_map.mp hlow
    rwa [← Text.eq_of_lower (d := ':') rfl hc]
  rcases List.append_eq_append_iff.mp hsplit with ⟨more, rfl, hmore⟩ | ⟨more, rfl, -⟩
  · cases more with
    | nil => exact h.no_colon (by simpa using hcolon)
    | cons c more =>
      obtain ⟨rfl, -⟩ : '\'' = c ∧ _ := by simpa using hmore
      exact hmark (by simp)
  · exact h.no_colon (by simp [hcolon])

theorem drive_fails_of_file (h : IsFileName t) (rest : List Char) :
    Fails drive (t ++ '\'' :: rest) := by
  refine drive_fails ?_
  cases t with
  | nil => exact absurd rfl ((h.beginsName ('\'' :: rest)).ne (c := '\'') (by decide))
  | cons d more =>
    cases more with
    | nil => simp
    | cons e more =>
      rintro heq
      obtain rfl : e = ':' := by simpa using heq
      exact h.no_colon (by simp)

theorem path_fails (h : IsFileName t) (rest : List Char) :
    Fails workbookPath (t ++ '\'' :: rest) := by
  have hbegins := h.beginsName ('\'' :: rest)
  have hback := hbegins.ne (c := '\\') (by decide)
  have hslash := hbegins.ne (c := '/') (by decide)
  have hpair : ∀ {c : Char} {more : List Char}, (t ++ '\'' :: rest).head? ≠ some c →
      ¬(c :: more) <+: t ++ '\'' :: rest := by
    rintro c more hne ⟨left, hleft⟩
    exact hne (by rw [← hleft]; rfl)
  have hserver : Fails server (t ++ '\'' :: rest) :=
    server_fails ⟨hpair hback, hpair hslash⟩ (scheme_fails h rest)
  have hroot : Fails (or drive server) (t ++ '\'' :: rest) :=
    or_fails.mpr ⟨drive_fails_of_file h rest, hserver⟩
  refine bind_fails.mpr (.inr ⟨none, _, optional_none hroot, ?_⟩)
  exact bind_fails.mpr (.inl (separator_fails ⟨hback, hslash⟩))

theorem IsWorkbook.reads (h : IsWorkbook t) (rest : List Char) :
    linkedWorkbook (t ++ rest) = .done t rest := by
  cases h with
  | @name file h =>
    refine bind_eq_done.mpr ⟨'\'', file ++ '\'' :: rest, char_eq_done.mpr ⟨by simp, rfl⟩, ?_⟩
    refine bind_eq_done.mpr ⟨none, _, optional_none (path_fails h rest), ?_⟩
    refine bind_eq_done.mpr ⟨file, _, fileName_append h rest, ?_⟩
    exact bind_eq_done.mpr ⟨'\'', rest, char_eq_done.mpr ⟨rfl, rfl⟩, rfl⟩
  | @path path file hpath h =>
    refine bind_eq_done.mpr ⟨'\'', path ++ (file ++ '\'' :: rest),
      char_eq_done.mpr ⟨by simp, rfl⟩, ?_⟩
    refine bind_eq_done.mpr ⟨some path, _, optional_some (path_append hpath h rest), ?_⟩
    refine bind_eq_done.mpr ⟨file, _, fileName_append h rest, ?_⟩
    exact bind_eq_done.mpr ⟨'\'', rest, char_eq_done.mpr ⟨rfl, rfl⟩, rfl⟩

theorem separator_eq_done {c : Char} (h : pathSeparator s = .done c rest) :
    s = c :: rest ∧ IsSeparator c := by
  obtain ⟨hsplit, hc⟩ := satisfy_eq_done.mp h
  exact ⟨hsplit, by simpa [IsSeparator] using hc⟩

theorem opening_eq_done (h : or (tag ['\\', '\\']) (do
      let scheme ← optional (word "smb:".toList)
      let slashes ← tag ['/', '/']
      return scheme.getD [] ++ slashes) s = .done t rest) : s = t ++ rest ∧ IsOpening t := by
  rcases or_eq_done.mp h with h | ⟨-, h⟩
  · obtain ⟨rfl, rfl⟩ := tag_eq_done.mp h
    exact ⟨rfl, .backslashes⟩
  · obtain ⟨scheme, mid, hscheme, h⟩ := bind_eq_done.mp h
    obtain ⟨slashes, left, hslashes, h⟩ := bind_eq_done.mp h
    obtain ⟨rfl, rfl⟩ := pure_eq_done.mp h
    obtain ⟨rfl, rfl⟩ := tag_eq_done.mp hslashes
    rcases optional_eq_done.mp hscheme with ⟨taken, rfl, hword⟩ | ⟨rfl, rfl, -⟩
    · obtain ⟨rfl, hlower⟩ := (word_eq_done (by decide)).mp hword
      exact ⟨by simp, .scheme hlower⟩
    · exact ⟨rfl, .slashes⟩

theorem root_eq_done (h : or drive server s = .done t rest) : s = t ++ rest ∧ IsRoot t := by
  rcases or_eq_done.mp h with h | ⟨-, h⟩
  · simp only [drive, bind_eq_done, pure_eq_done, satisfy_eq_done, char_eq_done] at h
    obtain ⟨letter, _, ⟨rfl, hletter⟩, _, _, ⟨rfl, rfl⟩, rfl, rfl⟩ := h
    exact ⟨rfl, .drive hletter⟩
  · obtain ⟨opening, _, hread, hmore⟩ := bind_eq_done.mp h
    simp only [bind_eq_done, pure_eq_done, takeWhile1_eq_done, identifier_eq_done] at hmore
    obtain ⟨host, _, ⟨rfl, hne, hall, -⟩, separator, _, hsep, share, _, ⟨rfl, hshare, -⟩, rfl,
      rfl⟩ := hmore
    obtain ⟨hsplit, hopening⟩ := opening_eq_done hread
    obtain ⟨rfl, hseparator⟩ := separator_eq_done hsep
    exact ⟨by simp [hsplit], .server hopening ⟨hne, hall⟩ hseparator hshare⟩

theorem folders_eq_done {items : List (List Char)} (h : many (do
      let name ← identifier
      let separator ← pathSeparator
      return name ++ [separator]) s = .done items rest) :
    s = items.flatten ++ rest ∧ IsFolders items.flatten := by
  induction items generalizing s with
  | nil =>
    rcases many_eq_done.mp h with ⟨-, rfl, -⟩ | ⟨_, _, _, hitems, -⟩
    · exact ⟨rfl, .none⟩
    · simp at hitems
  | cons item more ih =>
    rcases many_eq_done.mp h with ⟨hitems, -⟩ | ⟨a, mid, others, hitems, ha, -, hmore⟩
    · simp at hitems
    · obtain ⟨rfl, rfl⟩ := List.cons.inj hitems
      obtain ⟨rfl, hfolders⟩ := ih hmore
      simp only [bind_eq_done, pure_eq_done, identifier_eq_done] at ha
      obtain ⟨name, _, ⟨rfl, hname, -⟩, separator, _, hsep, rfl, rfl⟩ := ha
      obtain ⟨rfl, hseparator⟩ := separator_eq_done hsep
      refine ⟨by simp, ?_⟩
      simpa using IsFolders.more hname hseparator hfolders

theorem path_eq_done (h : workbookPath s = .done t rest) : s = t ++ rest ∧ IsPath t := by
  simp only [workbookPath, bind_eq_done, pure_eq_done] at h
  obtain ⟨o, _, ho, separator, _, hsep, items, _, hitems, rfl, rfl⟩ := h
  obtain ⟨rfl, hseparator⟩ := separator_eq_done hsep
  obtain ⟨rfl, hfolders⟩ := folders_eq_done hitems
  rcases optional_eq_done.mp ho with ⟨text, rfl, hread⟩ | ⟨rfl, rfl, -⟩
  · obtain ⟨rfl, hroot⟩ := root_eq_done hread
    exact ⟨by simp, .absolute hroot hseparator hfolders⟩
  · exact ⟨by simp, .relative hseparator hfolders⟩

theorem fileName_eq_done (h : fileName s = .done t rest) : s = t ++ rest ∧ IsFileName t := by
  simp only [fileName, bind_eq_done, pure_eq_done, identifier_eq_done] at h
  obtain ⟨stem, _, ⟨rfl, hstem, -⟩, o, _, ho, rfl, rfl⟩ := h
  rcases optional_eq_done.mp ho with ⟨text, rfl, hread⟩ | ⟨rfl, rfl, -⟩
  · simp only [bind_eq_done, pure_eq_done, identifier_eq_done, char_eq_done] at hread
    obtain ⟨_, _, ⟨rfl, rfl⟩, name, _, ⟨rfl, hname, -⟩, rfl, rfl⟩ := hread
    exact ⟨by simp, .dotted hstem hname⟩
  · exact ⟨by simp, by simpa using IsFileName.plain hstem⟩

/-- What the reader of linked workbooks gives is one, and is what it has read. -/
theorem linkedWorkbook_eq_done (h : linkedWorkbook s = .done t rest) :
    s = t ++ rest ∧ IsWorkbook t := by
  simp only [linkedWorkbook, bind_eq_done, pure_eq_done, char_eq_done] at h
  obtain ⟨_, _, ⟨rfl, rfl⟩, o, _, ho, file, _, hread, _, _, ⟨rfl, rfl⟩, rfl, rfl⟩ := h
  obtain ⟨rfl, hfile⟩ := fileName_eq_done hread
  rcases optional_eq_done.mp ho with ⟨text, rfl, hread⟩ | ⟨rfl, rfl, -⟩
  · obtain ⟨rfl, hpath⟩ := path_eq_done hread
    exact ⟨by simp, .path hpath hfile⟩
  · exact ⟨by simp, .name hfile⟩

end ListingGrid.Grammar.Formula
