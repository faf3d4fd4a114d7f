import ListingGrid.Files.Store
import ListingGrid.Proofs.Outcomes

/-!
# What writing keeps

Writing puts a file at the place that its path leads to, and making directories puts
them where there is nothing yet. So directories stay directories, a path that leads
to a place leads there ever after, and every other place keeps what it holds.
-/

set_option autoImplicit false

namespace ListingGrid.Store

variable {a b c store : Store} {place : Place} {entry : Entry}

theorem lookup_pair (p : Place × Entry) (entries : List (Place × Entry)) (place : Place) :
    (p :: entries).lookup place = if p.1 = place then some p.2 else entries.lookup place := by
  obtain ⟨q, entry⟩ := p
  by_cases h : q = place
  · simp [h]
  · simp [List.lookup_cons, beq_false_of_ne (Ne.symm h), h]

theorem lookup_replaced (entries : List (Place × Entry)) (place other : Place) (entry : Entry) :
    (entries.map fun (q, old) => if q = place then (q, entry) else (q, old)).lookup other =
      if other = place then (entries.lookup place).map fun _ => entry else entries.lookup other := by
  induction entries with
  | nil => simp
  | cons p more ih =>
    rw [List.map_cons, lookup_pair, lookup_pair, lookup_pair, ih]
    by_cases hp : p.1 = place
    · by_cases ho : other = place
      · simp [hp, ho]
      · simp [hp, ho, Ne.symm ho]
    · by_cases ho : other = place
      · simp [hp, ho]
      · simp [hp, ho]

theorem any_eq_lookup (entries : List (Place × Entry)) (place : Place) :
    entries.any (·.1 == place) = (entries.lookup place).isSome := by
  induction entries with
  | nil => rfl
  | cons p more ih =>
    rw [List.any_cons, lookup_pair, ih]
    by_cases hp : p.1 = place <;> simp [hp]

theorem entryAt_put (store : Store) (place other : Place) (entry : Entry) :
    (store.put place entry).entryAt? other =
      if other ≠ [] ∧ other = place then some entry else store.entryAt? other := by
  unfold entryAt? put
  by_cases hother : other = []
  · simp [hother]
  · rw [any_eq_lookup]
    by_cases heq : other = place
    · subst heq
      cases hplace : store.entries.lookup other <;>
        simp [lookup_replaced, List.lookup_append, hother, hplace]
    · cases hplace : store.entries.lookup place <;>
        simp [lookup_replaced, List.lookup_append, lookup_pair, hother, heq, Ne.symm heq]

structure Keeps (a b : Store) : Prop where
  workingDirectory : b.workingDirectory = a.workingDirectory
  directory : ∀ place, a.entryAt? place = some .directory → b.entryAt? place = some .directory

theorem Keeps.refl (a : Store) : a.Keeps a := ⟨rfl, fun _ h => h⟩

theorem Keeps.trans (hab : a.Keeps b) (hbc : b.Keeps c) : a.Keeps c :=
  ⟨hbc.workingDirectory.trans hab.workingDirectory,
    fun place h => hbc.directory place (hab.directory place h)⟩

theorem put_workingDirectory (store : Store) (place : Place) (entry : Entry) :
    (store.put place entry).workingDirectory = store.workingDirectory := by
  unfold put
  split <;> rfl

/-- What is put where there is no directory leaves the directories as they are. -/
theorem Keeps.put (h : store.entryAt? place ≠ some .directory) (entry : Entry) :
    store.Keeps (store.put place entry) := by
  refine ⟨put_workingDirectory .., fun other ho => ?_⟩
  have hne : other ≠ place := fun heq => h (heq ▸ ho)
  simp [entryAt_put, hne, ho]

theorem Keeps.follow (h : a.Keeps b) {mustEnter : Bool} {reached pieces : List Path.Piece}
    (hf : a.follow mustEnter reached pieces = .ok place) :
    b.follow mustEnter reached pieces = .ok place := by
  induction pieces generalizing reached with
  | nil => exact hf
  | cons piece more ih =>
    unfold Store.follow at hf ⊢
    split
    · next hparent =>
      rw [if_pos hparent] at hf
      exact ih hf
    · next hparent =>
      rw [if_neg hparent] at hf
      split at hf
      · simp at hf
      · next hlong =>
        rw [if_neg hlong]
        split at hf
        · next hlast => rwa [if_pos hlast]
        · next hlast =>
          rw [if_neg hlast]
          split at hf
          · next hdir =>
            simp only [h.directory _ hdir]
            exact ih hf
          · simp at hf
          · simp at hf

theorem Keeps.find (h : a.Keeps b) {path : Path} (hf : a.find path = .ok place) :
    b.find path = .ok place := by
  have hbase : b.base path = a.base path := by simp [base, h.workingDirectory]
  obtain ⟨checked, hcheck, hfollow⟩ := bind_eq_ok.mp hf
  refine bind_eq_ok.mpr ⟨checked, hcheck, ?_⟩
  rw [followFrom, hbase]
  exact h.follow hfollow

theorem get_eq_ok {path : Path} :
    store.get path = .ok entry ↔
      ∃ place, store.find path = .ok place ∧ store.entryAt? place = some entry := by
  refine bind_eq_ok.trans (exists_congr fun place => and_congr_right fun _ => ?_)
  cases store.entryAt? place <;> simp [pure, Except.pure]

theorem findWritable_eq_ok {path : Path} :
    store.findWritable path = .ok place ↔
      path.endsInSlash = false ∧ store.find path = .ok place ∧
        store.entryAt? place ≠ some .directory := by
  unfold findWritable
  by_cases hs : path.endsInSlash = true
  · simp only [hs, if_true]
    cases checkPath path with
    | error cause => simp [bind, Except.bind]
    | ok checked =>
      cases store.followFrom path true path.pieces.dropLast <;>
        simp [bind, Except.bind, throw, throwThe, MonadExceptOf.throw]
  · simp only [Bool.not_eq_true] at hs
    cases store.find path with
    | error cause => simp [hs, bind, Except.bind]
    | ok found =>
      by_cases hfound : found = place
      · subst hfound
        rcases he : store.entryAt? found with _ | _ | _ <;>
          simp [hs, he, bind, Except.bind, pure, Except.pure, throw, throwThe, MonadExceptOf.throw]
      · rcases he : store.entryAt? found with _ | _ | _ <;>
          simp [hs, he, hfound, bind, Except.bind, pure, Except.pure, throw, throwThe,
            MonadExceptOf.throw]

/-- A file is written at the place of its path, where there was a file or nothing. -/
theorem write_eq_ok {path : Path} {contents : Contents} {after : Store} :
    store.write path contents = .ok after ↔
      ∃ place, store.findWritable path = .ok place ∧ store.put place (.file contents) = after := by
  refine bind_eq_ok.trans (exists_congr fun place => and_congr_right fun _ => ?_)
  simp [pure, Except.pure]

/-- What is put where a path leads is found by the path. -/
theorem get_put {path : Path} (hfind : store.find path = .ok place)
    (hentry : store.entryAt? place ≠ some .directory) (entry : Entry) :
    (store.put place entry).get path = .ok entry := by
  have hroot : place ≠ [] := by
    rintro rfl
    exact hentry rfl
  refine get_eq_ok.mpr ⟨place, (Keeps.put hentry entry).find hfind, ?_⟩
  rw [entryAt_put, if_pos ⟨hroot, rfl⟩]

/-- Whether a store has all that another one has, and maybe more directories. -/
structure Extends (a b : Store) : Prop where
  workingDirectory : b.workingDirectory = a.workingDirectory
  entry : ∀ place entry, a.entryAt? place = some entry → b.entryAt? place = some entry

theorem Extends.refl (a : Store) : a.Extends a := ⟨rfl, fun _ _ h => h⟩

theorem Extends.trans (hab : a.Extends b) (hbc : b.Extends c) : a.Extends c :=
  ⟨hbc.workingDirectory.trans hab.workingDirectory,
    fun place entry h => hbc.entry place entry (hab.entry place entry h)⟩

theorem Extends.keeps (h : a.Extends b) : a.Keeps b := ⟨h.workingDirectory, fun _ => h.entry _ _⟩

theorem Extends.get (h : a.Extends b) {path : Path} (hget : a.get path = .ok entry) :
    b.get path = .ok entry := by
  obtain ⟨place, hfind, hentry⟩ := get_eq_ok.mp hget
  exact get_eq_ok.mpr ⟨place, h.keeps.find hfind, h.entry place entry hentry⟩

theorem makeDirectory_extends {path : Path} {pieces : List Path.Piece}
    (h : a.makeDirectory path pieces = .ok b) : a.Extends b := by
  obtain ⟨place, -, hmade⟩ := bind_eq_ok.mp h
  cases he : a.entryAt? place with
  | some entry => simp [he, throw, throwThe, MonadExceptOf.throw, bind, Except.bind] at hmade
  | none =>
    obtain rfl : a.put place .directory = b := by
      simpa [he, pure, Except.pure, bind, Except.bind] using hmade
    refine ⟨put_workingDirectory .., fun other entry ho => ?_⟩
    have hne : other ≠ place := by
      rintro rfl
      simp [ho] at he
    simp [entryAt_put, hne, ho]

theorem makeOnce_extends {path : Path} {dotBehind : Bool} {names : List Path.Piece}
    (h : (match a.followFrom path true names with
      | .ok _ => .ok a
      | .error cause => if dotBehind then .error cause else a.makeDirectory path names) =
        Except.ok b) : a.Extends b := by
  split at h
  · obtain rfl : a = b := by simpa using h
    exact .refl a
  · split at h
    · simp at h
    · exact makeDirectory_extends h

theorem makeAbove_extends {path : Path} {dotBehind : Bool} {pieces : List Path.Piece}
    (h : a.makeAbove path dotBehind pieces = .ok b) : a.Extends b := by
  induction pieces generalizing b dotBehind with
  | nil =>
    obtain rfl : a = b := by simpa [makeAbove] using h
    exact .refl a
  | cons piece above ih =>
    simp only [makeAbove] at h
    split at h
    · obtain ⟨c, habove, honce⟩ := bind_eq_ok.mp h
      exact (ih habove).trans (makeOnce_extends honce)
    · exact makeOnce_extends h

theorem makeDirectories_extends {path : Path} (h : a.makeDirectories path = .ok b) :
    a.Extends b := by
  unfold makeDirectories at h
  split at h
  · obtain rfl : a = b := by simpa using h
    exact .refl a
  · obtain ⟨checked, -, habove⟩ := bind_eq_ok.mp h
    exact makeAbove_extends habove

end ListingGrid.Store
