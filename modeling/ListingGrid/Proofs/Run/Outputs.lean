import ListingGrid.Proofs.Files.Kept
import ListingGrid.Proofs.Files.OutputPath
import ListingGrid.Proofs.Run.Failures

/-!
# Outputs of a run

A listing that succeeds writes the rendering of its pass to the output that is named
for it, and nothing else. The listings have their turns one after the other, so an
output holds what its last listing wrote, and a listing is read as it was before the
run unless an output was written over it.
-/

set_option autoImplicit false

namespace ListingGrid

namespace RunState

/-- The state of a run after the turns of so many listings. -/
def turn (start : RunState) (options : RunOptions) (clock : Clock) (listings : List Path)
    (k : Nat) : RunState :=
  (start.processListings options clock (listings.take k)).1

variable {start st : RunState} {options : RunOptions} {clock : Clock} {listings : List Path}

theorem behind_behind (clock : Clock) (m n : Nat) :
    (clock.behind m).behind n = clock.behind (m + n) :=
  funext fun k => congrArg clock (Nat.add_assoc m n k).symm

theorem processListings_append (st : RunState) (options : RunOptions) (clock : Clock)
    (xs ys : List Path) :
    st.processListings options clock (xs ++ ys) =
      (((st.processListings options clock xs).1.processListings options (clock.behind xs.length)
          ys).1,
        (st.processListings options clock xs).2 ++
          ((st.processListings options clock xs).1.processListings options
            (clock.behind xs.length) ys).2) := by
  induction xs generalizing st clock with
  | nil =>
    have hclock : clock.behind 0 = clock := funext fun k => congrArg clock (Nat.zero_add k)
    rw [List.length_nil, hclock]
    rfl
  | cons listing more ih =>
    simp only [List.cons_append, processListings, ih, List.length_cons, behind_behind,
      Nat.add_comm 1]

theorem turn_succ {k : Nat} {listing : Path} (h : listings[k]? = some listing) :
    start.turn options clock listings (k + 1) =
      ((start.turn options clock listings k).processListing options (clock k) listing).1 := by
  have hlength : (listings.take k).length = k :=
    List.length_take_of_le (Nat.le_of_lt (List.getElem?_eq_some_iff.mp h).1)
  rw [turn, List.take_add_one, h, Option.toList_some, processListings_append, hlength]
  rfl

theorem turn_end {k : Nat} (h : listings.length ≤ k) :
    start.turn options clock listings k = (start.processListings options clock listings).1 := by
  rw [turn, List.take_of_length_le h]

theorem turn_stays {k : Nat} (h : listings[k]? = none) :
    start.turn options clock listings (k + 1) = start.turn options clock listings k := by
  have hlength := List.getElem?_eq_none_iff.mp h
  rw [turn_end (by omega), turn_end hlength]

theorem processListings_at (k : Nat) :
    (start.processListings options clock listings).2[k]? =
      listings[k]?.map fun listing =>
        ((start.turn options clock listings k).processListing options (clock k) listing).2 := by
  induction listings generalizing start clock k with
  | nil => simp [processListings]
  | cons listing more ih =>
    cases k with
    | zero => rfl
    | succ k =>
      have hclock : clock.behind 1 k = clock (k + 1) := congrArg clock (Nat.add_comm 1 k)
      simp only [processListings, List.getElem?_cons_succ, ih, hclock]
      rfl

theorem result_of_turn {k : Nat} {r : ListingResult}
    (h : (start.processListings options clock listings).2[k]? = some r) :
    listings[k]? = some r.listing ∧
      r = ((start.turn options clock listings k).processListing options (clock k) r.listing).2 := by
  rw [processListings_at, Option.map_eq_some_iff] at h
  obtain ⟨listing, hlisting, rfl⟩ := h
  rw [processListing_listing]
  exact ⟨hlisting, rfl⟩

/-- A listing succeeds by writing the rendering of its pass where its output is. -/
theorem processListing_ok {now : TimeStamp} {listing : Path} {output : ListingOutput}
    (h : (st.processListing options now listing).2.outcome = .ok output) :
    output.path = options.naming.path listing now ∧
      (st.report.processFile st.store listing).outcome = .ok output.summary ∧
      ∃ contents place,
        (st.report.processFile st.store listing).report.contents options.naming.format
          options.render = .ok contents ∧
        st.store.find output.path = .ok place ∧
        st.store.entryAt? place ≠ some .directory ∧
        (st.processListing options now listing).1.store = st.store.put place (.file contents) := by
  obtain ⟨events, hdelivered⟩ := st.processListing_delivered options now listing
  rw [hdelivered] at h ⊢
  unfold PassResult.delivered at h ⊢
  cases hpass : (st.report.processFile st.store listing).outcome with
  | error cause => simp [hpass] at h
  | ok summary =>
    simp only [hpass] at h ⊢
    cases hcontents : (st.report.processFile st.store listing).report.contents
        options.naming.format options.render with
    | error cause => simp [hcontents] at h
    | ok contents =>
      simp only [hcontents] at h ⊢
      cases hwrite : st.store.write (options.naming.path listing now) contents with
      | error cause => cases contents <;> simp [hwrite] at h
      | ok after =>
        simp only [hwrite, Except.ok.injEq] at h ⊢
        subst h
        obtain ⟨place, hplace, hput⟩ := Store.write_eq_ok.mp hwrite
        obtain ⟨-, hfind, hentry⟩ := Store.findWritable_eq_ok.mp hplace
        exact ⟨rfl, rfl, contents, place, rfl, hfind, hentry, hput.symm⟩

theorem processListing_keeps (st : RunState) (options : RunOptions) (now : TimeStamp)
    (listing : Path) : st.store.Keeps (st.processListing options now listing).1.store := by
  cases houtcome : (st.processListing options now listing).2.outcome with
  | error e =>
    rw [processListing_failed (by simp [ListingResult.isOk, houtcome])]
    exact .refl _
  | ok output =>
    obtain ⟨-, -, contents, place, -, -, hentry, hstore⟩ := processListing_ok houtcome
    rw [hstore]
    exact .put hentry _

/-- Only the place of the output of a listing that succeeds is written to. -/
theorem processListing_entryAt {now : TimeStamp} {listing : Path} {place : Place}
    (h : (st.processListing options now listing).2.isOk = true →
      st.store.find (options.naming.path listing now) ≠ .ok place) :
    (st.processListing options now listing).1.store.entryAt? place = st.store.entryAt? place := by
  cases houtcome : (st.processListing options now listing).2.outcome with
  | error e => rw [processListing_failed (by simp [ListingResult.isOk, houtcome])]
  | ok output =>
    obtain ⟨hpath, -, contents, written, -, hfind, -, hstore⟩ := processListing_ok houtcome
    have hne : place ≠ written := by
      rintro rfl
      exact h (by simp [ListingResult.isOk, houtcome]) (hpath ▸ hfind)
    simp [hstore, Store.entryAt_put, hne]

theorem turn_keeps (start : RunState) (options : RunOptions) (clock : Clock)
    (listings : List Path) {i k : Nat} (h : i ≤ k) :
    (start.turn options clock listings i).store.Keeps (start.turn options clock listings k).store := by
  induction k, h using Nat.le_induction with
  | base => exact .refl _
  | succ k hk ih =>
    cases hlisting : listings[k]? with
    | some listing =>
      rw [turn_succ hlisting]
      exact ih.trans (processListing_keeps ..)
    | none => rwa [turn_stays hlisting]

theorem turn_entryAt {i k : Nat} (h : i ≤ k) {place : Place}
    (hother : ∀ j listing, i ≤ j → j < k → listings[j]? = some listing →
      ((start.turn options clock listings j).processListing options (clock j) listing).2.isOk = true →
      (start.turn options clock listings j).store.find (options.naming.path listing (clock j)) ≠ .ok place) :
    (start.turn options clock listings k).store.entryAt? place =
      (start.turn options clock listings i).store.entryAt? place := by
  induction k, h using Nat.le_induction with
  | base => rfl
  | succ k hk ih =>
    have hbefore := ih fun j listing hij hjk => hother j listing hij (by omega)
    cases hlisting : listings[k]? with
    | some listing =>
      rw [turn_succ hlisting, processListing_entryAt (hother k listing hk (by omega) hlisting),
        hbefore]
    | none => rw [turn_stays hlisting, hbefore]

/-- What a path leads to in a turn is there in the later ones, unless an output is written
over it. -/
theorem turn_get {i k : Nat} (h : i ≤ k) {path : Path} {entry : Entry}
    (hget : (start.turn options clock listings i).store.get path = .ok entry)
    (hother : ∀ j listing, i ≤ j → j < k → listings[j]? = some listing →
      ((start.turn options clock listings j).processListing options (clock j) listing).2.isOk = true →
      ∀ place, (start.turn options clock listings j).store.find path = .ok place →
        (start.turn options clock listings j).store.find (options.naming.path listing (clock j)) ≠ .ok place) :
    (start.turn options clock listings k).store.get path = .ok entry := by
  obtain ⟨place, hfind, hentry⟩ := Store.get_eq_ok.mp hget
  have hfound : ∀ j, i ≤ j → (start.turn options clock listings j).store.find path = .ok place :=
    fun j hij => (turn_keeps start options clock listings hij).find hfind
  refine Store.get_eq_ok.mpr ⟨place, hfound k h, ?_⟩
  rw [turn_entryAt h, hentry]
  exact fun j listing hij hjk hlisting hok => hother j listing hij hjk hlisting hok place
    (hfound j hij)

end RunState

/-- What a run of listings does to files: every listing that succeeds has an output. -/
structure RunResult.Delivers (result : RunResult) (store : Store) (definition : Path)
    (listings : List Path) (options : RunOptions) (clock : Clock) (start : RunState) : Prop where
  loaded : loadDefinition store definition = .ok start.report
  directories : store.makeDirectories options.naming.directory = .ok start.store
  /-- Listings have their turns in their order. -/
  turns : ∀ k : Nat, result.listings[k]? = listings[k]?.map fun listing =>
    ((start.turn options clock listings k).processListing options (clock k) listing).2
  finished : result.store = (start.turn options clock listings listings.length).store
  /-- An output holds the rendering of the pass of its listing, unless a listing
  further behind is named alike. -/
  output : ∀ (k : Nat) (r : ListingResult) (output : ListingOutput),
    result.listings[k]? = some r → r.outcome = .ok output →
      output.path = options.naming.path r.listing (clock k) ∧
      ∃ contents,
        let turn := start.turn options clock listings k
        let pass := turn.report.processFile turn.store r.listing
        pass.outcome = .ok output.summary ∧
        pass.report.contents options.naming.format options.render = .ok contents ∧
        ((∀ (j : Nat) (later : ListingResult), k < j → result.listings[j]? = some later →
            later.isOk = true →
            options.naming.namedFor later.listing ≠ options.naming.namedFor r.listing) →
          result.store.get output.path = .ok (.file contents))
  /-- Outputs have one path exactly when their listings are named alike. -/
  distinct : ∀ (r other : ListingResult) (output otherOutput : ListingOutput),
    r ∈ result.listings → other ∈ result.listings → r.outcome = .ok output →
    other.outcome = .ok otherOutput →
      (output.path = otherOutput.path ↔
        options.naming.namedFor r.listing = options.naming.namedFor other.listing)
  /-- What a path leads to before the run is there in every turn, unless an output has
  been written over it. -/
  kept : ∀ (path : Path) (entry : Entry) (k : Nat), store.get path = .ok entry →
    (∀ (j : Nat) (r : ListingResult), j < k → result.listings[j]? = some r → r.isOk = true →
      result.store.find (options.naming.path r.listing (clock j)) ≠ result.store.find path) →
    (start.turn options clock listings k).store.get path = .ok entry

theorem run_turns {store : Store} {definition : Path} {listings : List Path}
    {options : RunOptions} {clock : Clock} {result : RunResult}
    (h : run store definition listings options clock = .ok result) :
    ∃ start : RunState, loadDefinition store definition = .ok start.report ∧
      store.makeDirectories options.naming.directory = .ok start.store ∧
      result.listings = (start.processListings options clock listings).2 ∧
      result.store = (start.turn options clock listings listings.length).store := by
  obtain ⟨report, hload, hturns⟩ := bind_eq_ok.mp h
  cases hmade : store.makeDirectories options.naming.directory with
  | error cause => simp [hmade, throw, throwThe, MonadExceptOf.throw] at hturns
  | ok made =>
    simp only [hmade, pure, Except.pure, Except.ok.injEq] at hturns
    refine ⟨⟨report, made, #[]⟩, hload, rfl, ?_, ?_⟩
    · rw [← hturns]
    · rw [RunState.turn_end (Nat.le_refl _), ← hturns]

/-- Every listing that succeeds has its own output, as far as the names allow. -/
theorem run_delivers {store : Store} {definition : Path} {listings : List Path}
    {options : RunOptions} {clock : Clock} {result : RunResult}
    (hstamp : options.naming.timeStamp = false)
    (h : run store definition listings options clock = .ok result) :
    ∃ start, result.Delivers store definition listings options clock start := by
  obtain ⟨start, hload, hmade, hlistings, hstore⟩ := run_turns h
  have hturns : ∀ k : Nat, result.listings[k]? = listings[k]?.map fun listing =>
      ((start.turn options clock listings k).processListing options (clock k) listing).2 := fun k =>
    hlistings ▸ RunState.processListings_at k
  have hresult : ∀ (k : Nat) (r : ListingResult), result.listings[k]? = some r →
      listings[k]? = some r.listing ∧
      r = ((start.turn options clock listings k).processListing options (clock k) r.listing).2 :=
    fun k r hr => RunState.result_of_turn (hlistings ▸ hr)
  have hpath : ∀ (r : ListingResult) (output : ListingOutput), r ∈ result.listings →
      r.outcome = .ok output → ∃ now, output.path = options.naming.path r.listing now := by
    intro r output hr houtcome
    obtain ⟨k, hk⟩ := List.mem_iff_getElem?.mp hr
    obtain ⟨-, hrun⟩ := hresult k r hk
    exact ⟨clock k, (RunState.processListing_ok (hrun ▸ houtcome)).1⟩
  refine ⟨start, hload, hmade, hturns, hstore, ?output, ?distinct, ?kept⟩
  case output =>
    intro k r output hr houtcome
    obtain ⟨hlisting, hrun⟩ := hresult k r hr
    obtain ⟨hname, hpass, contents, place, hcontents, hfind, hentry, hput⟩ :=
      RunState.processListing_ok (hrun ▸ houtcome)
    have hk := (List.getElem?_eq_some_iff.mp hlisting).1
    refine ⟨hname, contents, hpass, hcontents, fun hlater => ?_⟩
    have hwritten : (start.turn options clock listings (k + 1)).store.get output.path =
        .ok (.file contents) := by
      rw [RunState.turn_succ hlisting, hput]
      exact Store.get_put hfind hentry _
    rw [hstore]
    refine RunState.turn_get hk hwritten fun j listing hkj _ hlistingj hok place hplace hfindj => ?_
    refine hlater j _ hkj (by rw [hturns, hlistingj]; rfl) hok ?_
    rw [RunState.processListing_listing, ← OutputNaming.path_eq_iff hstamp _ _ (clock j) (clock k)]
    rw [hname] at hplace
    exact OutputNaming.path_eq_of_find hstamp hfindj hplace
  case distinct =>
    intro r other output otherOutput hr hother houtcome hotherOutcome
    obtain ⟨now, hname⟩ := hpath r output hr houtcome
    obtain ⟨later, hotherName⟩ := hpath other otherOutput hother hotherOutcome
    rw [hname, hotherName, OutputNaming.path_eq_iff hstamp]
  case kept =>
    intro path entry k hget hwritten
    have hstart : start.store.get path = .ok entry :=
      (Store.makeDirectories_extends hmade).get hget
    refine RunState.turn_get (Nat.zero_le k) hstart
      fun j listing _ hj hlistingj hok place hplace hfindj => ?_
    have hkeeps := RunState.turn_keeps start options clock listings
      (Nat.le_of_lt (List.getElem?_eq_some_iff.mp hlistingj).1)
    refine hwritten j _ hj (by rw [hturns, hlistingj]; rfl) hok ?_
    rw [RunState.processListing_listing, hstore, hkeeps.find hfindj, hkeeps.find hplace]

/-- Three listings: the output of the first one is the second one, and the output of
the third one as well. -/
def clashStore : Store :=
  ((((Store.empty []).place (.ofText "d.def") (.file (.ofText
    "title T\nsection body fieldset include_filters \"A\" string 0 2\n"))).place
      (.ofText "a.lst") (.file (.ofText "A1\n"))).place
      (.ofText "a.lst.csv") (.file (.ofText "A2\nA3\n"))).place
      (.ofText "d/a.lst") (.file (.ofText "A4\n"))

def clashListings : List Path := [.ofText "a.lst", .ofText "a.lst.csv", .ofText "d/a.lst"]

def clashOptions : RunOptions := ⟨⟨.ofText ".", .csv, false, true⟩, ⟨"", none, 59, false⟩⟩

def clashRun : Except RunError RunResult :=
  run clashStore (.ofText "d.def") clashListings clashOptions RunState.sampleClock

theorem run_delivers_clash : ∃ result start, clashOptions.naming.timeStamp = false ∧
    clashRun = .ok result ∧
    result.listings.map (·.output?) =
      [some (.ofText "./a.lst.csv"), some (.ofText "./a.lst.csv.csv"),
        some (.ofText "./a.lst.csv")] ∧
    result.Delivers clashStore (.ofText "d.def") clashListings clashOptions RunState.sampleClock
      start := by
  have hcheck : (clashRun.toOption.map fun result => result.listings.map (·.output?)) =
      some [some (.ofText "./a.lst.csv"), some (.ofText "./a.lst.csv.csv"),
        some (.ofText "./a.lst.csv")] := by
    decide +kernel
  obtain ⟨result, hrun, houtputs⟩ := ok_of_toOption hcheck
  obtain ⟨start, hdelivers⟩ := run_delivers rfl hrun
  exact ⟨result, start, rfl, hrun, houtputs, hdelivers⟩

/-- Listings that succeed can have one output, and it can be one of the listings. -/
theorem outputs_not_apart : ¬∀ (store : Store) (definition : Path) (listings : List Path)
    (options : RunOptions) (clock : Clock) (result : RunResult), listings.Nodup →
    options.naming.timeStamp = false →
    run store definition listings options clock = .ok result →
      (∀ listing ∈ listings, ∀ entry, store.get listing = .ok entry →
        result.store.get listing = .ok entry) ∧
      (result.listings.filterMap (·.output?)).Nodup := by
  intro hclaim
  have hcheck : (clashRun.toOption.any fun result =>
      !decide (result.listings.filterMap (·.output?)).Nodup) = true := by
    decide +kernel
  obtain ⟨result, hrun, hsame⟩ := ok_of_any hcheck
  obtain ⟨-, hnodup⟩ := hclaim clashStore (.ofText "d.def") clashListings clashOptions
    RunState.sampleClock result (by decide +kernel) rfl hrun
  simp [hnodup] at hsame

end ListingGrid
