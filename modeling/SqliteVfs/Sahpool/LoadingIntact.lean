import SqliteVfs.Sahpool.LoadingSpec

/-!
# A load keeps what it cannot read

`acquire_access_handles` on any directory and with any failures.  A directory with a slot that
cannot be read, or with a name that is there twice, is left as it was.
-/

set_option autoImplicit false

namespace SqliteVfs

namespace Sahpool

variable {w w' w'' w₀ : World} {file name : String} {files entries : List String}

/-! ## What a load leaves behind -/

inductive Unreadable (directory : AList fun _ : String => SlotFile) : Prop
  | invalid (file reason : String) (broken : decoded directory file = some (.error reason))
  | duplicate (name first second : String) (different : first ≠ second)
      (one : decoded directory first = some (.ok (some name)))
      (other : decoded directory second = some (.ok (some name)))

/-- A load that did not succeed: only slots without a name may have been reset, and none of an
unreadable directory. -/
structure NotLoaded (w w' : World) : Prop where
  kept : ∀ file, decoded w.directory file ≠ some (.ok none) →
    w'.directory.lookup file = w.directory.lookup file
  intact : Unreadable w.directory → ∀ file, w'.directory.lookup file = w.directory.lookup file

/-- A load that succeeded: the names are those of the directory, and the other slots are reset. -/
structure LoadedAll (w w' : World) : Prop where
  readable : ¬ Unreadable w.directory
  names : ∀ name file, w'.mapFilenameToFile.lookup name = some file ↔
    decoded w.directory file = some (.ok (some name))
  available : ∀ file, file ∈ w'.availableFiles ↔ decoded w.directory file = some (.ok none)
  distinct : w'.availableFiles.Nodup
  kept : ∀ file, decoded w.directory file ≠ some (.ok none) →
    w'.directory.lookup file = w.directory.lookup file
  reset : ∀ file, decoded w.directory file = some (.ok none) → ∃ content,
    w'.directory.lookup file = some content ∧ content.contents.length = headerOffsetData ∧
      content.contents.take headerCorpusSize = emptyHeader

theorem World.Looked.notLoaded (looked : w.Looked w') : NotLoaded w w' :=
  ⟨fun file _ => looked.contents file, fun _ => looked.contents⟩

theorem Unreadable.looked (looked : w.Looked w') (unreadable : Unreadable w.directory) :
    Unreadable w'.directory := by
  cases unreadable with
  | invalid file reason broken =>
      exact .invalid file reason ((looked.decoded file).trans broken)
  | duplicate name first second different one other =>
      exact .duplicate name first second different ((looked.decoded first).trans one)
        ((looked.decoded second).trans other)

theorem NotLoaded.after_looked (looked : w.Looked w') (notLoaded : NotLoaded w' w'') :
    NotLoaded w w'' where
  kept file other := (notLoaded.kept file (looked.decoded file ▸ other)).trans
    (looked.contents file)
  intact unreadable file :=
    (notLoaded.intact (unreadable.looked looked) file).trans (looked.contents file)

theorem LoadedAll.after_looked (looked : w.Looked w') (loaded : LoadedAll w' w'') :
    LoadedAll w w'' where
  readable unreadable := loaded.readable (unreadable.looked looked)
  names name file := (loaded.names name file).trans (by rw [looked.decoded])
  available file := (loaded.available file).trans (by rw [looked.decoded])
  distinct := loaded.distinct
  kept file other := (loaded.kept file (looked.decoded file ▸ other)).trans (looked.contents file)
  reset file nameless := loaded.reset file ((looked.decoded file).trans nameless)

theorem Sorted.not_unreadable {directory : AList fun _ : String => SlotFile}
    {assigned : AList fun _ : String => String} {available : List String}
    (sorted : Sorted directory files assigned available)
    (all : ∀ file, file ∈ directory ↔ file ∈ files) : ¬ Unreadable directory := by
  have listed {file : String} {found : Except String (Option String)}
      (reading : decoded directory file = some found) : file ∈ files := by
    refine (all file).mp (AList.lookup_isSome.mp ?_)
    obtain ⟨content, there, -⟩ := Option.map_eq_some_iff.mp reading
    rw [there]
    rfl
  rintro (⟨file, reason, broken⟩ | ⟨name, first, second, different, one, other⟩)
  · obtain ⟨found, reading⟩ := sorted.readable file (listed broken)
    exact nomatch broken.symm.trans reading
  · have mapped := (sorted.assigned name first).mpr ⟨listed one, one⟩
    have mapped' := (sorted.assigned name second).mpr ⟨listed other, other⟩
    exact different (Option.some.inj (mapped.symm.trans mapped'))

theorem World.Remakes.notLoaded {R : SlotFile → SlotFile → Prop} (remakes : w.Remakes R files w')
    (nameless : ∀ file ∈ files, decoded w.directory file = some (.ok none))
    (readable : ¬ Unreadable w.directory) : NotLoaded w w' where
  kept file other := remakes.others file fun member => other (nameless file member)
  intact unreadable := absurd unreadable readable

/-! ## The part that does not yield -/

/-- Nothing is written before the last slot has been read. -/
theorem publishLoaded_keeps (distinct : files.Nodup)
    (all : ∀ file, file ∈ w.directory ↔ file ∈ files) :
    Prog.Ends (publishLoaded false files) w (fun _ w' => LoadedAll w w')
      (fun _ w' => w.Still w' ∧ NotLoaded w w') fun w' => NotLoaded w w' := by
  have allowed : ∀ reply ∈ w.env.replies, Reply.Allowed .lax reply := fun reply _ =>
    Reply.allowed_lax reply
  unfold publishLoaded
  refine Prog.Ends.bind_of (tryReserve_asks allowed) ?_ ?_ fun _ impossible => impossible.elim
  swap
  · rintro _ w₁ ⟨consulted, -⟩
    exact ⟨consulted.viewed.looked.still, consulted.viewed.looked.notLoaded⟩
  rintro _ w₁ ⟨consulted, -⟩
  refine Prog.Ends.bind_of (tryReserve_asks consulted.allowed) ?_ ?_
    fun _ impossible => impossible.elim
  swap
  · rintro _ w₂ ⟨consulted', -⟩
    have looked := (consulted.trans consulted').viewed.looked
    exact ⟨looked.still, looked.notLoaded⟩
  rintro _ w₂ ⟨consulted', -⟩
  have viewed := (consulted.trans consulted').viewed
  refine Prog.Ends.bind_of (classify_ends files viewed.allowed (fun file member => ?_)
    (Sorted.nil _)) ?_ ?_ ?_
  · exact (mem_of_lookup viewed.looked.contents file).mpr ((all file).mpr member)
  · rintro ⟨assigned, available⟩ w₃ ⟨viewed', sorted⟩
    rw [List.nil_append] at sorted
    have sorted := (Sorted.of_viewed viewed).mp sorted
    have both := viewed.trans viewed'
    have readable := sorted.not_unreadable all
    have free (file : String) : file ∈ available ↔ decoded w.directory file = some (.ok none) := by
      have reads := sorted.available
      dsimp only at reads
      rw [reads, List.mem_filter, decide_eq_true_eq]
      refine ⟨And.right, fun nameless => ⟨(all file).mp (AList.lookup_isSome.mp ?_), nameless⟩⟩
      obtain ⟨content, there, -⟩ := Option.map_eq_some_iff.mp nameless
      rw [there]
      rfl
    have among : available.Sublist files := sorted.split.among
    refine Prog.Ends.bind_of (resetSlots_ends (w := w₃) false available both.allowed
      (distinct.sublist among) fun file member => ?_) ?_ ?_ ?_
    · obtain ⟨content, found⟩ := Option.isSome_iff_exists.mp (AList.lookup_isSome.mpr
        ((all file).mpr (among.subset member)))
      have nameless := (free file).mp member
      rw [decoded_of_found found] at nameless
      exact ⟨content, (both.looked.contents file).trans found, fun _ => Option.some.inj nameless⟩
    · rintro _ w' ⟨remakes, -⟩
      have remakes := World.Remakes.after_looked both.looked remakes
      refine Prog.Ends.modify ?_
      exact {
        readable := readable
        names := fun name file => by
          refine (sorted.assigned name file).trans ⟨And.right, fun named => ⟨?_, named⟩⟩
          refine (all file).mp (AList.lookup_isSome.mp ?_)
          obtain ⟨content, there, -⟩ := Option.map_eq_some_iff.mp named
          rw [there]
          rfl
        available := free
        distinct := distinct.sublist among
        kept := fun file other => remakes.others file fun member => other ((free file).mp member)
        reset := fun file nameless => by
          obtain ⟨_, content, -, found, contents, rfl, length, header⟩ :=
            remakes.each file ((free file).mpr nameless)
          exact ⟨_, found, length, header⟩ }
    · rintro _ w' ⟨-, remakes, -⟩
      have remakes := World.Remakes.after_looked both.looked remakes
      exact ⟨remakes.still, remakes.notLoaded (fun file => (free file).mp) readable⟩
    · rintro w' ⟨w₄, remakes, -, same⟩
      have remakes := World.Remakes.after_looked both.looked remakes
      have notLoaded := remakes.notLoaded (fun file => (free file).mp) readable
      exact ⟨same ▸ notLoaded.kept, same ▸ notLoaded.intact⟩
  · rintro _ w₃ ⟨viewed', -⟩
    have looked := (viewed.trans viewed').looked
    exact ⟨looked.still, looked.notLoaded⟩
  · rintro w' ⟨w₃, viewed', same⟩
    have notLoaded := (viewed.trans viewed').looked.notLoaded
    exact ⟨same ▸ notLoaded.kept, same ▸ notLoaded.intact⟩

/-! ## The whole load -/

/-- Polls a load until it is ready, with what the browser and the allocator answer meanwhile. -/
inductive Loading.Finishes : Loading → World → Outcome OpfsSAHError Unit → World → Prop
  | ready {loading : Loading} {w w' : World} : loading.poll.run w = (.ok (.ready ()), w') →
      Finishes loading w (.ok ()) w'
  | failed {loading : Loading} {w w' : World} (error : OpfsSAHError) :
      loading.poll.run w = (.err error, w') → Finishes loading w (.err error) w'
  | halted {loading : Loading} {w w' : World} (why : Halt) :
      loading.poll.run w = (.halt why, w') → Finishes loading w (.halt why) w'
  | pending {loading next : Loading} {w w₁ w' : World} {outcome : Outcome OpfsSAHError Unit}
      (env : Env) : loading.poll.run w = (.ok (.pending next), w₁) →
      Finishes next { w₁ with env } outcome w' → Finishes loading w outcome w'

theorem Loading.poll_keeps {loading : Loading} (keeping : loading.clear = false)
    (loads : Loads w loading) (shut : ∀ file, w.openCount file = 0) :
    Prog.Ends loading.poll w
      (Poll.Holds (fun next w' => w.Looked w' ∧ Loads w' next ∧ next.clear = false ∧
          ∀ file, w'.openCount file = 0)
        fun _ w' => LoadedAll w w')
      (fun _ w' => w.Still w' ∧ NotLoaded w w') fun w' => NotLoaded w w' := by
  have allowed : ∀ reply ∈ w.env.replies, Reply.Allowed .lax reply := fun reply _ =>
    Reply.allowed_lax reply
  have unchanged {w₁ : World} (consulted : w.Consulted .lax w₁) :
      w₁.openCount = w.openCount := by
    obtain ⟨⟨env, rfl⟩, -⟩ := consulted
    rfl
  obtain ⟨clear, entries, acquired, point⟩ := loading
  obtain rfl : clear = false := keeping
  obtain ⟨distinct, all⟩ := loads
  unfold Loading.poll
  cases point with
  | listing =>
      simp only [LoadPoint.slots, List.append_nil] at distinct all
      refine Prog.Ends.bind_of (awaited_looks allowed) ?_ ?_ ?_
      rotate_left
      · rintro _ w₁ ⟨consulted, -⟩
        exact ⟨consulted.viewed.looked.still, consulted.viewed.looked.notLoaded⟩
      · exact fun w₁ consulted => consulted.viewed.looked.notLoaded
      rintro _ w₁ ⟨consulted, -⟩
      have looked := consulted.viewed.looked
      cases entries with
      | nil =>
          rw [List.append_nil] at distinct all
          refine Prog.Ends.bind_of (publishLoaded_keeps distinct fun file =>
            (mem_of_lookup looked.contents file).trans (all file)) ?_ ?_ ?_
          · exact fun _ w₂ loaded => Prog.Ends.pure (loaded.after_looked looked)
          · exact fun _ w₂ failed => ⟨looked.still.trans failed.1, failed.2.after_looked looked⟩
          · exact fun w₂ notLoaded => notLoaded.after_looked looked
      | cons file entries =>
          refine Prog.Ends.bind_of (tryReserve_asks consulted.allowed) ?_ ?_
            fun _ impossible => impossible.elim
          · rintro _ w₂ ⟨consulted', -⟩
            have both := consulted.trans consulted'
            refine Prog.Ends.pure ⟨both.viewed.looked, ⟨?_, fun other => ?_⟩, rfl, ?_⟩
            · rw [List.append_assoc]
              exact distinct
            · rw [List.append_assoc]
              exact (mem_of_lookup both.viewed.looked.contents other).trans (all other)
            · rw [unchanged both]
              exact shut
          · rintro _ w₂ ⟨consulted', -⟩
            have looked' := (consulted.trans consulted').viewed.looked
            exact ⟨looked'.still, looked'.notLoaded⟩
  | acquiring file =>
      refine Prog.Ends.bind_of (acquire_ends allowed (shut file)) ?_ ?_ ?_
      · rintro _ w₁ consulted
        have looked := consulted.viewed.looked
        refine Prog.Ends.pure ⟨looked, ⟨?_, fun other => ?_⟩, rfl, ?_⟩
        · simpa [LoadPoint.slots] using distinct
        · have here := (mem_of_lookup looked.contents other).trans (all other)
          simpa [LoadPoint.slots] using here
        · rw [unchanged consulted]
          exact shut
      · rintro _ w₁ ⟨-, consulted⟩
        exact ⟨consulted.viewed.looked.still, consulted.viewed.looked.notLoaded⟩
      · exact fun w₁ consulted => consulted.viewed.looked.notLoaded

/-- How a load ends: with the pool that the directory says, with an error, or in a crash. -/
def LoadEnd (w : World) : Outcome OpfsSAHError Unit → World → Prop
  | .ok _, w' => LoadedAll w w'
  | .err _, w' => w.Still w' ∧ NotLoaded w w'
  | .halt why, w' => why = .crash ∧ NotLoaded w w'

theorem LoadEnd.after_looked {outcome : Outcome OpfsSAHError Unit} (looked : w.Looked w')
    (ends : LoadEnd w' outcome w'') : LoadEnd w outcome w'' := by
  cases outcome with
  | ok _ => exact LoadedAll.after_looked looked ends
  | err _ => exact ⟨looked.still.trans ends.1, ends.2.after_looked looked⟩
  | halt _ => exact ⟨ends.1, ends.2.after_looked looked⟩

theorem Loading.Finishes.ends {loading : Loading} {outcome : Outcome OpfsSAHError Unit}
    (finishes : loading.Finishes w outcome w') (keeping : loading.clear = false)
    (loads : Loads w loading) (shut : ∀ file, w.openCount file = 0) : LoadEnd w outcome w' := by
  induction finishes with
  | ready run => exact (Loading.poll_keeps keeping loads shut).ok run
  | failed error run => exact (Loading.poll_keeps keeping loads shut).err run
  | halted why run =>
      have polled := Loading.poll_keeps keeping loads shut
      cases why with
      | panic => exact absurd run polled.noPanic
      | crash => exact ⟨rfl, polled.crash run⟩
  | @pending loading next w w₁ w' outcome env run _ ih =>
      obtain ⟨looked, loads', keeping', shut'⟩ := (Loading.poll_keeps keeping loads shut).ok run
      have asked : w.Looked { w₁ with env } := looked.trans (.asked w₁ env)
      exact (ih keeping' ⟨loads'.distinct, loads'.all⟩ shut').after_looked asked

theorem Loading.finishes (entries : List String) : ∀ (acquired : List String) (w : World),
    ∃ outcome w', Loading.Finishes ⟨false, entries, acquired, .listing⟩ w outcome w' := by
  induction entries with
  | nil =>
      intro acquired w
      rcases run : (Loading.poll ⟨false, [], acquired, .listing⟩).run w with
        ⟨(next | ⟨⟩) | error | why, w'⟩
      · unfold Loading.poll at run
        obtain ⟨_, w₁, -, rest⟩ := Prog.bind_ok_cases run
        obtain ⟨_, w₂, -, last⟩ := Prog.bind_ok_cases rest
        exact nomatch Outcome.ok.inj (congrArg Prod.fst last)
      · exact ⟨_, w', .ready run⟩
      · exact ⟨_, w', .failed error run⟩
      · exact ⟨_, w', .halted why run⟩
  | cons file entries ih =>
      intro acquired w
      have acquiring (w₁ : World) : ∃ outcome w',
          Loading.Finishes ⟨false, entries, acquired, .acquiring file⟩ w₁ outcome w' := by
        rcases run : (Loading.poll ⟨false, entries, acquired, .acquiring file⟩).run w₁ with
          ⟨(next | ⟨⟩) | error | why, w'⟩
        · obtain rfl : next = ⟨false, entries, acquired ++ [file], .listing⟩ := by
            unfold Loading.poll at run
            obtain ⟨_, w₂, -, last⟩ := Prog.bind_ok_cases run
            exact (Poll.pending.inj (Outcome.ok.inj (congrArg Prod.fst last))).symm
          obtain ⟨outcome, w'', finishes⟩ := ih (acquired ++ [file]) w'
          exact ⟨outcome, w'', .pending w'.env run finishes⟩
        · exact ⟨_, w', .ready run⟩
        · exact ⟨_, w', .failed error run⟩
        · exact ⟨_, w', .halted why run⟩
      rcases run : (Loading.poll ⟨false, file :: entries, acquired, .listing⟩).run w with
        ⟨(next | ⟨⟩) | error | why, w'⟩
      · obtain rfl : next = ⟨false, entries, acquired, .acquiring file⟩ := by
          unfold Loading.poll at run
          obtain ⟨_, w₂, -, rest⟩ := Prog.bind_ok_cases run
          obtain ⟨_, w₃, -, last⟩ := Prog.bind_ok_cases rest
          exact (Poll.pending.inj (Outcome.ok.inj (congrArg Prod.fst last))).symm
        obtain ⟨outcome, w'', finishes⟩ := acquiring w'
        exact ⟨outcome, w'', .pending w'.env run finishes⟩
      · exact ⟨_, w', .ready run⟩
      · exact ⟨_, w', .failed error run⟩
      · exact ⟨_, w', .halted why run⟩

/-- For any directory, listed in any order, and any failures: the load ends, an unreadable
directory is left as it was, and a pool that was loaded is the one the directory describes. -/
theorem loading_keeps_the_directory (w : World) (shut : ∀ file, w.openCount file = 0)
    (distinct : entries.Nodup) (all : ∀ file, file ∈ w.directory ↔ file ∈ entries) :
    (∃ outcome w', Loading.Finishes ⟨false, entries, [], .listing⟩ w outcome w') ∧
      ∀ outcome w', Loading.Finishes ⟨false, entries, [], .listing⟩ w outcome w' →
        LoadEnd w outcome w' :=
  ⟨Loading.finishes entries [] w, fun outcome w' finishes => finishes.ends rfl
    ⟨by simpa [LoadPoint.slots] using distinct, by simpa [LoadPoint.slots] using all⟩ shut⟩

def tidyDirectory : AList fun _ : String => SlotFile :=
  AList.insert "named" (Journal.settled (headerOf "a.db" SqliteOpen.mainDb ++ zeroBytes 3580))
    (AList.insert "unnamed" (Journal.settled []) ∅)

def untidyDirectory : AList fun _ : String => SlotFile :=
  AList.insert "broken" (Journal.settled [1, 2, 3]) tidyDirectory

theorem mem_tidyDirectory : file ∈ tidyDirectory ↔ file ∈ ["named", "unnamed"] := by
  simp [tidyDirectory, -AList.insert_empty, AList.notMem_empty]

theorem mem_untidyDirectory : file ∈ untidyDirectory ↔ file ∈ ["broken", "named", "unnamed"] := by
  simp [untidyDirectory, mem_tidyDirectory]

set_option maxRecDepth 100000 in
theorem tidyDirectory_named : decoded tidyDirectory "named" = some (.ok (some "a.db")) := by
  rfl

theorem untidyDirectory_unreadable : Unreadable untidyDirectory :=
  .invalid "broken" _ rfl

set_option maxRecDepth 100000 in
theorem tidy_run : ∃ w', Loading.Finishes ⟨false, ["named", "unnamed"], [], .listing⟩
    (World.start tidyDirectory "pool") (.ok ()) w' :=
  ⟨_, .pending Env.silent rfl (.pending Env.silent rfl (.pending Env.silent rfl
    (.pending Env.silent rfl (.ready rfl))))⟩

theorem loading_keeps_untidy :
    (∃ w', Loading.Finishes ⟨false, ["named", "unnamed"], [], .listing⟩
      (World.start tidyDirectory "pool") (.ok ()) w' ∧
      w'.mapFilenameToFile.lookup "a.db" = some "named" ∧ "unnamed" ∈ w'.availableFiles) ∧
    ∃ outcome w', Loading.Finishes ⟨false, ["broken", "named", "unnamed"], [], .listing⟩
      (World.start untidyDirectory "pool") outcome w' ∧
      LoadEnd (World.start untidyDirectory "pool") outcome w' ∧
      ∀ file, w'.directory.lookup file = untidyDirectory.lookup file := by
  constructor
  · obtain ⟨w', finishes⟩ := tidy_run
    obtain ⟨-, ends⟩ := loading_keeps_the_directory (World.start tidyDirectory "pool")
      (fun _ => rfl) (by decide) (fun _ => mem_tidyDirectory)
    have loaded : LoadedAll _ w' := ends _ _ finishes
    exact ⟨w', finishes, (loaded.names _ _).mpr tidyDirectory_named, (loaded.available _).mpr rfl⟩
  · obtain ⟨⟨outcome, w', finishes⟩, ends⟩ :=
      loading_keeps_the_directory (World.start untidyDirectory "pool") (fun _ => rfl) (by decide)
        (fun _ => mem_untidyDirectory)
    have left := ends outcome w' finishes
    refine ⟨outcome, w', finishes, left, ?_⟩
    cases outcome with
    | ok _ => exact absurd untidyDirectory_unreadable left.readable
    | err error => exact left.2.intact untidyDirectory_unreadable
    | halt why => exact left.2.intact untidyDirectory_unreadable

end Sahpool

end SqliteVfs
