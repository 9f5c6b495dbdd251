import SqliteVfs.Sahpool.SystemInvariant

/-!
# Open handles pin their slots

While a slot has a live handle, nothing takes its name or its header away.
-/

set_option autoImplicit false

namespace SqliteVfs

namespace Sahpool

variable {mode : Mode} {s s' : System} {w w' w'' : World} {g g' : Ledger} {file name : String}
  {content content' : SlotFile} {event : Event} {outcome : Outcome Failure Answer}

structure World.Keeps (w w' : World) (name file : String) : Prop where
  mapped : w'.mapFilenameToFile.lookup name = some file
  only : ∀ other, w'.mapFilenameToFile.lookup other = some file → other = name
  used : file ∉ w'.availableFiles ∧ file ∉ w'.quarantinedFiles
  header : ∃ content content', w.directory.lookup file = some content ∧
    w'.directory.lookup file = some content' ∧ SameHeader content content'

theorem Rep.keeps (rep : Rep mode w' g') (mapped : w'.mapFilenameToFile.lookup name = some file)
    (found : w.directory.lookup file = some content)
    (found' : w'.directory.lookup file = some content') (same : SameHeader content content') :
    w.Keeps w' name file where
  mapped := mapped
  only other mapped' := by
    have owned := (rep.mapped name file mapped).1
    exact Option.some.inj ((rep.mapped other file mapped').1.symm.trans owned)
  used := ⟨fun member => rep.mapped_ne_available mapped member rfl, (rep.mapped name file mapped).2⟩
  header := ⟨content, content', found, found', same⟩

theorem Evolves.keeps {reach : String → Prop} (evolves : Evolves mode reach w g w' g')
    (rep : Rep mode w g) (mapped : w.mapFilenameToFile.lookup name = some file)
    (inUse : w.openCount file ≠ 0) : w.Keeps w' name file := by
  obtain ⟨content, found, -⟩ := rep.content_of_mapped mapped
  obtain ⟨mapped', content', found', same⟩ :=
    evolves.frame.pinned name file content mapped inUse found
  exact evolves.rep.keeps mapped' found found' same

theorem Rep.keeps_of_same (rep : Rep mode w g)
    (mapped : w.mapFilenameToFile.lookup name = some file)
    (inUse : w.openCount file ≠ 0) (rep' : Rep mode w' g')
    (names : w'.mapFilenameToFile = w.mapFilenameToFile)
    (same : w'.directory.lookup file = w.directory.lookup file) : w.Keeps w' name file := by
  obtain ⟨content, found, -⟩ := rep.content_of_mapped mapped
  refine rep'.keeps ?_ found (same.trans found) (.refl (rep.fits_of_open mapped inUse found))
  rw [names]
  exact mapped

theorem Rep.keeps_beyond (rep : Rep mode w g) (mapped : w.mapFilenameToFile.lookup name = some file)
    (inUse : w.openCount file ≠ 0) (rep' : Rep mode w' g') (beyond : w.Beyond w') :
    w.Keeps w' name file :=
  rep.keeps_of_same mapped inUse rep' beyond.still.names
    (beyond.contents file (mem_held_mapped mapped))

theorem Adding.same (adding : Adding s event w) : ∃ busy, w = { s.world with busy } := by
  cases adding with
  | add n ready => exact ⟨true, rfl⟩
  | ensure min ready => exact ⟨true, rfl⟩
  | poll i growth there => exact ⟨s.world.busy, rfl⟩

theorem Reducing.same {count left : Nat} (reducing : Reducing s event w count left) :
    ∃ busy, w = { s.world with busy } := by
  cases reducing with
  | reduce n ready => exact ⟨true, rfl⟩
  | poll i shrink there => exact ⟨s.world.busy, rfl⟩

theorem Stopping.same (stopping : Stopping s event w) : ∃ busy, w = { s.world with busy } := by
  cases stopping with
  | adding event w adding => exact adding.same
  | reducing i shrink there => exact ⟨s.world.busy, rfl⟩
  | dropAdding i growth there => exact ⟨s.world.busy, rfl⟩
  | dropReducing i shrink there => exact ⟨s.world.busy, rfl⟩

theorem GivenUp.keeps (result : GivenUp mode w g w') (rep : Rep mode w g)
    (mapped : w.mapFilenameToFile.lookup name = some file) (inUse : w.openCount file ≠ 0) :
    w.Keeps w' name file := by
  obtain ⟨w₁, rep₁, beyond, -, rfl⟩ := result
  obtain ⟨mapped', only, used, header⟩ := rep.keeps_beyond mapped inUse rep₁ beyond
  exact ⟨mapped', only, used, header⟩

/-- As long as a live handle is left, the slot keeps its name and its header. -/
theorem Turn.keeps (turn : Turn mode s g event outcome s' g') (good : Good mode s g) {f : VfsFile}
    (member : f ∈ s.files) (mapped : s.world.mapFilenameToFile.lookup name = some f.handle.file)
    (left : s'.handles f.handle.file ≠ 0) : s.world.Keeps s'.world name f.handle.file := by
  have inUse := good.inUse member
  have rep := good.rep
  have active : s.world.state = .active := by
    by_contra inactive
    rw [good.files_of_inactive inactive] at member
    exact nomatch member
  have still : s.world.Keeps s.world name f.handle.file :=
    rep.keeps_of_same mapped inUse rep rfl rfl
  cases turn with
  | idle _ nothing => exact still
  | looked _ _ w' query looked rep' => exact rep.keeps_beyond mapped inUse rep' looked.beyond
  | refused _ error w' guarded looked rep' => exact rep.keeps_beyond mapped inUse rep' looked.beyond
  | opened request opened w₁ _ name' file evolves result =>
      obtain ⟨mapped', only, used, header⟩ := evolves.keeps rep mapped inUse
      exact ⟨mapped', only, used, header⟩
  | unopened request error w' _ ready evolves result => exact evolves.keeps rep mapped inUse
  | called i made f' name' content content' _ w' _ there named mapped' found effect altered evolves
      same => exact evolves.keeps rep mapped inUse
  | closed i f' name' _ w₁ w' _ there named mapped' flushed evolves result done =>
      have closing := good.toSound.closing there
      have inUse' : (s.world.closing f'.handle.file).openCount f.handle.file ≠ 0 := by
        rw [closing.counts]
        exact left
      obtain ⟨mapped'', only, used, header⟩ :=
        (flushed.evolves.trans evolves).keeps closing.rep mapped inUse'
      exact ⟨mapped'', only, used, header⟩
  | deleted _ name' answer w' _ deletes evolves result => exact evolves.keeps rep mapped inUse
  | undeleted _ name' error w' _ deletes evolves result => exact evolves.keeps rep mapped inUse
  | importing filename size file target w' created =>
      have rep' := (created.importing rep).1
      obtain ⟨w₁, consulted, rfl⟩ := created.reserved
      have beyond := consulted.viewed.looked.beyond
      exact rep.keeps_of_same mapped inUse rep' beyond.still.names
        (beyond.contents _ (mem_held_mapped mapped))
  | filled i offset bytes file filename data content content' data' _ w' there importing
      found filled whole altered evolves => exact evolves.keeps rep mapped inUse
  | committed i file filename data w' _ there importing evolves result =>
      obtain ⟨mapped', only, used, header⟩ := evolves.keeps rep mapped inUse
      exact ⟨mapped', only, used, header⟩
  | unimported _ i _ file filename data w' _ ends there importing evolves result failed aborted =>
      obtain ⟨mapped', only, used, header⟩ := evolves.keeps rep mapped inUse
      exact ⟨mapped', only, used, header⟩
  | exporting name' file source w' opened =>
      have rep' := (opened.exporting rep).1
      obtain ⟨w₁, -, looked, rfl⟩ := opened.reserved
      exact rep.keeps_of_same mapped inUse rep' looked.still.names
        (looked.beyond.contents _ (mem_held_mapped mapped))
  | exported i file name' size there exporting =>
      obtain ⟨mapped', only, used, header⟩ := still
      exact ⟨mapped', only, used, header⟩
  | growing _ w growth w' adding resizable reached =>
      obtain ⟨busy, rfl⟩ := adding.same
      obtain ⟨mapped', only, used, header⟩ :=
        resizable.rep.keeps_beyond mapped inUse reached.1 reached.2.1
      exact ⟨mapped', only, used, header⟩
  | grown _ w count w' adding resizable reached =>
      obtain ⟨busy, rfl⟩ := adding.same
      obtain ⟨w₁, added, -, beyond, -, rep', -, rfl⟩ := reached
      obtain ⟨mapped', only, used, header⟩ :=
        resizable.rep.keeps_of_same mapped inUse rep' beyond.still.names
          (beyond.contents _ (mem_held_mapped mapped))
      exact ⟨mapped', only, used, header⟩
  | shrinking _ w count left' shrink w' reducing resizable reached =>
      obtain ⟨busy, rfl⟩ := reducing.same
      obtain ⟨popped, -, -⟩ := reached
      have rep' := popped.rep
      obtain ⟨w₁, rest, beyond, top, rfl⟩ := popped.from_top
      obtain ⟨mapped', only, used, header⟩ :=
        resizable.rep.keeps_of_same mapped inUse rep' beyond.still.names
          (beyond.contents _ (mem_held_mapped mapped))
      exact ⟨mapped', only, used, header⟩
  | shrunk _ w count left' removed w' reducing resizable reached =>
      obtain ⟨busy, rfl⟩ := reducing.same
      obtain ⟨mapped', only, used, header⟩ := reached.1.keeps resizable.rep mapped inUse
      exact ⟨mapped', only, used, header⟩
  | givenUp _ w _ w' stopping resizable result =>
      obtain ⟨busy, rfl⟩ := stopping.same
      obtain ⟨mapped', only, used, header⟩ := result.keeps resizable.rep mapped inUse
      exact ⟨mapped', only, used, header⟩
  | resuming vfs suspended free registered => exact nomatch active.symm.trans suspended.paused
  | pending i resuming resuming' w' there suspended consulted resumes =>
      exact nomatch active.symm.trans suspended.paused
  | resumed i resuming w' _ there suspended result =>
      exact nomatch active.symm.trans suspended.paused
  | unresumed _ i _ resuming w' _ stops there suspended result =>
      exact nomatch active.symm.trans suspended.paused
  | paused w' result rep' =>
      rw [good.shut_of_closed result.closed] at member
      exact nomatch member
  | cleared w' _ evolves clearable result => exact evolves.keeps rep mapped inUse
  | uncleared error w' _ evolves clearable suspect => exact evolves.keeps rep mapped inUse
  | uninstalled w' result rep' =>
      rw [good.shut_of_closed result.closed] at member
      exact nomatch member

/-- What the turn of a close is. -/
theorem Turn.closed_cases {i : Nat} (turn : Turn mode s g (.closeFile i) outcome s' g')
    {f : VfsFile} (there : s.files[i]? = some f) : ∃ name w₁ w',
      s' = { s with world := w', files := s.files.eraseIdx i } ∧ f.opened = some name ∧
      s.world.mapFilenameToFile.lookup name = some f.handle.file ∧
      Flushed mode s.world g name f.handle.file w₁ ∧ Evolves mode (Only name) w₁ g w' g' ∧
      (Closed name f.options w₁ g w' g' ∨
        (f.options.deleteOnClose = true ∧ DeleteFailed mode name w₁ g w' g')) := by
  cases turn with
  | idle _ nothing => exact nomatch (there.symm.trans nothing)
  | looked _ _ w' query looked rep => exact query.elim
  | refused _ error w' guarded looked rep => exact guarded.elim
  | closed i f' name _ w₁ w' _ there' named mapped flushed evolves result done =>
      obtain rfl : f = f' := Option.some.inj (there.symm.trans there')
      exact ⟨name, w₁, w', rfl, named, mapped, flushed, evolves, result⟩
  | deleted _ name' answer w' _ deletes evolves result =>
      rcases deletes with deletes | deletes
      all_goals exact nomatch deletes
  | undeleted _ name' error w' _ deletes evolves result =>
      rcases deletes with deletes | deletes
      all_goals exact nomatch deletes
  | unimported _ j _ file filename data w' _ ends there importing evolves result failed aborted =>
      rcases ends with ends | ends | ⟨error, ends⟩ | ends
      all_goals exact nomatch ends
  | growing _ w growth w' adding resizable reached => exact nomatch adding
  | grown _ w count w' adding resizable reached => exact nomatch adding
  | shrinking _ w count left shrink w' reducing resizable reached => exact nomatch reducing
  | shrunk _ w count left removed w' reducing resizable reached => exact nomatch reducing
  | givenUp _ w _ w' stopping resizable result =>
      cases stopping with
      | adding event w adding => exact nomatch adding
  | unresumed _ j _ resuming w' _ stops there suspended result =>
      rcases stops with stops | stops
      all_goals exact nomatch stops

/-- Closing consumes the handle and counts one less, however it ends. -/
theorem Turn.closes {i : Nat} (turn : Turn mode s g (.closeFile i) outcome s' g') {f : VfsFile}
    (there : s.files[i]? = some f) : s'.files = s.files.eraseIdx i ∧
      s'.world.openCount = (s.world.closing f.handle.file).openCount := by
  obtain ⟨name, w₁, w', rfl, -, -, flushed, evolves, -⟩ := turn.closed_cases there
  exact ⟨rfl, evolves.frame.settings.openCount.trans flushed.evolves.frame.settings.openCount⟩

structure System.PinsSlots (s : System) : Prop where
  counts : ∀ file, s.world.openCount file = s.handles file
  live : ∀ f ∈ s.files, ∃ name, f.opened = some name ∧
    s.world.mapFilenameToFile.lookup name = some f.handle.file
  calm : ∀ moment, (s.run moment).1 ≠ .halt .panic
  kept : ∀ moment s', s.Step moment s' → ∀ f ∈ s.files, s'.handles f.handle.file ≠ 0 →
    ∀ name, s.world.mapFilenameToFile.lookup name = some f.handle.file →
      s.world.Keeps s'.world name f.handle.file
  closes : ∀ around i f s', s.files[i]? = some f → s.Step ⟨around, .closeFile i⟩ s' →
    s'.files = s.files.eraseIdx i ∧
      s'.world.openCount f.handle.file + 1 = s.world.openCount f.handle.file ∧
      ∀ other, other ≠ f.handle.file → s'.world.openCount other = s.world.openCount other

/-- In every state of every run, open handles pin their slots. -/
theorem handles_pin_slots (arises : s.Arises) : s.PinsSlots := by
  obtain ⟨g, good⟩ := arises.good
  refine ⟨good.counts, good.live, fun moment => good.calm moment.allowed_lax, ?_, ?_⟩
  · intro moment s' step f member left name mapped
    obtain ⟨outcome, g', -, ⟨around, s₂, answers, -, turn, rfl⟩, -⟩ :=
      good.step moment.allowed_lax step
    obtain ⟨mapped', only, used, header⟩ :=
      turn.keeps (good.facing answers) (f := f) member mapped left
    exact ⟨mapped', only, used, header⟩
  · intro around i f s' there step
    obtain ⟨outcome, g', -, ⟨around', s₂, answers, -, turn, rfl⟩, -⟩ :=
      good.step (Moment.allowed_lax _) step
    obtain ⟨files, counts⟩ := turn.closes there
    have inUse := good.inUse (List.mem_of_getElem? there)
    refine ⟨files, ?_, fun other different => ?_⟩
    · change s₂.world.openCount f.handle.file + 1 = _
      rw [counts]
      change Function.update s.world.openCount f.handle.file
        (s.world.openCount f.handle.file - 1) f.handle.file + 1 = _
      rw [Function.update_self]
      omega
    · change s₂.world.openCount other = _
      rw [counts]
      exact Function.update_of_ne different _ _

theorem handles_pin_slots_opened : ∃ s : System, s.files.length = 1 ∧ s.PinsSlots := by
  obtain ⟨s, arises, opened⟩ := exists_arises
  exact ⟨s, opened, handles_pin_slots arises⟩

end Sahpool

end SqliteVfs
