import SqliteVfs.Sahpool.OneFile

/-!
# What a call leaves, however it ends

A call on the pool returns, fails, or is cut off when the run is ended from outside.  In each
case the directory keeps the files that the call was not about: their names, and their slots
bit for bit.  `Survives` says so of two directories with their ledgers.
-/

set_option autoImplicit false

namespace SqliteVfs

namespace Sahpool

variable {mode : Mode} {s s' : System} {w w' w'' : World} {g g' g'' : Ledger} {file name : String}
  {content : SlotFile} {event : Event} {outcome : Outcome Failure Answer} {α β ε : Type}
  {directory directory' directory'' : AList fun _ : String => SlotFile}

/-! ## What an event is about -/

def System.Removes (s : System) : Event → String → Prop
  | .deleteFile name, other => other = name
  | .remove name, other => other = name
  | .closeFile i, name => ∃ f, s.files[i]? = some f ∧ f.opened = some name ∧
      f.options.deleteOnClose = true
  | .clear, _ => True
  | _, _ => False

def System.Creates (s : System) : Event → String → Prop
  | .openFile request, name => request.options.create = true ∧
      (∀ asked, request.filename = some asked → asked = name) ∧
      (request.filename = none → Generated name)
  | .commit i, name => ∃ file, s.operations[i]? = some (.importing (importTarget file name))
  | _, _ => False

def FileCall.Mutates : FileCall → Prop
  | .write _ _ | .truncate _ | .sizeHint _ => True
  | _ => False

def System.Changes (s : System) : Event → String → Prop
  | .call i made, name => ∃ f, s.files[i]? = some f ∧ f.opened = some name ∧
      f.handle.readOnly = false ∧ made.Mutates
  | _, _ => False

/-! ## What survives -/

/-- Of the names that the first directory holds, those that are not in `removed` are in the second
one, and nothing has come but what is in `created`; slots that are not in `changed` are as they
were, or flushed. -/
structure Survives (mode : Mode) (removed created changed : String → Prop)
    (directory : AList fun _ : String => SlotFile) (g : Ledger)
    (directory' : AList fun _ : String => SlotFile) (g' : Ledger) : Prop where
  disk : Disk mode directory' g'
  kept : ∀ name durable data, g.entry name = .present false durable data → ¬ removed name →
    ∃ durable' data', g'.entry name = .present false durable' data' ∧
      (durable = true → durable' = true)
  absent : ∀ name, g.entry name = .absent → ¬ created name → g'.entry name = .absent
  slots : ∀ name file content durable data, g.entry name = .present false durable data →
    g.owner file = some name → directory.lookup file = some content → ¬ removed name →
    ¬ changed name → g'.owner file = some name ∧
      (directory'.lookup file = some content ∨ directory'.lookup file = some content.flush)

variable {removed created changed : String → Prop}

theorem Survives.of_same (disk : Disk mode directory' g') (entries : g'.entry = g.entry)
    (owners : g'.owner = g.owner)
    (contents : ∀ file name, g.owner file = some name →
      directory'.lookup file = directory.lookup file) :
    Survives mode removed created changed directory g directory' g' where
  disk := disk
  kept name durable data present _ := ⟨durable, data, (congrFun entries name).trans present, id⟩
  absent name absent _ := (congrFun entries name).trans absent
  slots name file _ _ _ _ owned found _ _ :=
    ⟨(congrFun owners file).trans owned, .inl ((contents file name owned).trans found)⟩

theorem Survives.mono {removed' created' changed' : String → Prop}
    (survives : Survives mode removed created changed directory g directory' g')
    (removes : ∀ name, removed name → removed' name)
    (creates : ∀ name, created name → created' name)
    (changes : ∀ name, changed name → changed' name) :
    Survives mode removed' created' changed' directory g directory' g' where
  disk := survives.disk
  kept name durable data present outside :=
    survives.kept name durable data present fun removed => outside (removes name removed)
  absent name absent outside :=
    survives.absent name absent fun created => outside (creates name created)
  slots name file content durable data present owned found unremoved unchanged :=
    survives.slots name file content durable data present owned found
      (fun removed => unremoved (removes name removed))
      fun changed => unchanged (changes name changed)

theorem Survives.trans
    (first : Survives mode removed created changed directory g directory' g')
    (second : Survives mode removed created changed directory' g' directory'' g'') :
    Survives mode removed created changed directory g directory'' g'' where
  disk := second.disk
  kept name durable data present outside := by
    obtain ⟨durable', data', present', kept⟩ := first.kept name durable data present outside
    obtain ⟨durable'', data'', present'', kept'⟩ := second.kept name durable' data' present' outside
    exact ⟨durable'', data'', present'', fun before => kept' (kept before)⟩
  absent name absent outside := second.absent name (first.absent name absent outside) outside
  slots name file content durable data present owned found unremoved unchanged := by
    obtain ⟨durable', data', present', -⟩ := first.kept name durable data present unremoved
    obtain ⟨owned', same⟩ :=
      first.slots name file content durable data present owned found unremoved unchanged
    rcases same with same | flushed
    · exact second.slots name file content durable' data' present' owned' same unremoved unchanged
    · obtain ⟨owned'', same'⟩ := second.slots name file content.flush durable' data' present' owned'
        flushed unremoved unchanged
      exact ⟨owned'', .inr (same'.elim id id)⟩

/-! ## Pools with their slots -/

namespace Rep

variable (rep : Rep mode w g) (loaded : g.loaded = true)

include rep loaded

/-- The slot of a file is mapped, unless the file is in doubt. -/
theorem mapped_of_present {temporary durable : Bool} {data : List UInt8}
    (present : g.entry name = .present temporary durable data) (owned : g.owner file = some name) :
    w.mapFilenameToFile.lookup name = some file := by
  rcases rep.owned loaded file name owned with mapped | quarantined
  · exact mapped
  · obtain ⟨data', uncertain⟩ := (rep.quarantined file quarantined).2.2 name owned
    rw [present] at uncertain
    cases uncertain

theorem held_of_owned (owned : g.owner file = some name) : file ∈ w.held := by
  rcases rep.owned loaded file name owned with mapped | quarantined
  · exact mem_held_mapped mapped
  · exact mem_held_quarantined quarantined

/-- Only other files change. -/
theorem survives_beyond (rep' : Rep mode w' g) (beyond : w.Beyond w') :
    Survives mode removed created changed w.directory g w'.directory g :=
  .of_same (rep'.disk (rep'.known loaded)) rfl rfl fun file _ owned =>
    beyond.contents file (rep.held_of_owned loaded owned)

end Rep

/-- A pool that has evolved has kept the names out of reach, and their slots. -/
theorem Evolves.survives {reach : String → Prop} (evolves : Evolves mode reach w g w' g')
    (rep : Rep mode w g) (loaded : g.loaded = true)
    (taken : ∀ name durable data, reach name → g.entry name = .present false durable data →
      removed name)
    (brought : ∀ name, reach name → g.entry name = .absent → ¬ created name →
      g'.entry name = .absent) :
    Survives mode removed created changed w.directory g w'.directory g' where
  disk := evolves.rep.disk (evolves.rep.known (evolves.frame.loaded.trans loaded))
  kept name durable data present unremoved := by
    have outside : ¬ reach name := fun inside => unremoved (taken name durable data inside present)
    exact ⟨durable, data, (evolves.entries name outside).trans present, id⟩
  absent name absent uncreated := by
    by_cases inside : reach name
    · exact brought name inside absent uncreated
    · exact (evolves.entries name inside).trans absent
  slots name file content durable data present owned found unremoved _ := by
    have outside : ¬ reach name := fun inside => unremoved (taken name durable data inside present)
    have mapped := rep.mapped_of_present loaded present owned
    obtain ⟨mapped', same⟩ := evolves.slots name file outside mapped
    exact ⟨(evolves.rep.mapped name file mapped').1, .inl (same.trans found)⟩

/-- Only names that were free are at stake. -/
theorem Evolves.survives_vacant {reach : String → Prop} (evolves : Evolves mode reach w g w' g')
    (rep : Rep mode w g) (loaded : g.loaded = true)
    (vacant : ∀ name, reach name → name ∉ w.mapFilenameToFile)
    (brought : ∀ name, reach name → g.entry name = .absent → ¬ created name →
      g'.entry name = .absent) :
    Survives mode removed created changed w.directory g w'.directory g' := by
  apply evolves.survives rep loaded _ brought
  intro name durable data inside present
  obtain ⟨file, owned⟩ := (rep.disk (rep.known loaded)).kept _ _ _ _ present
  have mapped := rep.mapped_of_present loaded present owned
  exact absurd (AList.lookup_isSome.mp (by rw [mapped]; rfl)) (vacant name inside)

theorem Evolves.survives_removal (evolves : Evolves mode (Only name) w g w' g') (rep : Rep mode w g)
    (loaded : g.loaded = true) (removes : removed name)
    (brought : g.entry name = .absent → g'.entry name = .absent) :
    Survives mode removed created changed w.directory g w'.directory g' := by
  apply evolves.survives rep loaded
  · rintro _ durable data rfl -
    exact removes
  · rintro _ rfl absent -
    exact brought absent

/-! ## Directories that are read -/

theorem Disk.owner_of_decoded (disk : Disk mode directory g)
    (named : decoded directory file = some (.ok (some name))) : g.owner file = some name := by
  obtain ⟨content, found, reading⟩ := Option.map_eq_some_iff.mp named
  have represents := disk.slot file content found
  rcases owned : g.owner file with _ | other
  · have blank : Names mode none content.contents := (represents.blank owned).contents
    cases blank.owner_eq reading
  · have seen : Names mode (some other) content.contents :=
      (represents.holds owned).unclear.sees.contents.2
    exact seen.owner_eq reading

/-- A reading of the directory keeps what has a name, whether it ends or not. -/
theorem Survives.of_halfRead (disk : Disk mode directory g) (disk' : Disk mode directory' g')
    (classified : mode ≠ .lax)
    (named : ∀ file name, decoded directory file = some (.ok (some name)) →
      directory'.lookup file = directory.lookup file)
    (halfRead : ∀ name, (g.entry name).HalfRead (g'.entry name)) :
    Survives mode removed created changed directory g directory' g' where
  disk := disk'
  kept name durable data present _ := by
    have after := halfRead name
    rw [present] at after
    generalize g'.entry name = entry at after
    cases after with
    | kept => exact ⟨durable, data, rfl, id⟩
    | read after reread =>
        cases reread with
        | found _ durable' _ kept => exact ⟨durable', data, rfl, kept⟩
    | doubted durable' data' temporary => cases temporary
  absent name absent _ := by
    have after := halfRead name
    rw [absent] at after
    generalize g'.entry name = entry at after
    cases after with
    | kept => rfl
    | read after reread =>
        cases reread with
        | absent => rfl
    | doubted durable data temporary => cases temporary
  slots name file content durable data present owned found _ _ := by
    obtain ⟨other, content', owned', found', -, reading⟩ :=
      disk.decoded_of_present classified present
    obtain rfl := disk.injective file other name owned owned'
    have same := named file name reading
    have reading' : decoded directory' file = some (.ok (some name)) := by
      unfold decoded at reading ⊢
      rw [same]
      exact reading
    exact ⟨disk'.owner_of_decoded reading', .inl (same.trans found)⟩

/-! ## Calls on one file -/

/-- A call through a handle leaves the names, and the bytes of every other file. -/
theorem Good.survives_call (good : Good mode s g) {i : Nat} {made : FileCall} {f : VfsFile}
    {content' : SlotFile} (there : s.files[i]? = some f) (named : f.opened = some name)
    (mapped : s.world.mapFilenameToFile.lookup name = some f.handle.file)
    (found : s.world.directory.lookup f.handle.file = some content)
    (effect : made.Effect f.handle.readOnly content content')
    (here : w'.directory.lookup f.handle.file = some content')
    (evolves : Evolves mode (Only name) s.world g w' g')
    (rewritten : ∃ f, g'.entry name = (g.entry name).map f) :
    Survives mode removed created (s.Changes (.call i made)) s.world.directory g
      w'.directory g' := by
  obtain ⟨change, rewritten⟩ := rewritten
  have loaded := good.rep.loaded_of_mapped mapped
  refine ⟨evolves.rep.disk (evolves.frame.known.trans good.known), ?_, ?_, ?_⟩
  · intro other durable data present _
    by_cases same : other = name
    · subst same
      rw [rewritten, present]
      exact ⟨durable, change data, rfl, id⟩
    · exact ⟨durable, data, (evolves.entries other same).trans present, id⟩
  · intro other absent _
    by_cases same : other = name
    · subst same
      rw [rewritten, absent]
      rfl
    · exact (evolves.entries other same).trans absent
  · intro other file content₀ durable data present owned found₀ _ unchanged
    have mapped₀ := good.rep.mapped_of_present loaded present owned
    by_cases same : other = name
    · subst same
      rw [mapped₀] at mapped
      cases mapped
      rw [found₀] at found
      cases found
      have owned' : g'.owner f.handle.file = some other := by
        obtain ⟨mapped', -⟩ := evolves.frame.pinned other _ _ mapped₀
          (good.inUse (List.mem_of_getElem? there)) found₀
        exact (evolves.rep.mapped other _ mapped').1
      refine ⟨owned', ?_⟩
      rw [here]
      cases effect with
      | nothing => exact .inl rfl
      | flushed => exact .inr rfl
      | written buf offset count writable =>
          exact absurd ⟨f, there, named, writable, trivial⟩ unchanged
      | truncated size writable => exact absurd ⟨f, there, named, writable, trivial⟩ unchanged
      | extended size writable => exact absurd ⟨f, there, named, writable, trivial⟩ unchanged
    · obtain ⟨mapped', kept⟩ := evolves.slots other file same mapped₀
      exact ⟨(evolves.rep.mapped other file mapped').1, .inl (kept.trans found₀)⟩

theorem Rep.survives_flush (rep : Rep mode w g) (loaded : g.loaded = true) (rep' : Rep mode w' g)
    (here : ∃ content content', w.directory.lookup file = some content ∧
      w'.directory.lookup file = some content' ∧ (content' = content ∨ content' = content.flush))
    (others : ∀ other, other ≠ file → w'.directory.lookup other = w.directory.lookup other) :
    Survives mode removed created changed w.directory g w'.directory g where
  disk := rep'.disk (rep.known loaded)
  kept name durable data present _ := ⟨durable, data, present, id⟩
  absent name absent _ := absent
  slots name other content₀ _ _ _ owned found _ _ := by
    refine ⟨owned, ?_⟩
    obtain ⟨content, content', before, after, same⟩ := here
    by_cases this : other = file
    · subst this
      rw [before] at found
      cases found
      rw [after]
      exact same.imp (congrArg some) (congrArg some)
    · exact .inl ((others other this).trans found)

/-! ## Calls that come back -/

theorem World.Consulted.survives (consulted : w.Consulted mode w')
    (disk : Disk mode w.directory g) :
    Survives mode removed created changed w.directory g w'.directory g := by
  rw [consulted.directory]
  exact .of_same disk rfl rfl fun _ _ _ => rfl

theorem GivenUp.survives (result : GivenUp mode w g w') (rep : Rep mode w g)
    (loaded : g.loaded = true) :
    Survives mode removed created changed w.directory g w'.directory g := by
  obtain ⟨w₁, rep', beyond, -, rfl⟩ := result
  have grown : Survives mode removed created changed w.directory g w₁.directory g :=
    rep.survives_beyond loaded rep' beyond
  exact grown

theorem Loaded.survives (loaded : Loaded mode false w w' g') (disk : Disk mode w.directory g)
    (classified : mode ≠ .lax) :
    Survives mode removed created changed w.directory g w'.directory g' := by
  have known : g'.known = true := by
    rw [loaded.ledger]
    rfl
  apply Survives.of_halfRead disk (loaded.rep.disk known) classified
  · intro file name named
    exact loaded.kept name file (loaded.found rfl name file named)
  · intro name
    exact .read _ (loaded.reread disk classified name)

/-- A close flushes, and may delete the file. -/
theorem Good.survives_closed (good : Good mode s g) {i : Nat} {f : VfsFile} {w₁ : World}
    (there : s.files[i]? = some f) (named : f.opened = some name)
    (flushed : Flushed mode s.world g name f.handle.file w₁)
    (evolves : Evolves mode (Only name) w₁ g w' g')
    (result : (w'.directory = w₁.directory ∧ g' = g) ∨ f.options.deleteOnClose = true) :
    Survives mode (s.Removes (.closeFile i)) created changed s.world.directory g
      w'.directory g' := by
  obtain ⟨other, named', mapped⟩ := good.live f (List.mem_of_getElem? there)
  rw [named] at named'
  cases named'
  have loaded := good.rep.loaded_of_mapped mapped
  have first : Survives mode (s.Removes (.closeFile i)) created changed s.world.directory g
      w₁.directory g :=
    good.rep.survives_flush loaded flushed.evolves.rep flushed.here flushed.others
  rcases result with ⟨same, rfl⟩ | deletes
  · rw [same]
    exact first
  · apply first.trans
    apply evolves.survives_removal flushed.evolves.rep loaded ⟨f, there, named, deletes⟩
    intro absent
    have member : name ∈ s.world.mapFilenameToFile := AList.lookup_isSome.mp (by rw [mapped]; rfl)
    exact absurd absent (good.rep.filled_of_mapped member)

theorem Good.survives_deletion (good : Good mode s g) (deletes : event.Deletes name)
    (ready : s.world.Ready) (evolves : Evolves mode (Only name) s.world g w' g')
    (brought : g.entry name = .absent → g'.entry name = .absent) :
    Survives mode (s.Removes event) created changed s.world.directory g w'.directory g' := by
  apply evolves.survives_removal good.rep (good.active_loaded ready.active) _ brought
  rcases deletes with rfl | rfl
  · rfl
  · rfl

theorem Good.survives_import (good : Good mode s g) {data : List UInt8}
    (importing : Importing s.world g file name data)
    (evolves : Evolves mode (Only name) s.world g w' g')
    (brought : g.entry name = .absent → ¬ created name → g'.entry name = .absent) :
    Survives mode removed created changed s.world.directory g w'.directory g' := by
  apply evolves.survives_vacant good.rep (good.active_loaded importing.active)
  · rintro _ rfl
    exact importing.vacant.1
  · rintro _ rfl
    exact brought

theorem Good.survives_open (good : Good mode s g) {request : OpenRequest} (ready : s.world.Ready)
    (evolves : Evolves mode (Opens s.world request) s.world g w' g') :
    Survives mode removed (s.Creates (.openFile request)) changed s.world.directory g
      w'.directory g' := by
  apply evolves.survives_vacant good.rep (good.active_loaded ready.active)
  · intro name opens
    exact opens.vacant
  · intro name opens _ uncreated
    exact absurd ⟨opens.create, opens.requested, opens.generated⟩ uncreated

theorem Good.survives_clear (good : Good mode s g) {reach : String → Prop}
    (evolves : Evolves mode reach s.world g w' g')
    (brought : ∀ name, g.entry name = .absent → g'.entry name = .absent) :
    Survives mode (s.Removes .clear) created changed s.world.directory g w'.directory g' where
  disk := evolves.rep.disk (evolves.frame.known.trans good.known)
  kept _ _ _ _ unremoved := absurd trivial unremoved
  absent name absent _ := brought name absent
  slots _ _ _ _ _ _ _ _ unremoved _ := absurd trivial unremoved

theorem Turn.survives (turn : Turn mode s g event outcome s' g') (good : Good mode s g)
    (classified : mode ≠ .lax) :
    Survives mode (s.Removes event) (s.Creates event) (s.Changes event) s.world.directory g
      s'.world.directory g' := by
  have after : Good mode s' g' := turn.good good
  have disk := good.rep.disk good.known
  have disk' := after.rep.disk after.known
  cases turn with
  | idle _ nothing => exact .of_same disk rfl rfl fun _ _ _ => rfl
  | looked _ _ w' query looked rep =>
      exact .of_same disk' rfl rfl fun file _ _ => looked.contents file
  | refused _ error w' guarded looked rep =>
      exact .of_same disk' rfl rfl fun file _ _ => looked.contents file
  | opened request opened w₁ _ name file evolves result =>
      have opens : Survives mode (s.Removes (.openFile request)) (s.Creates (.openFile request))
          (s.Changes (.openFile request)) s.world.directory g w₁.directory g' :=
        good.survives_open result.ready evolves
      exact opens
  | unopened request error w' _ ready evolves result => exact good.survives_open ready evolves
  | called i made f name content content' _ w' _ there named mapped found effect altered evolves
      same rewritten =>
      exact good.survives_call there named mapped found effect altered.here evolves rewritten
  | closed i f name _ w₁ w' _ there named mapped flushed evolves result done =>
      apply good.survives_closed there named flushed evolves
      rcases result with (⟨-, rfl, same⟩ | ⟨deletes, -⟩) | ⟨deletes, -⟩
      · exact .inl ⟨rfl, same⟩
      · exact .inr deletes
      · exact .inr deletes
  | deleted _ name answer w' _ deletes evolves result =>
      exact good.survives_deletion deletes result.ready evolves fun _ => result.absent
  | undeleted _ name error w' _ deletes evolves result =>
      rcases result with ⟨rfl, rfl⟩ | ⟨ready, -, member, -⟩
      · exact .of_same disk rfl rfl fun _ _ _ => rfl
      · apply good.survives_deletion deletes ready evolves
        intro absent
        exact absurd absent (good.rep.filled_of_mapped member)
  | importing filename size file target w' created =>
      obtain ⟨w₁, consulted, rfl⟩ := created.reserved
      exact .of_same disk' rfl rfl fun other _ _ => by rw [← consulted.directory]
  | filled i offset bytes file filename data content content' data' _ w' there importing found
      filled whole altered evolves =>
      apply evolves.survives_vacant good.rep (good.active_loaded importing.active)
      · intro name impossible
        exact impossible.elim
      · intro name impossible
        exact impossible.elim
  | committed i file filename data w' _ there importing evolves result first =>
      have ended : Survives mode (s.Removes (.commit i)) (s.Creates (.commit i))
          (s.Changes (.commit i)) s.world.directory g w'.directory g' := by
        apply good.survives_import importing evolves
        intro _ uncreated
        refine absurd ⟨file, ?_⟩ uncreated
        rw [there, first]
        rfl
      exact ended
  | unimported _ i _ file filename data w' _ ends there importing evolves result failed aborted
      first =>
      have ended : Survives mode (s.Removes event) (s.Creates event) (s.Changes event)
          s.world.directory g w'.directory g' := by
        apply good.survives_import importing evolves
        intro absent uncreated
        by_cases commits : ∃ j, event = .commit j
        · obtain ⟨j, rfl⟩ := commits
          refine absurd ⟨file, ?_⟩ uncreated
          rcases ends with ends | ends | ⟨error, ends⟩ | ends <;> cases ends
          rw [there, first]
          rfl
        · rw [result.2 fun j commit => commits ⟨j, commit⟩]
          exact absent
      exact ended
  | exporting name file source w' opened =>
      obtain ⟨w₁, rep, looked, rfl⟩ := opened.reserved
      exact .of_same disk' rfl rfl fun file _ _ => looked.contents file
  | exported i file name size there exporting first =>
      exact .of_same disk' rfl rfl fun _ _ _ => rfl
  | growing _ w growth w' adding resizable reached =>
      obtain ⟨busy, rfl⟩ := adding.same
      exact resizable.rep.survives_beyond resizable.loaded reached.1 reached.2.1
  | grown _ w count w' adding resizable reached =>
      obtain ⟨busy, rfl⟩ := adding.same
      obtain ⟨w₁, added, rep, beyond, -, -, -, rfl⟩ := reached
      exact .of_same disk' rfl rfl fun other name owned =>
        beyond.contents other (resizable.rep.held_of_owned resizable.loaded owned)
  | shrinking _ w count left shrink w' reducing resizable reached =>
      obtain ⟨busy, rfl⟩ := reducing.same
      obtain ⟨popped, -, -⟩ := reached
      obtain ⟨w₁, rest, beyond, -, rfl⟩ := popped.from_top
      exact .of_same disk' rfl rfl fun other name owned =>
        beyond.contents other (resizable.rep.held_of_owned resizable.loaded owned)
  | shrunk _ w count left removed w' reducing resizable reached =>
      obtain ⟨busy, rfl⟩ := reducing.same
      exact reached.1.survives resizable.rep resizable.loaded
  | givenUp _ w _ w' stopping resizable result =>
      obtain ⟨busy, rfl⟩ := stopping.same
      exact result.survives resizable.rep resizable.loaded
  | resuming vfs suspended free registered => exact .of_same disk' rfl rfl fun _ _ _ => rfl
  | pending i resuming resuming' w' there suspended consulted => exact consulted.survives disk
  | resumed i resuming w' _ there suspended result =>
      obtain ⟨w₁, vfs, env, loaded, -, -, -, rfl⟩ := result.loading
      have read : Survives mode (s.Removes (.poll i)) (s.Creates (.poll i)) (s.Changes (.poll i))
          s.world.directory g w₁.directory g' := loaded.survives disk classified
      exact read
  | unresumed _ i _ resuming w' _ stops there suspended result =>
      exact .of_halfRead disk disk' classified result.named (result.halfRead classified)
  | paused w' result rep =>
      obtain ⟨env, registry, -, -, -, rfl⟩ := result.result
      exact .of_same disk' rfl rfl fun _ _ _ => rfl
  | cleared w' _ evolves clearable result =>
      exact good.survives_clear evolves fun name _ => result.entries name
  | uncleared error w' _ evolves clearable suspect faded =>
      apply good.survives_clear evolves
      intro name absent
      have fades := faded name
      rw [absent] at fades
      generalize g'.entry name = entry at fades
      cases fades with
      | kept => rfl
      | gone => rfl
      | doubted there => exact absurd rfl there
  | uninstalled w' result rep =>
      obtain ⟨pointer, env, -, -, rfl⟩ := result.result
      exact .of_same disk' rfl rfl fun _ _ _ => rfl

theorem Turned.survives {moment : Moment} (turned : Turned mode s g moment outcome s' g')
    (good : Good mode s g) (classified : mode ≠ .lax) :
    Survives mode (s.Removes moment.event) (s.Creates moment.event) (s.Changes moment.event)
      s.world.directory g s'.world.directory g' := by
  obtain ⟨around, s₂, allowed, -, turn, rfl⟩ := turned
  exact turn.survives (good.facing allowed) classified

/-! ## Calls that are cut off -/

theorem System.ran {moment : Moment} (run : s.run moment = (outcome, s')) :
    ∃ next, moment.event.program.run (s.facing moment.around) = (outcome, next) ∧
      next.silenced = s' := by
  have ended : (moment.event.program.run (s.facing moment.around)).1 = outcome :=
    congrArg Prod.fst run
  have last : (moment.event.program.run (s.facing moment.around)).2.silenced = s' :=
    congrArg Prod.snd run
  exact ⟨_, Prod.ext ended rfl, last⟩

def System.Left (mode : Mode) (s : System) (g : Ledger) (event : Event)
    (directory : AList fun _ : String => SlotFile) : Prop :=
  ∃ g', Survives mode (s.Removes event) (s.Creates event) (s.Changes event) s.world.directory g
    directory g'

def Leaves (mode : Mode) (s : System) (g : Ledger) (event : Event) (x : Prog World ε α)
    (w : World) : Prop :=
  Prog.Stops x w fun w' => s.Left mode g event w'.directory

theorem onWorld_stops {x : Prog World ε α} {fail : ε → Failure} {f : α → SystemM β}
    {left : (AList fun _ : String => SlotFile) → Prop}
    (stops : Prog.Stops x s.world fun w' => left w'.directory)
    (rest : ∀ value s', Prog.Stops (f value) s' fun _ => False) :
    Prog.Stops (onWorld fail x >>= f) s fun s' => left s'.world.directory := by
  apply Prog.Stops.bind _ rest
  unfold Prog.Stops Prog.Ends Prog.wp at stops ⊢
  unfold onWorld
  dsimp only
  rcases run : x.run s.world with ⟨value | error | ⟨⟨⟩⟩, w'⟩
  · trivial
  · trivial
  · rw [run] at stops
    exact stops
  · rw [run] at stops
    exact stops

theorem suspend_stops {τ : Type} (wrap : τ → Operation) (answer : α → Answer) (polled : Poll τ α)
    (s : System) : Prog.Stops (suspend wrap answer polled) s fun _ => False := by
  cases polled with
  | pending state => exact Prog.Ends.modify_bind (Prog.Ends.pure trivial)
  | ready value => exact Prog.Stops.pure _

theorem query_stops (f : World → α) : Prog.Stops (do
    checkActive
    let w ← Prog.get
    pure (f w) : PoolM α) w fun _ => False := by
  rcases checkActive_run (w := w) with ⟨run, -⟩ | ⟨error, run, -⟩
  · exact Prog.Ends.after_ok run (Prog.Ends.get_bind (Prog.Ends.pure trivial))
  · exact Prog.Stops.of_err (Prog.bind_err run _)

theorem access_stops (name : String) : Prog.Stops (VfsStore.access name) w fun _ => False := by
  unfold VfsStore.access
  rcases checkActive_run (w := w) with ⟨run, -⟩ | ⟨error, run, -⟩
  · apply Prog.Ends.after_ok (Prog.mapErr_ok_iff.mpr run)
    exact Prog.Ends.get_bind (Prog.Ends.pure trivial)
  · exact Prog.Stops.of_err (Prog.bind_err (Prog.mapErr_err run _) _)

theorem fullPathname_stops (name : String) :
    Prog.Stops (VfsStore.fullPathname name) w fun _ => False := by
  unfold VfsStore.fullPathname
  cases validateFilename name with
  | ok _ => exact Prog.Ends.pure trivial
  | error error => exact Prog.Ends.fail trivial

/-- A name that is not there is not deleted. -/
theorem deleteFile_stops (unmapped : name ∉ w.mapFilenameToFile) :
    Prog.Stops (deleteFile name) w fun _ => False := by
  unfold deleteFile
  rcases checkActive_run (w := w) with ⟨run, -⟩ | ⟨error, run, -⟩
  · apply Prog.Ends.after_ok run
    apply Prog.Ends.get_bind
    rw [AList.lookup_eq_none.mpr unmapped]
    exact Prog.Ends.pure trivial
  · exact Prog.Stops.of_err (Prog.bind_err run _)

theorem leaves_of_never {x : Prog World ε α} (never : Prog.Stops x w fun _ => False) :
    Leaves mode s g event x w :=
  never.mono fun _ impossible => impossible.elim

theorem leaves_of_evolves {reach : String → Prop} {x : Prog World ε α}
    {returns : α → World → Prop} {fails : ε → World → Prop}
    (ends : Prog.Ends x w returns fails fun w' => ∃ w₁ g₁, Evolves mode reach s.world g w₁ g₁ ∧
      w₁.directory = w'.directory)
    (survives : ∀ w₁ g₁, Evolves mode reach s.world g w₁ g₁ →
      Survives mode (s.Removes event) (s.Creates event) (s.Changes event) s.world.directory g
        w₁.directory g₁) : Leaves mode s g event x w := by
  apply ends.stops
  rintro w' ⟨w₁, g₁, evolves, same⟩
  refine ⟨g₁, ?_⟩
  rw [← same]
  exact survives w₁ g₁ evolves

theorem leaves_of_beyond {x : Prog World ε α} {returns : α → World → Prop}
    {fails : ε → World → Prop} (resizable : Resizable mode s.world g)
    (ends : Prog.Ends x s.world returns fails fun w' => ∃ w₁, Rep mode w₁ g ∧ s.world.Beyond w₁ ∧
      w₁.directory = w'.directory) : Leaves mode s g event x s.world := by
  apply ends.stops
  rintro w' ⟨w₁, rep, beyond, same⟩
  refine ⟨g, ?_⟩
  rw [← same]
  exact resizable.rep.survives_beyond resizable.loaded rep beyond

theorem Good.consuming_stops (good : Good mode s g) {i : Nat} {fail : ε → Failure}
    {call : SqliteVfs.ImportTarget World OpfsSAHError → Prog World ε α}
    {left : (AList fun _ : String => SlotFile) → Prop}
    (stops : ∀ file filename data, s.operations = [.importing (importTarget file filename)] →
      Importing s.world g file filename data → i = 0 →
      Prog.Stops (call (importTarget file filename)) s.world fun w' => left w'.directory) :
    Prog.Stops (consumeImport i fail call) s fun s' => left s'.world.directory := by
  apply Prog.Ends.get_bind
  rcases there : s.operations[i]? with _ | operation
  · exact Prog.Stops.pure _
  cases operation with
  | importing target =>
      obtain ⟨file, filename, data, alone, rfl, importing, -⟩ := good.importing_of there
      apply Prog.Ends.modify_bind
      exact onWorld_stops (s := { s with operations := s.operations.eraseIdx i })
        (stops file filename data alone importing (first_of_alone alone there))
        fun _ _ => Prog.Stops.pure _
  | _ => exact Prog.Stops.pure _

theorem Good.future_stops (good : Good mode s g) (i : Nat) (next : Operation → SystemM Answer)
    {left : (AList fun _ : String => SlotFile) → Prop}
    (otherwise : ∀ operation : Operation, ¬ operation.IsFuture → next operation = pure .done)
    (stops : ∀ operation : Operation, operation.IsFuture → Duty mode s.world g operation →
      Prog.Stops (next operation) { s with operations := s.operations.eraseIdx i }
        fun s' => left s'.world.directory) :
    Prog.Stops (withTransfer i fun operation => do
      if operation.IsFuture then forgetOperation i
      next operation) s fun s' => left s'.world.directory := by
  apply Prog.Ends.get_bind
  rcases there : s.operations[i]? with _ | operation
  · exact Prog.Stops.pure _
  dsimp only
  by_cases future : operation.IsFuture
  · rw [if_pos future]
    apply Prog.Ends.modify_bind
    exact stops operation future (good.operation there).2.2
  · rw [if_neg future, otherwise operation future]
    exact Prog.Stops.pure _

namespace Good

variable (good : Good mode s g)

include good

theorem deleteFile_leaves (deletes : event.Deletes name) :
    Leaves mode s g event (deleteFile name) s.world := by
  by_cases ready : s.world.Ready
  swap
  · obtain ⟨error, run⟩ := deleteFile_refuses ready name
    exact Prog.Stops.of_err run
  by_cases member : name ∈ s.world.mapFilenameToFile
  · apply leaves_of_evolves (deleteFile_keeps good.rep (good.active_loaded ready.active) name)
    intro w₁ g₁ evolves
    apply good.survives_deletion deletes ready evolves
    intro absent
    exact absurd absent (good.rep.filled_of_mapped member)
  · exact leaves_of_never (deleteFile_stops member)

theorem storeDelete_leaves (name : String) :
    Leaves mode s g (.deleteFile name) (VfsStore.deleteFile name) s.world := by
  unfold VfsStore.deleteFile
  have deleted : Leaves mode s g (.deleteFile name) (Sahpool.deleteFile name) s.world :=
    good.deleteFile_leaves (.inl rfl)
  exact Prog.Stops.bind (Prog.Stops.mapErr deleted) fun _ _ => Prog.Stops.pure _

theorem openFile_leaves (request : OpenRequest)
    (classified : Introduces s.world request → mode ≠ .lax → Classified request.options.rawFlags) :
    Leaves mode s g (.openFile request) (openFile request) s.world := by
  by_cases ready : s.world.Ready
  · apply leaves_of_evolves (openFile_ends good.rep request classified)
    intro w₁ g₁ evolves
    exact good.survives_open ready evolves
  · obtain ⟨error, run⟩ := openFile_refuses ready request
    exact Prog.Stops.of_err run

theorem closeFile_leaves {i : Nat} {f : VfsFile} (there : s.files[i]? = some f) :
    Leaves mode s g (.closeFile i) (VfsStore.closeFile f.name f.handle f.options) s.world := by
  have member := List.mem_of_getElem? there
  obtain ⟨name, named, mapped⟩ := good.live f member
  have loaded := good.rep.loaded_of_mapped mapped
  apply (closeFile_ends good.rep loaded f.options named mapped (good.inUse member)).stops
  rintro w' (⟨w₁, evolves, same, content, content', before, after, flushed, others⟩ |
    ⟨deletes, w₁, g₁, w₂, flushed, evolves, same⟩)
  · refine ⟨g, ?_⟩
    rw [← same] at after others ⊢
    exact good.rep.survives_flush loaded evolves.rep ⟨content, content', before, after, flushed⟩
      others
  · refine ⟨g₁, ?_⟩
    rw [← same]
    exact good.survives_closed there named flushed evolves (.inr deletes)

theorem openExport_leaves (name : String) :
    Leaves mode s g (.openExport name) (openExport name) s.world := by
  by_cases ready : s.world.Ready
  · apply leaves_of_evolves (openExport_ends good.rep name)
    intro w₁ g₁ evolves
    apply evolves.survives_vacant good.rep (good.active_loaded ready.active)
    · intro name impossible
      exact impossible.elim
    · intro name impossible
      exact impossible.elim
  · obtain ⟨error, run⟩ := openExport_refuses ready name
    exact Prog.Stops.of_err run

theorem clear_leaves : Leaves mode s g .clear clear s.world := by
  apply leaves_of_evolves (clear_keeps_filled good.rep good.active_loaded)
  intro w₁ g₁ evolves
  apply good.survives_clear evolves
  intro name absent
  exact (evolves.entries name fun filled => filled absent).trans absent

theorem commit_leaves {i : Nat} {filename : String} {data : List UInt8}
    (there : s.operations = [.importing (importTarget file filename)])
    (importing : Importing s.world g file filename data) (first : i = 0) :
    Leaves mode s g (.commit i) (importTarget file filename).commit s.world := by
  have created : s.Creates (.commit i) filename := by
    refine ⟨file, ?_⟩
    rw [there, first]
    rfl
  apply Prog.Stops.ensure
  apply leaves_of_evolves (commit_ends good.rep importing)
  intro w₁ g₁ evolves
  apply good.survives_import importing evolves
  intro _ uncreated
  exact absurd created uncreated

/-- An import that is given up, in whichever way, brings nothing in. -/
theorem dropped_leaves {filename : String} {data : List UInt8}
    (importing : Importing s.world g file filename data) {x : Prog World ε α}
    {returns : α → World → Prop} {fails : ε → World → Prop}
    (ends : Prog.Ends x s.world returns fails fun w' => ∃ w₁ g₁,
      Evolves mode (Only filename) s.world g w₁ g₁ ∧ w₁.directory = w'.directory ∧
        (Blank mode content → g₁ = g.unstage)) (blank : Blank mode content) :
    Leaves mode s g event x s.world := by
  apply ends.stops
  rintro w' ⟨w₁, g₁, evolves, same, unstaged⟩
  refine ⟨g₁, ?_⟩
  rw [← same]
  apply good.survives_import importing evolves
  intro absent _
  rw [unstaged blank]
  exact absent

theorem consuming_leaves (event : Event) {fail : ε → Failure} {i : Nat}
    {call : SqliteVfs.ImportTarget World OpfsSAHError → Prog World ε α}
    (leaves : ∀ file filename data content, Importing s.world g file filename data →
      s.world.directory.lookup file = some content → Blank mode content →
      Leaves mode s g event (call (importTarget file filename)) s.world) :
    Prog.Stops (consumeImport i fail call) s fun s' => s.Left mode g event s'.world.directory := by
  apply good.consuming_stops
  intro file filename data _ importing _
  obtain ⟨content, found, blank⟩ := good.unpublished importing
  exact leaves file filename data content importing found blank

theorem resume_leaves (classified : mode ≠ .lax) {resuming : Resuming}
    (suspended : Suspended mode s.world g) (resumes : Resumes s.world resuming) :
    Leaves mode s g event (pollResume resuming) s.world := by
  apply (pollResume_ends suspended resumes).stops
  rintro w' ⟨w₁, g₁, stopped, same⟩
  refine ⟨g₁, ?_⟩
  rw [← same]
  have disk := good.rep.disk good.known
  have known : g₁.known = true := stopped.known.trans good.known
  apply Survives.of_halfRead disk (stopped.rep.disk known) classified stopped.named
  intro name
  obtain ⟨files, rfl, nameless⟩ := stopped.ledger
  exact Ledger.halfRead_doubtAll disk classified nameless name

/-- The part of `add_capacity` that does not yield touches no slot. -/
theorem addCapacity_leaves (x : PoolM (Poll Growth Nat)) (n : Nat)
    (same : x.run s.world = (addCapacity n).run s.world) : Leaves mode s g event x s.world := by
  have never : Prog.Stops (addCapacity n) s.world fun _ => False := by
    by_cases ready : s.world.Ready
    · exact (addCapacity_ends ready (good.resizable_ready ready) n).stops fun _ => id
    · obtain ⟨error, run⟩ := addCapacity_refuses ready n
      exact Prog.Stops.of_err run
  unfold Prog.Stops Prog.Ends Prog.wp at never
  rw [← same] at never
  exact leaves_of_never never

theorem poll_stops (classified : mode ≠ .lax) (i : Nat) : Prog.Stops (Event.poll i).program s
    fun s' => s.Left mode g (.poll i) s'.world.directory := by
  apply good.future_stops i Operation.poll
  · intro operation static
    cases operation with
    | importing target => rfl
    | exporting source => rfl
    | _ => exact absurd trivial static
  intro operation future duty
  cases operation with
  | importing target => exact future.elim
  | exporting source => exact future.elim
  | adding growth =>
      exact onWorld_stops (s := { s with operations := s.operations.eraseIdx i })
        (leaves_of_beyond duty.1 (pollAddCapacity_ends duty.1 duty.2)) (suspend_stops _ _)
  | reducing shrink =>
      exact onWorld_stops (s := { s with operations := s.operations.eraseIdx i })
        (leaves_of_beyond duty.1 (pollReduceCapacity_ends duty.1 duty.2)) (suspend_stops _ _)
  | resuming resuming =>
      exact onWorld_stops (s := { s with operations := s.operations.eraseIdx i })
        (good.resume_leaves classified duty.1 duty.2) (suspend_stops _ _)

theorem cancel_stops (i : Nat) : Prog.Stops (Event.cancel i).program s
    fun s' => s.Left mode g (.cancel i) s'.world.directory := by
  apply good.future_stops i Operation.cancel
  · intro operation static
    cases operation with
    | importing target => rfl
    | exporting source => rfl
    | _ => exact absurd trivial static
  intro operation future duty
  cases operation with
  | importing target => exact future.elim
  | exporting source => exact future.elim
  | adding growth =>
      exact onWorld_stops (s := { s with operations := s.operations.eraseIdx i })
        (leaves_of_beyond duty.1 (cancelAddCapacity_ends duty.1 duty.2)) fun _ _ => .pure _
  | reducing shrink =>
      exact onWorld_stops (s := { s with operations := s.operations.eraseIdx i })
        (leaves_of_beyond duty.1 (cancelReduceCapacity_ends duty.1 duty.2)) fun _ _ => .pure _
  | resuming resuming =>
      have dropped : Prog.Stops cancelResume s.world fun _ => False :=
        Prog.Ends.widen (Prog.Ends.modify trivial)
      exact onWorld_stops (s := { s with operations := s.operations.eraseIdx i })
        (leaves_of_never dropped) fun _ _ => .pure _

/-! ### Calls on data -/

theorem call_stops (around : Surroundings) (i : Nat) (made : FileCall) :
    Prog.Stops (Event.call i made).program (s.facing around)
      fun s' => s.Left mode g (.call i made) s'.world.directory := by
  have facing := good.facing around.spent_allowed
  apply Prog.Ends.get_bind
  rcases there : (s.facing around).files[i]? with _ | f
  · exact Prog.Stops.pure _
  have member : f ∈ s.files := List.mem_of_getElem? there
  obtain ⟨name, named, mapped⟩ := good.live f member
  obtain ⟨content, found, -⟩ := good.rep.content_of_mapped mapped
  refine onWorld_stops ?_ fun _ _ => .pure _
  apply (made.affects f.handle (w := s.world.facing around) found).stops
  rintro w' ⟨content', effect, reached⟩
  obtain ⟨g', evolves, -, rewritten⟩ := reached.evolves
    (P := fun g' => g'.staging = g.staging ∧ ∃ f, g'.entry name = (g.entry name).map f) facing.rep
    ⟨rfl, id, (Entry.map_id _).symm⟩ (facing.rep.call mapped (good.inUse member) found effect)
  have altered := reached.altered found
  have left : Survives mode (s.Removes (.call i made)) (s.Creates (.call i made))
      (s.Changes (.call i made)) s.world.directory g w'.silenced.directory g' :=
    facing.survives_call there named mapped found effect altered.here evolves rewritten
  exact ⟨g', left⟩

theorem importWrite_stops (around : Surroundings) (i offset : Nat) (bytes : List UInt8) :
    Prog.Stops (Event.importWrite i offset bytes).program (s.facing around)
      fun s' => s.Left mode g (.importWrite i offset bytes) s'.world.directory := by
  have facing := good.facing around.spent_allowed
  apply Prog.Ends.get_bind
  rcases there : (s.facing around).operations[i]? with _ | operation
  · exact Prog.Stops.pure _
  cases operation with
  | importing target =>
      obtain ⟨file, filename, data, alone, rfl, importing, -⟩ := good.importing_of there
      obtain ⟨-, content, found, -⟩ := good.rep.staged file data importing.staging
      refine onWorld_stops ?_ fun _ _ => .pure _
      apply (importWrite_ends (w := s.world.facing around) offset bytes found).stops
      rintro w' ⟨content', filled, reached⟩
      have filling : ∃ data', Evolves mode (fun _ => False) _ _ _ (g.stage file data') :=
        facing.rep.filled importing.staging found filled
      obtain ⟨data', changed⟩ := filling
      obtain ⟨g', evolves, -⟩ := reached.evolves (P := fun _ => True) facing.rep trivial
        ⟨_, changed, trivial⟩
      refine ⟨g', evolves.survives_vacant facing.rep (good.active_loaded importing.active) ?_ ?_⟩
      · intro name impossible
        exact impossible.elim
      · intro name impossible
        exact impossible.elim
  | _ => exact Prog.Stops.pure _

theorem exportRead_stops (around : Surroundings) (i offset : Nat) (buf : List UInt8) :
    Prog.Stops (Event.exportRead i offset buf).program (s.facing around)
      fun s' => s.Left mode g (.exportRead i offset buf) s'.world.directory := by
  have facing := good.facing around.spent_allowed
  apply Prog.Ends.get_bind
  rcases there : (s.facing around).operations[i]? with _ | operation
  · exact Prog.Stops.pure _
  cases operation with
  | exporting source =>
      obtain ⟨-, -, file, name, size, rfl, exporting⟩ := good.operation there
      obtain ⟨content, found, -⟩ := good.rep.content_of_mapped exporting.mapped
      refine onWorld_stops ?_ fun _ _ => .pure _
      apply (exportRead_affects (w := s.world.facing around) offset buf found).stops
      rintro w' ⟨content', rfl, reached⟩
      obtain ⟨g', evolves, rfl⟩ : ∃ g', Evolves mode Everything _ g _ g' ∧ g' = g :=
        reached.evolves (P := fun g' => g' = g) facing.rep rfl ⟨g, .move facing.rep
          (.touch _ g file content' (mem_held_mapped exporting.mapped) found) (fun _ _ => rfl)
          fun _ other _ _ => apart_touch (w := s.world) found other, rfl⟩
      have altered := reached.altered found
      refine ⟨g', .of_same (evolves.rep.disk good.known) rfl rfl fun other _ _ => ?_⟩
      by_cases same : other = file
      · rw [same]
        exact altered.here.trans found.symm
      · exact altered.others other same
  | _ => exact Prog.Stops.pure _

/-! ### Every event -/

theorem stops (event : Event) (others : ¬ event.OnData) (classified : mode ≠ .lax)
    (flags : ∀ request, event = .openFile request → Classified request.options.rawFlags) :
    Prog.Stops event.program s fun s' => s.Left mode g event s'.world.directory := by
  cases event with
  | openFile request =>
      have opens := good.openFile_leaves request fun _ _ => flags request rfl
      refine onWorld_stops opens fun _ _ => ?_
      exact Prog.Ends.modify_bind (Prog.Ends.pure trivial)
  | call i made => exact absurd trivial others
  | importWrite i offset bytes => exact absurd trivial others
  | exportRead i offset buf => exact absurd trivial others
  | closeFile i =>
      apply Prog.Ends.get_bind
      rcases there : s.files[i]? with _ | f
      · exact Prog.Stops.pure _
      apply Prog.Ends.modify_bind
      exact onWorld_stops (s := { s with files := s.files.eraseIdx i })
        (good.closeFile_leaves there) fun _ _ => .pure _
  | deleteFile name => exact onWorld_stops (good.storeDelete_leaves name) fun _ _ => .pure _
  | remove name => exact onWorld_stops (good.deleteFile_leaves (.inr rfl)) fun _ _ => .pure _
  | access name => exact onWorld_stops (leaves_of_never (access_stops name)) fun _ _ => .pure _
  | fullPathname name =>
      exact onWorld_stops (leaves_of_never (fullPathname_stops name)) fun _ _ => .pure _
  | contains name => exact onWorld_stops (leaves_of_never (query_stops _)) fun _ _ => .pure _
  | names => exact onWorld_stops (leaves_of_never (query_stops _)) fun _ _ => .pure _
  | len => exact onWorld_stops (leaves_of_never (query_stops _)) fun _ _ => .pure _
  | createImport name size =>
      have never : Leaves mode s g (.createImport name size) (createImport name size) s.world :=
        leaves_of_never ((createImport_ends good.rep.allowed name size).stops fun _ => id)
      refine onWorld_stops never fun _ _ => ?_
      exact Prog.Ends.modify_bind (Prog.Ends.pure trivial)
  | commit i =>
      apply good.consuming_stops
      intro file filename data there importing first
      exact good.commit_leaves there importing first
  | abort i =>
      apply good.consuming_leaves
      intro file filename data content importing found blank
      have left : Unpublished mode filename data content := .inl blank
      have cleaned := cleanup_ends good.rep importing.healthy importing.staging
        importing.vacant.1 left found (.inl ⟨rfl, rfl⟩) good.rep.allowed
      exact Prog.Stops.ensure (good.dropped_leaves importing cleaned blank)
  | abortWithError i error =>
      apply good.consuming_leaves
      intro file filename data content importing found blank
      have left : Unpublished mode filename data content := .inl blank
      have cleaned := abortWithError_ends good.rep importing.healthy
        importing.staging importing.vacant.1 left found (.inl ⟨rfl, rfl⟩) good.rep.allowed error
      exact Prog.Stops.ensure (good.dropped_leaves importing cleaned blank)
  | dropImport i =>
      apply good.consuming_leaves
      intro file filename data content importing found blank
      have left : Unpublished mode filename data content := .inl blank
      have cleaned := drop_ends good.rep importing.healthy importing.staging
        importing.vacant.1 left found (.inl ⟨rfl, rfl⟩) good.rep.allowed
      exact Prog.Stops.ensure (good.dropped_leaves importing cleaned blank)
  | openExport name =>
      refine onWorld_stops (good.openExport_leaves name) fun _ _ => ?_
      exact Prog.Ends.modify_bind (Prog.Ends.pure trivial)
  | dropExport i =>
      apply Prog.Ends.get_bind
      rcases there : s.operations[i]? with _ | operation
      · exact Prog.Stops.pure _
      cases operation with
      | exporting source =>
          obtain ⟨-, -, file, name, size, rfl, -⟩ := good.operation there
          apply Prog.Ends.modify_bind
          have ended : Prog.Stops endOperation s.world fun _ => False := Prog.Ends.modify trivial
          exact onWorld_stops (s := { s with operations := s.operations.eraseIdx i })
            (leaves_of_never ended) fun _ _ => .pure _
      | _ => exact Prog.Stops.pure _
  | addCapacity n =>
      exact onWorld_stops (good.addCapacity_leaves (addCapacity n) n rfl) (suspend_stops _ _)
  | ensureCapacity min =>
      exact onWorld_stops (good.addCapacity_leaves (ensureCapacity min)
        (min - s.world.capacity) rfl) (suspend_stops _ _)
  | reduceCapacity n =>
      refine onWorld_stops (leaves_of_never ?_) (suspend_stops _ _)
      by_cases ready : s.world.Ready
      · exact (reduceCapacity_ends ready (good.resizable_ready ready) n).stops fun _ => id
      · obtain ⟨error, run⟩ := reduceCapacity_refuses ready n
        exact Prog.Stops.of_err run
  | resume =>
      refine onWorld_stops (leaves_of_never ?_) (suspend_stops _ _)
      exact (resume_ends good.readable).stops fun _ => id
  | poll i => exact good.poll_stops classified i
  | cancel i => exact good.cancel_stops i
  | pause =>
      refine onWorld_stops (leaves_of_never ?_) fun _ _ => .pure _
      exact (pause_ends good.rep.allowed).stops fun _ => id
  | clear => exact onWorld_stops good.clear_leaves fun _ _ => .pure _
  | uninstall =>
      refine onWorld_stops (leaves_of_never ?_) fun _ _ => .pure _
      exact (uninstall_ends good.rep.allowed).stops fun _ => id

/-- An event that is cut off leaves what it was not about. -/
theorem cut_off {moment : Moment} (allowed : moment.Allowed mode) (classified : mode ≠ .lax)
    (run : s.run moment = (.halt .crash, s')) : s.Left mode g moment.event s'.world.directory := by
  obtain ⟨around, event⟩ := moment
  have stops : Prog.Stops event.program (s.facing around)
      fun s' => s.Left mode g event s'.world.directory := by
    by_cases data : event.OnData
    · cases event with
      | call i made => exact good.call_stops around i made
      | importWrite i offset bytes => exact good.importWrite_stops around i offset bytes
      | exportRead i offset buf => exact good.exportRead_stops around i offset buf
      | _ => exact data.elim
    · apply (good.facing (allowed.answers data)).stops event data classified
      intro request same
      exact allowed.flags request same classified
  obtain ⟨next, ran, rfl⟩ := System.ran run
  have left := stops.crash ran
  exact left

end Good

end Sahpool

end SqliteVfs
