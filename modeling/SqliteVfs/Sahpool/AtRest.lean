import SqliteVfs.Sahpool.Crashes
import SqliteVfs.Sahpool.HeaderAgreement

/-!
# Directories at rest

A crash keeps of every slot what was flushed and any part of what was not.  What it leaves is a
directory with nothing waiting to be flushed, in which every header can be read and no name
stands twice.  Installing a pool on such a directory finds the files that it holds; an
installation that fails, is dropped or is cut off leaves them in place, and one that clears the
directory knows none of them.  Without a crash the same holds of any directory, and whatever the
browser answers: the next pool has the files of the last one.
-/

set_option autoImplicit false

namespace SqliteVfs

namespace Sahpool

variable {mode : Mode} {w w' : World} {g g' : Ledger} {file name : String} {content : SlotFile}
  {directory left : AList fun _ : String => SlotFile}

/-! ## Crashes -/

/-- What a crash leaves of a directory: of each slot what was durable, and some of the rest. -/
structure Crashed (directory left : AList fun _ : String => SlotFile) : Prop where
  files : ∀ file, file ∈ left ↔ file ∈ directory
  image : ∀ file content, directory.lookup file = some content →
    ∃ image, Journal.Image SlotOp.apply content image ∧
      left.lookup file = some (Journal.settled image)

/-- Some slot is read back with the name. -/
def Shelves (directory : AList fun _ : String => SlotFile) (name : String) : Prop :=
  ∃ file content, directory.lookup file = some content ∧ readBack file content = .ok (some name)

/-- Some slot is read back with the name, and has these bytes behind its header. -/
def ShelvesWith (directory : AList fun _ : String => SlotFile) (name : String)
    (bytes : List UInt8) : Prop :=
  ∃ file content, directory.lookup file = some content ∧
    readBack file content = .ok (some name) ∧ dataOf content.contents = bytes

structure Orderly (directory : AList fun _ : String => SlotFile) : Prop where
  reads : ∀ file content, directory.lookup file = some content →
    ∃ named, readBack file content = .ok named
  unique : ∀ name file other content content', directory.lookup file = some content →
    directory.lookup other = some content' → readBack file content = .ok (some name) →
    readBack other content' = .ok (some name) → file = other

def flushAll (directory : AList fun _ : String => SlotFile) : AList fun _ : String => SlotFile :=
  ⟨directory.entries.map (.map id fun _ content => content.flush), directory.nodupKeys.map₂ _ _⟩

/-- A crash can come when everything was flushed. -/
theorem crashed_flushAll (directory : AList fun _ : String => SlotFile) :
    Crashed directory (flushAll directory) where
  files file := by
    change file ∈ (directory.entries.map _).keys ↔ file ∈ directory.entries.keys
    rw [List.map₂_keys]
  image file content found := by
    refine ⟨content.contents, Journal.image_contents _ _, ?_⟩
    change (directory.entries.map _).dlookup file = _
    rw [List.dlookup_map₂, show directory.entries.dlookup file = some content from found]
    rfl

namespace Crashed

variable (crashed : Crashed directory left)

include crashed

/-- A slot that is found was there, and shows what could be observed of it. -/
theorem observed (found : left.lookup file = some content) :
    ∃ before image, directory.lookup file = some before ∧ content = Journal.settled image ∧
      Observable .strict before image := by
  have there : file ∈ directory :=
    (crashed.files file).mp (AList.lookup_isSome.mp (by rw [found]; rfl))
  obtain ⟨before, here⟩ := Option.isSome_iff_exists.mp (AList.lookup_isSome.mpr there)
  obtain ⟨image, seen, here'⟩ := crashed.image file before here
  rw [found] at here'
  cases here'
  exact ⟨before, image, here, rfl, seen, .inl rfl⟩

theorem all_settled (found : left.lookup file = some content) :
    ∃ contents, content = Journal.settled contents := by
  obtain ⟨before, image, -, rfl, -⟩ := crashed.observed found
  exact ⟨image, rfl⟩

theorem settled {contents : List UInt8}
    (found : directory.lookup file = some (Journal.settled contents)) :
    left.lookup file = some (Journal.settled contents) := by
  obtain ⟨image, seen, here⟩ := crashed.image file _ found
  rw [(Journal.image_settled _).mp seen] at here
  exact here

end Crashed

theorem readBack_settled {image : List UInt8} {named : Option String} :
    readBack file (Journal.settled image) = .ok named ↔ stored image = .ok named := by
  rw [readBack_ok]
  rfl

theorem Names.readable {owner : Option String} {image : List UInt8}
    (names : Names .strict owner image) : ∃ named, stored image = .ok named := by
  rcases names with none | ⟨name, -, named⟩ | ⟨torn, -⟩
  · exact ⟨_, none⟩
  · exact ⟨_, named⟩
  · rcases torn with torn | torn <;> cases torn

namespace Disk

variable (disk : Disk .strict directory g) (crashed : Crashed directory left)

include disk crashed

/-- What is found in a slot names its owner or nothing. -/
theorem named_of_crashed (found : left.lookup file = some content) :
    ∃ image, content = Journal.settled image ∧ Names .strict (g.owner file) image := by
  obtain ⟨before, image, here, rfl, seen⟩ := crashed.observed found
  refine ⟨image, rfl, ?_⟩
  have represents := disk.slot file before here
  rcases owned : g.owner file with _ | name
  · exact represents.blank owned image seen
  · exact ((represents.holds owned).unclear.sees image seen).2

theorem orderly : Orderly left := by
  constructor
  · intro file content found
    obtain ⟨image, rfl, names⟩ := disk.named_of_crashed crashed found
    obtain ⟨named, reading⟩ := names.readable
    exact ⟨named, readBack_settled.mpr reading⟩
  · intro name file other content content' found found' reading reading'
    obtain ⟨image, rfl, names⟩ := disk.named_of_crashed crashed found
    obtain ⟨image', rfl, names'⟩ := disk.named_of_crashed crashed found'
    have owned := names.owner_eq (readBack_settled.mp reading)
    have owned' := names'.owner_eq (readBack_settled.mp reading')
    exact disk.injective file other name owned owned'

theorem shelves {data : List UInt8} (durable : g.entry name = .present false true data) :
    Shelves left name := by
  obtain ⟨file, owned⟩ := disk.kept name false true data durable
  obtain ⟨content, found, holds⟩ := disk.exists_content owned
  rw [durable] at holds
  have named : Named .strict name false true data content := holds
  obtain ⟨header, valid, -, lasts⟩ := named.header
  obtain ⟨image, seen, here⟩ := crashed.image file content found
  have observed : Observable .strict content image := ⟨seen, .inl rfl⟩
  have reading := valid.stored_eq (by decide) (named.sees image observed).1
    (lasts rfl image observed)
  exact ⟨file, _, here, readBack_settled.mpr reading⟩

theorem not_shelves (absent : g.entry name = .absent) : ¬ Shelves left name := by
  rintro ⟨file, content, found, reading⟩
  obtain ⟨image, rfl, names⟩ := disk.named_of_crashed crashed found
  have owned := names.owner_eq (readBack_settled.mp reading)
  obtain ⟨content, -, holds⟩ := disk.exists_content owned
  rw [absent] at holds
  exact holds

end Disk

/-! ## The ledger of a directory at rest -/

/-- A directory in which nothing waits to be flushed, and that can be read. -/
structure AtRest (directory : AList fun _ : String => SlotFile) : Prop extends
    Orderly directory where
  settled : ∀ file content, directory.lookup file = some content →
    ∃ contents, content = Journal.settled contents

theorem decoded_eq_some {named : Except String (Option String)} :
    decoded directory file = some named ↔
      ∃ content, directory.lookup file = some content ∧ stored content.contents = named :=
  Option.map_eq_some_iff

theorem shelves_iff : Shelves directory name ↔
    ∃ file, decoded directory file = some (.ok (some name)) := by
  simp only [Shelves, decoded_eq_some, readBack_ok]

open Classical in
noncomputable def restLedger (directory : AList fun _ : String => SlotFile) : Ledger where
  entry name :=
    if shelved : ∃ file content, directory.lookup file = some content ∧
        stored content.contents = .ok (some name) then
      .present false true (dataOf shelved.choose_spec.choose.contents)
    else .absent
  owner file := match decoded directory file with
    | some (.ok (some name)) => some name
    | _ => none
  staging := none
  known := true
  loaded := false

theorem restLedger_owner : (restLedger directory).owner file = some name ↔
    decoded directory file = some (.ok (some name)) := by
  unfold restLedger
  dsimp only
  rcases decoded directory file with _ | reason | _ | found <;> simp

theorem restLedger_absent (missing : ¬ Shelves directory name) :
    (restLedger directory).entry name = .absent := by
  unfold restLedger
  dsimp only
  rw [dif_neg]
  rintro ⟨file, content, found, reading⟩
  exact missing ⟨file, content, found, readBack_ok.mpr reading⟩

namespace AtRest

variable (rest : AtRest directory)

include rest

theorem startable : Startable mode directory := fun _ => rest.settled

theorem entry_eq (found : directory.lookup file = some content)
    (reading : stored content.contents = .ok (some name)) :
    (restLedger directory).entry name = .present false true (dataOf content.contents) := by
  have shelved : ∃ file content, directory.lookup file = some content ∧
      stored content.contents = .ok (some name) := ⟨file, content, found, reading⟩
  unfold restLedger
  dsimp only
  rw [dif_pos shelved]
  generalize chosen : shelved.choose_spec.choose = other
  have there := shelved.choose_spec.choose_spec
  rw [chosen] at there
  have same := rest.unique name _ _ _ _ found there.1 (readBack_ok.mpr reading)
    (readBack_ok.mpr there.2)
  rw [← same, found] at there
  rw [Option.some.inj there.1]

theorem shelved (shelves : Shelves directory name) :
    ∃ data, (restLedger directory).entry name = .present false true data := by
  obtain ⟨file, content, found, reading⟩ := shelves
  exact ⟨_, rest.entry_eq found (readBack_ok.mp reading)⟩

theorem disk : Disk .strict directory (restLedger directory) where
  slot file content found := by
    obtain ⟨named, reading⟩ := rest.reads file content found
    have reading := readBack_ok.mp reading
    obtain ⟨contents, rfl⟩ := rest.settled file content found
    rcases owned : (restLedger directory).owner file with _ | name
    · cases named with
      | none =>
          apply represents_blank owned
          intro image seen
          rw [(Journal.image_settled _).mp seen.1]
          exact .inl reading
      | some name =>
          have named := restLedger_owner.mpr (decoded_eq_some.mpr ⟨_, found, reading⟩)
          rw [owned] at named
          cases named
    · obtain ⟨_, found', reading⟩ := decoded_eq_some.mp (restLedger_owner.mp owned)
      obtain rfl := Option.some.inj (found.symm.trans found')
      apply represents_owned owned
      rw [rest.entry_eq found reading]
      refine ⟨⟨_, storedHeader_of_stored reading, rfl, fun _ image seen => ?_⟩,
        legible_settled contents name reading, rfl⟩
      rw [(Journal.image_settled _).mp seen.1]
      rfl
  inside file name owned := by
    obtain ⟨content, found, -⟩ := decoded_eq_some.mp (restLedger_owner.mp owned)
    exact AList.lookup_isSome.mp (by rw [found]; rfl)
  injective file other name owned owned' := by
    obtain ⟨content, found, reading⟩ := decoded_eq_some.mp (restLedger_owner.mp owned)
    obtain ⟨content', found', reading'⟩ := decoded_eq_some.mp (restLedger_owner.mp owned')
    exact rest.unique name file other content content' found found' (readBack_ok.mpr reading)
      (readBack_ok.mpr reading')
  kept name temporary durable data present := by
    by_cases shelved : Shelves directory name
    · obtain ⟨file, named⟩ := shelves_iff.mp shelved
      exact ⟨file, restLedger_owner.mpr named⟩
    · rw [restLedger_absent shelved] at present
      cases present

end AtRest

/-- What a crash leaves is at rest. -/
theorem Disk.atRest (disk : Disk .strict directory g) (crashed : Crashed directory left) :
    AtRest left where
  toOrderly := disk.orderly crashed
  settled _ _ := crashed.all_settled

/-! ## What an installation keeps -/

variable {g₀ : Ledger}

/-- Every file of the first directory is in the second one, in its slot, and no other is. -/
def Unmoved (mode : Mode) (directory : AList fun _ : String => SlotFile) (g : Ledger)
    (directory' : AList fun _ : String => SlotFile) (g' : Ledger) : Prop :=
  Survives mode (fun _ => False) (fun _ => False) (fun _ => False) directory g directory' g'

def Unspoiled (mode : Mode) (directory : AList fun _ : String => SlotFile) (g : Ledger)
    (directory' : AList fun _ : String => SlotFile) : Prop :=
  ∃ g', Unmoved mode directory g directory' g'

theorem LoadStops.unspoiled (stops : LoadStops mode false w w') (disk : Disk mode w.directory g₀)
    (classified : mode ≠ .lax) : Unspoiled mode w.directory g₀ w'.directory := by
  obtain ⟨-, files, remakes, nameless⟩ := stops
  refine ⟨g₀.doubtAll files, ?_⟩
  apply Survives.of_halfRead disk (disk.resetting remakes.others remakes.each) classified
  · intro file name named
    apply remakes.others
    intro member
    rw [nameless rfl file member] at named
    cases named
  · exact Ledger.halfRead_doubtAll disk classified (nameless rfl)

/-- An installation that does not clear the directory keeps the files, however it ends. -/
theorem installRule_keeps (disk : Disk mode directory g₀) (classified : mode ≠ .lax) :
    InstallRule mode directory false (Unmoved mode directory g₀) (Unspoiled mode directory g₀) where
  start := ⟨g₀, .of_same disk rfl rfl fun _ _ _ => rfl⟩
  stops w w' same stops := by
    subst same
    exact stops.unspoiled disk classified
  reads w w' g same loaded := by
    subst same
    exact loaded.survives disk classified
  further w g directory' unmoved rep loaded further := by
    obtain ⟨w₁, rep', beyond, rfl⟩ := further
    exact unmoved.trans (rep.survives_beyond loaded rep' beyond)
  keeps _ g unmoved := ⟨g, unmoved⟩

/-- One that clears it knows no name. -/
theorem installRule_clears (mode : Mode) (directory : AList fun _ : String => SlotFile) :
    InstallRule mode directory true (fun _ g => ∀ name, g.entry name = .absent) fun _ => True where
  start := trivial
  stops _ _ _ _ := trivial
  reads w w' g _ loaded name := by
    rw [loaded.ledger, loaded.cleared rfl]
    rfl
  further _ _ _ absent _ _ _ := absent
  keeps _ _ _ := trivial

/-! ## Installing again -/

variable {config : PoolConfig}

/-- The slots that have an owner are those that showed a name, as they were. -/
structure FoundNames (directory directory' : AList fun _ : String => SlotFile) (g : Ledger) :
    Prop where
  owner : ∀ file name, g.owner file = some name ↔
    decoded directory file = some (.ok (some name))
  same : ∀ file name, g.owner file = some name →
    directory'.lookup file = directory.lookup file

theorem installRule_finds (mode : Mode) (directory : AList fun _ : String => SlotFile) :
    InstallRule mode directory false (FoundNames directory) fun _ => True where
  start := trivial
  stops _ _ _ _ := trivial
  reads w w' g same loaded := by
    subst same
    have owned (file name : String) : g.owner file = some name ↔
        w'.mapFilenameToFile.lookup name = some file := by
      rw [loaded.ledger, loadedLedger_owner, loaded.names]
    constructor
    · intro file name
      rw [owned]
      constructor
      · intro mapped
        have there := (loaded.names name file).mp mapped
        unfold decoded at there ⊢
        rw [← loaded.kept name file mapped]
        exact there
      · exact loaded.found rfl name file
    · intro file name owner
      exact loaded.kept name file ((owned file name).mp owner)
  further w g directory' kept rep loaded further := by
    obtain ⟨w₁, -, beyond, rfl⟩ := further
    refine ⟨kept.owner, ?_⟩
    intro file name owned
    rw [beyond.contents file (rep.held_of_owned loaded owned)]
    exact kept.same file name owned
  keeps _ _ _ := trivial

theorem Rep.mapped_iff (rep : Rep mode w g) (loaded : g.loaded = true)
    (healthy : w.needsRecovery = false) :
    w.mapFilenameToFile.lookup name = some file ↔ g.owner file = some name := by
  constructor
  · intro mapped
    exact (rep.mapped name file mapped).1
  · intro owned
    rcases rep.owned loaded file name owned with mapped | quarantined
    · exact mapped
    · have suspect := (rep.quarantined file quarantined).1
      rw [healthy] at suspect
      cases suspect

/-- Whatever the browser answers, the pool that an installation returns has the files of the
directory. -/
theorem InstalledFrom.finds {answers : Surroundings → Prop}
    (installed : InstalledFrom answers config directory name w)
    (keeping : config.clearOnInit = false) (other : String) (bytes : List UInt8) :
    w.imageOf other = some bytes ↔ ShelvesWith directory other bytes := by
  have rule := installRule_finds .lax directory
  rw [← keeping] at rule
  have lax (around : Surroundings) (_ : answers around) : around.Allowed .lax :=
    fun reply _ => reply.allowed_lax
  obtain ⟨g, installed, kept⟩ := rule.installed installed lax (by simp [Startable])
  have mapped (file : String) : w.mapFilenameToFile.lookup other = some file ↔
      decoded directory file = some (.ok (some other)) := by
    rw [installed.building.rep.mapped_iff installed.loaded installed.healthy, kept.owner]
  have same {file : String} (named : decoded directory file = some (.ok (some other))) :
      w.directory.lookup file = directory.lookup file :=
    kept.same file other ((kept.owner file other).mpr named)
  unfold World.imageOf
  constructor
  · intro image
    obtain ⟨file, there, image⟩ := Option.bind_eq_some_iff.mp image
    obtain ⟨content, found, data⟩ := Option.map_eq_some_iff.mp image
    have named := (mapped file).mp there
    rw [same named] at found
    obtain ⟨content', found', reading⟩ := decoded_eq_some.mp named
    rw [found] at found'
    cases found'
    exact ⟨file, content, found, readBack_ok.mpr reading, data⟩
  · rintro ⟨file, content, found, reading, rfl⟩
    have named := decoded_eq_some.mpr ⟨content, found, readBack_ok.mp reading⟩
    rw [(mapped file).mpr named, Option.bind_some, same named, found]
    rfl

/-- A pool that is installed on the directory of another one has the files of that one, except
those whose headers do not name them. -/
theorem reinstallation_keeps_files {s : System} {label : String} (arises : s.Arises)
    (active : s.world.state = .active) (healthy : s.world.needsRecovery = false)
    (again : InstalledFrom (fun _ => True) config s.world.directory label w)
    (keeping : config.clearOnInit = false) (name : String) :
    (Shelves s.world.directory name → w.imageOf name = s.world.imageOf name) ∧
      (¬ Shelves s.world.directory name → w.imageOf name = none) := by
  obtain ⟨g, good⟩ := arises.good
  have loaded := good.active_loaded active
  constructor
  · rintro ⟨file, content, found, reading⟩
    have finds : w.imageOf name = some (dataOf content.contents) :=
      (again.finds keeping name _).mpr ⟨file, content, found, reading, rfl⟩
    have named := decoded_eq_some.mpr ⟨content, found, readBack_ok.mp reading⟩
    have owned := (good.rep.disk good.known).owner_of_decoded named
    have mapped := (good.rep.mapped_iff loaded healthy).mpr owned
    rw [finds]
    unfold World.imageOf
    rw [mapped, Option.bind_some, found]
    rfl
  · intro missing
    rcases image : w.imageOf name with _ | bytes
    · rfl
    · obtain ⟨file, content, found, reading, -⟩ := (again.finds keeping name bytes).mp image
      exact absurd ⟨file, content, found, reading⟩ missing

def makingDatabase : Moment := ⟨untroubled, .openFile ⟨some "a.db", ⟨0x106⟩⟩⟩

def withDatabase : System := (System.run ⟨onePool, [], []⟩ makingDatabase).2

set_option maxRecDepth 100000 in
theorem reinstallation_keeps_files_made : ∃ w,
    InstalledFrom (fun _ => True) ⟨false, 1, false, 1⟩ withDatabase.world.directory "opfs" w ∧
      w.imageOf "a.db" = withDatabase.world.imageOf "a.db" := by
  have runs : Runs System.Step ⟨onePool, [], []⟩ [makingDatabase] withDatabase :=
    .single ⟨.ok (.opened .readWrite), rfl, by simp⟩
  have begun : Installation (fun _ => True) ⟨false, 1, false, 1⟩ withDatabase.world.directory
      "opfs" _ _ := .begin untroubled _ _ trivial rfl
  have root := Installation.poll _ _ untroubled _ _ begun trivial rfl
  have directory := Installation.poll _ _ untroubled _ _ root trivial rfl
  have lock := Installation.poll _ _ untroubled _ _ directory trivial rfl
  have lease := Installation.poll _ _ untroubled _ _ lock trivial rfl
  have slots := Installation.poll _ _ untroubled _ _ lease trivial rfl
  have acquiring := Installation.poll _ _ untroubled _ _ slots trivial rfl
  have listing := Installation.poll _ _ untroubled _ _ acquiring trivial rfl
  have installed := InstalledFrom.finish _ _ untroubled _ listing trivial rfl
  have kept := reinstallation_keeps_files (onePool_arises runs) rfl rfl installed rfl "a.db"
  refine ⟨_, installed, kept.1 ?_⟩
  exact ⟨onePool.availableFiles.headD "", _, rfl, by with_unfolding_all rfl⟩

end Sahpool

end SqliteVfs
