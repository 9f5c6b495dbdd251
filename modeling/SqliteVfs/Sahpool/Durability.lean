import SqliteVfs.Sahpool.AtRest

/-!
# What a crash finds

A session installs a pool on a directory and uses it; it is over while the installation waits, or
when it fails or is dropped, or between two events of the pool, or inside one.  After a crash the
directory holds each file that was there or was made, unless an event took it away, and none that
was taken away or cleared, unless an event made it again; what was synced has the same bytes.
-/

set_option autoImplicit false

namespace SqliteVfs

namespace Sahpool

variable {mode : Mode} {s s' s₀ : System} {w w' : World} {g g' : Ledger} {file name : String}
  {content : SlotFile} {moment : Moment} {bytes : List UInt8}
  {directory left : AList fun _ : String => SlotFile}

/-! ## Sessions -/

/-- The directory when a run is over: between two events, or inside the one that was cut off. -/
inductive System.Ended (s : System) : Option Event → (AList fun _ : String => SlotFile) → Prop
  | between : Ended s none s.world.directory
  | inside (moment : Moment) (s' : System) (allowed : moment.Allowed .strict)
      (run : s.run moment = (.halt .crash, s')) :
    Ended s (some moment.event) s'.world.directory

def System.Logs (s : System) (entry : System × Event) (s' : System) : Prop :=
  entry.1 = s ∧ ∃ moment : Moment, moment.event = entry.2 ∧ moment.Allowed .strict ∧
    s.Step moment s'

/-- A worker installs a pool on the directory without clearing it, uses the pool, and is gone.
The log lists the events, each with the state that it met. -/
inductive Session (directory : AList fun _ : String => SlotFile) :
    List (System × Event) → (AList fun _ : String => SlotFile) → Prop
  | waiting (answers : Surroundings → Prop) (config : PoolConfig) (name : String) (w : World)
      (installing : Installing) (keeping : config.clearOnInit = false)
      (allowed : ∀ around, answers around → around.Allowed .strict)
      (begun : Installation answers config directory name w installing) :
    Session directory [] w.directory
  | stopped (answers : Surroundings → Prop) (config : PoolConfig) (name : String) (w : World)
      (installing : Installing) (around : Surroundings)
      (outcome : Outcome OpfsSAHError (Poll Installing Unit)) (w' : World)
      (keeping : config.clearOnInit = false)
      (allowed : ∀ around, answers around → around.Allowed .strict)
      (begun : Installation answers config directory name w installing) (here : answers around)
      (run : (pollInstall installing).run (w.facing around) = (outcome, w'))
      (unfinished : ∀ polled, outcome ≠ .ok polled) : Session directory [] w'.directory
  | dropped (answers : Surroundings → Prop) (config : PoolConfig) (name : String) (w : World)
      (installing : Installing) (around : Surroundings)
      (outcome : Outcome OpfsSAHError Unit) (w' : World) (keeping : config.clearOnInit = false)
      (allowed : ∀ around, answers around → around.Allowed .strict)
      (begun : Installation answers config directory name w installing) (here : answers around)
      (run : (cancelInstall installing).run (w.facing around) = (outcome, w')) :
    Session directory [] w'.directory
  | used (answers : Surroundings → Prop) (config : PoolConfig) (name : String) (w : World)
      (log : List (System × Event)) (s : System) (cut : Option Event)
      (directory' : AList fun _ : String => SlotFile) (keeping : config.clearOnInit = false)
      (allowed : ∀ around, answers around → around.Allowed .strict)
      (installed : InstalledFrom answers config directory name w)
      (runs : Runs System.Logs ⟨w, [], []⟩ log s) (ended : s.Ended cut directory') :
    Session directory (log ++ cut.toList.map fun event => (s, event)) directory'

def Logged (what : System → Event → String → Prop) (log : List (System × Event)) (name : String) :
    Prop :=
  ∃ entry ∈ log, what entry.1 entry.2 name

theorem Logged.earlier {what : System → Event → String → Prop} {log log' : List (System × Event)}
    (logged : Logged what log name) : Logged what (log ++ log') name := by
  obtain ⟨entry, member, there⟩ := logged
  exact ⟨entry, List.mem_append_left _ member, there⟩

theorem Logged.later {what : System → Event → String → Prop} {log log' : List (System × Event)}
    (logged : Logged what log' name) : Logged what (log ++ log') name := by
  obtain ⟨entry, member, there⟩ := logged
  exact ⟨entry, List.mem_append_right _ member, there⟩

def Outlives (log : List (System × Event)) (directory : AList fun _ : String => SlotFile)
    (g : Ledger) (directory' : AList fun _ : String => SlotFile) (g' : Ledger) : Prop :=
  Survives .strict (Logged System.Removes log) (Logged System.Creates log)
    (Logged System.Changes log) directory g directory' g'

theorem Outlives.append {log log' : List (System × Event)}
    {directory' directory'' : AList fun _ : String => SlotFile} {g'' : Ledger}
    (first : Outlives log directory g directory' g')
    (second : Outlives log' directory' g' directory'' g'') :
    Outlives (log ++ log') directory g directory'' g'' :=
  (first.mono (fun _ => .earlier) (fun _ => .earlier) fun _ => .earlier).trans
    (second.mono (fun _ => .later) (fun _ => .later) fun _ => .later)

theorem Unmoved.outlives {log : List (System × Event)}
    {directory' : AList fun _ : String => SlotFile}
    (unmoved : Unmoved .strict directory g directory' g') :
    Outlives log directory g directory' g' :=
  Survives.mono unmoved (fun _ => False.elim) (fun _ => False.elim) fun _ => False.elim

theorem Survives.outlives {event : Event} {directory' : AList fun _ : String => SlotFile}
    (survives : Survives .strict (s.Removes event) (s.Creates event) (s.Changes event)
      directory g directory' g') : Outlives [(s, event)] directory g directory' g' := by
  have logged {what : System → Event → String → Prop} (name : String) (there : what s event name) :
      Logged what [(s, event)] name := ⟨_, List.mem_singleton.mpr rfl, there⟩
  exact survives.mono logged logged logged

theorem System.Ended.outlives {cut : Option Event} {directory' : AList fun _ : String => SlotFile}
    (ended : s.Ended cut directory') (good : Good .strict s g) :
    ∃ g', Outlives (cut.toList.map fun event => (s, event)) s.world.directory g directory' g' := by
  cases ended with
  | between => exact ⟨g, .of_same (good.rep.disk good.known) rfl rfl fun _ _ _ => rfl⟩
  | inside moment s' allowed run =>
      obtain ⟨g', survives⟩ := good.cut_off allowed (by decide) run
      exact ⟨g', survives.outlives⟩

theorem Good.outlives {log : List (System × Event)} (good : Good .strict s₀ g)
    (runs : Runs System.Logs s₀ log s) :
    ∃ g', Good .strict s g' ∧ Outlives log s₀.world.directory g s.world.directory g' := by
  induction runs with
  | refl => exact ⟨g, good, .of_same (good.rep.disk good.known) rfl rfl fun _ _ _ => rfl⟩
  | @snoc log s s' entry _ once ih =>
      obtain ⟨g₁, good₁, before⟩ := ih
      obtain ⟨rfl, moment, same, allowed, step⟩ := once
      obtain ⟨outcome, g₂, -, turned, good₂⟩ := good₁.step allowed step
      have survives := turned.survives good₁ (by decide)
      rw [same] at survives
      exact ⟨g₂, good₂, before.append survives.outlives⟩

/-- In a session nothing goes that no event takes away, and nothing comes that none brings. -/
theorem Session.outlives {log : List (System × Event)}
    {directory' : AList fun _ : String => SlotFile} (session : Session directory log directory')
    (rest : AtRest directory) :
    ∃ g', Outlives log directory (restLedger directory) directory' g' := by
  have rule := installRule_keeps rest.disk (by decide)
  have unspoiled {directory' : AList fun _ : String => SlotFile}
      (left : Unspoiled .strict directory (restLedger directory) directory') :
      ∃ g', Outlives [] directory (restLedger directory) directory' g' := by
    obtain ⟨g', unmoved⟩ := left
    exact ⟨g', unmoved.outlives⟩
  cases session with
  | waiting answers config name w installing keeping allowed begun =>
      rw [← keeping] at rule
      obtain ⟨installs, -⟩ := rule.installation begun allowed rest.startable
      exact unspoiled (rule.here installs)
  | stopped answers config name w installing around outcome w' keeping allowed begun here run
      unfinished =>
      rw [← keeping] at rule
      obtain ⟨installs, -⟩ := rule.installation begun allowed rest.startable
      have ends := rule.poll (installs.facing (allowed around here)) rest.startable
        (allowed around here)
      cases outcome with
      | ok polled => exact absurd rfl (unfinished polled)
      | err error => exact unspoiled (ends.err run)
      | halt why =>
          cases why with
          | panic => exact absurd run ends.noPanic
          | crash => exact unspoiled (ends.crash run)
  | dropped answers config name w installing around outcome w' keeping allowed begun here run =>
      rw [← keeping] at rule
      obtain ⟨installs, -⟩ := rule.installation begun allowed rest.startable
      have ends := rule.cancel (installs.facing (allowed around here))
      cases outcome with
      | ok _ => exact unspoiled (ends.ok run)
      | err error => exact (ends.err run).elim
      | halt why =>
          cases why with
          | panic => exact absurd run ends.noPanic
          | crash => exact unspoiled (ends.crash run)
  | used answers config name w log s cut _ keeping allowed installed runs ended =>
      rw [← keeping] at rule
      obtain ⟨g, installed, unmoved⟩ := rule.installed installed allowed rest.startable
      obtain ⟨g₁, good, outlives⟩ := installed.good.outlives runs
      obtain ⟨g₂, last⟩ := ended.outlives good
      have start : Outlives log directory (restLedger directory) w.directory g := unmoved.outlives
      have run : Outlives log directory (restLedger directory) s.world.directory g₁ :=
        Survives.trans start outlives
      exact ⟨g₂, run.append last⟩

def Crashing (directory : AList fun _ : String => SlotFile) (log : List (System × Event))
    (left : AList fun _ : String => SlotFile) : Prop :=
  ∃ directory', Session directory log directory' ∧ Crashed directory' left

structure Retains (log : List (System × Event))
    (directory left : AList fun _ : String => SlotFile) : Prop where
  kept : ∀ name, Shelves directory name → ¬ Logged System.Removes log name → Shelves left name
  missing : ∀ name, ¬ Shelves directory name → ¬ Logged System.Creates log name →
    ¬ Shelves left name
  bytes : ∀ name bytes, ShelvesWith directory name bytes → ¬ Logged System.Removes log name →
    ¬ Logged System.Changes log name → ShelvesWith left name bytes

theorem Retains.trans {log log' : List (System × Event)}
    {middle : AList fun _ : String => SlotFile} (first : Retains log directory middle)
    (second : Retains log' middle left) : Retains (log ++ log') directory left where
  kept name shelved unremoved := by
    apply second.kept name _ fun removed => unremoved removed.later
    exact first.kept name shelved fun removed => unremoved removed.earlier
  missing name missing uncreated := by
    apply second.missing name _ fun created => uncreated created.later
    exact first.missing name missing fun created => uncreated created.earlier
  bytes name bytes stored unremoved unchanged := by
    apply second.bytes name bytes _ (fun removed => unremoved removed.later) fun changed =>
      unchanged changed.later
    exact first.bytes name bytes stored (fun removed => unremoved removed.earlier) fun changed =>
      unchanged changed.earlier

theorem Crashing.retains {log : List (System × Event)} (crashing : Crashing directory log left)
    (rest : AtRest directory) : AtRest left ∧ Retains log directory left := by
  obtain ⟨directory', session, crashed⟩ := crashing
  obtain ⟨g', outlives⟩ := session.outlives rest
  refine ⟨outlives.disk.atRest crashed, ?_, ?_, ?_⟩
  · intro name shelved unremoved
    obtain ⟨data, present⟩ := rest.shelved shelved
    obtain ⟨durable', data', present', lasts⟩ := outlives.kept name true data present unremoved
    rw [lasts rfl] at present'
    exact outlives.disk.shelves crashed present'
  · intro name missing uncreated
    exact outlives.disk.not_shelves crashed
      (outlives.absent name (restLedger_absent missing) uncreated)
  · rintro name _ ⟨file, content, found, reading, rfl⟩ unremoved unchanged
    obtain ⟨contents, rfl⟩ := rest.settled file content found
    have reads := readBack_ok.mp reading
    have owned := restLedger_owner.mpr (decoded_eq_some.mpr ⟨_, found, reads⟩)
    obtain ⟨-, same⟩ := outlives.slots name file _ true _ (rest.entry_eq found reads) owned found
      unremoved unchanged
    have there : directory'.lookup file = some (Journal.settled contents) := same.elim id id
    exact ⟨file, _, crashed.settled there, reading, rfl⟩

/-- Whatever crashes come between sessions or inside them, a directory stays readable; files that
no event takes away stay, with their bytes where no event changes them, and no others come. -/
theorem sessions_retain_files {logs : List (List (System × Event))} (rest : AtRest directory)
    (sessions : Runs Crashing directory logs left) :
    AtRest left ∧ Retains logs.flatten directory left := by
  induction sessions with
  | refl => exact ⟨rest, fun _ shelved _ => shelved, fun _ missing _ => missing,
      fun _ _ stored _ _ => stored⟩
  | @snoc logs middle last log _ crashing ih =>
      obtain ⟨rest', first⟩ := ih
      obtain ⟨rest'', second⟩ := crashing.retains rest'
      refine ⟨rest'', ?_⟩
      rw [List.flatten_append, List.flatten_singleton]
      exact first.trans second

theorem atRest_empty : AtRest ∅ := by
  have nothing (file : String) (content : SlotFile) :
      (∅ : AList fun _ : String => SlotFile).lookup file ≠ some content := by
    rw [AList.lookup_empty]
    simp
  constructor
  · constructor
    · intro file content found
      exact absurd found (nothing file content)
    · intro name file other content content' found
      exact absurd found (nothing file content)
  · intro file content found
    exact absurd found (nothing file content)

theorem untroubled_strict (around : Surroundings) (same : around = untroubled) :
    around.Allowed .strict := by
  subst same
  intro reply member
  cases member

theorem makingDatabase_allowed : makingDatabase.Allowed .strict :=
  opening_allowed ⟨by decide, by decide⟩

set_option maxRecDepth 20000 in
theorem sessions_retain_files_made : ∃ left,
    Runs Crashing ∅ [[(⟨onePool, [], []⟩, makingDatabase.event)], []] left ∧ AtRest left ∧
      Retains [(⟨onePool, [], []⟩, makingDatabase.event)] ∅ left := by
  have runs : Runs System.Logs ⟨onePool, [], []⟩
      [(⟨onePool, [], []⟩, makingDatabase.event)] _ :=
    .single ⟨rfl, makingDatabase, rfl, makingDatabase_allowed, .ok (.opened .readWrite), rfl,
      by simp⟩
  have used : Session ∅ [(⟨onePool, [], []⟩, makingDatabase.event)] _ :=
    .used _ _ _ _ _ _ none _ rfl untroubled_strict onePool_installed runs .between
  -- The next installation is still waiting for its first answer when its worker is gone.
  have waiting (directory : AList fun _ : String => SlotFile) : Session directory [] directory :=
    .waiting (fun around => around = untroubled) ⟨false, 1, false, 1⟩ "opfs" _ _ rfl
      untroubled_strict (.begin untroubled _ _ rfl rfl)
  have first : Runs Crashing ∅ [[(⟨onePool, [], []⟩, makingDatabase.event)]] _ :=
    .single ⟨_, used, crashed_flushAll _⟩
  have sessions : Runs Crashing ∅ [[(⟨onePool, [], []⟩, makingDatabase.event)], []] _ :=
    first.snoc ⟨_, waiting _, crashed_flushAll _⟩
  exact ⟨_, sessions, sessions_retain_files atRest_empty sessions⟩

/-! ## Clearing -/

/-- An installation that clears the directory forgets all that it held, readable or not: no crash
brings a name back that no event has made. -/
theorem clearing_forgets {answers : Surroundings → Prop} {config : PoolConfig} {label : String}
    {log : List (System × Event)} {cut : Option Event}
    {directory' : AList fun _ : String => SlotFile} (startable : Startable .strict directory)
    (clearing : config.clearOnInit = true)
    (allowed : ∀ around, answers around → around.Allowed .strict)
    (installed : InstalledFrom answers config directory label w)
    (runs : Runs System.Logs ⟨w, [], []⟩ log s) (ended : s.Ended cut directory')
    (crashed : Crashed directory' left) :
    AtRest left ∧ ∀ name,
      ¬ Logged System.Creates (log ++ cut.toList.map fun event => (s, event)) name →
      ¬ Shelves left name := by
  have rule := installRule_clears .strict directory
  rw [← clearing] at rule
  obtain ⟨g, installed, absent⟩ := rule.installed installed allowed startable
  obtain ⟨g₁, good, before⟩ := installed.good.outlives runs
  obtain ⟨g₂, last⟩ := ended.outlives good
  have outlives := before.append last
  refine ⟨outlives.disk.atRest crashed, ?_⟩
  intro name uncreated
  exact outlives.disk.not_shelves crashed (outlives.absent name (absent name) uncreated)

def tornDirectory : AList fun _ : String => SlotFile :=
  AList.insert "slot" (Journal.settled [1, 2, 3]) ∅

set_option maxRecDepth 100000 in
theorem clearing_forgets_torn : ∃ w left,
    InstalledFrom (fun around => around = untroubled) ⟨true, 1, false, 1⟩ tornDirectory "opfs" w ∧
      ∀ name, ¬ Shelves left name := by
  have begun : Installation (fun around => around = untroubled) ⟨true, 1, false, 1⟩ tornDirectory
      "opfs" _ _ := .begin untroubled _ _ rfl rfl
  have root := Installation.poll _ _ untroubled _ _ begun rfl rfl
  have directory := Installation.poll _ _ untroubled _ _ root rfl rfl
  have lock := Installation.poll _ _ untroubled _ _ directory rfl rfl
  have lease := Installation.poll _ _ untroubled _ _ lock rfl rfl
  have slots := Installation.poll _ _ untroubled _ _ lease rfl rfl
  have acquiring := Installation.poll _ _ untroubled _ _ slots rfl rfl
  have listing := Installation.poll _ _ untroubled _ _ acquiring rfl rfl
  have installed := InstalledFrom.finish _ _ untroubled _ listing rfl rfl
  have startable : Startable .strict tornDirectory := by
    intro _ file content found
    by_cases same : file = "slot"
    · subst same
      rw [tornDirectory, AList.lookup_insert] at found
      exact ⟨_, (Option.some.inj found).symm⟩
    · rw [tornDirectory, AList.lookup_insert_ne same, AList.lookup_empty] at found
      cases found
  obtain ⟨-, forgotten⟩ := clearing_forgets startable rfl untroubled_strict installed .refl .between
    (crashed_flushAll _)
  refine ⟨_, _, installed, fun name => forgotten name ?_⟩
  rintro ⟨entry, member, -⟩
  cases member

/-! ## What a call reports -/

/-- The event can have made a file of this name that is to be kept. -/
structure System.Makes (s : System) (event : Event) (name : String) (s' : System) : Prop where
  fresh : name ∉ s.world.mapFilenameToFile
  made : name ∈ s'.world.mapFilenameToFile
  event : (∃ i, event = .commit i) ∨
    ∃ request, event = .openFile request ∧ ¬ DeleteOnClose request.options.rawFlags

inductive System.Syncs (s : System) (name : String) : Event → System → Prop
  | sync (i : Nat) (f : VfsFile) (s' : System) (there : s.files[i]? = some f)
      (named : f.opened = some name) : Syncs s name (.call i .sync) s'
  | commit (i : Nat) (s' : System) (fresh : name ∉ s.world.mapFilenameToFile)
      (made : name ∈ s'.world.mapFilenameToFile) : Syncs s name (.commit i) s'

theorem eq_of_mem_insert {map : AList fun _ : String => String} {other : String}
    (member : name ∈ map.insert other file) (fresh : name ∉ map) : name = other := by
  rcases (AList.mem_insert _).mp member with same | before
  · exact same
  · exact absurd before fresh

theorem Turn.commits {i : Nat} {answer : Answer}
    (turn : Turn .strict s g (.commit i) (.ok answer) s' g')
    (fresh : name ∉ s.world.mapFilenameToFile) (made : name ∈ s'.world.mapFilenameToFile) :
    ∃ file data w', s'.world = { w' with busy := false } ∧
      Committed name file data s.world w' g' := by
  cases turn with
  | idle _ nothing => exact absurd made fresh
  | looked _ _ w' query looked rep => exact query.elim
  | deleted _ _ _ _ _ deletes => simp [Event.Deletes] at deletes
  | committed i file filename data w' _ there importing evolves result first =>
      have made' : name ∈ s.world.mapFilenameToFile.insert filename file := by
        rw [← result.names]
        exact made
      obtain rfl := eq_of_mem_insert made' fresh
      exact ⟨file, data, w', rfl, result⟩
  | unimported _ j _ file filename data w' _ ends there importing evolves result failed =>
      obtain rfl : i = j := by simpa [Event.EndsImport] using ends
      obtain ⟨error, impossible⟩ := failed rfl
      cases impossible
  | growing _ _ _ _ resizes | grown _ _ _ _ resizes | shrinking _ _ _ _ _ _ resizes
  | shrunk _ _ _ _ _ _ resizes => cases resizes
  | givenUp _ w _ w' stopping resizable result ended answered =>
      simp at answered
  | unresumed _ j _ resuming w' _ stops there suspended result ended failed => simp at stops

theorem Turn.makes_open {request : OpenRequest} {answer : Answer}
    (turn : Turn .strict s g (.openFile request) (.ok answer) s' g')
    (fresh : name ∉ s.world.mapFilenameToFile) (made : name ∈ s'.world.mapFilenameToFile)
    (kept : ¬ DeleteOnClose request.options.rawFlags) :
    ∃ data, g'.entry name = .present false true data := by
  cases turn with
  | idle _ nothing => exact absurd made fresh
  | looked _ _ w' query looked rep => exact query.elim
  | deleted _ _ _ _ _ deletes => simp [Event.Deletes] at deletes
  | opened request opened w₁ _ other file evolves result =>
      have made' : name ∈ w₁.mapFilenameToFile := made
      rcases result.existing with ⟨-, same, -⟩ | ⟨-, w₀, consulted, created⟩
      · rw [same] at made'
        exact absurd made' fresh
      · obtain ⟨env, rfl⟩ := consulted.eq
        obtain ⟨rest, file, content, -, -, names, -⟩ := created.slot
        rw [names] at made'
        have entry := created.entry
        rw [eq_of_mem_insert made' fresh, entry, decide_eq_false kept]
        exact ⟨[], rfl⟩
  | unimported _ j _ file filename data w' _ ends there importing evolves result failed =>
      simp [Event.EndsImport] at ends
  | growing _ _ _ _ resizes | grown _ _ _ _ resizes | shrinking _ _ _ _ _ _ resizes
  | shrunk _ _ _ _ _ _ resizes => cases resizes
  | givenUp _ w _ w' stopping resizable result ended answered => simp at answered
  | unresumed _ j _ resuming w' _ stops there suspended result ended failed => simp at stops

theorem Turn.takes_deleted {event : Event} {answer : Answer}
    (turn : Turn .strict s g event (.ok answer) s' g') (deletes : event.Deletes name) :
    g'.entry name = .absent := by
  cases turn with
  | idle _ nothing => rcases deletes with rfl | rfl <;> exact nothing.elim
  | looked _ _ w' query looked rep => rcases deletes with rfl | rfl <;> exact query.elim
  | deleted _ other _ w' _ deletes' evolves result =>
      obtain rfl : other = name := by
        rcases deletes with rfl | rfl <;> simpa [Event.Deletes, eq_comm] using deletes'
      exact result.absent
  | unimported _ j _ file filename data w' _ ends =>
      rcases deletes with rfl | rfl <;> simp [Event.EndsImport] at ends
  | growing _ _ _ _ resizes | grown _ _ _ _ resizes | shrinking _ _ _ _ _ _ resizes
  | shrunk _ _ _ _ _ _ resizes => cases resizes <;> simp [Event.Deletes] at deletes
  | givenUp _ w _ w' stopping resizable result ended answered =>
      rcases deletes with rfl | rfl <;> simp at answered
  | unresumed _ j _ resuming w' _ stops =>
      rcases stops with rfl | rfl <;> simp [Event.Deletes] at deletes
  | _ => simp [Event.Deletes] at deletes

theorem Turn.takes_closed {i : Nat} {answer : Answer} {f : VfsFile}
    (turn : Turn .strict s g (.closeFile i) (.ok answer) s' g') (there : s.files[i]? = some f)
    (named : f.opened = some name) (deletes : f.options.deleteOnClose = true) :
    g'.entry name = .absent := by
  cases turn with
  | idle _ nothing =>
      rw [show s.files[i]? = none from nothing] at there
      cases there
  | looked _ _ w' query looked rep => exact query.elim
  | deleted _ _ _ _ _ deletes => simp [Event.Deletes] at deletes
  | closed _ f' other _ w₁ w' _ there' named' mapped flushed evolves result done answered =>
      rw [there] at there'
      cases there'
      rw [named] at named'
      cases named'
      obtain rfl : answer = .done := by simpa using answered
      rcases done rfl with ⟨keeps, -⟩ | ⟨-, deleted⟩
      · rw [deletes] at keeps
        cases keeps
      · exact deleted.absent
  | unimported _ j _ file filename data w' _ ends => simp [Event.EndsImport] at ends
  | growing _ _ _ _ resizes | grown _ _ _ _ resizes | shrinking _ _ _ _ _ _ resizes
  | shrunk _ _ _ _ _ _ resizes => cases resizes
  | givenUp _ w _ w' stopping resizable result ended answered => simp at answered
  | unresumed _ j _ resuming w' _ stops => simp at stops

theorem Turn.takes_cleared {answer : Answer} (turn : Turn .strict s g .clear (.ok answer) s' g') :
    g'.entry name = .absent := by
  cases turn with
  | idle _ nothing => exact nothing.elim
  | looked _ _ w' query => exact query.elim
  | deleted _ _ _ _ _ deletes => simp [Event.Deletes] at deletes
  | unimported _ j _ file filename data w' _ ends => simp [Event.EndsImport] at ends
  | growing _ _ _ _ resizes | grown _ _ _ _ resizes | shrinking _ _ _ _ _ _ resizes
  | shrunk _ _ _ _ _ _ resizes => cases resizes
  | givenUp _ w _ w' stopping resizable result ended answered => simp at answered
  | unresumed _ j _ resuming w' _ stops => simp at stops
  | cleared w' _ evolves clearable result => exact result.entries name

theorem Turn.takes {event : Event} {answer : Answer}
    (turn : Turn .strict s g event (.ok answer) s' g') (removes : s.Removes event name) :
    g'.entry name = .absent := by
  cases event with
  | deleteFile other =>
      obtain rfl : name = other := removes
      exact turn.takes_deleted (.inl rfl)
  | remove other =>
      obtain rfl : name = other := removes
      exact turn.takes_deleted (.inr rfl)
  | closeFile i =>
      obtain ⟨f, there, named, deletes⟩ := removes
      exact turn.takes_closed there named deletes
  | clear => exact turn.takes_cleared
  | _ => exact removes.elim

theorem System.Makes.durable {event : Event} {answer : Answer} (makes : s.Makes event name s')
    (turn : Turn .strict s g event (.ok answer) s' g') :
    ∃ data, g'.entry name = .present false true data := by
  rcases makes.event with ⟨i, rfl⟩ | ⟨request, rfl, kept⟩
  · obtain ⟨file, data, w', -, result⟩ := turn.commits makes.fresh makes.made
    exact ⟨data, result.entry⟩
  · exact turn.makes_open makes.fresh makes.made kept

/-! ### Flushed slots -/

theorem sync_flushes {self : SyncAccessFileHandle}
    (found : w.directory.lookup self.file = some content) :
    Prog.Ends (SlotRequest.program (.sync self)) w
      (fun _ w' => w'.directory.lookup self.file = some content.flush) (fun _ _ => True)
      fun _ => True := by
  have flushes : Does .lax SyncAccessFile.flush ⟨content, w.env.replies⟩
      (fun _ file => file = content.flush) fun _ => True :=
    (flush_does (lax_replies _)).mono (fun _ _ flushed => flushed) fun _ _ => trivial
  have flushed : Prog.Ends self.sync w
      (fun _ w' => w'.directory.lookup self.file = some content.flush) (fun _ _ => True)
      fun _ => True := by
    apply Prog.Ends.mapErr
    refine (onSlot_ends found flushes).mono ?_ (fun _ _ _ => trivial) fun _ _ => trivial
    rintro _ w' ⟨content', replies, -, rfl, rfl⟩
    exact AList.lookup_insert _
  exact Prog.Ends.bind (Prog.Ends.mapErr flushed) fun _ w' there => Prog.Ends.pure there

theorem call_sync_ends {i : Nat} {f : VfsFile} (there : s.files[i]? = some f)
    (found : s.world.directory.lookup f.handle.file = some content) :
    Prog.Ends (Event.program (.call i .sync)) s
      (fun _ s' => s'.files = s.files ∧
        s'.world.directory.lookup f.handle.file = some content.flush)
      (fun _ _ => True) fun _ => True := by
  apply Prog.Ends.get_bind
  rw [there]
  apply onWorld_bind (sync_flushes found)
  · intro _ w' flushed
    exact Prog.Ends.pure ⟨rfl, flushed⟩
  · exact fun _ _ _ => trivial

/-- The file is sure, and nothing of it waits to be flushed. -/
theorem Good.synced {moment : Moment} {answer : Answer} (good : Good .strict s g)
    (run : s.run moment = (.ok answer, s')) (turned : Turned .strict s g moment (.ok answer) s' g')
    (good' : Good .strict s' g') (syncs : s.Syncs name moment.event s') :
    ∃ file contents, g'.owner file = some name ∧
      s'.world.directory.lookup file = some (Journal.settled contents) ∧
      ∃ temporary durable data, g'.entry name = .present temporary durable data := by
  obtain ⟨around, event⟩ := moment
  dsimp only at syncs
  cases syncs with
  | sync i f _ there named =>
      obtain ⟨other, named', mapped⟩ := good.live f (List.mem_of_getElem? there)
      obtain ⟨content, found, -⟩ := good.rep.content_of_mapped mapped
      obtain ⟨next, ran, rfl⟩ := System.ran run
      obtain ⟨files, flushed⟩ := (call_sync_ends (s := s.facing around) there found).ok ran
      have member : f ∈ next.files := by
        rw [files]
        exact List.mem_of_getElem? there
      obtain ⟨name', named'', mapped'⟩ := good'.live f member
      rw [named] at named''
      cases named''
      exact ⟨f.handle.file, _, (good'.rep.mapped _ _ mapped').1, flushed,
        good'.rep.opened _ _ mapped' (good'.inUse member)⟩
  | commit i _ fresh made =>
      obtain ⟨around', s₂, allowed, -, turn, rfl⟩ := turned
      obtain ⟨file, data, w', same, result⟩ := turn.commits fresh made
      obtain ⟨contents, settled⟩ := result.settled
      have mapped : s₂.silenced.world.mapFilenameToFile.lookup name = some file := by
        change s₂.world.mapFilenameToFile.lookup name = some file
        rw [same]
        change w'.mapFilenameToFile.lookup name = some file
        rw [result.names]
        exact AList.lookup_insert _
      refine ⟨file, contents, (good'.rep.mapped name file mapped).1, ?_, _, _, _, result.entry⟩
      change s₂.world.directory.lookup file = some (Journal.settled contents)
      rw [same]
      exact settled

/-! ### After a crash -/

/-- What the event has reported holds of what a crash leaves, unless a later event undoes it. -/
structure Reports (s : System) (event : Event) (s' : System) (later : List (System × Event))
    (left : AList fun _ : String => SlotFile) : Prop where
  made : ∀ name, s.Makes event name s' → ¬ Logged System.Removes later name → Shelves left name
  taken : ∀ name, s.Removes event name → ¬ Logged System.Creates later name → ¬ Shelves left name
  synced : ∀ name bytes, s.Syncs name event s' → ShelvesWith s'.world.directory name bytes →
    ¬ Logged System.Removes later name → ¬ Logged System.Changes later name →
    ShelvesWith left name bytes

/-- A file whose slot is settled is found after a crash as it is. -/
theorem Outlives.shelvesWith {log : List (System × Event)}
    {directory' : AList fun _ : String => SlotFile} {contents : List UInt8}
    (outlives : Outlives log directory g directory' g') (disk : Disk .strict directory g)
    (crashed : Crashed directory' left) (owned : g.owner file = some name)
    (settled : directory.lookup file = some (Journal.settled contents))
    (present : ∃ temporary durable data, g.entry name = .present temporary durable data)
    (shelved : ShelvesWith directory name bytes) (unremoved : ¬ Logged System.Removes log name)
    (unchanged : ¬ Logged System.Changes log name) : ShelvesWith left name bytes := by
  obtain ⟨other, content, found, reading, rfl⟩ := shelved
  have named := decoded_eq_some.mpr ⟨content, found, readBack_ok.mp reading⟩
  obtain rfl := disk.injective other file name (disk.owner_of_decoded named) owned
  rw [settled] at found
  cases found
  obtain ⟨temporary, durable, data, present⟩ := present
  obtain ⟨content', found', reading', holds⟩ := disk.matches_of_decoded named
  rw [present] at holds
  have classified : Mode.strict ≠ .lax := by decide
  have there := Named.stored_eq holds classified
  rw [reading'] at there
  cases temporary with
  | true => cases there
  | false =>
      obtain ⟨-, same⟩ := outlives.slots name other _ durable data present owned settled unremoved
        unchanged
      have here : directory'.lookup other = some (Journal.settled contents) := same.elim id id
      exact ⟨other, _, crashed.settled here, reading, rfl⟩

/-- A call that returned has told the truth about what a crash will leave: a file that it made is
there, one that it took away is not, and one that it synced has its bytes, as long as no later
event undoes it. -/
theorem crash_keeps_reported {s₁ : System} {moment : Moment} {answer : Answer}
    {log : List (System × Event)} {cut : Option Event} (reached : Reachable .strict s₀)
    (allowed : moment.Allowed .strict) (run : s₀.run moment = (.ok answer, s₁))
    (runs : Runs System.Logs s₁ log s) (ended : s.Ended cut directory)
    (crashed : Crashed directory left) :
    AtRest left ∧
      Reports s₀ moment.event s₁ (log ++ cut.toList.map fun event => (s, event)) left := by
  obtain ⟨g, good⟩ := reached.good
  have step : s₀.Step moment s₁ := ⟨_, run, by simp⟩
  obtain ⟨outcome, g₁, run', turned, good₁⟩ := good.step allowed step
  rw [run] at run'
  cases run'
  obtain ⟨g₂, good₂, before⟩ := good₁.outlives runs
  obtain ⟨g₃, last⟩ := ended.outlives good₂
  have outlives := before.append last
  have whole := turned
  obtain ⟨around, s₂, -, -, turn, same⟩ := turned
  refine ⟨outlives.disk.atRest crashed, ?_, ?_, ?_⟩
  · intro name makes unremoved
    have makes' : (s₀.facing around).Makes moment.event name s₂ := by
      rw [same] at makes
      exact ⟨makes.fresh, makes.made, makes.event⟩
    obtain ⟨data, durable⟩ := makes'.durable turn
    obtain ⟨durable', data', present', lasts⟩ := outlives.kept name true data durable unremoved
    rw [lasts rfl] at present'
    exact outlives.disk.shelves crashed present'
  · intro name removes uncreated
    have absent : g₁.entry name = .absent := turn.takes removes
    exact outlives.disk.not_shelves crashed (outlives.absent name absent uncreated)
  · intro name bytes syncs shelved unremoved unchanged
    obtain ⟨file, contents, owned, settled, present⟩ := good.synced run whole good₁ syncs
    exact outlives.shelvesWith (good₁.rep.disk good₁.known) crashed owned settled present shelved
      unremoved unchanged

set_option maxRecDepth 20000 in
theorem crash_keeps_reported_made : ∃ s₁ left,
    Reports ⟨onePool, [], []⟩ makingDatabase.event s₁ [] left ∧ Shelves left "a.db" := by
  have reached : Reachable .strict ⟨onePool, [], []⟩ := by
    apply onePool_reaches _ .refl
    intro moment member
    cases member
  obtain ⟨-, reports⟩ := crash_keeps_reported reached makingDatabase_allowed
    (show System.run _ _ = (.ok (.opened .readWrite), _) from rfl) .refl .between
    (crashed_flushAll _)
  refine ⟨_, _, reports, reports.made "a.db" ⟨?_, ?_, ?_⟩ ?_⟩
  · exact AList.notMem_empty _
  · exact AList.lookup_isSome.mp rfl
  · exact .inr ⟨_, rfl, by decide⟩
  · rintro ⟨entry, member, -⟩
    cases member

end Sahpool

end SqliteVfs
