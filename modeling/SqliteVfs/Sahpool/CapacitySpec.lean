import SqliteVfs.Sahpool.TransfersSpec

/-!
# Growing and shrinking

What the futures of `add_capacity` and `reduce_capacity` do from one await to the next.
They work on files that the pool does not hold: the slots to be added before they are
published, and the slot to be removed after it was popped.
-/

set_option autoImplicit false

namespace SqliteVfs

namespace Sahpool

variable {mode : Mode} {w w' w'' : World} {g g' : Ledger} {file name : String}
  {content content' : SlotFile} {ε ε' α β τ : Type}

/-! ## Files that the pool does not hold -/

theorem Rep.unowned (rep : Rep mode w g) (loaded : g.loaded = true) (apart : file ∉ w.held) :
    g.owner file = none := by
  rcases owned : g.owner file with _ | name
  · rfl
  · rcases rep.owned loaded file name owned with mapped | lost
    · exact absurd (mem_held_mapped mapped) apart
    · exact absurd (mem_held_quarantined lost) apart

theorem Rep.outside (rep : Rep mode w g) (loaded : g.loaded = true) (apart : file ∉ w.held)
    (blank : Blank mode content) (nameless : stored content.contents = .ok none) :
    Rep mode { w with directory := w.directory.insert file content } g where
  allowed := rep.allowed
  disk known := (rep.disk known).blank (rep.unowned loaded apart) blank
  unknown := rep.unknown
  unloaded := rep.unloaded
  nodup := rep.nodup
  mapped := rep.mapped
  owned := rep.owned
  available other member := ⟨(rep.available other member).1, rep.available_insert member
    fun same => apart (same ▸ mem_held_available member)⟩
  guarded := rep.guarded
  staged other data staging := by
    have member := List.mem_of_getLast? (rep.staged other data staging).1
    exact rep.staged_insert staging fun same => apart (same ▸ mem_held_available member)
  quarantined other member := by
    obtain ⟨suspect, present, unsure⟩ := rep.quarantined other member
    exact ⟨suspect, Rep.mem_directory_insert present, unsure⟩
  healthy := rep.healthy
  opened := rep.opened
  readable := rep.readable_insert (fun _ _ unowned calm => ⟨unowned, calm⟩) fun _ _ => nameless

theorem Rep.withdraw (rep : Rep mode w g) (loaded : g.loaded = true) (apart : file ∉ w.held) :
    Rep mode { w with directory := w.directory.erase file } g where
  allowed := rep.allowed
  disk known := (rep.disk known).erase (rep.unowned loaded apart)
  unknown := rep.unknown
  unloaded := rep.unloaded
  nodup := rep.nodup
  mapped := rep.mapped
  owned := rep.owned
  available other member := by
    obtain ⟨unowned, content, found, state⟩ := rep.available other member
    have different : other ≠ file := fun same => apart (same ▸ mem_held_available member)
    exact ⟨unowned, content, (AList.lookup_erase_ne different).trans found, state⟩
  guarded := rep.guarded
  staged other data staging := by
    obtain ⟨top, content, found, staged⟩ := rep.staged other data staging
    have member := List.mem_of_getLast? top
    have different : other ≠ file := fun same => apart (same ▸ mem_held_available member)
    exact ⟨top, content, (AList.lookup_erase_ne different).trans found, staged⟩
  quarantined other member := by
    obtain ⟨suspect, present, unsure⟩ := rep.quarantined other member
    have different : other ≠ file := fun same => apart (same ▸ mem_held_quarantined member)
    exact ⟨suspect, AList.mem_erase.mpr ⟨different, present⟩, unsure⟩
  healthy := rep.healthy
  opened := rep.opened
  readable loaded other content found unowned calm := by
    by_cases same : other = file
    · subst same
      rw [AList.lookup_erase] at found
      exact nomatch found
    · rw [AList.lookup_erase_ne same] at found
      exact rep.readable loaded other content found unowned calm

/-- The pool is as it was, and so are the slots it holds. -/
structure World.Beyond (w w' : World) : Prop where
  still : w.Still w'
  settings : SameSettings w w'
  contents : ∀ file ∈ w.held, w'.directory.lookup file = w.directory.lookup file

theorem World.Still.held (still : w.Still w') : w'.held = w.held := by
  unfold World.held
  rw [still.available, still.names, still.quarantined]

namespace World.Beyond

theorem refl (w : World) : w.Beyond w := ⟨.refl w, .refl w, fun _ _ => rfl⟩

theorem trans (first : w.Beyond w') (second : w'.Beyond w'') : w.Beyond w'' where
  still := first.still.trans second.still
  settings := first.settings.trans second.settings
  contents file member := by
    have member' : file ∈ w'.held := first.still.held ▸ member
    exact (second.contents file member').trans (first.contents file member)

theorem insert (apart : file ∉ w.held) (env : Env) (content : SlotFile) :
    w.Beyond { w with env, directory := w.directory.insert file content } where
  still := ⟨rfl, rfl, rfl, rfl⟩
  settings := .slots w _ _ _ _ _ _
  contents _ member := AList.lookup_insert_ne fun same => apart (same ▸ member)

theorem erase (apart : file ∉ w.held) (env : Env) :
    w.Beyond { w with env, directory := w.directory.erase file } where
  still := ⟨rfl, rfl, rfl, rfl⟩
  settings := .slots w _ _ _ _ _ _
  contents _ member := AList.lookup_erase_ne fun same => apart (same ▸ member)

theorem asked (w : World) (env : Env) : w.Beyond { w with env } :=
  ⟨⟨rfl, rfl, rfl, rfl⟩, .slots w _ _ _ _ _ _, fun _ _ => rfl⟩

end World.Beyond

/-! ## Awaited calls -/

theorem directoryCall_ends (effect : World → World)
    (allowed : ∀ reply ∈ w.env.replies, Reply.Allowed mode reply) :
    Prog.Ends (directoryCall effect) w
      (fun _ w' => ∃ env : Env, (∀ reply ∈ env.replies, Reply.Allowed mode reply) ∧
        w' = effect { w with env })
      (fun _ w' => mode ≠ .quiet ∧ ∃ env : Env, (∀ reply ∈ env.replies, Reply.Allowed mode reply) ∧
        (w' = { w with env } ∨ w' = effect { w with env }))
      fun w' => ∃ env : Env, (∀ reply ∈ env.replies, Reply.Allowed mode reply) ∧
        (w' = { w with env } ∨ w' = effect { w with env }) := by
  unfold Prog.Ends Prog.wp directoryCall
  dsimp only
  rcases replies : w.env.replies with _ | ⟨reply, rest⟩
  · exact ⟨w.env, allowed, rfl⟩
  rw [replies] at allowed
  have allowed' : ∀ reply ∈ rest, Reply.Allowed mode reply :=
    fun reply member => allowed reply (List.mem_cons_of_mem _ member)
  have here := allowed reply List.mem_cons_self
  cases reply with
  | done => exact ⟨{ w.env with replies := rest }, allowed', rfl⟩
  | short _ => exact ⟨{ w.env with replies := rest }, allowed', rfl⟩
  | thrown error landed =>
      refine ⟨here.1, { w.env with replies := rest }, allowed', ?_⟩
      by_cases nothing : landed = .nothing
      · exact .inl (if_pos nothing)
      · exact .inr (if_neg nothing)
  | crash landed =>
      refine ⟨{ w.env with replies := rest }, allowed', ?_⟩
      by_cases nothing : landed = .nothing
      · exact .inl (if_pos nothing)
      · exact .inr (if_neg nothing)

theorem awaited_ends (f : JsValue → ε) (effect : World → World)
    (allowed : ∀ reply ∈ w.env.replies, Reply.Allowed mode reply) :
    Prog.Ends (Prog.mapErr f (directoryCall effect)) w
      (fun _ w' => ∃ env : Env, (∀ reply ∈ env.replies, Reply.Allowed mode reply) ∧
        w' = effect { w with env })
      (fun _ w' => mode ≠ .quiet ∧ ∃ env : Env, (∀ reply ∈ env.replies, Reply.Allowed mode reply) ∧
        (w' = { w with env } ∨ w' = effect { w with env }))
      fun w' => ∃ env : Env, (∀ reply ∈ env.replies, Reply.Allowed mode reply) ∧
        (w' = { w with env } ∨ w' = effect { w with env }) :=
  Prog.Ends.mapErr (directoryCall_ends effect allowed)

/-- One predicate for a future that is pending, another for one that is ready. -/
def Poll.Holds (pending : τ → World → Prop) (ready : α → World → Prop) : Poll τ α → World → Prop
  | .pending state, w => pending state w
  | .ready value, w => ready value w

/-- The guard of an operation ends with it, unless its future is suspended. -/
theorem guardPoll_ends {body : PoolM (Poll τ α)} {pending : τ → World → Prop}
    {ready : α → World → Prop} {crashes : World → Prop} (fails : OpfsSAHError → World → Prop)
    (ends : Prog.Ends body w
      (Poll.Holds pending fun value w' => ready value { w' with busy := false })
      (fun error w' => fails error { w' with busy := false }) crashes) :
    Prog.Ends (guardPoll body) w (Poll.Holds pending ready) fails crashes := by
  unfold guardPoll
  refine Prog.Ends.attempt_bind ends ?_ ?_ fun _ crashed => crashed
  · intro polled next holds
    cases polled with
    | pending state => exact Prog.Ends.pure holds
    | ready value => exact Prog.Ends.bind (Prog.Ends.widen (Prog.Ends.modify holds)) fun _ _ done =>
        Prog.Ends.pure done
  · intro error next holds
    exact Prog.Ends.bind (Prog.Ends.widen (Prog.Ends.modify holds)) fun _ _ done =>
      Prog.Ends.fail done

/-! ## Growing -/

structure Spare (w : World) (files : List String) : Prop where
  nodup : files.Nodup
  apart : ∀ file ∈ files, file ∉ w.held
  fresh : ∀ file ∈ files, ∃ content, w.directory.lookup file = some content ∧ Fresh content

theorem Spare.of_beyond {files : List String} (spare : Spare w files) (beyond : w.Beyond w')
    (same : ∀ file ∈ files, w'.directory.lookup file = w.directory.lookup file) :
    Spare w' files where
  nodup := spare.nodup
  apart file member := by
    rw [beyond.still.held]
    exact spare.apart file member
  fresh file member := by
    obtain ⟨content, found, fresh⟩ := spare.fresh file member
    exact ⟨content, (same file member).trans found, fresh⟩

def GrowthPoint.slot : GrowthPoint → String
  | creating file => file
  | acquiring file => file
  | removing file _ => file

structure Grows (w : World) (growth : Growth) : Prop where
  spare : Spare w growth.added
  apart : growth.point.slot ∉ w.held
  fresh : growth.point.slot ∉ growth.added
  there : ∀ file, growth.point = .acquiring file → file ∈ w.directory

structure Resizable (mode : Mode) (w : World) (g : Ledger) : Prop where
  rep : Rep mode w g
  active : w.state = .active
  healthy : w.needsRecovery = false
  loaded : g.loaded = true
  idle : g.staging = none
  shut : ∀ file, file ∉ w.held → w.openCount file = 0

theorem Resizable.of_beyond (resizable : Resizable mode w g) (beyond : w.Beyond w')
    (rep : Rep mode w' g) : Resizable mode w' g where
  rep := rep
  active := beyond.settings.state.trans resizable.active
  healthy := beyond.still.suspect.trans resizable.healthy
  loaded := resizable.loaded
  idle := resizable.idle
  shut file apart := by
    rw [beyond.still.held] at apart
    rw [beyond.settings.openCount]
    exact resizable.shut file apart

theorem Resizable.quarantined (resizable : Resizable mode w g) : w.quarantinedFiles = [] := by
  refine List.eq_nil_iff_forall_not_mem.mpr fun file member => ?_
  exact nomatch resizable.healthy.symm.trans (resizable.rep.quarantined file member).1

theorem Resizable.names (resizable : Resizable mode w g) (unused : ¬ w.names file) :
    file ∉ w.held := by
  intro held
  refine unused ?_
  unfold World.names
  rw [decide_eq_true_eq]
  rcases mem_held.mp held with available | ⟨name, mapped⟩ | lost
  · exact .inl available
  · exact .inr (List.any_eq_true.mpr ⟨⟨name, file⟩, AList.mem_lookup_iff.mp mapped, by simp⟩)
  · rw [resizable.quarantined] at lost
    exact nomatch lost

theorem nextName_ends (attempts : Nat) {added : List String} : ∀ {w : World},
    (∀ reply ∈ w.env.replies, Reply.Allowed mode reply) →
    Prog.Ends (nextName added attempts) w
      (fun next w' => w.Consulted mode w' ∧ ¬ w.names next.1 ∧ next.1 ∉ added)
      (fun _ w' => w.Consulted mode w') fun _ => False := by
  induction attempts with
  | zero => exact fun allowed => Prog.Ends.fail (.refl allowed)
  | succ attempts ih =>
      intro w allowed
      refine Prog.Ends.bind (Prog.Ends.mapErr (randomName_ends allowed)) ?_
      rintro file next ⟨consulted, -⟩
      have same : next.names file = w.names file := by
        obtain ⟨⟨env, rfl⟩, -⟩ := consulted
        rfl
      refine Prog.Ends.get_bind (Prog.Ends.ite (fun _ => ?_) fun unused => ?_)
      · refine (ih consulted.allowed).mono ?_ (fun _ _ later => consulted.trans later)
          fun _ impossible => impossible
        rintro next' last ⟨later, fresh⟩
        have names : next.names next'.1 = w.names next'.1 := by
          obtain ⟨⟨env, rfl⟩, -⟩ := consulted
          rfl
        rw [names] at fresh
        exact ⟨consulted.trans later, fresh⟩
      · rw [not_or, same] at unused
        exact Prog.Ends.pure ⟨consulted, unused⟩

theorem World.Consulted.beyond (consulted : w.Consulted mode w') : w.Beyond w' := by
  obtain ⟨⟨env, rfl⟩, -⟩ := consulted
  exact .asked w env

theorem World.Consulted.directory (consulted : w.Consulted mode w') :
    w'.directory = w.directory := by
  obtain ⟨⟨env, rfl⟩, -⟩ := consulted
  rfl

theorem World.Consulted.rep (consulted : w.Consulted mode w') (rep : Rep mode w g) :
    Rep mode w' g := by
  have evolves : Evolves mode Everything w g w' g := consulted.evolves rep
  exact evolves.rep

/-- What a poll of `add_capacity` reaches, before the slots are published. -/
def GrowthReaches (mode : Mode) (w : World) (g : Ledger) :
    Poll Growth (List String) → World → Prop :=
  Poll.Holds (fun growth w' => Rep mode w' g ∧ w.Beyond w' ∧ Grows w' growth)
    fun added w' => Rep mode w' g ∧ w.Beyond w' ∧ Spare w' added

theorem startSlot_ends (resizable : Resizable mode w g) {added : List String}
    (spare : Spare w added) (remaining : Nat) :
    Prog.Ends (startSlot added remaining) w (GrowthReaches mode w g)
      (fun _ w' => Rep mode w' g ∧ w.Beyond w') fun _ => False := by
  cases remaining with
  | zero => exact Prog.Ends.pure ⟨resizable.rep, .refl w, spare⟩
  | succ remaining =>
      unfold startSlot
      refine Prog.Ends.bind_of (nextName_ends maxFilenameAttempts resizable.rep.allowed) ?_ ?_
        fun _ impossible => impossible
      · rintro ⟨file, attempts⟩ next ⟨consulted, unused, new⟩
        refine Prog.Ends.pure ⟨consulted.rep resizable.rep, consulted.beyond, ?_, ?_, new, nofun⟩
        · exact spare.of_beyond consulted.beyond fun _ _ => by rw [consulted.directory]
        · rw [consulted.beyond.still.held]
          exact resizable.names unused
      · exact fun _ next consulted => ⟨consulted.rep resizable.rep, consulted.beyond⟩

theorem World.uncounted (shut : w.openCount file = 0) :
    { w with openCount := Function.update w.openCount file 0 } = w := by
  have same : Function.update w.openCount file 0 = w.openCount := by
    rw [← shut]
    exact Function.update_eq_self file w.openCount
  rw [same]

theorem acquire_ends (allowed : ∀ reply ∈ w.env.replies, Reply.Allowed mode reply)
    (shut : w.openCount file = 0) :
    Prog.Ends (acquire file) w (fun _ w' => w.Consulted mode w')
      (fun _ w' => mode ≠ .quiet ∧ w.Consulted mode w') fun w' => w.Consulted mode w' := by
  unfold acquire
  refine Prog.Ends.bind_of (awaited_ends _ id allowed) ?_ ?_ ?_
  · rintro _ next ⟨env, allowed, rfl⟩
    refine Prog.Ends.modify ⟨⟨env, ?_⟩, allowed⟩
    exact World.uncounted (w := { w with env }) shut
  · rintro _ next ⟨loud, env, allowed, rfl | rfl⟩ <;> exact ⟨loud, ⟨env, rfl⟩, allowed⟩
  · rintro next ⟨env, allowed, rfl | rfl⟩ <;> exact ⟨⟨env, rfl⟩, allowed⟩

structure Nameless (mode : Mode) (content : SlotFile) : Prop where
  blank : Blank mode content
  readable : stored content.contents = .ok none

theorem Resizable.nameless (resizable : Resizable mode w g) (apart : file ∉ w.held)
    (found : w.directory.lookup file = some content) : Nameless mode content where
  blank := ((resizable.rep.disk (resizable.rep.known resizable.loaded)).slot file content
    found).blank (resizable.rep.unowned resizable.loaded apart)
  readable := resizable.rep.readable resizable.loaded file content found
    (resizable.rep.unowned resizable.loaded apart) fun lost => apart (mem_held_quarantined lost)

theorem Nameless.initializing (nameless : Nameless mode content)
    (initializing : Initializing content content') : Nameless mode content' where
  blank := nameless.blank.initializing nameless.readable initializing
  readable := by
    have truncated : stored (content.truncate headerOffsetData).contents = .ok none := by
      rw [SlotFile.contents_truncate]
      exact stored_resize_none nameless.readable
    cases initializing with
    | untouched => exact nameless.readable
    | truncated => exact truncated
    | flushed =>
        rw [SlotFile.contents_flush]
        exact truncated

/-- A file beside the pool has been written to. -/
theorem Resizable.after (resizable : Resizable mode w g) (apart : file ∉ w.held)
    (nameless : Nameless mode content) {replies : List Reply}
    (allowed : ∀ reply ∈ replies, Reply.Allowed mode reply) :
    Resizable mode (w.after file content replies) g ∧ w.Beyond (w.after file content replies) := by
  have asked : Rep mode { w with env := { w.env with replies } } g :=
    Evolves.rep_asked resizable.rep allowed
  have beyond : w.Beyond (w.after file content replies) := .insert apart _ content
  exact ⟨resizable.of_beyond beyond
    (asked.outside resizable.loaded apart nameless.blank nameless.readable), beyond⟩

theorem onSlot_beside {x : SlotM ε α} {returns : α → SlotFile → Prop} {stops : SlotFile → Prop}
    (resizable : Resizable mode w g) (apart : file ∉ w.held)
    (found : w.directory.lookup file = some content)
    (does : Does mode x ⟨content, w.env.replies⟩ returns stops)
    (afterwards : ∀ value content', returns value content' → Nameless mode content')
    (stopped : ∀ content', stops content' → Nameless mode content') :
    Prog.Ends (onSlot file x) w
      (fun value w' => ∃ content' replies, w' = w.after file content' replies ∧
        returns value content' ∧ Resizable mode w' g ∧ w.Beyond w')
      (fun _ w' => ∃ content' replies, w' = w.after file content' replies ∧ stops content' ∧
        Resizable mode w' g ∧ w.Beyond w')
      fun w' => ∃ w₁, Rep mode w₁ g ∧ w.Beyond w₁ ∧ w₁.directory = w'.directory := by
  refine (onSlot_ends found does).mono ?_ ?_ ?_
  · rintro value w' ⟨content', replies, allowed, rfl, holds⟩
    exact ⟨content', replies, rfl, holds,
      resizable.after apart (afterwards value content' holds) allowed⟩
  · rintro _ w' ⟨content', replies, allowed, rfl, holds⟩
    exact ⟨content', replies, rfl, holds, resizable.after apart (stopped content' holds) allowed⟩
  · rintro w' ⟨content', replies, rfl, holds⟩
    obtain ⟨resizable', beyond⟩ := resizable.after apart (stopped content' holds) noReplies
    exact ⟨_, resizable'.rep, beyond, rfl⟩

theorem createEntry_beside (resizable : Resizable mode w g) (apart : file ∉ w.held) :
    Resizable mode (createEntry file w) g ∧ w.Beyond (createEntry file w) ∧
      file ∈ (createEntry file w).directory ∧ ∀ other, other ≠ file →
        (createEntry file w).directory.lookup other = w.directory.lookup other := by
  unfold createEntry
  by_cases there : file ∈ w.directory
  · rw [if_pos there]
    exact ⟨resizable, .refl w, there, fun _ _ => rfl⟩
  · rw [if_neg there]
    have beyond : w.Beyond { w with directory := w.directory.insert file (Journal.settled []) } :=
      .insert apart w.env _
    refine ⟨resizable.of_beyond beyond (resizable.rep.outside resizable.loaded apart blank_created
      rfl), beyond, (AList.mem_insert _).mpr (.inl rfl), fun other different => ?_⟩
    exact AList.lookup_insert_ne different

theorem removeEntry_beside (resizable : Resizable mode w g) (apart : file ∉ w.held) :
    Resizable mode (removeEntry file w) g ∧ w.Beyond (removeEntry file w) := by
  have beyond : w.Beyond (removeEntry file w) := .erase apart w.env
  exact ⟨resizable.of_beyond beyond (resizable.rep.withdraw resizable.loaded apart), beyond⟩

theorem Resizable.asked (resizable : Resizable mode w g) {env : Env}
    (allowed : ∀ reply ∈ env.replies, Reply.Allowed mode reply) :
    Resizable mode { w with env } g :=
  resizable.of_beyond (.asked w env)
    (Evolves.rep_asked resizable.rep allowed)

theorem Resizable.consulted (resizable : Resizable mode w g) (consulted : w.Consulted mode w') :
    Resizable mode w' g :=
  resizable.of_beyond consulted.beyond (consulted.rep resizable.rep)

theorem GrowthReaches.onward (beyond : w.Beyond w') {polled : Poll Growth (List String)}
    {last : World} (reaches : GrowthReaches mode w' g polled last) :
    GrowthReaches mode w g polled last := by
  cases polled with
  | pending growth => exact ⟨reaches.1, beyond.trans reaches.2.1, reaches.2.2⟩
  | ready added => exact ⟨reaches.1, beyond.trans reaches.2.1, reaches.2.2⟩

/-- Every poll of `add_capacity` leaves the pool as it was. -/
theorem growth_poll_ends (resizable : Resizable mode w g) {growth : Growth}
    (grows : Grows w growth) :
    Prog.Ends growth.poll w (GrowthReaches mode w g) (fun _ w' => Rep mode w' g ∧ w.Beyond w')
      fun w' => ∃ w₁, Rep mode w₁ g ∧ w.Beyond w₁ ∧ w₁.directory = w'.directory := by
  obtain ⟨remaining, attempts, added, point⟩ := growth
  unfold Growth.poll
  cases point with
  | creating file =>
      have apart : file ∉ w.held := grows.apart
      have reached (env : Env) (allowed : ∀ reply ∈ env.replies, Reply.Allowed mode reply) :=
        createEntry_beside (resizable.asked allowed) (w := { w with env }) apart
      refine Prog.Ends.bind_of (awaited_ends _ (createEntry file) resizable.rep.allowed) ?_ ?_ ?_
      · rintro _ next ⟨env, allowed, rfl⟩
        obtain ⟨resizable', beyond, there, elsewhere⟩ := reached env allowed
        have onward := (World.Beyond.asked w env).trans beyond
        refine Prog.Ends.pure ⟨resizable'.rep, onward, ?_, ?_, grows.fresh, ?_⟩
        · refine grows.spare.of_beyond onward fun other member => elsewhere other ?_
          rintro rfl
          exact grows.fresh member
        · rw [onward.still.held]
          exact apart
        · rintro other ⟨⟩
          exact there
      · rintro _ next ⟨-, env, allowed, rfl | rfl⟩
        · exact ⟨(resizable.asked allowed).rep, .asked w env⟩
        · obtain ⟨resizable', beyond, -⟩ := reached env allowed
          exact ⟨resizable'.rep, (World.Beyond.asked w env).trans beyond⟩
      · rintro next ⟨env, allowed, rfl | rfl⟩
        · exact ⟨_, (resizable.asked allowed).rep, .asked w env, rfl⟩
        · obtain ⟨resizable', beyond, -⟩ := reached env allowed
          exact ⟨_, resizable'.rep, (World.Beyond.asked w env).trans beyond, rfl⟩
  | acquiring file =>
      have apart : file ∉ w.held := grows.apart
      refine Prog.Ends.bind_of (acquire_ends resizable.rep.allowed
        (resizable.shut file apart)) ?_ ?_ ?_
      rotate_left
      · exact fun _ next consulted => ⟨consulted.2.rep resizable.rep, consulted.2.beyond⟩
      · exact fun next consulted => ⟨next, consulted.rep resizable.rep, consulted.beyond, rfl⟩
      rintro _ w₁ consulted
      have resizable₁ := resizable.consulted consulted
      have apart₁ : file ∉ w₁.held := consulted.beyond.still.held ▸ apart
      obtain ⟨content, found⟩ := Option.isSome_iff_exists.mp (AList.lookup_isSome.mpr
        (consulted.directory ▸ grows.there file rfl))
      have nameless := resizable₁.nameless apart₁ found
      refine Prog.Ends.bind_of (onSlot_beside resizable₁ apart₁ found
        (physicalSize_does resizable₁.rep.allowed file) ?_ ?_) ?_ ?_ ?_
      · rintro _ _ ⟨rfl, -⟩
        exact nameless
      · rintro _ ⟨rfl, -⟩
        exact nameless
      · rintro size w₂ ⟨content, replies, rfl, ⟨rfl, rfl, -⟩, resizable₂, beyond₂⟩
        have before := consulted.beyond.trans beyond₂
        have spare₂ : Spare (w₁.after file content replies) added := by
          refine grows.spare.of_beyond before fun other member => ?_
          have different : other ≠ file := by
            rintro rfl
            exact grows.fresh member
          exact (AList.lookup_insert_ne different).trans (by rw [consulted.directory])
        refine Prog.Ends.ite (fun _ => ?_) fun empty => ?_
        · refine Prog.Ends.bind_of (nextName_ends attempts resizable₂.rep.allowed) ?_ ?_
            fun _ impossible => impossible.elim
          · rintro ⟨other, attempts'⟩ next ⟨consulted', unused, new⟩
            have onward := before.trans consulted'.beyond
            refine Prog.Ends.pure ⟨consulted'.rep resizable₂.rep, onward, ?_, ?_, new, nofun⟩
            · exact spare₂.of_beyond consulted'.beyond fun _ _ => by rw [consulted'.directory]
            · rw [consulted'.beyond.still.held]
              exact resizable₂.names unused
          · exact fun _ next consulted' =>
              ⟨consulted'.rep resizable₂.rep, before.trans consulted'.beyond⟩
        · rw [ne_eq, not_not, List.length_eq_zero_iff] at empty
          have apart₂ : file ∉ (w₁.after file content replies).held := apart₁
          have found₂ : (w₁.after file content replies).directory.lookup file = some content :=
            AList.lookup_insert _
          have short : content.contents.length < headerOffsetData := by
            rw [empty]
            exact offsetData_pos
          have new : Fresh (content.truncate headerOffsetData).flush :=
            fresh_initialized nameless.readable short
          refine Prog.Ends.attempt_bind (onSlot_beside resizable₂ apart₂ found₂
            (initializeSlot_does resizable₂.rep.allowed) ?_ ?_) ?_ ?_ ?_
          · rintro _ _ rfl
            exact ⟨new.blank, new.readable⟩
          · exact fun _ stopped => nameless.initializing stopped.2
          · rintro _ w₃ ⟨_, replies', rfl, rfl, resizable₃, beyond₃⟩
            refine (startSlot_ends resizable₃ ?_ remaining).mono
              (fun _ _ reaches => reaches.onward (before.trans beyond₃))
              (fun _ _ failed => ⟨failed.1, (before.trans beyond₃).trans failed.2⟩)
              fun _ impossible => impossible.elim
            refine ⟨List.nodup_append.mpr ⟨spare₂.nodup, List.nodup_singleton _, ?_⟩, ?_, ?_⟩
            · intro other member other' here same
              rw [List.mem_singleton.mp here] at same
              exact grows.fresh (same ▸ member)
            · intro other member
              rcases List.mem_append.mp member with earlier | here
              · exact spare₂.apart other earlier
              · rw [List.mem_singleton.mp here]
                exact apart₁
            · intro other member
              by_cases here : other = file
              · subst here
                exact ⟨_, AList.lookup_insert _, new⟩
              · have earlier : other ∈ added := (List.mem_append.mp member).resolve_right
                  fun last => here (List.mem_singleton.mp last)
                obtain ⟨content', found', fresh'⟩ := spare₂.fresh other earlier
                exact ⟨content', (AList.lookup_insert_ne here).trans found', fresh'⟩
          · rintro error w₃ ⟨content', replies', rfl, -, resizable₃, beyond₃⟩
            refine Prog.Ends.pure ⟨resizable₃.rep, before.trans beyond₃, ?_, apart₁, grows.fresh,
              nofun⟩
            refine spare₂.of_beyond beyond₃ fun other member => AList.lookup_insert_ne ?_
            rintro rfl
            exact grows.fresh member
          · rintro w' ⟨w₃, rep₃, beyond₃, same⟩
            exact ⟨w₃, rep₃, before.trans beyond₃, same⟩
      · rintro _ w₂ ⟨_, replies, rfl, -, resizable₂, beyond₂⟩
        exact ⟨resizable₂.rep, consulted.beyond.trans beyond₂⟩
      · rintro w' ⟨w₂, rep₂, beyond₂, same⟩
        exact ⟨w₂, rep₂, consulted.beyond.trans beyond₂, same⟩
  | removing file error =>
      have apart : file ∉ w.held := grows.apart
      have reached (env : Env) (allowed : ∀ reply ∈ env.replies, Reply.Allowed mode reply) :
          Rep mode (removeEntry file { w with env }) g ∧
            w.Beyond (removeEntry file { w with env }) := by
        obtain ⟨resizable', beyond⟩ := removeEntry_beside (w := { w with env })
          (resizable.asked allowed) apart
        exact ⟨resizable'.rep, (World.Beyond.asked w env).trans beyond⟩
      refine Prog.Ends.attempt_bind (awaited_ends _ (removeEntry file) resizable.rep.allowed)
        ?_ ?_ ?_
      · rintro _ next ⟨env, allowed, rfl⟩
        exact Prog.Ends.fail (reached env allowed)
      · rintro _ next ⟨-, env, allowed, rfl | rfl⟩
        · exact Prog.Ends.fail ⟨(resizable.asked allowed).rep, .asked w env⟩
        · exact Prog.Ends.fail (reached env allowed)
      · rintro next ⟨env, allowed, rfl | rfl⟩
        · exact ⟨_, (resizable.asked allowed).rep, .asked w env, rfl⟩
        · exact ⟨_, (reached env allowed).1, (reached env allowed).2, rfl⟩

theorem Resizable.adopt (resizable : Resizable mode w g) {added : List String}
    (spare : Spare w added) :
    Rep mode { w with availableFiles := w.availableFiles ++ added } g where
  allowed := resizable.rep.allowed
  disk := resizable.rep.disk
  unknown := resizable.rep.unknown
  unloaded unloaded := nomatch resizable.loaded.symm.trans unloaded
  nodup := by
    have nodup := resizable.rep.nodup
    rw [resizable.quarantined, List.append_nil] at nodup ⊢
    refine List.nodup_append.mpr ⟨nodup, spare.nodup, fun file member other member' same => ?_⟩
    exact spare.apart other member' (mem_held_available (same ▸ member))
  mapped := resizable.rep.mapped
  owned := resizable.rep.owned
  available file member := by
    rcases List.mem_append.mp member with before | new
    · exact resizable.rep.available file before
    · obtain ⟨content, found, fresh⟩ := spare.fresh file new
      exact ⟨resizable.rep.unowned resizable.loaded (spare.apart file new), content, found,
        .inl fresh⟩
  guarded := resizable.rep.guarded
  staged file data staging := nomatch resizable.idle.symm.trans staging
  quarantined := resizable.rep.quarantined
  healthy := resizable.rep.healthy
  opened := resizable.rep.opened
  readable := resizable.rep.readable

def AddReaches (mode : Mode) (w : World) (g : Ledger) : Poll Growth Nat → World → Prop :=
  Poll.Holds (fun growth w' => Rep mode w' g ∧ w.Beyond w' ∧ Grows w' growth)
    fun count w' => ∃ w₁ added, Rep mode w₁ g ∧ w.Beyond w₁ ∧ Spare w₁ added ∧ Rep mode w' g ∧
      count = w'.capacity ∧
      w' = { w₁ with availableFiles := w₁.availableFiles ++ added, busy := false }

def GivenUp (mode : Mode) (w : World) (g : Ledger) (w' : World) : Prop :=
  ∃ w₁, Rep mode w₁ g ∧ w.Beyond w₁ ∧ Rep mode w' g ∧ w' = { w₁ with busy := false }

theorem givenUp (rep : Rep mode w' g) (idle : g.staging = none) (beyond : w.Beyond w') :
    GivenUp mode w g { w' with busy := false } :=
  ⟨w', rep, beyond, rep.guard fun _ => idle, rfl⟩

theorem publishAdded_ends (resizable : Resizable mode w g) {polled : Poll Growth (List String)}
    (reaches : GrowthReaches mode w g polled w') :
    Prog.Ends (publishAdded polled) w'
      (Poll.Holds (fun growth w' => AddReaches mode w g (.pending growth) w')
        fun count w' => AddReaches mode w g (.ready count) { w' with busy := false })
      (fun _ _ => False) fun _ => False := by
  cases polled with
  | pending growth => exact Prog.Ends.pure reaches
  | ready added =>
      obtain ⟨rep, beyond, spare⟩ := reaches
      have adopted := (resizable.of_beyond beyond rep).adopt spare
      exact Prog.Ends.modify_bind (Prog.Ends.get_bind (Prog.Ends.pure
        ⟨w', added, rep, beyond, spare, adopted.guard fun _ => resizable.idle, rfl, rfl⟩))

theorem pollAddCapacity_ends (resizable : Resizable mode w g) {growth : Growth}
    (grows : Grows w growth) :
    Prog.Ends (pollAddCapacity growth) w (AddReaches mode w g)
      (fun _ w' => GivenUp mode w g w')
      fun w' => ∃ w₁, Rep mode w₁ g ∧ w.Beyond w₁ ∧ w₁.directory = w'.directory := by
  refine guardPoll_ends _ (Prog.Ends.bind_of (growth_poll_ends resizable grows) ?_ ?_
    fun _ crashed => crashed)
  · intro polled next reaches
    exact (publishAdded_ends resizable reaches).mono (fun _ _ holds => holds)
      (fun _ _ impossible => impossible.elim) fun _ impossible => impossible.elim
  · rintro _ next ⟨rep, beyond⟩
    exact givenUp rep resizable.idle beyond

theorem addCapacity_ends (ready : w.Ready)
    (resizable : Resizable mode { w with busy := true } g) (n : Nat) :
    Prog.Ends (addCapacity n) w (AddReaches mode { w with busy := true } g)
      (fun _ w' => GivenUp mode { w with busy := true } g w') fun _ => False := by
  unfold addCapacity
  rcases checkActive_run (w := w) with ⟨run, -⟩ | ⟨error, -, unready⟩
  swap
  · exact absurd ready unready
  refine Prog.Ends.after_ok run (Prog.Ends.after_ok (beginOperation_ready ready)
    (guardPoll_ends _ ?_))
  have stopped {w' : World} (consulted : World.Consulted mode { w with busy := true } w') :
      GivenUp mode { w with busy := true } g { w' with busy := false } :=
    givenUp (consulted.rep resizable.rep) resizable.idle consulted.beyond
  refine Prog.Ends.bind_of (tryReserve_ends resizable.rep.allowed) ?_ (fun _ _ => stopped)
    fun _ impossible => impossible
  intro _ w₁ consulted
  refine Prog.Ends.bind_of (tryReserve_ends consulted.allowed) ?_
    (fun _ _ later => stopped (consulted.trans later)) fun _ impossible => impossible
  intro _ w₂ later
  have both := consulted.trans later
  have none : Spare w₂ [] := ⟨List.nodup_nil, nofun, nofun⟩
  refine Prog.Ends.bind_of (startSlot_ends (resizable.consulted both) none n) ?_ ?_
    fun _ impossible => impossible
  · intro polled next reaches
    exact (publishAdded_ends resizable (reaches.onward both.beyond)).mono (fun _ _ holds => holds)
      (fun _ _ impossible => impossible.elim) fun _ impossible => impossible.elim
  · rintro _ next ⟨rep, beyond⟩
    exact givenUp rep resizable.idle (both.beyond.trans beyond)

/-- The call that a future of `add_capacity` has made is about no slot of the pool. -/
theorem Resizable.inFlight (resizable : Resizable mode w g) {growth : Growth}
    (grows : Grows w growth) {env : Env}
    (allowed : ∀ reply ∈ env.replies, Reply.Allowed mode reply) :
    Rep mode (growth.inFlight { w with env }) g ∧ w.Beyond (growth.inFlight { w with env }) := by
  have asked := resizable.asked allowed
  have onward := World.Beyond.asked w env
  have apart : growth.point.slot ∉ World.held { w with env } := grows.apart
  unfold Growth.inFlight
  rcases point : growth.point with file | file | ⟨file, error⟩
  · rw [point] at apart
    obtain ⟨resizable', beyond, -⟩ := createEntry_beside asked apart
    exact ⟨resizable'.rep, onward.trans beyond⟩
  · exact ⟨asked.rep, onward⟩
  · rw [point] at apart
    obtain ⟨resizable', beyond⟩ := removeEntry_beside asked apart
    exact ⟨resizable'.rep, onward.trans beyond⟩

theorem inFlight_ends (resizable : Resizable mode w g) {growth : Growth} (grows : Grows w growth) :
    Prog.Ends (directoryCall growth.inFlight) w (fun _ w' => Rep mode w' g ∧ w.Beyond w')
      (fun _ w' => Rep mode w' g ∧ w.Beyond w')
      fun w' => ∃ w₁, Rep mode w₁ g ∧ w.Beyond w₁ ∧ w₁.directory = w'.directory := by
  refine (directoryCall_ends growth.inFlight resizable.rep.allowed).mono ?_ ?_ ?_
  · rintro _ next ⟨env, allowed, rfl⟩
    exact resizable.inFlight grows allowed
  · rintro _ next ⟨-, env, allowed, rfl | rfl⟩
    · exact ⟨(resizable.asked allowed).rep, .asked w env⟩
    · exact resizable.inFlight grows allowed
  · rintro next ⟨env, allowed, rfl | rfl⟩
    · exact ⟨_, (resizable.asked allowed).rep, .asked w env, rfl⟩
    · exact ⟨_, (resizable.inFlight grows allowed).1, (resizable.inFlight grows allowed).2, rfl⟩

/-- A dropped future of `add_capacity` leaves the pool as it was. -/
theorem cancelAddCapacity_ends (resizable : Resizable mode w g) {growth : Growth}
    (grows : Grows w growth) :
    Prog.Ends (cancelAddCapacity growth) w (fun _ w' => GivenUp mode w g w')
      (fun _ _ => False)
      fun w' => ∃ w₁, Rep mode w₁ g ∧ w.Beyond w₁ ∧ w₁.directory = w'.directory := by
  have finished {w' : World} (landed : Rep mode w' g ∧ w.Beyond w') :
      Prog.Ends (Prog.widen endOperation : PoolM Unit) w' (fun _ w' => GivenUp mode w g w')
        (fun _ _ => False)
        fun w' => ∃ w₁, Rep mode w₁ g ∧ w.Beyond w₁ ∧ w₁.directory = w'.directory :=
    Prog.Ends.widen (Prog.Ends.modify (givenUp landed.1 resizable.idle landed.2))
  unfold cancelAddCapacity
  exact Prog.Ends.attempt_bind (inFlight_ends resizable grows) (fun _ _ => finished)
    (fun _ _ => finished) fun _ stopped => stopped

/-! ## Shrinking -/

structure Shrinks (w : World) (shrink : Shrink) : Prop where
  apart : shrink.file ∉ w.held
  enough : shrink.remaining ≤ w.availableFiles.length

theorem Resizable.yieldTop (resizable : Resizable mode w g) {rest : List String}
    (top : w.availableFiles = rest ++ [file]) :
    Rep mode { w with availableFiles := rest } g ∧
      file ∉ World.held { w with availableFiles := rest } := by
  have rep := resizable.rep
  obtain ⟨nodup, fresh, safe⟩ := rep.nodup_top top
  have before {other : String} (member : other ∈ rest) : other ∈ w.availableFiles := by
    rw [top]
    exact List.mem_append_left _ member
  refine ⟨?_, fun held => ?_⟩
  · exact {
      allowed := rep.allowed
      disk := rep.disk
      unknown := rep.unknown
      unloaded := fun unloaded => nomatch resizable.loaded.symm.trans unloaded
      nodup := nodup
      mapped := rep.mapped
      owned := rep.owned
      available := fun other member => rep.available other (before member)
      guarded := rep.guarded
      staged := fun _ _ staging => nomatch resizable.idle.symm.trans staging
      quarantined := rep.quarantined
      healthy := rep.healthy
      opened := rep.opened
      readable := rep.readable }
  · rcases mem_held.mp held with available | ⟨name, mapped⟩ | lost
    · exact fresh available
    · exact rep.mapped_ne_available mapped (Rep.mem_top top) rfl
    · exact safe lost

structure Popped (mode : Mode) (w : World) (g : Ledger) (shrink : Shrink) (w' : World) : Prop where
  rep : Rep mode w' g
  shrinks : Shrinks w' shrink
  from_top : ∃ w₁ rest, w.Beyond w₁ ∧ w₁.availableFiles = rest ++ [shrink.file] ∧
    w' = { w₁ with availableFiles := rest }

/-- What a call or poll of `reduce_capacity` leaves, with `left` slots to go. -/
def ReduceReaches (mode : Mode) (w : World) (g : Ledger) (count left : Nat) :
    Poll Shrink Nat → World → Prop :=
  Poll.Holds (fun shrink w' => Popped mode w g shrink w' ∧ shrink.count = count ∧
      left = shrink.remaining + 1)
    fun removed w' => GivenUp mode w g w' ∧ removed = count ∧ left = 0

theorem popSlot_ends (resizable : Resizable mode w g) (beyond : w.Beyond w') (rep : Rep mode w' g)
    (count left : Nat) (enough : left ≤ w'.availableFiles.length) :
    Prog.Ends (popSlot count left) w'
      (Poll.Holds (fun shrink w' => ReduceReaches mode w g count left (.pending shrink) w')
        fun removed w' =>
          ReduceReaches mode w g count left (.ready removed) { w' with busy := false })
      (fun _ _ => False) fun _ => False := by
  cases left with
  | zero => exact Prog.Ends.pure ⟨givenUp rep resizable.idle beyond, rfl, rfl⟩
  | succ remaining =>
      rcases List.eq_nil_or_concat w'.availableFiles with empty | ⟨rest, file, top⟩
      · rw [empty] at enough
        exact absurd enough (Nat.not_succ_le_zero remaining)
      rw [List.concat_eq_append] at top
      obtain ⟨rep', apart⟩ := (resizable.of_beyond beyond rep).yieldTop top
      rw [top, List.length_append, List.length_singleton] at enough
      unfold popSlot
      refine Prog.Ends.after_ok (popAvailable_some top) ?_
      rw [Prog.unwrap_some, Prog.pure_bind]
      exact Prog.Ends.pure ⟨⟨rep', ⟨apart, Nat.le_of_succ_le_succ enough⟩, w', rest, beyond, top,
        rfl⟩, rfl, rfl⟩

theorem reduceCapacity_ends (ready : w.Ready)
    (resizable : Resizable mode { w with busy := true } g) (n : Nat) :
    Prog.Ends (reduceCapacity n) w
      (ReduceReaches mode { w with busy := true } g (min n w.availableFiles.length)
        (min n w.availableFiles.length)) (fun _ _ => False) fun _ => False := by
  unfold reduceCapacity
  rcases checkActive_run (w := w) with ⟨run, -⟩ | ⟨error, -, unready⟩
  swap
  · exact absurd ready unready
  refine Prog.Ends.after_ok run (Prog.Ends.after_ok (beginOperation_ready ready)
    (guardPoll_ends _ (Prog.Ends.get_bind ?_)))
  exact (popSlot_ends resizable (.refl _) resizable.rep _ _ (Nat.min_le_right _ _)).mono
    (fun _ _ holds => holds) (fun _ _ impossible => impossible) fun _ impossible => impossible

/-- The file of a popped slot is removed, or left in the directory. -/
theorem removal_beside (resizable : Resizable mode w g) (apart : file ∉ w.held) {env : Env}
    (allowed : ∀ reply ∈ env.replies, Reply.Allowed mode reply) :
    Rep mode (removeEntry file { w with env }) g ∧ w.Beyond (removeEntry file { w with env }) := by
  obtain ⟨resizable', beyond⟩ := removeEntry_beside (w := { w with env })
    (resizable.asked allowed) apart
  exact ⟨resizable'.rep, (World.Beyond.asked w env).trans beyond⟩

theorem pollReduceCapacity_ends (resizable : Resizable mode w g) {shrink : Shrink}
    (shrinks : Shrinks w shrink) :
    Prog.Ends (pollReduceCapacity shrink) w
      (ReduceReaches mode w g shrink.count shrink.remaining)
      (fun _ w' => GivenUp mode w g w')
      fun w' => ∃ w₁, Rep mode w₁ g ∧ w.Beyond w₁ ∧ w₁.directory = w'.directory := by
  refine guardPoll_ends _ (Prog.Ends.bind_of
    (awaited_ends _ (removeEntry shrink.file) resizable.rep.allowed) ?_ ?_ ?_)
  · rintro _ next ⟨env, allowed, rfl⟩
    obtain ⟨rep, beyond⟩ := removal_beside resizable shrinks.apart allowed
    exact (popSlot_ends resizable beyond rep _ _ shrinks.enough).mono (fun _ _ holds => holds)
      (fun _ _ impossible => impossible.elim) fun _ impossible => impossible.elim
  · rintro _ next ⟨-, env, allowed, rfl | rfl⟩
    · exact givenUp (resizable.asked allowed).rep resizable.idle (.asked w env)
    · obtain ⟨rep, beyond⟩ := removal_beside resizable shrinks.apart allowed
      exact givenUp rep resizable.idle beyond
  · rintro next ⟨env, allowed, rfl | rfl⟩
    · exact ⟨_, (resizable.asked allowed).rep, .asked w env, rfl⟩
    · obtain ⟨rep, beyond⟩ := removal_beside resizable shrinks.apart allowed
      exact ⟨_, rep, beyond, rfl⟩

theorem cancelReduceCapacity_ends (resizable : Resizable mode w g) {shrink : Shrink}
    (shrinks : Shrinks w shrink) :
    Prog.Ends (cancelReduceCapacity shrink) w (fun _ w' => GivenUp mode w g w')
      (fun _ _ => False)
      fun w' => ∃ w₁, Rep mode w₁ g ∧ w.Beyond w₁ ∧ w₁.directory = w'.directory := by
  have finished {w' : World} (rep : Rep mode w' g) (beyond : w.Beyond w') :
      Prog.Ends (Prog.widen endOperation : PoolM Unit) w' (fun _ w' => GivenUp mode w g w')
        (fun _ _ => False)
        fun w' => ∃ w₁, Rep mode w₁ g ∧ w.Beyond w₁ ∧ w₁.directory = w'.directory :=
    Prog.Ends.widen (Prog.Ends.modify (givenUp rep resizable.idle beyond))
  unfold cancelReduceCapacity
  refine Prog.Ends.attempt_bind
    (directoryCall_ends (removeEntry shrink.file) resizable.rep.allowed) ?_ ?_ ?_
  · rintro _ next ⟨env, allowed, rfl⟩
    obtain ⟨rep, beyond⟩ := removal_beside resizable shrinks.apart allowed
    exact finished rep beyond
  · rintro _ next ⟨-, env, allowed, rfl | rfl⟩
    · exact finished (resizable.asked allowed).rep (.asked w env)
    · obtain ⟨rep, beyond⟩ := removal_beside resizable shrinks.apart allowed
      exact finished rep beyond
  · rintro next ⟨env, allowed, rfl | rfl⟩
    · exact ⟨_, (resizable.asked allowed).rep, .asked w env, rfl⟩
    · obtain ⟨rep, beyond⟩ := removal_beside resizable shrinks.apart allowed
      exact ⟨_, rep, beyond, rfl⟩

end Sahpool

end SqliteVfs
