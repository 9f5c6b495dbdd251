import SqliteVfs.Sahpool.CapacitySpec

/-!
# Loading a directory

What `acquire_access_handles` makes of a directory: which names it finds there, and the
ledger of the pool that it publishes.  A load that stops has at most reset slots without
a name.
-/

set_option autoImplicit false

namespace SqliteVfs

namespace Sahpool

variable {mode : Mode} {w w' w'' : World} {g g' : Ledger} {file name : String}
  {content content' : SlotFile} {ε ε' α β τ : Type}

/-! ## What a directory says -/

/-- What the header of a file in the directory says. -/
def decoded (directory : AList fun _ : String => SlotFile) (file : String) :
    Option (Except String (Option String)) :=
  (directory.lookup file).map fun content => stored content.contents

/-- A named slot whose name no crash makes unreadable. -/
def Legible (mode : Mode) (content : SlotFile) : Prop :=
  ∀ name, stored content.contents = .ok (some name) →
    Sees mode (fun image => Fits image ∧ Names mode (some name) image) content

theorem decoded_of_found (found : w.directory.lookup file = some content) :
    decoded w.directory file = some (stored content.contents) := by
  unfold decoded
  rw [found]
  rfl

theorem fits_of_stored {contents : List UInt8} (named : stored contents = .ok (some name)) :
    Fits contents := by
  have bounded : contents.length ≤ maxSafeInteger := by
    by_contra large
    rw [stored_oversized (by omega)] at named
    exact nomatch named
  exact ⟨((stored_eq_some bounded).mp named).1, bounded⟩

theorem storedHeader_of_stored {contents : List UInt8} (named : stored contents = .ok (some name)) :
    StoredHeader mode name false (contents.take headerCorpusSize) := by
  have fits := fits_of_stored named
  obtain ⟨-, flags, kind, persistent, kept, encodes⟩ := (stored_eq_some fits.high).mp named
  obtain ⟨storable, header⟩ := encodes_iff.mp encodes
  have parsed := fits.stored_eq.symm.trans named
  rw [header] at parsed ⊢
  exact ⟨storable, storable.length_headerOf flags, storable.take_headerOf flags, fun _ => parsed⟩

theorem legible_of_contents (mild : mode ≠ .strict) (content : SlotFile) :
    Legible mode content := by
  rintro name named image ⟨-, strict | rfl⟩
  · exact absurd strict mild
  · exact ⟨fits_of_stored named, .inr (.inl ⟨name, rfl, named⟩)⟩

theorem legible_settled (contents : List UInt8) :
    Legible mode (Journal.settled contents : SlotFile) :=
  fun name named => Sees.settled ⟨fits_of_stored named, .inr (.inl ⟨name, rfl, named⟩)⟩

/-- The slots of a known directory are legible. -/
theorem Disk.legible {directory : AList fun _ : String => SlotFile}
    (disk : Disk mode directory g) (found : directory.lookup file = some content) :
    Legible mode content := by
  intro name named
  have represents := disk.slot file content found
  rcases owned : g.owner file with _ | owner
  · have blank := (represents.blank owned).contents
    exact nomatch blank.owner_eq named
  · have unclear := (represents.holds owned).unclear
    have same := unclear.sees.contents.2.owner_eq named
    rw [← same]
    exact unclear.sees

/-! ## A pool that is only looked at -/

theorem mem_of_lookup {directory directory' : AList fun _ : String => SlotFile}
    (same : ∀ file, directory'.lookup file = directory.lookup file) (file : String) :
    file ∈ directory' ↔ file ∈ directory := by
  rw [← AList.lookup_isSome, same, AList.lookup_isSome]

theorem Rep.unloadedWith (rep : Rep mode w g) (unloaded : g.loaded = false)
    (still : w.Still w') (allowed : ∀ reply ∈ w'.env.replies, Reply.Allowed mode reply)
    (same : g'.known = g.known ∧ g'.loaded = g.loaded ∧ g'.staging = g.staging)
    (unknown : g.known = false → g'.owner = g.owner)
    (disk : g.known = true → Disk mode w'.directory g') : Rep mode w' g' := by
  obtain ⟨noAvailable, noNames, noLost⟩ := rep.unloaded unloaded
  have staging : g'.staging = none := by
    rw [same.2.2]
    rcases staging : g.staging with _ | ⟨file, data⟩
    · rfl
    · have top := (rep.staged file data staging).1
      rw [noAvailable] at top
      exact nomatch top
  have unloaded' : g'.loaded = false := same.2.1.trans unloaded
  have empty : w'.availableFiles = [] ∧ w'.mapFilenameToFile = ∅ ∧ w'.quarantinedFiles = [] :=
    ⟨still.available.trans noAvailable, still.names.trans noNames, still.quarantined.trans noLost⟩
  have unmapped {name file : String} : w'.mapFilenameToFile.lookup name ≠ some file := by
    rw [empty.2.1, AList.lookup_empty]
    exact nofun
  exact {
    allowed := allowed
    disk := fun known => disk (same.1.symm.trans known)
    unknown := fun unknown' => by
      have before := same.1.symm.trans unknown'
      rw [unknown before]
      exact ⟨(rep.unknown before).1, unloaded'⟩
    unloaded := fun _ => empty
    nodup := by
      rw [empty.1, empty.2.2]
      exact List.nodup_nil
    mapped := fun _ _ mapped => absurd mapped unmapped
    owned := fun loaded => nomatch unloaded'.symm.trans loaded
    available := fun _ member => by
      rw [empty.1] at member
      exact nomatch member
    guarded := fun _ staged => nomatch staging.symm.trans staged
    staged := fun _ _ staged => nomatch staging.symm.trans staged
    quarantined := fun _ member => by
      rw [empty.2.2] at member
      exact nomatch member
    healthy := fun loaded => nomatch unloaded'.symm.trans loaded
    opened := fun _ _ mapped => absurd mapped unmapped
    readable := fun loaded => nomatch unloaded'.symm.trans loaded }

/-! ## Classifying -/

structure Sorted (directory : AList fun _ : String => SlotFile) (files : List String)
    (assigned : AList fun _ : String => String) (available : List String) : Prop where
  assigned : ∀ name file, assigned.lookup name = some file ↔
    file ∈ files ∧ decoded directory file = some (.ok (some name))
  available : available = files.filter fun file => decoded directory file = some (.ok none)
  readable : ∀ file ∈ files, ∃ found, decoded directory file = some (.ok found)

inductive Unsorted (directory : AList fun _ : String => SlotFile) (files : List String) : Prop
  | unreadable (file : String) (reason : String) (member : file ∈ files)
      (broken : decoded directory file = some (.error reason))
  | duplicate (name first second : String)
      (split : ∃ before after, files = before ++ second :: after ∧ first ∈ before)
      (one : decoded directory first = some (.ok (some name)))
      (other : decoded directory second = some (.ok (some name)))

/-- The slots have been looked at, and the browser is still as assumed. -/
structure World.Viewed (mode : Mode) (w w' : World) : Prop where
  looked : w.Looked w'
  allowed : ∀ reply ∈ w'.env.replies, Reply.Allowed mode reply

theorem World.Viewed.trans (first : w.Viewed mode w') (second : w'.Viewed mode w'') :
    w.Viewed mode w'' := ⟨first.looked.trans second.looked, second.allowed⟩

theorem World.Viewed.decoded (viewed : w.Viewed mode w') (file : String) :
    decoded w'.directory file = decoded w.directory file := by
  unfold Sahpool.decoded
  rw [viewed.looked.contents]

theorem onSlot_views {x : SlotM ε α} {Q : α → Prop} {R : Prop}
    (found : w.directory.lookup file = some content)
    (does : Does mode x ⟨content, w.env.replies⟩ (fun value file => file = content ∧ Q value)
      fun file => file = content ∧ R) :
    Prog.Ends (onSlot file x) w (fun value w' => w.Viewed mode w' ∧ Q value)
      (fun _ w' => w.Viewed mode w' ∧ R)
      fun w' => ∃ w₁, w.Viewed mode w₁ ∧ w₁.directory = w'.directory := by
  refine (onSlot_ends found does).mono ?_ ?_ ?_
  · rintro value w' ⟨_, replies, allowed, rfl, rfl, holds⟩
    exact ⟨⟨.after found replies, allowed⟩, holds⟩
  · rintro _ w' ⟨_, replies, allowed, rfl, rfl, reason⟩
    exact ⟨⟨.after found replies, allowed⟩, reason⟩
  · rintro w' ⟨_, replies, rfl, rfl, -⟩
    exact ⟨_, ⟨.after found [], noReplies⟩, rfl⟩

theorem Sorted.nil (directory : AList fun _ : String => SlotFile) : Sorted directory [] ∅ [] := by
  refine ⟨fun name file => ?_, rfl, nofun⟩
  rw [AList.lookup_empty]
  exact ⟨nofun, fun holds => nomatch holds.1⟩

theorem Sorted.snoc_none {directory : AList fun _ : String => SlotFile} {files : List String}
    {assigned : AList fun _ : String => String} {available : List String}
    (sorted : Sorted directory files assigned available)
    (nameless : decoded directory file = some (.ok none)) :
    Sorted directory (files ++ [file]) assigned (available ++ [file]) where
  assigned name other := by
    rw [sorted.assigned, List.mem_append, List.mem_singleton]
    constructor
    · exact fun holds => ⟨.inl holds.1, holds.2⟩
    · rintro ⟨earlier | rfl, named⟩
      · exact ⟨earlier, named⟩
      · exact nomatch nameless.symm.trans named
  available := by
    rw [List.filter_append, sorted.available]
    simp [nameless]
  readable other member := by
    rcases List.mem_append.mp member with earlier | here
    · exact sorted.readable other earlier
    · rw [List.mem_singleton.mp here]
      exact ⟨none, nameless⟩

theorem Sorted.snoc_some {directory : AList fun _ : String => SlotFile} {files : List String}
    {assigned : AList fun _ : String => String} {available : List String}
    (sorted : Sorted directory files assigned available)
    (named : decoded directory file = some (.ok (some name))) (new : name ∉ assigned) :
    Sorted directory (files ++ [file]) (assigned.insert name file) available where
  assigned name' other := by
    by_cases same : name' = name
    · subst same
      rw [AList.lookup_insert, List.mem_append, List.mem_singleton]
      constructor
      · rintro ⟨⟩
        exact ⟨.inr rfl, named⟩
      · rintro ⟨earlier | rfl, here⟩
        · have taken := (sorted.assigned name' other).mpr ⟨earlier, here⟩
          exact absurd (AList.lookup_isSome.mp (by rw [taken]; rfl)) new
        · rfl
    · rw [AList.lookup_insert_ne same, sorted.assigned, List.mem_append, List.mem_singleton]
      constructor
      · exact fun holds => ⟨.inl holds.1, holds.2⟩
      · rintro ⟨earlier | rfl, here⟩
        · exact ⟨earlier, here⟩
        · cases named.symm.trans here
          exact absurd rfl same
  available := by
    rw [List.filter_append, sorted.available]
    simp [named]
  readable other member := by
    rcases List.mem_append.mp member with earlier | here
    · exact sorted.readable other earlier
    · rw [List.mem_singleton.mp here]
      exact ⟨some name, named⟩

theorem Sorted.of_viewed {files : List String} {assigned : AList fun _ : String => String}
    {available : List String} (viewed : w.Viewed mode w') :
    Sorted w'.directory files assigned available ↔ Sorted w.directory files assigned available := by
  have same : decoded w'.directory = decoded w.directory := funext viewed.decoded
  constructor
  · rintro ⟨assigned, available, readable⟩
    rw [same] at assigned available readable
    exact ⟨assigned, available, readable⟩
  · rintro ⟨assigned, available, readable⟩
    rw [← same] at assigned available readable
    exact ⟨assigned, available, readable⟩

theorem Unsorted.of_viewed {files : List String} (viewed : w.Viewed mode w')
    (unsorted : Unsorted w'.directory files) : Unsorted w.directory files := by
  cases unsorted with
  | unreadable file reason member broken =>
      exact .unreadable file reason member ((viewed.decoded file).symm.trans broken)
  | duplicate name first second split one other =>
      exact .duplicate name first second split ((viewed.decoded first).symm.trans one)
        ((viewed.decoded second).symm.trans other)

theorem classify_ends (rest : List String) : ∀ {w : World} {files : List String}
    {assigned : AList fun _ : String => String} {available : List String},
    (∀ reply ∈ w.env.replies, Reply.Allowed mode reply) → (∀ file ∈ rest, file ∈ w.directory) →
    Sorted w.directory files assigned available →
    Prog.Ends (classify false assigned available rest) w
      (fun result w' => w.Viewed mode w' ∧ Sorted w.directory (files ++ rest) result.1 result.2)
      (fun _ w' => w.Viewed mode w' ∧
        (mode = .quiet → Unsorted w.directory (files ++ rest)))
      fun w' => ∃ w₁, w.Viewed mode w₁ ∧ w₁.directory = w'.directory := by
  induction rest with
  | nil =>
      intro w files assigned available allowed _ sorted
      rw [List.append_nil]
      exact Prog.Ends.pure ⟨⟨.refl w, allowed⟩, sorted⟩
  | cons file rest ih =>
      intro w files assigned available allowed there sorted
      obtain ⟨content, found⟩ := Option.isSome_iff_exists.mp
        (AList.lookup_isSome.mpr (there file List.mem_cons_self))
      have reading := decoded_of_found found
      have longer : files ++ file :: rest = files ++ [file] ++ rest := by simp
      have onward {w₁ : World} (viewed : w.Viewed mode w₁)
          {assigned' : AList fun _ : String => String}
          {available' : List String}
          (sorted' : Sorted w.directory (files ++ [file]) assigned' available') :
          Prog.Ends (classify false assigned' available' rest) w₁
            (fun result w' => w.Viewed mode w' ∧
              Sorted w.directory (files ++ file :: rest) result.1 result.2)
            (fun _ w' => w.Viewed mode w' ∧
              (mode = .quiet → Unsorted w.directory (files ++ file :: rest)))
            fun w' => ∃ w₁, w.Viewed mode w₁ ∧ w₁.directory = w'.directory := by
        rw [longer]
        refine (ih viewed.allowed (fun other member => ?_)
          ((Sorted.of_viewed viewed).mpr sorted')).mono ?_ ?_ ?_
        · exact (mem_of_lookup viewed.looked.contents other).mpr
            (there other (List.mem_cons_of_mem _ member))
        · rintro result w' ⟨later, sorted⟩
          exact ⟨viewed.trans later, (Sorted.of_viewed viewed).mp sorted⟩
        · rintro _ w' ⟨later, unsorted⟩
          exact ⟨viewed.trans later, fun quiet => (unsorted quiet).of_viewed viewed⟩
        · rintro w' ⟨w₂, later, same⟩
          exact ⟨w₂, viewed.trans later, same⟩
      unfold classify
      refine Prog.Ends.bind_of (onSlot_views found ((associatedFilename_does allowed file).mono
        (fun _ _ holds => holds) fun _ holds => holds)) ?_ ?_ fun _ crashed => crashed
      · rintro found w₁ ⟨viewed, same⟩
        rw [same] at reading
        cases found with
        | none => exact onward viewed (sorted.snoc_none reading)
        | some name =>
            refine Prog.Ends.ite (fun taken => ?_) fun new =>
              onward viewed (sorted.snoc_some reading new)
            refine Prog.Ends.fail ⟨viewed, fun _ => ?_⟩
            obtain ⟨first, mapped⟩ := Option.isSome_iff_exists.mp (AList.lookup_isSome.mpr taken)
            obtain ⟨member, named⟩ := (sorted.assigned name first).mp mapped
            exact .duplicate name first file ⟨files, rest, rfl, member⟩ named reading
      · rintro _ w₁ ⟨viewed, broken⟩
        refine ⟨viewed, fun quiet => ?_⟩
        obtain ⟨reason, unreadable⟩ := broken quiet
        rw [unreadable] at reading
        exact .unreadable file reason (List.mem_append_right _ List.mem_cons_self) reading

theorem classify_clear (files : List String) (assigned : AList fun _ : String => String) :
    ∀ available : List String,
      (classify true assigned available files).run w = (.ok (assigned, available ++ files), w) := by
  induction files with
  | nil =>
      intro available
      rw [List.append_nil]
      rfl
  | cons file rest ih =>
      intro available
      rw [List.append_cons]
      exact ih (available ++ [file])

/-! ## Resetting slots without a name -/

/-- What a reset that may have stopped short makes of a slot. -/
inductive Resetting (mode : Mode) (content : SlotFile) : SlotFile → Prop
  | untouched : Resetting mode content content
  | erasing {content' : SlotFile} (erasing : Erasing mode content content') :
    Resetting mode content content'
  | initializing {content' : SlotFile} (nameless : stored content.contents = .ok none)
      (short : content.contents.length < headerOffsetData)
      (initializing : Initializing content content') : Resetting mode content content'
  | finished {content' : SlotFile} (fresh : Fresh content') : Resetting mode content content'

/-- Some slots change, each as `R` says, and nothing else. -/
structure World.Remakes (R : SlotFile → SlotFile → Prop) (files : List String) (w w' : World) :
    Prop where
  still : w.Still w'
  settings : SameSettings w w'
  others : ∀ file, file ∉ files → w'.directory.lookup file = w.directory.lookup file
  each : ∀ file ∈ files, ∃ content content', w.directory.lookup file = some content ∧
    w'.directory.lookup file = some content' ∧ R content content'

theorem World.Looked.remakes {R : SlotFile → SlotFile → Prop} {files : List String}
    (looked : w.Looked w') (there : ∀ file ∈ files, file ∈ w.directory)
    (refl : ∀ content, R content content) : w.Remakes R files w' where
  still := looked.still
  settings := looked.settings
  others file _ := looked.contents file
  each file member := by
    obtain ⟨content, found⟩ := Option.isSome_iff_exists.mp
      (AList.lookup_isSome.mpr (there file member))
    exact ⟨content, content, found, (looked.contents file).trans found, refl content⟩

theorem World.Remakes.after_looked {R : SlotFile → SlotFile → Prop} {files : List String}
    (looked : w.Looked w') (remakes : w'.Remakes R files w'') : w.Remakes R files w'' where
  still := looked.still.trans remakes.still
  settings := looked.settings.trans remakes.settings
  others file absent := (remakes.others file absent).trans (looked.contents file)
  each file member := by
    obtain ⟨content, content', found, found', holds⟩ := remakes.each file member
    exact ⟨content, content', (looked.contents file).symm.trans found, found', holds⟩

theorem World.Remakes.cons {R : SlotFile → SlotFile → Prop} {rest : List String}
    {replies : List Reply} (found : w.directory.lookup file = some content)
    (holds : R content content') (new : file ∉ rest)
    (remakes : (w.after file content' replies).Remakes R rest w') :
    w.Remakes R (file :: rest) w' where
  still := ⟨remakes.still.available, remakes.still.names, remakes.still.quarantined,
    remakes.still.suspect⟩
  settings := (SameSettings.slots w _ _ _ _ _ _).trans remakes.settings
  others other absent := by
    rw [List.mem_cons, not_or] at absent
    exact (remakes.others other absent.2).trans (AList.lookup_insert_ne absent.1)
  each other member := by
    by_cases same : other = file
    · subst same
      exact ⟨content, content', found, (remakes.others other new).trans (AList.lookup_insert _),
        holds⟩
    · have later := (List.mem_cons.mp member).resolve_left same
      obtain ⟨content₁, content₂, there, there', holds'⟩ := remakes.each other later
      exact ⟨content₁, content₂, (AList.lookup_insert_ne same).symm.trans there, there', holds'⟩

/-- One slot is reset, or initialized if it is too short for a header. -/
theorem resetSlot_ends (allowed : ∀ reply ∈ w.env.replies, Reply.Allowed mode reply)
    (found : w.directory.lookup file = some content) {incomplete : Bool}
    (short : incomplete = true → stored content.contents = .ok none ∧
      content.contents.length < headerOffsetData) :
    Prog.Ends (if incomplete then onSlot file SyncAccessFile.initializeSlot
        else associate file none 0) w
      (fun _ w' => ∃ content' replies, (∀ reply ∈ replies, Reply.Allowed mode reply) ∧
        w' = w.after file content' replies ∧ Fresh content')
      (fun _ w' => mode ≠ .quiet ∧ ∃ content' replies,
        (∀ reply ∈ replies, Reply.Allowed mode reply) ∧
        w' = w.after file content' replies ∧ Resetting mode content content')
      fun w' => ∃ content' replies, w' = w.after file content' replies ∧
        Resetting mode content content' := by
  refine Prog.Ends.ite (fun incomplete => ?_) fun _ => ?_
  · obtain ⟨nameless, short⟩ := short incomplete
    refine (onSlot_ends found (initializeSlot_does allowed)).mono ?_ ?_ ?_
    · rintro _ w' ⟨_, replies, allowed', rfl, rfl⟩
      exact ⟨_, replies, allowed', rfl, fresh_initialized nameless short⟩
    · rintro _ w' ⟨content', replies, allowed', rfl, loud, stopped⟩
      exact ⟨loud, content', replies, allowed', rfl, .initializing nameless short stopped⟩
    · rintro w' ⟨content', replies, rfl, -, stopped⟩
      exact ⟨content', replies, rfl, .initializing nameless short stopped⟩
  · refine (associate_none_ends allowed found).mono ?_ ?_ ?_
    · rintro _ w' ⟨_, replies, allowed', rfl, rfl⟩
      exact ⟨_, replies, allowed', rfl, erased_fresh content⟩
    · rintro _ w' ⟨content', replies, allowed', rfl, loud, stopped⟩
      exact ⟨loud, content', replies, allowed', rfl, .erasing stopped⟩
    · rintro w' ⟨content', replies, rfl, -, stopped⟩
      exact ⟨content', replies, rfl, .erasing stopped⟩

theorem bounded_of_nameless {contents : List UInt8} (nameless : stored contents = .ok none) :
    contents.length ≤ maxSafeInteger := by
  by_contra large
  rw [stored_oversized (by omega)] at nameless
  exact nomatch nameless

theorem resetSlots_ends (clear : Bool) (files : List String) : ∀ {w : World},
    (∀ reply ∈ w.env.replies, Reply.Allowed mode reply) → files.Nodup →
    (∀ file ∈ files, ∃ content, w.directory.lookup file = some content ∧
      (clear = false → stored content.contents = .ok none)) →
    Prog.Ends (resetSlots clear files) w
      (fun _ w' => w.Remakes (fun _ content' => Fresh content') files w' ∧
        ∀ reply ∈ w'.env.replies, Reply.Allowed mode reply)
      (fun _ w' => mode ≠ .quiet ∧ w.Remakes (Resetting mode) files w' ∧
        ∀ reply ∈ w'.env.replies, Reply.Allowed mode reply)
      fun w' => ∃ w₁, w.Remakes (Resetting mode) files w₁ ∧
        (∀ reply ∈ w₁.env.replies, Reply.Allowed mode reply) ∧ w₁.directory = w'.directory := by
  induction files with
  | nil =>
      intro w allowed _ _
      exact Prog.Ends.pure ⟨⟨.refl w, .refl w, fun _ _ => rfl, nofun⟩, allowed⟩
  | cons file rest ih =>
      intro w allowed distinct there
      obtain ⟨new, distinct⟩ := List.nodup_cons.mp distinct
      obtain ⟨content, found, nameless⟩ := there file List.mem_cons_self
      have present (other : String) (member : other ∈ file :: rest) : other ∈ w.directory := by
        obtain ⟨content, found, -⟩ := there other member
        exact AList.lookup_isSome.mp (by rw [found]; rfl)
      -- The rest of the loop, once the size of the first slot is known.
      have onward {w₁ : World} (viewed : w.Viewed mode w₁) (incomplete : Bool)
          (short : incomplete = true → stored content.contents = .ok none ∧
            content.contents.length < headerOffsetData) :
          Prog.Ends ((if incomplete then onSlot file SyncAccessFile.initializeSlot
              else associate file none 0) >>= fun _ => resetSlots clear rest) w₁
            (fun _ w' => w.Remakes (fun _ content' => Fresh content') (file :: rest) w' ∧
              ∀ reply ∈ w'.env.replies, Reply.Allowed mode reply)
            (fun _ w' => mode ≠ .quiet ∧ w.Remakes (Resetting mode) (file :: rest) w' ∧
              ∀ reply ∈ w'.env.replies, Reply.Allowed mode reply)
            fun w' => ∃ w₁, w.Remakes (Resetting mode) (file :: rest) w₁ ∧
              (∀ reply ∈ w₁.env.replies, Reply.Allowed mode reply) ∧
              w₁.directory = w'.directory := by
        have found₁ : w₁.directory.lookup file = some content :=
          (viewed.looked.contents file).trans found
        have present₁ (content' : SlotFile) (replies : List Reply) (other : String)
            (member : other ∈ rest) : other ∈ (w₁.after file content' replies).directory :=
          Rep.mem_directory_insert ((mem_of_lookup viewed.looked.contents other).mpr
            (present other (List.mem_cons_of_mem _ member)))
        have still {R : SlotFile → SlotFile → Prop} (refl : ∀ content, R content content)
            {content' : SlotFile} (replies : List Reply) (holds : R content content') :
            w.Remakes R (file :: rest) (w₁.after file content' replies) :=
          .after_looked viewed.looked (.cons found₁ holds new
            ((World.Looked.refl (w₁.after file content' replies)).remakes
              (present₁ content' replies) refl))
        refine Prog.Ends.bind_of (resetSlot_ends viewed.allowed found₁ short) ?_ ?_ ?_
        · rintro _ w₂ ⟨content', replies, allowed', rfl, fresh⟩
          have nameless' (other : String) (member : other ∈ rest) :
              ∃ content, (w₁.after file content' replies).directory.lookup other = some content ∧
                (clear = false → stored content.contents = .ok none) := by
            obtain ⟨content, found, nameless⟩ := there other (List.mem_cons_of_mem _ member)
            have different : other ≠ file := by
              rintro rfl
              exact new member
            exact ⟨content, (AList.lookup_insert_ne different).trans
              ((viewed.looked.contents other).trans found), nameless⟩
          refine (ih allowed' distinct nameless').mono ?_ ?_ ?_
          · rintro _ w' ⟨remakes, allowed''⟩
            exact ⟨.after_looked viewed.looked (.cons found₁ fresh new remakes), allowed''⟩
          · rintro _ w' ⟨loud, remakes, allowed''⟩
            exact ⟨loud, .after_looked viewed.looked (.cons found₁ (.finished fresh) new remakes),
              allowed''⟩
          · rintro w' ⟨w₃, remakes, allowed'', same⟩
            exact ⟨w₃, .after_looked viewed.looked (.cons found₁ (.finished fresh) new remakes),
              allowed'', same⟩
        · rintro _ w₂ ⟨loud, content', replies, allowed', rfl, stopped⟩
          exact ⟨loud, still (fun _ => .untouched) replies stopped, allowed'⟩
        · rintro w₂ ⟨content', replies, rfl, stopped⟩
          exact ⟨_, still (fun _ => .untouched) [] stopped, noReplies, rfl⟩
      unfold resetSlots
      cases clear with
      | true => exact onward ⟨.refl w, allowed⟩ false nofun
      | false =>
          have sized := onSlot_views (Q := fun size => size = content.contents.length) found
            ((physicalSize_does allowed file).mono (fun _ _ holds => ⟨holds.1, holds.2.1⟩)
              fun _ holds => holds)
          refine Prog.Ends.bind_of sized ?_ ?_ ?_
          · rintro size w₁ ⟨viewed, rfl⟩
            rw [Prog.pure_bind]
            by_cases short : content.contents.length < headerOffsetData
            · rw [decide_eq_true short]
              exact onward viewed true fun _ => ⟨nameless rfl, short⟩
            · rw [decide_eq_false short]
              exact onward viewed false nofun
          · rintro _ w₁ ⟨viewed, large⟩
            refine ⟨fun quiet => ?_, viewed.looked.remakes present fun _ => .untouched,
              viewed.allowed⟩
            exact absurd (large quiet) (Nat.not_lt.mpr (bounded_of_nameless (nameless rfl)))
          · rintro w' ⟨w₁, viewed, same⟩
            exact ⟨w₁, viewed.looked.remakes present fun _ => .untouched, viewed.allowed, same⟩

/-! ## A load that stopped -/

open Classical in
/-- The names of slots that may have been reset are no longer certain. -/
noncomputable def Ledger.doubtAll (ledger : Ledger) (files : List String) : Ledger :=
  { ledger with entry := fun name =>
      if ∃ file ∈ files, ledger.owner file = some name then .uncertain (ledger.entry name).data
      else ledger.entry name }

theorem Ledger.doubtAll_of_owned {files : List String} (owned : g.owner file = some name)
    (member : file ∈ files) :
    (g.doubtAll files).entry name = .uncertain (g.entry name).data :=
  if_pos ⟨file, member, owned⟩

theorem Ledger.doubtAll_of_unowned {files : List String}
    (unowned : ∀ file ∈ files, g.owner file ≠ some name) :
    (g.doubtAll files).entry name = g.entry name :=
  if_neg fun ⟨file, member, owned⟩ => unowned file member owned

theorem Resetting.blank (resetting : Resetting mode content content') (blank : Blank mode content) :
    Blank mode content' := by
  cases resetting with
  | untouched => exact blank
  | erasing erasing => exact blank.erasing erasing
  | initializing nameless short initializing => exact blank.initializing nameless initializing
  | finished fresh => exact fresh.blank

theorem Resetting.unclear {data : List UInt8} (resetting : Resetting mode content content')
    (unclear : Unclear mode name data content) : Unclear mode name data content' := by
  cases resetting with
  | untouched => exact unclear
  | erasing erasing => exact unclear.erasing erasing
  | initializing nameless short initializing =>
      exact absurd short (Nat.not_lt.mpr unclear.sees.contents.1.low)
  | finished fresh =>
      have staged : Staged mode [] content' := fresh.staged
      refine ⟨(staged.unclear name).sees, fun found => ?_⟩
      exact nomatch fresh.readable.symm.trans found

/-- Slots that are reset may lose their names, and nothing else happens. -/
theorem Disk.resetting {directory directory' : AList fun _ : String => SlotFile}
    {files : List String} (disk : Disk mode directory g)
    (others : ∀ file, file ∉ files → directory'.lookup file = directory.lookup file)
    (each : ∀ file ∈ files, ∃ content content', directory.lookup file = some content ∧
      directory'.lookup file = some content' ∧ Resetting mode content content') :
    Disk mode directory' (g.doubtAll files) where
  slot file content found := by
    by_cases member : file ∈ files
    · obtain ⟨before, content', found', here, resetting⟩ := each file member
      obtain rfl := Option.some.inj (found.symm.trans here)
      have represents := disk.slot file before found'
      rcases owned : g.owner file with _ | name
      · exact represents_blank owned (resetting.blank (represents.blank owned))
      · refine represents_owned owned ?_
        rw [Ledger.doubtAll_of_owned owned member]
        exact resetting.unclear (represents.holds owned).unclear
    · have represents := disk.slot file content ((others file member).symm.trans found)
      rcases owned : g.owner file with _ | name
      · exact represents_blank owned (represents.blank owned)
      · refine represents_owned owned ?_
        rw [Ledger.doubtAll_of_unowned fun other member' owned' =>
          member (disk.injective file other name owned owned' ▸ member')]
        exact represents.holds owned
  inside file name owned := by
    by_cases member : file ∈ files
    · obtain ⟨-, content', -, here, -⟩ := each file member
      exact AList.lookup_isSome.mp (by rw [here]; rfl)
    · have there := disk.inside file name owned
      rwa [← AList.lookup_isSome, others file member, AList.lookup_isSome]
  injective := disk.injective
  kept name temporary durable data present := by
    by_cases doubted : ∃ file ∈ files, g.owner file = some name
    · obtain ⟨file, member, owned⟩ := doubted
      rw [Ledger.doubtAll_of_owned owned member] at present
      exact nomatch present
    · rw [Ledger.doubtAll_of_unowned fun file member owned => doubted ⟨file, member, owned⟩]
        at present
      exact disk.kept name temporary durable data present

/-- A load that stopped: it has looked at the directory, and may have reset slots that
showed no name. -/
structure LoadStopped (mode : Mode) (w : World) (g : Ledger) (w' : World) (g' : Ledger) : Prop where
  rep : Rep mode w' g'
  still : w.Still w'
  settings : SameSettings w w'
  files : ∀ file, file ∈ w'.directory ↔ file ∈ w.directory
  named : ∀ file name, decoded w.directory file = some (.ok (some name)) →
    w'.directory.lookup file = w.directory.lookup file
  loaded : g'.loaded = g.loaded
  known : g'.known = g.known
  ledger : ∃ files, g' = g.doubtAll files ∧
    ∀ file ∈ files, decoded w.directory file = some (.ok none)

theorem LoadStopped.of_remakes (rep : Rep mode w g) (unloaded : g.loaded = false)
    {files : List String} (nameless : ∀ file ∈ files, decoded w.directory file = some (.ok none))
    (remakes : w.Remakes (Resetting mode) files w')
    (allowed : ∀ reply ∈ w'.env.replies, Reply.Allowed mode reply) :
    LoadStopped mode w g w' (g.doubtAll files) where
  rep := by
    refine rep.unloadedWith unloaded remakes.still allowed ⟨rfl, rfl, rfl⟩ (fun _ => rfl) ?_
    exact fun known => (rep.disk known).resetting remakes.others remakes.each
  still := remakes.still
  settings := remakes.settings
  files file := by
    by_cases member : file ∈ files
    · obtain ⟨content, content', found, found', -⟩ := remakes.each file member
      rw [← AList.lookup_isSome, ← AList.lookup_isSome, found, found']
      exact Iff.rfl
    · rw [← AList.lookup_isSome, ← AList.lookup_isSome, remakes.others file member]
  named file name named := by
    refine remakes.others file fun member => ?_
    exact nomatch (nameless file member).symm.trans named
  loaded := rfl
  known := rfl
  ledger := ⟨files, rfl, nameless⟩

/-! ## A load that succeeded -/

/-- The acquired slots are split into those of a name and those to be reset. -/
structure Split (directory : AList fun _ : String => SlotFile) (files : List String)
    (assigned : AList fun _ : String => String) (available : List String) : Prop where
  assigned : ∀ name file, assigned.lookup name = some file ↔
    file ∈ files ∧ file ∉ available ∧ decoded directory file = some (.ok (some name))
  named : ∀ file ∈ files, file ∉ available → ∃ name,
    decoded directory file = some (.ok (some name))
  among : available.Sublist files

theorem Sorted.split {directory : AList fun _ : String => SlotFile} {files : List String}
    {assigned : AList fun _ : String => String} {available : List String}
    (sorted : Sorted directory files assigned available) :
    Split directory files assigned available where
  assigned name file := by
    rw [sorted.assigned, sorted.available]
    constructor
    · rintro ⟨member, named⟩
      refine ⟨member, fun free => ?_, named⟩
      have nameless := (List.mem_filter.mp free).2
      rw [named] at nameless
      exact nomatch of_decide_eq_true nameless
    · rintro ⟨member, -, named⟩
      exact ⟨member, named⟩
  named file member taken := by
    obtain ⟨found, reading⟩ := sorted.readable file member
    cases found with
    | some name => exact ⟨name, reading⟩
    | none =>
        refine absurd ?_ taken
        rw [sorted.available]
        exact List.mem_filter.mpr ⟨member, decide_eq_true reading⟩
  among := by
    rw [sorted.available]
    exact List.filter_sublist

theorem Split.all {directory : AList fun _ : String => SlotFile} {files : List String} :
    Split directory files ∅ files where
  assigned name file := by
    rw [AList.lookup_empty]
    exact ⟨nofun, fun holds => absurd holds.1 holds.2.1⟩
  named file member taken := absurd member taken
  among := List.Sublist.refl files

section

open Classical in
noncomputable def loadedLedger (mode : Mode) (directory : AList fun _ : String => SlotFile)
    (assigned : AList fun _ : String => String) : Ledger where
  entry name := match (assigned.lookup name).bind directory.lookup with
    | none => .absent
    | some content => .present false (decide (Sees mode (fun image =>
        image.take headerCorpusSize = content.contents.take headerCorpusSize) content))
        (dataOf content.contents)
  owner file := match decoded directory file with
    | some (.ok (some name)) => some name
    | _ => none
  staging := none
  known := true
  loaded := true

variable {directory : AList fun _ : String => SlotFile} {files available : List String}
  {assigned : AList fun _ : String => String}

theorem loadedLedger_owner : (loadedLedger mode directory assigned).owner file = some name ↔
    decoded directory file = some (.ok (some name)) := by
  unfold loadedLedger
  dsimp only
  rcases decoded directory file with _ | reason | _ | found <;> simp

variable (mode) in
theorem loadedLedger_entry (mapped : assigned.lookup name = some file)
    (found : directory.lookup file = some content) :
    ∃ durable : Bool, (loadedLedger mode directory assigned).entry name =
        .present false durable (dataOf content.contents) ∧
      (durable = true ↔ Sees mode (fun image =>
        image.take headerCorpusSize = content.contents.take headerCorpusSize) content) := by
  unfold loadedLedger
  dsimp only
  rw [mapped, Option.bind_some, found]
  classical exact ⟨_, rfl, decide_eq_true_iff⟩

theorem loadedLedger_present {entry : Entry}
    (found : (loadedLedger mode directory assigned).entry name = entry) (there : entry ≠ .absent) :
    (∃ file, assigned.lookup name = some file) ∧ ∀ data, entry ≠ .uncertain data := by
  subst found
  unfold loadedLedger at there ⊢
  dsimp only at there ⊢
  rcases mapped : assigned.lookup name with _ | file
  · rw [mapped] at there
    exact absurd rfl there
  refine ⟨⟨file, rfl⟩, fun data => ?_⟩
  rw [Option.bind_some]
  rcases directory.lookup file with _ | content
  · exact nofun
  · exact nofun

/-- The slots without a name have been reset, and the others are as they were. -/
structure Settled (w : World) (files available : List String)
    (assigned : AList fun _ : String => String) (w' : World) : Prop where
  split : Split w.directory files assigned available
  distinct : files.Nodup
  all : ∀ file, file ∈ w.directory ↔ file ∈ files
  remakes : w.Remakes (fun _ content' => Fresh content') available w'

namespace Settled

variable (settled : Settled w files available assigned w')

include settled

theorem fresh (free : file ∈ available) :
    ∃ content, w'.directory.lookup file = some content ∧ Fresh content := by
  obtain ⟨-, content, -, found, fresh⟩ := settled.remakes.each file free
  exact ⟨content, found, fresh⟩

theorem files_iff (file : String) : file ∈ w'.directory ↔ file ∈ w.directory := by
  by_cases free : file ∈ available
  · obtain ⟨content, found, -⟩ := settled.fresh free
    have present := AList.lookup_isSome.mp (by rw [found]; rfl : (w'.directory.lookup file).isSome)
    exact iff_of_true present ((settled.all file).mpr (settled.split.among.subset free))
  · rw [← AList.lookup_isSome, settled.remakes.others file free, AList.lookup_isSome]

theorem nameless (free : file ∈ available) :
    decoded w'.directory file = some (.ok none) := by
  obtain ⟨content, found, fresh⟩ := settled.fresh free
  rw [decoded_of_found found, fresh.readable]

theorem same (taken : file ∉ available) : decoded w'.directory file = decoded w.directory file := by
  unfold decoded
  rw [settled.remakes.others file taken]

theorem reading : decoded w'.directory file = some (.ok (some name)) ↔
    assigned.lookup name = some file := by
  rw [settled.split.assigned]
  by_cases free : file ∈ available
  · rw [settled.nameless free]
    exact ⟨nofun, fun holds => absurd free holds.2.1⟩
  · rw [settled.same free]
    refine ⟨fun named => ⟨(settled.all file).mp ?_, free, named⟩, fun holds => holds.2.2⟩
    rcases found : w.directory.lookup file with _ | content
    · unfold decoded at named
      rw [found] at named
      exact nomatch named
    · exact AList.lookup_isSome.mp (by rw [found]; rfl)

theorem free_of_unowned (present : file ∈ w'.directory)
    (unowned : (loadedLedger mode w'.directory assigned).owner file = none) : file ∈ available := by
  by_contra taken
  obtain ⟨name, named⟩ := settled.split.named file
    ((settled.all file).mp ((settled.files_iff file).mp present)) taken
  rw [← settled.same taken] at named
  exact nomatch unowned.symm.trans (loadedLedger_owner.mpr named)

theorem unowned (free : file ∈ available) :
    (loadedLedger mode w'.directory assigned).owner file = none := by
  rcases owned : (loadedLedger mode w'.directory assigned).owner file with _ | name
  · rfl
  · exact nomatch (settled.nameless free).symm.trans (loadedLedger_owner.mp owned)

theorem disk (legible : ∀ file content, w.directory.lookup file = some content →
    Legible mode content) :
    Disk mode w'.directory (loadedLedger mode w'.directory assigned) where
  slot file content found := by
    rcases owned : (loadedLedger mode w'.directory assigned).owner file with _ | name
    · have free := settled.free_of_unowned (AList.lookup_isSome.mp (by rw [found]; rfl)) owned
      obtain ⟨content', found', fresh⟩ := settled.fresh free
      obtain rfl := Option.some.inj (found.symm.trans found')
      exact represents_blank owned fresh.blank
    · have named := loadedLedger_owner.mp owned
      have mapped := settled.reading.mp named
      have taken := ((settled.split.assigned name file).mp mapped).2.1
      obtain ⟨durable, entry, kept⟩ := loadedLedger_entry mode mapped found
      have reads : stored content.contents = .ok (some name) := by
        rw [decoded_of_found found] at named
        exact Option.some.inj named
      refine represents_owned owned ?_
      rw [entry]
      exact ⟨⟨_, storedHeader_of_stored reads, rfl, kept.mp⟩,
        legible file content ((settled.remakes.others file taken).symm.trans found) name reads, rfl⟩
  inside file name owned := by
    have named := loadedLedger_owner.mp owned
    by_contra absent
    unfold decoded at named
    rw [AList.lookup_eq_none.mpr absent] at named
    exact nomatch named
  injective first second name owned owned' := by
    have one := settled.reading.mp (loadedLedger_owner.mp owned)
    exact Option.some.inj (one.symm.trans (settled.reading.mp (loadedLedger_owner.mp owned')))
  kept name temporary durable data present := by
    obtain ⟨file, mapped⟩ := (loadedLedger_present present nofun).1
    exact ⟨file, loadedLedger_owner.mpr (settled.reading.mpr mapped)⟩

theorem rep (legible : ∀ file content, w.directory.lookup file = some content →
    Legible mode content) (allowed : ∀ reply ∈ w'.env.replies, Reply.Allowed mode reply)
    (calm : w'.quarantinedFiles = []) :
    Rep mode { w' with
      mapFilenameToFile := assigned, availableFiles := available, needsRecovery := false }
      (loadedLedger mode w'.directory assigned) where
  allowed := allowed
  disk _ := settled.disk legible
  unknown := nofun
  unloaded := nofun
  nodup := by
    change (available ++ w'.quarantinedFiles).Nodup
    rw [calm, List.append_nil]
    exact settled.distinct.sublist settled.split.among
  mapped name file mapped := by
    refine ⟨loadedLedger_owner.mpr (settled.reading.mpr mapped), ?_⟩
    change file ∉ w'.quarantinedFiles
    rw [calm]
    exact List.not_mem_nil
  owned _ file name owned := .inl (settled.reading.mp (loadedLedger_owner.mp owned))
  available file free := by
    obtain ⟨content, found, fresh⟩ := settled.fresh free
    exact ⟨settled.unowned free, content, found, .inl fresh⟩
  guarded := nofun
  staged := nofun
  quarantined file lost := by
    change file ∈ w'.quarantinedFiles at lost
    rw [calm] at lost
    exact nomatch lost
  healthy _ _ name data uncertain := (loadedLedger_present uncertain nofun).2 data rfl
  opened name file mapped _ := by
    obtain ⟨content, found⟩ : ∃ content, w'.directory.lookup file = some content := by
      obtain ⟨member, -, -⟩ := (settled.split.assigned name file).mp mapped
      exact Option.isSome_iff_exists.mp (AList.lookup_isSome.mpr
        ((settled.files_iff file).mpr ((settled.all file).mpr member)))
    obtain ⟨durable, entry, -⟩ := loadedLedger_entry mode mapped found
    exact ⟨false, durable, _, entry⟩
  readable _ file content found unowned _ := by
    have free := settled.free_of_unowned (AList.lookup_isSome.mp (by rw [found]; rfl)) unowned
    obtain ⟨content', found', fresh⟩ := settled.fresh free
    obtain rfl := Option.some.inj (found.symm.trans found')
    exact fresh.readable

/-- The pool holds exactly the files of the directory. -/
theorem held (calm : w'.quarantinedFiles = []) :
    (World.held { w' with
      mapFilenameToFile := assigned, availableFiles := available, needsRecovery := false }).Perm
      files := by
  unfold World.held
  dsimp only
  rw [calm, List.append_nil]
  have values : (assigned.entries.map Sigma.snd).Nodup := by
    refine (List.nodup_map_iff_inj_on (assigned.nodupKeys.nodup)).mpr ?_
    rintro ⟨name, file⟩ member ⟨other, file'⟩ member' same
    obtain rfl : file = file' := same
    have one := (settled.split.assigned name file).mp (AList.mem_lookup_iff.mpr member)
    have two := (settled.split.assigned other file).mp (AList.mem_lookup_iff.mpr member')
    cases one.2.2.symm.trans two.2.2
    rfl
  refine (List.perm_ext_iff_of_nodup (List.nodup_append.mpr ⟨?_, values, ?_⟩)
    settled.distinct).mpr fun file => ?_
  · exact settled.distinct.sublist settled.split.among
  · rintro file free other mapped rfl
    obtain ⟨⟨name, _⟩, member, rfl⟩ := List.mem_map.mp mapped
    exact ((settled.split.assigned name _).mp (AList.mem_lookup_iff.mpr member)).2.1 free
  · rw [List.mem_append]
    constructor
    · rintro (free | mapped)
      · exact settled.split.among.subset free
      · obtain ⟨⟨name, _⟩, member, rfl⟩ := List.mem_map.mp mapped
        exact ((settled.split.assigned name _).mp (AList.mem_lookup_iff.mpr member)).1
    · intro member
      by_cases free : file ∈ available
      · exact .inl free
      · obtain ⟨name, named⟩ := settled.split.named file member free
        have mapped := (settled.split.assigned name file).mpr ⟨member, free, named⟩
        exact .inr (List.mem_map.mpr ⟨⟨name, file⟩, AList.mem_lookup_iff.mp mapped, rfl⟩)

end Settled

end

/-! ## The calls of a load -/

theorem World.Consulted.viewed (consulted : w.Consulted mode w') : w.Viewed mode w' := by
  obtain ⟨⟨env, rfl⟩, allowed⟩ := consulted
  exact ⟨.asked w env, allowed⟩

theorem tryReserve_asks (allowed : ∀ reply ∈ w.env.replies, Reply.Allowed mode reply) :
    Prog.Ends tryReserve w
      (fun _ w' => w.Consulted mode w' ∧ ∀ granted ∈ w'.env.grants, granted ∈ w.env.grants)
      (fun _ w' => w.Consulted mode w' ∧ false ∈ w.env.grants) fun _ => False := by
  unfold Prog.Ends Prog.wp tryReserve
  dsimp only
  rcases grants : w.env.grants with _ | ⟨granted, rest⟩
  · exact ⟨.refl allowed, by rw [grants]; exact fun _ member => member⟩
  · cases granted with
    | true => exact ⟨⟨⟨_, rfl⟩, allowed⟩, fun _ member => List.mem_cons_of_mem _ member⟩
    | false => exact ⟨⟨⟨_, rfl⟩, allowed⟩, List.mem_cons_self⟩

def LoadStops (mode : Mode) (clear : Bool) (w w' : World) : Prop :=
  (∀ reply ∈ w'.env.replies, Reply.Allowed mode reply) ∧
    ∃ files, w.Remakes (Resetting mode) files w' ∧
      (clear = false → ∀ file ∈ files, decoded w.directory file = some (.ok none))

theorem World.Viewed.stops {clear : Bool} (viewed : w.Viewed mode w') : LoadStops mode clear w w' :=
  ⟨viewed.allowed, [], viewed.looked.remakes nofun fun _ => .untouched,
    fun _ _ member => nomatch member⟩

theorem LoadStops.after_viewed {clear : Bool} (viewed : w.Viewed mode w')
    (stops : LoadStops mode clear w' w'') : LoadStops mode clear w w'' := by
  obtain ⟨allowed, files, remakes, nameless⟩ := stops
  refine ⟨allowed, files, .after_looked viewed.looked remakes, fun keeping file member => ?_⟩
  rw [← viewed.decoded]
  exact nameless keeping file member

def LoadRefused (mode : Mode) (clear : Bool) (w : World) : Prop :=
  mode = .quiet → false ∈ w.env.grants ∨
    (clear = false ∧ ∃ files, files.Nodup ∧ Unsorted w.directory files)

structure Loaded (mode : Mode) (clear : Bool) (w w' : World) (g' : Ledger) : Prop where
  rep : Rep mode w' g'
  ledger : g' = loadedLedger mode w'.directory w'.mapFilenameToFile
  settings : SameSettings w w'
  healthy : w'.needsRecovery = false
  calm : w'.quarantinedFiles = []
  files : ∀ file, file ∈ w'.directory ↔ file ∈ w.directory
  held : ∀ file, file ∈ w'.held ↔ file ∈ w.directory
  distinct : w'.held.Nodup
  names : ∀ name file, w'.mapFilenameToFile.lookup name = some file ↔
    decoded w'.directory file = some (.ok (some name))
  kept : ∀ name file, w'.mapFilenameToFile.lookup name = some file →
    w'.directory.lookup file = w.directory.lookup file
  found : clear = false → ∀ name file, decoded w.directory file = some (.ok (some name)) →
    w'.mapFilenameToFile.lookup name = some file
  cleared : clear = true → w'.mapFilenameToFile = ∅

inductive Entry.Reread : Entry → Entry → Prop
  | absent : Reread .absent .absent
  | dropped (durable : Bool) (data : List UInt8) : Reread (.present true durable data) .absent
  | found (durable durable' : Bool) (data : List UInt8) (kept : durable = true → durable' = true) :
    Reread (.present false durable data) (.present false durable' data)
  | lost (data : List UInt8) : Reread (.uncertain data) .absent
  | recovered (durable : Bool) (data : List UInt8) :
    Reread (.uncertain data) (.present false durable data)

inductive Entry.HalfRead (entry : Entry) : Entry → Prop
  | kept : HalfRead entry entry
  | read (after : Entry) (reread : entry.Reread after) : HalfRead entry after
  | doubted (durable : Bool) (data : List UInt8) (temporary : entry = .present true durable data) :
    HalfRead entry (.uncertain data)

theorem Named.stored_eq {temporary durable : Bool} {data : List UInt8}
    (named : Named mode name temporary durable data content) (classified : mode ≠ .lax) :
    stored content.contents = .ok (if temporary then none else some name) := by
  obtain ⟨header, valid, taken, -⟩ := named.header
  exact valid.stored_eq classified named.sees.contents.1 taken

theorem Disk.matches_of_decoded {directory : AList fun _ : String => SlotFile}
    (disk : Disk mode directory g) (named : decoded directory file = some (.ok (some name))) :
    ∃ content, directory.lookup file = some content ∧
      stored content.contents = .ok (some name) ∧ (g.entry name).Matches mode name content := by
  obtain ⟨content, found, reading⟩ := Option.map_eq_some_iff.mp named
  have represents := disk.slot file content found
  refine ⟨content, found, reading, ?_⟩
  rcases owned : g.owner file with _ | other
  · have blank : Names mode none content.contents := (represents.blank owned).contents
    cases blank.owner_eq reading
  · have seen : Names mode (some other) content.contents :=
      (represents.holds owned).unclear.sees.contents.2
    obtain rfl := Option.some.inj (seen.owner_eq reading)
    exact represents.holds owned

theorem Disk.decoded_of_present {directory : AList fun _ : String => SlotFile}
    (disk : Disk mode directory g) (classified : mode ≠ .lax) {temporary durable : Bool}
    {data : List UInt8} (present : g.entry name = .present temporary durable data) :
    ∃ file content, g.owner file = some name ∧ directory.lookup file = some content ∧
      dataOf content.contents = data ∧
      decoded directory file = some (.ok (if temporary then none else some name)) := by
  obtain ⟨file, owned⟩ := disk.kept name temporary durable data present
  obtain ⟨content, found, holds⟩ := disk.exists_content owned
  rw [present] at holds
  have named : Named mode name temporary durable data content := holds
  refine ⟨file, content, owned, found, named.data_eq, ?_⟩
  unfold decoded
  rw [found, Option.map_some, named.stored_eq classified]

theorem Loaded.reread (loaded : Loaded mode false w w' g') (disk : Disk mode w.directory g)
    (classified : mode ≠ .lax) (name : String) : (g.entry name).Reread (g'.entry name) := by
  rw [loaded.ledger]
  rcases mapped : w'.mapFilenameToFile.lookup name with _ | file
  · have gone : (loadedLedger mode w'.directory w'.mapFilenameToFile).entry name = .absent := by
      unfold loadedLedger
      simp only [mapped, Option.bind_none]
    rw [gone]
    cases before : g.entry name with
    | absent => exact .absent
    | uncertain data => exact .lost data
    | present temporary durable data =>
        cases temporary with
        | true => exact .dropped durable data
        | false =>
            obtain ⟨file, content, -, -, -, here⟩ := disk.decoded_of_present classified before
            rw [loaded.found rfl name file here] at mapped
            cases mapped
  · have there := (loaded.names name file).mp mapped
    have same := loaded.kept name file mapped
    have named : decoded w.directory file = some (.ok (some name)) := by
      unfold decoded at there ⊢
      rw [← same]
      exact there
    obtain ⟨content, found, reading, holds⟩ := disk.matches_of_decoded named
    obtain ⟨durable', present, lasts⟩ := loadedLedger_entry mode mapped (same.trans found)
    rw [present]
    cases before : g.entry name with
    | absent =>
        rw [before] at holds
        exact holds.elim
    | uncertain data =>
        rw [before] at holds
        have unclear : Unclear mode name data content := holds
        rw [unclear.data_eq reading]
        exact .recovered durable' data
    | present temporary durable data =>
        rw [before] at holds
        have named : Named mode name temporary durable data content := holds
        cases temporary with
        | true =>
            rw [named.stored_eq classified] at reading
            cases reading
        | false =>
            rw [named.data_eq]
            obtain ⟨header, -, rfl, kept⟩ := named.header
            exact .found durable durable' data fun before => lasts.mpr (kept before)

theorem Ledger.halfRead_doubtAll {directory : AList fun _ : String => SlotFile}
    {files : List String} (disk : Disk mode directory g) (classified : mode ≠ .lax)
    (nameless : ∀ file ∈ files, decoded directory file = some (.ok none)) (name : String) :
    (g.entry name).HalfRead ((g.doubtAll files).entry name) := by
  by_cases doubted : ∃ file ∈ files, g.owner file = some name
  · obtain ⟨file, member, owned⟩ := doubted
    rw [Ledger.doubtAll_of_owned owned member]
    cases before : g.entry name with
    | absent =>
        obtain ⟨content, -, holds⟩ := disk.exists_content owned
        rw [before] at holds
        exact holds.elim
    | uncertain data => exact .kept
    | present temporary durable data =>
        cases temporary with
        | true => exact .doubted durable data rfl
        | false =>
            obtain ⟨other, content, owned', -, -, here⟩ := disk.decoded_of_present classified before
            obtain rfl := disk.injective file other name owned owned'
            rw [nameless file member] at here
            cases here
  · rw [Ledger.doubtAll_of_unowned fun file member owned => doubted ⟨file, member, owned⟩]
    exact .kept

theorem World.Looked.decoded (looked : w.Looked w') (file : String) :
    decoded w'.directory file = decoded w.directory file := by
  unfold Sahpool.decoded
  rw [looked.contents]

theorem Loaded.after_looked {clear : Bool} (looked : w.Looked w')
    (loaded : Loaded mode clear w' w'' g) : Loaded mode clear w w'' g where
  rep := loaded.rep
  ledger := loaded.ledger
  settings := looked.settings.trans loaded.settings
  healthy := loaded.healthy
  calm := loaded.calm
  files file := (loaded.files file).trans (mem_of_lookup looked.contents file)
  held file := (loaded.held file).trans (mem_of_lookup looked.contents file)
  distinct := loaded.distinct
  names := loaded.names
  kept name file mapped := (loaded.kept name file mapped).trans (looked.contents file)
  found keeping name file named :=
    loaded.found keeping name file ((looked.decoded file).trans named)
  cleared := loaded.cleared

theorem Settled.loaded {clear : Bool} {files available : List String}
    {assigned : AList fun _ : String => String} (settled : Settled w files available assigned w')
    (legible : ∀ file content, w.directory.lookup file = some content → Legible mode content)
    (allowed : ∀ reply ∈ w'.env.replies, Reply.Allowed mode reply)
    (calm : w'.quarantinedFiles = [])
    (found : clear = false → ∀ file ∈ available, decoded w.directory file = some (.ok none))
    (cleared : clear = true → assigned = ∅) :
    Loaded mode clear w { w' with
      mapFilenameToFile := assigned, availableFiles := available, needsRecovery := false }
      (loadedLedger mode w'.directory assigned) where
  rep := settled.rep legible allowed calm
  ledger := rfl
  settings := { settled.remakes.settings with openCount := settled.remakes.settings.openCount }
  healthy := rfl
  calm := calm
  files := settled.files_iff
  held file := (settled.held calm).mem_iff.trans (settled.all file).symm
  distinct := (settled.held calm).nodup_iff.mpr settled.distinct
  names _ _ := settled.reading.symm
  kept name file mapped :=
    settled.remakes.others file ((settled.split.assigned name file).mp mapped).2.1
  found keeping name file named := by
    refine settled.reading.mp ?_
    rw [settled.same]
    · exact named
    · exact fun free => nomatch (found keeping file free).symm.trans named
  cleared := cleared

/-- The part of the load that does not yield. -/
theorem publishLoaded_ends (clear : Bool) {files : List String}
    (allowed : ∀ reply ∈ w.env.replies, Reply.Allowed mode reply) (calm : w.quarantinedFiles = [])
    (distinct : files.Nodup) (all : ∀ file, file ∈ w.directory ↔ file ∈ files)
    (legible : ∀ file content, w.directory.lookup file = some content → Legible mode content) :
    Prog.Ends (publishLoaded clear files) w
      (fun _ w' => ∃ g', Loaded mode clear w w' g')
      (fun _ w' => LoadStops mode clear w w' ∧ LoadRefused mode clear w)
      fun w' => ∃ w₁, LoadStops mode clear w w₁ ∧ w₁.directory = w'.directory := by
  have refused (ungranted : false ∈ w.env.grants) : LoadRefused mode clear w :=
    fun _ => .inl ungranted
  unfold publishLoaded
  refine Prog.Ends.bind_of (tryReserve_asks allowed) ?_ ?_ fun _ impossible => impossible.elim
  swap
  · exact fun _ w₁ failed => ⟨failed.1.viewed.stops, refused failed.2⟩
  rintro _ w₁ ⟨consulted, fewer⟩
  refine Prog.Ends.bind_of (tryReserve_asks consulted.allowed) ?_ ?_
    fun _ impossible => impossible.elim
  swap
  · exact fun _ w₂ failed => ⟨(consulted.trans failed.1).viewed.stops, refused (fewer _ failed.2)⟩
  rintro _ w₂ ⟨consulted', -⟩
  have viewed := (consulted.trans consulted').viewed
  -- The rest of the load, once the slots are split.
  have onward {w₃ : World} (viewed : w.Viewed mode w₃) {assigned : AList fun _ : String => String}
      {available : List String} (split : Split w.directory files assigned available)
      (nameless : clear = false → ∀ file ∈ available, decoded w.directory file = some (.ok none))
      (cleared : clear = true → assigned = ∅) :
      Prog.Ends (resetSlots clear available >>= fun _ => Prog.modify fun w =>
          { w with
            mapFilenameToFile := assigned
            availableFiles := available
            needsRecovery := false })
        w₃ (fun _ w' => ∃ g', Loaded mode clear w w' g')
        (fun (_ : OpfsSAHError) w' => LoadStops mode clear w w' ∧ LoadRefused mode clear w)
        fun w' => ∃ w₁, LoadStops mode clear w w₁ ∧ w₁.directory = w'.directory := by
    have reset := resetSlots_ends (w := w₃) clear available viewed.allowed
      (distinct.sublist split.among) (fun file free => by
        obtain ⟨content, found⟩ := Option.isSome_iff_exists.mp (AList.lookup_isSome.mpr
          ((all file).mpr (split.among.subset free)))
        refine ⟨content, (viewed.looked.contents file).trans found, fun keeping => ?_⟩
        have reading := nameless keeping file free
        rw [decoded_of_found found] at reading
        exact Option.some.inj reading)
    have stopped {w' : World} (remakes : w₃.Remakes (Resetting mode) available w')
        (allowed' : ∀ reply ∈ w'.env.replies, Reply.Allowed mode reply) :
        LoadStops mode clear w w' :=
      ⟨allowed', available, .after_looked viewed.looked remakes, nameless⟩
    refine Prog.Ends.bind_of reset ?_ ?_ ?_
    · rintro _ w' ⟨remakes, allowed'⟩
      have settled : Settled w files available assigned w' :=
        ⟨split, distinct, all, .after_looked viewed.looked remakes⟩
      exact Prog.Ends.modify ⟨_, settled.loaded legible allowed'
        (settled.remakes.still.quarantined.trans calm) nameless cleared⟩
    · rintro _ w' ⟨loud, remakes, allowed'⟩
      exact ⟨stopped remakes allowed', fun quiet => absurd quiet loud⟩
    · rintro w' ⟨w₄, remakes, allowed', same⟩
      exact ⟨w₄, stopped remakes allowed', same⟩
  cases clear with
  | true =>
      refine Prog.Ends.after_ok (classify_clear files ∅ []) ?_
      exact onward viewed Split.all nofun fun _ => rfl
  | false =>
      refine Prog.Ends.bind_of (classify_ends files viewed.allowed (fun file member => ?_)
        (Sorted.nil _)) ?_ ?_ ?_
      · exact (mem_of_lookup viewed.looked.contents file).mpr ((all file).mpr member)
      · rintro ⟨assigned, available⟩ w₃ ⟨viewed', sorted⟩
        have sorted := (Sorted.of_viewed viewed).mp sorted
        rw [List.nil_append] at sorted
        refine onward (viewed.trans viewed') sorted.split (fun _ file free => ?_) nofun
        have reads := sorted.available
        dsimp only at reads
        rw [reads] at free
        exact of_decide_eq_true (List.mem_filter.mp free).2
      · rintro _ w₃ ⟨viewed', unsorted⟩
        refine ⟨(viewed.trans viewed').stops, fun quiet => .inr ⟨rfl, files, distinct, ?_⟩⟩
        rw [List.nil_append] at unsorted
        exact (unsorted quiet).of_viewed viewed
      · rintro w' ⟨w₃, viewed', same⟩
        exact ⟨w₃, (viewed.trans viewed').stops, same⟩

/-! ## Loading step by step -/

def LoadPoint.slots : LoadPoint → List String
  | listing => []
  | acquiring file => [file]

/-- A future that loads the directory meets every file of it once. -/
structure Loads (w : World) (loading : Loading) : Prop where
  distinct : (loading.acquired ++ loading.point.slots ++ loading.entries).Nodup
  all : ∀ file, file ∈ w.directory ↔
    file ∈ loading.acquired ++ loading.point.slots ++ loading.entries

theorem loads_start (clear : Bool) : Loads w ⟨clear, w.directory.keys, [], .listing⟩ :=
  ⟨AList.keys_nodup _, fun _ => AList.mem_keys⟩

theorem Loads.of_looked {loading : Loading} (loads : Loads w loading) (looked : w.Looked w') :
    Loads w' loading :=
  ⟨loads.distinct, fun file => (mem_of_lookup looked.contents file).trans (loads.all file)⟩

theorem awaited_looks {f : JsValue → ε}
    (allowed : ∀ reply ∈ w.env.replies, Reply.Allowed mode reply) :
    Prog.Ends (Prog.mapErr f (directoryCall id)) w
      (fun _ w' => w.Consulted mode w' ∧ w'.env.grants = w.env.grants)
      (fun _ w' => w.Consulted mode w' ∧ mode ≠ .quiet) fun w' => w.Consulted mode w' := by
  refine Prog.Ends.mapErr ?_
  unfold Prog.Ends Prog.wp directoryCall
  dsimp only
  rcases replies : w.env.replies with _ | ⟨reply, rest⟩
  · exact ⟨.refl allowed, rfl⟩
  rw [replies] at allowed
  have consulted : w.Consulted mode { w with env := { w.env with replies := rest } } :=
    ⟨⟨_, rfl⟩, fun reply member => allowed reply (List.mem_cons_of_mem _ member)⟩
  have here := allowed reply List.mem_cons_self
  cases reply with
  | done => exact ⟨consulted, rfl⟩
  | short _ => exact ⟨consulted, rfl⟩
  | thrown error landed =>
      dsimp only
      rw [id, ite_self]
      exact ⟨consulted, here.1⟩
  | crash landed =>
      dsimp only
      rw [id, ite_self]
      exact consulted

def LoadReaches (mode : Mode) (clear : Bool) (w : World) : Poll Loading Unit → World → Prop :=
  Poll.Holds (fun loading w' => w.Consulted mode w' ∧ Loads w' loading ∧ loading.clear = clear)
    fun _ w' => ∃ g', Loaded mode clear w w' g'

theorem Loading.poll_ends (rep : Rep mode w g) (unloaded : g.loaded = false)
    (shut : ∀ file, w.openCount file = 0)
    (legible : ∀ file content, w.directory.lookup file = some content → Legible mode content)
    {loading : Loading} (loads : Loads w loading) :
    Prog.Ends loading.poll w (LoadReaches mode loading.clear w)
      (fun _ w' => LoadStops mode loading.clear w w' ∧ LoadRefused mode loading.clear w)
      fun w' => ∃ w₁, LoadStops mode loading.clear w w₁ ∧ w₁.directory = w'.directory := by
  obtain ⟨clear, entries, acquired, point⟩ := loading
  obtain ⟨distinct, all⟩ := loads
  unfold Loading.poll
  cases point with
  | listing =>
      refine Prog.Ends.bind_of (awaited_looks rep.allowed) ?_ ?_ ?_
      rotate_left
      · exact fun _ w₁ failed => ⟨failed.1.viewed.stops, fun quiet => absurd quiet failed.2⟩
      · exact fun w₁ consulted => ⟨w₁, consulted.viewed.stops, rfl⟩
      rintro _ w₁ ⟨consulted, grants⟩
      have viewed := consulted.viewed
      have looked := viewed.looked
      have refused (refused : LoadRefused mode clear w₁) : LoadRefused mode clear w := by
        intro quiet
        rcases refused quiet with ungranted | ⟨keeping, files, distinct, unsorted⟩
        · exact .inl (grants ▸ ungranted)
        · exact .inr ⟨keeping, files, distinct, unsorted.of_viewed viewed⟩
      cases entries with
      | nil =>
          simp only [LoadPoint.slots, List.append_nil] at distinct all
          have published := publishLoaded_ends clear viewed.allowed
            (looked.still.quarantined.trans (rep.unloaded unloaded).2.2) distinct
            (fun file => (mem_of_lookup looked.contents file).trans (all file))
            fun file content found => legible file content ((looked.contents file).symm.trans found)
          refine Prog.Ends.bind_of published ?_ ?_ ?_
          · rintro _ w₂ ⟨g', loaded⟩
            exact Prog.Ends.pure ⟨g', loaded.after_looked looked⟩
          · exact fun _ w₂ failed => ⟨failed.1.after_viewed viewed, refused failed.2⟩
          · rintro w₂ ⟨w₃, stops, same⟩
            exact ⟨w₃, stops.after_viewed viewed, same⟩
      | cons file entries =>
          refine Prog.Ends.bind_of (tryReserve_asks consulted.allowed) ?_ ?_
            fun _ impossible => impossible.elim
          · rintro _ w₂ ⟨consulted', -⟩
            have both := consulted.trans consulted'
            simp only [LoadPoint.slots, List.append_nil] at distinct all
            refine Prog.Ends.pure ⟨both, ?_, rfl⟩
            constructor
            · rw [List.append_assoc]
              exact distinct
            · intro other
              rw [List.append_assoc]
              exact (mem_of_lookup both.viewed.looked.contents other).trans (all other)
          · rintro _ w₂ ⟨consulted', ungranted⟩
            exact ⟨(consulted.trans consulted').viewed.stops, fun _ => .inl (grants ▸ ungranted)⟩
  | acquiring file =>
      refine Prog.Ends.bind_of (acquire_ends rep.allowed (shut file)) ?_ ?_ ?_
      · rintro _ w₁ consulted
        refine Prog.Ends.pure ⟨consulted, ?_, rfl⟩
        simp only [LoadPoint.slots] at distinct all
        constructor
        · simpa [LoadPoint.slots] using distinct
        · intro other
          have here := (mem_of_lookup consulted.viewed.looked.contents other).trans (all other)
          simpa [LoadPoint.slots] using here
      · exact fun _ w₁ failed => ⟨failed.2.viewed.stops, fun quiet => absurd quiet failed.1⟩
      · exact fun w₁ consulted => ⟨w₁, consulted.viewed.stops, rfl⟩

end Sahpool

end SqliteVfs
