import SqliteVfs.Core.MemDeleteOnClose
import SqliteVfs.Core.MemTransfersSpec

/-!
# Runs with transfers in flight

In any order of imports, exports and requests, the file of an import is out of reach until
it is published whole under a vacant name, or for ever if it is not.
-/

set_option autoImplicit false

namespace SqliteVfs

open MemVfs (Sound)

theorem NamespaceStep.created {bits : Nat} {s t : Namespace} {request : StoreRequest}
    {answer : StoreAnswer} {inode : Nat} (step : NamespaceStep bits s request answer t)
    (created : s.inodes.contents inode ≠ none) : t.inodes.contents inode ≠ none := by
  cases step with
  | openAnonymous | openCreated | createImport | io | importWrite =>
      exact Inodes.contents_hold_ne_none created
  | _ => exact created

theorem NamespaceStep.unheld {bits : Nat} {s t : Namespace} {request : StoreRequest}
    {answer : StoreAnswer} {inode : Nat} (step : NamespaceStep bits s request answer t)
    (unlinked : s.Unlinked inode)
    (unheld : ∀ token opened, s.handles.find token = some opened → opened.file.file ≠ inode) :
    ∀ token opened, t.handles.find token = some opened → opened.file.file ≠ inode := by
  intro token opened live
  cases step with
  | openAnonymous _ _ fresh | openCreated _ _ _ _ _ _ fresh =>
      rcases Tokens.find_issue_cases live with live | ⟨-, rfl⟩
      · exact unheld token opened live
      · rintro rfl
        exact unlinked.created fresh
  | openExisting name _ _ _ bound =>
      rcases Tokens.find_issue_cases live with live | ⟨-, rfl⟩
      · exact unheld token opened live
      · rintro rfl
        exact unlinked.nameless name bound
  | closeDeleting | closeKeeping => exact unheld token opened (Tokens.find_retire_cases live).2
  | _ => exact unheld token opened live

theorem TransferEvent.Ends.unique {event : TransferEvent} {i j : Nat} (ends : event.Ends i)
    (ends' : event.Ends j) : i = j := by
  unfold Ends at ends'
  rcases ends with rfl | rfl | rfl
  · simpa using ends'
  · simpa using ends'
  · simpa using ends'

def StoreRequest.Removes (name : String) : StoreRequest → Prop
  | .delete own | .remove own => own = name
  | .close _ (some own) options => own = name ∧ options.deleteOnClose = true
  | .clear => True
  | _ => False

def TransferEvent.Removes (name : String) : TransferEvent → Prop
  | .store request _ => request.Removes name
  | _ => False

/-- A name stays until a request takes it away. -/
theorem NamespaceStep.stays {bits : Nat} {s t : Namespace} {request : StoreRequest}
    {answer : StoreAnswer} {name : String} (step : NamespaceStep bits s request answer t)
    (bound : s.inodes.names name ≠ none) (kept : ¬ request.Removes name) :
    t.inodes.names name ≠ none := by
  cases step with
  | openCreated own options inode valid vacant =>
      have different : name ≠ own := by
        rintro rfl
        exact bound vacant
      exact (Inodes.names_bind_ne different).trans_ne bound
  | commit target own inode live vacant =>
      have different : name ≠ own := by
        rintro rfl
        exact bound vacant
      exact (Inodes.names_bind_ne different).trans_ne bound
  | closeDeleting handle own options opened live deleting =>
      have different : name ≠ own := by
        rintro rfl
        exact kept ⟨rfl, deleting⟩
      exact (Inodes.names_unbind_ne different).trans_ne bound
  | delete own | remove own =>
      have different : name ≠ own := by
        rintro rfl
        exact kept rfl
      exact (Inodes.names_unbind_ne different).trans_ne bound
  | clear => exact absurd trivial kept
  | _ => exact bound

namespace MemTransfers

variable {bits : Nat} {alloc : Nat → Nat → Bool} {s next : MemTransfers} {event : TransferEvent}
  {answer : TransferAnswer} {i file : Nat} {found : OpenImport}

/-! ## What a turn keeps -/

theorem targets_find : s.session.targets.find i =
    (s.imports.find i).map fun found => (found.name, found.file) := Tokens.find_view

theorem target_of (there : s.imports.find i = some found) :
    s.session.targets.find i = some (found.name, found.file) := by
  rw [targets_find, there]
  rfl

/-- What those who only see names and handles see of a new state. -/
theorem toNamespace_eq (data : MemAppData) (handles : Tokens Instance) (imports : Tokens OpenImport)
    (exports : Tokens OpenExport) :
    (MemTransfers.mk data handles imports exports).session.toNamespace =
      ⟨data.inodes, handles, imports.view fun found => (found.name, found.file)⟩ := rfl

theorem view_replace (there : s.imports.find i = some found)
    (dbImport : DbImport MemAppData MemVfsError) (sent : List UInt8) :
    ((s.imports.replace i { found with dbImport, sent }).view fun found =>
      (found.name, found.file)) = s.imports.view fun found => (found.name, found.file) :=
  Tokens.view_replace there rfl

theorem Turn.isolated (turn : Turn bits alloc s event answer next)
    (isolated : s.session.toNamespace.Isolated) : next.session.toNamespace.Isolated := by
  cases turn with
  | store request direct answer data handles step => exact step.isolated isolated
  | begun name size mode data fits large names inodes =>
      rw [toNamespace_eq, Tokens.view_issue, inodes]
      exact isolated.imported MemAppData.inodes_fresh
  | written i bytes found dbImport data there running same filled inodes =>
      rw [toNamespace_eq, view_replace there, inodes]
      exact isolated.shrink (fun _ _ => id) (fun _ => Inodes.contents_hold_ne_none)
        (fun _ _ => id) fun _ _ => id
  | unwritten i bytes found dbImport data error there failed same inodes =>
      rw [toNamespace_eq, view_replace there, inodes]
      exact isolated
  | published i found data there running whole vacant inodes =>
      rw [toNamespace_eq, Tokens.view_retire, inodes]
      have held : Namespace.Isolated { s.session.toNamespace with
          inodes := s.data.inodes.hold found.file
            (publishedAs found.dbImport.mode found.sent) } :=
        isolated.shrink (fun _ _ => id) (fun _ => Inodes.contents_hold_ne_none)
          (fun _ _ => id) fun _ _ => id
      exact held.published (target_of there)
  | ended event i answer found data ends there failed names contents =>
      obtain ⟨content, inodes⟩ := contents
      rw [toNamespace_eq, Tokens.view_retire, inodes]
      exact isolated.shrink (fun _ _ => id) (fun _ => Inodes.contents_hold_ne_none)
        (fun _ _ => id) fun _ _ live => (Tokens.find_retire_cases live).2
  | absent | unbegun | unexporting | exporting | read | fellShort | dropped => exact isolated

/-! ## The invariant -/

theorem Kept.mono {data data' : MemAppData} (kept : found.Kept bits alloc data)
    (same : data'.inodes.contents found.file = data.inodes.contents found.file) :
    found.Kept bits alloc data' :=
  { kept with held := fun running => same.trans (kept.held running) }

theorem Turn.imports (turn : Turn bits alloc s event answer next) (good : Good bits alloc s) :
    ∀ i found, next.imports.find i = some found → found.Kept bits alloc next.data := by
  have alone {i j : Nat} {found found' : OpenImport} (there : s.imports.find i = some found)
      (there' : s.imports.find j = some found') (different : j ≠ i) : found'.file ≠ found.file := by
    intro same
    have target := target_of there'
    rw [same] at target
    exact different ((good.isolated.unpublished i _ _ (target_of there)).2.2 j _ target)
  intro j found' there'
  cases turn with
  | store request direct answer data handles step =>
      have target := target_of there'
      refine Kept.mono (good.imports j found' there') (step.frame.contents found'.file
        (good.isolated.pending j _ _ target) fun modified => ?_)
      have unopened := (good.isolated.unpublished j _ _ target).2.1
      cases request with
      | io handle request =>
          obtain ⟨-, opened, live, same⟩ := modified
          exact unopened handle opened live (congrArg MemFileHandle.file same)
      | importWrite => exact direct
      | _ => exact modified
  | begun name size mode data fits large names inodes =>
      rcases Tokens.find_issue_cases there' with there' | ⟨-, rfl⟩
      · refine Kept.mono (good.imports j found' there') ?_
        rw [inodes]
        exact Inodes.contents_hold_ne (Inodes.ne_of_fresh MemAppData.inodes_fresh
          (good.isolated.pending j _ _ (target_of there')))
      · refine ⟨rfl, fits, large, fun _ => .new _ size mode, fun _ => ?_⟩
        rw [inodes]
        exact Inodes.contents_hold_self
  | written i bytes found dbImport data there running same filled inodes =>
      rcases Tokens.find_replace_cases there' with ⟨-, rfl⟩ | ⟨different, there'⟩
      · have kept := good.imports i found there
        refine ⟨same.target.trans kept.target, same.size ▸ kept.fits, ?_, fun _ => filled,
          fun _ => ?_⟩
        · intro checked
          rw [same.size]
          exact kept.large (same.mode ▸ checked)
        · rw [inodes]
          exact Inodes.contents_hold_self
      · refine Kept.mono (good.imports j found' there') ?_
        rw [inodes]
        exact Inodes.contents_hold_ne (alone there there' different)
  | unwritten i bytes found dbImport data error there failed same inodes =>
      rcases Tokens.find_replace_cases there' with ⟨-, rfl⟩ | ⟨different, there'⟩
      · have kept := good.imports i found there
        have stopped : dbImport.failed ≠ false := by
          rw [failed]
          exact nofun
        refine ⟨same.target.trans kept.target, same.size ▸ kept.fits, fun checked => ?_,
          fun running => absurd running stopped, fun running => absurd running stopped⟩
        rw [same.size]
        exact kept.large (same.mode ▸ checked)
      · exact Kept.mono (good.imports j found' there') (by rw [inodes])
  | published i found data there running whole vacant inodes =>
      obtain ⟨different, there'⟩ := Tokens.find_retire_cases there'
      refine Kept.mono (good.imports j found' there') ?_
      rw [inodes]
      exact Inodes.contents_hold_ne (alone there there' different)
  | ended event i answer found data ends there failed names contents =>
      obtain ⟨different, there'⟩ := Tokens.find_retire_cases there'
      obtain ⟨content, inodes⟩ := contents
      refine Kept.mono (good.imports j found' there') ?_
      rw [inodes]
      exact Inodes.contents_hold_ne (alone there there' different)
  | absent | unbegun | unexporting | exporting | read | fellShort | dropped =>
      exact good.imports j found' there'

theorem Turn.created (turn : Turn bits alloc s event answer next)
    (created : s.data.inodes.contents file ≠ none) : next.data.inodes.contents file ≠ none := by
  cases turn with
  | store request direct answer data handles step => exact step.created created
  | begun name size mode data fits large names inodes =>
      rw [inodes]
      exact Inodes.contents_hold_ne_none created
  | written i bytes found dbImport data there running same filled inodes =>
      rw [inodes]
      exact Inodes.contents_hold_ne_none created
  | unwritten i bytes found dbImport data error there failed same inodes =>
      rw [inodes]
      exact created
  | published i found data there running whole vacant inodes =>
      rw [inodes]
      exact Inodes.contents_hold_ne_none created
  | ended event i answer found data ends there failed names contents =>
      obtain ⟨content, inodes⟩ := contents
      rw [inodes]
      exact Inodes.contents_hold_ne_none created
  | absent | unbegun | unexporting | exporting | read | fellShort | dropped => exact created

theorem Turn.claimed (turn : Turn bits alloc s event answer next)
    (there : next.imports.find i = some found) :
    s.data.inodes.contents found.file = none ∨
      ∃ earlier, s.imports.find i = some earlier ∧ earlier.name = found.name ∧
        earlier.file = found.file := by
  cases turn with
  | begun =>
      rcases Tokens.find_issue_cases there with there | ⟨-, rfl⟩
      · exact .inr ⟨found, there, rfl, rfl⟩
      · exact .inl MemAppData.inodes_fresh
  | written _ _ _ _ _ there' | unwritten _ _ _ _ _ _ there' =>
      rcases Tokens.find_replace_cases there with ⟨rfl, rfl⟩ | ⟨-, there⟩
      · exact .inr ⟨_, there', rfl, rfl⟩
      · exact .inr ⟨found, there, rfl, rfl⟩
  | published | ended =>
      exact .inr ⟨found, (Tokens.find_retire_cases there).2, rfl, rfl⟩
  | absent | store | unbegun | unexporting | exporting | read | fellShort | dropped =>
      exact .inr ⟨found, there, rfl, rfl⟩

/-- An export goes on where it was, or it was opened now on the file of a name. -/
theorem Turn.exported (turn : Turn bits alloc s event answer next) {opened : OpenExport}
    (there : next.exports.find i = some opened) :
    (∃ name content, event = .beginExport name ∧ answer = .exporting i ∧ i = s.exports.length ∧
      s.data.inodes.names name = some opened.file ∧
      s.data.inodes.contents opened.file = some content ∧ content.length < 2 ^ bits ∧
      opened.dbExport = ⟨MemVfs.exportSource bits opened.file content.length, content.length, 0⟩) ∨
    ∃ earlier, s.exports.find i = some earlier ∧ opened.file = earlier.file ∧
      opened.dbExport.source = earlier.dbExport.source ∧
      opened.dbExport.size = earlier.dbExport.size ∧
      (earlier.dbExport.offset ≤ earlier.dbExport.size →
        opened.dbExport.offset ≤ opened.dbExport.size) := by
  cases turn with
  | exporting name file content bound held fits =>
      rcases Tokens.find_issue_cases there with there | ⟨rfl, rfl⟩
      · exact .inr ⟨opened, there, rfl, rfl, rfl, id⟩
      · exact .inl ⟨name, content, rfl, rfl, rfl, bound, held, fits, rfl⟩
  | read i buf found content there' held inside =>
      rcases Tokens.find_replace_cases there with ⟨rfl, rfl⟩ | ⟨-, there⟩
      · refine .inr ⟨found, there', rfl, rfl, rfl, fun within => ?_⟩
        have := Nat.min_le_left (found.dbExport.size - found.dbExport.offset) buf.length
        unfold OpenExport.wanted
        dsimp only
        omega
      · exact .inr ⟨opened, there, rfl, rfl, rfl, id⟩
  | fellShort i buf found content there' =>
      rcases Tokens.find_replace_cases there with ⟨rfl, rfl⟩ | ⟨-, there⟩
      · exact .inr ⟨_, there', rfl, rfl, rfl, id⟩
      · exact .inr ⟨opened, there, rfl, rfl, rfl, id⟩
  | dropped =>
      exact .inr ⟨opened, (Tokens.find_retire_cases there).2, rfl, rfl, rfl, id⟩
  | absent | store | unbegun | begun | written | unwritten | published | ended | unexporting =>
      exact .inr ⟨opened, there, rfl, rfl, rfl, id⟩

theorem Turn.good (turn : Turn bits alloc s event answer next) (good : Good bits alloc s)
    (sound : Sound bits next.data) : Good bits alloc next where
  sound := sound
  isolated := turn.isolated good.isolated
  imports := turn.imports good
  exports i opened there := by
    rcases turn.exported there with ⟨name, content, -, -, -, -, -, fits, same⟩ |
      ⟨earlier, there, file, source, size, within⟩
    · rw [show opened = ⟨opened.file, opened.dbExport⟩ from rfl, same]
      exact ⟨⟨_, rfl⟩, Nat.zero_le _, fits⟩
    · have kept := good.exports i earlier there
      obtain ⟨length, same⟩ := kept.source
      refine ⟨⟨length, ?_⟩, within kept.within, size ▸ kept.fits⟩
      rw [source, same, file]
  retained i opened there := by
    have before : s.data.inodes.contents opened.file ≠ none ∧
        ∀ token name, s.session.targets.find token ≠ some (name, opened.file) := by
      rcases turn.exported there with ⟨name, content, -, -, -, bound, held, -, -⟩ |
        ⟨earlier, there, file, -, -, -⟩
      · refine ⟨held ▸ Option.some_ne_none _, fun token own pending => ?_⟩
        exact (good.isolated.unpublished token own _ pending).1 name bound
      · rw [file]
        exact good.retained i earlier there
    refine ⟨turn.created before.1, fun token name pending => ?_⟩
    rw [targets_find] at pending
    obtain ⟨found, there, same⟩ := Option.map_eq_some_iff.mp pending
    obtain ⟨rfl, file⟩ := Prod.mk.inj same
    rcases turn.claimed there with fresh | ⟨earlier, there, -, same⟩
    · rw [file] at fresh
      exact before.1 fresh
    · refine before.2 token earlier.name ?_
      rw [target_of there, same, file]

theorem good_start (bits : Nat) (alloc : Nat → Nat → Bool) : Good bits alloc start where
  sound := (StoreSession.good_start bits).sound
  isolated := (StoreSession.good_start bits).isolated
  imports _ _ there := nomatch there
  exports _ _ there := nomatch there
  retained _ _ there := nomatch there

/-! ## Files out of reach -/

/-- A file that nothing leads to. -/
structure Lost (s : MemTransfers) (file : Nat) : Prop where
  unlinked : s.session.toNamespace.Unlinked file
  unheld : ∀ token opened, s.handles.find token = some opened → opened.file.file ≠ file
  unread : ∀ i opened, s.exports.find i = some opened → opened.file ≠ file

theorem Turn.unlinked (turn : Turn bits alloc s event answer next)
    (unlinked : s.session.toNamespace.Unlinked file) :
    next.session.toNamespace.Unlinked file := by
  have created : next.data.inodes.contents file ≠ none := turn.created unlinked.created
  have unclaimed (token : Nat) (name : String)
      (pending : next.session.targets.find token = some (name, file)) :
      s.session.targets.find token = some (name, file) := by
    rw [targets_find] at pending
    obtain ⟨found, there, same⟩ := Option.map_eq_some_iff.mp pending
    obtain ⟨rfl, rfl⟩ := Prod.mk.inj same
    rcases turn.claimed there with fresh | ⟨earlier, there, name, file⟩
    · exact absurd fresh unlinked.created
    · rw [target_of there, name, file]
  have mono (names : ∀ name, next.data.inodes.names name = some file →
      s.data.inodes.names name = some file) : next.session.toNamespace.Unlinked file :=
    unlinked.mono (fun _ => created) names unclaimed
  cases turn with
  | store request direct answer data handles step => exact step.unlinked unlinked
  | begun name size mode data fits large names inodes =>
      refine mono fun other bound => ?_
      rw [inodes] at bound
      exact bound
  | written i bytes found dbImport data there running same filled inodes =>
      refine mono fun other bound => ?_
      rw [inodes] at bound
      exact bound
  | unwritten i bytes found dbImport data error there failed same inodes =>
      refine mono fun other bound => ?_
      rw [inodes] at bound
      exact bound
  | published i found data there running whole vacant inodes =>
      refine mono fun other bound => ?_
      rw [inodes] at bound
      rcases Inodes.names_bind_eq bound with bound | rfl
      · exact bound
      · exact absurd (target_of there) (unlinked.unclaimed i found.name)
  | ended event i answer found data ends there failed names contents =>
      refine mono fun other bound => ?_
      rw [names] at bound
      exact bound
  | absent | unbegun | unexporting | exporting | read | fellShort | dropped => exact unlinked

theorem Turn.lost (turn : Turn bits alloc s event answer next) (lost : s.Lost file) :
    next.Lost file where
  unlinked := turn.unlinked lost.unlinked
  unheld := by
    cases turn with
    | store request direct answer data handles step =>
        exact step.unheld lost.unlinked lost.unheld
    | _ => exact lost.unheld
  unread i opened there := by
    rcases turn.exported there with ⟨name, content, -, -, -, bound, -, -, -⟩ |
      ⟨earlier, there, same, -, -, -⟩
    · rintro rfl
      exact lost.unlinked.nameless name bound
    · rw [same]
      exact lost.unread i earlier there

/-- The file of an import that ends unpublished is lost. -/
theorem Turn.loses (turn : Turn bits alloc s event answer next) (good : Good bits alloc s)
    (there : s.imports.find i = some found) (ends : event.Ends i)
    (unpublished : event = .finish i → answer ≠ .done) : next.Lost found.file := by
  obtain ⟨nameless, unheld, alone⟩ := good.isolated.unpublished i _ _ (target_of there)
  have unread (j : Nat) (opened : OpenExport) (held : s.exports.find j = some opened) :
      opened.file ≠ found.file := by
    intro same
    have unclaimed := (good.retained j opened held).2 i found.name
    rw [same] at unclaimed
    exact unclaimed (target_of there)
  cases turn with
  | absent =>
      rename_i idle
      rcases ends with rfl | rfl | rfl
      · exact nomatch there.symm.trans idle
      · exact nomatch there.symm.trans idle
      · exact nomatch there.symm.trans idle
  | published j =>
      obtain rfl := ends.unique (.inl rfl)
      exact absurd rfl (unpublished rfl)
  | ended event j answer found' data ends' there' failed names contents =>
      obtain rfl := ends.unique ends'
      obtain rfl : found = found' := Option.some.inj (there.symm.trans there')
      obtain ⟨content, inodes⟩ := contents
      refine ⟨⟨?_, fun other bound => ?_, fun token name pending => ?_⟩, unheld, unread⟩
      · change data.inodes.contents found.file ≠ none
        rw [inodes, Inodes.contents_hold_self]
        exact Option.some_ne_none _
      · change data.inodes.names other = some found.file at bound
        rw [names] at bound
        exact nameless other bound
      · rw [toNamespace_eq, Tokens.view_retire] at pending
        obtain ⟨different, pending⟩ := Tokens.find_retire_cases pending
        exact different (alone token name pending)
  | _ => rcases ends with same | same | same <;> exact nomatch same

/-! ## Names -/

theorem Turn.stays (turn : Turn bits alloc s event answer next) {name : String}
    (bound : s.data.inodes.names name ≠ none) (kept : ¬ event.Removes name) :
    next.data.inodes.names name ≠ none := by
  cases turn with
  | store request direct answer data handles step => exact step.stays bound kept
  | begun own size mode data fits large names inodes =>
      rw [inodes]
      exact bound
  | written i bytes found dbImport data there running same filled inodes =>
      rw [inodes]
      exact bound
  | unwritten i bytes found dbImport data error there failed same inodes =>
      rw [inodes]
      exact bound
  | published i found data there running whole vacant inodes =>
      have different : name ≠ found.name := by
        rintro rfl
        exact bound vacant
      rw [inodes]
      exact (Inodes.names_bind_ne different).trans_ne bound
  | ended event i answer found data ends there failed names contents =>
      rw [names]
      exact bound
  | absent | unbegun | unexporting | exporting | read | fellShort | dropped => exact bound

/-! ## What each event does -/

structure Leaves (s : MemTransfers) (file : Nat) (next : MemTransfers) : Prop where
  names : next.data.inodes.names = s.data.inodes.names
  contents : ∀ other, other ≠ file →
    next.data.inodes.contents other = s.data.inodes.contents other
  handles : next.handles = s.handles
  exports : next.exports = s.exports

/-- The file of an import in flight is out of everyone's reach, and holds what was sent. -/
structure Hidden (s : MemTransfers) (i : Nat) (found : OpenImport) : Prop where
  nameless : ∀ name, s.data.inodes.names name ≠ some found.file
  unheld : ∀ token opened, s.handles.find token = some opened → opened.file.file ≠ found.file
  unread : ∀ j opened, s.exports.find j = some opened → opened.file ≠ found.file
  alone : ∀ j other, s.imports.find j = some other → other.file = found.file → j = i
  held : found.dbImport.failed = false → s.data.inodes.contents found.file = some found.sent

/-- One step publishes the whole image under a name that was vacant. -/
structure Publishes (s : MemTransfers) (i : Nat) (found : OpenImport) (next : MemTransfers) :
    Prop where
  running : found.dbImport.failed = false
  whole : found.sent.length = found.dbImport.size
  vacant : s.data.inodes.names found.name = none
  inodes : next.data.inodes = (s.data.inodes.hold found.file
    (publishedAs found.dbImport.mode found.sent)).bind found.name found.file
  imports : next.imports = s.imports.retire i

/-- A read returns what the file of the export holds now, or says how far it fell short. -/
def Reads (s : MemTransfers) (i : Nat) (opened : OpenExport) (buf : List UInt8)
    (answer : TransferAnswer) (next : MemTransfers) : Prop :=
  next.data = s.data ∧ ∃ content, s.data.inodes.contents opened.file = some content ∧
    if opened.wanted buf = 0 ∨ opened.dbExport.offset + opened.wanted buf ≤ content.length then
      answer = .bytes (opened.wanted buf) (SparseVector.readAt content opened.dbExport.offset
        (opened.wanted buf) ++ buf.drop (opened.wanted buf)) ∧
      next.exports.find i = some { opened with
        dbExport := { opened.dbExport with
          offset := opened.dbExport.offset + opened.wanted buf } }
    else
      answer = .failed (.transfer (.shortRead
        (opened.wanted buf - (content.length - opened.dbExport.offset)) 0)) ∧
      next.exports.find i = some opened

def Effect (s : MemTransfers) (answer : TransferAnswer) (next : MemTransfers) :
    TransferEvent → Prop
  | .store request _ => next.imports = s.imports ∧ next.exports = s.exports ∧
      ∃ own, answer = .store own ∧
        s.session.toNamespace.Frame request own next.session.toNamespace
  | .beginImport _ _ _ => s.Leaves s.data.cells.length next
  | .write i bytes => ∀ found, s.imports.find i = some found → s.Leaves found.file next ∧
      ∃ dbImport, found.Same dbImport ∧
        ((answer = .done ∧ found.dbImport.failed = false ∧
            next.imports = s.imports.replace i
            { found with dbImport, sent := found.sent ++ bytes }) ∨
          ((∃ error, answer = .failed error) ∧ dbImport.failed = true ∧
            next.imports = s.imports.replace i { found with dbImport }))
  | .finish i => ∀ found, s.imports.find i = some found →
      (answer = .done ∧ s.Publishes i found next) ∨
        ((∃ error, answer = .failed error) ∧ s.Leaves found.file next)
  | .abort i | .dropImport i => ∀ found, s.imports.find i = some found →
      s.Leaves found.file next
  | .beginExport _ => next.data = s.data ∧ next.imports = s.imports
  | .read i buf => ∀ opened, s.exports.find i = some opened → s.Reads i opened buf answer next
  | .dropExport _ => next.data = s.data ∧ next.imports = s.imports

theorem Leaves.of_hold {content : List UInt8} (data : MemAppData) (imports : Tokens OpenImport)
    (inodes : data.inodes = s.data.inodes.hold file content) :
    s.Leaves file { s with data, imports } where
  names := by rw [inodes]; rfl
  contents other different := by
    dsimp only
    rw [inodes]
    exact Inodes.contents_hold_ne different
  handles := rfl
  exports := rfl

theorem Leaves.of_same (data : MemAppData) (imports : Tokens OpenImport)
    (inodes : data.inodes = s.data.inodes) : s.Leaves file { s with data, imports } where
  names := by rw [inodes]
  contents other different := by rw [inodes]
  handles := rfl
  exports := rfl

theorem Turn.effect (turn : Turn bits alloc s event answer next) :
    s.Effect answer next event := by
  cases turn with
  | absent event idle =>
      cases event with
      | write | finish | abort | dropImport =>
          intro found there
          exact nomatch there.symm.trans idle
      | read =>
          intro opened there
          exact nomatch there.symm.trans idle
      | dropExport => exact ⟨rfl, rfl⟩
      | store | beginImport | beginExport => exact idle.elim
  | store request direct answer data handles step => exact ⟨rfl, rfl, answer, rfl, step.frame⟩
  | unbegun => exact .of_same s.data s.imports rfl
  | begun name size mode data fits large names inodes => exact .of_hold data _ inodes
  | written i bytes found dbImport data there running same filled inodes =>
      intro found' there'
      obtain rfl := Option.some.inj (there.symm.trans there')
      exact ⟨.of_hold data _ inodes, dbImport, same, .inl ⟨rfl, running, rfl⟩⟩
  | unwritten i bytes found dbImport data error there failed same inodes =>
      intro found' there'
      obtain rfl := Option.some.inj (there.symm.trans there')
      exact ⟨.of_same data _ inodes, dbImport, same, .inr ⟨⟨error, rfl⟩, failed, rfl⟩⟩
  | published i found data there running whole vacant inodes =>
      intro found' there'
      obtain rfl := Option.some.inj (there.symm.trans there')
      exact .inl ⟨rfl, running, whole, vacant, inodes, rfl⟩
  | ended event i answer found data ends there failed names contents =>
      obtain ⟨content, inodes⟩ := contents
      have leaves (found' : OpenImport) (there' : s.imports.find i = some found') :
          s.Leaves found'.file { s with data, imports := s.imports.retire i } := by
        obtain rfl := Option.some.inj (there.symm.trans there')
        exact .of_hold data _ inodes
      rcases ends with rfl | rfl | rfl
      · exact fun found' there' => .inr ⟨failed rfl, leaves found' there'⟩
      · exact leaves
      · exact leaves
  | unexporting | exporting | dropped => exact ⟨rfl, rfl⟩
  | read i buf found content there held inside =>
      intro found' there'
      obtain rfl := Option.some.inj (there.symm.trans there')
      refine ⟨rfl, content, held, ?_⟩
      rw [if_pos inside]
      exact ⟨rfl, Tokens.find_replace_self there⟩
  | fellShort i buf found content there held positive past =>
      intro found' there'
      obtain rfl := Option.some.inj (there.symm.trans there')
      refine ⟨rfl, content, held, ?_⟩
      rw [if_neg (by omega)]
      exact ⟨rfl, Tokens.find_replace_self there⟩

/-! ## Runs -/

def Arises (bits : Nat) (alloc : Nat → Nat → Bool) (s : MemTransfers) : Prop :=
  ∃ events, Runs (Step bits alloc) start events s

theorem Good.step (good : Good bits alloc s) (width : bits ≤ 64)
    (called : s.call bits alloc event = some (answer, next)) :
    Good bits alloc next ∧ Turn bits alloc s event answer next := by
  obtain ⟨answer', next', called', sound, turn⟩ := call_turns good width event
  obtain ⟨rfl, rfl⟩ := Prod.mk.inj (Option.some.inj (called.symm.trans called'))
  exact ⟨turn.good good sound, turn⟩

theorem run_keeps {P : MemTransfers → Prop} {events : List TransferEvent} {last : MemTransfers}
    (good : Good bits alloc s) (width : bits ≤ 64) (runs : Runs (Step bits alloc) s events last)
    (initially : P s)
    (kept : ∀ s event answer next, event ∈ events → Turn bits alloc s event answer next → P s →
      P next) : Good bits alloc last ∧ P last := by
  refine runs.invariant (P := fun s => Good bits alloc s ∧ P s) (A := fun event =>
    event ∈ events) ?_ ⟨good, initially⟩ fun event => id
  rintro s event next ⟨good, holds⟩ member ⟨answer, called⟩
  obtain ⟨good', turn⟩ := good.step width called
  exact ⟨good', kept s event answer next member turn holds⟩

theorem Arises.good (arises : Arises bits alloc s) (width : bits ≤ 64) : Good bits alloc s := by
  obtain ⟨events, runs⟩ := arises
  exact (run_keeps (P := fun _ => True) (good_start bits alloc) width runs trivial
    fun _ _ _ _ _ _ => id).1

theorem Good.hidden (good : Good bits alloc s) (there : s.imports.find i = some found) :
    s.Hidden i found := by
  obtain ⟨nameless, unheld, alone⟩ := good.isolated.unpublished i _ _ (target_of there)
  refine ⟨nameless, unheld, fun j opened held same => ?_, fun j other there' same => ?_,
    (good.imports i found there).held⟩
  · have unclaimed := (good.retained j opened held).2 i found.name
    rw [same] at unclaimed
    exact unclaimed (target_of there)
  · have target := target_of there'
    rw [same] at target
    exact alone j _ target

theorem Turn.exports_length (turn : Turn bits alloc s event answer next) :
    s.exports.length ≤ next.exports.length := by
  cases turn with
  | exporting =>
      unfold Tokens.issue
      rw [List.length_append]
      exact Nat.le_add_right _ _
  | read | fellShort | dropped => exact Nat.le_of_eq (List.length_set ..).symm
  | _ => exact Nat.le_refl _

/-- If the export lives, it is one of this many bytes of the file. -/
def Fixed (s : MemTransfers) (i file size : Nat) : Prop :=
  i < s.exports.length ∧ ∀ opened, s.exports.find i = some opened →
    opened.file = file ∧ opened.dbExport.size = size

theorem Turn.fixed {size : Nat} (turn : Turn bits alloc s event answer next)
    (fixed : s.Fixed i file size) : next.Fixed i file size := by
  refine ⟨fixed.1.trans_le turn.exports_length, fun opened there => ?_⟩
  rcases turn.exported there with ⟨name, content, -, -, last, -⟩ |
    ⟨earlier, there, same, -, size, -⟩
  · exact absurd fixed.1 (by omega)
  · rw [same, size]
    exact fixed.2 earlier there

theorem Turn.opens {name : String}
    (turn : Turn bits alloc s (.beginExport name) (.exporting i) next) :
    ∃ file content, s.data.inodes.names name = some file ∧
      s.data.inodes.contents file = some content ∧ next.Fixed i file content.length := by
  generalize same : TransferEvent.beginExport name = event at turn
  generalize exporting : TransferAnswer.exporting i = answer at turn
  cases turn with
  | exporting own file content bound held fits =>
      obtain rfl := TransferEvent.beginExport.inj same
      obtain rfl := TransferAnswer.exporting.inj exporting
      refine ⟨file, content, bound, held, ?_, fun opened there => ?_⟩
      · unfold Tokens.issue
        rw [List.length_append]
        exact Nat.lt_succ_self _
      · rcases Tokens.find_issue_cases there with there | ⟨-, rfl⟩
        · obtain ⟨inside, -⟩ := List.getElem?_eq_some_iff.mp (Tokens.find_eq_some.mp there)
          exact absurd inside (Nat.lt_irrefl _)
        · exact ⟨rfl, rfl⟩
  | ended event j answer found data ends =>
      subst same
      rcases ends with same | same | same <;> exact nomatch same
  | absent event idle =>
      subst same
      exact idle.elim
  | unexporting => exact nomatch exporting
  | _ => exact nomatch same

end MemTransfers

open MemTransfers in
/-- In any order of transfers and requests: every call comes back and does what it should,
imports in flight are hidden, one that was not published stays out of reach, a name is
published twice only if it was taken away in between, and an export keeps to the file that
its name led to when it began. -/
theorem memTransfers_isolated {bits : Nat} {alloc : Nat → Nat → Bool} {s : MemTransfers}
    (width : bits ≤ 64) (arises : Arises bits alloc s) :
    (∀ event, ∃ answer next, s.call bits alloc event = some (answer, next) ∧
      s.Effect answer next event) ∧
    (∀ i found, s.imports.find i = some found → s.Hidden i found) ∧
    (∀ i found event answer next events last, s.imports.find i = some found → event.Ends i →
      s.call bits alloc event = some (answer, next) → (event = .finish i → answer ≠ .done) →
      Runs (Step bits alloc) next events last → last.Lost found.file) ∧
    (∀ i found next events s' j other last, s.imports.find i = some found →
      s.call bits alloc (.finish i) = some (.done, next) → Runs (Step bits alloc) next events s' →
      s'.imports.find j = some other → other.name = found.name →
      s'.call bits alloc (.finish j) = some (.done, last) →
      ∃ event ∈ events, event.Removes found.name) ∧
    (∀ name i next events last opened,
      s.call bits alloc (.beginExport name) = some (.exporting i, next) →
      Runs (Step bits alloc) next events last → last.exports.find i = some opened →
      s.data.inodes.names name = some opened.file ∧
        ∃ content, s.data.inodes.contents opened.file = some content ∧
          opened.dbExport.size = content.length) := by
  have good := arises.good width
  refine ⟨fun event => ?_, fun i found => good.hidden, ?_, ?_, ?_⟩
  · obtain ⟨answer, next, called, -, turn⟩ := call_turns good width event
    exact ⟨answer, next, called, turn.effect⟩
  · intro i found event answer next events last there ends called unpublished runs
    obtain ⟨good', turn⟩ := good.step width called
    exact (run_keeps good' width runs (turn.loses good there ends unpublished)
      fun _ _ _ _ _ turn lost => turn.lost lost).2
  · intro i found next events s' j other last there called runs there' named called'
    by_contra! unremoved
    obtain ⟨good', turn⟩ := good.step width called
    have bound : next.data.inodes.names found.name ≠ none := by
      rcases turn.effect found there with ⟨-, published⟩ | ⟨⟨error, failed⟩, -⟩
      · rw [published.inodes, Inodes.names_bind_self]
        exact Option.some_ne_none _
      · exact nomatch failed
    obtain ⟨good'', stays⟩ := run_keeps good' width runs bound
      fun _ _ _ _ member turn bound => turn.stays bound (unremoved _ member)
    rcases (good''.step width called').2.effect other there' with
      ⟨-, published⟩ | ⟨⟨error, failed⟩, -⟩
    · rw [← named] at stays
      exact stays published.vacant
    · exact nomatch failed
  · intro name i next events last opened called runs there
    obtain ⟨good', turn⟩ := good.step width called
    obtain ⟨file, content, bound, held, fixed⟩ := turn.opens
    obtain ⟨-, -, fixed⟩ := run_keeps good' width runs fixed
      fun _ _ _ _ _ turn fixed => turn.fixed fixed
    obtain ⟨rfl, size⟩ := fixed opened there
    exact ⟨bound, content, held, size⟩

open MemTransfers in
theorem two_imports_hidden : ∃ s, Runs (Step 32 fun _ _ => true) .start
      [.beginImport "t" 1 .unchecked, .beginImport "t" 1 .unchecked] s ∧
    s.imports.length = 2 ∧ ∀ i found, s.imports.find i = some found → s.Hidden i found := by
  have first : Runs (Step 32 fun _ _ => true) .start [.beginImport "t" 1 .unchecked] _ :=
    .single ⟨_, rfl⟩
  have second : Runs (Step 32 fun _ _ => true) .start
      ([.beginImport "t" 1 .unchecked] ++ [.beginImport "t" 1 .unchecked]) _ :=
    first.snoc ⟨_, rfl⟩
  exact ⟨_, second, rfl, (memTransfers_isolated (by decide) ⟨_, second⟩).2.1⟩

end SqliteVfs
