import SqliteVfs.Core.TransferRoundTrip
import SqliteVfs.Sahpool.QuietMode

/-!
# The images of a pool

A pool as its users see it: each name has the bytes of its file, wherever the slot is.  In
a healthy pool these are the bytes that the ledger tells.
-/

set_option autoImplicit false

namespace SqliteVfs

namespace Sahpool

variable {mode : Mode} {reach : String → Prop} {w w' : World} {g g' : Ledger}
  {file name : String} {content : SlotFile} {data : List UInt8}

def World.imageOf (w : World) : Images := fun name =>
  (w.mapFilenameToFile.lookup name).bind fun file =>
    (w.directory.lookup file).map fun content => dataOf content.contents

def Entry.image : Entry → Option (List UInt8)
  | .present _ _ data => some data
  | _ => none

theorem World.imageOf_mapped (mapped : w.mapFilenameToFile.lookup name = some file)
    (found : w.directory.lookup file = some content) :
    w.imageOf name = some (dataOf content.contents) := by
  unfold World.imageOf
  rw [mapped, Option.bind_some, found, Option.map_some]

theorem World.imageOf_unmapped (unmapped : name ∉ w.mapFilenameToFile) : w.imageOf name = none := by
  unfold World.imageOf
  rw [AList.lookup_eq_none.mpr unmapped, Option.bind_none]

theorem World.mapped_of_imageOf (held : w.imageOf name = some data) :
    ∃ file content, w.mapFilenameToFile.lookup name = some file ∧
      w.directory.lookup file = some content ∧ dataOf content.contents = data := by
  unfold World.imageOf at held
  obtain ⟨file, mapped, rest⟩ := Option.bind_eq_some_iff.mp held
  obtain ⟨content, found, same⟩ := Option.map_eq_some_iff.mp rest
  exact ⟨file, content, mapped, found, same⟩

theorem Rep.imageOf_present (rep : Rep mode w g)
    (mapped : w.mapFilenameToFile.lookup name = some file) {temporary durable : Bool}
    (present : g.entry name = .present temporary durable data) : w.imageOf name = some data := by
  obtain ⟨content, found, holds⟩ := rep.content_of_mapped mapped
  rw [present] at holds
  rw [World.imageOf_mapped mapped found, Named.data_eq holds]

theorem Rep.imageOf_eq (rep : Rep mode w g) (loaded : g.loaded = true)
    (healthy : w.needsRecovery = false) (name : String) :
    w.imageOf name = (g.entry name).image := by
  cases mapped : w.mapFilenameToFile.lookup name with
  | none =>
      have unmapped := AList.lookup_eq_none.mp mapped
      rw [World.imageOf_unmapped unmapped, rep.absent_of_unmapped loaded healthy unmapped]
      rfl
  | some file =>
      obtain ⟨temporary, durable, data, present⟩ := rep.present_of_mapped loaded healthy mapped
      rw [rep.imageOf_present mapped present, present]
      rfl

theorem Evolves.imageOf_same (evolves : Evolves mode reach w g w' g') (rep : Rep mode w g)
    (loaded : g.loaded = true) (healthy : w.needsRecovery = false)
    (healthy' : w'.needsRecovery = false) (same : g'.entry name = g.entry name) :
    w'.imageOf name = w.imageOf name := by
  have loaded' : g'.loaded = true := evolves.frame.loaded.trans loaded
  rw [evolves.rep.imageOf_eq loaded' healthy', rep.imageOf_eq loaded healthy, same]

theorem Evolves.imageOf_eq (evolves : Evolves mode reach w g w' g') (rep : Rep mode w g)
    (loaded : g.loaded = true) (healthy : w.needsRecovery = false)
    (healthy' : w'.needsRecovery = false) (outside : ¬ reach name) :
    w'.imageOf name = w.imageOf name :=
  evolves.imageOf_same rep loaded healthy healthy' (evolves.entries name outside)

theorem Evolves.imageOf_update (evolves : Evolves mode (Only name) w g w' g') (rep : Rep mode w g)
    (loaded : g.loaded = true) (healthy : w.needsRecovery = false)
    (healthy' : w'.needsRecovery = false) {entry : Entry} (here : g'.entry name = entry) :
    w'.imageOf = Function.update w.imageOf name entry.image := by
  funext other
  by_cases same : other = name
  · subst same
    rw [Function.update_self, ← here]
    exact evolves.rep.imageOf_eq (evolves.frame.loaded.trans loaded) healthy' _
  · rw [Function.update_of_ne same]
    exact evolves.imageOf_eq rep loaded healthy healthy' same

end Sahpool

end SqliteVfs
