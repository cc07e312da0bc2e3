import CallGuard.Proofs.Command.Run
import CallGuard.Proofs.Disk
import CallGuard.Proofs.Policy.Snapshot

/-! # Loading and saving guards

What loading, saving and appending events do to a disk on which the files can be read and written. A guard that is
saved and loaded again has the same policy, and nothing is recorded on its trail (`load_saved`). -/

namespace CallGuard

namespace Disk

/-- A file can be written, after the folders it is in are made. -/
def Writable (d : Disk) (path : String) : Prop :=
  ∃ d' place old, d.makeParents path = .ok d' ∧ d'.target path = .ok (place, old)

/-- A file that was saved: it holds a text, and the folders it is in need not be made. -/
structure Saved (d : Disk) (path text : String) : Prop where
  read : d.read path = .ok text
  parents : d.makeParents path = .ok d

theorem Saved.writable {d : Disk} {path text : String} (h : d.Saved path text) : d.Writable path := by
  obtain ⟨place, htarget, -⟩ := read_eq_ok.mp h.read
  exact ⟨d, place, text, h.parents, htarget⟩

end Disk

namespace Command
variable {path text : String} {w w' : World} {events : List Event} {g : Guard}

theorem runOn_load (h : w.disk.read path = .ok text) :
    runOn (load path) w = ((Guard.restore text).mapError .badSnapshot, w) := by
  have hpresent : (w.answer (.isPresent path)).1 = .ok true := Disk.isPresent_of_read h
  have hread : (w.answer (.read path)).1 = .ok text := h
  rw [load, runOn_ask_bind, hpresent, runOn_ofExcept_bind]
  show runOn (ask (.read path) >>= _) w = _
  rw [runOn_ask_bind, hread, runOn_ofExcept_bind]
  exact runOn_ofExcept _ _ _

/-- A guard that is saved is loaded with the same policy and an empty trail. -/
theorem load_saved (h : w.disk.Saved path g.snapshot.text) : runOn (load path) w = (.ok (.ofPolicy g.policy), w) := by
  rw [runOn_load h.read, Guard.restore_snapshot]
  rfl

/-- Saving makes the folders of the file and writes it. -/
theorem runOn_save_eq_ok : runOn (save path g) w = (.ok (), w') ↔
    ∃ d place old, w.disk.makeParents path = .ok d ∧ d.target path = .ok (place, old) ∧
      w' = w.withDisk (d.put place (.file g.snapshot.text)) := by
  rw [save, runOn_ask_bind, runOn_bind_eq_ok]
  constructor
  · rintro ⟨_, w₁, hparents, hwrite⟩
    obtain ⟨d, hd, rfl⟩ := runOn_changeDisk_eq_ok.mp hparents
    obtain ⟨_, hput, rfl⟩ := runOn_changeDisk_eq_ok.mp hwrite
    obtain ⟨place, old, htarget, rfl⟩ := Disk.write_eq_ok.mp hput
    exact ⟨d, place, old, hd, htarget, rfl⟩
  · rintro ⟨d, place, old, hd, htarget, rfl⟩
    refine ⟨(), w.withDisk d, runOn_changeDisk_eq_ok.mpr ⟨d, hd, rfl⟩, ?_⟩
    rw [runOn_ask_bind]
    exact runOn_changeDisk_eq_ok.mpr ⟨_, Disk.write_eq_ok.mpr ⟨place, old, htarget, rfl⟩, rfl⟩

theorem saved_of_save (h : runOn (save path g) w = (.ok (), w')) : w'.disk.Saved path g.snapshot.text := by
  obtain ⟨d, place, old, hparents, htarget, rfl⟩ := runOn_save_eq_ok.mp h
  have hfile := Disk.put_same d place (.file g.snapshot.text)
  refine ⟨Disk.read_eq_ok.mpr ⟨place, Disk.target_put htarget _, hfile⟩, ?_⟩
  exact Disk.makeFolders_again hparents (Disk.keepsFolders_put (Disk.target_ne_folder htarget) _)

theorem exists_save (h : w.disk.Writable path) (g : Guard) : ∃ w', runOn (save path g) w = (.ok (), w') := by
  obtain ⟨d, place, old, hparents, htarget⟩ := h
  exact ⟨_, runOn_save_eq_ok.mpr ⟨d, place, old, hparents, htarget, rfl⟩⟩

theorem runOn_appendEvents_nil (path : String) (w : World) : runOn (appendEvents path []) w = (.ok (), w) :=
  rfl

/-- Appending events puts their lines behind the text of the file. -/
theorem runOn_appendEvents_eq_ok (hevents : events ≠ []) : runOn (appendEvents path events) w = (.ok (), w') ↔
    ∃ place old, w.disk.target path = .ok (place, old) ∧
      w' = w.withDisk (w.disk.put place (.file (old ++ Event.linesOf events))) := by
  have hempty : events.isEmpty = false := List.isEmpty_eq_false_iff.mpr hevents
  rw [appendEvents, hempty]
  show runOn (ask (.append path _) >>= _) w = _ ↔ _
  rw [runOn_ask_bind]
  refine runOn_changeDisk_eq_ok.trans ?_
  constructor
  · rintro ⟨_, happend, rfl⟩
    obtain ⟨place, old, htarget, rfl⟩ := Disk.append_eq_ok.mp happend
    exact ⟨place, old, htarget, rfl⟩
  · rintro ⟨place, old, htarget, rfl⟩
    exact ⟨_, Disk.append_eq_ok.mpr ⟨place, old, htarget, rfl⟩, rfl⟩

/-- Where events cannot be appended, nothing is done. -/
theorem runOn_appendEvents_error {fault : OsFault} (hevents : events ≠ []) (h : w.disk.target path = .error fault) :
    runOn (appendEvents path events) w = (.error (.trailNotAppended path events.length fault), w) := by
  have hempty : events.isEmpty = false := List.isEmpty_eq_false_iff.mpr hevents
  have happend : w.disk.append path (Event.linesOf events) = .error fault := by
    rw [Disk.append, h]
    rfl
  rw [appendEvents, hempty]
  show runOn (ask (.append path _) >>= _) w = _
  rw [runOn_ask_bind, World.answer, happend]
  rfl

end Command

end CallGuard
