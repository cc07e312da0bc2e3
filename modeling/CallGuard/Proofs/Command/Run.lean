import CallGuard.Command.Store
import CallGuard.World

/-! # Running commands

A command that is run on a world succeeds or fails, and leaves a world behind in either case. A sequence is run part by
part (`runOn_bind`), so each command has one lemma that says what running it does. -/

namespace CallGuard

/-- A world with another disk. -/
def World.withDisk (w : World) (d : Disk) : World :=
  { w with disk := d }

/-- A world whose clock has been read so often. -/
def World.ticked (w : World) (readings : Nat) : World :=
  { w with clock := w.clock.after readings }

theorem Script.run_bind {α β : Type} (script : Script α) (f : α → Script β) (w : World) :
    (script.bind f).run w = (f (script.run w).1).run (script.run w).2 := by
  induction script generalizing w with
  | done result => rfl
  | ask request next ih => exact ih _ _

namespace Command
variable {α β ε : Type}

/-- Runs a command on a world. -/
def runOn (command : Command α) (w : World) : Except Failure α × World :=
  Script.run (ExceptT.run command) w

theorem runOn_pure (a : α) (w : World) : runOn (pure a) w = (.ok a, w) :=
  rfl

theorem runOn_bind (command : Command α) (next : α → Command β) (w : World) :
    runOn (command >>= next) w =
      match runOn command w with
      | (.ok a, w') => runOn (next a) w'
      | (.error f, w') => (.error f, w') := by
  show (Script.bind (ExceptT.run command) (ExceptT.bindCont next)).run w = _
  rw [Script.run_bind]
  rcases h : runOn command w with ⟨_ | a, w'⟩
  all_goals
    rw [runOn] at h
    rw [h]
    rfl

theorem runOn_bind_ok {command : Command α} {next : α → Command β} {w w' : World} {a : α}
    (h : runOn command w = (.ok a, w')) : runOn (command >>= next) w = runOn (next a) w' := by
  rw [runOn_bind, h]

theorem runOn_bind_error {command : Command α} {next : α → Command β} {w w' : World} {f : Failure}
    (h : runOn command w = (.error f, w')) : runOn (command >>= next) w = (.error f, w') := by
  rw [runOn_bind, h]

theorem runOn_bind_eq_ok {command : Command α} {next : α → Command β} {w w' : World} {b : β} :
    runOn (command >>= next) w = (.ok b, w') ↔
      ∃ a w₁, runOn command w = (.ok a, w₁) ∧ runOn (next a) w₁ = (.ok b, w') := by
  rw [runOn_bind]
  rcases runOn command w with ⟨_ | a, w₁⟩
  · constructor
    · nofun
    · rintro ⟨_, _, hfirst, -⟩
      cases hfirst
  · constructor
    · intro h
      exact ⟨a, w₁, rfl, h⟩
    · rintro ⟨_, _, hfirst, h⟩
      cases hfirst
      exact h

theorem runOn_ask (r : Request) (w : World) : runOn (ask r) w = (.ok (w.answer r).1, (w.answer r).2) :=
  rfl

theorem runOn_ofExcept (failure : ε → Failure) (result : Except ε α) (w : World) :
    runOn (ofExcept failure result) w = (result.mapError failure, w) := by
  cases result <;> rfl

theorem runOn_ask_bind (r : Request) (next : r.Answer → Command β) (w : World) :
    runOn (ask r >>= next) w = runOn (next (w.answer r).1) (w.answer r).2 :=
  runOn_bind_ok (runOn_ask r w)

theorem runOn_ofExcept_bind (failure : ε → Failure) (result : Except ε α) (next : α → Command β) (w : World) :
    runOn (ofExcept failure result >>= next) w =
      match result with
      | .ok a => runOn (next a) w
      | .error e => (.error (failure e), w) := by
  cases result with
  | ok a => exact runOn_bind_ok (runOn_ofExcept failure (.ok a) w)
  | error e => exact runOn_bind_error (runOn_ofExcept failure (.error e) w)

/-- A step that changes the disk succeeds exactly if the change does. -/
theorem runOn_changeDisk_eq_ok {failure : OsFault → Failure} {w w' : World} {result : Except OsFault Disk} :
    runOn (ofExcept failure (w.changeDisk result).1) (w.changeDisk result).2 = (.ok (), w') ↔
      ∃ d, result = .ok d ∧ w' = w.withDisk d := by
  cases result with
  | ok d =>
    constructor
    · intro h
      cases h
      exact ⟨d, rfl, rfl⟩
    · rintro ⟨_, hd, rfl⟩
      cases hd
      rfl
  | error fault =>
    constructor
    · nofun
    · rintro ⟨_, hd, -⟩
      cases hd

/-- Printing a line succeeds and changes nothing but what is printed. -/
theorem runOn_printLine (text : String) (w : World) :
    runOn (printLine text) w = (.ok (), { w with printed := w.printed ++ (text ++ "\n") }) :=
  rfl

end Command

end CallGuard
