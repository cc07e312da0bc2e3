import CallGuard.Command.Show
import CallGuard.Proofs.Command.Change
import CallGuard.Proofs.Guard.Reload

/-! # Commands and one guard in memory

Commands that load, change and save the policy do what one guard does that is kept in memory: they fail when it
rejects a change, the policy file is always the text of its snapshot, and the audit trail holds its events, though each
command numbers its own from zero (`Settings.inStep`). The invariant of a run is `Matches`. -/

namespace CallGuard

/-- A command on a policy that was made before. -/
inductive Task where
  | admin (caller : String) (change : ChangeText) (note : String)
  | check (sender target data : String)

namespace Task

/-- The world after a task on a clock. -/
def act (s : Settings) (clock : Clock) (w : World) : Task → World
  | .admin caller change note => (Command.runOn (Command.admin s caller change note true) { w with clock := clock }).2
  | .check sender target data => (Command.runOn (Command.check s sender target data) { w with clock := clock }).2

/-- The guard after a task on a clock, done in memory. -/
def applyTo (clock : Clock) (g : Guard) : Task → Guard
  | .admin caller change note =>
    match Command.readChange caller change with
    | .error _ => g
    | .ok (caller, op) => ((Guard.perform caller op note clock).run g).2
  | .check _ _ _ => g

/-- The world after tasks one after the other. -/
def actAll (s : Settings) (w : World) (tasks : List (Clock × Task)) : World :=
  tasks.foldl (fun w (clock, task) => task.act s clock w) w

/-- The guard after tasks one after the other, done in memory. -/
def applyAll (g : Guard) (tasks : List (Clock × Task)) : Guard :=
  tasks.foldl (fun g (clock, task) => task.applyTo clock g) g

end Task

namespace Guard

/-- A guard of the same policy on whose trail nothing is does the same to an operation, and records the same but for
    numbers. -/
theorem perform_ofPolicy (caller : Address) (op : Operation) (note : String) (clock : Clock) (g : Guard) :
    ((perform caller op note clock).run (.ofPolicy g.policy)).1 = ((perform caller op note clock).run g).1 ∧
      ((perform caller op note clock).run (.ofPolicy g.policy)).2.policy =
        ((perform caller op note clock).run g).2.policy ∧
      ∃ new, ((perform caller op note clock).run g).2.events = g.events ++ new ∧
        ((perform caller op note clock).run (.ofPolicy g.policy)).2.events.map Event.unnumbered =
          new.map Event.unnumbered := by
  obtain ⟨houtcome, hpolicy⟩ := serve_change_of_policy (g := .ofPolicy g.policy) (h := g) caller op note clock clock rfl
  refine ⟨Answer.changed.inj houtcome, hpolicy, ?_⟩
  have howner : (ofPolicy g.policy).owner = g.owner := rfl
  rw [perform_run, perform_run, howner]
  by_cases hcaller : caller = g.owner
  · rw [if_pos hcaller, if_pos hcaller]
    obtain ⟨new, first, hevents, hfirst, hsame⟩ := events_enterAll note clock g (.ofPolicy g.policy) op.steps
    refine ⟨new, hevents, ?_⟩
    rw [hfirst]
    exact hsame
  · rw [if_neg hcaller, if_neg hcaller]
    exact ⟨[], (List.append_nil _).symm, rfl⟩

theorem perform_rejected {caller : Address} {op : Operation} {note : String} {clock : Clock} {g : Guard}
    {v : Violation} (h : ((perform caller op note clock).run g).1 = .error v) :
    ((perform caller op note clock).run g).2 = g := by
  rw [perform_run] at h ⊢
  by_cases hcaller : caller = g.owner
  · rw [if_pos hcaller] at h
    cases h
  · rw [if_neg hcaller]

end Guard

namespace Command
variable {s : Settings} {w : World} {g : Guard} {batches : List (List Event)}

/-- The sender, the target and the payload that texts stand for. -/
def readCall (sender target data : String) : Except Failure (Address × Address × Bytes) := do
  let sender ← readAddress "sender" sender
  let target ← readAddress "target" target
  let data ← readPayload data
  return (sender, target, data)

/-- A call whose texts stand for something is decided on by the policy of the file. -/
theorem check_of_saved {p : Policy} (h : w.disk.Saved s.policyFile (Snapshot.ofPolicy p).text)
    (sender target data : String) :
    (runOn (check s sender target data) w).1 =
        (readCall sender target data).map (fun (sender, target, data) => p.authorize sender target data matches .ok _) ∧
      (runOn (check s sender target data) w).2.disk = w.disk := by
  have hload : runOn (load s.policyFile) w = (.ok (.ofPolicy p), w) := load_saved (g := .ofPolicy p) h
  rw [check, readCall, runOn_ofExcept_bind]
  cases readAddress "sender" sender with
  | error f => exact ⟨rfl, rfl⟩
  | ok sender =>
    simp only
    rw [runOn_ofExcept_bind]
    cases readAddress "target" target with
    | error f => exact ⟨rfl, rfl⟩
    | ok target =>
      simp only
      rw [runOn_ofExcept_bind]
      cases readPayload data with
      | error f => exact ⟨rfl, rfl⟩
      | ok data =>
        simp only
        rw [runOn_bind_ok hload, runOn_bind_ok (runOn_printLine _ w)]
        exact ⟨rfl, rfl⟩

/-- The files hold what the guard in memory has: its policy, and its events in batches that are numbered from zero. -/
structure Matches (s : Settings) (d : Disk) (g : Guard) (batches : List (List Event)) : Prop where
  holds : s.Holds d g.policy batches.flatten
  events : batches.flatten.map Event.unnumbered = g.events.map Event.unnumbered
  numbered : ∀ batch ∈ batches, batch.map (·.seq) = List.range batch.length

theorem Matches.add {d d' : Disk} {g' : Guard} {batch new : List Event} (h : Matches s d g batches)
    (hholds : s.Holds d' g'.policy (batches.flatten ++ batch)) (hevents : g'.events = g.events ++ new)
    (hsame : batch.map Event.unnumbered = new.map Event.unnumbered)
    (hseqs : batch.map (·.seq) = List.range batch.length) : Matches s d' g' (batches ++ [batch]) := by
  have hflat : (batches ++ [batch]).flatten = batches.flatten ++ batch := by simp
  refine ⟨?_, ?_, ?_⟩
  · rw [hflat]
    exact hholds
  · rw [hflat, List.map_append, h.events, hsame, hevents, List.map_append]
  · intro other hother
    rcases List.mem_append.mp hother with hother | hother
    · exact h.numbered other hother
    · obtain rfl := List.mem_singleton.mp hother
      exact hseqs

theorem Matches.add_nothing {d : Disk} (h : Matches s d g batches) : Matches s d g (batches ++ [[]]) := by
  refine h.add ?_ (List.append_nil _).symm rfl rfl
  rw [List.append_nil]
  exact h.holds

/-- A change ends as it does in memory once its texts are read, and adds what it recorded as a batch. -/
theorem admin_of_matches (hapart : s.FilesApart) (h : Matches s w.disk g batches) (caller : String)
    (change : ChangeText) (note : String) :
    match readChange caller change with
    | .error f => runOn (admin s caller change note true) w = (.error f, w)
    | .ok (caller', op) =>
      (runOn (admin s caller change note true) w).1 =
          ((Guard.perform caller' op note w.clock).run g).1.mapError Failure.violation ∧
        ∃ batch, Matches s (runOn (admin s caller change note true) w).2.disk
          ((Guard.perform caller' op note w.clock).run g).2 (batches ++ [batch]) := by
  have hadmin := admin_of_holds hapart h.holds caller change note
  cases hread : readChange caller change with
  | error f =>
    rw [hread] at hadmin
    exact hadmin
  | ok found =>
    obtain ⟨caller', op⟩ := found
    rw [hread] at hadmin
    simp only at hadmin ⊢
    -- The command changes a guard that is made from the file: it has the policy of the one in memory, and no events.
    obtain ⟨houtcome, hpolicy, new, hevents, hsame⟩ := Guard.perform_ofPolicy caller' op note w.clock g
    obtain ⟨_, hrec⟩ := Guard.Recorded.perform caller' op note w.clock (.ofPolicy g.policy)
    have hseqs := (hrec.of_empty rfl).2
    rcases hperform : (Guard.perform caller' op note w.clock).run (.ofPolicy g.policy) with ⟨v | _, loaded⟩
    · rw [hperform] at hadmin houtcome
      rw [hadmin, ← houtcome, Guard.perform_rejected houtcome.symm]
      exact ⟨rfl, [], h.add_nothing⟩
    · rw [hperform] at hadmin houtcome hpolicy hsame hseqs
      obtain ⟨w', hrun, hholds⟩ := hadmin
      rw [hpolicy] at hholds
      rw [hrun, ← houtcome]
      exact ⟨rfl, loaded.events, h.add hholds hevents hsame hseqs⟩

/-- A task adds a batch, which is empty unless the policy is changed. -/
theorem matches_act (hapart : s.FilesApart) (h : Matches s w.disk g batches) (clock : Clock) (task : Task) :
    ∃ batch, Matches s (task.act s clock w).disk (task.applyTo clock g) (batches ++ [batch]) := by
  cases task with
  | check sender target data =>
    have hdisk := (check_of_saved (w := { w with clock := clock }) h.holds.policy sender target data).2
    refine ⟨[], ?_⟩
    rw [Task.act, Task.applyTo, hdisk]
    exact h.add_nothing
  | admin caller change note =>
    have hadmin := admin_of_matches (w := { w with clock := clock }) hapart h caller change note
    rw [Task.act, Task.applyTo]
    cases hread : readChange caller change with
    | error f =>
      rw [hread] at hadmin
      simp only at hadmin ⊢
      rw [hadmin]
      exact ⟨[], h.add_nothing⟩
    | ok found =>
      rw [hread] at hadmin
      exact hadmin.2

/-- In every run of tasks the files match the guard in memory. -/
theorem matches_actAll (hapart : s.FilesApart) (h : Matches s w.disk g batches) (tasks : List (Clock × Task)) :
    ∃ later, later.length = tasks.length ∧
      Matches s (Task.actAll s w tasks).disk (Task.applyAll g tasks) (batches ++ later) := by
  induction tasks generalizing w g batches with
  | nil =>
    refine ⟨[], rfl, ?_⟩
    rw [List.append_nil]
    exact h
  | cons first rest ih =>
    obtain ⟨clock, task⟩ := first
    obtain ⟨batch, hbatch⟩ := matches_act hapart h clock task
    obtain ⟨later, hlength, hlater⟩ := ih hbatch
    refine ⟨batch :: later, congrArg Nat.succ hlength, ?_⟩
    rw [List.append_cons]
    exact hlater

/-! ## Outcomes -/

/-- Texts that stand for nothing are no violation. -/
theorem readChange_ne_violation (caller : String) (change : ChangeText) (v : Violation) :
    readChange caller change ≠ .error (.violation v) :=
  fun h => ofText_readChange h

theorem admin_outcome (hapart : s.FilesApart) (h : Matches s w.disk g batches) (clock : Clock) (caller : String)
    (change : ChangeText) (note : String) :
    (runOn (admin s caller change note true) { w with clock := clock }).1 =
      (do
        let (caller, op) ← readChange caller change
        ((Guard.perform caller op note clock).run g).1.mapError Failure.violation) := by
  have hadmin := admin_of_matches (w := { w with clock := clock }) hapart h caller change note
  cases hread : readChange caller change with
  | error f =>
    rw [hread] at hadmin
    exact congrArg Prod.fst hadmin
  | ok found =>
    rw [hread] at hadmin
    exact hadmin.1

theorem admin_unread (hapart : s.FilesApart) (h : Matches s w.disk g batches) (clock : Clock) {caller : String}
    {change : ChangeText} {f : Failure} (hread : readChange caller change = .error f) (note : String) :
    runOn (admin s caller change note true) { w with clock := clock } = (.error f, { w with clock := clock }) := by
  have hadmin := admin_of_matches (w := { w with clock := clock }) hapart h caller change note
  rw [hread] at hadmin
  exact hadmin

/-- The files hold what a guard in memory has, and the next command ends as it does there: its policy is the one of the
    file, its events are on the trail in batches that are numbered from zero, a change succeeds or is rejected
    as by the guard, and one whose texts stand for nothing changes nothing. -/
structure InStep (s : Settings) (w : World) (g : Guard) (batches : List (List Event)) : Prop where
  policy : w.disk.read s.policyFile = .ok g.snapshot.text
  trail : w.disk.target s.auditLog = .ok (Disk.placeOf s.auditLog, Event.linesOf batches.flatten)
  events : batches.flatten.map Event.unnumbered = g.events.map Event.unnumbered
  numbered : ∀ batch ∈ batches, batch.map (·.seq) = List.range batch.length
  succeeds : ∀ clock caller change note,
    (runOn (admin s caller change note true) { w with clock := clock }).1 = .ok () ↔
      ∃ caller' op, readChange caller change = .ok (caller', op) ∧
        ((Guard.perform caller' op note clock).run g).1 = .ok ()
  rejected : ∀ clock caller change note v,
    (runOn (admin s caller change note true) { w with clock := clock }).1 = .error (.violation v) ↔
      ∃ caller' op, readChange caller change = .ok (caller', op) ∧
        ((Guard.perform caller' op note clock).run g).1 = .error v
  unread : ∀ clock caller change note f, readChange caller change = .error f →
    (runOn (admin s caller change note true) { w with clock := clock }).1 = .error f ∧
      (runOn (admin s caller change note true) { w with clock := clock }).2.disk = w.disk
  check : ∀ clock sender target data,
    (runOn (check s sender target data) { w with clock := clock }).1 =
        (readCall sender target data).map (fun (sender, target, data) => g.authorize sender target data matches .ok _) ∧
      (runOn (check s sender target data) { w with clock := clock }).2.disk = w.disk

theorem Matches.keeps_step (hapart : s.FilesApart) (h : Matches s w.disk g batches) : InStep s w g batches where
  policy := h.holds.policy.read
  trail := h.holds.trail
  events := h.events
  numbered := h.numbered
  succeeds clock caller change note := by
    rw [admin_outcome hapart h clock caller change note, Outcome.bind_eq_ok]
    constructor
    · rintro ⟨⟨caller', op⟩, hread, houtcome⟩
      exact ⟨caller', op, hread, Outcome.mapError_eq_ok.mp houtcome⟩
    · rintro ⟨caller', op, hread, houtcome⟩
      exact ⟨(caller', op), hread, Outcome.mapError_eq_ok.mpr houtcome⟩
  rejected clock caller change note v := by
    rw [admin_outcome hapart h clock caller change note, Outcome.bind_eq_error]
    constructor
    · rintro (hread | ⟨⟨caller', op⟩, hread, houtcome⟩)
      · exact absurd hread (readChange_ne_violation caller change v)
      · obtain ⟨v', herror, hv⟩ := Outcome.mapError_eq_error.mp houtcome
        cases hv
        exact ⟨caller', op, hread, herror⟩
    · rintro ⟨caller', op, hread, houtcome⟩
      exact .inr ⟨(caller', op), hread, Outcome.mapError_eq_error.mpr ⟨v, houtcome, rfl⟩⟩
  unread clock caller change note f hread := by
    rw [admin_unread hapart h clock hread note]
    exact ⟨rfl, rfl⟩
  check clock sender target data :=
    check_of_saved (w := { w with clock := clock }) h.holds.policy sender target data

end Command

/-- Commands run on files are in step with one guard that is made from the settings and kept in memory. -/
theorem Settings.inStep {s : Settings} {w w' : World} {force : Bool} (hapart : s.FilesApart)
    (hempty : w.disk.textAt (Disk.placeOf s.auditLog) = "") (hcleared : Command.Cleared s force w)
    (hinit : Command.runOn (Command.init s force) w = (.ok (), w'))
    (htrail : ∃ found, w'.disk.target s.auditLog = .ok found) :
    ∃ g, s.bootstrapGuard w.clock = .ok g ∧ ∀ tasks : List (Clock × Task), ∃ batches,
      batches.length = tasks.length + 1 ∧
        Command.InStep s (Task.actAll s w' tasks) (Task.applyAll g tasks) batches := by
  obtain ⟨g, hguard, hholds⟩ := Command.holds_of_init hapart hempty hcleared hinit htrail
  obtain ⟨governance, hrec⟩ := Guard.bootstrapGuard_recorded hguard
  have hmatches : Command.Matches s w'.disk g [g.events] := by
    refine ⟨?_, ?_, ?_⟩
    · rw [List.flatten_singleton]
      exact hholds
    · rw [List.flatten_singleton]
    · intro batch hbatch
      obtain rfl := List.mem_singleton.mp hbatch
      exact (hrec.of_empty rfl).2
  refine ⟨g, hguard, fun tasks => ?_⟩
  obtain ⟨later, hlength, hlater⟩ := Command.matches_actAll hapart hmatches tasks
  refine ⟨g.events :: later, congrArg Nat.succ hlength, ?_⟩
  exact hlater.keeps_step hapart

/-- Settings with one wallet and one token to begin with, in an empty folder. -/
theorem Settings.inStep_token :
    let s : Settings := {
      governance := (Octets.ofNat 20 1).toHex
      bootstrap := { senders := [(Octets.ofNat 20 2).toHex], tokens := [(Octets.ofNat 20 3).toHex] } }
    let w : World := ⟨.empty, "", "", none, .epoch⟩
    ∃ g w', s.bootstrapGuard w.clock = .ok g ∧ Command.runOn (Command.init s true) w = (.ok (), w') ∧
      ∀ tasks : List (Clock × Task), ∃ batches, batches.length = tasks.length + 1 ∧
        Command.InStep s (Task.actAll s w' tasks) (Task.applyAll g tasks) batches := by
  intro s w
  have hread : ∀ n, Address.read (Octets.ofNat 20 n).toHex = .ok (Octets.ofNat 20 n) := fun n => Octets.read_toHex _
  obtain ⟨g, hguard⟩ : ∃ g, s.bootstrapGuard w.clock = .ok g := by
    refine Guard.exists_bootstrapGuard ⟨_, hread 1⟩ ?_ w.clock
    simp [Bootstrap.lists, s, hread]
  have hready : s.Ready w.disk "" := Settings.ready_empty rfl rfl
  obtain ⟨w', hinit, -, hready'⟩ := Command.exists_init hready hguard
  obtain ⟨g', hguard', hsteps⟩ :=
    Settings.inStep hready.apart (Disk.textAt_of_target hready.trail) (.inl rfl) hinit ⟨_, hready'.trail⟩
  exact ⟨g', w', hguard', hinit, hsteps⟩

end CallGuard
