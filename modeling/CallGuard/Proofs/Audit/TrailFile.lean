import CallGuard.Proofs.Audit.EventText
import CallGuard.Proofs.Command.Store
import CallGuard.Proofs.Text.Lines

/-! # Files of audit trails

A file to which events are appended holds a line for each of them, in order, whatever their notes are: cut at its ends
of line, it falls into the texts of the events (`piecesOf_linesOf`), and every text is read back to its event
(`Command.trailIntact`). -/

namespace CallGuard

namespace Event

theorem linesOf_cons (e : Event) (events : List Event) : linesOf (e :: events) = e.text ++ "\n" ++ linesOf events :=
  String.join_cons

theorem linesOf_append (first second : List Event) : linesOf (first ++ second) = linesOf first ++ linesOf second := by
  rw [linesOf, List.map_append, String.join_append]
  rfl

theorem piecesOf_linesOf_append (events : List Event) (rest : String) :
    piecesOf (linesOf events ++ rest) = events.map text ++ piecesOf rest := by
  induction events with
  | nil => exact congrArg piecesOf String.empty_append
  | cons e events ih =>
    rw [linesOf_cons, String.append_assoc, piecesOf_line (newline_not_mem_text e), ih]
    rfl

/-- Lines of events fall into the texts of the events. -/
theorem piecesOf_linesOf (events : List Event) : piecesOf (linesOf events) = events.map text ++ [""] := by
  have h := piecesOf_linesOf_append events ""
  rw [String.append_empty] at h
  exact h

theorem endsLine_linesOf (events : List Event) : EndsLine (linesOf events) := by
  induction events with
  | nil => exact .inl rfl
  | cons e events ih =>
    have hline : EndsLine (e.text ++ "\n") := .inr ⟨e.text, rfl⟩
    rw [linesOf_cons]
    exact hline.append ih

end Event

namespace Command

/-- The world after events were appended to a file at a place. -/
def appended (w : World) (place : Location) (old : String) (events : List Event) : World :=
  if events = [] then w else w.withDisk (w.disk.put place (.file (old ++ Event.linesOf events)))

section
variable {w : World} {path : String} {place : Location} {old : String}

theorem appended_nil (w : World) (place : Location) (old : String) : appended w place old [] = w :=
  if_pos rfl

theorem runOn_appendEvents (h : w.disk.target path = .ok (place, old)) (events : List Event) :
    runOn (appendEvents path events) w = (.ok (), appended w place old events) := by
  by_cases hevents : events = []
  · rw [hevents, appended_nil]
    exact runOn_appendEvents_nil path w
  · rw [appended, if_neg hevents]
    exact (runOn_appendEvents_eq_ok hevents).mpr ⟨place, old, h, rfl⟩

theorem target_appended (h : w.disk.target path = .ok (place, old)) (events : List Event) :
    (appended w place old events).disk.target path = .ok (place, old ++ Event.linesOf events) := by
  by_cases hevents : events = []
  · rw [hevents, appended_nil, h]
    exact congrArg _ (congrArg _ String.append_empty.symm)
  · rw [appended, if_neg hevents]
    exact Disk.target_put h _

theorem keepsFolders_appended (h : w.disk.target path = .ok (place, old)) (events : List Event) :
    Disk.KeepsFolders w.disk (appended w place old events).disk := by
  by_cases hevents : events = []
  · rw [hevents, appended_nil]
    exact Disk.KeepsFolders.refl _
  · rw [appended, if_neg hevents]
    exact Disk.keepsFolders_put (Disk.target_ne_folder h) _

theorem appended_other {other : Location} (h : other ≠ place) (w : World) (old : String) (events : List Event) :
    (appended w place old events).disk other = w.disk other := by
  by_cases hevents : events = []
  · rw [hevents, appended_nil]
  · rw [appended, if_neg hevents]
    exact Disk.put_other h _ _

theorem appended_appended (w : World) (place : Location) (old : String) (first second : List Event) :
    appended (appended w place old first) place (old ++ Event.linesOf first) second =
      appended w place old (first ++ second) := by
  by_cases hfirst : first = []
  · rw [hfirst, appended_nil]
    exact congrArg (appended w place · second) String.append_empty
  by_cases hsecond : second = []
  · rw [hsecond, List.append_nil, appended_nil]
  · have hboth : first ++ second ≠ [] := fun h => hfirst (List.append_eq_nil_iff.mp h).1
    rw [appended, appended, appended, if_neg hfirst, if_neg hsecond, if_neg hboth, Event.linesOf_append,
      ← String.append_assoc]
    exact congrArg w.withDisk (Disk.put_put _ _ _ _)

theorem textAt_of_appendEvents {w' : World} {events : List Event}
    (h : runOn (appendEvents path events) w = (.ok (), w')) :
    w'.disk.textAt (Disk.placeOf path) = w.disk.textAt (Disk.placeOf path) ++ Event.linesOf events := by
  by_cases hevents : events = []
  · rw [hevents, runOn_appendEvents_nil] at h
    cases h
    rw [hevents]
    exact String.append_empty.symm
  · obtain ⟨place, old, htarget, rfl⟩ := (runOn_appendEvents_eq_ok hevents).mp h
    obtain rfl := Disk.placeOf_of_target htarget
    rw [Disk.textAt_of_target htarget]
    exact Disk.textAt_put_same _ _ _

/-- Batches that are appended one after the other are appended as one. -/
theorem runOn_forM_appendEvents (h : w.disk.target path = .ok (place, old)) (batches : List (List Event)) :
    runOn (batches.forM (appendEvents path)) w = (.ok (), appended w place old batches.flatten) := by
  induction batches generalizing w old with
  | nil =>
    rw [List.flatten_nil, appended_nil]
    rfl
  | cons events batches ih =>
    show runOn (appendEvents path events >>= fun _ => batches.forM (appendEvents path)) w = _
    rw [runOn_bind_ok (runOn_appendEvents h events), ih (target_appended h events), appended_appended]
    rfl

/-- What is left on the disk does not depend on how the events are put together in batches. -/
theorem appendEvents_append (path : String) (w : World) (first second : List Event) :
    (runOn (appendEvents path first >>= fun _ => appendEvents path second) w).2 =
      (runOn (appendEvents path (first ++ second)) w).2 := by
  rw [runOn_bind]
  cases htarget : w.disk.target path with
  | ok found =>
    obtain ⟨place, old⟩ := found
    rw [runOn_appendEvents htarget, runOn_appendEvents htarget]
    show (runOn (appendEvents path second) _).2 = _
    rw [runOn_appendEvents (target_appended htarget first), appended_appended]
  | error fault =>
    -- Where the file cannot be written, nothing is changed, whether the first batch is empty or not.
    have hsame : ∀ events, (runOn (appendEvents path events) w).2 = w := by
      intro events
      by_cases hevents : events = []
      · rw [hevents, runOn_appendEvents_nil]
      · rw [runOn_appendEvents_error hevents htarget]
    have hfirst := hsame first
    rw [hsame (first ++ second)]
    generalize runOn (appendEvents path first) w = outcome at hfirst ⊢
    obtain ⟨_ | _, w'⟩ := outcome
    · exact hfirst
    · cases hfirst
      exact hsame second

end

/-- What the file of an audit trail is good for. -/
structure TrailIntact (path : String) : Prop where
  /-- Batches of events that are appended to a file that is missing or empty are its lines, which are read back. -/
  lines : ∀ {w : World} {place : Location} {batches : List (List Event)}, w.disk.target path = .ok (place, "") →
    (∀ e ∈ batches.flatten, e.seq < UInt64.size) →
    ∃ w' text, runOn (batches.forM (appendEvents path)) w = (.ok (), w') ∧
      w'.disk.target path = .ok (place, text) ∧
      (batches.flatten ≠ [] → w'.disk.read path = .ok text) ∧
      piecesOf text = batches.flatten.map Event.text ++ [""] ∧
      (piecesOf text).dropLast.map Event.read? = batches.flatten.map some
  /-- Two batches leave the same world as one of both. -/
  joined : ∀ (w : World) (first second : List Event),
    (runOn (appendEvents path first >>= fun _ => appendEvents path second) w).2 =
      (runOn (appendEvents path (first ++ second)) w).2
  /-- Without events nothing is touched. -/
  untouched : ∀ w : World, runOn (appendEvents path []) w = (.ok (), w)
  /-- An event that is read back has the text it was read from. -/
  rewritten : ∀ e : Event, e.seq < UInt64.size → (Event.read? e.text).map Event.text = some e.text

/-- Every event that is appended to the file of a trail stays there as it is, in a line of its own. -/
theorem trailIntact (path : String) : TrailIntact path where
  lines := by
    intro w place batches htarget hseq
    have htarget' := target_appended htarget batches.flatten
    rw [String.empty_append] at htarget'
    refine ⟨_, _, runOn_forM_appendEvents htarget batches, htarget', fun hevents => ?_, Event.piecesOf_linesOf _, ?_⟩
    · rw [appended, if_neg hevents]
      refine Disk.read_eq_ok.mpr ⟨place, ?_, Disk.put_same _ _ _⟩
      exact Disk.target_put htarget _
    · rw [Event.piecesOf_linesOf, List.dropLast_concat, List.map_map]
      exact List.map_congr_left fun e he => Event.read?_text (hseq e he)
  joined := appendEvents_append path
  untouched := runOn_appendEvents_nil path
  rewritten e he := by
    rw [Event.read?_text he]
    rfl

/-- Three events in three batches, one of them empty, with ends of line and other characters that must be escaped. -/
theorem trailIntact_three_notes :
    let w : World := ⟨.empty, "", "", none, .epoch⟩
    let noted (seq : Nat) (note : String) : Event :=
      ⟨seq, "AssetApproved", .approved, .asset (.ofNat 20 2), note, .ofNanoseconds 0⟩
    let batches := [[noted 0 "one\ntwo\r\n"], [], [noted 0 "\"three\"", noted 1 "\\n"]]
    ∃ w' text, runOn (batches.forM (appendEvents "audit.jsonl")) w = (.ok (), w') ∧
      w'.disk.read "audit.jsonl" = .ok text ∧ (piecesOf text).length = 4 ∧
      (piecesOf text).dropLast.map Event.read? = batches.flatten.map some := by
  intro w noted batches
  have htarget : w.disk.target "audit.jsonl" = .ok (["audit.jsonl"], "") := by
    simp [Disk.target, Disk.locate]
    rfl
  have hseq : ∀ e ∈ batches.flatten, e.seq < UInt64.size := by
    intro e he
    simp only [batches, List.flatten_cons, List.flatten_nil, List.append_nil, List.nil_append, List.cons_append,
      List.mem_cons, List.not_mem_nil, or_false] at he
    obtain rfl | rfl | rfl := he <;> exact (by decide)
  obtain ⟨w', text, hrun, -, hread, hpieces, hevents⟩ := (trailIntact "audit.jsonl").lines htarget hseq
  refine ⟨w', text, hrun, hread (List.cons_ne_nil _ _), ?_, hevents⟩
  rw [hpieces]
  rfl

end Command

end CallGuard
