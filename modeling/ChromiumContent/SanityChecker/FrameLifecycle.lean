import ChromiumContent.SanityChecker.Checker
import ChromiumContent.SanityChecker.Trace

/-!
# Frame lifecycles

Over `RenderFrameCreated` and `RenderFrameDeleted`, the two route sets of the checker encode one
automaton per routing pair: a pair is unseen, live or deleted.  Creating a live frame and
deleting a deleted one fail their `CHECK`s; every other event moves the pair to the state the
event names.  The sets stay disjoint, so each pair has one state, and the state is the one the
automaton reaches on the events for that pair.
-/

namespace ChromiumContent

/-- Where a routing pair is in its life. -/
inductive FrameLifecycle
  | unseen
  | live
  | deleted
  deriving DecidableEq, Repr

/-- The events of a frame's life. -/
inductive FrameEvent
  | created
  | deleted
  deriving DecidableEq, Repr

/-- The state an event moves its pair to. -/
def FrameEvent.target : FrameEvent → FrameLifecycle
  | .created => .live
  | .deleted => .deleted

namespace FrameLifecycle

/-- The per-pair automaton: a live frame is not created again, a deleted one not deleted again. -/
def advance : FrameLifecycle → FrameEvent → Option FrameLifecycle
  | .live, .created => none
  | _, .created => some .live
  | .deleted, .deleted => none
  | _, .deleted => some .deleted

/-- An accepted event leads to the state it names. -/
theorem advance_eq_some {state next : FrameLifecycle} {event : FrameEvent}
    (advanced : advance state event = some next) : next = event.target := by
  cases state <;> cases event <;> cases advanced <;> rfl

/-- The state the automaton reaches from `unseen` on a word, if it accepts the word. -/
def ofEvents (events : List FrameEvent) : Option FrameLifecycle :=
  events.foldlM advance .unseen

/-- On an accepted word a pair is live exactly when its last event is a creation. -/
theorem ofEvents_eq_live_iff {events : List FrameEvent} {state : FrameLifecycle}
    (accepted : ofEvents events = some state) :
    state = .live ↔ events.getLast? = some .created := by
  rw [foldlM_eq_some_getLast advance FrameEvent.target (fun _ _ _ => advance_eq_some) accepted]
  cases events.getLast? with
  | none => simp
  | some event => cases event <;> simp [FrameEvent.target]

end FrameLifecycle

namespace Observation

variable {Host Handle : Type}

/-- The lifecycle event a notification is for a routing pair, if any. -/
def frameEventFor (routingPair : Host → RoutingPair) (pair : RoutingPair) :
    Observation Host Handle → Option FrameEvent
  | .renderFrameCreated host _ => if routingPair host = pair then some .created else none
  | .renderFrameDeleted host => if routingPair host = pair then some .deleted else none
  | _ => none

/-- A lifecycle notification whose host passes the other checks of `RenderFrameCreated`. -/
def isLifecycleEvent : Observation Host Handle → Bool
  | .renderFrameCreated _ facts => facts.passes
  | .renderFrameDeleted _ => true
  | _ => false

end Observation

namespace WebContentsObserverSanityChecker

variable {Host Handle : Type} [DecidableEq Host] [DecidableEq Handle]
  (routingPair : Host → RoutingPair) (osMacosx : Bool)

/-- The lifecycle events of a trace for one routing pair, in order. -/
def frameEvents (calls : List (Observation Host Handle)) (pair : RoutingPair) :
    List FrameEvent :=
  calls.filterMap (Observation.frameEventFor routingPair pair)

/-- The automaton's state for a routing pair after a trace, if it accepts the pair's events. -/
def frameLifecycle (calls : List (Observation Host Handle)) (pair : RoutingPair) :
    Option FrameLifecycle :=
  FrameLifecycle.ofEvents (frameEvents routingPair calls pair)

omit [DecidableEq Host] [DecidableEq Handle] in
theorem frameLifecycle_append_singleton (calls : List (Observation Host Handle))
    (call : Observation Host Handle) (pair : RoutingPair) :
    frameLifecycle routingPair (calls ++ [call]) pair =
      (frameLifecycle routingPair calls pair).bind fun state =>
        match call.frameEventFor routingPair pair with
        | none => some state
        | some event => state.advance event := by
  cases event : call.frameEventFor routingPair pair <;>
    simp [frameLifecycle, frameEvents, FrameLifecycle.ofEvents, event]

end WebContentsObserverSanityChecker

namespace SanityChecker

variable {Host Handle : Type}

/-- The abstraction of the two route sets: live, else deleted, else unseen. -/
def lifecycle (checker : SanityChecker Host Handle) (pair : RoutingPair) : FrameLifecycle :=
  if pair ∈ checker.liveRoutes then .live
  else if pair ∈ checker.deletedRoutes then .deleted
  else .unseen

/-- The route sets after a lifecycle event of `pair` that passed its `CHECK`s. -/
def recordEvent (checker : SanityChecker Host Handle) (pair : RoutingPair) :
    FrameEvent → SanityChecker Host Handle
  | .created => { checker with
      liveRoutes := insert pair checker.liveRoutes
      deletedRoutes := checker.deletedRoutes.erase pair }
  | .deleted => { checker with
      liveRoutes := checker.liveRoutes.erase pair
      deletedRoutes := insert pair checker.deletedRoutes }

theorem lifecycle_eq_live {checker : SanityChecker Host Handle} {pair : RoutingPair} :
    checker.lifecycle pair = .live ↔ pair ∈ checker.liveRoutes := by
  unfold lifecycle
  split_ifs <;> simp_all

theorem lifecycle_eq_deleted {checker : SanityChecker Host Handle} {pair : RoutingPair}
    (disjoint : Disjoint checker.liveRoutes checker.deletedRoutes) :
    checker.lifecycle pair = .deleted ↔ pair ∈ checker.deletedRoutes := by
  by_cases live : pair ∈ checker.liveRoutes
  · simp [lifecycle, live, Finset.disjoint_left.mp disjoint live]
  · simp [lifecycle, live]

/-- An event moves its own pair to the state it names and leaves the others. -/
theorem lifecycle_recordEvent (checker : SanityChecker Host Handle) (pair other : RoutingPair)
    (event : FrameEvent) :
    (checker.recordEvent pair event).lifecycle other =
      if pair = other then event.target else checker.lifecycle other := by
  by_cases same : pair = other
  · subst same
    cases event <;> simp [recordEvent, lifecycle, FrameEvent.target]
  · cases event <;> simp [recordEvent, lifecycle, same, Ne.symm same]

theorem disjoint_recordEvent {checker : SanityChecker Host Handle} (pair : RoutingPair)
    (event : FrameEvent) (disjoint : Disjoint checker.liveRoutes checker.deletedRoutes) :
    Disjoint (checker.recordEvent pair event).liveRoutes
      (checker.recordEvent pair event).deletedRoutes := by
  cases event
  · simpa [recordEvent] using disjoint.mono_right (Finset.erase_subset _ _)
  · simpa [recordEvent] using disjoint.mono_left (Finset.erase_subset _ _)

end SanityChecker

namespace WebContentsObserverSanityChecker

variable {Host Handle : Type} [DecidableEq Host] [DecidableEq Handle]
  (routingPair : Host → RoutingPair) (osMacosx : Bool)

/-- What a lifecycle trace keeps: the contents are not destroyed, nothing plays, the route sets
are disjoint, and their abstraction is the automaton's state for every pair. -/
structure FrameInvariant (history : List (Observation Host Handle))
    (checker : SanityChecker Host Handle) : Prop where
  notDestroyed : checker.webContentsDestroyed = false
  noPlayers : checker.activeMediaPlayers = []
  disjoint : Disjoint checker.liveRoutes checker.deletedRoutes
  abstraction : ∀ pair, frameLifecycle routingPair history pair = some (checker.lifecycle pair)

omit [DecidableEq Host] [DecidableEq Handle] in
theorem frameInvariant_initial :
    FrameInvariant routingPair [] (initial : SanityChecker Host Handle) :=
  ⟨rfl, rfl, by simp [initial], fun pair => by
    simp [frameLifecycle, frameEvents, FrameLifecycle.ofEvents, SanityChecker.lifecycle, initial]⟩

theorem advance_isSome (state : FrameLifecycle) (event : FrameEvent) :
    (state.advance event).isSome ↔ state ≠ event.target := by
  cases state <;> cases event <;> decide

/-- A lifecycle notification, from a state of a lifecycle trace, is one event of one pair; it
passes its `CHECK`s exactly when the pair's automaton accepts the event, and then records it. -/
theorem step_lifecycleEvent {history : List (Observation Host Handle)}
    {checker : SanityChecker Host Handle} {call : Observation Host Handle}
    (invariant : FrameInvariant routingPair history checker)
    (lifecycleEvent : call.isLifecycleEvent) :
    ∃ pair event, (∀ other, call.frameEventFor routingPair other =
        if pair = other then some event else none) ∧
      (step routingPair osMacosx checker call).toOption =
        if ((checker.lifecycle pair).advance event).isSome then
          some (checker.recordEvent pair event)
        else none := by
  cases call with
  | renderFrameCreated host facts =>
      refine ⟨routingPair host, .created, fun other => rfl, ?_⟩
      simp only [Observation.isLifecycleEvent] at lifecycleEvent
      simp [step, renderFrameCreated_toOption, invariant.notDestroyed, lifecycleEvent,
        advance_isSome, FrameEvent.target, SanityChecker.lifecycle_eq_live,
        SanityChecker.recordEvent]
  | renderFrameDeleted host =>
      refine ⟨routingPair host, .deleted, fun other => rfl, ?_⟩
      simp [step, renderFrameDeleted_toOption, invariant.notDestroyed, invariant.noPlayers,
        advance_isSome, FrameEvent.target, SanityChecker.lifecycle_eq_deleted invariant.disjoint,
        SanityChecker.recordEvent]
  | _ => cases lifecycleEvent

/-- The refinement step: a lifecycle notification passes its `CHECK`s exactly when every pair's
automaton accepts the longer trace, and keeps the invariant. -/
theorem frameInvariant_step {history : List (Observation Host Handle)}
    {checker : SanityChecker Host Handle} {call : Observation Host Handle}
    (invariant : FrameInvariant routingPair history checker)
    (lifecycleEvent : call.isLifecycleEvent) :
    ((step routingPair osMacosx checker call).toOption.isSome ↔
        ∀ pair, (frameLifecycle routingPair (history ++ [call]) pair).isSome) ∧
      ∀ next, (step routingPair osMacosx checker call).toOption = some next →
        FrameInvariant routingPair (history ++ [call]) next := by
  obtain ⟨pair, event, eventFor, stepped⟩ :=
    step_lifecycleEvent routingPair osMacosx invariant lifecycleEvent
  have after : ∀ other, frameLifecycle routingPair (history ++ [call]) other =
      if pair = other then (checker.lifecycle pair).advance event
      else some (checker.lifecycle other) := by
    intro other
    rw [frameLifecycle_append_singleton, invariant.abstraction, eventFor]
    by_cases same : pair = other <;> simp [same]
  have refines := keyedStep_refines FrameLifecycle.advance FrameEvent.target
    SanityChecker.lifecycle SanityChecker.recordEvent (fun _ _ _ => FrameLifecycle.advance_eq_some)
    (fun checker pair event other _ => SanityChecker.lifecycle_recordEvent checker pair other event)
    after stepped
  refine ⟨refines.1, fun next recorded => ?_⟩
  obtain ⟨rfl, abstraction⟩ := refines.2 next recorded
  exact ⟨by cases event <;> exact invariant.notDestroyed, by cases event <;> exact invariant.noPlayers,
    SanityChecker.disjoint_recordEvent pair event invariant.disjoint, abstraction⟩

omit [DecidableEq Host] [DecidableEq Handle] in
/-- `AssertRenderFrameExists` passes on a state of a lifecycle trace exactly for live pairs. -/
theorem assertRenderFrameExists_isOk {history : List (Observation Host Handle)}
    {checker : SanityChecker Host Handle} (invariant : FrameInvariant routingPair history checker)
    (host : Host) :
    (assertRenderFrameExists routingPair checker host).isOk ↔
      checker.lifecycle (routingPair host) = .live := by
  rw [isOk_eq_toOption_isSome, assertRenderFrameExists_toOption, SanityChecker.lifecycle_eq_live]
  by_cases live : routingPair host ∈ checker.liveRoutes
  · simp [invariant.notDestroyed, live, Finset.disjoint_left.mp invariant.disjoint live]
  · simp [live]

/-- Over any trace of frame creations and deletions, the checker passes exactly when every routing
pair's automaton accepts that pair's events, and its route sets are then the automata's states. -/
theorem renderFrame_lifecycle_refinement (calls : List (Observation Host Handle))
    (lifecycleOnly : ∀ call ∈ calls, call.isLifecycleEvent) :
    ((run routingPair osMacosx initial calls).isOk ↔
        ∀ pair, (frameLifecycle routingPair calls pair).isSome) ∧
      ∀ checker, run routingPair osMacosx initial calls = .ok checker →
        Disjoint checker.liveRoutes checker.deletedRoutes ∧
        (∀ pair, frameLifecycle routingPair calls pair = some (checker.lifecycle pair)) ∧
        ∀ host, (assertRenderFrameExists routingPair checker host).isOk ↔
          (frameEvents routingPair calls (routingPair host)).getLast? = some .created := by
  have traced := run_initial_of_step routingPair osMacosx (FrameInvariant routingPair)
    (fun history => ∀ pair, (frameLifecycle routingPair history pair).isSome)
    (fun call => call.isLifecycleEvent) (frameInvariant_initial routingPair)
    (fun pair => by simp [frameLifecycle, frameEvents, FrameLifecycle.ofEvents])
    (fun history call longer pair => by
      have known := longer pair
      rw [frameLifecycle_append_singleton] at known
      cases before : frameLifecycle routingPair history pair <;> simp_all)
    (fun _ _ _ invariant _ lifecycleEvent =>
      (frameInvariant_step routingPair osMacosx invariant lifecycleEvent).1)
    (fun _ _ _ next invariant _ lifecycleEvent =>
      (frameInvariant_step routingPair osMacosx invariant lifecycleEvent).2 next)
    calls lifecycleOnly
  refine ⟨traced.1, fun checker ran => ?_⟩
  have invariant := traced.2 checker ran
  refine ⟨invariant.disjoint, invariant.abstraction, fun host => ?_⟩
  rw [assertRenderFrameExists_isOk routingPair invariant,
    ← FrameLifecycle.ofEvents_eq_live_iff (invariant.abstraction (routingPair host))]

/-- A frame created, deleted and created again, with frames named by their routing pair. -/
theorem renderFrame_lifecycle_refinement_recreated :
    let calls : List (Observation RoutingPair Nat) :=
      [.renderFrameCreated (1, 7) ⟨true, true, none⟩, .renderFrameDeleted (1, 7),
        .renderFrameCreated (1, 7) ⟨true, true, none⟩]
    (∀ call ∈ calls, call.isLifecycleEvent) ∧
      (((run id false initial calls).isOk ↔ ∀ pair, (frameLifecycle id calls pair).isSome) ∧
      ∀ checker, run id false initial calls = .ok checker →
        Disjoint checker.liveRoutes checker.deletedRoutes ∧
        (∀ pair, frameLifecycle id calls pair = some (checker.lifecycle pair)) ∧
        ∀ host, (assertRenderFrameExists id checker host).isOk ↔
          (frameEvents id calls (id host)).getLast? = some .created) :=
  ⟨by decide, renderFrame_lifecycle_refinement id false _ (by decide)⟩

end WebContentsObserverSanityChecker

end ChromiumContent
