import ChromiumContent.SanityChecker.Checker
import ChromiumContent.SanityChecker.Trace

/-!
# Navigations

`ongoing_navigations_` holds the handles between `DidStartNavigation` and `DidFinishNavigation`.
Over navigation notifications whose field checks pass, and `WebContentsDestroyed`, the checker
passes exactly when the notifications of every handle form a prefix of
`(Start (Redirect | ReadyToCommit)* Finish)*`, and the contents are destroyed once, with no
handle inside an unfinished block.  That the contents are destroyed only once is checked by
`CHECK(!web_contents_destroyed_)`, the first line of `WebContentsDestroyed`.
-/

namespace ChromiumContent

/-- The letters of one handle's navigation. -/
inductive NavigationEvent
  | start
  | redirect
  | readyToCommit
  | finish
  deriving DecidableEq, Repr

/-- Where a handle's notifications end: between blocks, or inside an unfinished block. -/
inductive NavigationPhase
  | idle
  | inBlock
  deriving DecidableEq, Repr

/-- The phase an event may arrive in. -/
def NavigationEvent.source : NavigationEvent → NavigationPhase
  | .start => .idle
  | _ => .inBlock

/-- The phase an event leads to. -/
def NavigationEvent.target : NavigationEvent → NavigationPhase
  | .finish => .idle
  | _ => .inBlock

namespace NavigationPhase

/-- The automaton of `(Start (Redirect | ReadyToCommit)* Finish)*`; from `idle` it accepts exactly
the prefixes of the language. -/
def advance : NavigationPhase → NavigationEvent → Option NavigationPhase
  | .idle, .start => some .inBlock
  | .inBlock, .redirect => some .inBlock
  | .inBlock, .readyToCommit => some .inBlock
  | .inBlock, .finish => some .idle
  | _, _ => none

theorem advance_isSome (phase : NavigationPhase) (event : NavigationEvent) :
    (phase.advance event).isSome ↔ phase = event.source := by
  cases phase <;> cases event <;> decide

theorem advance_eq_some {phase next : NavigationPhase} {event : NavigationEvent}
    (advanced : phase.advance event = some next) : next = event.target := by
  cases phase <;> cases event <;> cases advanced <;> rfl

end NavigationPhase

namespace Observation

variable {Host Handle : Type} [DecidableEq Handle]

/-- The navigation event a notification is for a handle, if any. -/
def navigationEventFor (handle : Handle) : Observation Host Handle → Option NavigationEvent
  | .didStartNavigation other _ => if other = handle then some .start else none
  | .didRedirectNavigation other _ => if other = handle then some .redirect else none
  | .readyToCommitNavigation other _ => if other = handle then some .readyToCommit else none
  | .didFinishNavigation other _ => if other = handle then some .finish else none
  | _ => none

/-- A navigation notification whose field checks pass, or `WebContentsDestroyed`. -/
def isNavigationEvent : Observation Host Handle → Bool
  | .didStartNavigation _ facts | .didRedirectNavigation _ facts =>
      decide (facts.netErrorCode = netOk) && !facts.hasCommitted && !facts.isErrorPage &&
        facts.webContentsMatches
  | .readyToCommitNavigation _ facts =>
      !facts.hasCommitted && facts.hasRenderFrameHost && facts.webContentsMatches
  | .didFinishNavigation _ facts =>
      (!(facts.hasCommitted && !facts.isErrorPage) || decide (facts.netErrorCode = netOk)) &&
        (!(facts.hasCommitted && facts.isErrorPage) || decide (facts.netErrorCode ≠ netOk)) &&
        facts.webContentsMatches && (!facts.hasCommitted || facts.hasRenderFrameHost)
  | .webContentsDestroyed => true
  | _ => false

end Observation

namespace WebContentsObserverSanityChecker

variable {Host Handle : Type} [DecidableEq Host] [DecidableEq Handle]
  (routingPair : Host → RoutingPair) (osMacosx : Bool)

/-- The navigation events of a trace for one handle: the trace's projection onto the handle. -/
def navigationEvents (calls : List (Observation Host Handle)) (handle : Handle) :
    List NavigationEvent :=
  calls.filterMap (Observation.navigationEventFor handle)

/-- Where a handle's projection ends, or `none` once it is no prefix of the language. -/
def navigationPhase (calls : List (Observation Host Handle)) (handle : Handle) :
    Option NavigationPhase :=
  (navigationEvents calls handle).foldlM NavigationPhase.advance .idle

omit [DecidableEq Host] in
theorem navigationPhase_append_singleton (calls : List (Observation Host Handle))
    (call : Observation Host Handle) (handle : Handle) :
    navigationPhase (calls ++ [call]) handle =
      (navigationPhase calls handle).bind fun phase =>
        match call.navigationEventFor handle with
        | none => some phase
        | some event => phase.advance event := by
  cases event : call.navigationEventFor handle <;>
    simp [navigationPhase, navigationEvents, event]

/-- The traces the checker accepts: every handle's projection is a prefix of
`(Start (Redirect | ReadyToCommit)* Finish)*`, and each `WebContentsDestroyed` arrives with no
handle inside an unfinished block and after no other `WebContentsDestroyed`. -/
def NavigationAccepted (calls : List (Observation Host Handle)) : Prop :=
  (∀ handle, (navigationPhase calls handle).isSome) ∧
    EachAllowed (fun before call => call = .webContentsDestroyed →
      (∀ handle, navigationPhase before handle ≠ some .inBlock) ∧
        .webContentsDestroyed ∉ before) calls

end WebContentsObserverSanityChecker

namespace SanityChecker

variable {Host Handle : Type} [DecidableEq Handle]

/-- The abstraction of `ongoing_navigations_`: a handle in the set is inside a block. -/
def navigationPhaseOf (checker : SanityChecker Host Handle) (handle : Handle) : NavigationPhase :=
  if handle ∈ checker.ongoingNavigations then .inBlock else .idle

/-- The fields after a navigation event of `handle` that passed its `CHECK`s. -/
def recordNavigation (checker : SanityChecker Host Handle) (handle : Handle) :
    NavigationEvent → SanityChecker Host Handle
  | .start => { checker with ongoingNavigations := insert handle checker.ongoingNavigations }
  | .redirect | .readyToCommit => checker
  | .finish => { checker with ongoingNavigations := checker.ongoingNavigations.erase handle }

/-- An event arriving in its phase moves its handle to the phase it names and leaves the others. -/
theorem navigationPhaseOf_recordNavigation (checker : SanityChecker Host Handle)
    (handle other : Handle) (event : NavigationEvent)
    (inPhase : checker.navigationPhaseOf handle = event.source) :
    (checker.recordNavigation handle event).navigationPhaseOf other =
      if handle = other then event.target else checker.navigationPhaseOf other := by
  by_cases same : handle = other
  · subst same
    cases event <;> simp_all [recordNavigation, navigationPhaseOf, NavigationEvent.source,
      NavigationEvent.target]
  · cases event <;> simp [recordNavigation, navigationPhaseOf, same, Ne.symm same]

end SanityChecker

namespace WebContentsObserverSanityChecker

variable {Host Handle : Type} [DecidableEq Host] [DecidableEq Handle]
  (routingPair : Host → RoutingPair) (osMacosx : Bool)

/-- What a navigation trace keeps: the destroyed flag records a `WebContentsDestroyed`, nothing
plays, and the ongoing navigations are the handles inside an unfinished block. -/
structure NavigationInvariant (history : List (Observation Host Handle))
    (checker : SanityChecker Host Handle) : Prop where
  destroyed : checker.webContentsDestroyed = true ↔ .webContentsDestroyed ∈ history
  noPlayers : checker.activeMediaPlayers = []
  abstraction : ∀ handle,
    navigationPhase history handle = some (checker.navigationPhaseOf handle)

omit [DecidableEq Host] in
theorem navigationInvariant_initial :
    NavigationInvariant [] (initial : SanityChecker Host Handle) :=
  ⟨by simp [initial], rfl, fun handle => by
    simp [navigationPhase, navigationEvents, SanityChecker.navigationPhaseOf, initial]⟩

/-- A navigation notification whose field checks pass is one event of one handle; it passes its
`CHECK`s exactly when the handle is in the phase the event needs, and then records it. -/
theorem step_navigationEvent {checker : SanityChecker Host Handle}
    {call : Observation Host Handle} (navigationEvent : call.isNavigationEvent)
    (notDestroyed : call ≠ .webContentsDestroyed) :
    ∃ handle event, (∀ other, call.navigationEventFor other =
        if handle = other then some event else none) ∧
      (step routingPair osMacosx checker call).toOption =
        if ((checker.navigationPhaseOf handle).advance event).isSome then
          some (checker.recordNavigation handle event)
        else none := by
  simp only [NavigationPhase.advance_isSome]
  cases call with
  | didStartNavigation handle facts =>
      refine ⟨handle, .start, fun other => rfl, ?_⟩
      simp only [Observation.isNavigationEvent, Bool.and_eq_true, decide_eq_true_eq,
        Bool.not_eq_true'] at navigationEvent
      by_cases ongoing : handle ∈ checker.ongoingNavigations <;>
        simp [step, didStartNavigation_toOption, navigationEvent, ongoing,
          SanityChecker.navigationPhaseOf, SanityChecker.recordNavigation, NavigationEvent.source]
  | didRedirectNavigation handle facts =>
      refine ⟨handle, .redirect, fun other => rfl, ?_⟩
      simp only [Observation.isNavigationEvent, Bool.and_eq_true, decide_eq_true_eq,
        Bool.not_eq_true'] at navigationEvent
      by_cases ongoing : handle ∈ checker.ongoingNavigations <;>
        simp [step, didRedirectNavigation_toOption, navigationEvent, ongoing,
          SanityChecker.navigationPhaseOf, SanityChecker.recordNavigation, NavigationEvent.source]
  | readyToCommitNavigation handle facts =>
      refine ⟨handle, .readyToCommit, fun other => rfl, ?_⟩
      simp only [Observation.isNavigationEvent, Bool.and_eq_true, Bool.not_eq_true']
        at navigationEvent
      by_cases ongoing : handle ∈ checker.ongoingNavigations <;>
        simp [step, readyToCommitNavigation_toOption, navigationEvent, ongoing,
          SanityChecker.navigationPhaseOf, SanityChecker.recordNavigation, NavigationEvent.source]
  | didFinishNavigation handle facts =>
      refine ⟨handle, .finish, fun other => rfl, ?_⟩
      obtain ⟨netErrorCode, hasCommitted, isErrorPage, webContentsMatches, hasRenderFrameHost⟩ :=
        facts
      by_cases ongoing : handle ∈ checker.ongoingNavigations <;>
        cases hasCommitted <;> cases isErrorPage <;>
        simp_all [Observation.isNavigationEvent, step, didFinishNavigation_toOption,
          SanityChecker.navigationPhaseOf, SanityChecker.recordNavigation, NavigationEvent.source]
  | webContentsDestroyed => exact absurd rfl notDestroyed
  | _ => cases navigationEvent

/-- One notification of a navigation trace passes its `CHECK`s exactly when the longer trace is
accepted, and keeps the invariant. -/
theorem navigationInvariant_step {history : List (Observation Host Handle)}
    {checker : SanityChecker Host Handle} {call : Observation Host Handle}
    (invariant : NavigationInvariant history checker) (accepted : NavigationAccepted history)
    (navigationEvent : call.isNavigationEvent) :
    ((step routingPair osMacosx checker call).toOption.isSome ↔
        NavigationAccepted (history ++ [call])) ∧
      ∀ next, (step routingPair osMacosx checker call).toOption = some next →
        NavigationInvariant (history ++ [call]) next := by
  unfold NavigationAccepted
  rw [eachAllowed_append_singleton]
  by_cases destroying : call = .webContentsDestroyed
  · subst destroying
    have unchanged : ∀ handle, navigationPhase (history ++ [.webContentsDestroyed]) handle =
        navigationPhase history handle := fun handle => by
      rw [navigationPhase_append_singleton]
      cases navigationPhase history handle <;> rfl
    have empty : checker.ongoingNavigations = ∅ ↔
        ∀ handle, navigationPhase history handle ≠ some .inBlock := by
      simp [Finset.eq_empty_iff_forall_not_mem, invariant.abstraction,
        SanityChecker.navigationPhaseOf]
    have fresh : checker.webContentsDestroyed = false ↔ .webContentsDestroyed ∉ history := by
      rw [← invariant.destroyed]
      simp
    simp only [step, webContentsDestroyed_toOption, Option.isSome_ite,
      Option.ite_none_right_eq_some, unchanged, accepted.1, accepted.2, invariant.noPlayers,
      fresh, empty, and_true, true_and, forall_const, implies_true]
    refine ⟨and_comm, fun next ⟨_, recorded⟩ => ?_⟩
    cases recorded
    exact ⟨by simp, rfl, fun handle => (unchanged handle).trans
      (invariant.abstraction handle)⟩
  · obtain ⟨handle, event, eventFor, stepped⟩ :=
      step_navigationEvent routingPair osMacosx navigationEvent destroying
    have after : ∀ other, navigationPhase (history ++ [call]) other =
        if handle = other then (checker.navigationPhaseOf handle).advance event
        else some (checker.navigationPhaseOf other) := by
      intro other
      rw [navigationPhase_append_singleton, invariant.abstraction, eventFor]
      by_cases same : handle = other <;> simp [same]
    have refines := keyedStep_refines NavigationPhase.advance NavigationEvent.target
      SanityChecker.navigationPhaseOf SanityChecker.recordNavigation
      (fun _ _ _ => NavigationPhase.advance_eq_some)
      (fun checker handle event other accepted =>
        SanityChecker.navigationPhaseOf_recordNavigation checker handle other event
          ((NavigationPhase.advance_isSome _ _).mp accepted))
      after stepped
    refine ⟨by simpa [accepted.2, destroying] using refines.1, fun next recorded => ?_⟩
    obtain ⟨rfl, abstraction⟩ := refines.2 next recorded
    refine ⟨?_, by cases event <;> exact invariant.noPlayers, abstraction⟩
    rw [List.mem_append, List.mem_singleton, ← invariant.destroyed]
    cases event <;> simp [SanityChecker.recordNavigation, Ne.symm destroying]

/-- Over any trace of navigations and destructions, the checker aborts exactly when a handle leaves
its automaton or the contents are destroyed mid-navigation or twice; `ongoing_navigations_` is then
the set of handles inside an unfinished block. -/
theorem navigation_trace_aborts (calls : List (Observation Host Handle))
    (navigationOnly : ∀ call ∈ calls, call.isNavigationEvent) :
    ((run routingPair osMacosx initial calls).isOk ↔ NavigationAccepted calls) ∧
      ∀ checker, run routingPair osMacosx initial calls = .ok checker →
        ∀ handle, handle ∈ checker.ongoingNavigations ↔
          navigationPhase calls handle = some .inBlock := by
  have traced := run_initial_of_step routingPair osMacosx NavigationInvariant NavigationAccepted
    (fun call => call.isNavigationEvent) navigationInvariant_initial
    ⟨fun handle => by simp [navigationPhase, navigationEvents], eachAllowed_nil _⟩
    (fun history call longer => by
      refine ⟨fun handle => ?_, ((eachAllowed_append_singleton _ _ _).mp longer.2).1⟩
      have known := longer.1 handle
      rw [navigationPhase_append_singleton] at known
      cases before : navigationPhase history handle <;> simp_all)
    (fun _ _ _ invariant accepted navigationEvent =>
      (navigationInvariant_step routingPair osMacosx invariant accepted navigationEvent).1)
    (fun _ _ _ next invariant accepted navigationEvent =>
      (navigationInvariant_step routingPair osMacosx invariant accepted navigationEvent).2 next)
    calls navigationOnly
  refine ⟨traced.1, fun checker ran handle => ?_⟩
  rw [(traced.2 checker ran).abstraction handle]
  simp [SanityChecker.navigationPhaseOf]

/-- One navigation started, ready to commit and committed, then the contents destroyed. -/
theorem navigation_trace_aborts_committed :
    let calls : List (Observation RoutingPair Nat) :=
      [.didStartNavigation 1 ⟨0, false, false, true, false⟩,
        .readyToCommitNavigation 1 ⟨0, false, false, true, true⟩,
        .didFinishNavigation 1 ⟨0, true, false, true, true⟩, .webContentsDestroyed]
    (∀ call ∈ calls, call.isNavigationEvent) ∧
      (((run id false initial calls).isOk ↔ NavigationAccepted calls) ∧
        ∀ checker, run id false initial calls = .ok checker →
          ∀ handle, handle ∈ checker.ongoingNavigations ↔
            navigationPhase calls handle = some .inBlock) :=
  ⟨by decide, navigation_trace_aborts id false _ (by decide)⟩

/-- Two `WebContentsDestroyed` notifications and no navigation: no handle has an event, so no
projection leaves the language and none ends inside a block, yet the second notification fails
`CHECK(!web_contents_destroyed_)`. -/
theorem webContentsDestroyed_twice_aborts :
    let calls : List (Observation RoutingPair Nat) :=
      [.webContentsDestroyed, .webContentsDestroyed]
    run id false initial calls = .error .webContentsAlreadyDestroyed ∧
      ∀ handle, navigationEvents calls handle = [] :=
  ⟨rfl, fun _ => rfl⟩

end WebContentsObserverSanityChecker

end ChromiumContent
