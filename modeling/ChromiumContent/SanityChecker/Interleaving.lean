import ChromiumContent.SanityChecker.FrameLifecycle
import ChromiumContent.SanityChecker.Navigation
import ChromiumContent.SanityChecker.MediaPlayers
import ChromiumContent.SanityChecker.CurrentHosts

/-!
# Any interleaving

The checker is one observer of every notification of a `WebContents`: frames are created,
swapped and deleted, many navigations run, players start and stop and messages arrive, in any
order.  The modules before this one each take one kind of notification alone.  Here they run
together: a trace passes every `CHECK` exactly when each notification is allowed after the ones
before it, where what is allowed is said over the trace alone, through each routing pair's
frame and host automata, each handle's navigation automaton and each player's last event.  On
every trace it accepts, the checker's six fields are exactly these views of the trace.
-/

namespace ChromiumContent

namespace SanityChecker

variable {Host Handle : Type} [DecidableEq Handle]

theorem navigationPhaseOf_eq_inBlock {checker : SanityChecker Host Handle} {handle : Handle} :
    checker.navigationPhaseOf handle = .inBlock ↔ handle ∈ checker.ongoingNavigations := by
  unfold navigationPhaseOf
  split_ifs <;> simp_all

theorem navigationPhaseOf_eq_idle {checker : SanityChecker Host Handle} {handle : Handle} :
    checker.navigationPhaseOf handle = .idle ↔ handle ∉ checker.ongoingNavigations := by
  unfold navigationPhaseOf
  split_ifs <;> simp_all

end SanityChecker

namespace WebContentsObserverSanityChecker

variable {Host Handle : Type} [DecidableEq Host] [DecidableEq Handle]
  (routingPair : Host → RoutingPair) (osMacosx : Bool)

/-! ## What the checker allows -/

/-- When a notification passes its `CHECK`s after the notifications before it, read off the
trace, one case per notification. -/
def CheckerAllowed (before : List (Observation Host Handle)) : Observation Host Handle → Prop
  | .renderFrameCreated host facts => .webContentsDestroyed ∉ before ∧
      frameLifecycle routingPair before (routingPair host) ≠ some .live ∧ facts.passes
  | .renderFrameDeleted host => .webContentsDestroyed ∉ before ∧
      frameLifecycle routingPair before (routingPair host) ≠ some .deleted ∧
      ∀ id, IsPlaying before id → id.1 ≠ host
  | .renderFrameForInterstitialPageCreated _ => True
  | .renderFrameHostChanged oldHost newHost => ∃ host, newHost = some host ∧
      oldHost ≠ some host ∧
      (∀ old, oldHost = some old → hostPhase routingPair before (routingPair old) = some .current) ∧
      (hostPhase routingPair before (routingPair host) = some .current →
        oldHost.map routingPair = some (routingPair host))
  | .frameDeleted _ => .webContentsDestroyed ∉ before
  | call@(.didStartNavigation handle _) =>
      navigationPhase before handle = some .idle ∧ call.isNavigationEvent
  | call@(.didRedirectNavigation handle _) | call@(.readyToCommitNavigation handle _)
  | call@(.didFinishNavigation handle _) =>
      navigationPhase before handle = some .inBlock ∧ call.isNavigationEvent
  | .frameCallback _ host | .mainFrameCallback _ host => .webContentsDestroyed ∉ before ∧
      frameLifecycle routingPair before (routingPair host) = some .live
  | .mediaStartedPlaying id => .webContentsDestroyed ∉ before ∧ ¬IsPlaying before id
  | .mediaStoppedPlaying id => .webContentsDestroyed ∉ before ∧ IsPlaying before id
  | .onMessageReceived isRenderProcessGone host => isRenderProcessGone = false ∧
      (osMacosx = false → .webContentsDestroyed ∉ before ∧
        frameLifecycle routingPair before (routingPair host) = some .live)
  | .webContentsDestroyed => .webContentsDestroyed ∉ before ∧
      (∀ handle, navigationPhase before handle ≠ some .inBlock) ∧ ∀ id, ¬IsPlaying before id

/-! ## The invariant -/

/-- The checker's fields after a trace: the destroyed flag records a `WebContentsDestroyed`, the
route sets are each routing pair's frame automaton, `current_hosts_` each pair's host automaton,
the ongoing navigations each handle's navigation automaton, and the players the ids whose last
event was a start, each once. -/
structure CheckerInvariant (history : List (Observation Host Handle))
    (checker : SanityChecker Host Handle) : Prop where
  destroyed : checker.webContentsDestroyed = true ↔ .webContentsDestroyed ∈ history
  disjoint : Disjoint checker.liveRoutes checker.deletedRoutes
  frames : ∀ pair, frameLifecycle routingPair history pair = some (checker.lifecycle pair)
  hosts : ∀ pair, hostPhase routingPair history pair = some (checker.hostPhaseOf pair)
  navigations : ∀ handle, navigationPhase history handle = some (checker.navigationPhaseOf handle)
  nodup : checker.activeMediaPlayers.Nodup
  playing : ∀ id, id ∈ checker.activeMediaPlayers ↔ IsPlaying history id

theorem checkerInvariant_initial :
    CheckerInvariant routingPair [] (initial : SanityChecker Host Handle) where
  destroyed := by simp [initial]
  disjoint := by simp [initial]
  frames pair := by
    simp [frameLifecycle, frameEvents, FrameLifecycle.ofEvents, SanityChecker.lifecycle, initial]
  hosts pair := by simp [hostPhase, hostEvents, SanityChecker.hostPhaseOf, initial]
  navigations handle := by
    simp [navigationPhase, navigationEvents, SanityChecker.navigationPhaseOf, initial]
  nodup := List.nodup_nil
  playing id := by simp [initial, IsPlaying, mediaEvents]

/-- A notification that aborts unless `passes`, and otherwise leaves `after`: it passes exactly
when allowed, and keeps the invariant when `after` keeps it. -/
theorem step_allowed_of_toOption {history : List (Observation Host Handle)}
    {checker after : SanityChecker Host Handle} {call : Observation Host Handle} (passes : Prop)
    [Decidable passes]
    (stepped : (step routingPair osMacosx checker call).toOption =
      if passes then some after else none)
    (allowed : passes ↔ CheckerAllowed routingPair osMacosx history call)
    (kept : passes → CheckerInvariant routingPair (history ++ [call]) after) :
    ((step routingPair osMacosx checker call).toOption.isSome ↔
        CheckerAllowed routingPair osMacosx history call) ∧
      ∀ next, (step routingPair osMacosx checker call).toOption = some next →
        CheckerInvariant routingPair (history ++ [call]) next := by
  rw [stepped, ← allowed]
  refine ⟨by split_ifs <;> simp_all, fun next recorded => ?_⟩
  split_ifs at recorded with passed
  cases recorded
  exact kept passed

namespace CheckerInvariant

variable {routingPair} {history : List (Observation Host Handle)}
  {checker : SanityChecker Host Handle} (invariant : CheckerInvariant routingPair history checker)
include invariant

/-! ### Each field against its view -/

theorem destroyed_eq_false :
    checker.webContentsDestroyed = false ↔ .webContentsDestroyed ∉ history := by
  rw [← invariant.destroyed]
  simp

theorem frameLifecycle_eq {pair : RoutingPair} {state : FrameLifecycle} :
    frameLifecycle routingPair history pair = some state ↔ checker.lifecycle pair = state := by
  rw [invariant.frames, Option.some_inj]

theorem hostPhase_eq {pair : RoutingPair} {phase : HostPhase} :
    hostPhase routingPair history pair = some phase ↔ checker.hostPhaseOf pair = phase := by
  rw [invariant.hosts, Option.some_inj]

theorem navigationPhase_eq {handle : Handle} {phase : NavigationPhase} :
    navigationPhase history handle = some phase ↔ checker.navigationPhaseOf handle = phase := by
  rw [invariant.navigations, Option.some_inj]

/-- `AssertRenderFrameExists` passes exactly for a live frame before `WebContentsDestroyed`. -/
theorem frameExists_iff {pair : RoutingPair} :
    (checker.webContentsDestroyed = false ∧ pair ∈ checker.liveRoutes ∧
        pair ∉ checker.deletedRoutes) ↔
      .webContentsDestroyed ∉ history ∧ frameLifecycle routingPair history pair = some .live := by
  rw [invariant.destroyed_eq_false, invariant.frameLifecycle_eq, SanityChecker.lifecycle_eq_live]
  exact and_congr_right fun _ =>
    and_iff_left_of_imp fun live => Finset.disjoint_left.mp invariant.disjoint live

/-! ### Views a notification leaves alone -/

theorem destroyed_append {call : Observation Host Handle}
    (notDestroyed : call ≠ .webContentsDestroyed) :
    checker.webContentsDestroyed = true ↔ .webContentsDestroyed ∈ history ++ [call] := by
  simpa [Ne.symm notDestroyed] using invariant.destroyed

theorem frames_append {call : Observation Host Handle}
    (noFrame : ∀ pair, call.frameEventFor routingPair pair = none) (pair : RoutingPair) :
    frameLifecycle routingPair (history ++ [call]) pair = some (checker.lifecycle pair) := by
  simp [frameLifecycle_append_singleton, noFrame, invariant.frames]

theorem hosts_append {call : Observation Host Handle}
    (noHost : ∀ pair, call.hostEventsFor routingPair pair = []) (pair : RoutingPair) :
    hostPhase routingPair (history ++ [call]) pair = some (checker.hostPhaseOf pair) := by
  simp [hostPhase_append_singleton, noHost, invariant.hosts]

theorem navigations_append {call : Observation Host Handle}
    (noNavigation : ∀ handle, call.navigationEventFor handle = none) (handle : Handle) :
    navigationPhase (history ++ [call]) handle = some (checker.navigationPhaseOf handle) := by
  simp [navigationPhase_append_singleton, noNavigation, invariant.navigations]

theorem playing_append {call : Observation Host Handle}
    (noMedia : ∀ id, call.mediaEventFor id = none) (id : Host × Int) :
    id ∈ checker.activeMediaPlayers ↔ IsPlaying (history ++ [call]) id := by
  rw [isPlaying_append_of_mediaEventFor history call noMedia, invariant.playing]

/-- A notification that is no event of a frame, a host, a navigation or a player, and is not
`WebContentsDestroyed`, keeps the invariant on the checker it leaves unchanged. -/
theorem append_quiet {call : Observation Host Handle}
    (noFrame : ∀ pair, call.frameEventFor routingPair pair = none)
    (noHost : ∀ pair, call.hostEventsFor routingPair pair = [])
    (noNavigation : ∀ handle, call.navigationEventFor handle = none)
    (noMedia : ∀ id, call.mediaEventFor id = none) (notDestroyed : call ≠ .webContentsDestroyed) :
    CheckerInvariant routingPair (history ++ [call]) checker :=
  ⟨invariant.destroyed_append notDestroyed, invariant.disjoint, invariant.frames_append noFrame,
    invariant.hosts_append noHost, invariant.navigations_append noNavigation, invariant.nodup,
    invariant.playing_append noMedia⟩

/-! ### Views a notification moves -/

/-- A lifecycle notification its pair's automaton accepts moves that automaton and leaves the
others. -/
theorem append_recordEvent {call : Observation Host Handle} (pair : RoutingPair)
    (event : FrameEvent)
    (eventFor : ∀ other, call.frameEventFor routingPair other =
      if pair = other then some event else none)
    (noHost : ∀ pair, call.hostEventsFor routingPair pair = [])
    (noNavigation : ∀ handle, call.navigationEventFor handle = none)
    (noMedia : ∀ id, call.mediaEventFor id = none) (notDestroyed : call ≠ .webContentsDestroyed)
    (accepted : checker.lifecycle pair ≠ event.target) :
    CheckerInvariant routingPair (history ++ [call]) (checker.recordEvent pair event) := by
  have after : ∀ other, frameLifecycle routingPair (history ++ [call]) other =
      if pair = other then (checker.lifecycle pair).advance event
      else some (checker.lifecycle other) := by
    intro other
    rw [frameLifecycle_append_singleton, invariant.frames, eventFor]
    by_cases same : pair = other <;> simp [same]
  have frames := keyedStep_refines FrameLifecycle.advance FrameEvent.target
    SanityChecker.lifecycle SanityChecker.recordEvent (fun _ _ _ => FrameLifecycle.advance_eq_some)
    (fun checker pair event other _ => SanityChecker.lifecycle_recordEvent checker pair other event)
    after rfl
  have advanced := (advance_isSome _ _).mpr accepted
  cases event <;>
    exact ⟨invariant.destroyed_append notDestroyed,
      SanityChecker.disjoint_recordEvent pair _ invariant.disjoint,
      (frames.2 _ (by simp [advanced])).2, invariant.hosts_append noHost,
      invariant.navigations_append noNavigation, invariant.nodup, invariant.playing_append noMedia⟩

/-- A navigation notification in its handle's phase moves that handle's automaton and leaves the
others. -/
theorem append_recordNavigation {call : Observation Host Handle} (handle : Handle)
    (event : NavigationEvent)
    (eventFor : ∀ other, call.navigationEventFor other =
      if handle = other then some event else none)
    (noFrame : ∀ pair, call.frameEventFor routingPair pair = none)
    (noHost : ∀ pair, call.hostEventsFor routingPair pair = [])
    (noMedia : ∀ id, call.mediaEventFor id = none) (notDestroyed : call ≠ .webContentsDestroyed)
    (inPhase : checker.navigationPhaseOf handle = event.source) :
    CheckerInvariant routingPair (history ++ [call]) (checker.recordNavigation handle event) := by
  have after : ∀ other, navigationPhase (history ++ [call]) other =
      if handle = other then (checker.navigationPhaseOf handle).advance event
      else some (checker.navigationPhaseOf other) := by
    intro other
    rw [navigationPhase_append_singleton, invariant.navigations, eventFor]
    by_cases same : handle = other <;> simp [same]
  have navigations := keyedStep_refines NavigationPhase.advance NavigationEvent.target
    SanityChecker.navigationPhaseOf SanityChecker.recordNavigation
    (fun _ _ _ => NavigationPhase.advance_eq_some)
    (fun checker handle event other accepted =>
      SanityChecker.navigationPhaseOf_recordNavigation checker handle other event
        ((NavigationPhase.advance_isSome _ _).mp accepted))
    after rfl
  have advanced := (NavigationPhase.advance_isSome _ event).mpr inPhase
  cases event <;>
    exact ⟨invariant.destroyed_append notDestroyed, invariant.disjoint,
      invariant.frames_append noFrame, invariant.hosts_append noHost,
      (navigations.2 _ (by simp [advanced])).2, invariant.nodup, invariant.playing_append noMedia⟩

end CheckerInvariant

omit [DecidableEq Host] [DecidableEq Handle] in
theorem assertRenderFrameExists_bind_toOption (checker : SanityChecker Host Handle) (host : Host) :
    (assertRenderFrameExists routingPair checker host >>= fun _ => pure checker).toOption =
      if checker.webContentsDestroyed = false ∧ routingPair host ∈ checker.liveRoutes ∧
          routingPair host ∉ checker.deletedRoutes then some checker else none := by
  rw [bind_toOption, assertRenderFrameExists_toOption]
  split_ifs <;> rfl

/-! ## One notification -/

/-- One notification after a trace: it passes its `CHECK`s exactly when it is allowed after the
trace, and keeps the invariant. -/
theorem checkerInvariant_step {history : List (Observation Host Handle)}
    {checker : SanityChecker Host Handle} (invariant : CheckerInvariant routingPair history checker)
    (call : Observation Host Handle) :
    ((step routingPair osMacosx checker call).toOption.isSome ↔
        CheckerAllowed routingPair osMacosx history call) ∧
      ∀ next, (step routingPair osMacosx checker call).toOption = some next →
        CheckerInvariant routingPair (history ++ [call]) next := by
  cases call with
  | renderFrameCreated host facts =>
      refine step_allowed_of_toOption routingPair osMacosx _
        (renderFrameCreated_toOption routingPair checker host facts) ?_ fun ⟨_, notLive, _⟩ => ?_
      · simp only [CheckerAllowed, invariant.destroyed_eq_false, ne_eq, invariant.frameLifecycle_eq,
          SanityChecker.lifecycle_eq_live]
      · exact invariant.append_recordEvent (routingPair host) .created (fun _ => rfl)
          (fun _ => rfl) (fun _ => rfl) (fun _ => rfl) nofun
          (mt SanityChecker.lifecycle_eq_live.mp notLive)
  | renderFrameDeleted host =>
      refine step_allowed_of_toOption routingPair osMacosx _
        (renderFrameDeleted_toOption routingPair checker host) ?_ fun ⟨_, notDeleted, _⟩ => ?_
      · simp only [CheckerAllowed, invariant.destroyed_eq_false, ne_eq, invariant.frameLifecycle_eq,
          SanityChecker.lifecycle_eq_deleted invariant.disjoint, invariant.playing]
      · exact invariant.append_recordEvent (routingPair host) .deleted (fun _ => rfl)
          (fun _ => rfl) (fun _ => rfl) (fun _ => rfl) nofun
          (mt (SanityChecker.lifecycle_eq_deleted invariant.disjoint).mp notDeleted)
  | renderFrameForInterstitialPageCreated host =>
      exact step_allowed_of_toOption routingPair osMacosx True rfl Iff.rfl fun _ =>
        invariant.append_quiet (fun _ => rfl) (fun _ => rfl) (fun _ => rfl) (fun _ => rfl) nofun
  | renderFrameHostChanged oldHost newHost =>
      cases newHost with
      | none => exact ⟨iff_of_false Bool.false_ne_true (by simp [CheckerAllowed]), nofun⟩
      | some newHost =>
          have stepped : step routingPair osMacosx checker (.renderFrameHostChanged oldHost newHost) =
              renderFrameHostChanged routingPair checker oldHost newHost := rfl
          refine ⟨?_, fun next changed => ?_⟩
          · rw [stepped, renderFrameHostChanged_isSome]
            simp [CheckerAllowed, invariant.hostPhase_eq]
          · rw [stepped] at changed
            obtain ⟨hosts, rfl⟩ := renderFrameHostChanged_frame routingPair changed
            refine ⟨invariant.destroyed_append nofun, invariant.disjoint,
              invariant.frames_append (fun _ => rfl), fun pair => ?_,
              invariant.navigations_append (fun _ => rfl), invariant.nodup,
              invariant.playing_append (fun _ => rfl)⟩
            rw [hostPhase_append_singleton, invariant.hosts]
            exact hostPhaseOf_renderFrameHostChanged routingPair changed pair
  | frameDeleted host =>
      exact step_allowed_of_toOption routingPair osMacosx _ (frameDeleted_toOption checker)
        invariant.destroyed_eq_false fun _ =>
          invariant.append_quiet (fun _ => rfl) (fun _ => rfl) (fun _ => rfl) (fun _ => rfl) nofun
  | didStartNavigation handle facts =>
      refine step_allowed_of_toOption routingPair osMacosx _
        (didStartNavigation_toOption checker handle facts) ?_ fun ⟨idle, _⟩ => ?_
      · simp only [CheckerAllowed, invariant.navigationPhase_eq,
          SanityChecker.navigationPhaseOf_eq_idle, Observation.isNavigationEvent,
          Bool.and_eq_true, decide_eq_true_eq, Bool.not_eq_true', and_assoc]
      · exact invariant.append_recordNavigation handle .start (fun _ => rfl) (fun _ => rfl)
          (fun _ => rfl) (fun _ => rfl) nofun (SanityChecker.navigationPhaseOf_eq_idle.mpr idle)
  | didRedirectNavigation handle facts =>
      refine step_allowed_of_toOption routingPair osMacosx _
        (didRedirectNavigation_toOption checker handle facts) ?_ fun ⟨ongoing, _⟩ => ?_
      · simp only [CheckerAllowed, invariant.navigationPhase_eq,
          SanityChecker.navigationPhaseOf_eq_inBlock, Observation.isNavigationEvent,
          Bool.and_eq_true, decide_eq_true_eq, Bool.not_eq_true', and_assoc]
      · exact invariant.append_recordNavigation handle .redirect (fun _ => rfl) (fun _ => rfl)
          (fun _ => rfl) (fun _ => rfl) nofun
          (SanityChecker.navigationPhaseOf_eq_inBlock.mpr ongoing)
  | readyToCommitNavigation handle facts =>
      refine step_allowed_of_toOption routingPair osMacosx _
        (readyToCommitNavigation_toOption checker handle facts) ?_ fun ⟨ongoing, _⟩ => ?_
      · simp only [CheckerAllowed, invariant.navigationPhase_eq,
          SanityChecker.navigationPhaseOf_eq_inBlock, Observation.isNavigationEvent,
          Bool.and_eq_true, Bool.not_eq_true', and_assoc]
      · exact invariant.append_recordNavigation handle .readyToCommit (fun _ => rfl)
          (fun _ => rfl) (fun _ => rfl) (fun _ => rfl) nofun
          (SanityChecker.navigationPhaseOf_eq_inBlock.mpr ongoing)
  | didFinishNavigation handle facts =>
      refine step_allowed_of_toOption routingPair osMacosx _
        (didFinishNavigation_toOption checker handle facts) ?_ fun ⟨ongoing, _⟩ => ?_
      · obtain ⟨netErrorCode, hasCommitted, isErrorPage, webContentsMatches, hasRenderFrameHost⟩ :=
          facts
        cases hasCommitted <;> cases isErrorPage <;>
          simp [CheckerAllowed, invariant.navigationPhase_eq,
            SanityChecker.navigationPhaseOf_eq_inBlock, Observation.isNavigationEvent, and_assoc]
      · exact invariant.append_recordNavigation handle .finish (fun _ => rfl) (fun _ => rfl)
          (fun _ => rfl) (fun _ => rfl) nofun
          (SanityChecker.navigationPhaseOf_eq_inBlock.mpr ongoing)
  | frameCallback callback host =>
      exact step_allowed_of_toOption routingPair osMacosx _
        (assertRenderFrameExists_bind_toOption routingPair checker host) invariant.frameExists_iff
        fun _ =>
          invariant.append_quiet (fun _ => rfl) (fun _ => rfl) (fun _ => rfl) (fun _ => rfl) nofun
  | mainFrameCallback callback mainFrame =>
      exact step_allowed_of_toOption routingPair osMacosx _
        (assertRenderFrameExists_bind_toOption routingPair checker mainFrame)
        invariant.frameExists_iff fun _ =>
          invariant.append_quiet (fun _ => rfl) (fun _ => rfl) (fun _ => rfl) (fun _ => rfl) nofun
  | mediaStartedPlaying started =>
      refine step_allowed_of_toOption routingPair osMacosx _
        (mediaStartedPlaying_toOption checker started) ?_ fun ⟨_, fresh⟩ => ?_
      · simp only [CheckerAllowed, invariant.destroyed_eq_false, invariant.playing]
      · refine ⟨invariant.destroyed_append nofun, invariant.disjoint,
          invariant.frames_append (fun _ => rfl), invariant.hosts_append (fun _ => rfl),
          invariant.navigations_append (fun _ => rfl),
          invariant.nodup.append (List.nodup_singleton _) (List.disjoint_singleton.mpr fresh),
          fun id => ?_⟩
        rw [isPlaying_append_started, List.mem_append, List.mem_singleton, invariant.playing]
        exact or_comm.trans (or_congr_left eq_comm)
  | mediaStoppedPlaying stopped =>
      refine step_allowed_of_toOption routingPair osMacosx _
        (mediaStoppedPlaying_toOption checker stopped) ?_ fun _ => ?_
      · simp only [CheckerAllowed, invariant.destroyed_eq_false, invariant.playing]
      · refine ⟨invariant.destroyed_append nofun, invariant.disjoint,
          invariant.frames_append (fun _ => rfl), invariant.hosts_append (fun _ => rfl),
          invariant.navigations_append (fun _ => rfl), invariant.nodup.filter _, fun id => ?_⟩
        rw [isPlaying_append_stopped, List.mem_filter, invariant.playing, bne_iff_ne, ne_comm]
        exact and_comm
  | onMessageReceived isRenderProcessGone host =>
      exact step_allowed_of_toOption routingPair osMacosx _
        (onMessageReceived_toOption routingPair osMacosx checker isRenderProcessGone host)
        (and_congr_right fun _ => imp_congr_right fun _ => invariant.frameExists_iff) fun _ =>
          invariant.append_quiet (fun _ => rfl) (fun _ => rfl) (fun _ => rfl) (fun _ => rfl) nofun
  | webContentsDestroyed =>
      refine step_allowed_of_toOption routingPair osMacosx _ (webContentsDestroyed_toOption checker)
        ?_ fun _ => ⟨by simp, invariant.disjoint, invariant.frames_append (fun _ => rfl),
          invariant.hosts_append (fun _ => rfl), invariant.navigations_append (fun _ => rfl),
          invariant.nodup, invariant.playing_append (fun _ => rfl)⟩
      simp [CheckerAllowed, invariant.destroyed_eq_false, Finset.eq_empty_iff_forall_not_mem,
        invariant.navigationPhase_eq, SanityChecker.navigationPhaseOf_eq_inBlock,
        List.eq_nil_iff_forall_not_mem, invariant.playing]

/-! ## Whole traces -/

/-- Over any interleaving, a run from construction passes exactly on the traces whose every
notification is allowed after the ones before it, and ends in a state satisfying the
invariant. -/
theorem checkerInvariant_run (calls : List (Observation Host Handle)) :
    ((run routingPair osMacosx initial calls).isOk ↔
        EachAllowed (CheckerAllowed routingPair osMacosx) calls) ∧
      ∀ final, run routingPair osMacosx initial calls = .ok final →
        CheckerInvariant routingPair calls final :=
  run_initial_of_step routingPair osMacosx (CheckerInvariant routingPair)
    (EachAllowed (CheckerAllowed routingPair osMacosx)) (fun _ => True)
    (checkerInvariant_initial routingPair) (eachAllowed_nil _)
    (fun history call longer => ((eachAllowed_append_singleton _ history call).mp longer).1)
    (fun history _ call invariant accepted _ => by
      rw [eachAllowed_append_singleton, and_iff_right accepted]
      exact (checkerInvariant_step routingPair osMacosx invariant call).1)
    (fun _ _ call next invariant _ _ =>
      (checkerInvariant_step routingPair osMacosx invariant call).2 next)
    calls (fun _ _ => trivial)

/-- The destructor after a run passes exactly when the run passed and `WebContentsDestroyed` came. -/
theorem run_destroy_isOk_iff (calls : List (Observation Host Handle)) :
    (run routingPair osMacosx initial calls >>= destroy).isOk ↔
      EachAllowed (CheckerAllowed routingPair osMacosx) calls ∧ .webContentsDestroyed ∈ calls := by
  obtain ⟨accepted, invariant⟩ := checkerInvariant_run routingPair osMacosx calls
  rw [← accepted, isOk_eq_toOption_isSome, isOk_eq_toOption_isSome, bind_toOption]
  cases ran : run routingPair osMacosx initial calls with
  | error failure => simp [Except.toOption]
  | ok final =>
      have ok : (Except.ok final : Except CheckFailure (SanityChecker Host Handle)).toOption =
          some final := rfl
      simp [ok, destroy, ← (invariant final ran).destroyed]

/-- Over any interleaving, the notifications pass exactly when each is allowed after the ones
before it, the destructor passes exactly when `WebContentsDestroyed` came as well, and each field
is the trace's view. -/
theorem checker_accepts_exactly_allowed_traces (calls : List (Observation Host Handle)) :
    ((run routingPair osMacosx initial calls).isOk ↔
        EachAllowed (CheckerAllowed routingPair osMacosx) calls) ∧
      ((run routingPair osMacosx initial calls >>= destroy).isOk ↔
        EachAllowed (CheckerAllowed routingPair osMacosx) calls ∧
          .webContentsDestroyed ∈ calls) ∧
      ∀ final, run routingPair osMacosx initial calls = .ok final →
        CheckerInvariant routingPair calls final :=
  ⟨(checkerInvariant_run routingPair osMacosx calls).1, run_destroy_isOk_iff routingPair osMacosx calls,
    (checkerInvariant_run routingPair osMacosx calls).2⟩

/-- The navigation notifications never read `web_contents_destroyed_`: after any trace the whole
life accepts, a navigation can start after the destruction, never finish, and still pass. -/
theorem didStartNavigation_after_destruction_unchecked (calls : List (Observation Host Handle))
    (handle : Handle) (facts : NavigationFacts)
    (lived : (run routingPair osMacosx initial calls >>= destroy).isOk)
    (idle : navigationPhase calls handle = some .idle)
    (fields : (Observation.didStartNavigation handle facts : Observation Host Handle).isNavigationEvent) :
    (run routingPair osMacosx initial (calls ++ [.didStartNavigation handle facts]) >>=
      destroy).isOk := by
  rw [run_destroy_isOk_iff] at lived ⊢
  rw [eachAllowed_append_singleton]
  exact ⟨⟨lived.1, idle, fields⟩, List.mem_append_left _ lived.2⟩

/-- A navigation that starts after the contents were destroyed, with no frame ever created. -/
theorem didStartNavigation_after_destruction_unchecked_destroyed :
    let calls : List (Observation RoutingPair Nat) := [.webContentsDestroyed]
    let facts : NavigationFacts := ⟨0, false, false, true, false⟩
    (run id false initial calls >>= destroy).isOk ∧ navigationPhase calls 0 = some .idle ∧
      (Observation.didStartNavigation 0 facts : Observation RoutingPair Nat).isNavigationEvent ∧
      (run id false initial (calls ++ [.didStartNavigation 0 facts]) >>= destroy).isOk :=
  ⟨by decide, by decide, by decide,
    didStartNavigation_after_destruction_unchecked id false _ 0 _ (by decide) (by decide)
      (by decide)⟩

/-- `current_hosts_` is never compared with the route sets or the destroyed flag: after any trace
the whole life accepts, any non-current host can become current and still pass. -/
theorem renderFrameHostChanged_unchecked_against_frames (calls : List (Observation Host Handle))
    (host : Host) (lived : (run routingPair osMacosx initial calls >>= destroy).isOk)
    (notCurrent : hostPhase routingPair calls (routingPair host) = some .notCurrent) :
    (run routingPair osMacosx initial (calls ++ [.renderFrameHostChanged none (some host)]) >>=
      destroy).isOk := by
  rw [run_destroy_isOk_iff] at lived ⊢
  rw [eachAllowed_append_singleton]
  refine ⟨⟨lived.1, host, rfl, nofun, nofun, fun current => ?_⟩, List.mem_append_left _ lived.2⟩
  rw [notCurrent] at current
  cases current

/-- A frame created, deleted, and then made current after the contents were destroyed. -/
theorem renderFrameHostChanged_unchecked_against_frames_deleted :
    let calls : List (Observation RoutingPair Nat) :=
      [.renderFrameCreated (1, 7) ⟨true, true, none⟩, .renderFrameDeleted (1, 7),
        .webContentsDestroyed]
    (run id false initial calls >>= destroy).isOk ∧
      hostPhase id calls (1, 7) = some .notCurrent ∧
      (run id false initial (calls ++ [.renderFrameHostChanged none (some (1, 7))]) >>=
        destroy).isOk :=
  ⟨by decide, by decide,
    renderFrameHostChanged_unchecked_against_frames id false _ (1, 7) (by decide) (by decide)⟩

end WebContentsObserverSanityChecker

end ChromiumContent
