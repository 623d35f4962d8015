import ChromiumContent.SanityChecker.Checker
import ChromiumContent.SanityChecker.Trace

/-!
# Media players

`active_media_players_` is a vector with set semantics: `MediaStartedPlaying` appends an id it
does not hold, and `MediaStoppedPlaying` erases every copy of an id it holds.  Over traces of the
media notifications, `RenderFrameDeleted` and `WebContentsDestroyed`, the vector holds no
duplicate and holds exactly the ids whose last event was a start.  Besides the four media checks,
such a trace also fails when a routing pair is deleted twice, and at any notification after
`WebContentsDestroyed`, since each of these notifications first checks
`!web_contents_destroyed_`.
-/

namespace ChromiumContent

/-- The events of one media player. -/
inductive MediaEvent
  | started
  | stopped
  deriving DecidableEq, Repr

namespace Observation

variable {Host Handle : Type} [DecidableEq Host]

/-- The media event a notification is for a player, if any. -/
def mediaEventFor (id : Host × Int) : Observation Host Handle → Option MediaEvent
  | .mediaStartedPlaying other => if other = id then some .started else none
  | .mediaStoppedPlaying other => if other = id then some .stopped else none
  | _ => none

/-- The notifications of a media trace. -/
def isMediaEvent : Observation Host Handle → Bool
  | .mediaStartedPlaying _ | .mediaStoppedPlaying _ | .renderFrameDeleted _
  | .webContentsDestroyed => true
  | _ => false

end Observation

namespace WebContentsObserverSanityChecker

variable {Host Handle : Type} [DecidableEq Host] [DecidableEq Handle]
  (routingPair : Host → RoutingPair) (osMacosx : Bool)

/-- The media events of a trace for one player. -/
def mediaEvents (calls : List (Observation Host Handle)) (id : Host × Int) : List MediaEvent :=
  calls.filterMap (Observation.mediaEventFor id)

/-- The last start or stop event of the player was a start. -/
def IsPlaying (calls : List (Observation Host Handle)) (id : Host × Int) : Prop :=
  (mediaEvents calls id).getLast? = some .started

/-- Some earlier `RenderFrameDeleted` was for the routing pair. -/
def FrameDeletedBefore (calls : List (Observation Host Handle)) (pair : RoutingPair) : Prop :=
  ∃ host, .renderFrameDeleted host ∈ calls ∧ routingPair host = pair

/-- When a media-trace notification passes, after the notifications before it: never after
`WebContentsDestroyed`; a start of a player not playing, a stop of a playing one, a deletion of a
frame none of whose players plays and whose routing pair was not deleted before, and a
destruction with no player playing. -/
def MediaAllowed (before : List (Observation Host Handle)) : Observation Host Handle → Prop
  | .mediaStartedPlaying id => .webContentsDestroyed ∉ before ∧ ¬IsPlaying before id
  | .mediaStoppedPlaying id => .webContentsDestroyed ∉ before ∧ IsPlaying before id
  | .renderFrameDeleted host => .webContentsDestroyed ∉ before ∧
      (∀ id, IsPlaying before id → id.1 ≠ host) ∧
      ¬FrameDeletedBefore routingPair before (routingPair host)
  | .webContentsDestroyed => .webContentsDestroyed ∉ before ∧ ∀ id, ¬IsPlaying before id
  | _ => True

omit [DecidableEq Handle] in
theorem isPlaying_append_started (calls : List (Observation Host Handle)) (started id : Host × Int) :
    IsPlaying (calls ++ [.mediaStartedPlaying started]) id ↔ started = id ∨ IsPlaying calls id := by
  by_cases same : started = id <;>
    simp [IsPlaying, mediaEvents, Observation.mediaEventFor, same]

omit [DecidableEq Handle] in
theorem isPlaying_append_stopped (calls : List (Observation Host Handle)) (stopped id : Host × Int) :
    IsPlaying (calls ++ [.mediaStoppedPlaying stopped]) id ↔ stopped ≠ id ∧ IsPlaying calls id := by
  by_cases same : stopped = id <;>
    simp [IsPlaying, mediaEvents, Observation.mediaEventFor, same]

omit [DecidableEq Handle] in
theorem isPlaying_append_of_mediaEventFor (calls : List (Observation Host Handle))
    (call : Observation Host Handle) (notMedia : ∀ id, call.mediaEventFor id = none)
    (id : Host × Int) : IsPlaying (calls ++ [call]) id ↔ IsPlaying calls id := by
  simp [IsPlaying, mediaEvents, notMedia]

/-- What a media trace keeps: the destroyed flag records a `WebContentsDestroyed`, no navigation
is ongoing, the deleted routes are the pairs of the deleted frames, and the players are the
playing ids, each once. -/
structure MediaInvariant (history : List (Observation Host Handle))
    (checker : SanityChecker Host Handle) : Prop where
  destroyed : checker.webContentsDestroyed = true ↔ .webContentsDestroyed ∈ history
  noNavigations : checker.ongoingNavigations = ∅
  deleted : ∀ pair, pair ∈ checker.deletedRoutes ↔ FrameDeletedBefore routingPair history pair
  nodup : checker.activeMediaPlayers.Nodup
  playing : ∀ id, id ∈ checker.activeMediaPlayers ↔ IsPlaying history id

omit [DecidableEq Handle] in
theorem mediaInvariant_initial :
    MediaInvariant routingPair [] (initial : SanityChecker Host Handle) :=
  ⟨by simp [initial], rfl, by simp [initial, FrameDeletedBefore], List.nodup_nil,
    by simp [initial, IsPlaying, mediaEvents]⟩

/-- One notification of a media trace passes its `CHECK`s exactly when it is allowed after the
history, and keeps the invariant. -/
theorem mediaInvariant_step {history : List (Observation Host Handle)}
    {checker : SanityChecker Host Handle} {call : Observation Host Handle}
    (invariant : MediaInvariant routingPair history checker) (mediaEvent : call.isMediaEvent) :
    ((step routingPair osMacosx checker call).toOption.isSome ↔
        MediaAllowed routingPair history call) ∧
      ∀ next, (step routingPair osMacosx checker call).toOption = some next →
        MediaInvariant routingPair (history ++ [call]) next := by
  have fresh : checker.webContentsDestroyed = false ↔ .webContentsDestroyed ∉ history := by
    rw [← invariant.destroyed]
    simp
  cases call with
  | mediaStartedPlaying started =>
      simp only [step, mediaStartedPlaying_toOption, Option.isSome_ite,
        Option.ite_none_right_eq_some, fresh, invariant.playing, MediaAllowed]
      refine ⟨trivial, fun next ⟨⟨_, fresh⟩, recorded⟩ => ?_⟩
      cases recorded
      refine ⟨by simpa using invariant.destroyed, invariant.noNavigations,
        fun pair => by simpa [FrameDeletedBefore] using invariant.deleted pair,
        invariant.nodup.append (List.nodup_singleton _) (by simpa [invariant.playing] using fresh),
        fun id => ?_⟩
      rw [isPlaying_append_started, List.mem_append, List.mem_singleton, invariant.playing]
      exact or_comm.trans (or_congr_left eq_comm)
  | mediaStoppedPlaying stopped =>
      simp only [step, mediaStoppedPlaying_toOption, Option.isSome_ite,
        Option.ite_none_right_eq_some, fresh, invariant.playing, MediaAllowed]
      refine ⟨trivial, fun next ⟨_, recorded⟩ => ?_⟩
      cases recorded
      refine ⟨by simpa using invariant.destroyed, invariant.noNavigations,
        fun pair => by simpa [FrameDeletedBefore] using invariant.deleted pair,
        invariant.nodup.filter _, fun id => ?_⟩
      rw [isPlaying_append_stopped, List.mem_filter, invariant.playing, bne_iff_ne, ne_comm]
      exact and_comm
  | renderFrameDeleted host =>
      simp only [step, renderFrameDeleted_toOption, Option.isSome_ite,
        Option.ite_none_right_eq_some, fresh, invariant.playing, invariant.deleted, MediaAllowed]
      refine ⟨and_congr_right fun _ => and_comm, fun next ⟨_, recorded⟩ => ?_⟩
      cases recorded
      refine ⟨by simpa using invariant.destroyed, invariant.noNavigations, fun pair => ?_,
        invariant.nodup, fun id => ?_⟩
      · simp only [Finset.mem_insert, invariant.deleted, FrameDeletedBefore, List.mem_append,
          List.mem_singleton, Observation.renderFrameDeleted.injEq]
        constructor
        · rintro (rfl | ⟨other, deleted, rfl⟩)
          exacts [⟨host, .inr rfl, rfl⟩, ⟨other, .inl deleted, rfl⟩]
        · rintro ⟨other, deleted | rfl, rfl⟩
          exacts [.inr ⟨other, deleted, rfl⟩, .inl rfl]
      · rw [isPlaying_append_of_mediaEventFor history (.renderFrameDeleted host) (fun _ => rfl),
          ← invariant.playing]
  | webContentsDestroyed =>
      have none : checker.activeMediaPlayers = [] ↔ ∀ id, ¬IsPlaying history id := by
        simp [List.eq_nil_iff_forall_not_mem, invariant.playing]
      simp only [step, webContentsDestroyed_toOption, Option.isSome_ite,
        Option.ite_none_right_eq_some, fresh, invariant.noNavigations, none, MediaAllowed,
        true_and]
      intro next ⟨_, recorded⟩
      cases recorded
      refine ⟨by simp, rfl,
        fun pair => by simpa [FrameDeletedBefore] using invariant.deleted pair, invariant.nodup,
        fun id => ?_⟩
      rw [isPlaying_append_of_mediaEventFor history .webContentsDestroyed (fun _ => rfl),
        ← invariant.playing]
  | _ => cases mediaEvent

/-- Over any trace of the media, frame-deletion and destruction notifications, the checker aborts
exactly when one is not allowed after the ones before it; on a trace it accepts,
`active_media_players_` holds each playing id once. -/
theorem mediaPlayers_trace_aborts (calls : List (Observation Host Handle))
    (mediaOnly : ∀ call ∈ calls, call.isMediaEvent) :
    ((run routingPair osMacosx initial calls).isOk ↔ EachAllowed (MediaAllowed routingPair) calls) ∧
      ∀ checker, run routingPair osMacosx initial calls = .ok checker →
        checker.activeMediaPlayers.Nodup ∧
          ∀ id, id ∈ checker.activeMediaPlayers ↔ IsPlaying calls id := by
  have traced := run_initial_of_step routingPair osMacosx (MediaInvariant routingPair)
    (EachAllowed (MediaAllowed routingPair)) (fun call => call.isMediaEvent)
    (mediaInvariant_initial routingPair) (eachAllowed_nil _)
    (fun _ _ longer => ((eachAllowed_append_singleton _ _ _).mp longer).1)
    (fun _ _ _ invariant accepted mediaEvent => by
      rw [eachAllowed_append_singleton,
        (mediaInvariant_step routingPair osMacosx invariant mediaEvent).1]
      exact ⟨fun allowed => ⟨accepted, allowed⟩, And.right⟩)
    (fun _ _ _ next invariant _ mediaEvent =>
      (mediaInvariant_step routingPair osMacosx invariant mediaEvent).2 next)
    calls mediaOnly
  exact ⟨traced.1, fun checker ran => ⟨(traced.2 checker ran).nodup,
    (traced.2 checker ran).playing⟩⟩

/-- A player started and stopped, its frame deleted, then the contents destroyed. -/
theorem mediaPlayers_trace_aborts_paused :
    let calls : List (Observation RoutingPair Nat) :=
      [.mediaStartedPlaying ((1, 7), 0), .mediaStoppedPlaying ((1, 7), 0),
        .renderFrameDeleted (1, 7), .webContentsDestroyed]
    (∀ call ∈ calls, call.isMediaEvent) ∧
      (((run id false initial calls).isOk ↔ EachAllowed (MediaAllowed id) calls) ∧
        ∀ checker, run id false initial calls = .ok checker →
          checker.activeMediaPlayers.Nodup ∧
            ∀ player, player ∈ checker.activeMediaPlayers ↔ IsPlaying calls player) :=
  ⟨by decide, mediaPlayers_trace_aborts id false _ (by decide)⟩

/-- A frame deleted twice, with no media at all: no player ever plays, so none of the four media
causes arises, yet the second `RenderFrameDeleted` fails its `CHECK`. -/
theorem renderFrameDeleted_twice_aborts :
    let calls : List (Observation RoutingPair Nat) :=
      [.renderFrameDeleted (1, 7), .renderFrameDeleted (1, 7)]
    run id false initial calls = .error (.renderFrameDeletedTwice (1, 7)) ∧
      ∀ player, mediaEvents calls player = [] :=
  ⟨rfl, fun _ => rfl⟩

end WebContentsObserverSanityChecker

end ChromiumContent
