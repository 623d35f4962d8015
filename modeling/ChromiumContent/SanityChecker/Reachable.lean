import ChromiumContent.SanityChecker.FrameLifecycle

/-!
# Reachable states of the checker

Whatever notifications arrive, in whatever order, every state the checker reaches from its
constructor keeps `live_routes_` and `deleted_routes_` disjoint, holds no player twice, and
holds no player once the contents are destroyed.  Only `RenderFrameCreated` and
`RenderFrameDeleted` touch the route sets, and each moves one pair from one set to the other;
only the media notifications and `WebContentsDestroyed` touch the players and the flag.
-/

namespace ChromiumContent

namespace WebContentsObserverSanityChecker

variable {Host Handle : Type} [DecidableEq Host] [DecidableEq Handle]
  (routingPair : Host → RoutingPair) (osMacosx : Bool)

/-- What every reachable state satisfies. -/
structure WellFormed (checker : SanityChecker Host Handle) : Prop where
  /-- No routing pair is both live and deleted. -/
  disjoint : Disjoint checker.liveRoutes checker.deletedRoutes
  /-- `active_media_players_` holds each id once. -/
  nodup : checker.activeMediaPlayers.Nodup
  /-- No player is left once the contents are destroyed. -/
  silentAfterDestroyed : checker.webContentsDestroyed = true → checker.activeMediaPlayers = []

omit [DecidableEq Host] [DecidableEq Handle] in
theorem wellFormed_initial : WellFormed (initial : SanityChecker Host Handle) :=
  ⟨by simp [initial], List.nodup_nil, fun _ => rfl⟩

/-- Every notification that passes its `CHECK`s keeps a state well formed. -/
theorem wellFormed_step {checker next : SanityChecker Host Handle}
    {call : Observation Host Handle} (wellFormed : WellFormed checker)
    (stepped : (step routingPair osMacosx checker call).toOption = some next) :
    WellFormed next := by
  have unchanged : ∀ {next : SanityChecker Host Handle}, next.liveRoutes = checker.liveRoutes →
      next.deletedRoutes = checker.deletedRoutes →
      next.activeMediaPlayers = checker.activeMediaPlayers →
      next.webContentsDestroyed = checker.webContentsDestroyed → WellFormed next :=
    fun live deleted players destroyed => ⟨live ▸ deleted ▸ wellFormed.disjoint,
      players ▸ wellFormed.nodup, players ▸ destroyed ▸ wellFormed.silentAfterDestroyed⟩
  cases call with
  | renderFrameCreated host facts =>
      simp only [step, renderFrameCreated_toOption, Option.ite_none_right_eq_some,
        Option.some.injEq] at stepped
      obtain ⟨_, rfl⟩ := stepped
      exact ⟨SanityChecker.disjoint_recordEvent (routingPair host) .created wellFormed.disjoint,
        wellFormed.nodup, wellFormed.silentAfterDestroyed⟩
  | renderFrameDeleted host =>
      simp only [step, renderFrameDeleted_toOption, Option.ite_none_right_eq_some,
        Option.some.injEq] at stepped
      obtain ⟨_, rfl⟩ := stepped
      exact ⟨SanityChecker.disjoint_recordEvent (routingPair host) .deleted wellFormed.disjoint,
        wellFormed.nodup, wellFormed.silentAfterDestroyed⟩
  | renderFrameHostChanged oldHost newHost =>
      obtain ⟨hosts, rfl⟩ := renderFrameHostChanged_frame routingPair stepped
      exact unchanged rfl rfl rfl rfl
  | didStartNavigation handle facts =>
      simp only [step, didStartNavigation_toOption, Option.ite_none_right_eq_some,
        Option.some.injEq] at stepped
      obtain ⟨_, rfl⟩ := stepped
      exact unchanged rfl rfl rfl rfl
  | didFinishNavigation handle facts =>
      simp only [step, didFinishNavigation_toOption, Option.ite_none_right_eq_some,
        Option.some.injEq] at stepped
      obtain ⟨_, rfl⟩ := stepped
      exact unchanged rfl rfl rfl rfl
  | mediaStartedPlaying id =>
      simp only [step, mediaStartedPlaying_toOption, Option.ite_none_right_eq_some,
        Option.some.injEq] at stepped
      obtain ⟨⟨fresh, absent⟩, rfl⟩ := stepped
      exact ⟨wellFormed.disjoint,
        wellFormed.nodup.append (List.nodup_singleton id) (by simpa using absent),
        fun destroyed => absurd destroyed (by simpa using fresh)⟩
  | mediaStoppedPlaying id =>
      simp only [step, mediaStoppedPlaying_toOption, Option.ite_none_right_eq_some,
        Option.some.injEq] at stepped
      obtain ⟨⟨fresh, _⟩, rfl⟩ := stepped
      exact ⟨wellFormed.disjoint, wellFormed.nodup.filter _,
        fun destroyed => absurd destroyed (by simpa using fresh)⟩
  | webContentsDestroyed =>
      simp only [step, webContentsDestroyed_toOption, Option.ite_none_right_eq_some,
        Option.some.injEq] at stepped
      obtain ⟨⟨_, _, silent⟩, rfl⟩ := stepped
      exact ⟨wellFormed.disjoint, wellFormed.nodup, fun _ => silent⟩
  | _ =>
      simp only [step, bind_toOption, Option.bind_eq_some, frameDeleted_toOption, didRedirectNavigation_toOption,
        readyToCommitNavigation_toOption, onMessageReceived_toOption, assertMainFrameExists,
        assertRenderFrameExists_toOption, pure_toOption, Option.map_if, Option.map_none,
        Option.map_some, Option.ite_none_right_eq_some, Option.some.injEq, and_true,
        exists_const] at stepped
      first
        | (subst stepped; exact wellFormed)
        | (obtain ⟨-, rfl⟩ := stepped; exact wellFormed)

/-- A run from a well-formed state ends in a well-formed state. -/
theorem wellFormed_run {start final : SanityChecker Host Handle}
    {calls : List (Observation Host Handle)} (wellFormed : WellFormed start)
    (ran : run routingPair osMacosx start calls = .ok final) : WellFormed final := by
  induction calls generalizing start with
  | nil =>
      cases ran
      exact wellFormed
  | cons call calls induction =>
      simp only [run, List.foldlM_cons] at ran
      cases stepped : step routingPair osMacosx start call with
      | error failure =>
          rw [stepped] at ran
          cases ran
      | ok next =>
          rw [stepped] at ran
          exact induction (wellFormed_step routingPair osMacosx wellFormed (by rw [stepped]; rfl))
            ran

/-- Every state the checker reaches from its constructor, over any notifications in any order,
keeps the route sets disjoint, holds no player twice, and holds no player once the contents are
destroyed. -/
theorem reachable_wellFormed (calls : List (Observation Host Handle))
    (checker : SanityChecker Host Handle)
    (ran : run routingPair osMacosx initial calls = .ok checker) : WellFormed checker :=
  wellFormed_run routingPair osMacosx wellFormed_initial ran

/-- A frame created and one of its players started, with frames named by their routing pair. -/
theorem reachable_wellFormed_playing :
    let calls : List (Observation RoutingPair Nat) :=
      [.renderFrameCreated (1, 7) ⟨true, true, none⟩, .mediaStartedPlaying ((1, 7), 0)]
    let checker : SanityChecker RoutingPair Nat :=
      ⟨false, insert (1, 7) ∅, Finset.erase ∅ (1, 7), ∅, ∅, [((1, 7), 0)]⟩
    run id false initial calls = .ok checker ∧ WellFormed checker :=
  ⟨rfl, reachable_wellFormed id false
    [.renderFrameCreated (1, 7) ⟨true, true, none⟩, .mediaStartedPlaying ((1, 7), 0)] _ rfl⟩

end WebContentsObserverSanityChecker

end ChromiumContent
