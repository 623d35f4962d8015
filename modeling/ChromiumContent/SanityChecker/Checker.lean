import Mathlib

/-!
# `WebContentsObserverSanityChecker`

A test observer that `CHECK`s the order of the notifications a `WebContents` sends.  Frames are
tracked by routing pair in `live_routes_` and `deleted_routes_`, the current hosts in
`current_hosts_`, navigations in `ongoing_navigations_` and playing media in the vector
`active_media_players_`.  Every notification is one step that either fails a `CHECK`, named by a
`CheckFailure`, or updates the fields; a failed `CHECK` aborts, so nothing after it matters.
Frame hosts and navigation handles are compared as pointers, and what a notification reads from
them when it arrives is part of the notification.
-/

namespace ChromiumContent

/-- `(GetProcess()->GetID(), GetRoutingID())`. -/
abbrev RoutingPair := Int × Int

/-- `net::OK`. -/
def netOk : Int := 0

/-- What `RenderFrameCreated` checks about its host. -/
structure FrameCreationFacts where
  /-- `GetProcess()->HasConnection()`. -/
  hasConnection : Bool
  /-- `IsRenderFrameLive()`. -/
  isRenderFrameLive : Bool
  /-- `IsRelatedSiteInstance` of the parent's site instance, `none` without a parent. -/
  relatedToParent : Option Bool
  deriving DecidableEq, Repr

/-- The host passes the three checks of `RenderFrameCreated`. -/
def FrameCreationFacts.passes (facts : FrameCreationFacts) : Bool :=
  facts.hasConnection && facts.isRenderFrameLive && facts.relatedToParent != some false

/-- What the navigation notifications read from a `NavigationHandle`. -/
structure NavigationFacts where
  /-- `GetNetErrorCode()`. -/
  netErrorCode : Int
  /-- `HasCommitted()`. -/
  hasCommitted : Bool
  /-- `IsErrorPage()`. -/
  isErrorPage : Bool
  /-- `GetWebContents() == web_contents()`. -/
  webContentsMatches : Bool
  /-- `GetRenderFrameHost() != nullptr`. -/
  hasRenderFrameHost : Bool
  deriving DecidableEq, Repr

/-- The notifications whose only check is `AssertRenderFrameExists` on their frame. -/
inductive FrameCallback
  | didStartProvisionalLoadForFrame
  | didCommitProvisionalLoadForFrame
  | didFailProvisionalLoad
  | didNavigateAnyFrame
  | documentLoadedInFrame
  | didFinishLoad
  | didFailLoad
  | didGetRedirectForResourceRequest
  | didOpenRequestedURL
  deriving DecidableEq, Repr

/-- The notifications whose only check is `AssertMainFrameExists`. -/
inductive MainFrameCallback
  | didNavigateMainFrame
  | documentAvailableInMainFrame
  | documentOnLoadCompletedInMainFrame
  deriving DecidableEq, Repr

/-- The notifications the checker receives. -/
inductive Observation (Host Handle : Type)
  | renderFrameCreated (host : Host) (facts : FrameCreationFacts)
  | renderFrameDeleted (host : Host)
  | renderFrameForInterstitialPageCreated (host : Host)
  /-- `RenderFrameHostChanged`, with `none` for a null host. -/
  | renderFrameHostChanged (oldHost newHost : Option Host)
  | frameDeleted (host : Host)
  | didStartNavigation (handle : Handle) (facts : NavigationFacts)
  | didRedirectNavigation (handle : Handle) (facts : NavigationFacts)
  | readyToCommitNavigation (handle : Handle) (facts : NavigationFacts)
  | didFinishNavigation (handle : Handle) (facts : NavigationFacts)
  | frameCallback (callback : FrameCallback) (host : Host)
  /-- A main-frame notification, with `web_contents()->GetMainFrame()`. -/
  | mainFrameCallback (callback : MainFrameCallback) (mainFrame : Host)
  /-- `MediaStartedPlaying`, with the `MediaPlayerId` pair of frame host and player. -/
  | mediaStartedPlaying (id : Host × Int)
  | mediaStoppedPlaying (id : Host × Int)
  /-- `OnMessageReceived`, with whether the message is `FrameHostMsg_RenderProcessGone`. -/
  | onMessageReceived (isRenderProcessGone : Bool) (host : Host)
  | webContentsDestroyed
  deriving DecidableEq, Repr

/-- The `CHECK` that fails. -/
inductive CheckFailure
  /-- `CHECK(!web_contents_destroyed_)`. -/
  | webContentsAlreadyDestroyed
  /-- "RenderFrameCreated called more than once for routing pair:" -/
  | renderFrameCreatedTwice (pair : RoutingPair)
  /-- "RenderFrameCreated was called for a RenderFrameHost whose render process is not currently
  live, so there's no way for the RenderFrame to have been created." -/
  | renderProcessNotLive
  /-- "RenderFrameCreated called on for a RenderFrameHost that thinks it is not alive." -/
  | renderFrameNotAlive
  /-- A child frame outside its parent's BrowsingInstance. -/
  | childOutsideParentBrowsingInstance
  /-- "RenderFrameDeleted called more than once for routing pair " -/
  | renderFrameDeletedTwice (pair : RoutingPair)
  /-- `CHECK_NE(id.first, render_frame_host)`: a player of the deleted frame is still playing. -/
  | playerOfDeletedFrame
  /-- `CHECK(new_host)`. -/
  | newHostNull
  /-- `CHECK_NE(new_host, old_host)`. -/
  | newHostIsOldHost
  /-- "RenderFrameHostChanged called with old host that did not exist:" -/
  | oldHostDidNotExist (pair : RoutingPair)
  /-- "RenderFrameHostChanged called more than once for routing pair:" -/
  | renderFrameHostChangedTwice (pair : RoutingPair)
  /-- `CHECK(!NavigationIsOngoing(navigation_handle))`. -/
  | navigationAlreadyOngoing
  /-- `CHECK(NavigationIsOngoing(navigation_handle))`. -/
  | navigationNotOngoing
  /-- `CHECK(navigation_handle->GetNetErrorCode() == net::OK)`. -/
  | netErrorNotOk
  /-- `CHECK(!navigation_handle->HasCommitted())`. -/
  | navigationCommitted
  /-- `CHECK(!navigation_handle->IsErrorPage())`. -/
  | navigationIsErrorPage
  /-- `CHECK_EQ(navigation_handle->GetWebContents(), web_contents())`. -/
  | navigationOfOtherWebContents
  /-- `CHECK(navigation_handle->GetRenderFrameHost())`. -/
  | navigationWithoutRenderFrameHost
  /-- A committed page that is not an error page without `net::OK`. -/
  | committedPageWithError
  /-- A committed error page with `net::OK`. -/
  | committedErrorPageWithoutError
  /-- "... but WebContentsObserver::RenderFrameCreated was never called for that
  RenderFrameHost: " -/
  | renderFrameNeverCreated (pair : RoutingPair)
  /-- "... but WebContentsObserver::RenderFrameDeleted had already been called on that frame:" -/
  | renderFrameAlreadyDeleted (pair : RoutingPair)
  /-- `CHECK(message.type() != FrameHostMsg_RenderProcessGone::ID)`. -/
  | renderProcessGoneLeaked
  /-- `CHECK(std::find(...) == active_media_players_.end())`. -/
  | mediaAlreadyPlaying
  /-- `CHECK(std::find(...) != active_media_players_.end())`. -/
  | mediaNotPlaying
  /-- `CHECK(ongoing_navigations_.empty())`. -/
  | navigationsOngoingAtDestruction
  /-- `CHECK(active_media_players_.empty())`. -/
  | mediaPlayingAtDestruction
  /-- `CHECK(web_contents_destroyed_)` in the destructor. -/
  | webContentsNotDestroyed
  deriving DecidableEq, Repr

/-- A `CHECK`: continue when the condition holds, fail with `failure` otherwise. -/
def check (condition : Bool) (failure : CheckFailure) : Except CheckFailure Unit :=
  if condition then pure () else throw failure

@[simp]
theorem check_bind_toOption {α : Type} (condition : Bool) (failure : CheckFailure)
    (rest : Unit → Except CheckFailure α) :
    (check condition failure >>= rest).toOption =
      if condition then (rest ()).toOption else none := by
  cases condition <;> rfl

@[simp]
theorem check_toOption (condition : Bool) (failure : CheckFailure) :
    (check condition failure).toOption = if condition then some () else none := by
  cases condition <;> rfl

@[simp]
theorem pure_toOption {α : Type} (value : α) :
    (pure value : Except CheckFailure α).toOption = some value := rfl

/-- `isOk` is the success of `toOption`. -/
theorem isOk_eq_toOption_isSome {α : Type} (result : Except CheckFailure α) :
    result.isOk = result.toOption.isSome := by
  cases result <;> rfl

theorem toOption_eq_some {α : Type} {result : Except CheckFailure α} {value : α} :
    result.toOption = some value ↔ result = .ok value := by
  cases result <;> simp [Except.toOption]

/-- The fields of `WebContentsObserverSanityChecker`. -/
structure SanityChecker (Host Handle : Type) where
  /-- `web_contents_destroyed_`. -/
  webContentsDestroyed : Bool
  /-- `live_routes_`. -/
  liveRoutes : Finset RoutingPair
  /-- `deleted_routes_`. -/
  deletedRoutes : Finset RoutingPair
  /-- `current_hosts_`. -/
  currentHosts : Finset RoutingPair
  /-- `ongoing_navigations_`. -/
  ongoingNavigations : Finset Handle
  /-- `active_media_players_`, a vector of `MediaPlayerId`s. -/
  activeMediaPlayers : List (Host × Int)

namespace WebContentsObserverSanityChecker

variable {Host Handle : Type} [DecidableEq Host] [DecidableEq Handle]

/-- The constructor: every set empty, the contents not destroyed. -/
def initial : SanityChecker Host Handle := ⟨false, ∅, ∅, ∅, ∅, []⟩

/-! ## Notifications -/

/- The routing pair of a host, and whether the build is for Mac, where `OnMessageReceived` skips
its frame check. -/
variable (routingPair : Host → RoutingPair) (osMacosx : Bool)

/-- `AssertRenderFrameExists`. -/
def assertRenderFrameExists (checker : SanityChecker Host Handle) (host : Host) :
    Except CheckFailure Unit := do
  check (!checker.webContentsDestroyed) .webContentsAlreadyDestroyed
  let pair := routingPair host
  check (pair ∈ checker.liveRoutes) (.renderFrameNeverCreated pair)
  check (pair ∉ checker.deletedRoutes) (.renderFrameAlreadyDeleted pair)

/-- `AssertMainFrameExists`, on `web_contents()->GetMainFrame()`. -/
def assertMainFrameExists (checker : SanityChecker Host Handle) (mainFrame : Host) :
    Except CheckFailure Unit :=
  assertRenderFrameExists routingPair checker mainFrame

/-- `RenderFrameCreated`. -/
def renderFrameCreated (checker : SanityChecker Host Handle) (host : Host)
    (facts : FrameCreationFacts) : Except CheckFailure (SanityChecker Host Handle) := do
  check (!checker.webContentsDestroyed) .webContentsAlreadyDestroyed
  let pair := routingPair host
  check (pair ∉ checker.liveRoutes) (.renderFrameCreatedTwice pair)
  check facts.hasConnection .renderProcessNotLive
  check facts.isRenderFrameLive .renderFrameNotAlive
  match facts.relatedToParent with
  | some related => check related .childOutsideParentBrowsingInstance
  | none => pure ()
  pure { checker with
    liveRoutes := insert pair checker.liveRoutes
    deletedRoutes := checker.deletedRoutes.erase pair }

/-- `RenderFrameDeleted`. -/
def renderFrameDeleted (checker : SanityChecker Host Handle) (host : Host) :
    Except CheckFailure (SanityChecker Host Handle) := do
  check (!checker.webContentsDestroyed) .webContentsAlreadyDestroyed
  let pair := routingPair host
  check (pair ∉ checker.deletedRoutes) (.renderFrameDeletedTwice pair)
  check (checker.activeMediaPlayers.all fun id => id.1 != host) .playerOfDeletedFrame
  pure { checker with
    liveRoutes := checker.liveRoutes.erase pair
    deletedRoutes := insert pair checker.deletedRoutes }

/-- `RenderFrameHostChanged`. -/
def renderFrameHostChanged (checker : SanityChecker Host Handle)
    (oldHost newHost : Option Host) : Except CheckFailure (SanityChecker Host Handle) := do
  let some newHost := newHost | throw .newHostNull
  check (oldHost != some newHost) .newHostIsOldHost
  let currentHosts ← match oldHost with
    | none => pure checker.currentHosts
    | some oldHost => do
        let oldPair := routingPair oldHost
        check (oldPair ∈ checker.currentHosts) (.oldHostDidNotExist oldPair)
        pure (checker.currentHosts.erase oldPair)
  let pair := routingPair newHost
  check (pair ∉ currentHosts) (.renderFrameHostChangedTwice pair)
  pure { checker with currentHosts := insert pair currentHosts }

/-- `FrameDeleted`. -/
def frameDeleted (checker : SanityChecker Host Handle) :
    Except CheckFailure (SanityChecker Host Handle) := do
  check (!checker.webContentsDestroyed) .webContentsAlreadyDestroyed
  pure checker

/-- The field checks `DidStartNavigation` and `DidRedirectNavigation` share. -/
def checkUnfinishedNavigation (facts : NavigationFacts) : Except CheckFailure Unit := do
  check (facts.netErrorCode = netOk) .netErrorNotOk
  check (!facts.hasCommitted) .navigationCommitted
  check (!facts.isErrorPage) .navigationIsErrorPage
  check facts.webContentsMatches .navigationOfOtherWebContents

/-- `DidStartNavigation`. -/
def didStartNavigation (checker : SanityChecker Host Handle) (handle : Handle)
    (facts : NavigationFacts) : Except CheckFailure (SanityChecker Host Handle) := do
  check (handle ∉ checker.ongoingNavigations) .navigationAlreadyOngoing
  checkUnfinishedNavigation facts
  pure { checker with ongoingNavigations := insert handle checker.ongoingNavigations }

/-- `DidRedirectNavigation`. -/
def didRedirectNavigation (checker : SanityChecker Host Handle) (handle : Handle)
    (facts : NavigationFacts) : Except CheckFailure (SanityChecker Host Handle) := do
  check (handle ∈ checker.ongoingNavigations) .navigationNotOngoing
  checkUnfinishedNavigation facts
  pure checker

/-- `ReadyToCommitNavigation`, which checks the frame host twice. -/
def readyToCommitNavigation (checker : SanityChecker Host Handle) (handle : Handle)
    (facts : NavigationFacts) : Except CheckFailure (SanityChecker Host Handle) := do
  check (handle ∈ checker.ongoingNavigations) .navigationNotOngoing
  check (!facts.hasCommitted) .navigationCommitted
  check facts.hasRenderFrameHost .navigationWithoutRenderFrameHost
  check facts.webContentsMatches .navigationOfOtherWebContents
  check facts.hasRenderFrameHost .navigationWithoutRenderFrameHost
  pure checker

/-- `DidFinishNavigation`. -/
def didFinishNavigation (checker : SanityChecker Host Handle) (handle : Handle)
    (facts : NavigationFacts) : Except CheckFailure (SanityChecker Host Handle) := do
  check (handle ∈ checker.ongoingNavigations) .navigationNotOngoing
  check (!(facts.hasCommitted && !facts.isErrorPage) || facts.netErrorCode = netOk)
    .committedPageWithError
  check (!(facts.hasCommitted && facts.isErrorPage) || facts.netErrorCode ≠ netOk)
    .committedErrorPageWithoutError
  check facts.webContentsMatches .navigationOfOtherWebContents
  check (!facts.hasCommitted || facts.hasRenderFrameHost) .navigationWithoutRenderFrameHost
  pure { checker with ongoingNavigations := checker.ongoingNavigations.erase handle }

/-- `MediaStartedPlaying`. -/
def mediaStartedPlaying (checker : SanityChecker Host Handle) (id : Host × Int) :
    Except CheckFailure (SanityChecker Host Handle) := do
  check (!checker.webContentsDestroyed) .webContentsAlreadyDestroyed
  check (id ∉ checker.activeMediaPlayers) .mediaAlreadyPlaying
  pure { checker with activeMediaPlayers := checker.activeMediaPlayers ++ [id] }

/-- `MediaStoppedPlaying`: the erase-remove idiom removes every copy of `id`. -/
def mediaStoppedPlaying (checker : SanityChecker Host Handle) (id : Host × Int) :
    Except CheckFailure (SanityChecker Host Handle) := do
  check (!checker.webContentsDestroyed) .webContentsAlreadyDestroyed
  check (id ∈ checker.activeMediaPlayers) .mediaNotPlaying
  pure { checker with activeMediaPlayers := checker.activeMediaPlayers.filter (· != id) }

/-- `OnMessageReceived`; its frame check is compiled out on Mac. -/
def onMessageReceived (checker : SanityChecker Host Handle) (isRenderProcessGone : Bool)
    (host : Host) : Except CheckFailure (SanityChecker Host Handle) := do
  check (!isRenderProcessGone) .renderProcessGoneLeaked
  if !osMacosx then assertRenderFrameExists routingPair checker host
  pure checker

/-- `WebContentsDestroyed`. -/
def webContentsDestroyed (checker : SanityChecker Host Handle) :
    Except CheckFailure (SanityChecker Host Handle) := do
  check (!checker.webContentsDestroyed) .webContentsAlreadyDestroyed
  let checker := { checker with webContentsDestroyed := true }
  check (checker.ongoingNavigations = ∅) .navigationsOngoingAtDestruction
  check checker.activeMediaPlayers.isEmpty .mediaPlayingAtDestruction
  pure checker

/-- The destructor. -/
def destroy (checker : SanityChecker Host Handle) : Except CheckFailure Unit :=
  check checker.webContentsDestroyed .webContentsNotDestroyed

/-- One notification. -/
def step (checker : SanityChecker Host Handle) :
    Observation Host Handle → Except CheckFailure (SanityChecker Host Handle)
  | .renderFrameCreated host facts => renderFrameCreated routingPair checker host facts
  | .renderFrameDeleted host => renderFrameDeleted routingPair checker host
  | .renderFrameForInterstitialPageCreated _ => pure checker
  | .renderFrameHostChanged oldHost newHost =>
      renderFrameHostChanged routingPair checker oldHost newHost
  | .frameDeleted _ => frameDeleted checker
  | .didStartNavigation handle facts => didStartNavigation checker handle facts
  | .didRedirectNavigation handle facts => didRedirectNavigation checker handle facts
  | .readyToCommitNavigation handle facts => readyToCommitNavigation checker handle facts
  | .didFinishNavigation handle facts => didFinishNavigation checker handle facts
  | .frameCallback _ host => do
      assertRenderFrameExists routingPair checker host
      pure checker
  | .mainFrameCallback _ mainFrame => do
      assertMainFrameExists routingPair checker mainFrame
      pure checker
  | .mediaStartedPlaying id => mediaStartedPlaying checker id
  | .mediaStoppedPlaying id => mediaStoppedPlaying checker id
  | .onMessageReceived isRenderProcessGone host =>
      onMessageReceived routingPair osMacosx checker isRenderProcessGone host
  | .webContentsDestroyed => webContentsDestroyed checker

/-- The notifications in order, up to the first failed `CHECK`. -/
def run (checker : SanityChecker Host Handle) (calls : List (Observation Host Handle)) :
    Except CheckFailure (SanityChecker Host Handle) :=
  calls.foldlM (step routingPair osMacosx) checker

/-! ## One lemma per notification

Each gives the whole effect of a notification: when none of its `CHECK`s fails, and the fields
afterwards. -/

@[simp]
theorem check_map_toOption {α : Type} (condition : Bool) (failure : CheckFailure)
    (f : Unit → α) :
    (f <$> check condition failure).toOption = if condition then some (f ()) else none := by
  cases condition <;> rfl

omit [DecidableEq Host] [DecidableEq Handle] in
theorem assertRenderFrameExists_toOption (checker : SanityChecker Host Handle) (host : Host) :
    (assertRenderFrameExists routingPair checker host).toOption =
      if checker.webContentsDestroyed = false ∧ routingPair host ∈ checker.liveRoutes ∧
          routingPair host ∉ checker.deletedRoutes then some () else none := by
  simp [assertRenderFrameExists, ite_and]

omit [DecidableEq Host] [DecidableEq Handle] in
theorem renderFrameCreated_toOption (checker : SanityChecker Host Handle) (host : Host)
    (facts : FrameCreationFacts) :
    (renderFrameCreated routingPair checker host facts).toOption =
      if checker.webContentsDestroyed = false ∧ routingPair host ∉ checker.liveRoutes ∧
          facts.passes then
        some { checker with
          liveRoutes := insert (routingPair host) checker.liveRoutes
          deletedRoutes := checker.deletedRoutes.erase (routingPair host) }
      else none := by
  obtain ⟨connection, live, related⟩ := facts
  cases related with
  | none => simp [renderFrameCreated, FrameCreationFacts.passes, ite_and]
  | some related =>
      cases related <;> simp [renderFrameCreated, FrameCreationFacts.passes, ite_and]

omit [DecidableEq Handle] in
theorem renderFrameDeleted_toOption (checker : SanityChecker Host Handle) (host : Host) :
    (renderFrameDeleted routingPair checker host).toOption =
      if checker.webContentsDestroyed = false ∧ routingPair host ∉ checker.deletedRoutes ∧
          ∀ id ∈ checker.activeMediaPlayers, id.1 ≠ host then
        some { checker with
          liveRoutes := checker.liveRoutes.erase (routingPair host)
          deletedRoutes := insert (routingPair host) checker.deletedRoutes }
      else none := by
  simp only [renderFrameDeleted, check_bind_toOption, pure_toOption, List.all_eq_true,
    bne_iff_ne]
  simp [ite_and]

omit [DecidableEq Host] in
theorem didStartNavigation_toOption (checker : SanityChecker Host Handle) (handle : Handle)
    (facts : NavigationFacts) :
    (didStartNavigation checker handle facts).toOption =
      if handle ∉ checker.ongoingNavigations ∧ facts.netErrorCode = netOk ∧
          facts.hasCommitted = false ∧ facts.isErrorPage = false ∧ facts.webContentsMatches then
        some { checker with ongoingNavigations := insert handle checker.ongoingNavigations }
      else none := by
  simp [didStartNavigation, checkUnfinishedNavigation, ite_and]

omit [DecidableEq Host] in
theorem didRedirectNavigation_toOption (checker : SanityChecker Host Handle) (handle : Handle)
    (facts : NavigationFacts) :
    (didRedirectNavigation checker handle facts).toOption =
      if handle ∈ checker.ongoingNavigations ∧ facts.netErrorCode = netOk ∧
          facts.hasCommitted = false ∧ facts.isErrorPage = false ∧ facts.webContentsMatches then
        some checker
      else none := by
  simp [didRedirectNavigation, checkUnfinishedNavigation, ite_and]

omit [DecidableEq Host] in
/-- The second check of the frame host repeats the first, so it never fails. -/
theorem readyToCommitNavigation_toOption (checker : SanityChecker Host Handle) (handle : Handle)
    (facts : NavigationFacts) :
    (readyToCommitNavigation checker handle facts).toOption =
      if handle ∈ checker.ongoingNavigations ∧ facts.hasCommitted = false ∧
          facts.hasRenderFrameHost ∧ facts.webContentsMatches then
        some checker
      else none := by
  obtain ⟨_, _, _, _, hasRenderFrameHost⟩ := facts
  cases hasRenderFrameHost <;> simp [readyToCommitNavigation, ite_and]

omit [DecidableEq Host] in
theorem didFinishNavigation_toOption (checker : SanityChecker Host Handle) (handle : Handle)
    (facts : NavigationFacts) :
    (didFinishNavigation checker handle facts).toOption =
      if handle ∈ checker.ongoingNavigations ∧
          (facts.hasCommitted ∧ facts.isErrorPage = false → facts.netErrorCode = netOk) ∧
          (facts.hasCommitted ∧ facts.isErrorPage → facts.netErrorCode ≠ netOk) ∧
          facts.webContentsMatches ∧ (facts.hasCommitted → facts.hasRenderFrameHost) then
        some { checker with ongoingNavigations := checker.ongoingNavigations.erase handle }
      else none := by
  simp [didFinishNavigation, ite_and, imp_iff_not_or, or_assoc]

omit [DecidableEq Handle] in
theorem mediaStartedPlaying_toOption (checker : SanityChecker Host Handle) (id : Host × Int) :
    (mediaStartedPlaying checker id).toOption =
      if checker.webContentsDestroyed = false ∧ id ∉ checker.activeMediaPlayers then
        some { checker with activeMediaPlayers := checker.activeMediaPlayers ++ [id] }
      else none := by
  simp [mediaStartedPlaying, ite_and]

omit [DecidableEq Handle] in
theorem mediaStoppedPlaying_toOption (checker : SanityChecker Host Handle) (id : Host × Int) :
    (mediaStoppedPlaying checker id).toOption =
      if checker.webContentsDestroyed = false ∧ id ∈ checker.activeMediaPlayers then
        some { checker with activeMediaPlayers := checker.activeMediaPlayers.filter (· != id) }
      else none := by
  simp [mediaStoppedPlaying, ite_and]

omit [DecidableEq Host] [DecidableEq Handle] in
theorem frameDeleted_toOption (checker : SanityChecker Host Handle) :
    (frameDeleted checker).toOption =
      if checker.webContentsDestroyed = false then some checker else none := by
  simp [frameDeleted]

theorem map_toOption {α β : Type} (f : α → β) (result : Except CheckFailure α) :
    (f <$> result).toOption = result.toOption.map f := by
  cases result <;> rfl

omit [DecidableEq Host] [DecidableEq Handle] in
theorem onMessageReceived_toOption (checker : SanityChecker Host Handle)
    (isRenderProcessGone : Bool) (host : Host) :
    (onMessageReceived routingPair osMacosx checker isRenderProcessGone host).toOption =
      if isRenderProcessGone = false ∧ (osMacosx = false →
          checker.webContentsDestroyed = false ∧ routingPair host ∈ checker.liveRoutes ∧
            routingPair host ∉ checker.deletedRoutes) then
        some checker
      else none := by
  cases osMacosx <;> cases isRenderProcessGone <;>
    simp [onMessageReceived, map_toOption, assertRenderFrameExists_toOption]

theorem bind_toOption {α β : Type} (result : Except CheckFailure α)
    (rest : α → Except CheckFailure β) :
    (result >>= rest).toOption = result.toOption.bind fun value => (rest value).toOption := by
  cases result <;> rfl

omit [DecidableEq Handle] in
/-- `RenderFrameHostChanged` changes `current_hosts_` and nothing else. -/
theorem renderFrameHostChanged_frame {checker next : SanityChecker Host Handle}
    {oldHost newHost : Option Host}
    (changed : (renderFrameHostChanged routingPair checker oldHost newHost).toOption = some next) :
    ∃ hosts, next = { checker with currentHosts := hosts } := by
  unfold renderFrameHostChanged at changed
  cases newHost with
  | none => cases changed
  | some newHost =>
      cases oldHost <;>
        simp [bind_toOption, apply_ite, ite_and, Option.bind_eq_some] at changed
      · exact ⟨_, changed.2.symm⟩
      · obtain ⟨_, _, _, _, rfl⟩ := changed
        exact ⟨_, rfl⟩

theorem webContentsDestroyed_toOption (checker : SanityChecker Host Handle) :
    (webContentsDestroyed checker).toOption =
      if checker.webContentsDestroyed = false ∧ checker.ongoingNavigations = ∅ ∧
          checker.activeMediaPlayers = [] then
        some { checker with webContentsDestroyed := true }
      else none := by
  simp [webContentsDestroyed, ite_and]

/-! ## Runs -/

theorem run_append_singleton (checker : SanityChecker Host Handle)
    (calls : List (Observation Host Handle)) (call : Observation Host Handle) :
    run routingPair osMacosx checker (calls ++ [call]) =
      run routingPair osMacosx checker calls >>= fun checker =>
        step routingPair osMacosx checker call := by
  simp [run]

section Traces

/- What the checker keeps about a history of notifications, the histories it accepts, and the
notifications a trace is made of. -/
variable (Invariant : List (Observation Host Handle) → SanityChecker Host Handle → Prop)
  (Accepted : List (Observation Host Handle) → Prop) (admitted : Observation Host Handle → Prop)

/-- The induction every trace theorem of the checker shares.  If one admitted notification,
after an accepted history whose state satisfies the invariant, passes its `CHECK`s exactly when
the longer history is accepted, and keeps the invariant, then a run from construction succeeds
exactly on accepted traces and ends in a state satisfying the invariant. -/
theorem run_initial_of_step (initialInvariant : Invariant [] initial)
    (initialAccepted : Accepted [])
    (acceptedPrefix : ∀ history call, Accepted (history ++ [call]) → Accepted history)
    (stepAccepted : ∀ history checker call, Invariant history checker → Accepted history →
      admitted call →
        ((step routingPair osMacosx checker call).toOption.isSome ↔ Accepted (history ++ [call])))
    (stepInvariant : ∀ history checker call next, Invariant history checker → Accepted history →
      admitted call → (step routingPair osMacosx checker call).toOption = some next →
        Invariant (history ++ [call]) next)
    (calls : List (Observation Host Handle)) (admittedCalls : ∀ call ∈ calls, admitted call) :
    ((run routingPair osMacosx initial calls).isOk ↔ Accepted calls) ∧
      ∀ final, run routingPair osMacosx initial calls = .ok final → Invariant calls final := by
  induction calls using List.reverseRecOn with
  | nil =>
      refine ⟨iff_of_true rfl initialAccepted, ?_⟩
      rintro final ⟨⟩
      exact initialInvariant
  | append_singleton calls call induction =>
      obtain ⟨accepted, invariant⟩ :=
        induction fun other mem => admittedCalls other (List.mem_append_left _ mem)
      have admittedCall := admittedCalls call (by simp)
      rw [run_append_singleton]
      cases ran : run routingPair osMacosx initial calls with
      | error failure =>
          have rejected : ¬Accepted calls := by
            simpa [ran, Except.isOk, Except.toBool] using accepted
          exact ⟨iff_of_false nofun fun longer => rejected (acceptedPrefix _ _ longer), nofun⟩
      | ok checker =>
          have before : Accepted calls := accepted.mp (by simp [ran, Except.isOk, Except.toBool])
          refine ⟨?_, fun final stepped => ?_⟩
          · rw [← stepAccepted calls checker call (invariant checker ran) before admittedCall]
            exact (isOk_eq_toOption_isSome _).symm ▸ Iff.rfl
          · exact stepInvariant calls checker call final (invariant checker ran) before admittedCall
              (toOption_eq_some.mpr stepped)

end Traces

end WebContentsObserverSanityChecker

end ChromiumContent
