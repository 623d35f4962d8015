import ChromiumContent.SanityChecker.Checker

/-!
# Current hosts

`RenderFrameHostChanged(old_host, new_host)` swaps the current host of a frame: it erases the old
host's routing pair from `current_hosts_`, which must hold it, and then inserts the new host's,
which must not be there by then.  Per routing pair this is an automaton with two states, current
or not, whose letters are a host of the pair leaving and arriving; a change between two hosts of
one routing pair is both letters, the leaving first.
-/

namespace ChromiumContent

/-- Whether a routing pair belongs to a current host. -/
inductive HostPhase
  | notCurrent
  | current
  deriving DecidableEq, Repr

/-- A host of a routing pair stops or starts being current. -/
inductive HostEvent
  | swappedOut
  | swappedIn
  deriving DecidableEq, Repr

/-- The phase an event leads to. -/
def HostEvent.target : HostEvent → HostPhase
  | .swappedOut => .notCurrent
  | .swappedIn => .current

namespace HostPhase

/-- The per-pair automaton: only a current pair leaves, only a pair not current arrives. -/
def advance : HostPhase → HostEvent → Option HostPhase
  | .current, .swappedOut => some .notCurrent
  | .notCurrent, .swappedIn => some .current
  | _, _ => none

theorem advance_isSome (phase : HostPhase) (event : HostEvent) :
    (phase.advance event).isSome ↔ phase ≠ event.target := by
  cases phase <;> cases event <;> decide

theorem advance_eq_some {phase next : HostPhase} {event : HostEvent}
    (advanced : phase.advance event = some next) : next = event.target := by
  cases phase <;> cases event <;> cases advanced <;> rfl

end HostPhase

namespace Observation

variable {Host Handle : Type} (routingPair : Host → RoutingPair) (pair : RoutingPair)

/-- `[event]` for a host of the routing pair, nothing for another host or a null one. -/
def hostEventOf (event : HostEvent) : Option Host → List HostEvent
  | some host => if routingPair host = pair then [event] else []
  | none => []

/-- The host events a notification is for a routing pair: the old host leaving, then the new
one arriving. -/
def hostEventsFor : Observation Host Handle → List HostEvent
  | .renderFrameHostChanged oldHost newHost =>
      hostEventOf routingPair pair .swappedOut oldHost ++
        hostEventOf routingPair pair .swappedIn newHost
  | _ => []

end Observation

namespace WebContentsObserverSanityChecker

variable {Host Handle : Type} (routingPair : Host → RoutingPair)

/-- The host events of a trace for one routing pair, in order. -/
def hostEvents (calls : List (Observation Host Handle)) (pair : RoutingPair) : List HostEvent :=
  calls.flatMap (Observation.hostEventsFor routingPair pair)

/-- The automaton's phase for a routing pair after a trace, if it accepts the pair's events. -/
def hostPhase (calls : List (Observation Host Handle)) (pair : RoutingPair) : Option HostPhase :=
  (hostEvents routingPair calls pair).foldlM HostPhase.advance .notCurrent

theorem hostPhase_append_singleton (calls : List (Observation Host Handle))
    (call : Observation Host Handle) (pair : RoutingPair) :
    hostPhase routingPair (calls ++ [call]) pair =
      (hostPhase routingPair calls pair).bind fun phase =>
        (call.hostEventsFor routingPair pair).foldlM HostPhase.advance phase := by
  simp [hostPhase, hostEvents]

end WebContentsObserverSanityChecker

namespace SanityChecker

variable {Host Handle : Type}

/-- The abstraction of `current_hosts_`. -/
def hostPhaseOf (checker : SanityChecker Host Handle) (pair : RoutingPair) : HostPhase :=
  if pair ∈ checker.currentHosts then .current else .notCurrent

end SanityChecker

namespace WebContentsObserverSanityChecker

variable {Host Handle : Type} [DecidableEq Host] (routingPair : Host → RoutingPair)

/-- `RenderFrameHostChanged` without an old host: the new host's pair must not be current. -/
theorem renderFrameHostChanged_none_toOption (checker : SanityChecker Host Handle)
    (newHost : Host) :
    (renderFrameHostChanged routingPair checker none (some newHost)).toOption =
      if routingPair newHost ∉ checker.currentHosts then
        some { checker with currentHosts := insert (routingPair newHost) checker.currentHosts }
      else none := by
  simp [renderFrameHostChanged]

/-- `RenderFrameHostChanged` from an old host: the hosts differ, the old host's pair is current,
and the new host's pair is not current once the old one's is erased. -/
theorem renderFrameHostChanged_some_toOption (checker : SanityChecker Host Handle)
    (oldHost newHost : Host) :
    (renderFrameHostChanged routingPair checker (some oldHost) (some newHost)).toOption =
      if oldHost ≠ newHost ∧ routingPair oldHost ∈ checker.currentHosts ∧
          routingPair newHost ∉ checker.currentHosts.erase (routingPair oldHost) then
        some { checker with
          currentHosts :=
            insert (routingPair newHost) (checker.currentHosts.erase (routingPair oldHost)) }
      else none := by
  by_cases same : oldHost = newHost
  · simp [renderFrameHostChanged, same]
  by_cases current : routingPair oldHost ∈ checker.currentHosts
  · by_cases twice : routingPair newHost ∈ checker.currentHosts.erase (routingPair oldHost) <;>
      simp [renderFrameHostChanged, bind_toOption, same, current, twice, -Finset.mem_erase]
  · simp [renderFrameHostChanged, same, current, bind_toOption]

/-- When `RenderFrameHostChanged` passes, in terms of the phases of the two hosts' pairs: the
old host's pair is current, and the new host's pair is current only if it is the old one's. -/
theorem renderFrameHostChanged_isSome (checker : SanityChecker Host Handle)
    (oldHost : Option Host) (newHost : Host) :
    (renderFrameHostChanged routingPair checker oldHost (some newHost)).toOption.isSome ↔
      oldHost ≠ some newHost ∧
        (∀ old, oldHost = some old → checker.hostPhaseOf (routingPair old) = .current) ∧
        (checker.hostPhaseOf (routingPair newHost) = .current →
          oldHost.map routingPair = some (routingPair newHost)) := by
  cases oldHost with
  | none => simp [renderFrameHostChanged_none_toOption, SanityChecker.hostPhaseOf]
  | some oldHost =>
      rw [renderFrameHostChanged_some_toOption]
      by_cases same : routingPair oldHost = routingPair newHost
      · simp [SanityChecker.hostPhaseOf, same]
      · by_cases current : routingPair oldHost ∈ checker.currentHosts <;>
          simp [SanityChecker.hostPhaseOf, current, same, Ne.symm same]

/-- After a passing `RenderFrameHostChanged`, every pair's phase is the automaton's, run on the
pair's host events from the phase before. -/
theorem hostPhaseOf_renderFrameHostChanged {checker next : SanityChecker Host Handle}
    {oldHost : Option Host} {newHost : Host}
    (changed : (renderFrameHostChanged routingPair checker oldHost (some newHost)).toOption =
      some next) (pair : RoutingPair) :
    ((Observation.renderFrameHostChanged oldHost (some newHost) : Observation Host Handle).hostEventsFor
        routingPair pair).foldlM HostPhase.advance (checker.hostPhaseOf pair) =
      some (next.hostPhaseOf pair) := by
  cases oldHost with
  | none =>
      rw [renderFrameHostChanged_none_toOption] at changed
      split_ifs at changed with fresh
      cases changed
      simp only [Observation.hostEventsFor, Observation.hostEventOf, SanityChecker.hostPhaseOf,
        Finset.mem_insert]
      by_cases arrived : routingPair newHost = pair
      · subst arrived
        simp [fresh, HostPhase.advance]
      · simp [arrived, Ne.symm arrived]
  | some oldHost =>
      rw [renderFrameHostChanged_some_toOption] at changed
      split_ifs at changed with passed
      cases changed
      obtain ⟨-, current, twice⟩ := passed
      simp only [Observation.hostEventsFor, Observation.hostEventOf, SanityChecker.hostPhaseOf,
        Finset.mem_insert, Finset.mem_erase]
      by_cases left : routingPair oldHost = pair <;> by_cases arrived : routingPair newHost = pair
      · subst left
        simp [current, arrived, HostPhase.advance]
      · subst left
        simp [current, Ne.symm arrived, arrived, HostPhase.advance]
      · subst arrived
        have fresh : routingPair newHost ∉ checker.currentHosts := fun mem =>
          twice (Finset.mem_erase.mpr ⟨Ne.symm left, mem⟩)
        simp [fresh, left, HostPhase.advance]
      · simp [left, arrived, Ne.symm left, Ne.symm arrived]

end WebContentsObserverSanityChecker

end ChromiumContent
