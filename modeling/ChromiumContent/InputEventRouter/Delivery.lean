import ChromiumContent.InputEventRouter.TouchSequence

/-!
# Where events are delivered

`FindEventTarget` answers the root view or a view that `owner_map_` holds, falling back to the
root when the namespace hit is no longer in the map.  Mouse and mouse-wheel events, and the first
touch of a sequence, are delivered to its answer.  The rest of a touch sequence goes to the cached
`current_touch_target_`, which `RemoveSurfaceIdNamespaceOwner` does not clear: after its owner is
removed, the sequence is still delivered to it.  Without a removal, and with every call made from
one root view, the cached target stays the root view or an owner, so every delivery is known.
-/

namespace ChromiumContent

/-- The root view a routing call is made with. -/
def RouterCall.rootView? {View : Type} : RouterCall View → Option View
  | .routeMouseEvent rootView _ | .routeMouseWheelEvent rootView _
  | .routeTouchEvent rootView _ => some rootView
  | .addSurfaceIdNamespaceOwner _ _ | .removeSurfaceIdNamespaceOwner _ => none

namespace InputEventRouter

variable {width : Nat} {View : Type} (surfaceIdNamespaceAtPoint : View → Point → UInt32 × Point)

/-- `FindEventTarget` answers the root view or an owner of the map. -/
theorem findEventTarget_known (ownerMap : OwnerMap View) (rootView : View) (point : Point) :
    (findEventTarget surfaceIdNamespaceAtPoint ownerMap rootView point).1 = rootView ∨
      (findEventTarget surfaceIdNamespaceAtPoint ownerMap rootView point).1 ∈ ownerMap.owners := by
  unfold findEventTarget
  split
  · exact .inl rfl
  · generalize surfaceIdNamespaceAtPoint rootView point = hit
    obtain ⟨surfaceIdNamespace, transformed⟩ := hit
    dsimp only
    cases found : ownerMap.find surfaceIdNamespace with
    | none => exact .inl rfl
    | some owner => exact .inr (OwnerMap.mem_owners_of_find found)

/-- Mouse and mouse-wheel events go to the root view of their call or to a registered view. -/
theorem routePointerEvent_known (process : MouseEvent → ViewCall)
    (router : InputEventRouter width View) (rootView : View) (event : MouseEvent) :
    (routePointerEvent surfaceIdNamespaceAtPoint process router rootView event).target = rootView ∨
      (routePointerEvent surfaceIdNamespaceAtPoint process router rootView event).target ∈
        router.ownerMap.owners :=
  findEventTarget_known surfaceIdNamespaceAtPoint router.ownerMap rootView ⟨event.x, event.y⟩

/-- Every delivery of a run goes to the root view of its own call or to a view that `owner_map_`
holds when it is delivered. -/
def deliversToKnownViews [DecidableEq View] :
    InputEventRouter width View → List (RouterCall View) → Bool
  | _, [] => true
  | router, call :: calls =>
      match step surfaceIdNamespaceAtPoint router call with
      | none => true
      | some (next, delivered) =>
          delivered.all (fun delivery =>
              call.rootView? == some delivery.target || delivery.target ∈ router.ownerMap.owners) &&
            deliversToKnownViews next calls

/-- The cached touch target, if any, is `rootView` or a view `owner_map_` holds. -/
def KnownTarget (rootView : View) (router : InputEventRouter width View) : Prop :=
  ∀ target ∈ router.currentTouchTarget, target = rootView ∨ target ∈ router.ownerMap.owners

/-- A routing call made with `rootView`, or an owner added: nothing leaves `owner_map_`. -/
def keepsOwners [DecidableEq View] (rootView : View) : RouterCall View → Bool
  | .routeMouseEvent root _ | .routeMouseWheelEvent root _ | .routeTouchEvent root _ =>
      root == rootView
  | .addSurfaceIdNamespaceOwner _ _ => true
  | .removeSurfaceIdNamespaceOwner _ => false

variable [DecidableEq View] {rootView : View}

/-- One call of a run that keeps its owners delivers to `rootView` or to an owner, and keeps the
cached target known. -/
theorem knownTarget_step {router next : InputEventRouter width View} {call : RouterCall View}
    {delivered : Option (Delivery View)} (known : KnownTarget rootView router)
    (keeps : keepsOwners rootView call)
    (stepped : step surfaceIdNamespaceAtPoint router call = some (next, delivered)) :
    KnownTarget rootView next ∧ ∀ delivery ∈ delivered,
      call.rootView? = some delivery.target ∨ delivery.target ∈ router.ownerMap.owners := by
  cases call with
  | routeMouseEvent root event | routeMouseWheelEvent root event =>
      cases stepped
      exact ⟨known, by simpa [RouterCall.rootView?, eq_comm] using
        routePointerEvent_known surfaceIdNamespaceAtPoint _ router root event⟩
  | routeTouchEvent root event =>
      obtain rfl : root = rootView := by simpa [keepsOwners] using keeps
      obtain ⟨⟨_, delivery⟩, routed, stepped⟩ := Option.map_eq_some'.mp stepped
      cases stepped
      obtain ⟨sameMap, -, -, targets⟩ := routeTouchEvent_eq_some surfaceIdNamespaceAtPoint routed
      have delivered : (delivery.target = root ∨ delivery.target ∈ router.ownerMap.owners) ∧
          ∀ target ∈ next.currentTouchTarget, target = delivery.target := by
        split at targets
        · rw [targets.2, targets.1]
          exact ⟨findEventTarget_known surfaceIdNamespaceAtPoint router.ownerMap root _,
            fun _ cached => (Option.some_injective _ cached).symm⟩
        · refine ⟨known _ targets.1, fun target cached => ?_⟩
          rw [targets.2] at cached
          split at cached
          · cases cached
          · exact Option.some_injective _ (cached.symm.trans targets.1)
      obtain ⟨toKnown, keepsDelivered⟩ := delivered
      refine ⟨fun target cached => ?_, by simpa [RouterCall.rootView?, eq_comm] using toKnown⟩
      rw [sameMap, keepsDelivered target cached]
      exact toKnown
  | addSurfaceIdNamespaceOwner id owner =>
      cases stepped
      refine ⟨fun target cached => ?_, by simp⟩
      exact (known target cached).imp_right (OwnerMap.mem_owners_insert id owner)
  | removeSurfaceIdNamespaceOwner id => cases keeps

/-- A run that keeps its owners, from a router whose cached target is known, delivers every event
to the root view of its call or to a view `owner_map_` holds when it is delivered. -/
theorem deliversToKnownViews_of_keepsOwners {router : InputEventRouter width View}
    {calls : List (RouterCall View)} (known : KnownTarget rootView router)
    (keeps : ∀ call ∈ calls, keepsOwners rootView call) :
    deliversToKnownViews surfaceIdNamespaceAtPoint router calls = true := by
  induction calls generalizing router with
  | nil => rfl
  | cons call calls ih =>
      unfold deliversToKnownViews
      split
      · rfl
      · rename_i next delivered stepped
        obtain ⟨knownNext, toKnown⟩ := knownTarget_step surfaceIdNamespaceAtPoint known
          (keeps call (List.mem_cons_self _ _)) stepped
        have later := ih knownNext fun other mem => keeps other (List.mem_cons_of_mem _ mem)
        cases delivered with
        | none => exact later
        | some delivery => simpa [Option.all, later] using toKnown delivery rfl

/-- With one root view and no owner removed, every event any run delivers goes to the root view
or to a view `owner_map_` holds at the moment of delivery. -/
theorem deliversToKnownViews_without_removal (rootView : View) (calls : List (RouterCall View))
    (keeps : ∀ call ∈ calls, keepsOwners rootView call) :
    deliversToKnownViews surfaceIdNamespaceAtPoint (initial : InputEventRouter width View) calls =
      true :=
  deliversToKnownViews_of_keepsOwners surfaceIdNamespaceAtPoint (fun _ none => by cases none) keeps

/-- Two owners registered, a touch sequence on the second with a mouse event in between, all
from root view `0`: every delivery is known. -/
theorem deliversToKnownViews_without_removal_touch :
    let calls : List (RouterCall Nat) :=
      [.addSurfaceIdNamespaceOwner 1 10, .addSurfaceIdNamespaceOwner 2 20,
        .routeTouchEvent 0 ⟨.touchStart, ⟨5, 5⟩⟩, .routeMouseEvent 0 ⟨1, 1⟩,
        .routeTouchEvent 0 ⟨.touchMove, ⟨6, 6⟩⟩, .routeTouchEvent 0 ⟨.touchEnd, ⟨6, 6⟩⟩]
    (∀ call ∈ calls, keepsOwners 0 call) ∧
      deliversToKnownViews (fun _ point => (2, point)) (initial : InputEventRouter 32 Nat) calls =
        true :=
  ⟨by decide, deliversToKnownViews_without_removal _ 0
    [.addSurfaceIdNamespaceOwner 1 10, .addSurfaceIdNamespaceOwner 2 20,
      .routeTouchEvent 0 ⟨.touchStart, ⟨5, 5⟩⟩, .routeMouseEvent 0 ⟨1, 1⟩,
      .routeTouchEvent 0 ⟨.touchMove, ⟨6, 6⟩⟩, .routeTouchEvent 0 ⟨.touchEnd, ⟨6, 6⟩⟩]
    (by decide)⟩

/-- Two views registered, a touch starts on the second, the second's namespace is removed, and the
touch moves: the move is still delivered to the removed view, which is neither the root view nor
an owner of the map any more. -/
theorem touchMove_after_owner_removed :
    (run (fun _ point => (2, point)) (initial : InputEventRouter 32 Nat)
        [.addSurfaceIdNamespaceOwner 1 10, .addSurfaceIdNamespaceOwner 2 20,
          .routeTouchEvent 0 ⟨.touchStart, ⟨5, 5⟩⟩, .removeSurfaceIdNamespaceOwner 2,
          .routeTouchEvent 0 ⟨.touchMove, ⟨6, 6⟩⟩]).map
        (fun (final, deliveries) => (final.ownerMap.owners, deliveries)) =
      some ([10],
        [⟨20, .processTouchEvent ⟨.touchStart, ⟨5, 5⟩⟩⟩,
          ⟨(20 : Nat), .processTouchEvent ⟨.touchMove, ⟨6, 6⟩⟩⟩]) ∧
    deliversToKnownViews (fun _ point => (2, point)) (initial : InputEventRouter 32 Nat)
        [.addSurfaceIdNamespaceOwner 1 10, .addSurfaceIdNamespaceOwner 2 20,
          .routeTouchEvent 0 ⟨.touchStart, ⟨5, 5⟩⟩, .removeSurfaceIdNamespaceOwner 2,
          .routeTouchEvent (0 : Nat) ⟨.touchMove, ⟨6, 6⟩⟩] = false := by
  constructor <;> decide

end InputEventRouter

end ChromiumContent
