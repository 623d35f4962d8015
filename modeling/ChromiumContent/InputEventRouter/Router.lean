import Mathlib

/-!
# The input event router

`RenderWidgetHostInputEventRouter` routes mouse, mouse-wheel and touch events from a root view to
the view that owns the surface under the event, as registered in `owner_map_`.  The model follows
a release build: `DCHECK`s are compiled out, and a call through a null `current_touch_target_`
crashes, which is `none`.  `active_touches_` is an `int` of `width` bits.  Hit testing,
`SurfaceIdNamespaceAtPoint`, belongs to the view and is a parameter.
-/

namespace ChromiumContent

/-- `gfx::Point`. -/
structure Point where
  /-- Horizontal coordinate. -/
  x : Int
  /-- Vertical coordinate. -/
  y : Int
  deriving DecidableEq, Repr

/-- `SurfaceIdNamespaceOwnerMap`, a `std::map` from surface-id namespaces to their views. -/
structure OwnerMap (View : Type) where
  /-- The entries of the map. -/
  entries : List (UInt32 × View)
  /-- A `std::map` holds each key once. -/
  keys_nodup : (entries.map Prod.fst).Nodup

namespace OwnerMap

variable {View : Type}

/-- The empty map. -/
def empty : OwnerMap View := ⟨[], List.nodup_nil⟩

/-- `owner_map_.size()`. -/
def size (map : OwnerMap View) : Nat := map.entries.length

/-- `owner_map_.find(id)`, the owner when the key is present. -/
def find (map : OwnerMap View) (id : UInt32) : Option View := map.entries.lookup id

/-- `owner_map_.insert(std::make_pair(id, owner))`: a present key keeps its owner. -/
def insert (map : OwnerMap View) (id : UInt32) (owner : View) : OwnerMap View :=
  if present : id ∈ map.entries.map Prod.fst then map
  else ⟨(id, owner) :: map.entries, List.nodup_cons.mpr ⟨present, map.keys_nodup⟩⟩

/-- `owner_map_.erase(id)`. -/
def erase (map : OwnerMap View) (id : UInt32) : OwnerMap View :=
  ⟨map.entries.filter (fun entry => entry.1 ≠ id),
    map.keys_nodup.sublist ((List.filter_sublist _).map _)⟩

/-- The views the map holds, one for each namespace. -/
def owners (map : OwnerMap View) : List View := map.entries.map Prod.snd

theorem lookup_mem {entries : List (UInt32 × View)} {id : UInt32} {view : View}
    (found : entries.lookup id = some view) : (id, view) ∈ entries := by
  induction entries with
  | nil => simp at found
  | cons entry entries ih =>
      obtain ⟨key, owner⟩ := entry
      by_cases same : id = key
      · subst same
        simp_all [List.lookup]
      · have skip : (id == key) = false := by simpa using same
        simp only [List.lookup, skip] at found
        exact List.mem_cons_of_mem _ (ih found)

theorem mem_owners_of_find {map : OwnerMap View} {id : UInt32} {view : View}
    (found : map.find id = some view) : view ∈ map.owners :=
  List.mem_map.mpr ⟨(id, view), lookup_mem found, rfl⟩

theorem mem_owners_insert {map : OwnerMap View} {view : View} (id : UInt32) (owner : View)
    (held : view ∈ map.owners) : view ∈ (map.insert id owner).owners := by
  unfold insert
  split
  · exact held
  · exact List.mem_cons_of_mem _ held

end OwnerMap

variable {View : Type}

/-- The touch event types `RouteTouchEvent` handles; other types reach `NOTREACHED()`. -/
inductive TouchType
  | touchStart
  | touchMove
  | touchEnd
  | touchCancel
  deriving DecidableEq, Repr

/-- A `blink::WebTouchEvent`, with the integer point built from `touches[0].position`. -/
structure TouchEvent where
  /-- `event->type`. -/
  type : TouchType
  /-- `gfx::Point(touches[0].position.x, touches[0].position.y)`. -/
  position : Point
  deriving DecidableEq, Repr

/-- The coordinates of a `blink::WebMouseEvent` or `blink::WebMouseWheelEvent`. -/
structure MouseEvent where
  /-- `event->x`. -/
  x : Int
  /-- `event->y`. -/
  y : Int
  deriving DecidableEq, Repr

/-- The view method an event is handed to. -/
inductive ViewCall
  | processMouseEvent (event : MouseEvent)
  | processMouseWheelEvent (event : MouseEvent)
  | processTouchEvent (event : TouchEvent)
  deriving DecidableEq, Repr

/-- One event handed to one view. -/
structure Delivery (View : Type) where
  /-- The view whose `Process*Event` runs. -/
  target : View
  /-- The event as delivered. -/
  call : ViewCall
  deriving DecidableEq, Repr

/-- The fields of `RenderWidgetHostInputEventRouter`, with an `int` of `width` bits. -/
structure InputEventRouter (width : Nat) (View : Type) where
  /-- `owner_map_`. -/
  ownerMap : OwnerMap View
  /-- `current_touch_target_`, `none` for `nullptr`. -/
  currentTouchTarget : Option View
  /-- `active_touches_`.  `++` past `INT_MAX` is undefined in C++; the model takes the
  two's-complement wrap of the compiled increment. -/
  activeTouches : BitVec width

/-- The calls a router receives. -/
inductive RouterCall (View : Type)
  | routeMouseEvent (rootView : View) (event : MouseEvent)
  | routeMouseWheelEvent (rootView : View) (event : MouseEvent)
  | routeTouchEvent (rootView : View) (event : TouchEvent)
  | addSurfaceIdNamespaceOwner (id : UInt32) (owner : View)
  | removeSurfaceIdNamespaceOwner (id : UInt32)

namespace InputEventRouter

variable {width : Nat}

/-- The constructor: no owners, no touch target, no active touches. -/
def initial : InputEventRouter width View := ⟨OwnerMap.empty, none, 0⟩

section Routing

/- `root_view->SurfaceIdNamespaceAtPoint(point, transformed_point)`: the namespace hit and the
point in that surface's coordinates. -/
variable (surfaceIdNamespaceAtPoint : View → Point → UInt32 × Point)

/-- `FindEventTarget`: the target view and the transformed point. -/
def findEventTarget (ownerMap : OwnerMap View) (rootView : View) (point : Point) :
    View × Point :=
  if ownerMap.size ≤ 1 then (rootView, point)
  else
    let (surfaceIdNamespace, transformed) := surfaceIdNamespaceAtPoint rootView point
    match ownerMap.find surfaceIdNamespace with
    | none => (rootView, transformed)
    | some owner => (owner, transformed)

/-- The body shared by `RouteMouseEvent` and `RouteMouseWheelEvent`. -/
def routePointerEvent (process : MouseEvent → ViewCall) (router : InputEventRouter width View)
    (rootView : View) (event : MouseEvent) : Delivery View :=
  let (target, transformed) := findEventTarget surfaceIdNamespaceAtPoint router.ownerMap rootView
    ⟨event.x, event.y⟩
  ⟨target, process ⟨transformed.x, transformed.y⟩⟩

/-- `RouteMouseEvent`. -/
def routeMouseEvent : InputEventRouter width View → View → MouseEvent → Delivery View :=
  routePointerEvent surfaceIdNamespaceAtPoint .processMouseEvent

/-- `RouteMouseWheelEvent`. -/
def routeMouseWheelEvent : InputEventRouter width View → View → MouseEvent → Delivery View :=
  routePointerEvent surfaceIdNamespaceAtPoint .processMouseWheelEvent

/-- `RouteTouchEvent`.  The first touch of a sequence fixes `current_touch_target_`; every
event is delivered to it, and the last end or cancel clears it. -/
def routeTouchEvent (router : InputEventRouter width View) (rootView : View) (event : TouchEvent) :
    Option (InputEventRouter width View × Delivery View) :=
  match event.type with
  | .touchStart =>
      let router :=
        if router.activeTouches = 0 then
          { router with
            currentTouchTarget := some (findEventTarget surfaceIdNamespaceAtPoint
              router.ownerMap rootView event.position).1 }
        else router
      router.currentTouchTarget.map fun target =>
        ({ router with activeTouches := router.activeTouches + 1 },
          ⟨target, .processTouchEvent event⟩)
  | .touchMove =>
      router.currentTouchTarget.map fun target => (router, ⟨target, .processTouchEvent event⟩)
  | .touchEnd | .touchCancel =>
      router.currentTouchTarget.map fun target =>
        ({ router with
            activeTouches := router.activeTouches - 1
            currentTouchTarget :=
              if router.activeTouches - 1 = 0 then none else router.currentTouchTarget },
          ⟨target, .processTouchEvent event⟩)

/-- `AddSurfaceIdNamespaceOwner`. -/
def addSurfaceIdNamespaceOwner (router : InputEventRouter width View) (id : UInt32) (owner : View) :
    InputEventRouter width View :=
  { router with ownerMap := router.ownerMap.insert id owner }

/-- `RemoveSurfaceIdNamespaceOwner`. -/
def removeSurfaceIdNamespaceOwner (router : InputEventRouter width View) (id : UInt32) :
    InputEventRouter width View :=
  { router with ownerMap := router.ownerMap.erase id }

@[simp]
theorem addSurfaceIdNamespaceOwner_activeTouches (router : InputEventRouter width View)
    (id : UInt32) (owner : View) : (router.addSurfaceIdNamespaceOwner id owner).activeTouches =
      router.activeTouches := rfl

@[simp]
theorem addSurfaceIdNamespaceOwner_currentTouchTarget (router : InputEventRouter width View)
    (id : UInt32) (owner : View) : (router.addSurfaceIdNamespaceOwner id owner).currentTouchTarget =
      router.currentTouchTarget := rfl

@[simp]
theorem removeSurfaceIdNamespaceOwner_activeTouches (router : InputEventRouter width View)
    (id : UInt32) : (router.removeSurfaceIdNamespaceOwner id).activeTouches =
      router.activeTouches := rfl

@[simp]
theorem removeSurfaceIdNamespaceOwner_currentTouchTarget (router : InputEventRouter width View)
    (id : UInt32) : (router.removeSurfaceIdNamespaceOwner id).currentTouchTarget =
      router.currentTouchTarget := rfl

/-- One call: the router afterwards and the event delivered, or `none` on a crash. -/
def step (router : InputEventRouter width View) :
    RouterCall View → Option (InputEventRouter width View × Option (Delivery View))
  | .routeMouseEvent rootView event =>
      some (router, some (routeMouseEvent surfaceIdNamespaceAtPoint router rootView event))
  | .routeMouseWheelEvent rootView event =>
      some (router, some (routeMouseWheelEvent surfaceIdNamespaceAtPoint router rootView event))
  | .routeTouchEvent rootView event =>
      (routeTouchEvent surfaceIdNamespaceAtPoint router rootView event).map
        fun (next, delivery) => (next, some delivery)
  | .addSurfaceIdNamespaceOwner id owner => some (router.addSurfaceIdNamespaceOwner id owner, none)
  | .removeSurfaceIdNamespaceOwner id => some (router.removeSurfaceIdNamespaceOwner id, none)

/-- A sequence of calls: the final router and every delivery in order. -/
def run : InputEventRouter width View → List (RouterCall View) →
    Option (InputEventRouter width View × List (Delivery View))
  | router, [] => some (router, [])
  | router, call :: calls =>
      (step surfaceIdNamespaceAtPoint router call).bind fun (next, delivered) =>
        (run next calls).map fun (final, deliveries) => (final, delivered.toList ++ deliveries)

@[simp]
theorem run_nil (router : InputEventRouter width View) :
    run surfaceIdNamespaceAtPoint router [] = some (router, []) := rfl

theorem run_cons_eq_some {router final : InputEventRouter width View} {call : RouterCall View}
    {calls : List (RouterCall View)} {deliveries : List (Delivery View)} :
    run surfaceIdNamespaceAtPoint router (call :: calls) = some (final, deliveries) ↔
      ∃ next delivered rest, step surfaceIdNamespaceAtPoint router call = some (next, delivered) ∧
        run surfaceIdNamespaceAtPoint next calls = some (final, rest) ∧
        deliveries = delivered.toList ++ rest := by
  simp only [run, Option.bind_eq_some, Option.map_eq_some', Prod.exists, Prod.mk.injEq]
  constructor
  · rintro ⟨next, delivered, stepped, _, rest, ran, rfl, rfl⟩
    exact ⟨next, delivered, rest, stepped, ran, rfl⟩
  · rintro ⟨next, delivered, rest, stepped, ran, rfl⟩
    exact ⟨next, delivered, stepped, final, rest, ran, rfl, rfl⟩

end Routing

end InputEventRouter

end ChromiumContent
