import ChromiumContent.InputEventRouter.Router

/-!
# Touch sequences

`active_touches_` is an `int` of `width` bits.  While no `TouchStart` opens a `2 ^ (width - 1)`-th
touch it holds the exact number of open touches, a target is cached exactly while one is open, and
every event of a sequence goes to the view its first `TouchStart` found.  `2 ^ 31` starts wrap a
32-bit counter below zero with a target still cached.
-/

namespace ChromiumContent

/-- `TouchEnd` and `TouchCancel`, the types that may clear the target. -/
def TouchType.ends : TouchType → Bool
  | .touchEnd | .touchCancel => true
  | .touchStart | .touchMove => false

/-- A touch event handed to `ProcessTouchEvent`. -/
def ViewCall.isTouch : ViewCall → Bool
  | .processTouchEvent _ => true
  | _ => false

namespace RouterCall

variable {View : Type}

/-- The touch type of a `RouteTouchEvent` call. -/
def touchType? : RouterCall View → Option TouchType
  | .routeTouchEvent _ event => some event.type
  | _ => none

/-- A `TouchStart`. -/
def isTouchStart (call : RouterCall View) : Bool := call.touchType? == some .touchStart

/-- A `TouchEnd` or a `TouchCancel`. -/
def isTouchEnd (call : RouterCall View) : Bool := call.touchType?.any TouchType.ends

/-- A `TouchMove`, `TouchEnd` or `TouchCancel`: an event that needs an active touch. -/
def needsActiveTouch (call : RouterCall View) : Bool :=
  call.touchType?.any (· ≠ .touchStart)

end RouterCall

namespace InputEventRouter

variable {width : Nat} {View : Type}

/-- Number of `TouchStart` calls. -/
def touchStarts (calls : List (RouterCall View)) : Nat := calls.countP RouterCall.isTouchStart

/-- Number of `TouchEnd` and `TouchCancel` calls. -/
def touchEnds (calls : List (RouterCall View)) : Nat := calls.countP RouterCall.isTouchEnd

@[simp]
theorem touchStarts_nil : touchStarts ([] : List (RouterCall View)) = 0 := rfl

@[simp]
theorem touchEnds_nil : touchEnds ([] : List (RouterCall View)) = 0 := rfl

theorem touchStarts_cons (call : RouterCall View) (calls : List (RouterCall View)) :
    touchStarts (call :: calls) = touchStarts [call] + touchStarts calls := by
  simp only [touchStarts, List.countP_cons, List.countP_nil]
  omega

theorem touchEnds_cons (call : RouterCall View) (calls : List (RouterCall View)) :
    touchEnds (call :: calls) = touchEnds [call] + touchEnds calls := by
  simp only [touchEnds, List.countP_cons, List.countP_nil]
  omega

/-- Moves, ends and cancels arrive only while a touch is active: the `DCHECK`s of
`RouteTouchEvent`. -/
def TouchWellFormed (calls : List (RouterCall View)) : Prop :=
  ∀ k (bound : k < calls.length), calls[k].needsActiveTouch →
    touchEnds (calls.take k) < touchStarts (calls.take k)

instance (calls : List (RouterCall View)) : Decidable (TouchWellFormed calls) :=
  inferInstanceAs (Decidable (∀ k (bound : k < calls.length), calls[k].needsActiveTouch →
    touchEnds (calls.take k) < touchStarts (calls.take k)))

/-- No `TouchStart` opens more than `2 ^ (width - 1) - 1` touches, `INT_MAX` for an `int` of
`width` bits: `++active_touches_` never passes it. -/
def TouchBounded (width : Nat) (calls : List (RouterCall View)) : Prop :=
  ∀ k (bound : k < calls.length), calls[k].isTouchStart →
    touchStarts (calls.take k) + 1 < touchEnds (calls.take k) + 2 ^ (width - 1)

instance (calls : List (RouterCall View)) : Decidable (TouchBounded width calls) :=
  inferInstanceAs (Decidable (∀ k (bound : k < calls.length), calls[k].isTouchStart →
    touchStarts (calls.take k) + 1 < touchEnds (calls.take k) + 2 ^ (width - 1)))

/-- From `count` open touches, every start of `calls` leaves fewer than `2 ^ (width - 1)` open. -/
def StartsFit (width count : Nat) (calls : List (RouterCall View)) : Prop :=
  ∀ k (bound : k < calls.length), calls[k].isTouchStart →
    count + touchStarts (calls.take k) + 1 < touchEnds (calls.take k) + 2 ^ (width - 1)

theorem TouchBounded.startsFit {calls : List (RouterCall View)}
    (bounded : TouchBounded width calls) : StartsFit width 0 calls :=
  fun k bound start => by simpa using bounded k bound start

theorem StartsFit.head {count : Nat} {call : RouterCall View} {calls : List (RouterCall View)}
    (fits : StartsFit width count (call :: calls)) (start : call.isTouchStart) :
    count + 1 < 2 ^ (width - 1) := by
  simpa using fits 0 (by simp) start

theorem StartsFit.tail {count after : Nat} {call : RouterCall View} {calls : List (RouterCall View)}
    (fits : StartsFit width count (call :: calls))
    (moved : after + touchEnds [call] = count + touchStarts [call]) :
    StartsFit width after calls := fun k bound start => by
  have before := fits (k + 1) (by simpa using bound) start
  rw [List.take_succ_cons, touchStarts_cons, touchEnds_cons] at before
  omega

/-! ## The counter

`active_touches_` holds `BitVec.ofNat width n` for the exact number `n` of open touches.  Its zero
test is exact while `n < 2 ^ width`, and `toInt` reads `n` back while `n < 2 ^ (width - 1)`. -/

theorem ofNat_eq_zero_iff {n : Nat} (fits : n < 2 ^ width) : BitVec.ofNat width n = 0 ↔ n = 0 := by
  rw [BitVec.toNat_eq, BitVec.toNat_ofNat, Nat.mod_eq_of_lt fits]
  simp

theorem two_mul_lt_of_lt_half {n : Nat} (fits : n < 2 ^ (width - 1)) : 2 * n < 2 ^ width := by
  cases width with
  | zero => simp at fits; omega
  | succ width => rw [Nat.pow_succ]; simp at fits; omega

theorem toInt_ofNat_of_lt_half {n : Nat} (fits : n < 2 ^ (width - 1)) :
    (BitVec.ofNat width n).toInt = n := by
  have double := two_mul_lt_of_lt_half fits
  rw [BitVec.toInt_eq_toNat_cond, BitVec.toNat_ofNat, Nat.mod_eq_of_lt (by omega), if_pos double]

theorem ofNat_pred {n : Nat} (pos : 0 < n) :
    BitVec.ofNat width n - 1 = BitVec.ofNat width (n - 1) := by
  conv_lhs => rw [show n = n - 1 + 1 by omega, BitVec.ofNat_add]
  exact BitVec.add_sub_cancel _ _

/-- `active_touches_` holds the exact number `count` of open touches, below `2 ^ (width - 1)`, and
a target is cached exactly while a touch is open. -/
structure TouchCount (count : Nat) (router : InputEventRouter width View) : Prop where
  activeTouches_eq : router.activeTouches = BitVec.ofNat width count
  fits : count < 2 ^ (width - 1)
  target_isSome : router.currentTouchTarget.isSome ↔ 0 < count

theorem touchCount_initial : TouchCount 0 (initial : InputEventRouter width View) :=
  ⟨rfl, Nat.two_pow_pos _, by simp [initial]⟩

namespace TouchCount

variable {count : Nat} {router : InputEventRouter width View}

theorem activeTouches_eq_zero (counted : TouchCount count router) :
    router.activeTouches = 0 ↔ count = 0 := by
  have double := two_mul_lt_of_lt_half counted.fits
  rw [counted.activeTouches_eq]
  exact ofNat_eq_zero_iff (by omega)

theorem toInt_eq (counted : TouchCount count router) : router.activeTouches.toInt = count := by
  rw [counted.activeTouches_eq, toInt_ofNat_of_lt_half counted.fits]

end TouchCount

section Routing

variable (surfaceIdNamespaceAtPoint : View → Point → UInt32 × Point)

/-- Everything one successful `RouteTouchEvent` does.  The first touch of a sequence delivers to
the view `FindEventTarget` finds and caches it; any other event delivers to the cached view, and
an end or cancel that closes the last touch clears it. -/
theorem routeTouchEvent_eq_some {router next : InputEventRouter width View} {rootView : View}
    {event : TouchEvent} {delivery : Delivery View}
    (routed : routeTouchEvent surfaceIdNamespaceAtPoint router rootView event =
      some (next, delivery)) :
    next.ownerMap = router.ownerMap ∧ delivery.call = .processTouchEvent event ∧
      next.activeTouches = (if event.type = .touchStart then router.activeTouches + 1
        else if event.type.ends then router.activeTouches - 1 else router.activeTouches) ∧
      if event.type = .touchStart ∧ router.activeTouches = 0 then
        delivery.target =
            (findEventTarget surfaceIdNamespaceAtPoint router.ownerMap rootView event.position).1 ∧
          next.currentTouchTarget = some delivery.target
      else
        router.currentTouchTarget = some delivery.target ∧
          next.currentTouchTarget =
            if event.type.ends ∧ router.activeTouches - 1 = 0 then none
            else router.currentTouchTarget := by
  unfold routeTouchEvent at routed
  split at routed
  case h_1 start =>
    split at routed
    case isTrue idle =>
      obtain ⟨target, found, routed⟩ := Option.map_eq_some'.mp routed
      cases found
      cases routed
      simp [start, idle]
    case isFalse busy =>
      obtain ⟨target, cached, routed⟩ := Option.map_eq_some'.mp routed
      cases routed
      simp [start, busy, cached, TouchType.ends, -BitVec.ofNat_eq_ofNat]
  all_goals
    obtain ⟨target, cached, routed⟩ := Option.map_eq_some'.mp routed
    cases routed
    simp_all [TouchType.ends]

/-- A `TouchStart` that finds no touch active caches the view `FindEventTarget` finds, delivers
to it and opens one touch, whatever target was cached before. -/
theorem step_touchStart_idle {router : InputEventRouter width View} {rootView : View}
    {event : TouchEvent} (start : event.type = .touchStart) (idle : router.activeTouches = 0) :
    step surfaceIdNamespaceAtPoint router (.routeTouchEvent rootView event) =
      let target :=
        (findEventTarget surfaceIdNamespaceAtPoint router.ownerMap rootView event.position).1
      some ({ router with currentTouchTarget := some target, activeTouches := 1 },
        some ⟨target, .processTouchEvent event⟩) := by
  simp [step, routeTouchEvent, start, idle]

@[simp]
theorem touchStarts_routeTouchEvent (rootView : View) (event : TouchEvent) :
    touchStarts [RouterCall.routeTouchEvent rootView event] =
      if event.type = .touchStart then 1 else 0 := by
  obtain ⟨type, position⟩ := event
  cases type <;> rfl

@[simp]
theorem touchEnds_routeTouchEvent (rootView : View) (event : TouchEvent) :
    touchEnds [RouterCall.routeTouchEvent rootView event] = if event.type.ends then 1 else 0 := by
  obtain ⟨type, position⟩ := event
  cases type <;> rfl

/-- One call from `count` open touches, when a move, end or cancel finds a touch open and a
start leaves fewer than `2 ^ (width - 1)`: it does not crash, and leaves the count its type
says. -/
theorem touchCount_step {router : InputEventRouter width View} {count : Nat}
    {call : RouterCall View} (counted : TouchCount count router)
    (needs : call.needsActiveTouch → 0 < count)
    (fits : call.isTouchStart → count + 1 < 2 ^ (width - 1)) :
    ∃ next delivered, step surfaceIdNamespaceAtPoint router call = some (next, delivered) ∧
      ∃ after, TouchCount after next ∧ after + touchEnds [call] = count + touchStarts [call] := by
  have zero := counted.activeTouches_eq_zero
  cases call with
  | routeTouchEvent rootView event =>
      have needs : event.type ≠ .touchStart → 0 < count := fun other =>
        needs (by simp [RouterCall.needsActiveTouch, RouterCall.touchType?, other])
      have fits : event.type = .touchStart → count + 1 < 2 ^ (width - 1) := fun start =>
        fits (by simp [RouterCall.isTouchStart, RouterCall.touchType?, start])
      by_cases idle : count = 0
      · subst idle
        cases start : event.type with
        | touchStart =>
            rw [step_touchStart_idle surfaceIdNamespaceAtPoint start (zero.mpr rfl)]
            exact ⟨_, _, rfl, 1, ⟨rfl, by simpa using fits start, by simp⟩,
              by simp [start, TouchType.ends]⟩
        | _ => exact absurd (needs (by simp [start])) (lt_irrefl 0)
      obtain ⟨target, cachedEq⟩ :=
        Option.isSome_iff_exists.mp (counted.target_isSome.mpr (by omega))
      have busy : router.activeTouches ≠ 0 := mt zero.mp idle
      cases start : event.type with
      | touchStart =>
          have stepped : step surfaceIdNamespaceAtPoint router (.routeTouchEvent rootView event) =
              some ({ router with activeTouches := router.activeTouches + 1 },
                some ⟨target, .processTouchEvent event⟩) := by
            simp [step, routeTouchEvent, start, busy, cachedEq, -BitVec.ofNat_eq_ofNat]
          refine ⟨_, _, stepped, count + 1,
            ⟨?_, fits start, by simp [cachedEq]⟩, by simp [start, TouchType.ends]⟩
          rw [← BitVec.ofNat_add_ofNat, ← counted.activeTouches_eq]
          rfl
      | touchMove =>
          have stepped : step surfaceIdNamespaceAtPoint router (.routeTouchEvent rootView event) =
              some (router, some ⟨target, .processTouchEvent event⟩) := by
            simp [step, routeTouchEvent, start, cachedEq]
          exact ⟨_, _, stepped, count, counted, by simp [start, TouchType.ends]⟩
      | _ =>
          have stepped : step surfaceIdNamespaceAtPoint router (.routeTouchEvent rootView event) =
              some ({ router with
                  activeTouches := router.activeTouches - 1
                  currentTouchTarget :=
                    if router.activeTouches - 1 = 0 then none else some target },
                some ⟨target, .processTouchEvent event⟩) := by
            simp [step, routeTouchEvent, start, cachedEq]
          have lower : router.activeTouches - 1 = BitVec.ofNat width (count - 1) := by
            rw [counted.activeTouches_eq, ofNat_pred (by omega)]
          have bounded := counted.fits
          refine ⟨_, _, stepped, count - 1, ⟨lower, by omega, ?_⟩,
            by simp [start, TouchType.ends]; omega⟩
          show (if router.activeTouches - 1 = 0 then none else some target).isSome ↔ _
          rw [lower]
          simp only [ofNat_eq_zero_iff (show count - 1 < 2 ^ width by
            have := two_mul_lt_of_lt_half bounded; omega)]
          by_cases last : count - 1 = 0 <;> simp [last]
          omega
  | _ =>
      exact ⟨_, _, rfl, count,
        ⟨counted.activeTouches_eq, counted.fits, by simpa using counted.target_isSome⟩, rfl⟩

/-- While a touch is active, every touch event goes to the cached target, and the target stays
cached as long as a touch remains active. -/
theorem step_keeps_target {router next : InputEventRouter width View} {call : RouterCall View}
    {delivered : Option (Delivery View)} (active : router.activeTouches ≠ 0)
    (stepped : step surfaceIdNamespaceAtPoint router call = some (next, delivered)) :
    (∀ delivery ∈ delivered, delivery.call.isTouch →
        router.currentTouchTarget = some delivery.target) ∧
      (next.activeTouches ≠ 0 → next.currentTouchTarget = router.currentTouchTarget) := by
  cases call with
  | routeTouchEvent rootView event =>
      obtain ⟨⟨_, delivery⟩, routed, stepped⟩ := Option.map_eq_some'.mp stepped
      cases stepped
      obtain ⟨-, -, count, targets⟩ := routeTouchEvent_eq_some surfaceIdNamespaceAtPoint routed
      rw [if_neg (by tauto)] at targets
      refine ⟨by simpa using fun _ => targets.1, fun stillActive => ?_⟩
      rw [targets.2, if_neg]
      rintro ⟨ends, last⟩
      have notStart : event.type ≠ .touchStart := fun start => by rw [start] at ends; cases ends
      rw [if_neg notStart, if_pos ends, last] at count
      exact stillActive count
  | _ =>
      cases stepped
      simp [routeMouseEvent, routeMouseWheelEvent, routePointerEvent, ViewCall.isTouch]

/-- A run from `count` open touches, in which every move, end or cancel finds a touch open and no
start opens a `2 ^ (width - 1)`-th, does not crash and leaves the count its calls say. -/
theorem touchCount_run {router : InputEventRouter width View} {count : Nat}
    {calls : List (RouterCall View)} (counted : TouchCount count router)
    (openAt : ∀ k (bound : k < calls.length), calls[k].needsActiveTouch →
      touchEnds (calls.take k) < count + touchStarts (calls.take k))
    (fits : StartsFit width count calls) :
    ∃ final deliveries, run surfaceIdNamespaceAtPoint router calls = some (final, deliveries) ∧
      ∃ after, TouchCount after final ∧ after + touchEnds calls = count + touchStarts calls := by
  induction calls generalizing router count with
  | nil => exact ⟨router, [], rfl, count, counted, rfl⟩
  | cons call calls ih =>
      obtain ⟨next, delivered, stepped, after, countedNext, moved⟩ :=
        touchCount_step surfaceIdNamespaceAtPoint counted
          (fun needs => by simpa using openAt 0 (by simp) needs) fits.head
      obtain ⟨final, deliveries, ran, last, countedFinal, movedLater⟩ :=
        ih countedNext (fun k bound needs => by
          have before := openAt (k + 1) (by simpa using bound) needs
          rw [List.take_succ_cons, touchStarts_cons, touchEnds_cons] at before
          omega) (fits.tail moved)
      refine ⟨final, delivered.toList ++ deliveries,
        (run_cons_eq_some surfaceIdNamespaceAtPoint).mpr
          ⟨next, delivered, deliveries, stepped, ran, rfl⟩, last, countedFinal, ?_⟩
      rw [touchStarts_cons, touchEnds_cons]
      omega

/-- A run that keeps a touch open before each of its calls delivers every touch event to the
target cached when it began. -/
theorem run_keeps_target {router : InputEventRouter width View} {count : Nat}
    {calls : List (RouterCall View)} {target : View} (counted : TouchCount count router)
    (cached : 0 < count → router.currentTouchTarget = some target)
    (openAt : ∀ k < calls.length, touchEnds (calls.take k) < count + touchStarts (calls.take k))
    (fits : StartsFit width count calls) :
    ∃ final deliveries, run surfaceIdNamespaceAtPoint router calls = some (final, deliveries) ∧
      ∀ delivery ∈ deliveries, delivery.call.isTouch → delivery.target = target := by
  induction calls generalizing router count with
  | nil => exact ⟨router, [], rfl, by simp⟩
  | cons call calls ih =>
      have active : 0 < count := by simpa using openAt 0 (by simp)
      obtain ⟨next, delivered, stepped, after, countedNext, moved⟩ :=
        touchCount_step surfaceIdNamespaceAtPoint counted (fun _ => active) fits.head
      obtain ⟨toTarget, keeps⟩ := step_keeps_target surfaceIdNamespaceAtPoint
        (mt counted.activeTouches_eq_zero.mp (by omega)) stepped
      obtain ⟨final, deliveries, ran, toTargetLater⟩ :=
        ih countedNext
          (fun stillOpen => (keeps (mt countedNext.activeTouches_eq_zero.mp (by omega))).trans
            (cached active))
          (fun k bound => by
            have before := openAt (k + 1) (by simpa using bound)
            rw [List.take_succ_cons, touchStarts_cons, touchEnds_cons] at before
            omega) (fits.tail moved)
      refine ⟨final, delivered.toList ++ deliveries,
        (run_cons_eq_some surfaceIdNamespaceAtPoint).mpr
          ⟨next, delivered, deliveries, stepped, ran, rfl⟩, ?_⟩
      simp only [List.mem_append, Option.mem_toList]
      rintro delivery (now | later) touch
      · exact Option.some_injective _ ((toTarget delivery now touch).symm.trans (cached active))
      · exact toTargetLater delivery later touch

/-- `n` `TouchStart`s at one point, from a router caching the view found there, deliver to it and
add `n` to `active_touches_`, wrapping or not. -/
theorem run_touchStarts {rootView : View} {position : Point} (n : Nat) :
    ∀ router : InputEventRouter width View,
      router.currentTouchTarget =
        some (findEventTarget surfaceIdNamespaceAtPoint router.ownerMap rootView position).1 →
      ∃ final deliveries,
        run surfaceIdNamespaceAtPoint router
            (List.replicate n (.routeTouchEvent rootView ⟨.touchStart, position⟩)) =
          some (final, deliveries) ∧
        final.activeTouches = router.activeTouches + BitVec.ofNat width n ∧
        final.currentTouchTarget = router.currentTouchTarget ∧
        final.ownerMap = router.ownerMap := by
  induction n with
  | zero => exact fun router _ => ⟨router, [], rfl, by simp, rfl, rfl⟩
  | succ n ih =>
      intro router cached
      have stepped : step surfaceIdNamespaceAtPoint router
          (.routeTouchEvent rootView ⟨.touchStart, position⟩) =
          some ({ router with activeTouches := router.activeTouches + 1 },
            some ⟨(findEventTarget surfaceIdNamespaceAtPoint router.ownerMap rootView position).1,
              .processTouchEvent ⟨.touchStart, position⟩⟩) := by
        by_cases idle : router.activeTouches = 0
        · simp [step, routeTouchEvent, idle, cached]
        · simp [step, routeTouchEvent, idle, cached, -BitVec.ofNat_eq_ofNat]
      obtain ⟨final, deliveries, ran, counted, kept, sameMap⟩ :=
        ih { router with activeTouches := router.activeTouches + 1 } cached
      refine ⟨final, _, (run_cons_eq_some surfaceIdNamespaceAtPoint).mpr
        ⟨_, _, deliveries, stepped, ran, rfl⟩, ?_, kept, sameMap⟩
      rw [counted, BitVec.ofNat_add, BitVec.add_assoc, BitVec.add_comm 1]
      rfl

/-- A trace of `TouchStart`s alone is well formed: it has no move, end or cancel. -/
theorem touchStarts_replicate (rootView : View) (event : TouchEvent)
    (start : event.type = .touchStart) (n : Nat) :
    TouchWellFormed (List.replicate n (.routeTouchEvent rootView event)) ∧
      touchStarts (List.replicate n (.routeTouchEvent rootView event)) = n ∧
      touchEnds (List.replicate n (.routeTouchEvent rootView event)) = 0 := by
  refine ⟨fun k bound needs => ?_, ?_, ?_⟩
  · simp [RouterCall.needsActiveTouch, RouterCall.touchType?, start] at needs
  · simp [touchStarts, List.countP_replicate, RouterCall.isTouchStart, RouterCall.touchType?, start]
  · simp [touchEnds, List.countP_replicate, RouterCall.isTouchEnd, RouterCall.touchType?, start,
      TouchType.ends]

end Routing

end InputEventRouter

end ChromiumContent
