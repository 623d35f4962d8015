import Mathlib

/-!
# Asynchronous layout and readback requests

`layoutAndPaintAsync` stores Blink's callback in `layout_and_paint_async_callback_`, and
`compositeAndReadbackAsync` stores a copy request wrapping its callback in
`temporary_copy_output_request_`; both `DCHECK` first that neither is pending.
`InvokeLayoutAndPaintCallback` answers the callback and clears the pointer afterwards, and
`UpdateLayerTreeHost` hands the copy request to the root layer, or sends it an empty result and
clears it afterwards.  A client may request again from inside the result it receives.  The model
follows a release build and records every request whose `DCHECK` fails.
-/

namespace ChromiumContent

/-- A request Blink makes, naming its callback. -/
inductive AsyncRequest
  | layoutAndPaintAsync (callback : Nat)
  | compositeAndReadbackAsync (callback : Nat)
  deriving DecidableEq, Repr

/-- The calls the compositor receives about these requests.  A call that may deliver a result
carries the requests the answered client makes from inside it. -/
inductive AsyncCall
  /-- A request from Blink. -/
  | request (request : AsyncRequest)
  /-- The posted `LayoutAndUpdateLayers` task runs. -/
  | layoutAndUpdateLayers (reaction : List AsyncRequest)
  /-- `WillCommit`. -/
  | willCommit (reaction : List AsyncRequest)
  /-- `UpdateLayerTreeHost`, with whether `layer_tree_host_->root_layer()` is non-null. -/
  | updateLayerTreeHost (hasRootLayer : Bool) (reaction : List AsyncRequest)
  /-- `DidCommit`. -/
  | didCommit
  /-- The root layer delivers the result of a copy request it was given. -/
  | copyOutputResult (callback : Nat) (reaction : List AsyncRequest)
  deriving DecidableEq, Repr

/-- What the compositor does, in order: the requests it receives, the results it delivers, and
what it schedules or hands on. -/
inductive AsyncEffect
  /-- A request arrives while one is pending: the `DCHECK` that opens `layoutAndPaintAsync` and
  `compositeAndReadbackAsync` fails, and a release build goes on. -/
  | requestWhilePending
  | received (request : AsyncRequest)
  | didLayoutAndPaint (callback : Nat)
  | didCompositeAndReadback (callback : Nat)
  | postLayoutAndUpdateLayers
  | postSynchronouslyComposite
  | setNeedsCommit
  /-- `root_layer->RequestCopyOfOutput(temporary_copy_output_request_.Pass())`. -/
  | requestCopyOfOutput (callback : Nat)
  /-- `temporary_copy_output_request_->SendEmptyResult()`. -/
  | sendEmptyResult (callback : Nat)
  /-- `temporary_copy_output_request_` deletes the copy request it holds. -/
  | destroyCopyOutputRequest (callback : Nat)
  deriving DecidableEq, Repr

/-- The compositor's request fields. -/
structure AsyncRequests where
  /-- `layout_and_paint_async_callback_`. -/
  layoutAndPaintAsyncCallback : Option Nat
  /-- `temporary_copy_output_request_`, by the callback it wraps. -/
  temporaryCopyOutputRequest : Option Nat
  deriving DecidableEq, Repr

namespace RenderWidgetCompositor

/- `CompositeIsSynchronous()`, fixed for a compositor. -/
variable (compositeIsSynchronous : Bool)

/-- The constructor leaves both fields null. -/
def asyncRequestsInitial : AsyncRequests := ⟨none, none⟩

/-- `!temporary_copy_output_request_ && !layout_and_paint_async_callback_`, the `DCHECK` that
opens both requests. -/
def noRequestPending (state : AsyncRequests) : Bool :=
  state.temporaryCopyOutputRequest.isNone && state.layoutAndPaintAsyncCallback.isNone

/-- `layoutAndPaintAsync` and `compositeAndReadbackAsync`. -/
def receive (state : AsyncRequests) (request : AsyncRequest) : AsyncRequests × List AsyncEffect :=
  let checked : List AsyncEffect := if noRequestPending state then [] else [.requestWhilePending]
  match request with
  | .layoutAndPaintAsync callback =>
      ({ state with layoutAndPaintAsyncCallback := some callback },
        checked ++ [.received request,
          if compositeIsSynchronous then .postLayoutAndUpdateLayers else .setNeedsCommit])
  | .compositeAndReadbackAsync callback =>
      ({ state with temporaryCopyOutputRequest := some callback },
        checked ++ .received request ::
          (state.temporaryCopyOutputRequest.map .destroyCopyOutputRequest).toList ++
          [if compositeIsSynchronous then .postSynchronouslyComposite else .setNeedsCommit])

/-- The requests a client makes, in order, from inside the result it receives. -/
def receiveAll (state : AsyncRequests) : List AsyncRequest → AsyncRequests × List AsyncEffect
  | [] => (state, [])
  | request :: requests =>
      let (state, effects) := receive compositeIsSynchronous state request
      let (state, later) := receiveAll state requests
      (state, effects ++ later)

/-- `InvokeLayoutAndPaintCallback`: call `didLayoutAndPaint`, then clear the pointer. -/
def invokeLayoutAndPaintCallback (state : AsyncRequests) (reaction : List AsyncRequest) :
    AsyncRequests × List AsyncEffect :=
  match state.layoutAndPaintAsyncCallback with
  | none => (state, [])
  | some callback =>
      let (state, effects) := receiveAll compositeIsSynchronous state reaction
      ({ state with layoutAndPaintAsyncCallback := none }, .didLayoutAndPaint callback :: effects)

/-- `UpdateLayerTreeHost`: hand the copy request to the root layer, or send it an empty result and
then reset the pointer, deleting what it holds. -/
def updateLayerTreeHost (state : AsyncRequests) (hasRootLayer : Bool)
    (reaction : List AsyncRequest) : AsyncRequests × List AsyncEffect :=
  match state.temporaryCopyOutputRequest with
  | none => (state, [])
  | some callback =>
      if hasRootLayer then
        ({ state with temporaryCopyOutputRequest := none }, [.requestCopyOfOutput callback])
      else
        let (state, effects) := receiveAll compositeIsSynchronous state reaction
        ({ state with temporaryCopyOutputRequest := none },
          .sendEmptyResult callback :: .didCompositeAndReadback callback :: effects ++
            (state.temporaryCopyOutputRequest.map .destroyCopyOutputRequest).toList)

/-- One call. -/
def asyncStep (state : AsyncRequests) : AsyncCall → AsyncRequests × List AsyncEffect
  | .request request => receive compositeIsSynchronous state request
  | .layoutAndUpdateLayers reaction | .willCommit reaction =>
      invokeLayoutAndPaintCallback compositeIsSynchronous state reaction
  | .updateLayerTreeHost hasRootLayer reaction =>
      updateLayerTreeHost compositeIsSynchronous state hasRootLayer reaction
  | .didCommit => (state, [])
  | .copyOutputResult callback reaction =>
      let (state, effects) := receiveAll compositeIsSynchronous state reaction
      (state, .didCompositeAndReadback callback :: effects)

/-- A sequence of calls, with every effect in order. -/
def asyncRun : AsyncRequests → List AsyncCall → AsyncRequests × List AsyncEffect
  | state, [] => (state, [])
  | state, call :: calls =>
      let (state, effects) := asyncStep compositeIsSynchronous state call
      let (state, later) := asyncRun state calls
      (state, effects ++ later)

/-- How often effects answer a callback with `didLayoutAndPaint`. -/
def layoutAnswers (callback : Nat) (effects : List AsyncEffect) : Nat :=
  effects.count (.didLayoutAndPaint callback)

/-- How often effects receive a layout-and-paint request with a callback. -/
def layoutRequests (callback : Nat) (effects : List AsyncEffect) : Nat :=
  effects.count (.received (.layoutAndPaintAsync callback))

/-- Whether `layout_and_paint_async_callback_` holds a callback, as a count. -/
def heldLayout (callback : Nat) (state : AsyncRequests) : Nat :=
  if state.layoutAndPaintAsyncCallback = some callback then 1 else 0

/-- How often effects receive a readback request with a callback. -/
def readbackRequests (callback : Nat) (effects : List AsyncEffect) : Nat :=
  effects.count (.received (.compositeAndReadbackAsync callback))

/-- How often the compositor settles a copy request: hands it to the root layer, or sends it an
empty result. -/
def readbackSettled (callback : Nat) (effects : List AsyncEffect) : Nat :=
  effects.count (.requestCopyOfOutput callback) + effects.count (.sendEmptyResult callback)

/-- Whether `temporary_copy_output_request_` holds a callback's request, as a count. -/
def heldCopy (callback : Nat) (state : AsyncRequests) : Nat :=
  if state.temporaryCopyOutputRequest = some callback then 1 else 0

/-! ## Layout results are never repeated

`InvokeLayoutAndPaintCallback` answers only the callback it holds and then clears it, so over any
run, whatever the clients request from inside their results, no callback is answered more often
than it was requested. -/

/-- A transition answers a callback at most as often as it was requested in the transition or
held before it, counting a callback still held afterwards as an answer to come. -/
def LayoutBounded (callback : Nat) (state : AsyncRequests)
    (transition : AsyncRequests × List AsyncEffect) : Prop :=
  layoutAnswers callback transition.2 + heldLayout callback transition.1 ≤
    layoutRequests callback transition.2 + heldLayout callback state

theorem LayoutBounded.append {callback : Nat} {state middle final : AsyncRequests}
    {effects later : List AsyncEffect} (first : LayoutBounded callback state (middle, effects))
    (second : LayoutBounded callback middle (final, later)) :
    LayoutBounded callback state (final, effects ++ later) := by
  simp only [LayoutBounded, layoutAnswers, layoutRequests, List.count_append] at first second ⊢
  omega

/-- Receiving a request answers nothing, and holds a callback only if it was just requested or
already held. -/
theorem receive_bounded (state : AsyncRequests) (request : AsyncRequest) (callback : Nat) :
    layoutAnswers callback (receive compositeIsSynchronous state request).2 = 0 ∧
      LayoutBounded callback state (receive compositeIsSynchronous state request) := by
  obtain ⟨held, copy⟩ := state
  cases request <;> cases copy <;> cases held <;> cases compositeIsSynchronous <;>
    simp [LayoutBounded, receive, noRequestPending, layoutAnswers, layoutRequests, heldLayout,
      List.count_cons]

theorem receiveAll_bounded (state : AsyncRequests) (reaction : List AsyncRequest)
    (callback : Nat) :
    layoutAnswers callback (receiveAll compositeIsSynchronous state reaction).2 = 0 ∧
      LayoutBounded callback state (receiveAll compositeIsSynchronous state reaction) := by
  induction reaction generalizing state with
  | nil => simp [receiveAll, LayoutBounded, layoutAnswers, layoutRequests]
  | cons request reaction ih =>
      obtain ⟨silent, bounded⟩ := receive_bounded compositeIsSynchronous state request callback
      obtain ⟨silentLater, boundedLater⟩ :=
        ih (receive compositeIsSynchronous state request).1
      refine ⟨?_, bounded.append boundedLater⟩
      simp only [layoutAnswers] at silent silentLater ⊢
      simp [receiveAll, silent, silentLater]

theorem invokeLayoutAndPaintCallback_bounded (state : AsyncRequests)
    (reaction : List AsyncRequest) (callback : Nat) :
    LayoutBounded callback state
      (invokeLayoutAndPaintCallback compositeIsSynchronous state reaction) := by
  unfold invokeLayoutAndPaintCallback
  cases held : state.layoutAndPaintAsyncCallback with
  | none => simp [LayoutBounded, layoutAnswers, layoutRequests]
  | some answered =>
      obtain ⟨silent, -⟩ := receiveAll_bounded compositeIsSynchronous state reaction callback
      simp only [layoutAnswers] at silent
      simp [LayoutBounded, layoutAnswers, layoutRequests, heldLayout, held, List.count_cons, silent]

theorem updateLayerTreeHost_bounded (state : AsyncRequests) (hasRootLayer : Bool)
    (reaction : List AsyncRequest) (callback : Nat) :
    LayoutBounded callback state
      (updateLayerTreeHost compositeIsSynchronous state hasRootLayer reaction) := by
  unfold updateLayerTreeHost
  cases copy : state.temporaryCopyOutputRequest with
  | none => simp [LayoutBounded, layoutAnswers, layoutRequests]
  | some answered =>
      cases hasRootLayer
      · obtain ⟨silent, bounded⟩ :=
          receiveAll_bounded compositeIsSynchronous state reaction callback
        simp only [LayoutBounded, layoutAnswers, layoutRequests, heldLayout] at silent bounded
        cases deleted :
            (receiveAll compositeIsSynchronous state reaction).1.temporaryCopyOutputRequest <;>
          simp [LayoutBounded, layoutAnswers, layoutRequests, heldLayout, List.count_cons, silent,
            deleted] <;> omega
      · simp [LayoutBounded, layoutAnswers, layoutRequests, heldLayout, List.count_cons]

theorem asyncStep_bounded (state : AsyncRequests) (call : AsyncCall) (callback : Nat) :
    LayoutBounded callback state (asyncStep compositeIsSynchronous state call) := by
  cases call with
  | request request => exact (receive_bounded compositeIsSynchronous state request callback).2
  | layoutAndUpdateLayers reaction | willCommit reaction =>
      exact invokeLayoutAndPaintCallback_bounded compositeIsSynchronous state reaction callback
  | updateLayerTreeHost hasRootLayer reaction =>
      exact updateLayerTreeHost_bounded compositeIsSynchronous state hasRootLayer reaction callback
  | didCommit => simp [asyncStep, LayoutBounded, layoutAnswers, layoutRequests]
  | copyOutputResult answered reaction =>
      obtain ⟨-, bounded⟩ := receiveAll_bounded compositeIsSynchronous state reaction callback
      simp only [LayoutBounded, layoutAnswers, layoutRequests] at bounded
      simp [asyncStep, LayoutBounded, layoutAnswers, layoutRequests, List.count_cons]
      omega

theorem asyncRun_bounded (state : AsyncRequests) (calls : List AsyncCall) (callback : Nat) :
    LayoutBounded callback state (asyncRun compositeIsSynchronous state calls) := by
  induction calls generalizing state with
  | nil => simp [asyncRun, LayoutBounded, layoutAnswers, layoutRequests]
  | cons call calls ih =>
      exact (asyncStep_bounded compositeIsSynchronous state call callback).append (ih _)

/-- Over any run from construction, whatever the clients request from inside their results,
`didLayoutAndPaint` answers each callback at most as often as it was requested. -/
theorem layoutAndPaintAsync_answered_at_most_requested (calls : List AsyncCall) (callback : Nat) :
    layoutAnswers callback (asyncRun compositeIsSynchronous asyncRequestsInitial calls).2 ≤
      layoutRequests callback (asyncRun compositeIsSynchronous asyncRequestsInitial calls).2 := by
  have bounded := asyncRun_bounded compositeIsSynchronous asyncRequestsInitial calls callback
  have nothingHeld : heldLayout callback asyncRequestsInitial = 0 := rfl
  unfold LayoutBounded at bounded
  omega

/-! ## Nothing is dropped under the `DCHECK`

When every request finds no request pending, no reaction runs inside `didLayoutAndPaint` or
inside the empty result `UpdateLayerTreeHost` sends, since the field being answered is still set.
Each transition then settles exactly what it receives. -/

/-- A transition settles every request it receives or finds held: per callback, results and
settled copies plus what stays held equal requests plus what was held, and every copy request it
deletes was sent its empty result. -/
structure Settles (callback : Nat) (state : AsyncRequests)
    (transition : AsyncRequests × List AsyncEffect) : Prop where
  layout : layoutAnswers callback transition.2 + heldLayout callback transition.1 =
    layoutRequests callback transition.2 + heldLayout callback state
  readback : readbackSettled callback transition.2 + heldCopy callback transition.1 =
    readbackRequests callback transition.2 + heldCopy callback state
  deleted : transition.2.count (.destroyCopyOutputRequest callback) =
    transition.2.count (.sendEmptyResult callback)

theorem Settles.append {callback : Nat} {state middle final : AsyncRequests}
    {effects later : List AsyncEffect} (first : Settles callback state (middle, effects))
    (second : Settles callback middle (final, later)) :
    Settles callback state (final, effects ++ later) := by
  obtain ⟨layout, readback, deleted⟩ := first
  obtain ⟨layoutLater, readbackLater, deletedLater⟩ := second
  constructor <;> simp only [layoutAnswers, layoutRequests, readbackSettled, readbackRequests,
    List.count_append] at * <;> omega

theorem Settles.nil (callback : Nat) (state : AsyncRequests) : Settles callback state (state, []) :=
  ⟨by simp [layoutAnswers, layoutRequests], by simp [readbackSettled, readbackRequests], rfl⟩

/-- A request that finds none pending settles: it is held, and nothing else changes. -/
theorem receive_settles (state : AsyncRequests) (request : AsyncRequest) (callback : Nat)
    (dchecked : .requestWhilePending ∉ (receive compositeIsSynchronous state request).2) :
    Settles callback state (receive compositeIsSynchronous state request) := by
  obtain ⟨held, copy⟩ := state
  obtain ⟨rfl, rfl⟩ : held = none ∧ copy = none := by
    cases held <;> cases copy <;> cases request <;> simp_all [receive, noRequestPending]
  cases request <;> cases compositeIsSynchronous <;> constructor <;> simp [receive,
    noRequestPending, layoutAnswers, layoutRequests, heldLayout, readbackSettled, readbackRequests,
    heldCopy, List.count_cons]

/-- A reaction made while a request is pending fails the `DCHECK` at its first request. -/
theorem receiveAll_pending (state : AsyncRequests) (reaction : List AsyncRequest)
    (pending : noRequestPending state = false)
    (dchecked : .requestWhilePending ∉ (receiveAll compositeIsSynchronous state reaction).2) :
    reaction = [] := by
  cases reaction with
  | nil => rfl
  | cons request reaction =>
      cases request <;> simp [receiveAll, receive, pending] at dchecked

theorem receiveAll_settles (state : AsyncRequests) (reaction : List AsyncRequest)
    (callback : Nat)
    (dchecked : .requestWhilePending ∉ (receiveAll compositeIsSynchronous state reaction).2) :
    Settles callback state (receiveAll compositeIsSynchronous state reaction) := by
  induction reaction generalizing state with
  | nil => exact Settles.nil callback state
  | cons request reaction ih =>
      simp only [receiveAll, List.mem_append, not_or] at dchecked
      exact (receive_settles compositeIsSynchronous state request callback dchecked.1).append
        (ih _ dchecked.2)

theorem invokeLayoutAndPaintCallback_settles (state : AsyncRequests)
    (reaction : List AsyncRequest) (callback : Nat)
    (dchecked : .requestWhilePending ∉
      (invokeLayoutAndPaintCallback compositeIsSynchronous state reaction).2) :
    Settles callback state
      (invokeLayoutAndPaintCallback compositeIsSynchronous state reaction) := by
  unfold invokeLayoutAndPaintCallback at dchecked ⊢
  cases held : state.layoutAndPaintAsyncCallback with
  | none => exact Settles.nil callback state
  | some answered =>
      simp only [held] at dchecked ⊢
      obtain rfl := receiveAll_pending compositeIsSynchronous state reaction
        (by simp [noRequestPending, held]) (fun mem => dchecked (List.mem_cons_of_mem _ mem))
      constructor <;> simp [receiveAll, layoutAnswers, layoutRequests, heldLayout, held,
        readbackSettled, readbackRequests, heldCopy, List.count_cons]

theorem updateLayerTreeHost_settles (state : AsyncRequests) (hasRootLayer : Bool)
    (reaction : List AsyncRequest) (callback : Nat)
    (dchecked : .requestWhilePending ∉
      (updateLayerTreeHost compositeIsSynchronous state hasRootLayer reaction).2) :
    Settles callback state
      (updateLayerTreeHost compositeIsSynchronous state hasRootLayer reaction) := by
  unfold updateLayerTreeHost at dchecked ⊢
  cases copy : state.temporaryCopyOutputRequest with
  | none => exact Settles.nil callback state
  | some answered =>
      simp only [copy] at dchecked ⊢
      cases hasRootLayer
      · simp only [Bool.false_eq_true, ↓reduceIte] at dchecked ⊢
        obtain rfl := receiveAll_pending compositeIsSynchronous state reaction
          (by simp [noRequestPending, copy]) (fun mem => dchecked (by simp [mem]))
        constructor <;> simp [receiveAll, layoutAnswers, layoutRequests, heldLayout, copy,
          readbackSettled, readbackRequests, heldCopy, List.count_cons]
      · constructor <;> simp [layoutAnswers, layoutRequests, heldLayout, copy, readbackSettled,
          readbackRequests, heldCopy, List.count_cons]

theorem asyncStep_settles (state : AsyncRequests) (call : AsyncCall) (callback : Nat)
    (dchecked : .requestWhilePending ∉ (asyncStep compositeIsSynchronous state call).2) :
    Settles callback state (asyncStep compositeIsSynchronous state call) := by
  cases call with
  | request request => exact receive_settles compositeIsSynchronous state request callback dchecked
  | layoutAndUpdateLayers reaction | willCommit reaction =>
      exact invokeLayoutAndPaintCallback_settles compositeIsSynchronous state reaction callback
        dchecked
  | updateLayerTreeHost hasRootLayer reaction =>
      exact updateLayerTreeHost_settles compositeIsSynchronous state hasRootLayer reaction callback
        dchecked
  | didCommit => exact Settles.nil callback state
  | copyOutputResult answered reaction =>
      simp only [asyncStep, List.mem_cons, reduceCtorEq, false_or] at dchecked
      have answer : Settles callback state (state, [.didCompositeAndReadback answered]) :=
        ⟨by simp [layoutAnswers, layoutRequests], by simp [readbackSettled, readbackRequests],
          by simp⟩
      exact answer.append
        (receiveAll_settles compositeIsSynchronous state reaction callback dchecked)

theorem asyncRun_settles (state : AsyncRequests) (calls : List AsyncCall) (callback : Nat)
    (dchecked : .requestWhilePending ∉ (asyncRun compositeIsSynchronous state calls).2) :
    Settles callback state (asyncRun compositeIsSynchronous state calls) := by
  induction calls generalizing state with
  | nil => exact Settles.nil callback state
  | cons call calls ih =>
      simp only [asyncRun, List.mem_append, not_or] at dchecked
      exact (asyncStep_settles compositeIsSynchronous state call callback dchecked.1).append
        (ih _ dchecked.2)

end RenderWidgetCompositor

end ChromiumContent
