import ChromiumContent.Base.CommandLine

/-!
# Output surface retries

`RenderWidgetCompositor` counts failed output-surface initializations in
`num_failed_recreate_attempts_`.  `RequestNewOutputSurface` asks for the fallback surface once the
count reaches `OUTPUT_SURFACE_RETRIES_BEFORE_FALLBACK` and counts a null surface as a failure;
`DidFailToInitializeOutputSurface` counts, aborts with `LOG(FATAL)` when the count reaches
`MAX_OUTPUT_SURFACE_RETRIES`, and posts another request; `DidInitializeOutputSurface` resets.
The two limits are declared in the compositor's header, which is not among the sources.
-/

namespace ChromiumContent

/-- `OUTPUT_SURFACE_RETRIES_BEFORE_FALLBACK` and `MAX_OUTPUT_SURFACE_RETRIES`, enumerators of an
`int` enumeration; the maximum is a positive number of retries. -/
structure RetryLimits where
  /-- `OUTPUT_SURFACE_RETRIES_BEFORE_FALLBACK`. -/
  retriesBeforeFallback : Int
  /-- `MAX_OUTPUT_SURFACE_RETRIES`. -/
  maxRetries : Int
  /-- The maximum allows the first attempt. -/
  maxRetries_pos : 0 < maxRetries
  /-- An enumerator of an `int` enumeration. -/
  maxRetries_le : maxRetries ≤ intMax

/-- The calls that touch `num_failed_recreate_attempts_`, with what the widget answers. -/
inductive OutputSurfaceCall
  /-- `RequestNewOutputSurface`, with `widget_->host_closing()` and whether
  `widget_->CreateOutputSurface(fallback)` returned a surface. -/
  | requestNewOutputSurface (hostClosing : Bool) (surfaceCreated : Bool)
  | didInitializeOutputSurface
  | didFailToInitializeOutputSurface
  deriving DecidableEq, Repr

/-- What the calls do besides counting. -/
inductive OutputSurfaceEffect
  /-- `widget_->CreateOutputSurface(fallback)`. -/
  | createOutputSurface (fallback : Bool)
  /-- `layer_tree_host_->SetOutputSurface(surface.Pass())`. -/
  | setOutputSurface
  /-- A `RequestNewOutputSurface` task posted to the current thread. -/
  | postRequestNewOutputSurface
  deriving DecidableEq, Repr

namespace RenderWidgetCompositor

variable (limits : RetryLimits)

/-- `DidFailToInitializeOutputSurface`: the effects, and the count afterwards or `none` for the
`LOG(FATAL)`. -/
def didFailToInitializeOutputSurface (attempts : Int) :
    List OutputSurfaceEffect × Option Int :=
  let attempts := attempts + 1
  if limits.maxRetries ≤ attempts then ([], none)
  else ([.postRequestNewOutputSurface], some attempts)

/-- `RequestNewOutputSurface`. -/
def requestNewOutputSurface (hostClosing surfaceCreated : Bool) (attempts : Int) :
    List OutputSurfaceEffect × Option Int :=
  if hostClosing then ([], some attempts)
  else
    let fallback := decide (limits.retriesBeforeFallback ≤ attempts)
    if surfaceCreated then ([.createOutputSurface fallback, .setOutputSurface], some attempts)
    else
      let (effects, after) := didFailToInitializeOutputSurface limits attempts
      (.createOutputSurface fallback :: effects, after)

/-- One call on the count: its effects, and the count afterwards or `none` on an abort. -/
def step (attempts : Int) : OutputSurfaceCall → List OutputSurfaceEffect × Option Int
  | .requestNewOutputSurface hostClosing surfaceCreated =>
      requestNewOutputSurface limits hostClosing surfaceCreated attempts
  | .didInitializeOutputSurface => ([], some 0)
  | .didFailToInitializeOutputSurface => didFailToInitializeOutputSurface limits attempts

/-- A run from a count: every effect up to an abort, and the final count or `none`. -/
def run : Int → List OutputSurfaceCall → List OutputSurfaceEffect × Option Int
  | attempts, [] => ([], some attempts)
  | attempts, call :: calls =>
      match step limits attempts call with
      | (effects, none) => (effects, none)
      | (effects, some after) =>
          let (later, final) := run after calls
          (effects ++ later, final)

end RenderWidgetCompositor

namespace OutputSurfaceCall

/-- The count a call leaves: a reset on success, one more on a failure. -/
def countFailure (count : Nat) : OutputSurfaceCall → Nat
  | .requestNewOutputSurface hostClosing surfaceCreated =>
      if hostClosing || surfaceCreated then count else count + 1
  | .didInitializeOutputSurface => 0
  | .didFailToInitializeOutputSurface => count + 1

end OutputSurfaceCall

/-- Failed initializations since the last `DidInitializeOutputSurface`, or since construction:
`DidFailToInitializeOutputSurface` calls, with each `RequestNewOutputSurface` that got no surface
and so made that call itself. -/
def failuresSinceInitialize (calls : List OutputSurfaceCall) : Nat :=
  calls.foldl OutputSurfaceCall.countFailure 0

namespace RenderWidgetCompositor

variable (limits : RetryLimits)

/-- A request from a live host asks for the fallback surface exactly when the count has reached
`OUTPUT_SURFACE_RETRIES_BEFORE_FALLBACK`. -/
theorem step_requestNewOutputSurface_fallback (attempts : Int) (surfaceCreated : Bool) :
    (step limits attempts (.requestNewOutputSurface false surfaceCreated)).1.head? =
      some (.createOutputSurface (decide (limits.retriesBeforeFallback ≤ attempts))) := by
  cases surfaceCreated <;> rfl

/-- Below the maximum, a call moves the count as `countFailure` does, and aborts exactly when
that reaches the maximum. -/
theorem step_count (count : Nat) (call : OutputSurfaceCall)
    (below : (count : Int) < limits.maxRetries) :
    (step limits count call).2 =
      if limits.maxRetries ≤ (call.countFailure count : Int) then none
      else some (call.countFailure count : Int) := by
  cases call with
  | requestNewOutputSurface hostClosing surfaceCreated =>
      cases hostClosing <;> cases surfaceCreated <;>
        simp [step, requestNewOutputSurface, didFailToInitializeOutputSurface,
          OutputSurfaceCall.countFailure, not_le.mpr below, apply_ite Prod.snd]
  | didInitializeOutputSurface =>
      simp [step, OutputSurfaceCall.countFailure, not_le.mpr limits.maxRetries_pos]
  | didFailToInitializeOutputSurface =>
      simp [step, didFailToInitializeOutputSurface, OutputSurfaceCall.countFailure,
        apply_ite Prod.snd]

/-- A run from a count below the maximum ends at the count `countFailure` gives, unless some
prefix of it brings the count to the maximum, where it aborts. -/
theorem run_count (count : Nat) (calls : List OutputSurfaceCall)
    (below : (count : Int) < limits.maxRetries) :
    (run limits count calls).2 =
      if ∀ k ≤ calls.length,
          (((calls.take k).foldl OutputSurfaceCall.countFailure count : Nat) : Int) <
            limits.maxRetries
      then some ((calls.foldl OutputSurfaceCall.countFailure count : Nat) : Int) else none := by
  induction calls generalizing count with
  | nil => simp [run, below]
  | cons call calls ih =>
      have stepped := step_count limits count call below
      simp only [run]
      split
      · rename_i effects aborted
        rw [aborted] at stepped
        split at stepped
        · rename_i reached
          refine (if_neg fun survives => ?_).symm
          have := survives 1 (by simp)
          simp only [List.take_succ_cons, List.take_zero, List.foldl_cons, List.foldl_nil] at this
          omega
        · cases stepped
      · rename_i effects after continued
        rw [continued] at stepped
        split at stepped
        · cases stepped
        · rename_i survivesStep
          cases stepped
          rw [ih _ (by omega)]
          simp only [List.foldl_cons, List.length_cons]
          congr 1
          apply propext
          constructor
          · intro survives k bound
            cases k with
            | zero => simpa using below
            | succ k => simpa using survives k (by omega)
          · intro survives k bound
            simpa using survives (k + 1) (by omega)

/-- Over any run, `num_failed_recreate_attempts_` counts the failures since the last success and
stays below `MAX_OUTPUT_SURFACE_RETRIES`, and the fallback surface is asked for exactly from
`OUTPUT_SURFACE_RETRIES_BEFORE_FALLBACK` on. -/
theorem outputSurface_retry_count (calls : List OutputSurfaceCall) :
    ((run limits 0 calls).2.isSome ↔
        ∀ k ≤ calls.length, (failuresSinceInitialize (calls.take k) : Int) < limits.maxRetries) ∧
    ∀ attempts, (run limits 0 calls).2 = some attempts →
      attempts = failuresSinceInitialize calls ∧ 0 ≤ attempts ∧ attempts < limits.maxRetries ∧
      attempts + 1 ≤ intMax ∧
      ∀ surfaceCreated,
        (step limits attempts (.requestNewOutputSurface false surfaceCreated)).1.head? =
          some (.createOutputSurface
            (decide (limits.retriesBeforeFallback ≤ failuresSinceInitialize calls))) := by
  have counted := run_count limits 0 calls (by simpa using limits.maxRetries_pos)
  simp only [Nat.cast_zero] at counted
  constructor
  · rw [counted]
    split <;> simp_all [failuresSinceInitialize]
  · intro attempts ran
    rw [counted] at ran
    split at ran
    · rename_i survives
      cases ran
      have below := survives calls.length le_rfl
      simp only [List.take_length] at below
      have bounded := limits.maxRetries_le
      refine ⟨rfl, by omega, below, by omega, fun surfaceCreated => ?_⟩
      exact step_requestNewOutputSurface_fallback limits _ surfaceCreated
    · cases ran

end RenderWidgetCompositor

end ChromiumContent
