import Mathlib

/-!
# `CacheStorageContextImpl`

`Init` and `Shutdown` run on the UI thread and post `CreateCacheStorageManager` and `ShutdownOnIO`
to the IO thread, which runs its tasks one at a time in order; the other methods run on the IO
thread and read `cache_manager_` at once.  A run is any interleaving of the calls with the IO
thread's tasks.  The model follows a release build, where `DCHECK`s are compiled out.
-/

namespace ChromiumContent

/-- A task the context posts to `BrowserThread::IO`. -/
inductive IoTask
  /-- `CreateCacheStorageManager`, bound to the user data directory. -/
  | createCacheStorageManager (userDataDirectory : String)
  /-- `ShutdownOnIO`. -/
  | shutdownOnIo
  /-- The `GetUsageInfoCallback`, bound to an empty vector. -/
  | usageInfoCallback (callback : Nat)
  deriving DecidableEq, Repr

/-- A call the context receives, or the IO thread running the next task posted to it. -/
inductive CacheStorageCall
  /-- `Init`, with `BrowserThread::CurrentlyOn(BrowserThread::IO)`. -/
  | init (userDataDirectory : String) (currentlyOnIo : Bool)
  | shutdown
  /-- `SetBlobParametersForCache`, with whether each pointer is non-null. -/
  | setBlobParametersForCache (hasRequestContextGetter hasBlobStorageContext : Bool)
  | getAllOriginsInfo (callback : Nat)
  | deleteForOrigin (origin : String)
  | runIoTask
  deriving DecidableEq, Repr

/-- What the context does that is seen outside it. -/
inductive CacheStorageEffect
  /-- `cache_manager_->SetBlobParametersForCache(...)`. -/
  | setBlobParameters
  /-- `cache_manager_->GetAllOriginsUsage(callback)`, which answers the callback. -/
  | getAllOriginsUsage (callback : Nat)
  /-- The callback runs with an empty vector. -/
  | emptyUsageInfo (callback : Nat)
  /-- `cache_manager_->DeleteOriginData(origin)`. -/
  | deleteOriginData (origin : String)
  deriving DecidableEq, Repr

/-- What a posted task does to the manager when it runs. -/
def IoTask.applyLifecycle (manager : Option String) : IoTask → Option String
  | .createCacheStorageManager userDataDirectory => some userDataDirectory
  | .shutdownOnIo => none
  | .usageInfoCallback _ => manager

/-- What a call asks of the manager: `Init` one for its directory, `Shutdown` none. -/
def CacheStorageCall.applyLifecycle (manager : Option String) : CacheStorageCall → Option String
  | .init userDataDirectory _ => some userDataDirectory
  | .shutdown => none
  | _ => manager

/-- `Init` called on the IO thread. -/
def CacheStorageCall.initOnIo : CacheStorageCall → Bool
  | .init _ currentlyOnIo => currentlyOnIo
  | _ => false

/-- Whether a task may run after the manager the tasks before it leave: a creation only when
there is none. -/
def IoTask.fits (manager : Option String) : IoTask → Bool
  | .createCacheStorageManager _ => manager.isNone
  | _ => true

/-- Whether a call may come after the manager the calls before it ask for: an `Init` only when
they ask for none. -/
def CacheStorageCall.fits (requested : Option String) : CacheStorageCall → Bool
  | .init _ _ => requested.isNone
  | _ => true

/-- Every task of a queue fits after the manager the ones before it leave. -/
def tasksFit : Option String → List IoTask → Bool
  | _, [] => true
  | manager, task :: rest => task.fits manager && tasksFit (task.applyLifecycle manager) rest

/-- Every call fits after the manager the ones before it ask for: no two `Init`s come without a
`Shutdown` between them. -/
def callsFit : Option String → List CacheStorageCall → Bool
  | _, [] => true
  | requested, call :: calls =>
      call.fits requested && callsFit (call.applyLifecycle requested) calls

theorem tasksFit_append_singleton (manager : Option String) (queue : List IoTask) (task : IoTask) :
    tasksFit manager (queue ++ [task]) =
      (tasksFit manager queue && task.fits (queue.foldl IoTask.applyLifecycle manager)) := by
  induction queue generalizing manager with
  | nil => simp [tasksFit]
  | cons first rest induction => simp [tasksFit, induction, Bool.and_assoc]

/-- `CacheStorageContextImpl`, with the tasks it posted to the IO thread that have not run. -/
structure CacheStorageContextImpl where
  /-- `cache_manager_`: the user data directory the manager was created for, `none` for null. -/
  cacheManager : Option String
  /-- The posted tasks, in the order the IO thread runs them. -/
  ioQueue : List IoTask
  deriving DecidableEq, Repr

namespace CacheStorageContextImpl

/-- The constructor: no manager and nothing posted. -/
def initial : CacheStorageContextImpl := ⟨none, []⟩

/-- `BrowserThread::PostTask(BrowserThread::IO, ...)`. -/
def postTask (context : CacheStorageContextImpl) (task : IoTask) : CacheStorageContextImpl :=
  { context with ioQueue := context.ioQueue ++ [task] }

/-- `CreateCacheStorageManager`. -/
def createCacheStorageManager (context : CacheStorageContextImpl) (userDataDirectory : String) :
    CacheStorageContextImpl :=
  { context with cacheManager := some userDataDirectory }

/-- `Init`: on the IO thread it creates the manager at once, otherwise it posts the creation. -/
def init (context : CacheStorageContextImpl) (userDataDirectory : String) (currentlyOnIo : Bool) :
    CacheStorageContextImpl :=
  if currentlyOnIo then context.createCacheStorageManager userDataDirectory
  else context.postTask (.createCacheStorageManager userDataDirectory)

/-- `Shutdown`. -/
def shutdown (context : CacheStorageContextImpl) : CacheStorageContextImpl :=
  context.postTask .shutdownOnIo

/-- `ShutdownOnIO`. -/
def shutdownOnIo (context : CacheStorageContextImpl) : CacheStorageContextImpl :=
  { context with cacheManager := none }

/-- `SetBlobParametersForCache`. -/
def setBlobParametersForCache (context : CacheStorageContextImpl)
    (hasRequestContextGetter hasBlobStorageContext : Bool) : List CacheStorageEffect :=
  if context.cacheManager.isSome && hasRequestContextGetter && hasBlobStorageContext then
    [.setBlobParameters]
  else []

/-- `GetAllOriginsInfo`: without a manager, post the callback with an empty vector. -/
def getAllOriginsInfo (context : CacheStorageContextImpl) (callback : Nat) :
    CacheStorageContextImpl × List CacheStorageEffect :=
  match context.cacheManager with
  | none => (context.postTask (.usageInfoCallback callback), [])
  | some _ => (context, [.getAllOriginsUsage callback])

/-- `DeleteForOrigin`. -/
def deleteForOrigin (context : CacheStorageContextImpl) (origin : String) :
    List CacheStorageEffect :=
  if context.cacheManager.isSome then [.deleteOriginData origin] else []

/-- One posted task, run on the IO thread. -/
def runTask (context : CacheStorageContextImpl) : IoTask →
    CacheStorageContextImpl × List CacheStorageEffect
  | .createCacheStorageManager userDataDirectory =>
      (context.createCacheStorageManager userDataDirectory, [])
  | .shutdownOnIo => (context.shutdownOnIo, [])
  | .usageInfoCallback callback => (context, [.emptyUsageInfo callback])

/-- The IO thread runs the first task posted to it, if there is one. -/
def runIoTask (context : CacheStorageContextImpl) :
    CacheStorageContextImpl × List CacheStorageEffect :=
  match context.ioQueue with
  | [] => (context, [])
  | task :: rest => runTask { context with ioQueue := rest } task

/-- One call. -/
def step (context : CacheStorageContextImpl) :
    CacheStorageCall → CacheStorageContextImpl × List CacheStorageEffect
  | .init userDataDirectory currentlyOnIo => (context.init userDataDirectory currentlyOnIo, [])
  | .shutdown => (context.shutdown, [])
  | .setBlobParametersForCache hasRequestContextGetter hasBlobStorageContext =>
      (context, context.setBlobParametersForCache hasRequestContextGetter hasBlobStorageContext)
  | .getAllOriginsInfo callback => context.getAllOriginsInfo callback
  | .deleteForOrigin origin => (context, context.deleteForOrigin origin)
  | .runIoTask => context.runIoTask

/-- A sequence of calls: the context afterwards and every effect in order. -/
def run : CacheStorageContextImpl → List CacheStorageCall →
    CacheStorageContextImpl × List CacheStorageEffect
  | context, [] => (context, [])
  | context, call :: calls =>
      ((run (context.step call).1 calls).1,
        (context.step call).2 ++ (run (context.step call).1 calls).2)

/-- The IO thread catching up: as many tasks run as are queued. -/
def drain (context : CacheStorageContextImpl) : CacheStorageContextImpl × List CacheStorageEffect :=
  run context (List.replicate context.ioQueue.length .runIoTask)

theorem runTask_ioQueue (context : CacheStorageContextImpl) (task : IoTask) :
    (runTask context task).1.ioQueue = context.ioQueue := by
  cases task <;> rfl

/-- Running as many tasks as are queued empties the queue. -/
theorem drain_ioQueue (context : CacheStorageContextImpl) : (drain context).1.ioQueue = [] := by
  unfold drain
  generalize queued : context.ioQueue = queue
  induction queue generalizing context with
  | nil => simpa [run] using queued
  | cons task rest induction =>
      rw [List.length_cons, List.replicate_succ, run]
      apply induction
      simp only [step, runIoTask, queued, runTask_ioQueue]

/-! ## The manager follows the last lifecycle call -/

/-- The manager the context holds once the IO thread has run every task posted so far. -/
def settledManager (context : CacheStorageContextImpl) : Option String :=
  context.ioQueue.foldl IoTask.applyLifecycle context.cacheManager

/-- The manager the last `Init` or `Shutdown` of the calls asked for. -/
def requestedManager (calls : List CacheStorageCall) : Option String :=
  calls.foldl CacheStorageCall.applyLifecycle none

theorem settledManager_postTask (context : CacheStorageContextImpl) (task : IoTask) :
    (context.postTask task).settledManager = task.applyLifecycle context.settledManager := by
  simp [postTask, settledManager, List.foldl_append]

/-- A call not made as `Init` on the IO thread moves the settled manager as it asks. -/
theorem settledManager_step (context : CacheStorageContextImpl) {call : CacheStorageCall}
    (posted : call.initOnIo = false) :
    (context.step call).1.settledManager = call.applyLifecycle context.settledManager := by
  cases call with
  | init userDataDirectory currentlyOnIo =>
      obtain rfl : currentlyOnIo = false := posted
      exact settledManager_postTask context _
  | shutdown => exact settledManager_postTask context _
  | getAllOriginsInfo callback =>
      show (getAllOriginsInfo context callback).1.settledManager = context.settledManager
      unfold getAllOriginsInfo
      split
      · exact settledManager_postTask context _
      · rfl
  | runIoTask =>
      show (runIoTask context).1.settledManager = context.settledManager
      unfold runIoTask settledManager
      split
      · rfl
      · rename_i task rest queued
        rw [queued]
        cases task <;> rfl
  | setBlobParametersForCache | deleteForOrigin => rfl

/-- Over a run with no `Init` on the IO thread, the settled manager follows the lifecycle calls. -/
theorem settledManager_run (context : CacheStorageContextImpl) {calls : List CacheStorageCall}
    (posted : ∀ call ∈ calls, call.initOnIo = false) :
    (run context calls).1.settledManager =
      calls.foldl CacheStorageCall.applyLifecycle context.settledManager := by
  induction calls generalizing context with
  | nil => rfl
  | cons call calls induction =>
      rw [run, List.foldl_cons, ← settledManager_step context (posted call (List.mem_cons_self _ _))]
      exact induction _ fun other mem => posted other (List.mem_cons_of_mem _ mem)

theorem foldl_applyLifecycle_runIoTask (count : Nat) (manager : Option String) :
    (List.replicate count CacheStorageCall.runIoTask).foldl CacheStorageCall.applyLifecycle
      manager = manager := by
  induction count with
  | zero => rfl
  | succ count induction => exact induction

/-- When every `Init` is posted from the UI thread, the IO thread, once it has caught up, holds
the manager the last `Init` or `Shutdown` asked for, created for that `Init`'s directory,
whatever the interleaving of the calls with the IO thread's progress. -/
theorem drain_cacheManager_requested (calls : List CacheStorageCall)
    (posted : ∀ call ∈ calls, call.initOnIo = false) :
    (drain (run initial calls).1).1.ioQueue = [] ∧
      (drain (run initial calls).1).1.cacheManager = requestedManager calls := by
  have drained := drain_ioQueue (run initial calls).1
  have idle : ∀ call ∈ List.replicate (run initial calls).1.ioQueue.length
      CacheStorageCall.runIoTask, call.initOnIo = false := by
    intro call mem
    rw [List.eq_of_mem_replicate mem]
    rfl
  have settled := settledManager_run (run initial calls).1 idle
  rw [foldl_applyLifecycle_runIoTask, settledManager_run initial posted] at settled
  unfold drain at drained ⊢
  rw [settledManager, drained, List.foldl_nil] at settled
  exact ⟨drained, settled⟩

/-- `Init` then `Shutdown` then `Init` again, with a usage request before the IO thread has run
anything: once it has caught up, the manager is the second `Init`'s. -/
theorem drain_cacheManager_requested_reinit :
    let calls := [.init "profile" false, .getAllOriginsInfo 1, .shutdown, .init "other" false,
      .runIoTask]
    (∀ call ∈ calls, call.initOnIo = false) ∧
      ((drain (run initial calls).1).1.ioQueue = [] ∧
        (drain (run initial calls).1).1.cacheManager = requestedManager calls) ∧
      requestedManager calls = some "other" :=
  ⟨by decide, drain_cacheManager_requested
    [.init "profile" false, .getAllOriginsInfo 1, .shutdown, .init "other" false, .runIoTask]
    (by decide), rfl⟩

/-! ## Every usage request is answered once -/

/-- How often calls ask `GetAllOriginsInfo` with a callback. -/
def usageRequests (callback : Nat) (calls : List CacheStorageCall) : Nat :=
  calls.count (.getAllOriginsInfo callback)

/-- How often effects answer a callback, by the manager or with an empty vector. -/
def usageAnswers (callback : Nat) (effects : List CacheStorageEffect) : Nat :=
  effects.count (.getAllOriginsUsage callback) + effects.count (.emptyUsageInfo callback)

/-- How often a callback waits in the IO thread's queue for its empty vector. -/
def pendingUsage (callback : Nat) (context : CacheStorageContextImpl) : Nat :=
  context.ioQueue.count (.usageInfoCallback callback)

theorem usageAnswers_append (callback : Nat) (effects later : List CacheStorageEffect) :
    usageAnswers callback (effects ++ later) =
      usageAnswers callback effects + usageAnswers callback later := by
  simp only [usageAnswers, List.count_append]
  omega

/-- One call answers a callback, or queues its answer, as often as it asks for it. -/
theorem usage_step (context : CacheStorageContextImpl) (call : CacheStorageCall)
    (callback : Nat) :
    usageAnswers callback (context.step call).2 + pendingUsage callback (context.step call).1 =
      usageRequests callback [call] + pendingUsage callback context := by
  cases call with
  | init userDataDirectory currentlyOnIo =>
      cases currentlyOnIo <;>
        simp [step, init, postTask, createCacheStorageManager, usageAnswers, usageRequests,
          pendingUsage]
  | shutdown => simp [step, shutdown, postTask, usageAnswers, usageRequests, pendingUsage]
  | setBlobParametersForCache hasRequestContextGetter hasBlobStorageContext =>
      show usageAnswers callback (context.setBlobParametersForCache hasRequestContextGetter
        hasBlobStorageContext) + _ = 0 + _
      unfold setBlobParametersForCache
      split <;> rfl
  | deleteForOrigin origin =>
      show usageAnswers callback (context.deleteForOrigin origin) + _ = 0 + _
      unfold deleteForOrigin
      split <;> rfl
  | getAllOriginsInfo asked =>
      show usageAnswers callback (getAllOriginsInfo context asked).2 +
          pendingUsage callback (getAllOriginsInfo context asked).1 =
        usageRequests callback [.getAllOriginsInfo asked] + pendingUsage callback context
      unfold getAllOriginsInfo
      split <;> by_cases same : asked = callback <;>
        simp [postTask, usageAnswers, usageRequests, pendingUsage, List.count_cons, same, add_comm]
  | runIoTask =>
      show usageAnswers callback (runIoTask context).2 + pendingUsage callback (runIoTask context).1 =
        0 + pendingUsage callback context
      unfold runIoTask
      split
      · rfl
      · rename_i task rest queued
        cases task <;>
          simp [runTask, createCacheStorageManager, shutdownOnIo, usageAnswers, pendingUsage,
            queued, List.count_cons, add_comm]

/-- Over any run, the answers given and the answers queued together match the requests. -/
theorem usage_run (context : CacheStorageContextImpl) (calls : List CacheStorageCall)
    (callback : Nat) :
    usageAnswers callback (run context calls).2 + pendingUsage callback (run context calls).1 =
      usageRequests callback calls + pendingUsage callback context := by
  induction calls generalizing context with
  | nil => rfl
  | cons call calls induction =>
      have stepped := usage_step context call callback
      have later := induction (context.step call).1
      have counted : usageRequests callback (call :: calls) =
          usageRequests callback [call] + usageRequests callback calls := by
        simp only [usageRequests, List.count_cons, List.count_nil]
        omega
      simp only [run, usageAnswers_append, counted]
      omega

/-- Once the IO thread has caught up, every `GetAllOriginsInfo` callback has been answered exactly
once: by the manager when there was one, otherwise with the empty vector posted for it, whether
or not a manager was created or shut down in between. -/
theorem getAllOriginsInfo_answered_once (calls : List CacheStorageCall) (callback : Nat) :
    usageAnswers callback ((run initial calls).2 ++ (drain (run initial calls).1).2) =
      usageRequests callback calls := by
  have before := usage_run initial calls callback
  have after := usage_run (run initial calls).1
    (List.replicate (run initial calls).1.ioQueue.length .runIoTask) callback
  have drained : pendingUsage callback (drain (run initial calls).1).1 = 0 := by
    rw [pendingUsage, drain_ioQueue, List.count_nil]
  have idle : usageRequests callback
      (List.replicate (run initial calls).1.ioQueue.length .runIoTask) = 0 := by
    simp [usageRequests, List.count_replicate]
  have nothingQueued : pendingUsage callback initial = 0 := rfl
  unfold drain at drained
  rw [usageAnswers_append, drain]
  omega

/-! ## `CreateCacheStorageManager` finds no manager -/

theorem runTask_cacheManager (context : CacheStorageContextImpl) (task : IoTask) :
    (runTask context task).1.cacheManager = task.applyLifecycle context.cacheManager := by
  cases task <;> rfl

theorem tasksFit_postTask (context : CacheStorageContextImpl) (task : IoTask) :
    tasksFit (context.postTask task).cacheManager (context.postTask task).ioQueue =
      (tasksFit context.cacheManager context.ioQueue && task.fits context.settledManager) :=
  tasksFit_append_singleton _ _ _

/-- A call that fits after the settled manager keeps every queued task fitting. -/
theorem tasksFit_step {context : CacheStorageContextImpl} {call : CacheStorageCall}
    (fit : tasksFit context.cacheManager context.ioQueue) (posted : call.initOnIo = false)
    (allowed : call.fits context.settledManager) :
    tasksFit (context.step call).1.cacheManager (context.step call).1.ioQueue := by
  cases call with
  | init userDataDirectory currentlyOnIo =>
      obtain rfl : currentlyOnIo = false := posted
      simpa [step, init, tasksFit_postTask, fit, IoTask.fits, CacheStorageCall.fits] using allowed
  | shutdown => simpa [step, shutdown, tasksFit_postTask, IoTask.fits] using fit
  | getAllOriginsInfo callback =>
      show tasksFit (getAllOriginsInfo context callback).1.cacheManager
        (getAllOriginsInfo context callback).1.ioQueue
      unfold getAllOriginsInfo
      split
      · simpa [tasksFit_postTask, IoTask.fits] using fit
      · exact fit
  | runIoTask =>
      show tasksFit (runIoTask context).1.cacheManager (runIoTask context).1.ioQueue
      unfold runIoTask
      split
      · exact fit
      · rename_i task rest queued
        rw [queued, tasksFit, Bool.and_eq_true] at fit
        rw [runTask_ioQueue, runTask_cacheManager]
        exact fit.2
  | setBlobParametersForCache | deleteForOrigin => exact fit

theorem tasksFit_run {context : CacheStorageContextImpl} {calls : List CacheStorageCall}
    (fit : tasksFit context.cacheManager context.ioQueue)
    (posted : ∀ call ∈ calls, call.initOnIo = false)
    (allowed : callsFit context.settledManager calls) :
    tasksFit (run context calls).1.cacheManager (run context calls).1.ioQueue := by
  induction calls generalizing context with
  | nil => exact fit
  | cons call calls induction =>
      rw [callsFit, Bool.and_eq_true] at allowed
      have first := posted call (List.mem_cons_self _ _)
      apply induction (tasksFit_step fit first allowed.1)
        fun other mem => posted other (List.mem_cons_of_mem _ mem)
      rw [settledManager_step context first]
      exact allowed.2

/-- When every `Init` is posted from the UI thread and no two `Init`s come without a `Shutdown`
between them, the `DCHECK(!cache_manager_)` of `CreateCacheStorageManager` holds: whenever the
IO thread's next task creates a manager, it holds none, whatever the interleaving. -/
theorem createCacheStorageManager_finds_no_manager (calls : List CacheStorageCall)
    (posted : ∀ call ∈ calls, call.initOnIo = false) (alternating : callsFit none calls)
    (userDataDirectory : String) (rest : List IoTask)
    (next : (run initial calls).1.ioQueue = .createCacheStorageManager userDataDirectory :: rest) :
    (run initial calls).1.cacheManager = none := by
  have fit : tasksFit (run initial calls).1.cacheManager (run initial calls).1.ioQueue :=
    tasksFit_run rfl posted alternating
  rw [next, tasksFit, Bool.and_eq_true, IoTask.fits, Option.isNone_iff_eq_none] at fit
  exact fit.1

/-- `Init`, the IO thread creating the manager, `Shutdown` and `Init` again, and the IO thread
shutting the first manager down: the second creation is next, and finds no manager. -/
theorem createCacheStorageManager_finds_no_manager_reinit :
    let calls := [.init "profile" false, .runIoTask, .shutdown, .init "profile" false, .runIoTask]
    (∀ call ∈ calls, call.initOnIo = false) ∧ callsFit none calls ∧
      (run initial calls).1.ioQueue = [.createCacheStorageManager "profile"] ∧
      (run initial calls).1.cacheManager = none :=
  ⟨by decide, rfl, rfl, createCacheStorageManager_finds_no_manager
    [.init "profile" false, .runIoTask, .shutdown, .init "profile" false, .runIoTask]
    (by decide) rfl "profile" [] rfl⟩

end CacheStorageContextImpl

end ChromiumContent
