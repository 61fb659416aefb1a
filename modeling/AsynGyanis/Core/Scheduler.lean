import AsynGyanis.Library.Reach

/-!
# The scheduler of an event loop

A scheduler keeps what is to be run on its loop in four containers: a stack
of coroutines and a queue of callables that only the loop's own thread
touches, and a queue of coroutines and one of callables that any thread may
add to under a lock, up to a common limit. Two counters, readable without
the lock, repeat the sizes of the locked queues.

`runOne` takes one item. `runAll` makes a pass: it drains the local
containers, then takes a batch from the locked queues, runs it, drains the
local containers again and goes on, until it finds nothing or has taken as
many items as a pass may. An item that throws is counted and otherwise like
any other.

The thread of the loop is modelled by where its call stands (`Next`): one
step of `advance` is what it does between two items, and a step that enters
the lock is one atomic section. While an item runs it may post further
items, and so may other threads at any moment.
-/

namespace AsynGyanis.Core

/-- How an item came in: `schedule`, `postLocal`, `scheduleRemote` or
`tryPostRemote`. -/
inductive PostingSource
  | localHandle
  | localCallable
  | remoteHandle
  | remoteCallable
  deriving DecidableEq, Repr

/-- An accepted item, numbered in the order of acceptance. A coroutine may
be posted more than once. -/
structure Posting where
  id : Nat
  source : PostingSource
  coroutine : Option Nat
  deriving DecidableEq, Repr

/-- `localQueue` is the stack, its top first. -/
structure Scheduler where
  localQueue : List Posting
  localCallables : List Posting
  globalQueue : List Posting
  remoteCallables : List Posting
  globalCount : Nat
  remoteCallableCount : Nat
  failedDispatchCount : Nat
  skippedCompletedHandleCount : Nat
  saturatedRemoteRejectionCount : Nat
  deriving DecidableEq, Repr

def kMaximumItemsPerPass : Nat := 256

def kMaximumRemoteBacklog : Nat := 65536

namespace Scheduler

def empty : Scheduler := ⟨[], [], [], [], 0, 0, 0, 0, 0⟩

variable (s : Scheduler)

def schedule (posting : Posting) : Scheduler := { s with localQueue := posting :: s.localQueue }

def postLocal (posting : Posting) : Scheduler :=
  { s with localCallables := s.localCallables ++ [posting] }

/-- The limit is checked in the section that adds the item. -/
def hasRemoteRoom : Bool := s.globalQueue.length + s.remoteCallables.length < kMaximumRemoteBacklog

def noteRemoteQueueSaturation : Scheduler :=
  { s with saturatedRemoteRejectionCount := s.saturatedRemoteRejectionCount + 1 }

def pushGlobal (posting : Posting) : Scheduler :=
  { s with
    globalQueue := s.globalQueue ++ [posting]
    globalCount := s.globalCount + 1 }

def pushRemoteCallable (posting : Posting) : Scheduler :=
  { s with
    remoteCallables := s.remoteCallables ++ [posting]
    remoteCallableCount := s.remoteCallableCount + 1 }

/-- The batch a pass takes in one section: callables first, coroutines for
what is left of the pass. -/
def takeBatch (passRemaining : Nat) : Scheduler × List Posting × List Posting :=
  let callableBatch := s.remoteCallables.take passRemaining
  let remainingCapacity := passRemaining - callableBatch.length
  let batch := s.globalQueue.take remainingCapacity
  ({ s with
      remoteCallables := s.remoteCallables.drop passRemaining
      globalQueue := s.globalQueue.drop remainingCapacity
      remoteCallableCount := s.remoteCallableCount - callableBatch.length
      globalCount := s.globalCount - batch.length },
    callableBatch, batch)

end Scheduler

/-- What became of an item that was taken out: it was run, or passed over
because its coroutine had come to its end already. -/
inductive DispatchOutcome
  | ran
  | skipped
  deriving DecidableEq, Repr

/-- Where the call of the loop's thread stands. `drain` has run `drained` of
`budget` local items in a pass that had taken `before` items; `fetch` and
`batch` have taken `taken`. -/
inductive Next
  | idle
  | oneRemote
  | oneLocal
  | oneGlobal
  | drain (budget drained before : Nat) (isFirst : Bool)
  | fetch (taken : Nat)
  | batch (callables handles : List Posting) (taken : Nat)
  deriving DecidableEq, Repr

/-- The scheduler, the call in progress, the item being run, and the
coroutines that have come to their end. `accepted`, `dispatched` and
`takenThisPass` record what was accepted, what was run or passed over, both
in order, and how many items the call has taken out. -/
structure SchedulerRun where
  scheduler : Scheduler
  next : Next
  executing : Option Posting
  finished : List Nat
  accepted : List Posting
  dispatched : List (Posting × DispatchOutcome)
  takenThisPass : Nat
  deriving DecidableEq, Repr

/-- What can happen. A handle may be null and a callable unbound; both are
ignored. -/
inductive SchedulerEvent
  | schedule (handle : Option Nat)
  | postLocal (isBound : Bool)
  | scheduleRemote (handle : Option Nat)
  | tryPostRemote (isBound : Bool)
  | coroutineFinishes (coroutine : Nat)
  | runOne
  | runAll
  | advance
  | itemEnds (threw : Bool)
  deriving DecidableEq, Repr

namespace SchedulerRun

def start : SchedulerRun := ⟨.empty, .idle, none, [], [], [], 0⟩

variable (r : SchedulerRun)

/-- An item that is accepted now. -/
def posting (source : PostingSource) (coroutine : Option Nat) : Posting :=
  ⟨r.accepted.length, source, coroutine⟩

def accept (posting : Posting) (scheduler : Scheduler) :
    SchedulerRun :=
  { r with scheduler, accepted := r.accepted ++ [posting] }

/-- Code of the loop's thread is running: an item, or whoever calls
`runAll` and `runOne`. -/
def isOwnerFree : Bool := r.executing.isSome || r.next == .idle

def schedule (r : SchedulerRun) (handle : Option Nat) : SchedulerRun :=
  match handle with
  | none => r
  | some coroutine =>
    if r.isOwnerFree then
      let posting := r.posting .localHandle (some coroutine)
      r.accept posting (r.scheduler.schedule posting)
    else r

def postLocal (r : SchedulerRun) (isBound : Bool) : SchedulerRun :=
  if isBound && r.isOwnerFree then
    let posting := r.posting .localCallable none
    r.accept posting (r.scheduler.postLocal posting)
  else r

def scheduleRemote (handle : Option Nat) : SchedulerRun :=
  match handle with
  | none => r
  | some coroutine =>
    if r.scheduler.hasRemoteRoom then
      let posting := r.posting .remoteHandle (some coroutine)
      r.accept posting (r.scheduler.pushGlobal posting)
    else { r with scheduler := r.scheduler.noteRemoteQueueSaturation }

def tryPostRemote (isBound : Bool) : SchedulerRun :=
  if isBound then
    if r.scheduler.hasRemoteRoom then
      let posting := r.posting .remoteCallable none
      r.accept posting (r.scheduler.pushRemoteCallable posting)
    else { r with scheduler := r.scheduler.noteRemoteQueueSaturation }
  else r

/-- A callable begins to run. -/
def execute (posting : Posting) : SchedulerRun :=
  { r with
    executing := some posting
    dispatched := r.dispatched ++ [(posting, .ran)] }

/-- `dispatchHandle`: a coroutine is resumed unless it is at its end. -/
def dispatchHandle (posting : Posting) : SchedulerRun :=
  if posting.coroutine.any (· ∈ r.finished) then
    { r with
      scheduler := { r.scheduler with
        skippedCompletedHandleCount := r.scheduler.skippedCompletedHandleCount + 1 }
      dispatched := r.dispatched ++ [(posting, .skipped)] }
  else r.execute posting

/-- One item has been taken out, and the call goes on there. -/
def took (scheduler : Scheduler) (next : Next) :
    SchedulerRun :=
  { r with scheduler, next, takenThisPass := r.takenThisPass + 1 }

/-- The first section of `runOne`. -/
def oneRemote : SchedulerRun :=
  match r.scheduler.remoteCallables with
  | posting :: rest =>
    (r.took { r.scheduler with
      remoteCallables := rest
      remoteCallableCount := r.scheduler.remoteCallableCount - 1 }
      .idle).execute posting
  | [] => { r with next := .oneLocal }

/-- The local part of `runOne`. -/
def oneLocal : SchedulerRun :=
  match r.scheduler.localCallables with
  | posting :: rest =>
    (r.took { r.scheduler with localCallables := rest } .idle).execute posting
  | [] =>
    match r.scheduler.localQueue with
    | posting :: rest =>
      (r.took { r.scheduler with localQueue := rest } .idle).dispatchHandle posting
    | [] => { r with next := .oneGlobal }

/-- The last section of `runOne`. -/
def oneGlobal : SchedulerRun :=
  match r.scheduler.globalQueue with
  | posting :: rest =>
    (r.took { r.scheduler with
      globalQueue := rest
      globalCount := r.scheduler.globalCount - 1 } .idle).dispatchHandle posting
  | [] => { r with next := .idle }

/-- `drainLocalTasks` is left. After the first one the pass always looks at
the locked queues; later it ends when it is full. -/
def leaveDrain (taken : Nat) (isFirst : Bool) :
    SchedulerRun :=
  if isFirst || decide (taken < kMaximumItemsPerPass) then
    { r with next := .fetch taken }
  else { r with next := .idle }

/-- Both loops of `drainLocalTasks` come to the same decision: within the
budget, callables come first, then the top of the stack. -/
def drain (r : SchedulerRun) (budget drained before : Nat) (isFirst : Bool) :
    SchedulerRun :=
  if drained < budget then
    match r.scheduler.localCallables with
    | posting :: rest =>
      (r.took { r.scheduler with localCallables := rest }
        (.drain budget (drained + 1) before isFirst)).execute posting
    | [] =>
      match r.scheduler.localQueue with
      | posting :: rest =>
        (r.took { r.scheduler with localQueue := rest }
          (.drain budget (drained + 1) before isFirst)).dispatchHandle posting
      | [] => r.leaveDrain (before + drained) isFirst
  else r.leaveDrain (before + drained) isFirst

/-- The section of `runAll` that takes a batch. -/
def fetch (taken : Nat) : SchedulerRun :=
  let (scheduler, callables, handles) := r.scheduler.takeBatch (kMaximumItemsPerPass - taken)
  if callables.isEmpty && handles.isEmpty then { r with scheduler, next := .idle }
  else
    { r with
      scheduler
      next := .batch callables handles (taken + (handles.length + callables.length))
      takenThisPass := r.takenThisPass + (handles.length + callables.length) }

/-- The batch of a pass, callables first. -/
def runBatch (callables handles : List Posting) (taken : Nat) : SchedulerRun :=
  match callables, handles with
  | posting :: rest, handles =>
    { r with next := .batch rest handles taken }.execute posting
  | [], posting :: rest =>
    { r with next := .batch [] rest taken }.dispatchHandle posting
  | [], [] =>
    if taken < kMaximumItemsPerPass then
      { r with next := .drain (kMaximumItemsPerPass - taken) 0 taken false }
    else { r with next := .idle }

/-- What the loop's thread does next, when no item is running. -/
def advance : SchedulerRun :=
  if r.executing.isSome then r
  else
    match r.next with
    | .idle => r
    | .oneRemote => r.oneRemote
    | .oneLocal => r.oneLocal
    | .oneGlobal => r.oneGlobal
    | .drain budget drained before isFirst =>
      r.drain budget drained before isFirst
    | .fetch taken => r.fetch taken
    | .batch callables handles taken => r.runBatch callables handles taken

/-- A call is made by code that is not itself run by the scheduler. -/
def begins (next : Next) : SchedulerRun :=
  if r.executing.isNone && r.next == .idle then
    { r with next, takenThisPass := 0 }
  else r

/-- The item returns or throws; a throw is taken down and nothing else. -/
def itemEnds (threw : Bool) : SchedulerRun :=
  match r.executing with
  | none => r
  | some _ =>
    if threw then
      { r with
        executing := none
        scheduler := { r.scheduler with
          failedDispatchCount := r.scheduler.failedDispatchCount + 1 } }
    else { r with executing := none }

def step : SchedulerEvent → SchedulerRun
  | .schedule handle => r.schedule handle
  | .postLocal isBound => r.postLocal isBound
  | .scheduleRemote handle => r.scheduleRemote handle
  | .tryPostRemote isBound => r.tryPostRemote isBound
  | .coroutineFinishes coroutine =>
    { r with finished := coroutine :: r.finished }
  | .runOne => r.begins .oneRemote
  | .runAll => r.begins (.drain kMaximumItemsPerPass 0 0 true)
  | .advance => r.advance
  | .itemEnds threw => r.itemEnds threw

end SchedulerRun

end AsynGyanis.Core
