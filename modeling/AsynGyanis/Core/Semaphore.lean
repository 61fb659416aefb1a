import AsynGyanis.Library.Reach

/-!
# The coroutine semaphore

`Semaphore` hands out a fixed number of permits to coroutines of one event
loop. A request that cannot be served links its awaiter at the tail of a
queue; permits that come back are recorded for the awaiters at the front,
in arrival order, and a revocable ticket is posted to the loop for each of
them. Three moments are therefore apart: the permits are recorded
(`grantFromHead`), the ticket runs and the coroutine takes them
(`await_resume`), and the awaiter leaves the queue, which it also does when
its coroutine is destroyed.

`Semaphore` below is the object itself. `SemaphoreRun` adds what lives
outside of it: the tickets waiting in the loop, the `Permit` objects, and
the permits somebody keeps as a bare number to give them back through
`release`. An awaiter's identity stands for its address. Every count is
bounded by the capacity, so no `std::size_t` can wrap and the counts are
natural numbers. Posting to the loop is taken to succeed; the ticket of an
awaiter may fail to be allocated, as in the source.
-/

namespace AsynGyanis.Core

/-- A queued request. `grantedCount` is what has been recorded for it and
not been taken yet; not zero means served. -/
structure Awaiter where
  id : Nat
  permitCount : Nat
  grantedCount : Nat
deriving DecidableEq, Repr

structure Semaphore where
  capacity : Nat
  availablePermitCount : Nat
  waiters : List Awaiter
deriving DecidableEq, Repr

/-- Why a call was refused with an exception. -/
inductive SemaphoreFailure where
  | permitCountIsZero
  | exceedsCapacity
deriving DecidableEq, Repr

/-- Which way permits come back: `release` may throw, the destructor of a
`Permit` may not. -/
inductive ReturnSource where
  | publicRelease
  | permitReturn
deriving DecidableEq, Repr

namespace Semaphore

def construct (initialPermitCount : Nat) : Semaphore := ⟨initialPermitCount, initialPermitCount, []⟩

variable (s : Semaphore)

def linkAwaiter (awaiter : Awaiter) : Semaphore := { s with waiters := s.waiters ++ [awaiter] }

def unlinkAwaiter (id : Nat) : Semaphore := { s with waiters := s.waiters.filter (·.id ≠ id) }

/-- The walk of `grantFromHead`: what stays available, the queue after the
walk and the awaiters whose tickets are to be posted. It steps over the
awaiters already served and stops at the first one it cannot serve. -/
def grantAlong : Nat → List Awaiter → Nat × List Awaiter × List Nat
  | available, [] => (available, [], [])
  | available, waiter :: rest =>
    if waiter.grantedCount ≠ 0 then
      let (left, queue, tickets) := grantAlong available rest
      (left, waiter :: queue, tickets)
    else if waiter.permitCount > available then
      (available, waiter :: rest, [])
    else
      let (left, queue, tickets) := grantAlong (available - waiter.permitCount) rest
      (left, { waiter with grantedCount := waiter.permitCount } :: queue, waiter.id :: tickets)

def grantFromHead : Semaphore × List Nat :=
  let (left, queue, tickets) := grantAlong s.availablePermitCount s.waiters
  ({ s with availablePermitCount := left, waiters := queue }, tickets)

/-- Permits come back and the queue is settled at once. Too many of them is
an exception for `release` and is cut to the capacity for a `Permit`. -/
def returnPermits (permitCount : Nat) (source : ReturnSource) :
    Except SemaphoreFailure (Semaphore × List Nat) :=
  if permitCount > s.capacity - s.availablePermitCount then
    match source with
    | .publicRelease => .error .exceedsCapacity
    | .permitReturn =>
      .ok ({ s with availablePermitCount := s.capacity }).grantFromHead
  else
    .ok ({ s with
      availablePermitCount := s.availablePermitCount + permitCount }).grantFromHead

/-- The way back through the destructors, which cannot fail. -/
def returnFromDestructor (permitCount : Nat) : Semaphore × List Nat :=
  match s.returnPermits permitCount .permitReturn with
  | .ok r => r
  | .error _ => (s, [])

def tryAcquire (permitCount : Nat) : Except SemaphoreFailure (Semaphore × Option Nat) :=
  if permitCount = 0 then .error .permitCountIsZero
  else if permitCount > s.availablePermitCount then .ok (s, none)
  else
    .ok ({ s with availablePermitCount := s.availablePermitCount - permitCount }, some permitCount)

def release (permitCount : Nat) : Except SemaphoreFailure (Semaphore × List Nat) :=
  if permitCount = 0 then .error .permitCountIsZero
  else s.returnPermits permitCount .publicRelease

/-- `Awaiter::await_ready`: the permits are taken on the spot only when
nobody is linked, whether served or not. -/
def awaitReady (permitCount : Nat) : Option Semaphore :=
  if s.waiters ≠ [] ∨ s.availablePermitCount < permitCount then none
  else
    some { s with availablePermitCount := s.availablePermitCount - permitCount }

/-- `Awaiter::await_resume` of a linked awaiter: it leaves the queue with
what was recorded for it. -/
def awaitResume (awaiter : Awaiter) : Semaphore × Option Nat :=
  if awaiter.grantedCount = 0 then (s.unlinkAwaiter awaiter.id, none)
  else (s.unlinkAwaiter awaiter.id, some awaiter.grantedCount)

/-- `Awaiter::~Awaiter` of a linked awaiter: it leaves the queue and what
was recorded for it goes back. Nothing else looks at the queue here. -/
def destroyAwaiter (awaiter : Awaiter) : Semaphore × List Nat :=
  let unlinked := s.unlinkAwaiter awaiter.id
  if awaiter.grantedCount ≠ 0 then
    unlinked.returnFromDestructor awaiter.grantedCount
  else (unlinked, [])

/-- The linked awaiter at an address, if there still is one. -/
def awaiterAt (id : Nat) : Option Awaiter := s.waiters.find? (·.id = id)

end Semaphore

/-! ## The semaphore in its loop -/

/-- The semaphore with the tickets posted to its loop, oldest first, the
living `Permit` objects, and the permits kept as a number. `nextId` numbers
the requests in order of arrival; `grants` records, in order, the requests
permits were recorded for. -/
structure SemaphoreRun where
  semaphore : Semaphore
  posted : List Nat
  permits : List Nat
  countedPermits : Nat
  nextId : Nat
  grants : List Nat
deriving DecidableEq, Repr

/-- What can happen. `keepAsCount` is the owner of a `Permit` who keeps the
permits as a number instead of the object, which is what `release` is for;
`resumeNext` is the loop running the oldest posted ticket. -/
inductive SemaphoreEvent where
  | acquire (permitCount : Nat) (ticketAllocated : Bool)
  | tryAcquire (permitCount : Nat)
  | release (permitCount : Nat)
  | destroyPermit (index : Nat)
  | keepAsCount (index : Nat)
  | resumeNext
  | destroyWaiter (id : Nat)
deriving DecidableEq, Repr

namespace SemaphoreRun

def start (initialPermitCount : Nat) : SemaphoreRun :=
  ⟨.construct initialPermitCount, [], [], 0, 0, []⟩

variable (r : SemaphoreRun)

/-- The outcome of a call that may have granted: the tickets are posted
behind those already waiting. -/
def granting (outcome : Semaphore × List Nat) :
    SemaphoreRun :=
  { r with semaphore := outcome.1, posted := r.posted ++ outcome.2,
           grants := r.grants ++ outcome.2 }

/-- `co_await semaphore.acquire(n)` up to the point where the coroutine
either goes on or is suspended. -/
def acquire (permitCount : Nat) (ticketAllocated : Bool) :
    SemaphoreRun :=
  if permitCount = 0 then r
  else
    match r.semaphore.awaitReady permitCount with
    | some taken =>
      { r with semaphore := taken, permits := r.permits ++ [permitCount],
               nextId := r.nextId + 1, grants := r.grants ++ [r.nextId] }
    | none =>
      if ticketAllocated then
        { r with semaphore := r.semaphore.linkAwaiter ⟨r.nextId, permitCount, 0⟩,
                 nextId := r.nextId + 1 }
      else { r with nextId := r.nextId + 1 }

def tryAcquire (r : SemaphoreRun) (permitCount : Nat) : SemaphoreRun :=
  match r.semaphore.tryAcquire permitCount with
  | .ok (s, some count) =>
    { r with semaphore := s, permits := r.permits ++ [count] }
  | .ok (_, none) => r
  | .error _ => r

def release (r : SemaphoreRun) (permitCount : Nat) : SemaphoreRun :=
  match r.semaphore.release permitCount with
  | .ok outcome =>
    { r.granting outcome with
      countedPermits := r.countedPermits - permitCount }
  | .error _ => r

/-- `Permit::~Permit`. -/
def destroyPermit (index : Nat) : SemaphoreRun :=
  match r.permits[index]? with
  | none => r
  | some count =>
    { r.granting (r.semaphore.returnFromDestructor count) with
      permits := r.permits.eraseIdx index }

def keepAsCount (index : Nat) : SemaphoreRun :=
  match r.permits[index]? with
  | none => r
  | some count =>
    { r with permits := r.permits.eraseIdx index,
             countedPermits := r.countedPermits + count }

/-- The oldest ticket runs. Its awaiter may be gone, and the ticket revoked
with it. -/
def resumeNext : SemaphoreRun :=
  match r.posted with
  | [] => r
  | id :: rest =>
    match r.semaphore.awaiterAt id with
    | none => { r with posted := rest }
    | some awaiter =>
      match r.semaphore.awaitResume awaiter with
      | (s, none) => { r with semaphore := s, posted := rest }
      | (s, some count) =>
        { r with semaphore := s, posted := rest,
                 permits := r.permits ++ [count] }

def destroyWaiter (id : Nat) : SemaphoreRun :=
  match r.semaphore.awaiterAt id with
  | none => r
  | some awaiter => r.granting (r.semaphore.destroyAwaiter awaiter)

def step : SemaphoreEvent → SemaphoreRun
  | .acquire permitCount ticketAllocated =>
    r.acquire permitCount ticketAllocated
  | .tryAcquire permitCount => r.tryAcquire permitCount
  | .release permitCount => r.release permitCount
  | .destroyPermit index => r.destroyPermit index
  | .keepAsCount index => r.keepAsCount index
  | .resumeNext => r.resumeNext
  | .destroyWaiter id => r.destroyWaiter id

end SemaphoreRun

end AsynGyanis.Core
