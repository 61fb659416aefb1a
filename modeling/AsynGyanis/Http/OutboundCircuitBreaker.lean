import AsynGyanis.Library.SortedMap

/-!
# The outbound circuit breaker

An upstream that is down costs every request the price of finding out. The
breaker keeps an account of each endpoint: closed it counts failures in a
row, open it refuses, and when the time is up it turns half-open and lets a
few requests through to see. Nothing runs on its own: an account is brought
up to date by the call that looks at it.

The table of accounts is bounded. An endpoint that is not in it gets a new
account, closed, and when the table is full that puts out the one that has
gone longest without a report.

Instants and durations are counted in ticks of the steady clock.
-/

namespace AsynGyanis.Http

open Library SortedMap

/-! ## Accounts -/

structure HttpOutboundEndpointKey where
  host : String
  port : Nat := 0
  isTls : Bool := false
  deriving DecidableEq, Repr

/-- TLS first, then the port, then the host. -/
def HttpOutboundEndpointKey.rank (key : HttpOutboundEndpointKey) : Bool ×ₗ Nat ×ₗ String :=
  toLex (key.isTls, toLex (key.port, key.host))

instance : LinearOrder HttpOutboundEndpointKey :=
  LinearOrder.lift' HttpOutboundEndpointKey.rank fun a b h => by
    cases a
    cases b
    simpa [HttpOutboundEndpointKey.rank, and_comm, and_assoc, and_left_comm] using h

namespace OutboundCircuitBreaker

inductive State
  | closed
  | opened
  | halfOpen
  deriving DecidableEq, Repr

structure Configuration where
  consecutiveFailureThreshold : Nat := 5
  openDuration : Int := 30000000000
  halfOpenProbeLimit : Nat := 1
  halfOpenSuccessThreshold : Nat := 1
  /-- No limit when 0. -/
  maximumTrackedEndpoints : Nat := 256
  deriving DecidableEq, Repr

structure EndpointHealth where
  consecutiveFailures : Nat := 0
  state : State := .closed
  openedAt : Int := 0
  inFlightProbes : Nat := 0
  halfOpenSuccesses : Nat := 0
  lastTouched : Int := 0
  deriving DecidableEq, Repr

/-- An opening that is over turns half-open. -/
def advanceLocked (configuration : Configuration) (health : EndpointHealth)
    (now : Int) : EndpointHealth :=
  if health.state = .opened ∧ now - health.openedAt ≥ configuration.openDuration then
    { health with
      state := .halfOpen
      inFlightProbes := 0
      halfOpenSuccesses := 0 }
  else health

/-- `allowRequest` on an account that is up to date. -/
def allowOn (configuration : Configuration) (health : EndpointHealth) : Bool × EndpointHealth :=
  match health.state with
  | .closed => (true, health)
  | .opened => (false, health)
  | .halfOpen =>
    if health.inFlightProbes ≥ max configuration.halfOpenProbeLimit 1 then
      (false, health)
    else
      (true, { health with inFlightProbes := health.inFlightProbes + 1 })

/-- `reportSuccess` on an account that is up to date. -/
def succeedOn (configuration : Configuration) (health : EndpointHealth)
    (now : Int) : EndpointHealth :=
  let health := { health with lastTouched := now, consecutiveFailures := 0 }
  if health.state ≠ .halfOpen then health
  else
    let health := { health with
      inFlightProbes := health.inFlightProbes - 1
      halfOpenSuccesses := health.halfOpenSuccesses + 1 }
    if health.halfOpenSuccesses ≥ max configuration.halfOpenSuccessThreshold 1 then
      { health with
        state := .closed
        halfOpenSuccesses := 0
        inFlightProbes := 0 }
    else health

/-- `reportFailure` on an account that is up to date. -/
def failOn (configuration : Configuration) (health : EndpointHealth) (now : Int) : EndpointHealth :=
  let health := { health with lastTouched := now }
  if health.state = .halfOpen then
    { health with
      inFlightProbes := health.inFlightProbes - 1
      state := .opened
      openedAt := now
      halfOpenSuccesses := 0 }
  else
    let health := { health with
      consecutiveFailures := health.consecutiveFailures + 1 }
    if health.state = .closed ∧ health.consecutiveFailures ≥
        max configuration.consecutiveFailureThreshold 1 then
      { health with state := .opened, openedAt := now }
    else health

end OutboundCircuitBreaker

open OutboundCircuitBreaker

/-! ## The table -/

structure OutboundCircuitBreaker (EndpointKey : Type)
    [LinearOrder EndpointKey] where
  configuration : Configuration := {}
  endpoints : SortedMap EndpointKey EndpointHealth := empty

namespace OutboundCircuitBreaker

variable {EndpointKey : Type} [LinearOrder EndpointKey]
variable {α : Type} (breaker : OutboundCircuitBreaker EndpointKey)
  (endpointKey : EndpointKey) (now : Int)
  (update : EndpointHealth → α × EndpointHealth)

/-- `std::ranges::min_element`: the first of those touched longest ago. -/
def oldestOf : List (EndpointKey × EndpointHealth) → Option (EndpointKey × EndpointHealth)
  | [] => none
  | entry :: rest =>
    match oldestOf rest with
    | none => some entry
    | some other =>
      if other.2.lastTouched < entry.2.lastTouched then some other
      else some entry

/-- The endpoint that has to make room when this one is looked up. -/
def evictedFor (breaker : OutboundCircuitBreaker EndpointKey)
    (endpointKey : EndpointKey) : Option EndpointKey :=
  if (breaker.endpoints.find? endpointKey).isNone ∧
      breaker.configuration.maximumTrackedEndpoints > 0 ∧
      breaker.endpoints.size ≥ breaker.configuration.maximumTrackedEndpoints then
    (oldestOf breaker.endpoints.entries).map (·.1)
  else none

/-- The account, made if there is none, and the table it is in. -/
def healthFor (breaker : OutboundCircuitBreaker EndpointKey)
    (endpointKey : EndpointKey) (now : Int) :
    EndpointHealth × SortedMap EndpointKey EndpointHealth :=
  match breaker.endpoints.find? endpointKey with
  | some existing => (existing, breaker.endpoints)
  | none =>
    let endpoints :=
      match breaker.evictedFor endpointKey with
      | some oldest => breaker.endpoints.erase oldest
      | none => breaker.endpoints
    let created : EndpointHealth := { lastTouched := now }
    (created, endpoints.insert endpointKey created)

/-- The account brought up to date, and the table with `update` of it. -/
def onAccount {α : Type} (breaker : OutboundCircuitBreaker EndpointKey)
    (endpointKey : EndpointKey) (now : Int)
    (update : EndpointHealth → α × EndpointHealth) :
    α × OutboundCircuitBreaker EndpointKey :=
  let (health, endpoints) := breaker.healthFor endpointKey now
  let (answer, health) := update (advanceLocked breaker.configuration health now)
  (answer, { breaker with endpoints := endpoints.insert endpointKey health })

def allowRequest (breaker : OutboundCircuitBreaker EndpointKey)
    (endpointKey : EndpointKey) (now : Int) :
    Bool × OutboundCircuitBreaker EndpointKey :=
  breaker.onAccount endpointKey now (allowOn breaker.configuration)

def reportSuccess (breaker : OutboundCircuitBreaker EndpointKey)
    (endpointKey : EndpointKey) (now : Int) :
    OutboundCircuitBreaker EndpointKey :=
  (breaker.onAccount endpointKey now fun health =>
    ((), succeedOn breaker.configuration health now)).2

def reportFailure (breaker : OutboundCircuitBreaker EndpointKey)
    (endpointKey : EndpointKey) (now : Int) :
    OutboundCircuitBreaker EndpointKey :=
  (breaker.onAccount endpointKey now fun health =>
    ((), failOn breaker.configuration health now)).2

def stateOf (breaker : OutboundCircuitBreaker EndpointKey) (endpointKey : EndpointKey) (now : Int) :
    State × OutboundCircuitBreaker EndpointKey :=
  breaker.onAccount endpointKey now fun health => (health.state, health)

/-! ## One account at a time -/

/-- An endpoint without an account counts as a new one. -/
def accountOf (breaker : OutboundCircuitBreaker EndpointKey)
    (endpointKey : EndpointKey) : EndpointHealth :=
  (breaker.endpoints.find? endpointKey).getD {}

/-- The account as the call at `now` finds it. -/
def currentOf (breaker : OutboundCircuitBreaker EndpointKey)
    (endpointKey : EndpointKey) (now : Int) : EndpointHealth :=
  advanceLocked breaker.configuration (breaker.healthFor endpointKey now).1 now

theorem advanceLocked_cases (configuration : Configuration) (health : EndpointHealth) (now : Int) :
    (health.state = .opened ∧ now - health.openedAt ≥ configuration.openDuration ∧
        advanceLocked configuration health now =
          { health with
            state := .halfOpen
            inFlightProbes := 0
            halfOpenSuccesses := 0 }) ∨
      ((health.state = .opened → now - health.openedAt < configuration.openDuration) ∧
        advanceLocked configuration health now = health) := by
  unfold advanceLocked
  split
  · next hdue => exact .inl ⟨hdue.1, hdue.2, rfl⟩
  · next hwait =>
    exact .inr ⟨fun hopen => lt_of_not_ge fun hdue => hwait ⟨hopen, hdue⟩, rfl⟩

theorem state_healthFor : (breaker.healthFor endpointKey now).1.state =
      (breaker.accountOf endpointKey).state := by
  unfold healthFor accountOf
  cases breaker.endpoints.find? endpointKey with
  | some existing => rfl
  | none => rfl

theorem healthFor_of_ne_closed {breaker : OutboundCircuitBreaker EndpointKey}
    {endpointKey : EndpointKey}
    (h : (breaker.accountOf endpointKey).state ≠ .closed) (now : Int) :
    (breaker.healthFor endpointKey now).1 = breaker.accountOf endpointKey := by
  unfold healthFor
  unfold accountOf at h ⊢
  cases hfind : breaker.endpoints.find? endpointKey with
  | some existing => rfl
  | none =>
    rw [hfind] at h
    exact absurd rfl h

@[simp] theorem configuration_onAccount :
    (breaker.onAccount endpointKey now update).2.configuration = breaker.configuration := rfl

@[simp] theorem accountOf_onAccount_self :
    (breaker.onAccount endpointKey now update).2.accountOf endpointKey =
      (update (breaker.currentOf endpointKey now)).2 := by
  unfold onAccount accountOf
  rw [find?_insert_self]
  rfl

/-- A call on one endpoint leaves the others alone, but for the one that
makes room. -/
theorem accountOf_onAccount_of_ne {endpointKey other : EndpointKey}
    (hne : other ≠ endpointKey) (now : Int) (update : EndpointHealth → α × EndpointHealth) :
    (breaker.onAccount endpointKey now update).2.accountOf other =
      if breaker.evictedFor endpointKey = some other then {}
      else breaker.accountOf other := by
  unfold onAccount accountOf
  rw [find?_insert_of_ne _ _ hne]
  unfold healthFor
  cases hfind : breaker.endpoints.find? endpointKey with
  | some existing =>
    have hnone : breaker.evictedFor endpointKey = none := by
      unfold evictedFor
      rw [hfind, if_neg (fun h => nomatch h.1)]
    rw [hnone, if_neg nofun]
  | none =>
    rw [find?_insert_of_ne _ _ hne]
    cases breaker.evictedFor endpointKey with
    | none => rw [if_neg nofun]
    | some oldest =>
      rw [find?_erase]
      by_cases hother : other = oldest
      · rw [if_pos hother, if_pos (congrArg some hother.symm)]
        rfl
      · rw [if_neg hother, if_neg]
        exact fun h => hother (Option.some.inj h).symm

end OutboundCircuitBreaker

end AsynGyanis.Http
