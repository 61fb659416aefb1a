import AsynGyanis.Http.OutboundCircuitBreaker
import AsynGyanis.Library.Reach

/-!
# Requests behind the circuit breaker

`Traffic` is a breaker in use. Each request that was allowed is remembered
with the half-open period it was a probe of, if it was one, and with its
outcome once it has reported. The breaker itself remembers neither: a report
names an endpoint and no admission.

That is where it goes wrong. A success that arrives while the endpoint is
half-open counts for the period, also when the request was allowed before
the endpoint opened, and it frees a place no probe has left. An endpoint
that is put out of the table is closed from then on, whatever it was.
`OnTime` says of a call that it does neither. In runs of such calls the
breaker keeps what it promises: nothing is allowed before the time is up, no
more probes are out than the limit, and an endpoint closes on the successes
of its own probes.
-/

namespace AsynGyanis.Http.OutboundCircuitBreaker

open Library List

/-! ## Traffic -/

/-- A request that was allowed. -/
structure Admission (EndpointKey : Type) where
  endpoint : EndpointKey
  /-- The half-open period of the endpoint it is a probe of. -/
  probeOf : Option Nat := none
  /-- Whether it succeeded, once it has reported. -/
  outcome : Option Bool := none
  deriving DecidableEq, Repr

inductive Call (EndpointKey : Type)
  | allowRequest (endpoint : EndpointKey)
  | reportSuccess (admission : Nat)
  | reportFailure (admission : Nat)
  | stateOf (endpoint : EndpointKey)

structure Traffic (EndpointKey : Type) [LinearOrder EndpointKey] where
  breaker : OutboundCircuitBreaker EndpointKey
  now : Int := 0
  admissions : List (Admission EndpointKey) := []
  /-- How many half-open periods each endpoint has had. -/
  periods : EndpointKey → Nat := fun _ => 0
  /-- Which endpoint opened when. -/
  openings : List (EndpointKey × Int) := []

variable {EndpointKey : Type} [LinearOrder EndpointKey]

namespace Traffic

variable (traffic : Traffic EndpointKey)

/-- The half-open period of the endpoint, once it is up to date. -/
def periodAt (endpoint : EndpointKey) (now : Int) : Nat :=
  if (traffic.breaker.accountOf endpoint).state = .opened ∧
      (traffic.breaker.currentOf endpoint now).state = .halfOpen then
    traffic.periods endpoint + 1
  else traffic.periods endpoint

/-- A call on the endpoint has left this breaker. -/
def observe (endpoint : EndpointKey) (now : Int) (breaker : OutboundCircuitBreaker EndpointKey) :
    Traffic EndpointKey :=
  { traffic with
    breaker := breaker
    now := now
    periods := Function.update traffic.periods endpoint (traffic.periodAt endpoint now)
    openings :=
      if (traffic.breaker.currentOf endpoint now).state ≠ .opened ∧
          (breaker.accountOf endpoint).state = .opened then
        traffic.openings ++ [(endpoint, now)]
      else traffic.openings }

def recordAdmission (admission : Admission EndpointKey) : Traffic EndpointKey :=
  { traffic with admissions := traffic.admissions ++ [admission] }

def answer (index : Nat) (admission : Admission EndpointKey) (outcome : Bool) :
    Traffic EndpointKey :=
  { traffic with
    admissions := traffic.admissions.set index { admission with outcome := some outcome } }

def step : Int × Call EndpointKey → Traffic EndpointKey
  | (now, .allowRequest endpoint) =>
    let (isAllowed, breaker) := traffic.breaker.allowRequest endpoint now
    let after := traffic.observe endpoint now breaker
    if isAllowed then
      after.recordAdmission
        { endpoint := endpoint
          probeOf :=
            if (traffic.breaker.currentOf endpoint now).state = .halfOpen then
              some (traffic.periodAt endpoint now)
            else none }
    else after
  | (now, .reportSuccess index) =>
    match traffic.admissions[index]? with
    | none => traffic
    | some admission =>
      (traffic.observe admission.endpoint now
        (traffic.breaker.reportSuccess admission.endpoint now)).answer index admission true
  | (now, .reportFailure index) =>
    match traffic.admissions[index]? with
    | none => traffic
    | some admission =>
      (traffic.observe admission.endpoint now
        (traffic.breaker.reportFailure admission.endpoint now)).answer index admission false
  | (now, .stateOf endpoint) =>
    traffic.observe endpoint now (traffic.breaker.stateOf endpoint now).2

/-- Time does not go back, and a request reports once. -/
def Valid (event : Int × Call EndpointKey) :
    Prop :=
  traffic.now ≤ event.1 ∧
    match event.2 with
    | .allowRequest _ | .stateOf _ => True
    | .reportSuccess index | .reportFailure index =>
      traffic.admissions[index]?.map (·.outcome) = some none

instance (traffic : Traffic EndpointKey) : ∀ event, Decidable (traffic.Valid event)
  | (now, .allowRequest _) | (now, .stateOf _) =>
    inferInstanceAs (Decidable (traffic.now ≤ now ∧ True))
  | (now, .reportSuccess index) | (now, .reportFailure index) =>
    inferInstanceAs (Decidable (traffic.now ≤ now ∧
      traffic.admissions[index]?.map (·.outcome) = some none))

/-- The endpoint a call is about. -/
def endpointOf : Call EndpointKey → Option EndpointKey
  | .allowRequest endpoint | .stateOf endpoint => some endpoint
  | .reportSuccess index | .reportFailure index =>
    traffic.admissions[index]?.map (·.endpoint)

/-- No endpoint is put out that is not closed, and no success reaches an
endpoint that is half-open but from a probe of that period. -/
structure OnTime (traffic : Traffic EndpointKey)
    (event : Int × Call EndpointKey) : Prop where
  room : ∀ endpoint ∈ traffic.endpointOf event.2, ∀ other ∈ traffic.breaker.evictedFor endpoint,
      (traffic.breaker.accountOf other).state = .closed
  success :
    match event.2 with
    | .reportSuccess index =>
      ∀ admission ∈ traffic.admissions[index]?,
        (traffic.breaker.currentOf admission.endpoint event.1).state = .halfOpen →
        admission.probeOf = some (traffic.periodAt admission.endpoint event.1)
    | .allowRequest _ | .reportFailure _ | .stateOf _ => True

instance (traffic : Traffic EndpointKey) : ∀ event, Decidable (traffic.OnTime event)
  | (now, .reportSuccess index) =>
    decidable_of_iff
      ((∀ endpoint ∈ traffic.endpointOf (.reportSuccess index),
          ∀ other ∈ traffic.breaker.evictedFor endpoint,
            (traffic.breaker.accountOf other).state = .closed) ∧
        ∀ admission ∈ traffic.admissions[index]?,
          (traffic.breaker.currentOf admission.endpoint now).state = .halfOpen →
          admission.probeOf = some (traffic.periodAt admission.endpoint now))
      ⟨fun h => ⟨h.1, h.2⟩, fun h => ⟨h.room, h.success⟩⟩
  | (_, .allowRequest endpoint) =>
    decidable_of_iff
      (∀ other ∈ traffic.breaker.evictedFor endpoint,
        (traffic.breaker.accountOf other).state = .closed)
      ⟨fun h => ⟨fun _ hmem => Option.some.inj hmem ▸ h, trivial⟩, fun h => h.room endpoint rfl⟩
  | (_, .stateOf endpoint) =>
    decidable_of_iff
      (∀ other ∈ traffic.breaker.evictedFor endpoint,
        (traffic.breaker.accountOf other).state = .closed)
      ⟨fun h => ⟨fun _ hmem => Option.some.inj hmem ▸ h, trivial⟩, fun h => h.room endpoint rfl⟩
  | (_, .reportFailure index) =>
    decidable_of_iff
      (∀ endpoint ∈ traffic.endpointOf (.reportFailure index),
        ∀ other ∈ traffic.breaker.evictedFor endpoint,
          (traffic.breaker.accountOf other).state = .closed)
      ⟨fun h => ⟨h, trivial⟩, fun h => h.room⟩

/-- The probes of a period that are still out. -/
def probesOut (endpoint : EndpointKey) (period : Nat) : Nat :=
  traffic.admissions.countP fun admission =>
    admission.endpoint = endpoint ∧ admission.probeOf = some period ∧ admission.outcome = none

/-- The probes of a period that have succeeded. -/
def probesSucceeded (endpoint : EndpointKey) (period : Nat) : Nat :=
  traffic.admissions.countP fun admission =>
    admission.endpoint = endpoint ∧ admission.probeOf = some period ∧ admission.outcome = some true

end Traffic

/-! ## What a call does to its endpoint -/

variable (configuration : Configuration) (now : Int) (health : EndpointHealth)

theorem currentOf_cases (breaker : OutboundCircuitBreaker EndpointKey)
    (endpoint : EndpointKey) (now : Int) :
    ((breaker.accountOf endpoint).state = .opened ∧
        now - (breaker.accountOf endpoint).openedAt ≥ breaker.configuration.openDuration ∧
        (breaker.currentOf endpoint now).state = .halfOpen ∧
        (breaker.currentOf endpoint now).inFlightProbes = 0 ∧
        (breaker.currentOf endpoint now).halfOpenSuccesses = 0) ∨
      ((breaker.currentOf endpoint now).state = (breaker.accountOf endpoint).state ∧
        ((breaker.accountOf endpoint).state ≠ .closed →
          breaker.currentOf endpoint now = breaker.accountOf endpoint) ∧
        ((breaker.accountOf endpoint).state = .opened →
          now - (breaker.accountOf endpoint).openedAt < breaker.configuration.openDuration)) := by
  have hstate := breaker.state_healthFor endpoint now
  have hsame : (breaker.accountOf endpoint).state ≠ .closed →
      (breaker.healthFor endpoint now).1 = breaker.accountOf endpoint :=
    fun h => healthFor_of_ne_closed h now
  simp only [currentOf]
  rcases advanceLocked_cases breaker.configuration (breaker.healthFor endpoint now).1 now with
    ⟨hopen, hdue, hadvance⟩ | ⟨hwait, hadvance⟩
  · rw [hstate] at hopen
    rw [hsame (by rw [hopen]; decide)] at hdue
    rw [hadvance]
    exact .inl ⟨hopen, hdue, rfl, rfl, rfl⟩
  rw [hadvance]
  refine .inr ⟨hstate, hsame, fun hopen => ?_⟩
  rw [← hsame (by rw [hopen]; decide)]
  exact hwait (hstate.trans hopen)

/-- What an update may make of the state of an account. -/
structure Moves (now : Int) (current after : EndpointHealth) : Prop where
  stays : current.state = .opened → after.state = .opened ∧ after.openedAt = current.openedAt
  opens : current.state ≠ .opened → after.state = .opened →
    after.openedAt = now
  enters : current.state ≠ .halfOpen → after.state ≠ .halfOpen

theorem Moves.refl : Moves now health health := ⟨fun h => ⟨h, rfl⟩, fun h h' => absurd h' h, id⟩

theorem allowOn_cases : (health.state = .closed ∧ allowOn configuration health = (true, health)) ∨
      (health.state ≠ .closed ∧ allowOn configuration health = (false, health)) ∨
      (health.state = .halfOpen ∧ health.inFlightProbes < max configuration.halfOpenProbeLimit 1 ∧
        allowOn configuration health = (true, { health with
          inFlightProbes := health.inFlightProbes + 1 })) := by
  simp only [allowOn]
  cases hstate : health.state with
  | closed => exact .inl ⟨rfl, rfl⟩
  | opened => exact .inr (.inl ⟨nofun, rfl⟩)
  | halfOpen =>
    dsimp only
    split
    · exact .inr (.inl ⟨nofun, rfl⟩)
    · next hroom => exact .inr (.inr ⟨rfl, Nat.lt_of_not_le hroom, rfl⟩)

theorem moves_allowOn : Moves now health (allowOn configuration health).2 ∧
      (allowOn configuration health).2.state = health.state := by
  rcases allowOn_cases configuration health with
    ⟨_, h⟩ | ⟨_, h⟩ | ⟨hhalf, _, h⟩
  · rw [h]
    exact ⟨.refl now health, rfl⟩
  · rw [h]
    exact ⟨.refl now health, rfl⟩
  rw [h]
  refine ⟨⟨?_, ?_, id⟩, rfl⟩
  · intro hopen
    exact nomatch hhalf.symm.trans hopen
  · intro hopen hopen'
    exact absurd hopen' hopen

theorem succeedOn_cases (now : Int) : (health.state ≠ .halfOpen ∧
        (succeedOn configuration health now).state = health.state ∧
        (succeedOn configuration health now).openedAt = health.openedAt) ∨
      (health.state = .halfOpen ∧ (succeedOn configuration health now).state = .closed ∧
        max configuration.halfOpenSuccessThreshold 1 ≤ health.halfOpenSuccesses + 1) ∨
      (health.state = .halfOpen ∧ (succeedOn configuration health now).state = .halfOpen ∧
        (succeedOn configuration health now).inFlightProbes = health.inFlightProbes - 1 ∧
        (succeedOn configuration health now).halfOpenSuccesses = health.halfOpenSuccesses + 1) := by
  simp only [succeedOn]
  by_cases hhalf : health.state = .halfOpen
  · rw [if_neg (not_not.mpr hhalf)]
    split
    · next hclose => exact .inr (.inl ⟨hhalf, rfl, hclose⟩)
    · exact .inr (.inr ⟨hhalf, hhalf, rfl, rfl⟩)
  · rw [if_pos hhalf]
    exact .inl ⟨hhalf, rfl, rfl⟩

theorem moves_succeedOn (now : Int) : Moves now health (succeedOn configuration health now) := by
  rcases succeedOn_cases configuration health now with
    ⟨hhalf, hstate, hopened⟩ | ⟨hhalf, hstate, -⟩ | ⟨hhalf, hstate, -⟩
  · refine ⟨fun h => ⟨hstate.trans h, hopened⟩, ?_, ?_⟩
    · intro hopen hopen'
      exact absurd (hstate.symm.trans hopen') hopen
    · rw [hstate]
      exact id
  · refine ⟨?_, ?_, fun h => absurd hhalf h⟩
    · intro hopen
      exact nomatch hhalf.symm.trans hopen
    · intro _ hopen
      exact nomatch hstate.symm.trans hopen
  · refine ⟨?_, ?_, fun h => absurd hhalf h⟩
    · intro hopen
      exact nomatch hhalf.symm.trans hopen
    · intro _ hopen
      exact nomatch hstate.symm.trans hopen

theorem failOn_cases (now : Int) : (health.state ≠ .opened ∧
        (failOn configuration health now).state = .opened ∧
        (failOn configuration health now).openedAt = now) ∨
      (health.state ≠ .halfOpen ∧ (failOn configuration health now).state = health.state ∧
        (failOn configuration health now).openedAt = health.openedAt) := by
  simp only [failOn]
  by_cases hhalf : health.state = .halfOpen
  · rw [if_pos hhalf]
    exact .inl ⟨by rw [hhalf]; decide, rfl, rfl⟩
  rw [if_neg hhalf]
  split
  · next hopens =>
    exact .inl ⟨by rw [hopens.1]; decide, rfl, rfl⟩
  · exact .inr ⟨hhalf, rfl, rfl⟩

theorem moves_failOn (now : Int) : Moves now health (failOn configuration health now) := by
  rcases failOn_cases configuration health now with
    ⟨hopen, hstate, hopened⟩ | ⟨hhalf, hstate, hopened⟩
  · refine ⟨fun h => absurd h hopen, fun _ _ => hopened, ?_⟩
    rw [hstate]
    exact fun _ => nofun
  refine ⟨fun h => ⟨hstate.trans h, hopened⟩, ?_, ?_⟩
  · intro hopen hopen'
    exact absurd (hstate.symm.trans hopen') hopen
  · rw [hstate]
    exact id

/-! ## Counting probes -/

variable {admission : Admission EndpointKey} {index : Nat}
variable {traffic : Traffic EndpointKey}

namespace Traffic

theorem probesOut_recordAdmission (traffic : Traffic EndpointKey)
    (admission : Admission EndpointKey) (endpoint : EndpointKey) (period : Nat) :
    (traffic.recordAdmission admission).probesOut endpoint period =
      traffic.probesOut endpoint period +
        if admission.endpoint = endpoint ∧ admission.probeOf = some period ∧
          admission.outcome = none then 1 else 0 := by
  simp [probesOut, recordAdmission]

theorem probesSucceeded_recordAdmission (traffic : Traffic EndpointKey)
    (hnew : admission.outcome = none) (endpoint : EndpointKey) (period : Nat) :
    (traffic.recordAdmission admission).probesSucceeded endpoint period =
      traffic.probesSucceeded endpoint period := by
  simp only [probesSucceeded, recordAdmission, countP_append,
    countP_singleton, decide_eq_true_eq, hnew]
  simp

theorem probesOut_answer (hget : traffic.admissions[index]? = some admission)
    (hnew : admission.outcome = none) (outcome : Bool) (endpoint : EndpointKey) (period : Nat) :
    (traffic.answer index admission outcome).probesOut endpoint period =
      traffic.probesOut endpoint period -
        if admission.endpoint = endpoint ∧ admission.probeOf = some period
          then 1 else 0 := by
  obtain ⟨hlt, hat⟩ := List.getElem?_eq_some_iff.mp hget
  simp only [probesOut, answer, countP_set hlt, hat, hnew]
  simp

theorem probesSucceeded_answer (hget : traffic.admissions[index]? = some admission)
    (hnew : admission.outcome = none) (outcome : Bool) (endpoint : EndpointKey) (period : Nat) :
    (traffic.answer index admission outcome).probesSucceeded endpoint period =
      traffic.probesSucceeded endpoint period +
        if admission.endpoint = endpoint ∧ admission.probeOf = some period ∧
          outcome = true then 1 else 0 := by
  obtain ⟨hlt, hat⟩ := List.getElem?_eq_some_iff.mp hget
  simp only [probesSucceeded, answer, countP_set hlt, hat, hnew]
  simp

end Traffic

/-! ## The invariant -/

namespace Traffic

variable {α : Type} {traffic : Traffic EndpointKey} {endpoint : EndpointKey}

/-- While half-open the account of the endpoint agrees with the traffic. -/
def Tallied (traffic : Traffic EndpointKey) (endpoint : EndpointKey) : Prop :=
  (traffic.breaker.accountOf endpoint).state = .halfOpen →
    (traffic.breaker.accountOf endpoint).inFlightProbes =
        traffic.probesOut endpoint (traffic.periods endpoint) ∧
      (traffic.breaker.accountOf endpoint).inFlightProbes ≤
        max traffic.breaker.configuration.halfOpenProbeLimit 1 ∧
      (traffic.breaker.accountOf endpoint).halfOpenSuccesses =
        traffic.probesSucceeded endpoint (traffic.periods endpoint)

theorem tallied_iff {health : EndpointHealth} {period : Nat}
    (hhealth : traffic.breaker.accountOf endpoint = health)
    (hperiod : traffic.periods endpoint = period) :
    traffic.Tallied endpoint ↔ (health.state = .halfOpen →
      health.inFlightProbes = traffic.probesOut endpoint period ∧ health.inFlightProbes ≤
          max traffic.breaker.configuration.halfOpenProbeLimit 1 ∧
        health.halfOpenSuccesses = traffic.probesSucceeded endpoint period) := by
  subst hhealth hperiod
  rfl

structure Inv (traffic : Traffic EndpointKey) : Prop where
  opening : ∀ opening ∈ traffic.openings,
    opening.2 + traffic.breaker.configuration.openDuration ≤ traffic.now ∨
      ((traffic.breaker.accountOf opening.1).state = .opened ∧
        opening.2 ≤ (traffic.breaker.accountOf opening.1).openedAt)
  tallied : ∀ endpoint, traffic.Tallied endpoint
  /-- No probe is of a period to come. -/
  begun : ∀ admission ∈ traffic.admissions, ∀ period, admission.probeOf = some period →
      period ≤ traffic.periods admission.endpoint

theorem Inv.next_period (h : traffic.Inv) (endpoint : EndpointKey) :
    traffic.probesOut endpoint (traffic.periods endpoint + 1) = 0 ∧
      traffic.probesSucceeded endpoint (traffic.periods endpoint + 1) = 0 := by
  have hnone : ∀ admission ∈ traffic.admissions, admission.endpoint = endpoint →
        admission.probeOf ≠ some (traffic.periods endpoint + 1) := by
    intro admission hmem hsame hprobe
    have hle := h.begun admission hmem _ hprobe
    rw [hsame] at hle
    omega
  constructor
  · refine countP_eq_zero.mpr fun admission hmem hcount => ?_
    have hcount := of_decide_eq_true hcount
    exact hnone admission hmem hcount.1 hcount.2.1
  refine countP_eq_zero.mpr fun admission hmem hcount => ?_
  have hcount := of_decide_eq_true hcount
  exact hnone admission hmem hcount.1 hcount.2.1

variable {now} {endpoint : EndpointKey}

/-- The account a call finds agrees with the traffic as well, in the period
that may just have begun. -/
theorem Inv.current (h : traffic.Inv)
    (hhalf : (traffic.breaker.currentOf endpoint now).state = .halfOpen) :
    (traffic.breaker.currentOf endpoint now).inFlightProbes =
        traffic.probesOut endpoint (traffic.periodAt endpoint now) ∧
      (traffic.breaker.currentOf endpoint now).inFlightProbes ≤
        max traffic.breaker.configuration.halfOpenProbeLimit 1 ∧
      (traffic.breaker.currentOf endpoint now).halfOpenSuccesses =
        traffic.probesSucceeded endpoint (traffic.periodAt endpoint now) := by
  rcases currentOf_cases traffic.breaker endpoint now with
    ⟨hopen, -, -, hprobes, hsuccesses⟩ | ⟨hstate, hsame, -⟩
  · obtain ⟨hout, hsucceeded⟩ := h.next_period endpoint
    rw [periodAt, if_pos ⟨hopen, hhalf⟩, hprobes, hsuccesses, hout, hsucceeded]
    exact ⟨rfl, Nat.zero_le _, rfl⟩
  rw [hstate] at hhalf
  rw [periodAt, if_neg (fun hopen => by
    exact nomatch hopen.1.symm.trans hhalf),
    hsame (by rw [hhalf]; decide)]
  exact h.tallied endpoint hhalf

/-- What a call leaves alone, and what it makes of the openings. -/
structure Follows (before after : Traffic EndpointKey)
    (endpoint : EndpointKey) (now : Int) : Prop where
  opening : ∀ opening ∈ after.openings,
    opening.2 + after.breaker.configuration.openDuration ≤ after.now ∨
      ((after.breaker.accountOf opening.1).state = .opened ∧
        opening.2 ≤ (after.breaker.accountOf opening.1).openedAt)
  others : ∀ other, other ≠ endpoint → after.Tallied other
  periods : after.periods = Function.update before.periods endpoint (before.periodAt endpoint now)
  admissions : after.admissions = before.admissions

theorem le_periodAt (traffic : Traffic EndpointKey) (endpoint : EndpointKey)
    (now : Int) : traffic.periods endpoint ≤ traffic.periodAt endpoint now := by
  rw [periodAt]
  split
  · exact Nat.le_succ _
  · exact le_refl _

theorem Inv.observe (h : traffic.Inv) (hnow : traffic.now ≤ now)
    (hroom : ∀ other ∈ traffic.breaker.evictedFor endpoint,
      (traffic.breaker.accountOf other).state = .closed)
    (update : EndpointHealth → α × EndpointHealth)
    (hmoves : Moves now (traffic.breaker.currentOf endpoint now)
      (update (traffic.breaker.currentOf endpoint now)).2) :
    Follows traffic (traffic.observe endpoint now
      (traffic.breaker.onAccount endpoint now update).2) endpoint now := by
  have hself := accountOf_onAccount_self traffic.breaker endpoint now update
  -- an account that is not closed is not put out
  have hother : ∀ other, other ≠ endpoint → (traffic.breaker.accountOf other).state ≠ .closed →
      (traffic.breaker.onAccount endpoint now update).2.accountOf other =
        traffic.breaker.accountOf other := by
    intro other hne hopen
    rw [accountOf_onAccount_of_ne traffic.breaker hne, if_neg]
    exact fun hevicted => hopen (hroom other hevicted)
  refine ⟨?_, ?_, rfl, rfl⟩
  · intro opening hmem
    have hcase : opening ∈ traffic.openings ∨ opening = (endpoint, now) ∧
        (traffic.breaker.currentOf endpoint now).state ≠ .opened ∧
        ((traffic.breaker.onAccount endpoint now update).2.accountOf endpoint).state = .opened := by
      simp only [Traffic.observe] at hmem
      split at hmem
      · next hopens =>
        rcases mem_append.mp hmem with hmem | hmem
        · exact .inl hmem
        · exact .inr ⟨mem_singleton.mp hmem, hopens⟩
      · exact .inl hmem
    rcases hcase with hold | ⟨rfl, hbefore, hafter⟩
    · rcases h.opening opening hold with hpast | ⟨hopen, hsince⟩
      · exact .inl (le_trans hpast hnow)
      by_cases hsame : opening.1 = endpoint
      · rw [hsame] at hopen hsince
        rcases currentOf_cases traffic.breaker endpoint now with
          ⟨-, hdue, -⟩ | ⟨-, hkept, -⟩
        · refine .inl ?_
          show opening.2 + traffic.breaker.configuration.openDuration ≤ now
          omega
        have hcurrent := hkept (by rw [hopen]; decide)
        obtain ⟨hstays, hat⟩ := hmoves.stays (by rw [hcurrent, hopen])
        refine .inr ?_
        rw [hsame]
        show ((traffic.breaker.onAccount endpoint now update).2.accountOf
          endpoint).state = .opened ∧ _ ≤
            ((traffic.breaker.onAccount endpoint now update).2.accountOf endpoint).openedAt
        rw [hself]
        refine ⟨hstays, ?_⟩
        rw [hat, hcurrent]
        exact hsince
      · refine .inr ?_
        show ((traffic.breaker.onAccount endpoint now update).2.accountOf
          opening.1).state = .opened ∧ _ ≤
            ((traffic.breaker.onAccount endpoint now update).2.accountOf opening.1).openedAt
        rw [hother _ hsame (by rw [hopen]; decide)]
        exact ⟨hopen, hsince⟩
    · refine .inr ⟨hafter, ?_⟩
      have hat := hmoves.opens hbefore (by rw [← hself]; exact hafter)
      show now ≤ ((traffic.breaker.onAccount endpoint now update).2.accountOf endpoint).openedAt
      rw [hself, hat]
  · intro other hne hhalf
    have hbefore : (traffic.breaker.accountOf other).state = .halfOpen := by
      have hhalf' : ((traffic.breaker.onAccount endpoint now update).2.accountOf
        other).state = .halfOpen := hhalf
      rw [accountOf_onAccount_of_ne traffic.breaker hne] at hhalf'
      split at hhalf'
      · exact nomatch hhalf'
      · exact hhalf'
    have hsame := hother other hne (by rw [hbefore]; decide)
    have htallied := h.tallied other hbefore
    simp only [Traffic.observe, hsame, configuration_onAccount, Function.update_of_ne hne]
    exact htallied

/-! ## Steps -/

theorem Follows.begun {before after : Traffic EndpointKey}
    (h : Follows before after endpoint now) (hbefore : before.Inv) :
    ∀ admission ∈ after.admissions, ∀ period, admission.probeOf = some period →
        period ≤ after.periods admission.endpoint := by
  intro admission hmem period hprobe
  rw [h.admissions] at hmem
  rw [h.periods]
  have hle := hbefore.begun admission hmem period hprobe
  by_cases hsame : admission.endpoint = endpoint
  · rw [hsame, Function.update_self]
    rw [hsame] at hle
    exact le_trans hle (before.le_periodAt endpoint now)
  · rw [Function.update_of_ne hsame]
    exact hle

theorem Follows.recordAdmission {before after : Traffic EndpointKey}
    (h : Follows before after endpoint now) (hbefore : before.Inv)
    (hendpoint : admission.endpoint = endpoint) (hnew : admission.outcome = none)
    (hprobe : ∀ period, admission.probeOf = some period → period = before.periodAt endpoint now)
    (htallied : (after.recordAdmission admission).Tallied endpoint) :
    (after.recordAdmission admission).Inv := by
  refine ⟨h.opening, fun other => ?_, ?_⟩
  · by_cases hsame : other = endpoint
    · rw [hsame]
      exact htallied
    have hother := h.others other hsame
    simp only [Tallied] at hother ⊢
    rw [probesOut_recordAdmission,
      probesSucceeded_recordAdmission after hnew, if_neg (fun hcase =>
      hsame (hcase.1.symm.trans hendpoint))]
    exact hother
  · intro admission' hmem period hperiod
    rcases mem_append.mp hmem with hmem | hmem
    · exact h.begun hbefore admission' hmem period hperiod
    cases mem_singleton.mp hmem
    show period ≤ after.periods admission.endpoint
    rw [h.periods, hendpoint, Function.update_self, hprobe period hperiod]

theorem Follows.answer {before after : Traffic EndpointKey}
    (h : Follows before after admission.endpoint now) (hbefore : before.Inv)
    (hget : after.admissions[index]? = some admission)
    (hnew : admission.outcome = none) (outcome : Bool)
    (htallied : (after.answer index admission outcome).Tallied admission.endpoint) :
    (after.answer index admission outcome).Inv := by
  refine ⟨h.opening, fun other => ?_, ?_⟩
  · by_cases hsame : other = admission.endpoint
    · rw [hsame]
      exact htallied
    have hother := h.others other hsame
    simp only [Tallied] at hother ⊢
    rw [probesOut_answer hget hnew, probesSucceeded_answer hget hnew,
      if_neg (fun hcase => hsame hcase.1.symm),
      if_neg (fun hcase => hsame hcase.1.symm)]
    exact hother
  · intro admission' hmem period hperiod
    rcases mem_or_eq_of_mem_set hmem with hmem | rfl
    · exact h.begun hbefore admission' hmem period hperiod
    · exact h.begun hbefore admission (mem_of_getElem? hget) period hperiod

theorem Inv.observe_same (h : traffic.Inv) (update : EndpointHealth → α × EndpointHealth)
    (hsame : (update (traffic.breaker.currentOf endpoint now)).2 =
      traffic.breaker.currentOf endpoint now) : (traffic.observe endpoint now
      (traffic.breaker.onAccount endpoint now update).2).Tallied endpoint := by
  have hself := accountOf_onAccount_self traffic.breaker endpoint now update
  rw [hsame] at hself
  exact (tallied_iff hself (Function.update_self ..)).mpr h.current

theorem step_allowRequest (traffic : Traffic EndpointKey) (now : Int) (endpoint : EndpointKey) :
    traffic.step (now, .allowRequest endpoint) =
      if (allowOn traffic.breaker.configuration (traffic.breaker.currentOf endpoint now)).1 then
        (traffic.observe endpoint now (traffic.breaker.onAccount endpoint now
          (allowOn traffic.breaker.configuration)).2).recordAdmission
          { endpoint := endpoint
            probeOf :=
              if (traffic.breaker.currentOf endpoint now).state =
                .halfOpen then some (traffic.periodAt endpoint now)
              else none }
      else
        traffic.observe endpoint now (traffic.breaker.onAccount endpoint now
          (allowOn traffic.breaker.configuration)).2 := rfl

theorem Inv.allowRequest (h : traffic.Inv) (hvalid : traffic.Valid (now, .allowRequest endpoint))
    (hontime : traffic.OnTime (now, .allowRequest endpoint)) :
    (traffic.step (now, .allowRequest endpoint)).Inv := by
  have hroom := hontime.room endpoint rfl
  have hfollows := h.observe hvalid.1 hroom (allowOn traffic.breaker.configuration)
    (moves_allowOn traffic.breaker.configuration now _).1
  have hself := accountOf_onAccount_self traffic.breaker endpoint now
    (allowOn traffic.breaker.configuration)
  rw [step_allowRequest]
  rcases allowOn_cases traffic.breaker.configuration (traffic.breaker.currentOf endpoint now) with
    ⟨hstate, hallow⟩ | ⟨hstate, hallow⟩ | ⟨hstate, hplace, hallow⟩
  · rw [hallow, if_pos rfl, if_neg (by rw [hstate]; decide)]
    refine hfollows.recordAdmission h rfl rfl nofun ?_
    refine (tallied_iff hself (Function.update_self ..)).mpr fun hhalf => ?_
    rw [hallow] at hhalf
    exact nomatch hstate.symm.trans hhalf
  · rw [hallow, if_neg nofun]
    refine ⟨hfollows.opening, fun other => ?_, hfollows.begun h⟩
    by_cases hsame : other = endpoint
    · rw [hsame]
      exact h.observe_same _ (by rw [hallow])
    · exact hfollows.others other hsame
  · rw [hallow, if_pos rfl, if_pos hstate]
    refine hfollows.recordAdmission h rfl rfl ?_ ?_
    · rintro period ⟨⟩
      rfl
    obtain ⟨hout, -, hsucceeded⟩ := h.current hstate
    rw [hallow] at hself
    refine (tallied_iff hself (Function.update_self ..)).mpr fun _ => ?_
    rw [probesOut_recordAdmission, probesSucceeded_recordAdmission _ rfl, if_pos ⟨rfl, rfl, rfl⟩]
    exact ⟨congrArg (· + 1) hout, hplace, hsucceeded⟩

theorem Inv.stateOf (h : traffic.Inv) (hvalid : traffic.Valid (now, .stateOf endpoint))
    (hontime : traffic.OnTime (now, .stateOf endpoint)) :
    (traffic.step (now, .stateOf endpoint)).Inv := by
  have hfollows := h.observe hvalid.1 (hontime.room endpoint rfl)
    (fun health => (health.state, health)) (.refl now _)
  refine ⟨hfollows.opening, fun other => ?_, hfollows.begun h⟩
  by_cases hsame : other = endpoint
  · rw [hsame]
    exact h.observe_same _ rfl
  · exact hfollows.others other hsame

theorem Inv.reportSuccess (h : traffic.Inv) (hvalid : traffic.Valid (now, .reportSuccess index))
    (hontime : traffic.OnTime (now, .reportSuccess index)) :
    (traffic.step (now, .reportSuccess index)).Inv := by
  obtain ⟨hnow, hunanswered⟩ := hvalid
  obtain ⟨admission, hget, hnew⟩ := Option.map_eq_some_iff.mp hunanswered
  have hroom := hontime.room admission.endpoint (by
    simp only [endpointOf, hget, Option.map_some, Option.mem_def])
  have hprobe := hontime.success admission hget
  have hfollows := h.observe hnow hroom
    (fun health => ((), succeedOn traffic.breaker.configuration health now))
    (moves_succeedOn traffic.breaker.configuration _ now)
  have hself := accountOf_onAccount_self traffic.breaker admission.endpoint now
    fun health => ((), succeedOn traffic.breaker.configuration health now)
  simp only [Traffic.step, hget, OutboundCircuitBreaker.reportSuccess]
  refine hfollows.answer h hget hnew true ?_
  refine (tallied_iff hself (Function.update_self ..)).mpr fun hhalf => ?_
  rcases succeedOn_cases traffic.breaker.configuration
      (traffic.breaker.currentOf admission.endpoint now) now with
    ⟨hstate, hafter, -⟩ | ⟨-, hafter, -⟩ | ⟨hstate, -, hprobes, hsuccesses⟩
  · exact absurd (hafter.symm.trans hhalf) hstate
  · exact nomatch hafter.symm.trans hhalf
  obtain ⟨hout, hlimit, hsucceeded⟩ := h.current hstate
  have hget' : (traffic.observe admission.endpoint now
      (traffic.breaker.onAccount admission.endpoint now fun health =>
        ((), succeedOn traffic.breaker.configuration health
          now)).2).admissions[index]? = some admission := hget
  rw [probesOut_answer hget' hnew, probesSucceeded_answer hget' hnew,
    if_pos ⟨rfl, hprobe hstate⟩, if_pos ⟨rfl, hprobe hstate, rfl⟩]
  refine ⟨?_, ?_, ?_⟩
  · exact hprobes.trans (congrArg (· - 1) hout)
  · exact le_trans (le_of_eq hprobes) (le_trans (Nat.sub_le _ _) hlimit)
  · exact hsuccesses.trans (congrArg (· + 1) hsucceeded)

theorem Inv.reportFailure (h : traffic.Inv) (hvalid : traffic.Valid (now, .reportFailure index))
    (hontime : traffic.OnTime (now, .reportFailure index)) :
    (traffic.step (now, .reportFailure index)).Inv := by
  obtain ⟨hnow, hunanswered⟩ := hvalid
  obtain ⟨admission, hget, hnew⟩ := Option.map_eq_some_iff.mp hunanswered
  have hroom := hontime.room admission.endpoint (by
    simp only [endpointOf, hget, Option.map_some, Option.mem_def])
  have hfollows := h.observe hnow hroom
    (fun health => ((), failOn traffic.breaker.configuration health now))
    (moves_failOn traffic.breaker.configuration _ now)
  have hself := accountOf_onAccount_self traffic.breaker admission.endpoint now
    fun health => ((), failOn traffic.breaker.configuration health now)
  simp only [Traffic.step, hget, OutboundCircuitBreaker.reportFailure]
  refine hfollows.answer h hget hnew false ?_
  -- a failure does not leave the endpoint half-open
  refine (tallied_iff hself (Function.update_self ..)).mpr fun hhalf => ?_
  rcases failOn_cases traffic.breaker.configuration
      (traffic.breaker.currentOf admission.endpoint now) now with
    ⟨-, hafter, -⟩ | ⟨hstate, hafter, -⟩
  · exact nomatch hafter.symm.trans hhalf
  · exact absurd (hafter.symm.trans hhalf) hstate

theorem Inv.step (h : traffic.Inv) {event : Int × Call EndpointKey}
    (hvalid : traffic.Valid event) (hontime : traffic.OnTime event) :
    (traffic.step event).Inv := by
  obtain ⟨now, call⟩ := event
  cases call with
  | allowRequest endpoint => exact h.allowRequest hvalid hontime
  | reportSuccess index => exact h.reportSuccess hvalid hontime
  | reportFailure index => exact h.reportFailure hvalid hontime
  | stateOf endpoint => exact h.stateOf hvalid hontime

/-- The traffic of these calls. -/
def after (configuration : Configuration) (events : List (Int × Call HttpOutboundEndpointKey)) :
    Traffic HttpOutboundEndpointKey :=
  events.foldl step { breaker := { configuration := configuration } }

end Traffic

end AsynGyanis.Http.OutboundCircuitBreaker
