import AsynGyanis.Core.SemaphoreRun

/-!
# What the semaphore promises

The permits add up to the capacity as long as `release` is only handed
permits that somebody really keeps as a number. Nobody sleeps who could be
served as long as no event of a run is one of the two that the queue does
not notice: a waiter that links itself, although there is enough for it,
because awaiters already served still stand in the queue; and the
destruction of the first unserved waiter when the one behind it could be
served. The source grants only where permits come back, so neither event
looks at the queue again, and the waiter sleeps until some other permit
comes back.
-/

namespace AsynGyanis.Core

open Library Semaphore List

/-! ## The permits add up -/

theorem recorded_append (left right : List Awaiter) :
    recorded (left ++ right) = recorded left + recorded right := by
  rw [recorded, map_append, sum_append]
  rfl

theorem recorded_unlink {waiters : List Awaiter}
    (hord : (ids waiters).Pairwise (· < ·)) {w : Awaiter} (hw : w ∈ waiters) :
    recorded (waiters.filter (·.id ≠ w.id)) + w.grantedCount = recorded waiters := by
  induction waiters with
  | nil => exact absurd hw not_mem_nil
  | cons v rest ih =>
    obtain ⟨hfirst, hrest⟩ := pairwise_cons.mp hord
    rcases mem_cons.mp hw with rfl | hw
    · have hkept : rest.filter (·.id ≠ w.id) = rest := by
        rw [filter_eq_self]
        intro u hu
        have : w.id < u.id := hfirst u.id (mem_ids.mpr ⟨u, hu, rfl⟩)
        simp only [ne_eq, decide_not, Bool.not_eq_eq_eq_not, Bool.not_true, decide_eq_false_iff_not]
        omega
      rw [filter_cons_of_neg (by simp), hkept]
      show recorded rest + w.grantedCount = w.grantedCount + recorded rest
      omega
    · have hne : v.id ≠ w.id := by
        have : v.id < w.id := hfirst w.id (mem_ids.mpr ⟨w, hw, rfl⟩)
        omega
      rw [filter_cons_of_pos (by simpa using hne)]
      have h := ih hrest hw
      show v.grantedCount + recorded (rest.filter _) + w.grantedCount =
        v.grantedCount + recorded rest
      omega

theorem sum_eraseIdx {counts : List Nat} {index count : Nat} (h : counts[index]? = some count) :
    (counts.eraseIdx index).sum + count = counts.sum := by
  obtain ⟨hlt, hget⟩ := List.getElem?_eq_some_iff.mp h
  have hperm := (getElem_cons_eraseIdx_perm hlt).sum_eq
  rw [hget, sum_cons] at hperm
  omega

namespace SemaphoreRun

variable {capacity : Nat} {r : SemaphoreRun}

/-- Where the permits are: available, in `Permit` objects, kept as a
number, or granted and not taken yet. -/
def Accounted (capacity : Nat) (r : SemaphoreRun) : Prop := r.semaphore.capacity = capacity ∧
    r.semaphore.availablePermitCount + r.permits.sum + r.countedPermits +
      recorded r.semaphore.waiters = capacity

/-- What `release` asks of its caller, as far as it does not find out by
itself: the permits given back are kept as a number. -/
def Backed (r : SemaphoreRun) : SemaphoreEvent → Prop
  | .release permitCount => permitCount = 0 ∨
      r.semaphore.capacity - r.semaphore.availablePermitCount < permitCount ∨
      permitCount ≤ r.countedPermits
  | _ => True

instance (r : SemaphoreRun) : DecidablePred (Backed r)
  | .release _ => inferInstanceAs (Decidable (_ ∨ _ ∨ _))
  | .acquire _ _ | .tryAcquire _ | .destroyPermit _ | .keepAsCount _
  | .resumeNext | .destroyWaiter _ => isTrue trivial

theorem Accounted.acquire (h : r.Accounted capacity) (permitCount : Nat) (ticketAllocated : Bool) :
    (r.acquire permitCount ticketAllocated).Accounted capacity := by
  obtain ⟨hcap, hsum⟩ := h
  rw [SemaphoreRun.acquire]
  split
  · exact ⟨hcap, hsum⟩
  cases hready : r.semaphore.awaitReady permitCount with
  | some taken =>
    obtain ⟨_, hle, rfl⟩ := awaitReady_some hready
    refine ⟨hcap, ?_⟩
    show r.semaphore.availablePermitCount - permitCount +
      (r.permits ++ [permitCount]).sum + r.countedPermits + recorded r.semaphore.waiters = capacity
    rw [sum_append, sum_singleton]
    omega
  | none =>
    dsimp only
    split
    · refine ⟨hcap, ?_⟩
      show r.semaphore.availablePermitCount + r.permits.sum +
        r.countedPermits + recorded (r.semaphore.waiters ++ [⟨r.nextId, permitCount, 0⟩]) = capacity
      rw [recorded_append]
      exact hsum
    · exact ⟨hcap, hsum⟩

theorem Accounted.tryAcquire (h : r.Accounted capacity) (permitCount : Nat) :
    (r.tryAcquire permitCount).Accounted capacity := by
  rcases tryAcquire_cases r permitCount with heq | ⟨hle, heq⟩
  · rw [heq]
    exact h
  obtain ⟨hcap, hsum⟩ := h
  rw [heq]
  refine ⟨hcap, ?_⟩
  show r.semaphore.availablePermitCount - permitCount +
    (r.permits ++ [permitCount]).sum + r.countedPermits + recorded r.semaphore.waiters = capacity
  rw [sum_append, sum_singleton]
  omega

theorem recorded_grantFromHead (s : Semaphore) : s.grantFromHead.1.capacity = s.capacity ∧
      s.grantFromHead.1.availablePermitCount + recorded s.grantFromHead.1.waiters =
        s.availablePermitCount + recorded s.waiters := ⟨rfl, recorded_grantAlong _ _⟩

theorem Accounted.release (h : r.Accounted capacity) {permitCount : Nat}
    (hok : r.Backed (.release permitCount)) : (r.release permitCount).Accounted capacity := by
  rcases release_cases r permitCount with ⟨_, heq⟩ | ⟨hle, heq⟩
  · rw [heq]
    exact h
  obtain ⟨hcap, hsum⟩ := h
  have hkept : permitCount ≤ r.countedPermits := by
    rcases hok with hzero | hmore | hkept
    · omega
    · omega
    · exact hkept
  obtain ⟨hcap', hsum'⟩ := recorded_grantFromHead { r.semaphore with
    availablePermitCount := r.semaphore.availablePermitCount + permitCount }
  dsimp only at hsum'
  rw [heq]
  refine ⟨hcap'.trans hcap, ?_⟩
  show _ + r.permits.sum + (r.countedPermits - permitCount) + _ = capacity
  dsimp only [SemaphoreRun.granting]
  omega

theorem recorded_returnFromDestructor {s : Semaphore} {permitCount : Nat}
    (hfits : s.availablePermitCount + permitCount ≤ s.capacity) :
    (s.returnFromDestructor permitCount).1.capacity = s.capacity ∧
      (s.returnFromDestructor permitCount).1.availablePermitCount +
          recorded (s.returnFromDestructor permitCount).1.waiters =
        s.availablePermitCount + permitCount + recorded s.waiters := by
  rw [returnFromDestructor_eq, if_neg (by omega)]
  exact recorded_grantFromHead _

theorem Accounted.destroyPermit (h : r.Accounted capacity) (index : Nat) :
    (r.destroyPermit index).Accounted capacity := by
  rw [SemaphoreRun.destroyPermit]
  split
  · exact h
  rename_i count hat
  obtain ⟨hcap, hsum⟩ := h
  have hpermits := sum_eraseIdx hat
  obtain ⟨hcap', hsum'⟩ := @recorded_returnFromDestructor r.semaphore count (by omega)
  refine ⟨hcap'.trans hcap, ?_⟩
  show (r.semaphore.returnFromDestructor count).1.availablePermitCount +
    (r.permits.eraseIdx index).sum + r.countedPermits +
      recorded (r.semaphore.returnFromDestructor count).1.waiters = capacity
  omega

theorem Accounted.keepAsCount (h : r.Accounted capacity) (index : Nat) :
    (r.keepAsCount index).Accounted capacity := by
  rw [SemaphoreRun.keepAsCount]
  split
  · exact h
  rename_i count hat
  obtain ⟨hcap, hsum⟩ := h
  have hpermits := sum_eraseIdx hat
  refine ⟨hcap, ?_⟩
  show r.semaphore.availablePermitCount + (r.permits.eraseIdx index).sum +
    (r.countedPermits + count) + recorded r.semaphore.waiters = capacity
  omega

theorem Accounted.resumeNext (h : r.Accounted capacity) (hq : r.InOrder) :
    r.resumeNext.Accounted capacity := by
  obtain ⟨hcap, hsum⟩ := h
  rcases hq.resumeNext_cases with
    ⟨_, heq⟩ | ⟨id, rest, _, ⟨_, heq⟩ | ⟨awaiter, hmem, hid, _, heq⟩⟩
  · rw [heq]
    exact ⟨hcap, hsum⟩
  · rw [heq]
    exact ⟨hcap, hsum⟩
  have hleft := recorded_unlink hq.ordered hmem
  rw [heq, ← hid]
  refine ⟨hcap, ?_⟩
  show r.semaphore.availablePermitCount +
    (r.permits ++ [awaiter.grantedCount]).sum + r.countedPermits +
      recorded (r.semaphore.waiters.filter (·.id ≠ awaiter.id)) = capacity
  rw [sum_append, sum_singleton]
  omega

theorem Accounted.destroyWaiter (h : r.Accounted capacity) (hq : r.InOrder)
    (id : Nat) : (r.destroyWaiter id).Accounted capacity := by
  obtain ⟨hcap, hsum⟩ := h
  rcases destroyWaiter_cases r id with
    ⟨_, heq⟩ | ⟨awaiter, hmem, hid, ⟨hzero, heq⟩ | ⟨_, heq⟩⟩
  · rw [heq]
    exact ⟨hcap, hsum⟩
  · have hleft := recorded_unlink hq.ordered hmem
    rw [heq, ← hid]
    refine ⟨hcap, ?_⟩
    show r.semaphore.availablePermitCount + r.permits.sum + r.countedPermits +
      recorded (r.semaphore.waiters.filter (·.id ≠ awaiter.id)) = capacity
    omega
  have hleft := recorded_unlink hq.ordered hmem
  rw [heq, ← hid]
  obtain ⟨hcap', hsum'⟩ := @recorded_returnFromDestructor
    (r.semaphore.unlinkAwaiter awaiter.id) awaiter.grantedCount (by
      show r.semaphore.availablePermitCount + awaiter.grantedCount ≤ r.semaphore.capacity
      omega)
  refine ⟨hcap'.trans hcap, ?_⟩
  have hsame : (r.semaphore.unlinkAwaiter awaiter.id).availablePermitCount =
      r.semaphore.availablePermitCount := rfl
  have hqueue : (r.semaphore.unlinkAwaiter awaiter.id).waiters =
      r.semaphore.waiters.filter (·.id ≠ awaiter.id) := rfl
  rw [hsame, hqueue] at hsum'
  dsimp only [SemaphoreRun.granting]
  omega

theorem Accounted.step (h : r.Accounted capacity) (hq : r.InOrder)
    {event : SemaphoreEvent} (hok : r.Backed event) : (r.step event).Accounted capacity := by
  cases event with
  | acquire permitCount ticketAllocated =>
    exact h.acquire permitCount ticketAllocated
  | tryAcquire permitCount => exact h.tryAcquire permitCount
  | release permitCount => exact h.release hok
  | destroyPermit index => exact h.destroyPermit index
  | keepAsCount index => exact h.keepAsCount index
  | resumeNext => exact h.resumeNext hq
  | destroyWaiter id => exact h.destroyWaiter hq id

/-! ## Nobody sleeps who could be served -/

/-- The first request still unserved asks for more than there is. -/
def Attended (r : SemaphoreRun) : Prop := ∀ w, (unserved r.semaphore.waiters).head? = some w →
    r.semaphore.availablePermitCount < w.permitCount

/-- The events the queue notices. A request that has to link itself is
noticed if somebody unserved is ahead of it or there is not enough for it;
a waiter may be destroyed if it has been served, if somebody unserved is
ahead of it, or if the request behind it has to wait anyway. -/
def Noticed (r : SemaphoreRun) : SemaphoreEvent → Prop
  | .acquire permitCount true => ¬ (permitCount ≠ 0 ∧
      r.semaphore.waiters ≠ [] ∧ unserved r.semaphore.waiters = [] ∧
      permitCount ≤ r.semaphore.availablePermitCount)
  | .destroyWaiter id => ∀ first second rest,
      unserved r.semaphore.waiters = first :: second :: rest →
        first.id = id → r.semaphore.availablePermitCount < second.permitCount
  | _ => True

theorem attended_grantFromHead {s : Semaphore}
    (hpos : ∀ w ∈ s.waiters, 0 < w.permitCount) {w : Awaiter}
    (h : (unserved s.grantFromHead.1.waiters).head? = some w) :
    s.grantFromHead.1.availablePermitCount < w.permitCount :=
  head_grantAlong s.availablePermitCount s.waiters hpos h

theorem Attended.acquire (h : r.Attended) {permitCount : Nat} {ticketAllocated : Bool}
    (hok : r.Noticed (.acquire permitCount ticketAllocated)) :
    (r.acquire permitCount ticketAllocated).Attended := by
  rw [SemaphoreRun.acquire]
  split
  · exact h
  rename_i hzero
  cases hready : r.semaphore.awaitReady permitCount with
  | some taken =>
    obtain ⟨hnil, _, rfl⟩ := awaitReady_some hready
    intro w hw
    have hw : (unserved r.semaphore.waiters).head? = some w := hw
    rw [hnil] at hw
    cases hw
  | none =>
    have hbusy := awaitReady_none hready
    cases ticketAllocated with
    | false => exact h
    | true =>
      intro w hw
      have hw : (unserved (r.semaphore.waiters ++
        [⟨r.nextId, permitCount, 0⟩])).head? = some w := hw
      rw [unserved_append, unserved_cons_waiting rfl, head?_append] at hw
      show r.semaphore.availablePermitCount < w.permitCount
      cases hfirst : (unserved r.semaphore.waiters).head? with
      | some first =>
        rw [hfirst] at hw
        exact h w (hfirst.trans hw)
      | none =>
        rw [hfirst] at hw
        injection hw with hw
        subst hw
        have hnone := head?_eq_none_iff.mp hfirst
        rcases hbusy with hbusy | hbusy
        · exact Nat.lt_of_not_le fun hle =>
            hok ⟨hzero, hbusy, hnone, hle⟩
        · exact hbusy

theorem Attended.tryAcquire (h : r.Attended) (permitCount : Nat) :
    (r.tryAcquire permitCount).Attended := by
  rcases tryAcquire_cases r permitCount with heq | ⟨_, heq⟩
  · rw [heq]
    exact h
  rw [heq]
  intro w hw
  have := h w hw
  show r.semaphore.availablePermitCount - permitCount < w.permitCount
  omega

theorem Attended.release (h : r.Attended) (hq : r.InOrder) (permitCount : Nat) :
    (r.release permitCount).Attended := by
  rcases release_cases r permitCount with ⟨_, heq⟩ | ⟨_, heq⟩
  · rw [heq]
    exact h
  rw [heq]
  intro w hw
  exact @attended_grantFromHead { r.semaphore with
    availablePermitCount := r.semaphore.availablePermitCount + permitCount }
    hq.positive w hw

theorem attended_returnFromDestructor {s : Semaphore}
    (hpos : ∀ w ∈ s.waiters, 0 < w.permitCount) (permitCount : Nat) {w : Awaiter}
    (h : (unserved (s.returnFromDestructor permitCount).1.waiters).head? = some w) :
    (s.returnFromDestructor permitCount).1.availablePermitCount <
      w.permitCount := by
  rw [returnFromDestructor_eq] at h ⊢
  exact head_grantAlong _ s.waiters hpos h

theorem Attended.destroyPermit (h : r.Attended) (hq : r.InOrder) (index : Nat) :
    (r.destroyPermit index).Attended := by
  rw [SemaphoreRun.destroyPermit]
  split
  · exact h
  · intro w hw
    exact attended_returnFromDestructor hq.positive _ hw

theorem Attended.keepAsCount (h : r.Attended) (index : Nat) : (r.keepAsCount index).Attended := by
  rw [SemaphoreRun.keepAsCount]
  split
  · exact h
  · exact h

theorem unserved_unlink {waiters : List Awaiter}
    (hord : (ids waiters).Pairwise (· < ·)) {awaiter : Awaiter}
    (hmem : awaiter ∈ waiters) (hserved : awaiter.grantedCount ≠ 0) :
    unserved (waiters.filter (·.id ≠ awaiter.id)) = unserved waiters := by
  rw [unserved_filter, filter_eq_self]
  intro w hw
  obtain ⟨hw, hzero⟩ := mem_unserved.mp hw
  have hne : w.id ≠ awaiter.id := by
    intro hid
    have hinj := inj_on_of_nodup_map
      (List.Pairwise.imp (fun hlt => Nat.ne_of_lt hlt) hord) hw hmem hid
    rw [hinj] at hzero
    exact hserved hzero
  simpa using hne

theorem Attended.resumeNext (h : r.Attended) (hq : r.InOrder) : r.resumeNext.Attended := by
  rcases hq.resumeNext_cases with
    ⟨_, heq⟩ | ⟨id, rest, _, ⟨_, heq⟩ | ⟨awaiter, hmem, hid, hserved, heq⟩⟩
  · rw [heq]
    exact h
  · rw [heq]
    exact h
  rw [heq, ← hid]
  intro w hw
  have hw : (unserved (r.semaphore.waiters.filter (·.id ≠ awaiter.id))).head? = some w := hw
  rw [unserved_unlink hq.ordered hmem hserved] at hw
  exact h w hw

theorem Attended.destroyWaiter (h : r.Attended) (hq : r.InOrder) {id : Nat}
    (hok : r.Noticed (.destroyWaiter id)) : (r.destroyWaiter id).Attended := by
  rcases destroyWaiter_cases r id with
    ⟨_, heq⟩ | ⟨awaiter, hmem, hid, ⟨hzero, heq⟩ | ⟨_, heq⟩⟩
  · rw [heq]
    exact h
  · rw [heq]
    intro w hw
    have hw : (unserved (r.semaphore.waiters.filter (·.id ≠ id))).head? = some w := hw
    show r.semaphore.availablePermitCount < w.permitCount
    rw [unserved_filter] at hw
    cases hline : unserved r.semaphore.waiters with
    | nil =>
      rw [hline] at hw
      cases hw
    | cons first rest =>
      rw [hline] at hw
      by_cases hfirst : first.id = id
      · rw [filter_cons_of_neg (by simpa using hfirst)] at hw
        -- the first of the line leaves, so the second one is now first
        have hord := hq.ordered.sublist (ids_unserved_sublist _)
        rw [hline] at hord
        obtain ⟨hafter, _⟩ := pairwise_cons.mp hord
        have hkept : rest.filter (·.id ≠ id) = rest := by
          rw [filter_eq_self]
          intro u hu
          have : first.id < u.id := hafter u.id (mem_ids.mpr ⟨u, hu, rfl⟩)
          have hne : u.id ≠ id := by omega
          simpa using hne
        rw [hkept] at hw
        cases rest with
        | nil => exact nomatch hw
        | cons second rest =>
          injection hw with hw
          subst hw
          exact hok first second rest hline hfirst
      · rw [filter_cons_of_pos (by simpa using hfirst)] at hw
        injection hw with hw
        subst hw
        exact h first (by rw [hline]; rfl)
  · rw [heq]
    intro w hw
    refine attended_returnFromDestructor ?_ awaiter.grantedCount hw
    intro v hv
    exact hq.positive v (mem_of_mem_filter hv)

theorem Attended.step (h : r.Attended) (hq : r.InOrder) {event : SemaphoreEvent}
    (hok : r.Noticed event) : (r.step event).Attended := by
  cases event with
  | acquire permitCount ticketAllocated => exact h.acquire hok
  | tryAcquire permitCount => exact h.tryAcquire permitCount
  | release permitCount => exact h.release hq permitCount
  | destroyPermit index => exact h.destroyPermit hq index
  | keepAsCount index => exact h.keepAsCount index
  | resumeNext => exact h.resumeNext hq
  | destroyWaiter id => exact h.destroyWaiter hq hok

/-! ## Runs -/

/-- A run of a semaphore with this many permits, in which every event
meets the condition. -/
def Runs (ok : SemaphoreRun → SemaphoreEvent → Prop) (capacity : Nat) : SemaphoreRun → Prop :=
  Reach step ok (start capacity)

theorem inOrder_of_runs {ok : SemaphoreRun → SemaphoreEvent → Prop}
    {capacity : Nat} {r : SemaphoreRun} (h : Runs ok capacity r) : r.InOrder :=
  Reach.invariant h (inOrder_start capacity) fun _ event hr _ => hr.step event

theorem accounted_of_runs (h : Runs Backed capacity r) : r.Accounted capacity := by
  refine Reach.invariant_with h (fun _ hr => inOrder_of_runs hr) ?_
    fun _ _ hq hr hok => hr.step hq hok
  exact ⟨rfl, rfl⟩

theorem attended_of_runs (h : Runs Noticed capacity r) : r.Attended :=
  Reach.invariant_with h (fun _ hr => inOrder_of_runs hr) (nofun)
    fun _ _ hq hr hok => hr.step hq hok

theorem InOrder.head_of_posted_nil (h : r.InOrder) (hposted : r.posted = []) :
    unserved r.semaphore.waiters = r.semaphore.waiters := by
  rw [unserved, filter_eq_self]
  intro w hw
  by_cases hzero : w.grantedCount = 0
  · simpa using hzero
  have hticket := h.ticketed w hw hzero
  rw [hposted] at hticket
  exact absurd hticket not_mem_nil

/-- In a run whose releases are backed and whose events are all noticed by
the queue, in every state: the permits add up to the capacity, they have
been granted in the order the requests arrived in and the requests still
unserved all came later, and when no ticket is left in the loop the first
waiter asks for more than is available. -/
theorem semaphore_keeps_promises {capacity : Nat} {r : SemaphoreRun}
    (h : Runs (fun r event => r.Backed event ∧ r.Noticed event) capacity r) :
    (r.semaphore.capacity = capacity ∧
      r.semaphore.availablePermitCount + r.permits.sum + r.countedPermits +
        recorded r.semaphore.waiters = capacity) ∧
    (r.grants ++ ids (unserved r.semaphore.waiters)).Pairwise (· < ·) ∧
    (r.posted = [] → ∀ w, r.semaphore.waiters.head? = some w →
      r.semaphore.availablePermitCount < w.permitCount) := by
  have hq := inOrder_of_runs h
  have hattended := attended_of_runs (Reach.mono h fun _ _ hok => hok.2)
  refine ⟨accounted_of_runs (Reach.mono h fun _ _ hok => hok.1), hq.inOrder, ?_⟩
  intro hposted w hw
  refine hattended w ?_
  rw [hq.head_of_posted_nil hposted]
  exact hw

/-- Two permits; a request for both waits behind a holder of one, and the
request for one behind it is served once the first is served and gone. -/
theorem semaphore_keeps_promises_in_line :
    let r := [SemaphoreEvent.tryAcquire 1, .acquire 2 true, .destroyPermit 0,
      .resumeNext, .acquire 1 true, .destroyPermit 0].foldl step (start 2);
    (r.grants ++ ids (unserved r.semaphore.waiters)).Pairwise (· < ·) ∧ r.posted = [1] := by
  refine ⟨(semaphore_keeps_promises (Reach.run Reach.start _ ?_)).2.1, ?_⟩
  · refine ⟨⟨trivial, trivial⟩, ⟨trivial, ?_⟩, ⟨trivial, trivial⟩,
      ⟨trivial, trivial⟩, ⟨trivial, ?_⟩, ⟨trivial, trivial⟩, trivial⟩
    · intro ⟨_, hlinked, _⟩
      exact hlinked (by decide)
    · intro ⟨_, hlinked, _⟩
      exact hlinked (by decide)
  · decide

/-- Both ways to sleep beside a free permit. A coroutine that asked for two
permits is destroyed while one is free, and the next, who asked for one, is
not woken. And a coroutine that asks for one while the only awaiter linked
has been served already stays in the queue, alone, with a permit free and
nothing left in the loop. -/
theorem waiter_sleeps_beside_free_permit :
    (let r := [SemaphoreEvent.tryAcquire 1, .acquire 2 true, .acquire 1 true,
        .destroyWaiter 0].foldl step (start 2);
      r.posted = [] ∧ r.semaphore = ⟨2, 1, [⟨1, 1, 0⟩]⟩) ∧
    (let r := [SemaphoreEvent.tryAcquire 2, .acquire 1 true, .destroyPermit 0,
        .acquire 1 true, .resumeNext].foldl step (start 2);
      r.posted = [] ∧ r.semaphore = ⟨2, 1, [⟨1, 1, 0⟩]⟩) := by
  decide

end SemaphoreRun

end AsynGyanis.Core
