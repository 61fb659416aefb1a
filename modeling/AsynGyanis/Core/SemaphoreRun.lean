import AsynGyanis.Core.Semaphore

/-!
# Accounting, order and wake-ups of the semaphore

Three invariants are carried along a run. `Queued` ties the queue, the
posted tickets and the record of grants together: the requests served so
far, followed by those still unserved, are in order of arrival, and whoever
has been served and not resumed yet has its ticket in the loop. It holds in
every run. `Accounted` says where the permits are, and needs of `release`
what its documentation asks of the caller. `Attended` says that the first
unserved request asks for more than there is; granting always establishes
it, and the two operations that change the head of the line without
granting can lose it: a waiter that links itself behind awaiters already
served, and the destruction of the first unserved waiter.
-/

namespace AsynGyanis.Core

open Library Semaphore List

variable (available : Nat) {waiters : List Awaiter} {posted grants : List Nat}

/-- The requests nothing has been recorded for. -/
def unserved (waiters : List Awaiter) : List Awaiter := waiters.filter (·.grantedCount = 0)

def ids (waiters : List Awaiter) : List Nat := waiters.map (·.id)

/-- The permits granted but not yet taken. -/
def recorded (waiters : List Awaiter) : Nat := (waiters.map (·.grantedCount)).sum

@[simp] theorem unserved_nil : unserved [] = [] := rfl

variable {w : Awaiter} {nextId : Nat}

theorem unserved_cons_served {rest : List Awaiter}
    (h : w.grantedCount ≠ 0) : unserved (w :: rest) = unserved rest := by
  simp [unserved, h]

theorem unserved_cons_waiting {rest : List Awaiter}
    (h : w.grantedCount = 0) : unserved (w :: rest) = w :: unserved rest := by
  simp [unserved, h]

theorem unserved_append (left right : List Awaiter) :
    unserved (left ++ right) = unserved left ++ unserved right := filter_append left right

theorem mem_unserved {waiters : List Awaiter} :
    w ∈ unserved waiters ↔ w ∈ waiters ∧ w.grantedCount = 0 := by
  simp [unserved]

theorem ids_append (left right : List Awaiter) : ids (left ++ right) = ids left ++ ids right :=
  map_append

theorem mem_ids {id : Nat} {waiters : List Awaiter} : id ∈ ids waiters ↔ ∃ w ∈ waiters, w.id = id :=
  mem_map

/-! ## The walk of `grantFromHead` -/

variable (waiters)

theorem ids_grantAlong : ids (grantAlong available waiters).2.1 = ids waiters := by
  induction waiters generalizing available with
  | nil => rfl
  | cons w rest ih =>
    rw [grantAlong]
    split
    · show w.id :: ids _ = w.id :: ids rest
      rw [ih]
    split
    · rfl
    · show w.id :: ids _ = w.id :: ids rest
      rw [ih]

theorem recorded_grantAlong : (grantAlong available waiters).1 +
        recorded (grantAlong available waiters).2.1 = available + recorded waiters := by
  induction waiters generalizing available with
  | nil => rfl
  | cons w rest ih =>
    rw [grantAlong]
    split
    · have h := ih available
      show (grantAlong available rest).1 +
          (w.grantedCount + recorded (grantAlong available rest).2.1) =
        available + (w.grantedCount + recorded rest)
      omega
    split
    · rfl
    have h := ih (available - w.permitCount)
    show (grantAlong (available - w.permitCount) rest).1 +
        (w.permitCount + recorded (grantAlong (available - w.permitCount) rest).2.1) =
      available + (w.grantedCount + recorded rest)
    omega

/-- The requests served by the walk are the first unserved ones, in their
order. -/
theorem unserved_grantAlong (hpos : ∀ w ∈ waiters, 0 < w.permitCount) :
    ids (unserved waiters) = (grantAlong available waiters).2.2 ++
      ids (unserved (grantAlong available waiters).2.1) := by
  induction waiters generalizing available with
  | nil => rfl
  | cons w rest ih =>
    have hrest : ∀ v ∈ rest, 0 < v.permitCount := fun v hv => hpos v (mem_cons_of_mem w hv)
    have hw : 0 < w.permitCount := hpos w mem_cons_self
    rw [grantAlong]
    split
    · next hserved =>
      show _ = _ ++ ids (unserved (w :: _))
      rw [unserved_cons_served hserved, unserved_cons_served hserved]
      exact ih available hrest
    rw [unserved_cons_waiting (by omega)]
    split
    · show _ = ids (unserved (w :: rest))
      rw [unserved_cons_waiting (by omega)]
    show w.id :: ids (unserved rest) = w.id :: _ ++ ids (unserved (_ :: _))
    rw [unserved_cons_served (by simp only []; omega), ih (available - w.permitCount) hrest]
    rfl

/-- After the walk the first request left unserved asks for more than is
left. -/
theorem head_grantAlong (hpos : ∀ w ∈ waiters, 0 < w.permitCount)
    (h : (unserved (grantAlong available waiters).2.1).head? = some w) :
    (grantAlong available waiters).1 < w.permitCount := by
  induction waiters generalizing available with
  | nil => simp [grantAlong] at h
  | cons v rest ih =>
    have hrest : ∀ u ∈ rest, 0 < u.permitCount := fun u hu => hpos u (mem_cons_of_mem v hu)
    have hv : 0 < v.permitCount := hpos v mem_cons_self
    rw [grantAlong] at h ⊢
    split
    · next hserved =>
      rw [if_pos hserved] at h
      have h : (unserved (v :: (grantAlong available rest).2.1)).head? = some w := h
      rw [unserved_cons_served hserved] at h
      exact ih available hrest h
    rename_i hserved
    rw [if_neg hserved] at h
    split
    · next hmore =>
      rw [if_pos hmore, unserved_cons_waiting (by omega)] at h
      injection h with h
      subst h
      exact hmore
    rename_i hmore
    rw [if_neg hmore] at h
    have h : (unserved ({ v with grantedCount := v.permitCount } ::
      (grantAlong (available - v.permitCount) rest).2.1)).head? = some w := h
    rw [unserved_cons_served (by simp only []; omega)] at h
    exact ih (available - v.permitCount) hrest h

/-- Whoever is served after the walk was served before or has its ticket
posted by it, and nobody's request changes. -/
theorem mem_grantAlong (h : w ∈ (grantAlong available waiters).2.1) :
    w ∈ waiters ∨ (w.id ∈ (grantAlong available waiters).2.2 ∧
      ∃ v ∈ waiters, v.permitCount = w.permitCount) := by
  induction waiters generalizing available with
  | nil => simp [grantAlong] at h
  | cons v rest ih =>
    rw [grantAlong] at h ⊢
    split
    · next hserved =>
      rw [if_pos hserved] at h
      rcases mem_cons.mp h with rfl | h
      · exact .inl mem_cons_self
      rcases ih available h with h | ⟨hid, u, hu, hsame⟩
      · exact .inl (mem_cons_of_mem v h)
      · exact .inr ⟨hid, u, mem_cons_of_mem v hu, hsame⟩
    rename_i hserved
    rw [if_neg hserved] at h
    split
    · next hmore =>
      rw [if_pos hmore] at h
      exact .inl h
    rename_i hmore
    rw [if_neg hmore] at h
    rcases mem_cons.mp h with rfl | h
    · exact .inr ⟨mem_cons_self, v, mem_cons_self, rfl⟩
    rcases ih (available - v.permitCount) h with h | ⟨hid, u, hu, hsame⟩
    · exact .inl (mem_cons_of_mem v h)
    · exact .inr ⟨mem_cons_of_mem v.id hid, u, mem_cons_of_mem v hu, hsame⟩

/-! ## The queue, the tickets and the record of grants -/

/-- What ties the queue to the tickets in the loop and to the grants. -/
structure Queued (waiters : List Awaiter) (posted : List Nat) (nextId : Nat)
    (grants : List Nat) : Prop where
  positive : ∀ w ∈ waiters, 0 < w.permitCount
  ordered : (ids waiters).Pairwise (· < ·)
  arrived : ∀ id ∈ ids waiters, id < nextId
  inOrder : (grants ++ ids (unserved waiters)).Pairwise (· < ·)
  granted : ∀ id ∈ grants, id < nextId
  ticketed : ∀ w ∈ waiters, w.grantedCount ≠ 0 → w.id ∈ posted
  posted : ∀ id ∈ posted, id ∈ grants

theorem ids_unserved_sublist :
    (ids (unserved waiters)).Sublist (ids waiters) := List.Sublist.map _ filter_sublist

variable {waiters}

theorem Queued.grant (h : Queued waiters posted nextId grants)
    (available : Nat) : Queued (grantAlong available waiters).2.1
      (posted ++ (grantAlong available waiters).2.2) nextId
      (grants ++ (grantAlong available waiters).2.2) := by
  have hwalk := unserved_grantAlong available waiters h.positive
  refine ⟨?_, ?_, ?_, ?_, ?_, ?_, ?_⟩
  · intro w hw
    rcases mem_grantAlong available waiters hw with hw | ⟨_, v, hv, hsame⟩
    · exact h.positive w hw
    · rw [← hsame]
      exact h.positive v hv
  · rw [ids_grantAlong]
    exact h.ordered
  · rw [ids_grantAlong]
    exact h.arrived
  · rw [append_assoc, ← hwalk]
    exact h.inOrder
  · intro id hid
    rcases mem_append.mp hid with hid | hid
    · exact h.granted id hid
    have hmem : id ∈ ids (unserved waiters) := by
      rw [hwalk]
      exact mem_append_left _ hid
    exact h.arrived id ((ids_unserved_sublist waiters).subset hmem)
  · intro w hw hserved
    rcases mem_grantAlong available waiters hw with hw | ⟨hid, _⟩
    · exact mem_append_left _ (h.ticketed w hw hserved)
    · exact mem_append_right _ hid
  · intro id hid
    rcases mem_append.mp hid with hid | hid
    · exact mem_append_left _ (h.posted id hid)
    · exact mem_append_right _ hid

variable (waiters)

theorem unserved_filter (id : Nat) :
    unserved (waiters.filter (·.id ≠ id)) = (unserved waiters).filter (·.id ≠ id) :=
  filter_comm _ _ _

variable {waiters}

theorem Queued.unlink {posted posted' grants : List Nat}
    (h : Queued waiters posted nextId grants) (id : Nat)
    (hkept : ∀ i ∈ posted, i ≠ id → i ∈ posted') (hfewer : ∀ i ∈ posted', i ∈ posted) :
    Queued (waiters.filter (·.id ≠ id)) posted' nextId grants := by
  have hsub : (ids (waiters.filter (·.id ≠ id))).Sublist (ids waiters) :=
    List.Sublist.map _ filter_sublist
  refine ⟨?_, h.ordered.sublist hsub, ?_, ?_, h.granted, ?_, ?_⟩
  · intro w hw
    exact h.positive w (mem_of_mem_filter hw)
  · intro i hi
    exact h.arrived i (hsub.subset hi)
  · rw [unserved_filter]
    exact h.inOrder.sublist (List.Sublist.append_left (List.Sublist.map _ filter_sublist) grants)
  · intro w hw hserved
    have hne : w.id ≠ id := by simpa using (mem_filter.mp hw).2
    exact hkept w.id (h.ticketed w (mem_of_mem_filter hw) hserved) hne
  · intro i hi
    exact h.posted i (hfewer i hi)

theorem Queued.link (h : Queued waiters posted nextId grants)
    {permitCount : Nat} (hpos : 0 < permitCount) :
    Queued (waiters ++ [⟨nextId, permitCount, 0⟩]) posted (nextId + 1) grants := by
  have hids : ids (waiters ++ [⟨nextId, permitCount, 0⟩]) =
      ids waiters ++ [nextId] := ids_append _ _
  have hunserved : ids (unserved (waiters ++ [⟨nextId, permitCount, 0⟩])) =
      ids (unserved waiters) ++ [nextId] := by
    rw [unserved_append, ids_append]
    rfl
  refine ⟨?_, ?_, ?_, ?_, ?_, ?_, h.posted⟩
  · intro w hw
    rcases mem_append.mp hw with hw | hw
    · exact h.positive w hw
    · rw [mem_singleton.mp hw]
      exact hpos
  · rw [hids, pairwise_append]
    refine ⟨h.ordered, pairwise_singleton _ _, ?_⟩
    intro a ha b hb
    rw [mem_singleton.mp hb]
    exact h.arrived a ha
  · intro id hid
    rw [hids] at hid
    rcases mem_append.mp hid with hid | hid
    · have := h.arrived id hid
      omega
    · rw [mem_singleton.mp hid]
      omega
  · rw [hunserved, ← append_assoc, pairwise_append]
    refine ⟨h.inOrder, pairwise_singleton _ _, ?_⟩
    intro a ha b hb
    rw [mem_singleton.mp hb]
    rcases mem_append.mp ha with ha | ha
    · exact h.granted a ha
    · exact h.arrived a ((ids_unserved_sublist waiters).subset ha)
  · intro id hid
    have := h.granted id hid
    omega
  · intro w hw hserved
    rcases mem_append.mp hw with hw | hw
    · exact h.ticketed w hw hserved
    · rw [mem_singleton.mp hw] at hserved
      exact absurd rfl hserved

theorem Queued.fast (h : Queued [] posted nextId grants) :
    Queued [] posted (nextId + 1) (grants ++ [nextId]) := by
  refine ⟨h.positive, h.ordered, fun _ hid => (nomatch hid), ?_, ?_, fun _ hw => (nomatch hw), ?_⟩
  · have hin : (grants ++ []).Pairwise (· < ·) := h.inOrder
    rw [append_nil] at hin
    show ((grants ++ [nextId]) ++ []).Pairwise (· < ·)
    rw [append_nil, pairwise_append]
    refine ⟨hin, pairwise_singleton _ _, ?_⟩
    intro a ha b hb
    rw [mem_singleton.mp hb]
    exact h.granted a ha
  · intro id hid
    rcases mem_append.mp hid with hid | hid
    · have := h.granted id hid
      omega
    · rw [mem_singleton.mp hid]
      omega
  · intro id hid
    exact mem_append_left _ (h.posted id hid)

theorem Queued.skip (h : Queued waiters posted nextId grants) :
    Queued waiters posted (nextId + 1) grants := by
  refine ⟨h.positive, h.ordered, ?_, h.inOrder, ?_, h.ticketed, h.posted⟩
  · intro id hid
    have := h.arrived id hid
    omega
  intro id hid
  have := h.granted id hid
  omega

/-! ## Every run keeps the queue in order -/

namespace SemaphoreRun

variable {r : SemaphoreRun}

/-- `Queued` of a run. -/
def InOrder (r : SemaphoreRun) : Prop := Queued r.semaphore.waiters r.posted r.nextId r.grants

theorem inOrder_start (initialPermitCount : Nat) : (start initialPermitCount).InOrder := by
  refine ⟨?_, ?_, ?_, ?_, ?_, ?_, ?_⟩ <;>
    simp [start, Semaphore.construct, ids, unserved]

theorem returnFromDestructor_eq (s : Semaphore) (permitCount : Nat) :
    s.returnFromDestructor permitCount = ({ s with
      availablePermitCount :=
        if permitCount > s.capacity - s.availablePermitCount then s.capacity
        else s.availablePermitCount + permitCount }).grantFromHead := by
  rw [returnFromDestructor, returnPermits]
  by_cases hmore : permitCount > s.capacity - s.availablePermitCount
  · rw [if_pos hmore, if_pos hmore]
  · rw [if_neg hmore, if_neg hmore]

/-- The outcomes of `release`: refused, or the permits are back and the
queue is settled. -/
theorem release_eq (s : Semaphore) (permitCount : Nat) : s.release permitCount =
      if permitCount = 0 then .error .permitCountIsZero
      else if permitCount > s.capacity - s.availablePermitCount then
        .error .exceedsCapacity
      else .ok ({ s with
        availablePermitCount := s.availablePermitCount + permitCount }).grantFromHead := rfl

theorem InOrder.granting {waiters : List Awaiter}
    (h : Queued waiters r.posted r.nextId r.grants) (capacity available : Nat) :
    (r.granting (grantFromHead ⟨capacity, available, waiters⟩)).InOrder := h.grant available

theorem awaiterAt_some {s : Semaphore} {id : Nat} {awaiter : Awaiter}
    (h : s.awaiterAt id = some awaiter) : awaiter ∈ s.waiters ∧ awaiter.id = id :=
  ⟨mem_of_find?_eq_some h, by simpa using find?_some h⟩

theorem awaitReady_some {s taken : Semaphore} {permitCount : Nat}
    (h : s.awaitReady permitCount = some taken) :
    s.waiters = [] ∧ permitCount ≤ s.availablePermitCount ∧
      taken = { s with
        availablePermitCount := s.availablePermitCount - permitCount } := by
  rw [awaitReady] at h
  split at h
  · cases h
  rename_i hfree
  injection h with h
  refine ⟨?_, by omega, h.symm⟩
  by_cases hnil : s.waiters = []
  · exact hnil
  · exact absurd (.inl hnil) hfree

theorem awaitReady_none {s : Semaphore} {permitCount : Nat} (h : s.awaitReady permitCount = none) :
    s.waiters ≠ [] ∨ s.availablePermitCount < permitCount := by
  rw [awaitReady] at h
  split at h
  · next hbusy => exact hbusy
  · cases h

theorem InOrder.acquire (h : r.InOrder) (permitCount : Nat) (ticketAllocated : Bool) :
    (r.acquire permitCount ticketAllocated).InOrder := by
  rw [SemaphoreRun.acquire]
  split
  · exact h
  rename_i hzero
  cases hready : r.semaphore.awaitReady permitCount with
  | some taken =>
    obtain ⟨hnil, _, rfl⟩ := awaitReady_some hready
    have h : Queued r.semaphore.waiters r.posted r.nextId r.grants := h
    show Queued r.semaphore.waiters r.posted (r.nextId + 1) (r.grants ++ [r.nextId])
    rw [hnil] at h ⊢
    exact h.fast
  | none =>
    dsimp only
    split
    · exact Queued.link h (Nat.pos_of_ne_zero hzero)
    · exact Queued.skip h

theorem tryAcquire_cases (r : SemaphoreRun) (permitCount : Nat) : r.tryAcquire permitCount = r ∨
      (permitCount ≤ r.semaphore.availablePermitCount ∧
        r.tryAcquire permitCount = { r with
          semaphore := { r.semaphore with
            availablePermitCount := r.semaphore.availablePermitCount - permitCount }
          permits := r.permits ++ [permitCount] }) := by
  rw [SemaphoreRun.tryAcquire, Semaphore.tryAcquire]
  by_cases hzero : permitCount = 0
  · rw [if_pos hzero]
    exact .inl rfl
  rw [if_neg hzero]
  by_cases hmore : permitCount > r.semaphore.availablePermitCount
  · rw [if_pos hmore]
    exact .inl rfl
  · rw [if_neg hmore]
    exact .inr ⟨by omega, rfl⟩

theorem InOrder.tryAcquire (h : r.InOrder) (permitCount : Nat) :
    (r.tryAcquire permitCount).InOrder := by
  rcases tryAcquire_cases r permitCount with heq | ⟨_, heq⟩
  · rw [heq]
    exact h
  · rw [heq]
    exact h

/-- What `release` does to the whole: nothing, or the permits come back and
the queue is settled. -/
theorem release_cases (r : SemaphoreRun) (permitCount : Nat) :
    ((permitCount = 0 ∨ r.semaphore.capacity - r.semaphore.availablePermitCount < permitCount) ∧
      r.release permitCount = r) ∨
    (permitCount ≤ r.semaphore.capacity - r.semaphore.availablePermitCount ∧
      r.release permitCount = { r.granting ({ r.semaphore with
          availablePermitCount :=
            r.semaphore.availablePermitCount + permitCount }).grantFromHead with
        countedPermits := r.countedPermits - permitCount }) := by
  rw [SemaphoreRun.release, release_eq]
  by_cases hzero : permitCount = 0
  · rw [if_pos hzero]
    exact .inl ⟨.inl hzero, rfl⟩
  rw [if_neg hzero]
  by_cases hmore : permitCount > r.semaphore.capacity - r.semaphore.availablePermitCount
  · rw [if_pos hmore]
    exact .inl ⟨.inr hmore, rfl⟩
  · rw [if_neg hmore]
    exact .inr ⟨by omega, rfl⟩

theorem InOrder.release (h : r.InOrder) (permitCount : Nat) : (r.release permitCount).InOrder := by
  rcases release_cases r permitCount with ⟨_, heq⟩ | ⟨_, heq⟩
  · rw [heq]
    exact h
  · rw [heq]
    exact InOrder.granting h _ _

theorem InOrder.destroyPermit (h : r.InOrder) (index : Nat) : (r.destroyPermit index).InOrder := by
  rw [SemaphoreRun.destroyPermit]
  split
  · exact h
  · rw [returnFromDestructor_eq]
    exact InOrder.granting h _ _

theorem InOrder.keepAsCount (h : r.InOrder) (index : Nat) : (r.keepAsCount index).InOrder := by
  rw [SemaphoreRun.keepAsCount]
  split
  · exact h
  · exact h

theorem InOrder.posted_served (h : r.InOrder) {awaiter : Awaiter}
    (hmem : awaiter ∈ r.semaphore.waiters) (hposted : awaiter.id ∈ r.posted) :
    awaiter.grantedCount ≠ 0 := by
  intro hzero
  have hids : awaiter.id ∈ ids (unserved r.semaphore.waiters) :=
    mem_ids.mpr ⟨awaiter, mem_unserved.mpr ⟨hmem, hzero⟩, rfl⟩
  have hlt := (pairwise_append.mp h.inOrder).2.2 _ (h.posted _ hposted)
    _ hids
  exact Nat.lt_irrefl _ hlt

/-- What running the oldest ticket does: the loop was empty, the awaiter is
gone, or it leaves the queue with its permits. -/
theorem InOrder.resumeNext_cases (h : r.InOrder) : (r.posted = [] ∧ r.resumeNext = r) ∨
    ∃ id rest, r.posted = id :: rest ∧
      ((r.semaphore.awaiterAt id = none ∧ r.resumeNext = { r with posted := rest }) ∨
        ∃ awaiter ∈ r.semaphore.waiters, awaiter.id = id ∧ awaiter.grantedCount ≠ 0 ∧
          r.resumeNext = { r with
            semaphore := r.semaphore.unlinkAwaiter id, posted := rest,
            permits := r.permits ++ [awaiter.grantedCount] }) := by
  rw [SemaphoreRun.resumeNext]
  cases hposted : r.posted with
  | nil => exact .inl ⟨rfl, rfl⟩
  | cons id rest =>
    refine .inr ⟨id, rest, rfl, ?_⟩
    dsimp only
    cases hat : r.semaphore.awaiterAt id with
    | none => exact .inl ⟨rfl, rfl⟩
    | some awaiter =>
      obtain ⟨hmem, hid⟩ := awaiterAt_some hat
      have hserved := h.posted_served hmem (by
        rw [hposted, hid]
        exact mem_cons_self)
      refine .inr ⟨awaiter, hmem, hid, hserved, ?_⟩
      dsimp only
      rw [awaitResume, if_neg hserved, hid]

theorem InOrder.resumeNext (h : r.InOrder) : r.resumeNext.InOrder := by
  rcases h.resumeNext_cases with ⟨_, heq⟩ | ⟨id, rest, hposted, hcases⟩
  · rw [heq]
    exact h
  have hfewer : ∀ i ∈ rest, i ∈ r.posted := by
    intro i hi
    rw [hposted]
    exact mem_cons_of_mem id hi
  have hkept : ∀ i ∈ r.posted, i ≠ id → i ∈ rest := by
    intro i hi hne
    rw [hposted] at hi
    exact mem_of_ne_of_mem hne hi
  rcases hcases with ⟨hat, heq⟩ | ⟨awaiter, hmem, hid, _, heq⟩
  · rw [heq]
    have hnone : r.semaphore.waiters.filter (·.id ≠ id) =
        r.semaphore.waiters := by
      simpa [awaiterAt] using hat
    have := Queued.unlink h id hkept hfewer
    rw [hnone] at this
    exact this
  · rw [heq]
    exact Queued.unlink h id hkept hfewer

/-- What destroying a waiting coroutine does: nothing, its unserved request
leaves, or its permits come back and the queue is settled. -/
theorem destroyWaiter_cases (r : SemaphoreRun) (id : Nat) :
    (r.semaphore.awaiterAt id = none ∧ r.destroyWaiter id = r) ∨
    ∃ awaiter ∈ r.semaphore.waiters, awaiter.id = id ∧
      ((awaiter.grantedCount = 0 ∧
          r.destroyWaiter id = { r with
            semaphore := r.semaphore.unlinkAwaiter id }) ∨
        (awaiter.grantedCount ≠ 0 ∧
          r.destroyWaiter id = r.granting ((r.semaphore.unlinkAwaiter
            id).returnFromDestructor awaiter.grantedCount))) := by
  rw [SemaphoreRun.destroyWaiter]
  cases hat : r.semaphore.awaiterAt id with
  | none => exact .inl ⟨rfl, rfl⟩
  | some awaiter =>
    obtain ⟨hmem, hid⟩ := awaiterAt_some hat
    refine .inr ⟨awaiter, hmem, hid, ?_⟩
    dsimp only
    rw [destroyAwaiter, hid]
    by_cases hzero : awaiter.grantedCount = 0
    · rw [if_neg (by omega)]
      refine .inl ⟨hzero, ?_⟩
      simp [SemaphoreRun.granting]
    · rw [if_pos hzero]
      exact .inr ⟨hzero, rfl⟩

theorem InOrder.destroyWaiter (h : r.InOrder) (id : Nat) : (r.destroyWaiter id).InOrder := by
  have hunlinked := Queued.unlink h id (fun _ hi _ => hi) (fun _ hi => hi)
  rcases destroyWaiter_cases r id with
    ⟨_, heq⟩ | ⟨awaiter, _, _, ⟨_, heq⟩ | ⟨_, heq⟩⟩
  · rw [heq]
    exact h
  · rw [heq]
    exact hunlinked
  · rw [heq, returnFromDestructor_eq]
    exact InOrder.granting hunlinked _ _

theorem InOrder.step (h : r.InOrder) (event : SemaphoreEvent) : (r.step event).InOrder := by
  cases event with
  | acquire permitCount ticketAllocated =>
    exact h.acquire permitCount ticketAllocated
  | tryAcquire permitCount => exact h.tryAcquire permitCount
  | release permitCount => exact h.release permitCount
  | destroyPermit index => exact h.destroyPermit index
  | keepAsCount index => exact h.keepAsCount index
  | resumeNext => exact h.resumeNext
  | destroyWaiter id => exact h.destroyWaiter id

end SemaphoreRun

end AsynGyanis.Core
