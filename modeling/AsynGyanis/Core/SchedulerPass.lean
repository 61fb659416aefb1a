import AsynGyanis.Core.SchedulerDelivery

/-!
# Passes of the scheduler

A pass keeps one count of what it has taken, in four places: the budget of
the first drain, the room left when it takes a batch, the room left for the
drain behind it, and the check that ends it. `PassKept` says where the
count stands at each point, which bounds it by what a pass may take; the
subtraction in front of a batch is therefore one of a smaller from a larger
number. A pass that begins with work takes some of it.
-/

namespace AsynGyanis.Core

open Library List

namespace SchedulerRun

/-! ## The count of a pass -/

variable {r : SchedulerRun}

/-- What the call has taken out, where it stands. -/
def PassKept (next : Next) (takenThisPass : Nat) : Prop :=
  match next with
  | .idle => takenThisPass ≤ kMaximumItemsPerPass
  | .oneRemote | .oneLocal | .oneGlobal => takenThisPass = 0
  | .drain budget drained before _ =>
    drained ≤ budget ∧ before + budget = kMaximumItemsPerPass ∧ takenThisPass = before + drained
  | .fetch taken | .batch _ _ taken =>
    taken ≤ kMaximumItemsPerPass ∧ takenThisPass = taken

theorem PassKept.dispatches {middle r' : SchedulerRun} {posting : Posting}
    (hdispatches : Dispatches middle posting r')
    (h : PassKept middle.next middle.takenThisPass) : PassKept r'.next r'.takenThisPass := by
  rw [hdispatches.next, hdispatches.taken]
  exact h

theorem PassKept.takeOne {r r' : SchedulerRun} {posting : Posting}
    {s : Scheduler} (hzero : r.takenThisPass = 0)
    (hdispatches : Dispatches (r.took s .idle) posting r') :
    PassKept r'.next r'.takenThisPass := by
  refine PassKept.dispatches hdispatches ?_
  show r.takenThisPass + 1 ≤ kMaximumItemsPerPass
  rw [hzero]
  decide

theorem PassKept.oneRemote (h : r.takenThisPass = 0) :
    PassKept r.oneRemote.next r.oneRemote.takenThisPass := by
  rw [SchedulerRun.oneRemote]
  split
  · exact takeOne h (execute_dispatches _ _)
  · exact h

theorem PassKept.oneLocal (h : r.takenThisPass = 0) :
    PassKept r.oneLocal.next r.oneLocal.takenThisPass := by
  rw [SchedulerRun.oneLocal]
  split
  · exact takeOne h (execute_dispatches _ _)
  split
  · exact takeOne h (dispatchHandle_dispatches _ _)
  · exact h

theorem PassKept.oneGlobal (h : r.takenThisPass = 0) :
    PassKept r.oneGlobal.next r.oneGlobal.takenThisPass := by
  rw [SchedulerRun.oneGlobal]
  split
  · exact takeOne h (dispatchHandle_dispatches _ _)
  · show r.takenThisPass ≤ kMaximumItemsPerPass
    omega

theorem PassKept.leaveDrain {taken : Nat} (hle : taken ≤ kMaximumItemsPerPass)
    (htaken : r.takenThisPass = taken) (isFirst : Bool) :
    PassKept (r.leaveDrain taken isFirst).next (r.leaveDrain taken isFirst).takenThisPass := by
  rw [SchedulerRun.leaveDrain]
  split
  · exact ⟨hle, htaken⟩
  · show r.takenThisPass ≤ kMaximumItemsPerPass
    omega

theorem PassKept.drain {budget drained before : Nat} {isFirst : Bool}
    (h : PassKept (.drain budget drained before isFirst) r.takenThisPass) :
    PassKept (r.drain budget drained before isFirst).next
      (r.drain budget drained before isFirst).takenThisPass := by
  obtain ⟨hdrained, hbudget, htaken⟩ := h
  have htook : drained < budget → PassKept (.drain budget (drained + 1) before isFirst)
        (r.takenThisPass + 1) := fun hlt => ⟨hlt, hbudget, by omega⟩
  rw [SchedulerRun.drain]
  split
  · next hlt =>
    split
    · exact dispatches (execute_dispatches _ _) (htook hlt)
    split
    · exact dispatches (dispatchHandle_dispatches _ _) (htook hlt)
    · exact leaveDrain (by omega) htaken isFirst
  · exact leaveDrain (by omega) htaken isFirst

theorem takeBatch_length_le (s : Scheduler) (passRemaining : Nat) :
    (s.takeBatch passRemaining).2.2.length +
      (s.takeBatch passRemaining).2.1.length ≤ passRemaining := by
  show (s.globalQueue.take (passRemaining - (s.remoteCallables.take passRemaining).length)).length +
    (s.remoteCallables.take passRemaining).length ≤ passRemaining
  rw [length_take, length_take]
  omega

theorem PassKept.fetch {taken : Nat} (h : PassKept (.fetch taken) r.takenThisPass) :
    PassKept (r.fetch taken).next (r.fetch taken).takenThisPass := by
  obtain ⟨hle, htaken⟩ := h
  have hbatch := takeBatch_length_le r.scheduler (kMaximumItemsPerPass - taken)
  rw [SchedulerRun.fetch]
  generalize r.scheduler.takeBatch (kMaximumItemsPerPass - taken) = outcome at hbatch ⊢
  obtain ⟨scheduler, callables, handles⟩ := outcome
  have hbatch : handles.length + callables.length ≤ kMaximumItemsPerPass - taken := hbatch
  dsimp only
  split
  · show r.takenThisPass ≤ kMaximumItemsPerPass
    omega
  refine ⟨by omega, ?_⟩
  show r.takenThisPass + (handles.length + callables.length) =
    taken + (handles.length + callables.length)
  omega

theorem PassKept.runBatch {callables handles : List Posting} {taken : Nat}
    (h : PassKept (.batch callables handles taken) r.takenThisPass) :
    PassKept (r.runBatch callables handles taken).next
      (r.runBatch callables handles taken).takenThisPass := by
  obtain ⟨hle, htaken⟩ := h
  cases callables with
  | cons posting rest =>
    exact dispatches (execute_dispatches _ _) ⟨hle, htaken⟩
  | nil =>
    cases handles with
    | cons posting rest =>
      exact dispatches (dispatchHandle_dispatches _ _) ⟨hle, htaken⟩
    | nil =>
      rw [SchedulerRun.runBatch]
      split
      · exact ⟨Nat.zero_le _, by omega, htaken⟩
      · show r.takenThisPass ≤ kMaximumItemsPerPass
        omega

theorem PassKept.advance (h : PassKept r.next r.takenThisPass) :
    PassKept r.advance.next r.advance.takenThisPass := by
  rw [SchedulerRun.advance]
  split
  · exact h
  split
  · next hnext =>
    exact h
  · next hnext =>
    rw [hnext] at h
    exact oneRemote h
  · next hnext =>
    rw [hnext] at h
    exact oneLocal h
  · next hnext =>
    rw [hnext] at h
    exact oneGlobal h
  · next hnext =>
    rw [hnext] at h
    exact drain h
  · next hnext =>
    rw [hnext] at h
    exact fetch h
  · next hnext =>
    rw [hnext] at h
    exact runBatch h

theorem same_call {event : SchedulerEvent} (hadvance : event ≠ .advance)
    (hone : event ≠ .runOne) (hall : event ≠ .runAll) :
    (r.step event).next = r.next ∧ (r.step event).takenThisPass = r.takenThisPass := by
  cases event with
  | schedule handle =>
    rw [step, SchedulerRun.schedule.eq_def]
    split
    · exact ⟨rfl, rfl⟩
    · split <;> exact ⟨rfl, rfl⟩
  | postLocal isBound =>
    rw [step, SchedulerRun.postLocal]
    split <;> exact ⟨rfl, rfl⟩
  | scheduleRemote handle =>
    rw [step, SchedulerRun.scheduleRemote.eq_def]
    split
    · exact ⟨rfl, rfl⟩
    · split <;> exact ⟨rfl, rfl⟩
  | tryPostRemote isBound =>
    rw [step, SchedulerRun.tryPostRemote]
    split
    · split <;> exact ⟨rfl, rfl⟩
    · exact ⟨rfl, rfl⟩
  | coroutineFinishes coroutine => exact ⟨rfl, rfl⟩
  | runOne => exact absurd rfl hone
  | runAll => exact absurd rfl hall
  | advance => exact absurd rfl hadvance
  | itemEnds threw =>
    rw [step, SchedulerRun.itemEnds]
    split
    · exact ⟨rfl, rfl⟩
    · split <;> exact ⟨rfl, rfl⟩

theorem PassKept.begins (h : PassKept r.next r.takenThisPass) {next : Next}
    (hfirst : PassKept next 0) :
    PassKept (r.begins next).next (r.begins next).takenThisPass := by
  rw [SchedulerRun.begins]
  split
  · exact hfirst
  · exact h

theorem PassKept.step (h : PassKept r.next r.takenThisPass) (event : SchedulerEvent) :
    PassKept (r.step event).next (r.step event).takenThisPass := by
  by_cases hadvance : event = .advance
  · subst hadvance
    exact h.advance
  by_cases hone : event = .runOne
  · subst hone
    exact h.begins rfl
  by_cases hall : event = .runAll
  · subst hall
    exact h.begins ⟨Nat.zero_le _, by decide, rfl⟩
  obtain ⟨hnext, htaken⟩ := @same_call r event hadvance hone hall
  rw [hnext, htaken]
  exact h

/-! ## A pass makes progress -/

/-- A pass that has taken nothing still has something ahead of it. -/
def Fruitful (r : SchedulerRun) : Prop :=
  r.takenThisPass = 0 → ∃ source, queueOf r.scheduler source ≠ [] ∧
    ((∃ budget drained before isFirst, r.next = .drain budget drained before isFirst) ∨
      ((∃ taken, r.next = .fetch taken) ∧ (source = .remoteHandle ∨ source = .remoteCallable)))

theorem queueOf_step {event : SchedulerEvent} (hadvance : event ≠ .advance)
    (source : PostingSource) (h : queueOf r.scheduler source ≠ []) :
    queueOf (r.step event).scheduler source ≠ [] := by
  cases event with
  | schedule handle =>
    rw [step, SchedulerRun.schedule.eq_def]
    split
    · exact h
    split
    · cases source
      · exact cons_ne_nil _ _
      · exact h
      · exact h
      · exact h
    · exact h
  | postLocal isBound =>
    rw [step, SchedulerRun.postLocal]
    split
    · cases source
      · exact h
      · exact append_ne_nil_of_left_ne_nil h _
      · exact h
      · exact h
    · exact h
  | scheduleRemote handle =>
    rw [step, SchedulerRun.scheduleRemote.eq_def]
    split
    · exact h
    split
    · cases source
      · exact h
      · exact h
      · exact append_ne_nil_of_left_ne_nil h _
      · exact h
    · cases source <;> exact h
  | tryPostRemote isBound =>
    rw [step, SchedulerRun.tryPostRemote]
    split
    · split
      · cases source
        · exact h
        · exact h
        · exact h
        · exact append_ne_nil_of_left_ne_nil h _
      · cases source <;> exact h
    · exact h
  | coroutineFinishes coroutine => exact h
  | runOne =>
    rw [step, SchedulerRun.begins]
    split <;> exact h
  | runAll =>
    rw [step, SchedulerRun.begins]
    split <;> exact h
  | advance => exact absurd rfl hadvance
  | itemEnds threw =>
    rw [step, SchedulerRun.itemEnds]
    split
    · exact h
    split
    · cases source <;> exact h
    · exact h

theorem fruitful_of_taken (h : r.takenThisPass ≠ 0) : r.Fruitful := fun hzero => absurd hzero h

theorem fruitful_of_dispatches {r r' : SchedulerRun} {posting : Posting}
    {s : Scheduler} {next : Next}
    (hdispatches : Dispatches (r.took s next) posting r') : r'.Fruitful := by
  refine fruitful_of_taken ?_
  rw [hdispatches.taken]
  exact Nat.succ_ne_zero r.takenThisPass

theorem Fruitful.drain (h : r.Fruitful) {budget drained before : Nat}
    {isFirst : Bool} (hnext : r.next = .drain budget drained before isFirst)
    (hkept : PassKept r.next r.takenThisPass) :
    (r.drain budget drained before isFirst).Fruitful := by
  rw [hnext] at hkept
  obtain ⟨hdrained, hbudget, htaken⟩ := hkept
  have hmax : (0 : Nat) < kMaximumItemsPerPass := by decide
  rw [SchedulerRun.drain]
  by_cases hzero : r.takenThisPass = 0
  · rw [if_pos (by omega)]
    split
    · exact fruitful_of_dispatches (execute_dispatches _ _)
    rename_i hcallables
    split
    · exact fruitful_of_dispatches (dispatchHandle_dispatches _ _)
    rename_i hlocal
    -- both local containers are empty, so the work is behind the lock
    obtain ⟨source, hsource, _⟩ := h hzero
    have hleave : r.leaveDrain (before + drained) isFirst =
        { r with next := .fetch (before + drained) } := by
      rw [SchedulerRun.leaveDrain, if_pos]
      rw [Bool.or_eq_true, decide_eq_true_eq]
      exact .inr (by omega)
    rw [hleave]
    intro _
    refine ⟨source, hsource, .inr ⟨⟨_, rfl⟩, ?_⟩⟩
    cases source with
    | localHandle => exact absurd hlocal hsource
    | localCallable => exact absurd hcallables hsource
    | remoteHandle => exact .inl rfl
    | remoteCallable => exact .inr rfl
  · have hleave : (r.leaveDrain (before + drained) isFirst).Fruitful := by
      refine fruitful_of_taken ?_
      rw [SchedulerRun.leaveDrain]
      split <;> exact hzero
    split
    · split
      · exact fruitful_of_dispatches (execute_dispatches _ _)
      split
      · exact fruitful_of_dispatches (dispatchHandle_dispatches _ _)
      · exact hleave
    · exact hleave

theorem Fruitful.fetch (h : r.Fruitful) {taken : Nat}
    (hnext : r.next = .fetch taken) (hkept : PassKept r.next r.takenThisPass) :
    (r.fetch taken).Fruitful := by
  rw [hnext] at hkept
  obtain ⟨hle, htaken⟩ := hkept
  have hmax : (0 : Nat) < kMaximumItemsPerPass := by decide
  by_cases hzero : r.takenThisPass = 0
  · obtain ⟨source, hsource, hplace⟩ := h hzero
    rw [hnext] at hplace
    have hremote : source = .remoteHandle ∨ source = .remoteCallable := by
      rcases hplace with ⟨_, _, _, _, hdrain⟩ | ⟨_, hremote⟩
      · cases hdrain
      · exact hremote
    have hsome : 0 < (r.scheduler.takeBatch (kMaximumItemsPerPass - taken)).2.2.length +
        (r.scheduler.takeBatch (kMaximumItemsPerPass - taken)).2.1.length := by
      show 0 < (r.scheduler.globalQueue.take (kMaximumItemsPerPass - taken -
          (r.scheduler.remoteCallables.take (kMaximumItemsPerPass - taken)).length)).length +
        (r.scheduler.remoteCallables.take (kMaximumItemsPerPass - taken)).length
      rw [length_take, length_take]
      rcases hremote with rfl | rfl
      · have : 0 < r.scheduler.globalQueue.length := length_pos_iff.mpr hsource
        omega
      have : 0 < r.scheduler.remoteCallables.length := length_pos_iff.mpr hsource
      omega
    rw [SchedulerRun.fetch]
    generalize r.scheduler.takeBatch (kMaximumItemsPerPass - taken) = outcome at hsome ⊢
    obtain ⟨scheduler, callables, handles⟩ := outcome
    have hsome : 0 < handles.length + callables.length := hsome
    dsimp only
    split
    · next hnothing =>
      obtain ⟨hcallables, hhandles⟩ := Bool.and_eq_true_iff.mp hnothing
      rw [isEmpty_iff.mp hcallables, isEmpty_iff.mp hhandles] at hsome
      exact absurd hsome (Nat.lt_irrefl 0)
    · refine fruitful_of_taken ?_
      show r.takenThisPass + (handles.length + callables.length) ≠ 0
      omega
  · refine fruitful_of_taken ?_
    rw [SchedulerRun.fetch]
    dsimp only
    split
    · exact hzero
    · show r.takenThisPass + _ ≠ 0
      omega

theorem Fruitful.advance (h : r.Fruitful)
    (hkept : PassKept r.next r.takenThisPass) : r.advance.Fruitful := by
  by_cases hzero : r.takenThisPass = 0
  · obtain ⟨source, hsource, hplace⟩ := h hzero
    rw [SchedulerRun.advance]
    split
    · exact h
    rcases hplace with ⟨budget, drained, before, isFirst, hnext⟩ | ⟨⟨taken, hnext⟩, _⟩
    · rw [hnext]
      exact h.drain hnext hkept
    · rw [hnext]
      exact h.fetch hnext hkept
  rw [SchedulerRun.advance]
  split
  · exact h
  split
  · exact h
  · next hnext =>
    rw [hnext] at hkept
    exact absurd hkept hzero
  · next hnext =>
    rw [hnext] at hkept
    exact absurd hkept hzero
  · next hnext =>
    rw [hnext] at hkept
    exact absurd hkept hzero
  · next hnext => exact h.drain hnext hkept
  · next hnext => exact h.fetch hnext hkept
  rename_i callables handles taken _
  refine fruitful_of_taken ?_
  cases callables with
  | cons posting rest => exact hzero
  | nil =>
    cases handles with
    | cons posting rest =>
      have := (dispatchHandle_dispatches { r with next := .batch [] rest taken } posting).taken
      show (dispatchHandle _ posting).takenThisPass ≠ 0
      rw [this]
      exact hzero
    | nil =>
      rw [SchedulerRun.runBatch]
      split <;> exact hzero

theorem Fruitful.step (h : r.Fruitful) (hkept : PassKept r.next r.takenThisPass)
    {event : SchedulerEvent} (hone : event ≠ .runOne) (hall : event ≠ .runAll) :
    (r.step event).Fruitful := by
  by_cases hadvance : event = .advance
  · subst hadvance
    exact h.advance hkept
  obtain ⟨hnext, htaken⟩ := @same_call r event hadvance hone hall
  intro hzero
  rw [htaken] at hzero
  obtain ⟨source, hsource, hplace⟩ := h hzero
  rw [hnext]
  exact ⟨source, queueOf_step hadvance source hsource, hplace⟩

/-! ## Runs -/

theorem Delivered.nodup (h : r.Delivered) : r.accepted.Nodup := by
  have hids : (r.accepted.map (·.id)).Nodup := by
    rw [h.numbered]
    exact nodup_range
  exact hids.of_map

theorem Fruitful.run (h : r.Fruitful) (hkept : PassKept r.next r.takenThisPass)
    (during : List SchedulerEvent)
    (hnone : ∀ event ∈ during, event ≠ .runOne ∧ event ≠ .runAll) :
    (during.foldl SchedulerRun.step r).Fruitful := by
  induction during generalizing r with
  | nil => exact h
  | cons event rest ih =>
    obtain ⟨hone, hall⟩ := hnone event mem_cons_self
    exact ih (h.step hkept hone hall) (hkept.step event)
      fun later hlater => hnone later (mem_cons_of_mem event hlater)

end SchedulerRun

end AsynGyanis.Core
