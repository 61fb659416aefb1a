import AsynGyanis.Core.Scheduler

/-!
# Delivery by the scheduler

An accepted item is in exactly one place: in the container it was posted
to, in the batch the pass in progress has taken out, or among those run or
passed over. For each way of posting the books are kept apart (`books`):
in the three queues the items keep the order of posting, and in the stack
they do not. Next to the books the counters are the sizes of the locked
queues, and the items a call has taken out are counted by the call itself.
Each event keeps all of this, so every run does, whoever posts when, and
whatever throws.
-/

namespace AsynGyanis.Core

open Library List

/-! ## The books -/

def queueOf (s : Scheduler) : PostingSource → List Posting
  | .localHandle => s.localQueue
  | .localCallable => s.localCallables
  | .remoteHandle => s.globalQueue
  | .remoteCallable => s.remoteCallables

/-- What the pass in progress has taken out and not yet run. -/
def handOf : Next → PostingSource → List Posting
  | .batch _ handles _, .remoteHandle => handles
  | .batch callables _ _, .remoteCallable => callables
  | _, _ => []

def acceptedOf (accepted : List Posting) (source : PostingSource) : List Posting :=
  accepted.filter (·.source = source)

def dispatchedOf (dispatched : List (Posting × DispatchOutcome))
    (source : PostingSource) : List Posting :=
  acceptedOf (dispatched.map (·.1)) source

/-- The items posted one way, wherever they are by now: run or passed over,
in hand, waiting. -/
def books (r : SchedulerRun) (source : PostingSource) : List Posting :=
  dispatchedOf r.dispatched source ++ handOf r.next source ++ queueOf r.scheduler source

/-- The books hold what was accepted; in order, but for the stack. -/
def Tally (source : PostingSource) (accepted entered : List Posting) : Prop :=
  accepted.Perm entered ∧ (source ≠ .localHandle → accepted = entered)

theorem Tally.refl (source : PostingSource) (entered : List Posting) :
    Tally source entered entered := ⟨List.Perm.refl entered, fun _ => rfl⟩

theorem Tally.trans {source : PostingSource} {first second third : List Posting}
    (h : Tally source first second) (h' : Tally source second third) :
    Tally source first third :=
  ⟨h.1.trans h'.1, fun hsource => (h.2 hsource).trans (h'.2 hsource)⟩

theorem Tally.append {source : PostingSource} {accepted entered : List Posting}
    (h : Tally source accepted entered) (more : List Posting) :
    Tally source (accepted ++ more) (entered ++ more) :=
  ⟨h.1.append_right more, fun hsource => by rw [h.2 hsource]⟩

theorem acceptedOf_append (accepted more : List Posting) (source : PostingSource) :
    acceptedOf (accepted ++ more) source = acceptedOf accepted source ++ acceptedOf more source :=
  filter_append accepted more

theorem acceptedOf_self {posting : Posting} {source : PostingSource}
    (h : posting.source = source) : acceptedOf [posting] source = [posting] := by
  simp [acceptedOf, h]

theorem acceptedOf_other {posting : Posting} {source : PostingSource}
    (h : posting.source ≠ source) : acceptedOf [posting] source = [] := by
  simp [acceptedOf, h]

theorem dispatchedOf_append (dispatched : List (Posting × DispatchOutcome))
    (posting : Posting) (outcome : DispatchOutcome) (source : PostingSource) :
    dispatchedOf (dispatched ++ [(posting, outcome)]) source =
      dispatchedOf dispatched source ++ acceptedOf [posting] source := by
  rw [dispatchedOf, map_append, acceptedOf_append]
  rfl

/-- The counters repeat the sizes, and the limit holds. -/
def Counted (s : Scheduler) : Prop := s.globalCount = s.globalQueue.length ∧
    s.remoteCallableCount = s.remoteCallables.length ∧
    s.globalQueue.length + s.remoteCallables.length ≤ kMaximumRemoteBacklog

namespace SchedulerRun

variable {r : SchedulerRun}

/-- Every accepted item is in one place, the counters are right, the items
are numbered as they came, and nobody was passed over whose coroutine had
not come to its end. -/
structure Delivered (r : SchedulerRun) : Prop where
  tally : ∀ source, Tally source (acceptedOf r.accepted source) (books r source)
  counted : Counted r.scheduler
  numbered : r.accepted.map (·.id) = range r.accepted.length
  passedOver : ∀ d ∈ r.dispatched, d.2 = .skipped → d.1.coroutine.any (· ∈ r.finished) = true

variable {posting : Posting}

theorem Delivered.source_of_queue (h : r.Delivered) {source : PostingSource}
    (hmem : posting ∈ queueOf r.scheduler source) : posting.source = source := by
  have haccepted : posting ∈ acceptedOf r.accepted source :=
    (h.tally source).1.mem_iff.mpr (mem_append_right _ hmem)
  simpa using (mem_filter.mp haccepted).2

theorem Delivered.source_of_hand (h : r.Delivered) {source : PostingSource}
    (hmem : posting ∈ handOf r.next source) : posting.source = source := by
  have haccepted : posting ∈ acceptedOf r.accepted source :=
    (h.tally source).1.mem_iff.mpr (mem_append_left _ (mem_append_right _ hmem))
  simpa using (mem_filter.mp haccepted).2

/-! ## Acceptance -/

theorem Delivered.accept (h : r.Delivered) {source : PostingSource}
    {coroutine : Option Nat} {s : Scheduler}
    (hqueue : Tally source (queueOf r.scheduler source ++
      [r.posting source coroutine]) (queueOf s source))
    (hothers : ∀ other, other ≠ source →
      queueOf s other = queueOf r.scheduler other) (hcounted : Counted s) :
    (r.accept (r.posting source coroutine) s).Delivered := by
  refine ⟨?_, hcounted, ?_, h.passedOver⟩
  · intro other
    show Tally other (acceptedOf (r.accepted ++ [r.posting source coroutine])
      other) (dispatchedOf r.dispatched other ++ handOf r.next other ++ queueOf s other)
    rw [acceptedOf_append]
    by_cases hsame : other = source
    · subst hsame
      rw [@acceptedOf_self (r.posting other coroutine) other rfl]
      refine ((h.tally other).append _).trans ?_
      rw [books, append_assoc]
      exact ⟨hqueue.1.append_left _, fun hother => by rw [hqueue.2 hother]⟩
    · have hne : (r.posting source coroutine).source ≠ other := fun heq => hsame heq.symm
      rw [acceptedOf_other hne, append_nil, hothers other hsame]
      exact h.tally other
  · show (r.accepted ++ [r.posting source coroutine]).map (·.id) =
      range (r.accepted ++ [r.posting source coroutine]).length
    rw [map_append, h.numbered, length_append, length_singleton, range_succ]
    rfl

theorem Delivered.schedule (h : r.Delivered) (handle : Option Nat) :
    (r.schedule handle).Delivered := by
  rw [SchedulerRun.schedule.eq_def]
  split
  · exact h
  split
  · refine h.accept ?_ ?_ h.counted
    · refine ⟨?_, fun hne => absurd rfl hne⟩
      exact perm_append_singleton _ _
    intro other hne
    cases other
    · exact absurd rfl hne
    · rfl
    · rfl
    · rfl
  · exact h

theorem Delivered.postLocal (h : r.Delivered) (isBound : Bool) :
    (r.postLocal isBound).Delivered := by
  rw [SchedulerRun.postLocal]
  split
  · refine h.accept (Tally.refl _ _) ?_ h.counted
    intro other hne
    cases other
    · rfl
    · exact absurd rfl hne
    · rfl
    · rfl
  · exact h

theorem Delivered.saturated (h : r.Delivered) :
    Delivered { r with scheduler := r.scheduler.noteRemoteQueueSaturation } := by
  refine ⟨?_, h.counted, h.numbered, h.passedOver⟩
  intro source
  have htally := h.tally source
  cases source <;> exact htally

theorem Delivered.scheduleRemote (h : r.Delivered) (handle : Option Nat) :
    (r.scheduleRemote handle).Delivered := by
  rw [SchedulerRun.scheduleRemote.eq_def]
  split
  · exact h
  split
  · next hroom =>
    have hroom : r.scheduler.globalQueue.length +
        r.scheduler.remoteCallables.length < kMaximumRemoteBacklog := by
      simpa [Scheduler.hasRemoteRoom] using hroom
    obtain ⟨hglobal, hremote, _⟩ := h.counted
    refine h.accept (Tally.refl _ _) ?_ ⟨?_, hremote, ?_⟩
    · intro other hne
      cases other
      · rfl
      · rfl
      · exact absurd rfl hne
      · rfl
    · show r.scheduler.globalCount + 1 = (r.scheduler.globalQueue ++ [_]).length
      rw [length_append, length_singleton, hglobal]
    · show (r.scheduler.globalQueue ++ [_]).length +
        r.scheduler.remoteCallables.length ≤ kMaximumRemoteBacklog
      rw [length_append, length_singleton]
      omega
  · exact h.saturated

theorem Delivered.tryPostRemote (h : r.Delivered) (isBound : Bool) :
    (r.tryPostRemote isBound).Delivered := by
  rw [SchedulerRun.tryPostRemote]
  split
  · split
    · next hroom =>
      have hroom : r.scheduler.globalQueue.length +
          r.scheduler.remoteCallables.length < kMaximumRemoteBacklog := by
        simpa [Scheduler.hasRemoteRoom] using hroom
      obtain ⟨hglobal, hremote, _⟩ := h.counted
      refine h.accept (Tally.refl _ _) ?_ ⟨hglobal, ?_, ?_⟩
      · intro other hne
        cases other
        · rfl
        · rfl
        · rfl
        · exact absurd rfl hne
      · show r.scheduler.remoteCallableCount + 1 = (r.scheduler.remoteCallables ++ [_]).length
        rw [length_append, length_singleton, hremote]
      · show r.scheduler.globalQueue.length +
          (r.scheduler.remoteCallables ++ [_]).length ≤ kMaximumRemoteBacklog
        rw [length_append, length_singleton]
        omega
    · exact h.saturated
  · exact h

/-! ## Taking out -/

/-- An item has begun to run, or has been passed over. -/
structure Dispatches (r : SchedulerRun) (posting : Posting)
    (r' : SchedulerRun) : Prop where
  queues : queueOf r'.scheduler = queueOf r.scheduler
  counted : Counted r.scheduler → Counted r'.scheduler
  next : r'.next = r.next
  finished : r'.finished = r.finished
  accepted : r'.accepted = r.accepted
  taken : r'.takenThisPass = r.takenThisPass
  logged : ∃ outcome, r'.dispatched = r.dispatched ++ [(posting, outcome)] ∧
    (outcome = .skipped → posting.coroutine.any (· ∈ r.finished) = true)

theorem execute_dispatches (r : SchedulerRun) (posting : Posting) :
    Dispatches r posting (r.execute posting) :=
  ⟨rfl, fun h => h, rfl, rfl, rfl, rfl, .ran, rfl, nofun⟩

theorem dispatchHandle_dispatches (r : SchedulerRun) (posting : Posting) :
    Dispatches r posting (r.dispatchHandle posting) := by
  rw [dispatchHandle]
  split
  · next hfinished =>
    refine ⟨?_, fun h => h, rfl, rfl, rfl, rfl, .skipped, rfl, fun _ => hfinished⟩
    funext source
    cases source <;> rfl
  · exact execute_dispatches r posting

theorem Delivered.dispatch {r r' : SchedulerRun}
    {middle : SchedulerRun} (h : r.Delivered) (source : PostingSource)
    (hdispatches : Dispatches middle posting r') (hsource : posting.source = source)
    (haccepted : middle.accepted = r.accepted) (hdispatched : middle.dispatched = r.dispatched)
    (hfinished : middle.finished = r.finished) (hcounted : Counted middle.scheduler)
    (hfirst : handOf r.next source ++ queueOf r.scheduler source =
      posting :: (handOf middle.next source ++ queueOf middle.scheduler source))
    (hothers : ∀ other, other ≠ source →
      handOf middle.next other ++ queueOf middle.scheduler other =
        handOf r.next other ++ queueOf r.scheduler other) : r'.Delivered := by
  obtain ⟨outcome, hlog, hskipped⟩ := hdispatches.logged
  refine ⟨?_, hdispatches.counted hcounted, ?_, ?_⟩
  · intro other
    have htally := h.tally other
    rw [books, append_assoc] at htally ⊢
    rw [hlog, hdispatched, dispatchedOf_append, hdispatches.queues,
      hdispatches.next, hdispatches.accepted, haccepted]
    by_cases hsame : other = source
    · subst hsame
      rw [acceptedOf_self hsource, append_assoc, singleton_append, ← hfirst]
      exact htally
    · rw [acceptedOf_other (fun heq => hsame (heq.symm.trans hsource)),
        append_nil, hothers other hsame]
      exact htally
  · rw [hdispatches.accepted, haccepted]
    exact h.numbered
  · intro d hd hout
    rw [hdispatches.finished, hfinished]
    rw [hlog, hdispatched] at hd
    rcases mem_append.mp hd with hd | hd
    · exact h.passedOver d hd hout
    rw [mem_singleton.mp hd] at hout ⊢
    rw [← hfinished]
    exact hskipped hout

/-! ### The queues one section or one drain step takes from -/

/-- No batch is in hand. -/
def HandEmpty (next : Next) : Prop := ∀ source, handOf next source = []

theorem Delivered.takeFirst {r r' : SchedulerRun}
    {s : Scheduler} {next : Next} (h : r.Delivered) (source : PostingSource)
    (hdispatches : Dispatches (r.took s next) posting r')
    (hhand : HandEmpty r.next) (hhand' : HandEmpty next)
    (hqueue : queueOf r.scheduler source = posting :: queueOf s source)
    (hothers : ∀ other, other ≠ source → queueOf s other = queueOf r.scheduler other)
    (hcounted : Counted s) : r'.Delivered := by
  have hsource : posting.source = source := h.source_of_queue (by
    rw [hqueue]
    exact mem_cons_self)
  refine h.dispatch source hdispatches hsource rfl rfl rfl hcounted ?_ ?_
  · show handOf r.next source ++ queueOf r.scheduler source =
      posting :: (handOf next source ++ queueOf s source)
    rw [hhand, hhand', hqueue]
    rfl
  intro other hne
  show handOf next other ++ queueOf s other = handOf r.next other ++ queueOf r.scheduler other
  rw [hhand, hhand', hothers other hne]

theorem Delivered.goTo (h : r.Delivered) {next : Next} (taken : Nat)
    (hhand : HandEmpty r.next) (hhand' : HandEmpty next) :
    Delivered { r with next, takenThisPass := taken } := by
  refine ⟨?_, h.counted, h.numbered, h.passedOver⟩
  intro source
  have htally := h.tally source
  rw [books, hhand] at htally
  show Tally source (acceptedOf r.accepted source)
    (dispatchedOf r.dispatched source ++ handOf next source ++ queueOf r.scheduler source)
  rw [hhand']
  exact htally

theorem Delivered.oneRemote (h : r.Delivered) (hhand : HandEmpty r.next) :
    r.oneRemote.Delivered := by
  rw [SchedulerRun.oneRemote]
  split
  · next posting rest hqueue =>
    obtain ⟨hglobal, hremote, hroom⟩ := h.counted
    rw [hqueue, length_cons] at hremote hroom
    refine h.takeFirst .remoteCallable (execute_dispatches _ posting) hhand
      (fun _ => rfl) hqueue ?_ ⟨hglobal, ?_, ?_⟩
    · intro other hne
      cases other
      · rfl
      · rfl
      · rfl
      · exact absurd rfl hne
    · show r.scheduler.remoteCallableCount - 1 = rest.length
      omega
    · show r.scheduler.globalQueue.length + rest.length ≤ kMaximumRemoteBacklog
      omega
  · exact h.goTo r.takenThisPass hhand fun _ => rfl

/-- The two local containers: callables first, then the stack. What happens
when both are empty is left open. -/
theorem Delivered.takeLocal (h : r.Delivered) (hhand : HandEmpty r.next)
    {next : Next} (hhand' : HandEmpty next) :
    (∀ posting rest, r.scheduler.localCallables = posting :: rest →
      ((r.took { r.scheduler with localCallables := rest } next).execute posting).Delivered) ∧
    ∀ posting rest, r.scheduler.localQueue = posting :: rest →
      ((r.took { r.scheduler with localQueue := rest } next).dispatchHandle posting).Delivered := by
  constructor
  · intro posting rest hqueue
    refine h.takeFirst .localCallable
      (execute_dispatches _ posting) hhand hhand' hqueue ?_ h.counted
    intro other hne
    cases other
    · rfl
    · exact absurd rfl hne
    · rfl
    · rfl
  intro posting rest hqueue
  refine h.takeFirst .localHandle
    (dispatchHandle_dispatches _ posting) hhand hhand' hqueue ?_ h.counted
  intro other hne
  cases other
  · exact absurd rfl hne
  · rfl
  · rfl
  · rfl

theorem Delivered.oneLocal (h : r.Delivered) (hhand : HandEmpty r.next) :
    r.oneLocal.Delivered := by
  obtain ⟨hcallable, hhandle⟩ := @Delivered.takeLocal r h hhand .idle fun _ => rfl
  rw [SchedulerRun.oneLocal]
  split
  · next posting rest hqueue => exact hcallable posting rest hqueue
  split
  · next posting rest hqueue => exact hhandle posting rest hqueue
  · exact h.goTo r.takenThisPass hhand fun _ => rfl

theorem Delivered.oneGlobal (h : r.Delivered) (hhand : HandEmpty r.next) :
    r.oneGlobal.Delivered := by
  rw [SchedulerRun.oneGlobal]
  split
  · next posting rest hqueue =>
    obtain ⟨hglobal, hremote, hroom⟩ := h.counted
    rw [hqueue, length_cons] at hglobal hroom
    refine h.takeFirst .remoteHandle
      (dispatchHandle_dispatches _ posting) hhand (fun _ => rfl) hqueue ?_
      ⟨?_, hremote, ?_⟩
    · intro other hne
      cases other
      · rfl
      · rfl
      · exact absurd rfl hne
      · rfl
    · show r.scheduler.globalCount - 1 = rest.length
      omega
    · show rest.length + r.scheduler.remoteCallables.length ≤ kMaximumRemoteBacklog
      omega
  · exact h.goTo r.takenThisPass hhand fun _ => rfl

theorem Delivered.leaveDrain (h : r.Delivered) (hhand : HandEmpty r.next)
    (taken : Nat) (isFirst : Bool) : (r.leaveDrain taken isFirst).Delivered := by
  rw [SchedulerRun.leaveDrain]
  split
  · exact h.goTo r.takenThisPass hhand fun _ => rfl
  · exact h.goTo r.takenThisPass hhand fun _ => rfl

theorem Delivered.drain (h : r.Delivered) (hhand : HandEmpty r.next)
    (budget drained before : Nat) (isFirst : Bool) :
    (r.drain budget drained before isFirst).Delivered := by
  obtain ⟨hcallable, hhandle⟩ := @Delivered.takeLocal r h hhand
    (.drain budget (drained + 1) before isFirst) fun _ => rfl
  rw [SchedulerRun.drain]
  split
  · split
    · next posting rest hqueue => exact hcallable posting rest hqueue
    split
    · next posting rest hqueue => exact hhandle posting rest hqueue
    · exact h.leaveDrain hhand _ isFirst
  · exact h.leaveDrain hhand _ isFirst

/-! ### Batches -/

theorem Delivered.fetch (h : r.Delivered) (hhand : HandEmpty r.next)
    (taken : Nat) : (r.fetch taken).Delivered := by
  obtain ⟨hglobal, hremote, hroom⟩ := h.counted
  -- the section moves the front of both queues, and nothing else
  have hmoved : ∀ source,
      handOf (.batch (r.scheduler.takeBatch (kMaximumItemsPerPass - taken)).2.1
          (r.scheduler.takeBatch (kMaximumItemsPerPass - taken)).2.2 0) source ++
        queueOf (r.scheduler.takeBatch (kMaximumItemsPerPass - taken)).1 source =
      queueOf r.scheduler source := by
    intro source
    cases source
    · rfl
    · rfl
    · exact take_append_drop _ _
    · exact take_append_drop _ _
  have hcounted : Counted (r.scheduler.takeBatch (kMaximumItemsPerPass - taken)).1 := by
    refine ⟨?_, ?_, ?_⟩
    · show r.scheduler.globalCount - (r.scheduler.globalQueue.take _).length =
        (r.scheduler.globalQueue.drop _).length
      rw [length_take, length_drop]
      omega
    · show r.scheduler.remoteCallableCount - (r.scheduler.remoteCallables.take _).length =
        (r.scheduler.remoteCallables.drop _).length
      rw [length_take, length_drop]
      omega
    · show (r.scheduler.globalQueue.drop _).length +
        (r.scheduler.remoteCallables.drop _).length ≤ kMaximumRemoteBacklog
      rw [length_drop, length_drop]
      omega
  have htally : ∀ source, Tally source (acceptedOf r.accepted source)
      (dispatchedOf r.dispatched source ++
        (handOf (.batch (r.scheduler.takeBatch (kMaximumItemsPerPass - taken)).2.1
          (r.scheduler.takeBatch (kMaximumItemsPerPass - taken)).2.2 0) source ++
        queueOf (r.scheduler.takeBatch (kMaximumItemsPerPass - taken)).1 source)) := by
    intro source
    have htally := h.tally source
    rw [books, hhand, append_nil] at htally
    rw [hmoved source]
    exact htally
  rw [SchedulerRun.fetch]
  dsimp only
  split
  · next hnothing =>
    refine ⟨?_, hcounted, h.numbered, h.passedOver⟩
    intro source
    have hbook := htally source
    obtain ⟨hcallables, hhandles⟩ := Bool.and_eq_true_iff.mp hnothing
    have hnone : handOf (.batch (r.scheduler.takeBatch (kMaximumItemsPerPass - taken)).2.1
        (r.scheduler.takeBatch (kMaximumItemsPerPass - taken)).2.2 0) source =
        [] := by
      cases source
      · rfl
      · rfl
      · exact isEmpty_iff.mp hhandles
      · exact isEmpty_iff.mp hcallables
    rw [hnone, ← append_assoc] at hbook
    exact hbook
  · refine ⟨?_, hcounted, h.numbered, h.passedOver⟩
    intro source
    have hbook := htally source
    rw [← append_assoc] at hbook
    cases source <;> exact hbook

theorem Delivered.runBatch (h : r.Delivered) {callables handles : List Posting}
    {taken : Nat} (hnext : r.next = .batch callables handles taken) :
    (r.runBatch callables handles taken).Delivered := by
  have hsource : ∀ source posting, posting ∈ handOf r.next source →
      posting.source = source := fun _ _ hmem => h.source_of_hand hmem
  rw [hnext] at hsource
  cases callables with
  | cons posting rest =>
    refine h.dispatch .remoteCallable
      (execute_dispatches { r with next := .batch rest handles taken }
        posting) (hsource .remoteCallable posting mem_cons_self) rfl rfl
      rfl h.counted ?_ ?_
    · rw [hnext]
      rfl
    intro other hne
    rw [hnext]
    cases other
    · rfl
    · rfl
    · rfl
    · exact absurd rfl hne
  | nil =>
    cases handles with
    | cons posting rest =>
      refine h.dispatch .remoteHandle
        (dispatchHandle_dispatches { r with next := .batch [] rest taken }
          posting) (hsource .remoteHandle posting mem_cons_self) rfl
        rfl rfl h.counted ?_ ?_
      · rw [hnext]
        rfl
      intro other hne
      rw [hnext]
      cases other
      · rfl
      · rfl
      · exact absurd rfl hne
      · rfl
    | nil =>
      have hhand : HandEmpty r.next := by
        intro source
        rw [hnext]
        cases source <;> rfl
      rw [SchedulerRun.runBatch]
      split
      · exact h.goTo r.takenThisPass hhand fun _ => rfl
      · exact h.goTo r.takenThisPass hhand fun _ => rfl

theorem Delivered.advance (h : r.Delivered) : r.advance.Delivered := by
  rw [SchedulerRun.advance]
  split
  · exact h
  split
  · exact h
  · next hnext => exact h.oneRemote fun _ => by rw [hnext]; rfl
  · next hnext => exact h.oneLocal fun _ => by rw [hnext]; rfl
  · next hnext => exact h.oneGlobal fun _ => by rw [hnext]; rfl
  · next budget drained before isFirst hnext =>
    exact h.drain (fun _ => by rw [hnext]; rfl) budget drained before isFirst
  · next taken hnext =>
    exact h.fetch (fun _ => by rw [hnext]; rfl) taken
  · next hnext => exact h.runBatch hnext

theorem Delivered.begins (h : r.Delivered) {next : Next}
    (hhand : HandEmpty next) : (r.begins next).Delivered := by
  rw [SchedulerRun.begins]
  split
  · next hidle =>
    have hidle : r.next = .idle := by
      have hboth := (Bool.and_eq_true_iff.mp hidle).2
      simpa using hboth
    refine h.goTo 0 (fun _ => by rw [hidle]; rfl) hhand
  · exact h

theorem Delivered.itemEnds (h : r.Delivered) (threw : Bool) : (r.itemEnds threw).Delivered := by
  rw [SchedulerRun.itemEnds]
  split
  · exact h
  split
  · refine ⟨?_, h.counted, h.numbered, h.passedOver⟩
    intro source
    have htally := h.tally source
    cases source <;> exact htally
  · exact ⟨h.tally, h.counted, h.numbered, h.passedOver⟩

theorem Delivered.coroutineFinishes (h : r.Delivered) (coroutine : Nat) :
    Delivered { r with finished := coroutine :: r.finished } := by
  refine ⟨h.tally, h.counted, h.numbered, ?_⟩
  intro d hd hout
  have hfinished := h.passedOver d hd hout
  cases hcoroutine : d.1.coroutine with
  | none =>
    rw [hcoroutine] at hfinished
    cases hfinished
  | some c =>
    rw [hcoroutine] at hfinished
    have hmem : c ∈ r.finished := by simpa using hfinished
    simpa using .inr hmem

theorem Delivered.step (h : r.Delivered) (event : SchedulerEvent) : (r.step event).Delivered := by
  cases event with
  | schedule handle => exact h.schedule handle
  | postLocal isBound => exact h.postLocal isBound
  | scheduleRemote handle => exact h.scheduleRemote handle
  | tryPostRemote isBound => exact h.tryPostRemote isBound
  | coroutineFinishes coroutine => exact h.coroutineFinishes coroutine
  | runOne => exact h.begins fun _ => rfl
  | runAll => exact h.begins fun _ => rfl
  | advance => exact h.advance
  | itemEnds threw => exact h.itemEnds threw

end SchedulerRun

end AsynGyanis.Core
