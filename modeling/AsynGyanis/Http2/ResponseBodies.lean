import AsynGyanis.Http2.BodyLedger
import AsynGyanis.Http2.StreamAccounts

/-!
# The bodies of responses

The accounts of `BodyLedger` bound what is sent. What is still missing is
that the connection does not sit on a body it could send. A connection is
drained if every stream with something queued has used up its own window
or the connection's. Only three events open a window or fill a queue: a
WINDOW_UPDATE, a SETTINGS frame and `sendResponseData`, and each of them
pumps the queues it concerns. The pump of one stream leaves the records of
the others alone and only takes from the connection window, so what was
drained stays drained (`PumpsOnly`).

`bodies_sent` puts the two together for whole runs.
-/

namespace AsynGyanis.Http2

open Library Relation SendQueue SortedMap List

/-! ## Drained connections -/

/-- A stream with something queued has no window left. -/
def StreamLedger.Drained (l : StreamLedger) : Prop := l.state ≠ .failed → ∀ streamId stream,
    l.streams.find? streamId = some stream →
    stream.sendQueue.remaining ≠ [] →
    stream.sendWindowByteCount ≤ 0 ∨ l.connectionSendWindowByteCount ≤ 0

namespace StreamLedger.Drained

variable {l l' : StreamLedger}

theorem of_alike (h : l.Drained) (halike : BodyAlike l l') : l'.Drained := by
  intro halive streamId new hnew hqueued
  obtain ⟨old, hold, hkept⟩ := halike.records hnew
  rw [halike.window]
  rcases hkept with ⟨_, hempty⟩ | ⟨hqueue, _, hwindow, _⟩
  · exact absurd hempty hqueued
  rw [hwindow]
  rw [hqueue] at hqueued
  exact h (halike.alive halive) streamId old hold hqueued

theorem quietly (h : l.Drained) (hmoves : Quietly l l') : l'.Drained :=
  keeps_of_moves (fun _ _ hmove hbefore => hbefore.of_alike hmove.bodyAlike) hmoves h

theorem begin (h : l.Drained) (hmove : Begins l l') : l'.Drained := by
  cases hmove with
  | openStream streamId receiveWindow hfresh hclosing halive hroom =>
    intro _ other record hrecord hqueued
    simp only [StreamLedger.setStream, find?_insert] at hrecord
    split at hrecord
    · injection hrecord with hrecord
      subst hrecord
      exact absurd rfl hqueued
    · exact h halive other record hrecord hqueued
  | refuse streamId hfresh =>
    refine of_alike ?_ (.remember _ streamId)
    intro halive other record hrecord hqueued
    simp only [StreamLedger.setStream, StreamLedger.emit, find?_insert] at hrecord
    split at hrecord
    · injection hrecord with hrecord
      subst hrecord
      exact absurd rfl hqueued
    · exact h halive other record hrecord hqueued

theorem quietStep (h : l.Drained) (hstep : QuietStep l l') : l'.Drained := by
  obtain ⟨begun, rfl | hbegins, hquiet⟩ := hstep
  · exact h.quietly hquiet
  · exact (h.begin hbegins).quietly hquiet

end StreamLedger.Drained

variable {stream : StreamRecord} {streamId : Nat}

namespace Http2Connection

variable {D E H : Type}

def Drained (c : Http2Connection D E H) : Prop := (c.ledger {}).Drained

variable {c : Http2Connection D E H}

theorem Drained.of_failed (h : c.state = .failed) : c.Drained := fun halive => absurd h halive

theorem Drained.quiet {c' : Http2Connection D E H} (h : c.Drained)
    (hquiet : QuietMoves c c') : c'.Drained := StreamLedger.Drained.quietly h (hquiet {})

/-! ## The pump of one stream -/

/-- A pumped stream, or one that was never held back. -/
def DrainedOn (streamId : Nat) (c : Http2Connection D E H) : Prop :=
  ∀ stream, c.streams.find? streamId = some stream → stream.sendQueue.remaining ≠ [] →
    stream.sendWindowByteCount ≤ 0 ∨ c.connectionSendWindowByteCount ≤ 0

/-- What the pump of a stream does to the others. -/
structure PumpsOnly (streamId : Nat) (c c' : Http2Connection D E H) :
    Prop where
  others : ∀ {other stream}, other ≠ streamId → c'.streams.find? other = some stream →
    c.streams.find? other = some stream
  known : ∀ {stream}, c'.streams.find? streamId = some stream →
    ∃ old, c.streams.find? streamId = some old
  window : c'.connectionSendWindowByteCount ≤ c.connectionSendWindowByteCount
  settings : c'.peerSettings = c.peerSettings

namespace PumpsOnly

variable {streamId : Nat} {c c' c'' : Http2Connection D E H}

theorem refl (streamId : Nat) (c : Http2Connection D E H) : PumpsOnly streamId c c :=
  ⟨fun _ h => h, fun h => ⟨_, h⟩, Int.le_refl _, rfl⟩

theorem trans (h : PumpsOnly streamId c c') (h' : PumpsOnly streamId c' c'') :
    PumpsOnly streamId c c'' where
  others := fun hne hstream => h.others hne (h'.others hne hstream)
  known := fun hstream => by
    obtain ⟨old, hold⟩ := h'.known hstream
    exact h.known hold
  window := Int.le_trans h'.window h.window
  settings := h'.settings.trans h.settings

/-- A new record in the place of an old one, and bytes taken from the
connection window. -/
theorem of_record {old new : StreamRecord} (hold : c.streams.find? streamId = some old)
    (hstreams : c'.streams = c.streams.insert streamId new)
    (hwindow : c'.connectionSendWindowByteCount ≤ c.connectionSendWindowByteCount)
    (hsettings : c'.peerSettings = c.peerSettings) : PumpsOnly streamId c c' where
  others := fun hne hstream => by
    rw [hstreams, find?_insert_of_ne _ _ hne] at hstream
    exact hstream
  known := fun _ => ⟨old, hold⟩
  window := hwindow
  settings := hsettings

theorem peerMaximumFrameSize (h : PumpsOnly streamId c c') :
    c'.peerMaximumFrameSize = c.peerMaximumFrameSize := by
  simp only [Http2Connection.peerMaximumFrameSize, h.settings]

theorem drainedOn (h : PumpsOnly streamId c c') {other : Nat}
    (hne : other ≠ streamId) (hdrained : DrainedOn other c) : DrainedOn other c' := by
  intro stream hstream hqueued
  have hwindow := h.window
  rcases hdrained stream (h.others hne hstream) hqueued with hspent | hspent
  · exact .inl hspent
  · exact .inr (Int.le_trans hwindow hspent)

theorem find?_isSome (h : PumpsOnly streamId c c') {other : Nat}
    (hstream : c'.streams.find? other = some stream) :
    ∃ old, c.streams.find? other = some old := by
  by_cases heq : other = streamId
  · subst heq
    exact h.known hstream
  · exact ⟨stream, h.others heq hstream⟩

end PumpsOnly

variable (codec : Http2Codec D E H) {c : Http2Connection D E H}

theorem terminateStream_record {other : Nat}
    {termination : StreamTermination} {new : StreamRecord}
    (hnew : (c.terminateStream streamId termination).streams.find? other =
      some new) : c.streams.find? other = some new ∨
      other = streamId ∧ ∃ old, c.streams.find? streamId = some old ∧
        new = terminatedRecord old termination := by
  unfold terminateStream at hnew
  split at hnew
  · exact .inl hnew
  rename_i stream hstream
  split at hnew
  · exact .inl hnew
  simp only [rememberTerminatedStream] at hnew
  have hset := find?_of_find?_foldl_erase _ hnew
  simp only [setStream, find?_insert] at hset
  split at hset
  · next heq =>
    injection hset with hset
    exact .inr ⟨heq, stream, hstream, hset.symm⟩
  · exact .inl hset

theorem noteLocalEndStream_record {other : Nat} {new : StreamRecord}
    (hnew : (c.noteLocalEndStream streamId).streams.find? other = some new) :
    c.streams.find? other = some new ∨
      other = streamId ∧ ∃ old, c.streams.find? streamId = some old ∧
        (new.sendQueue.remaining = [] ∨ new.sendQueue = old.sendQueue ∧
            new.sendWindowByteCount = old.sendWindowByteCount) := by
  unfold noteLocalEndStream at hnew
  split at hnew
  · exact .inl hnew
  rename_i stream hstream
  split at hnew
  · simp only [setStream, find?_insert] at hnew
    split at hnew
    · next heq =>
      injection hnew with hnew
      subst hnew
      exact .inr ⟨heq, stream, hstream, .inr ⟨rfl, rfl⟩⟩
    · exact .inl hnew
  · rcases terminateStream_record hnew with hsame | ⟨heq, old, hold, rfl⟩
    · exact .inl hsame
    · exact .inr ⟨heq, old, hold, .inl rfl⟩
  · exact .inl hnew

theorem noteLocalEndStream_windows (c : Http2Connection D E H) (streamId : Nat) :
    (c.noteLocalEndStream streamId).connectionSendWindowByteCount =
        c.connectionSendWindowByteCount ∧
      (c.noteLocalEndStream streamId).peerSettings = c.peerSettings := by
  unfold noteLocalEndStream
  split
  · exact ⟨rfl, rfl⟩
  split
  · exact ⟨rfl, rfl⟩
  · unfold terminateStream
    split
    · exact ⟨rfl, rfl⟩
    split
    · exact ⟨rfl, rfl⟩
    · simp [rememberTerminatedStream, setStream]
  · exact ⟨rfl, rfl⟩

theorem noteLocalEndStream_pumpsOnly (c : Http2Connection D E H) (streamId : Nat) :
    PumpsOnly streamId c (c.noteLocalEndStream streamId) where
  others := fun hne hstream =>
    (noteLocalEndStream_record hstream).resolve_right fun h => hne h.1
  known := fun hstream => by
    rcases noteLocalEndStream_record hstream with hsame | ⟨_, old, hold, _⟩
    · exact ⟨_, hsame⟩
    · exact ⟨old, hold⟩
  window := Int.le_of_eq (noteLocalEndStream_windows c streamId).1
  settings := (noteLocalEndStream_windows c streamId).2

theorem noteLocalEndStream_drainedOn (h : DrainedOn streamId c) :
    DrainedOn streamId (c.noteLocalEndStream streamId) := by
  intro stream hstream hqueued
  rw [(noteLocalEndStream_windows c streamId).1]
  rcases noteLocalEndStream_record hstream with
    hsame | ⟨_, old, hold, hempty | ⟨hqueue, hwindow⟩⟩
  · exact h stream hsame hqueued
  · exact absurd hempty hqueued
  rw [hwindow]
  rw [hqueue] at hqueued
  exact h old hold hqueued

theorem sendSegment_pumpsOnly (hstream : c.streams.find? streamId = some stream) :
    PumpsOnly streamId c (c.sendSegment streamId stream) := by
  refine .of_record hstream rfl ?_ rfl
  show c.connectionSendWindowByteCount - (c.segmentByteCount stream : Int) ≤
    c.connectionSendWindowByteCount
  omega

theorem PumpsOnly.pump (streamId : Nat) : AdmitsPump streamId (@PumpsOnly D E H streamId) where
  refl := .refl streamId
  trans := .trans
  segment := fun hstream _ _ _ _ => sendSegment_pumpsOnly hstream
  last := fun hstream _ _ _ _ =>
    (sendSegment_pumpsOnly hstream).trans (noteLocalEndStream_pumpsOnly _ _)
  ending := fun hstream _ _ _ => by
    refine PumpsOnly.trans ?_ (noteLocalEndStream_pumpsOnly _ streamId)
    exact .of_record hstream rfl (Int.le_refl _) rfl

/-- With a round for each queued byte the loop ends because the queue is
empty or a window is used up. -/
theorem pumpSegments_drainedOn (streamId fuel : Nat)
    (c : Http2Connection D E H) (hsize : 0 < c.peerMaximumFrameSize)
    (hfuel : ∀ stream, c.streams.find? streamId = some stream →
      stream.sendQueue.remaining.length ≤ fuel) :
    DrainedOn streamId (pumpSegments streamId fuel c).2 := by
  induction fuel generalizing c with
  | zero =>
    intro stream hstream hqueued
    exact absurd (length_eq_zero_iff.mp (Nat.le_zero.mp (hfuel stream hstream))) hqueued
  | succ fuel ih =>
    rw [pumpSegments]
    split
    · next hnone =>
      intro stream hstream
      rw [hnone] at hstream
      cases hstream
    rename_i stream hstream
    have hfound : ∀ {new}, (c.sendSegment streamId stream).streams.find?
        streamId = some new → new.sendQueue.remaining =
          stream.sendQueue.remaining.drop (c.segmentByteCount stream) := by
      intro new hnew
      simp only [sendSegment, setStream, appendOutgoing,
        find?_insert_self, Option.some.injEq] at hnew
      rw [← hnew, remaining_consume]
    split
    · next hready =>
      obtain ⟨hpending, hwindow, hconnection⟩ := hready
      split
      · next hend =>
        simp only [isEndStreamSegment, Bool.and_eq_true, decide_eq_true_eq] at hend
        refine noteLocalEndStream_drainedOn fun new hnew hqueued => ?_
        rw [hfound hnew, hend.1, drop_length] at hqueued
        exact absurd rfl hqueued
      refine ih _ ?_ fun new hnew => ?_
      · exact hsize
      -- each round takes a byte at least
      have hbytes : 0 < c.segmentByteCount stream := by
        have hnonempty := length_pos_iff.mpr ((hasPendingData_iff _).mp hpending)
        unfold segmentByteCount
        omega
      have hroom := hfuel stream hstream
      rw [hfound hnew, length_drop]
      omega
    · next hidle =>
      intro new hnew hqueued
      rw [hstream] at hnew
      injection hnew with hnew
      subst hnew
      have hpending := (hasPendingData_iff _).mpr hqueued
      by_contra hopen
      rw [not_or, Int.not_le, Int.not_le] at hopen
      exact hidle ⟨hpending, hopen.1, hopen.2⟩

theorem sendTrailingEndStream_drainedOn (h : DrainedOn streamId c) :
    DrainedOn streamId (c.sendTrailingEndStream streamId) := by
  unfold sendTrailingEndStream
  split
  · exact h
  rename_i stream hstream
  split
  · refine noteLocalEndStream_drainedOn fun new hnew hqueued => ?_
    simp only [setStream, appendOutgoing, find?_insert_self, Option.some.injEq] at hnew
    subst hnew
    exact h stream hstream hqueued
  · exact h

theorem pumpSendQueue_drainedOn (hsize : 0 < c.peerMaximumFrameSize)
    (streamId : Nat) : DrainedOn streamId (c.pumpSendQueue streamId) := by
  unfold pumpSendQueue
  split
  · next hnone =>
    intro stream hstream
    rw [hnone] at hstream
    cases hstream
  rename_i stream hstream
  have hpumped := pumpSegments_drainedOn streamId
    stream.sendQueue.remaining.length c hsize fun other hother => by
      rw [hstream] at hother
      injection hother with hother
      rw [hother]
  dsimp only
  split
  · exact hpumped
  · exact sendTrailingEndStream_drainedOn hpumped

/-! ## The pump of all streams -/

theorem pumpIfQueued_drainedOn (hsize : 0 < c.peerMaximumFrameSize)
    (streamId : Nat) : DrainedOn streamId (c.pumpIfQueued streamId) := by
  unfold pumpIfQueued
  split
  · next hnone =>
    intro stream hstream
    rw [hnone] at hstream
    cases hstream
  rename_i stream hstream
  split
  · exact pumpSendQueue_drainedOn hsize streamId
  rename_i hidle
  intro other hother hqueued
  rw [hstream] at hother
  injection hother with hother
  subst hother
  rw [Bool.or_eq_true, not_or, hasPendingData_iff] at hidle
  exact absurd hqueued hidle.1

/-- The streams pumped so far are drained, and no stream appears. -/
theorem foldl_pumpIfQueued_drainedOn (streamIds : List Nat)
    (hsize : 0 < c.peerMaximumFrameSize) :
    let pumped := streamIds.foldl pumpIfQueued c
    (∀ streamId ∈ streamIds, DrainedOn streamId pumped) ∧
      (∀ streamId, DrainedOn streamId c → DrainedOn streamId pumped) ∧
      ∀ streamId stream, pumped.streams.find? streamId = some stream →
        ∃ old, c.streams.find? streamId = some old := by
  induction streamIds generalizing c with
  | nil =>
    exact ⟨fun _ h => absurd h not_mem_nil, fun _ h => h, fun _ stream h => ⟨stream, h⟩⟩
  | cons first rest ih =>
    have hfirst := (PumpsOnly.pump first).pumpIfQueued c
    obtain ⟨hrest, hkeeps, hknown⟩ := ih (c := c.pumpIfQueued first)
      (hfirst.peerMaximumFrameSize.symm ▸ hsize)
    have hone : ∀ streamId, DrainedOn streamId c → DrainedOn streamId (c.pumpIfQueued first) := by
      intro streamId h
      by_cases heq : streamId = first
      · subst heq
        exact pumpIfQueued_drainedOn hsize streamId
      · exact hfirst.drainedOn heq h
    refine ⟨fun streamId hmem => ?_, fun streamId h =>
      hkeeps streamId (hone streamId h), fun streamId stream hstream => ?_⟩
    · rcases mem_cons.mp hmem with rfl | hmem
      · exact hkeeps streamId (pumpIfQueued_drainedOn hsize streamId)
      · exact hrest streamId hmem
    · obtain ⟨old, hold⟩ := hknown streamId stream hstream
      exact hfirst.find?_isSome hold

theorem pumpAllSendQueues_drained (hsize : 0 < c.peerMaximumFrameSize) :
    c.pumpAllSendQueues.Drained := by
  intro _ streamId stream hstream hqueued
  obtain ⟨hall, _, hknown⟩ := foldl_pumpIfQueued_drainedOn c.streams.keys hsize
  obtain ⟨old, hold⟩ := hknown streamId stream hstream
  exact hall streamId (mem_keys_iff.mpr ⟨old, hold⟩) stream hstream hqueued

theorem setStream_pumpSendQueue_drained (h : c.Drained)
    (hsize : 0 < c.peerMaximumFrameSize) (streamId : Nat) (new : StreamRecord) :
    ((c.setStream streamId new).pumpSendQueue streamId).Drained := by
  intro halive other stream hstream hqueued
  have hstate := ((SendMoves.pump streamId).pumpSendQueue (c.setStream streamId new)).state
  have halive : c.state ≠ .failed := fun hfailed =>
    halive (hstate.trans hfailed)
  by_cases heq : other = streamId
  · subst heq
    exact pumpSendQueue_drainedOn (c := c.setStream other new) hsize other stream hstream hqueued
  refine ((PumpsOnly.pump streamId).pumpSendQueue
    (c.setStream streamId new)).drainedOn heq (fun old hold => ?_) stream hstream hqueued
  simp only [setStream, find?_insert_of_ne _ _ heq] at hold
  exact h halive other old hold

/-! ## Events -/

theorem handleWindowUpdateFrame_drained (h : c.Drained)
    (hsize : 0 < c.peerMaximumFrameSize) (frame : Http2Frame) :
    (c.handleWindowUpdateFrame frame).2.Drained := by
  have hfailed : ∀ errorCode reason, (c.fail errorCode reason).Drained :=
    fun errorCode reason => .of_failed (fail_state c errorCode reason)
  unfold handleWindowUpdateFrame
  split
  · exact hfailed _ _
  rename_i increment _
  dsimp only
  split
  · unfold increaseConnectionSendWindow
    by_cases hlarge : c.connectionSendWindowByteCount + increment > kHttp2MaximumWindowSizeByteCount
    · rw [if_pos hlarge]
      exact hfailed _ _
    · rw [if_neg hlarge]
      exact pumpAllSendQueues_drained hsize
  split
  · exact hfailed _ _
  split
  · split
    · exact h
    · exact hfailed _ _
  rename_i stream hstream
  split
  · exact h
  unfold increaseStreamSendWindow
  by_cases hlarge : stream.sendWindowByteCount + increment > kHttp2MaximumWindowSizeByteCount
  · rw [if_pos hlarge]
    exact h.quiet (QuietMoves.admits.failStream c _ _ _)
  · rw [if_neg hlarge]
    exact setStream_pumpSendQueue_drained h hsize _ _

theorem handlePeerSettings_drained {past : Past}
    (hsound : BodiesSound (c.ledger past)) (parameters : List Http2Setting) :
    (c.handlePeerSettings codec parameters).2.Drained := by
  have hsize := (hsound.grants (applyPeerSettings_grants codec parameters c past)).frameSize
  unfold handlePeerSettings
  dsimp only
  split
  · next hrefused =>
    refine .of_failed ?_
    rw [applyPeerSettings_state, if_neg (by simpa using hrefused)]
  · refine pumpAllSendQueues_drained ?_
    exact Nat.lt_of_lt_of_le (by decide) hsize

theorem handleSettingsFrame_drained {past : Past} (h : c.Drained)
    (hsound : BodiesSound (c.ledger past)) (now : Nat) (frame : Http2Frame) :
    (c.handleSettingsFrame codec now frame).2.Drained := by
  have hbudget := QuietMoves.admits.consumeControlFrameBudget c now "SETTINGS"
  have hdrained := h.quiet hbudget
  have hsound := hsound.grants (hbudget.grants past)
  revert hdrained hsound
  simp only [handleSettingsFrame]
  generalize c.consumeControlFrameBudget now "SETTINGS" = budget
  obtain ⟨accepted, c⟩ := budget
  intro hdrained hsound
  split
  · exact hdrained
  split
  · exact .of_failed (fail_state c _ _)
  split
  · split
    · exact .of_failed (fail_state c _ _)
    · exact hdrained
  · exact handlePeerSettings_drained codec hsound _

theorem handleFrame_drained {past : Past} (halive : c.state ≠ .failed)
    (h : c.Drained) (hsound : BodiesSound (c.ledger past)) (now : Nat)
    (frame : Http2Frame) : (c.handleFrame codec now frame).2.Drained := by
  unfold handleFrame
  split
  · split
    · exact .of_failed (fail_state c _ _)
    · exact h.quiet ((QuietMoves.blocks codec).handleContinuationFrame c frame)
  split
  · exact .of_failed (fail_state c _ _)
  by_cases hupdate : frame.header.type = .windowUpdate
  · simp only [dispatchFrame, hupdate]
    exact handleWindowUpdateFrame_drained h (Nat.lt_of_lt_of_le (by decide) hsound.frameSize) frame
  by_cases hsettings : frame.header.type = .settings
  · simp only [dispatchFrame, hsettings]
    exact handleSettingsFrame_drained codec h hsound now frame
  · exact StreamLedger.Drained.quietStep h
      (dispatchFrame_quietStep codec halive now hupdate hsettings {})

theorem sendResponseData_drained (h : c.Drained)
    (hsize : 0 < c.peerMaximumFrameSize) (streamId : Nat) (data : Bytes) (endStream : Bool) :
    (c.sendResponseData streamId data endStream).connection.Drained := by
  unfold sendResponseData
  split
  · exact h
  split
  · exact h
  rename_i stream hactive
  obtain ⟨hstream, _⟩ := find?_of_findActiveStream hactive
  split
  · exact h
  split
  · exact h
  split
  · next hdirect =>
    have hempty : stream.sendQueue.remaining = [] :=
      hasPendingData_eq_false.mp (by simpa using hdirect.1)
    have hframed : Drained { (c.appendOutgoing [.data streamId data endStream]).setStream streamId
          { stream with
            sendWindowByteCount := stream.sendWindowByteCount - data.length } with
        connectionSendWindowByteCount := c.connectionSendWindowByteCount - data.length } := by
      intro halive other new hnew hqueued
      simp only [ledger, setStream, appendOutgoing, find?_insert] at hnew
      split at hnew
      · injection hnew with hnew
        subst hnew
        exact absurd hempty hqueued
      have hspent := h halive other new hnew hqueued
      simp only [ledger] at hspent ⊢
      omega
    unfold frameDirectly
    split
    · exact hframed.quiet (noteLocalEndStream_quiet _ _)
    · exact hframed
  · exact setStream_pumpSendQueue_drained h hsize _ _

theorem apply_drained {past : Past} (h : c.Drained)
    (hsound : BodiesSound (c.ledger past)) (e : Http2Event) : (c.apply codec e).Drained := by
  cases e with
  | preface bytes => exact h.quiet (QuietMoves.admits.preface c bytes)
  | frame now frame =>
    simp only [Http2Connection.apply, feedFrame]
    split
    · next hfeeds =>
      simp only [feedsFrames, Bool.and_eq_true, decide_eq_true_eq, ne_eq] at hfeeds
      exact handleFrame_drained codec hfeeds.2 h hsound now frame
    · exact h
  | frameDecodeFailure kind message =>
    exact h.quiet (QuietMoves.admits.feedDecodeFailure c kind message)
  | creditReceivedData streamId byteCount =>
    exact h.quiet (QuietMoves.data.creditReceivedData _ streamId byteCount)
  | sendGoAway reason => exact h.quiet (sendGoAway_quiet _ reason)
  | abortStream streamId reason errorCode =>
    exact h.quiet (QuietMoves.admits.abortStream _ streamId reason errorCode)
  | failConnection errorCode reason =>
    exact h.quiet (QuietMoves.admits.failConnection _ errorCode reason)
  | sendResponseHeaders streamId statusCode headerFields endStream =>
    exact h.quiet ((QuietMoves.calls codec).sendResponseHeaders _ streamId
      statusCode headerFields endStream)
  | sendResponseTrailers streamId trailerFields =>
    exact h.quiet ((QuietMoves.calls codec).sendResponseTrailers _ streamId trailerFields)
  | sendResponseData streamId data endStream =>
    exact sendResponseData_drained h (Nat.lt_of_lt_of_le (by decide) hsound.frameSize) streamId data
      endStream
  | takeOutgoingBytes | takeRequests | takeReceivedData => exact h

end Http2Connection

/-! ## Whole runs -/

namespace StreamHistory

open Http2Connection

variable {D E H : Type}

/-- What holds of the bodies after every event. -/
structure BodiesKept (s : StreamHistory D E H) : Prop where
  ordered : s.history.Ordered
  sound : BodiesSound s.ledger
  ended : BodiesEnded s.ledger
  drained : s.history.connection.Drained

theorem BodiesKept.start (configuration : Http2ConnectionConfiguration)
    (decoder : D) (encoder : E) :
    (StreamHistory.start (H := H) configuration decoder encoder).BodiesKept
    where
  ordered := .start configuration decoder encoder
  sound := {
    frameSize := Nat.le_refl _
    known := fun hstream => by cases hstream
    record := fun hstream => by cases hstream
    sent := fun _ => List.nil_prefix
    fresh := fun _ => ⟨rfl, rfl, fun _ => rfl⟩
    window := Int.natCast_nonneg _
    balance := fun _ => rfl
    bounded := Nat.zero_le _ }
  ended := fun _ _ hend => absurd hend List.not_mem_nil
  drained := fun _ _ _ hstream => by cases hstream

variable {s : StreamHistory D E H}

/-- On a stream the application may write to no END_STREAM went out. -/
theorem BodiesKept.unended (h : s.BodiesKept)
    (hstream : s.ledger.streams.find? streamId = some stream)
    (hopen : stream.state ≠ .closed) (hlocal : stream.state ≠ .halfClosedLocal)
    (payload : Bytes) : .data streamId payload true ∉ s.ledger.emitted := by
  intro hend
  rcases h.ordered.responses.records hstream with hlive | hdone
  · have hunended := any_eq_false.mp hlive.unended _ hend
    exact hunended (by simp [OutgoingFrame.endsStream])
  rcases hdone.ended with hlocalDone | hclosed
  · exact hlocal hlocalDone
  · exact hopen hclosed

theorem BodiesKept.step {codec : Http2Codec D E H}
    (h : s.BodiesKept) {e : Http2Event} (he : s.history.endsInOrder codec e) :
    (s.step codec e).BodiesKept := by
  have hmoves := apply_moves codec s e fun hstream =>
    (h.sound.known hstream).2
  exact ⟨h.ordered.step he, h.sound.step hmoves,
    h.ended.step h.sound hmoves fun hstream hopen hlocal =>
      h.unended hstream hopen hlocal,
    apply_drained codec h.drained h.sound e⟩

/-- A live stream has sent its body up to the credit of the stream or of
the connection. -/
theorem BodiesKept.all_sent (h : s.BodiesKept) (halive : s.history.connection.state ≠ .failed)
    (hlive : streamId ∈ s.history.connection.liveStreamIds) :
    bodyOn streamId s.history.emitted = acceptedOn streamId s.history.accepted ∨
      s.history.connection.peerInitialWindowSize + grantedOn streamId s.granted ≤
        (bodyOn streamId s.history.emitted).length ∨
      kHttp2InitialWindowSizeByteCount + grantedOn 0 s.granted ≤
        bodyByteCount s.history.emitted := by
  obtain ⟨stream, hstream, hopen⟩ := mem_liveStreamIds.mp hlive
  have hrecord := h.sound.record hstream
  have hqueued : acceptedOn streamId s.history.accepted =
      bodyOn streamId s.history.emitted ++ stream.sendQueue.remaining :=
    hrecord.queued hopen
  have hwindow : stream.sendWindowByteCount + ((bodyOn streamId s.history.emitted).length : Int) =
      s.history.connection.peerInitialWindowSize +
        (grantedOn streamId s.granted : Int) := hrecord.window hopen halive
  have hbalance : s.history.connection.connectionSendWindowByteCount +
        (bodyByteCount s.history.emitted : Int) =
      kHttp2InitialWindowSizeByteCount + (grantedOn 0 s.granted : Int) :=
    h.sound.balance halive
  by_cases hempty : stream.sendQueue.remaining = []
  · rw [hqueued, hempty, append_nil]
    exact .inl rfl
  have hspent : stream.sendWindowByteCount ≤ 0 ∨
      s.history.connection.connectionSendWindowByteCount ≤ 0 :=
    h.drained halive streamId stream hstream hempty
  omega

/-- In every run that ends its responses only when their body is out, what
is emitted on a stream is a prefix of what was accepted on it, END_STREAM
comes last and after the whole body, no body is held back by a live stream
with credit left, and whatever the next event emits is within the frame
size and the credit at that moment. The condition is about the calls that
end a response with a header block; every other event meets it. -/
theorem response_bodies_sent {codec : Http2Codec D E H}
    {configuration : Http2ConnectionConfiguration} {decoder : D}
    {encoder : E} {s : StreamHistory D E H}
    (hreach : Reachable codec (fun s e => s.history.endsInOrder codec e = true) configuration
      decoder encoder s) :
    let emitted := s.history.emitted
    let accepted := s.history.accepted
    let c := s.history.connection
    (∀ streamId, bodyOn streamId emitted <+: acceptedOn streamId accepted) ∧ EndsInOrder emitted ∧
      (∀ streamId payload, .data streamId payload true ∈ emitted →
        bodyOn streamId emitted = acceptedOn streamId accepted) ∧
      (c.state ≠ .failed → ∀ streamId ∈ c.liveStreamIds,
        bodyOn streamId emitted = acceptedOn streamId accepted ∨
          c.peerInitialWindowSize + grantedOn streamId s.granted ≤
            (bodyOn streamId emitted).length ∨
          kHttp2InitialWindowSizeByteCount + grantedOn 0 s.granted ≤ bodyByteCount emitted) ∧
      ∀ e, (s.step codec e).ledger.Metered emitted := by
  have h : s.BodiesKept := hreach.invariant (.start configuration decoder encoder)
      fun s e h he => h.step he
  refine ⟨h.sound.sent, h.ordered.responses.ordered, h.ended,
    fun halive streamId hlive => h.all_sent halive hlive, fun e => ?_⟩
  exact h.sound.step_metered (apply_moves codec s e fun hstream =>
    (h.sound.known hstream).2)

end StreamHistory

/-- A body of two bytes for a peer whose windows let out one of them; the
WINDOW_UPDATE then brings the other one and END_STREAM. -/
theorem response_bodies_sent_held :
    let s := exampleStreamRun (exampleOpening [0, 4, 0, 0, 0, 1] ++
      [exampleOpenRequest 1, .sendResponseHeaders 1 200 [] false, .sendResponseData 1 [1, 2] true,
        .frame 0 ⟨⟨4, .windowUpdate, 0, 1⟩, [0, 0, 0, 2], false, {}⟩])
    .data 1 [1] false ∈ s.history.emitted ∧ .data 1 [2] true ∈ s.history.emitted ∧
      bodyOn 1 s.history.emitted = acceptedOn 1 s.history.accepted ∧
      EndsInOrder s.history.emitted := by
  intro s
  have hreach : StreamHistory.Reachable exampleCodec
      (fun s e => s.history.endsInOrder exampleCodec e = true) {} [] () s :=
    Reach.run .start _ (by decide +kernel)
  have hlast : .data 1 [2] true ∈ s.history.emitted := by decide +kernel
  have hsent := StreamHistory.response_bodies_sent hreach
  exact ⟨by decide +kernel, hlast, hsent.2.2.1 1 [2] hlast, hsent.2.1⟩

end AsynGyanis.Http2
