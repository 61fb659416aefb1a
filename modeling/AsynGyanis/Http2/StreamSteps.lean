import AsynGyanis.Http2.StreamMoves

/-!
# Events as moves of the ledger

The pump and the frames that start it complete the picture: `apply_moves`
says that every event moves the ledger by a `StepMoves`. A run of the
connection is then observed by `StreamHistory`, which adds to the history
the requests the application took and two lists of stream numbers: the
streams that began and those that ended. Both are read off the connection
before and after an event, so they are about the code and not about the
moves.
-/

namespace AsynGyanis.Http2

open Library Relation

/-- The increment a WINDOW_UPDATE frame grants, with its stream. -/
def Http2Frame.grants (frame : Http2Frame) : List (Nat × Nat) :=
  if frame.header.type = .windowUpdate then
    match parseHttp2WindowUpdatePayload frame with
    | .ok windowSizeIncrement =>
      [(frame.header.streamId, windowSizeIncrement)]
    | .error _ => []
  else []

def Past.grant (past : Past) (grants : List (Nat × Nat)) : Past :=
  { past with granted := past.granted ++ grants }

@[simp] theorem Past.grant_nil (past : Past) : past.grant [] = past := by
  simp [grant]

namespace Http2Connection

variable {D E H : Type}

/-! ## The pump -/

variable (codec : Http2Codec D E H) {c : Http2Connection D E H} {streamId : Nat}
  {stream : StreamRecord}

/-- Sending moves, as long as the connection lives. -/
structure SendMoves (c c' : Http2Connection D E H) : Prop where
  state : c'.state = c.state
  sends : c.state ≠ .failed → ∀ past, Sends (c.ledger past) (c'.ledger past)

theorem SendMoves.refl (c : Http2Connection D E H) : SendMoves c c := ⟨rfl, fun _ _ => .refl⟩

theorem SendMoves.trans {c c' c'' : Http2Connection D E H}
    (h : SendMoves c c') (h' : SendMoves c' c'') : SendMoves c c'' where
  state := h'.state.trans h.state
  sends := fun halive past =>
    (h.sends halive past).trans (h'.sends (h.state ▸ halive) past)

variable (c)

theorem noteLocalEndStream_sends
    (streamId : Nat) : SendMoves c (c.noteLocalEndStream streamId) where
  state := noteLocalEndStream_state c streamId
  sends := fun _ past => (noteLocalEndStream_quiet c streamId past).sends

theorem segmentByteCount_le (stream : StreamRecord) :
    c.segmentByteCount stream ≤ stream.sendQueue.remaining.length := Nat.min_le_left _ _

theorem segmentByteCount_fits {stream : StreamRecord} (hstream : stream.sendWindowByteCount > 0)
    (hconnection : c.connectionSendWindowByteCount > 0) (past : Past) :
    (c.ledger past).Fits stream (c.segmentByteCount stream) := by
  have hle : c.segmentByteCount stream ≤
      (min (min stream.sendWindowByteCount c.connectionSendWindowByteCount)
        (c.peerMaximumFrameSize : Int)).toNat := Nat.min_le_right _ _
  refine ⟨?_, ?_, ?_⟩
  · omega
  · show (c.segmentByteCount stream : Int) ≤ c.connectionSendWindowByteCount
    omega
  · show c.segmentByteCount stream ≤ c.peerMaximumFrameSize
    omega

variable {c}

theorem sendSegment_sends (hstream : c.streams.find? streamId = some stream)
    (hqueued : stream.sendQueue.remaining ≠ []) (hwindow : stream.sendWindowByteCount > 0)
    (hconnection : c.connectionSendWindowByteCount > 0) :
    SendMoves c (c.sendSegment streamId stream) := by
  refine ⟨rfl, fun halive past => ?_⟩
  have hend : c.isEndStreamSegment stream →
      c.segmentByteCount stream = stream.sendQueue.remaining.length := by
    intro h
    simp only [isEndStreamSegment, Bool.and_eq_true, decide_eq_true_eq] at h
    exact h.1
  have hmove := SendMove.segment (c.ledger past) streamId stream
    (c.segmentByteCount stream) (c.isEndStreamSegment stream)
    (stream.isEndStreamPending && !c.isEndStreamSegment stream) halive
    hstream hqueued (c.segmentByteCount_le stream) hend
    (c.segmentByteCount_fits hwindow hconnection past)
  simpa only [Sends, sendSegment, ledger, appendOutgoing, setStream,
    StreamLedger.emit, StreamLedger.setStream, List.append_assoc]
    using ReflTransGen.single hmove

theorem SendMoves.pump (streamId : Nat) : AdmitsPump streamId (@SendMoves D E H) where
  refl := .refl
  trans := .trans
  segment := fun hstream hqueued hwindow hconnection _ =>
    sendSegment_sends hstream hqueued hwindow hconnection
  last := fun hstream hqueued hwindow hconnection _ =>
    (sendSegment_sends hstream hqueued hwindow hconnection).trans (noteLocalEndStream_sends _ _)
  ending := fun {c stream} hstream hempty _ hopen => by
    refine SendMoves.trans ?_ (noteLocalEndStream_sends _ _)
    refine ⟨rfl, fun halive past => ?_⟩
    rw [appendOutgoing_ledger]
    exact .single (.ending (c.ledger past) streamId stream halive hstream hopen hempty)

/-! ## `sendResponseData` -/

def Past.accept (past : Past) (streamId : Nat) (data : Bytes) : Past :=
  { past with accepted := past.accepted ++ [(streamId, data)] }

theorem frameDirectly_moves (data : Bytes) (endStream : Bool) (past : Past)
    (halive : c.state ≠ .failed) (hstream : c.streams.find? streamId = some stream)
    (hopen : stream.state ≠ .closed) (hlocal : stream.state ≠ .halfClosedLocal)
    (hempty : stream.sendQueue.remaining = [])
    (hfits : (c.ledger past).Fits stream data.length) :
    StepMoves (c.ledger past)
      ((c.frameDirectly streamId stream data endStream).ledger
        (Past.accept past streamId data)) := by
  have hmove := Accepts.direct (c.ledger past) streamId stream data
    endStream halive hstream hopen hlocal hempty hfits
  let framed : Http2Connection D E H := {
    (c.appendOutgoing [.data streamId data endStream]).setStream streamId
      { stream with
        sendWindowByteCount := stream.sendWindowByteCount - data.length }
    with
      connectionSendWindowByteCount := c.connectionSendWindowByteCount - data.length }
  have hframed : Accepts (c.ledger past) (framed.ledger (Past.accept past streamId data)) := by
    simpa only [framed, ledger, appendOutgoing, setStream, Past.accept,
      StreamLedger.emit, StreamLedger.setStream, List.append_assoc]
      using hmove
  refine .inr ⟨_, hframed, ?_⟩
  unfold frameDirectly
  split
  · exact (noteLocalEndStream_quiet framed streamId _).sends
  · exact .refl

theorem queueAndPump_moves (data : Bytes) (endStream : Bool) (past : Past)
    (halive : c.state ≠ .failed) (hstream : c.streams.find? streamId = some stream)
    (hopen : stream.state ≠ .closed) (hlocal : stream.state ≠ .halfClosedLocal)
    :
    StepMoves (c.ledger past)
      ((c.queueAndPump streamId stream data endStream).ledger
        (Past.accept past streamId data)) := by
  have hpumped := (SendMoves.pump streamId).pumpSendQueue
    (c.setStream streamId { stream with
      sendQueue := stream.sendQueue.append data
      isEndStreamPending := stream.isEndStreamPending || endStream })
  exact .inr ⟨_, .queue (c.ledger past) streamId stream data
    (stream.isEndStreamPending || endStream) halive hstream hopen hlocal,
    hpumped.sends halive (Past.accept past streamId data)⟩

theorem alive_of_accepts (h : c.acceptsStreamOperations) : c.state ≠ .failed := by
  intro hfailed
  simp [acceptsStreamOperations, hfailed] at h

variable (c)

theorem sendResponseData_moves (streamId : Nat) (data : Bytes) (endStream : Bool) (past : Past) :
    StepMoves (c.ledger past) ((c.sendResponseData streamId data endStream).connection.ledger
        (if (c.sendResponseData streamId data endStream).result = .sent then
          Past.accept past streamId data else past)) := by
  have hsame : StepMoves (c.ledger past) (c.ledger past) := (Answers.refl _).stepMoves
  unfold sendResponseData
  split
  · exact hsame
  rename_i hcalls
  have halive := alive_of_accepts (c := c) (by simpa using hcalls)
  split
  · exact hsame
  rename_i stream hactive
  obtain ⟨hstream, hopen⟩ := find?_of_findActiveStream hactive
  split
  · exact hsame
  rename_i hlocal
  split
  · exact hsame
  split
  · next hdirect =>
    obtain ⟨hempty, hfits⟩ := hdirect
    refine frameDirectly_moves data endStream past halive hstream hopen hlocal
      (SendQueue.hasPendingData_eq_false.mp (by simpa using hempty))
      ⟨?_, ?_, ?_⟩
    · omega
    · show (data.length : Int) ≤ c.connectionSendWindowByteCount
      omega
    · show data.length ≤ c.peerMaximumFrameSize
      omega
  · exact queueAndPump_moves data endStream past halive hstream hopen hlocal

/-! ## Frames -/

theorem grants_failed {l : StreamLedger} (hfailed : l.state = .failed) (grants : List (Nat × Nat)) :
    Grants l { l with granted := l.granted ++ grants } := by
  induction grants generalizing l with
  | nil =>
    rw [List.append_nil]
    exact .refl
  | cons first rest ih =>
    have hspent := GrantMove.spent l first.1 first.2 (.inl hfailed)
    have hrest := ih (l := { l with granted := l.granted ++ [first] }) hfailed
    rw [List.append_assoc] at hrest
    exact (ReflTransGen.single hspent).trans hrest

/-- Whatever frame fails the connection, and whatever it would have
granted. -/
theorem fail_grants (errorCode : Http2ErrorCode)
    (reason : String) (grants : List (Nat × Nat)) (past : Past) :
    Grants (c.ledger past) ((c.fail errorCode reason).ledger (past.grant grants)) :=
  ((fail_quiet c errorCode reason).grants past).trans
    (grants_failed (fail_state c errorCode reason) grants)

variable {c}

theorem find?_terminateStream {stream new : StreamRecord} (termination : StreamTermination)
    (hstream : c.streams.find? streamId = some stream)
    (hnew : (c.terminateStream streamId termination).streams.find? streamId =
      some new) : new.state = .closed := by
  by_cases hclosed : stream.state = .closed
  · simp only [terminateStream, hstream, if_pos hclosed, Option.some.injEq] at hnew
    subst hnew
    exact hclosed
  simp only [terminateStream, hstream, if_neg hclosed, rememberTerminatedStream] at hnew
  have hset := find?_of_find?_foldl_erase _ hnew
  simp only [setStream, SortedMap.find?_insert_self] at hset
  rw [← Option.some.inj hset]
  rfl

theorem failStream_grants (errorCode : Http2ErrorCode) (reason : String)
    (increment : Nat) (past : Past) (hid : streamId ≠ 0) (hknown : StreamsKnown (c.ledger past))
    (hstream : c.streams.find? streamId = some stream) : Grants (c.ledger past)
      ((c.failStream streamId errorCode reason).ledger (past.grant [(streamId, increment)])) := by
  have hhighest := (SendAlike.admits.failStream c streamId errorCode reason).highest
  refine ((QuietMoves.admits.failStream c streamId errorCode reason).grants past).trans
    (.single (.spent _ streamId increment (.inr ⟨hid, ?_, ?_⟩)))
  · exact Nat.le_trans (hknown hstream) (Nat.le_of_eq hhighest.symm)
  intro new hnew
  exact find?_terminateStream (c := c.appendOutgoing
    [.rstStream streamId errorCode]) .resetByLocal hstream hnew

theorem increaseStreamSendWindow_grants (increment : Nat) (past : Past)
    (hid : streamId ≠ 0) (hknown : StreamsKnown (c.ledger past))
    (hstream : c.streams.find? streamId = some stream) : Grants (c.ledger past)
      ((c.increaseStreamSendWindow streamId stream increment).2.ledger
        (past.grant [(streamId, increment)])) := by
  unfold increaseStreamSendWindow
  split
  · exact failStream_grants _ _ increment past hid hknown hstream
  · exact .single (.stream (c.ledger past) streamId stream increment hid hstream)

theorem increaseStreamSendWindow_state {increment : Nat}
    (h : (c.increaseStreamSendWindow streamId stream increment).1) :
    (c.increaseStreamSendWindow streamId stream increment).2.state =
      c.state := by
  unfold increaseStreamSendWindow at h ⊢
  split at h
  · cases h
  rename_i hroom
  rw [if_neg hroom]
  rfl

theorem handleWindowUpdateFrame_answers (halive : c.state ≠ .failed)
    {frame : Http2Frame} (past : Past) (htype : frame.header.type = .windowUpdate)
    (hknown : StreamsKnown (c.ledger past)) : Answers (c.ledger past)
      ((c.handleWindowUpdateFrame frame).2.ledger (past.grant frame.grants)) := by
  unfold handleWindowUpdateFrame
  split
  · exact (fail_grants c _ _ _ past).answers
  rename_i increment hparsed
  have hgrants : frame.grants = [(frame.header.streamId, increment)] := by
    rw [Http2Frame.grants, if_pos htype, hparsed]
  rw [hgrants]
  dsimp only
  split
  · next hconnection =>
    rw [hconnection]
    unfold increaseConnectionSendWindow
    by_cases hlarge : c.connectionSendWindowByteCount + increment > kHttp2MaximumWindowSizeByteCount
    · rw [if_pos hlarge]
      exact (fail_grants c _ _ _ past).answers
    rw [if_neg hlarge]
    have hpumped := AdmitsPump.pumpAllSendQueues SendMoves.pump { c with
        connectionSendWindowByteCount := c.connectionSendWindowByteCount + increment }
    exact ⟨_, .single (.connection (c.ledger past) increment),
      hpumped.sends halive (past.grant [(0, increment)])⟩
  rename_i hid
  split
  · exact (fail_grants c _ _ _ past).answers
  split
  · next hnone =>
    split
    · next hevicted =>
      have hused : frame.header.streamId ≤ c.highestPeerStreamId := by
        simp only [mayBeEvicted, Bool.and_eq_true, decide_eq_true_eq] at hevicted
        exact hevicted.1
      refine Grants.answers (.single (.spent (c.ledger past) _ _
        (.inr ⟨hid, hused, fun stream hstream => ?_⟩)))
      rw [show (c.ledger past).streams = c.streams from rfl, hnone] at hstream
      cases hstream
    · exact (fail_grants c _ _ _ past).answers
  rename_i stream hstream
  split
  · next hclosed =>
    refine Grants.answers (.single (.spent (c.ledger past) _ _
      (.inr ⟨hid, hknown hstream, fun other hother => ?_⟩)))
    rw [show (c.ledger past).streams = c.streams from rfl, hstream] at hother
    injection hother with hother
    subst hother
    exact hclosed
  have hraised := increaseStreamSendWindow_grants increment past hid hknown hstream
  split
  · exact hraised.answers
  rename_i hroom
  refine ⟨_, hraised, ((SendMoves.pump _).pumpSendQueue _).sends ?_ _⟩
  rw [increaseStreamSendWindow_state (by simpa using hroom)]
  exact halive

variable (c)

/-- A setting that is accepted leaves the connection in its state, one
that is refused fails it. -/
theorem applyPeerSetting_state
    (setting : Http2Setting) : (c.applyPeerSetting codec setting).2.state =
      if (c.applyPeerSetting codec setting).1 then c.state else .failed := by
  have hrefused := fun errorCode reason => fail_state c errorCode reason
  unfold applyPeerSetting
  split
  · rfl
  split
  · split
    · exact hrefused _ _
    · rfl
  split
  · split
    · exact hrefused _ _
    rcases foldl_shiftSendWindow setting.value ((setting.value : Int) - c.peerInitialWindowSize)
        c.streams.keys c.streams.keys_nodup c with
      ⟨streams, hresult, _⟩ | ⟨streams, errorCode, reason, hresult, _⟩
    · rw [hresult]
      rfl
    · rw [hresult]
      exact fail_state _ _ _
  · split
    · split
      · exact hrefused _ _
      · rfl
    split
    · split
      · exact hrefused _ _
      · rfl
    · rfl

theorem applyPeerSettings_state (settings : List Http2Setting)
    (c : Http2Connection D E H) : (applyPeerSettings codec settings c).2.state =
      if (applyPeerSettings codec settings c).1 then c.state
      else .failed := by
  induction settings generalizing c with
  | nil => rfl
  | cons setting rest ih =>
    have hone := applyPeerSetting_state codec c setting
    rw [applyPeerSettings]
    split
    · exact hone
    rename_i haccepted
    rw [if_pos (by simpa using haccepted)] at hone
    exact (ih _).trans (by rw [hone])

theorem consumeControlFrameBudget_state (now : Nat) (frameKindName : String) :
    (c.consumeControlFrameBudget now frameKindName).1 →
      (c.consumeControlFrameBudget now frameKindName).2.state = c.state := by
  unfold consumeControlFrameBudget
  dsimp only
  split
  · exact fun h => absurd h Bool.false_ne_true
  · exact fun _ => by simp only [refillControlFrameBucket]

variable {c}

theorem handlePeerSettings_answers (halive : c.state ≠ .failed)
    (parameters : List Http2Setting) (past : Past) : Answers (c.ledger past)
      ((c.handlePeerSettings codec parameters).2.ledger past) := by
  have happlied := applyPeerSettings_grants codec parameters c past
  have hstate := applyPeerSettings_state codec parameters c
  unfold handlePeerSettings
  dsimp only
  split
  · exact happlied.answers
  rename_i haccepted
  rw [if_pos (by simpa using haccepted)] at hstate
  refine ⟨_, happlied.trans ?_, (AdmitsPump.pumpAllSendQueues SendMoves.pump _).sends ?_ past⟩
  rotate_left
  · show (if _ then _ else _) ≠ _
    split
    · decide
    show (applyPeerSettings codec parameters c).2.state ≠ .failed
    rw [hstate]
    exact halive
  have hacknowledged : QuietMoves (applyPeerSettings codec parameters c).2
      ((applyPeerSettings codec parameters c).2.appendOutgoing
        [.settings { isAcknowledgement := true }]) :=
    appendFrame_quiet _ rfl
  refine QuietMoves.grants (hacknowledged.trans ?_) past
  unfold leaveAwaitingSettings
  split
  · next hawaiting =>
    have henters : ((applyPeerSettings codec parameters c).2.appendOutgoing
        [.settings { isAcknowledgement := true }]).state.Enters .open := by
      rw [hawaiting]
      exact .settings
    exact .of_move fun past => .enter (Http2Connection.ledger _ past) .open henters
  · exact .of_same fun _ => rfl

theorem handleSettingsFrame_answers (halive : c.state ≠ .failed) (now : Nat)
    (frame : Http2Frame) (past : Past) : Answers (c.ledger past)
      ((c.handleSettingsFrame codec now frame).2.ledger past) := by
  have hbudget := (QuietMoves.admits.consumeControlFrameBudget c now "SETTINGS").grants past
  simp only [handleSettingsFrame]
  split
  · exact hbudget.answers
  rename_i hspent
  refine Answers.after ?_ hbudget
  have halive : (c.consumeControlFrameBudget now "SETTINGS").2.state ≠
      .failed := by
    rw [consumeControlFrameBudget_state c now "SETTINGS" (by simpa using hspent)]
    exact halive
  revert halive
  generalize (c.consumeControlFrameBudget now "SETTINGS").2 = c
  intro halive
  split
  · exact ((fail_quiet c _ _).grants past).answers
  split
  · split
    · exact ((fail_quiet c _ _).grants past).answers
    · exact .refl _
  · exact handlePeerSettings_answers codec halive _ past

theorem handleNewStreamHeaders_quietStep (halive : c.state ≠ .failed)
    (streamId : Nat) (payload : Http2HeadersPayload) (past : Past) :
    QuietStep (c.ledger past)
      ((c.handleNewStreamHeaders codec streamId payload).2.ledger past) := by
  have hdiscard : HeaderBlockPurpose.discard ≠ .request := by decide
  have hrefused : ∀ reason, c.highestPeerStreamId < streamId → QuietStep (c.ledger past)
        (((c.refuseNewStream streamId reason).beginHeaderBlock codec streamId
          .discard payload.endStream payload.headerBlockFragment
          payload.endHeaders).2.ledger past) := by
    intro reason hfresh
    refine ⟨_, .inr (.refuse (c.ledger past) streamId hfresh), ?_⟩
    have hledger : (c.refuseNewStream streamId reason).ledger past =
        (({ c.ledger past with highestPeerStreamId := streamId }.emit
          [.rstStream streamId .refusedStream]).setStream streamId
            { state := .closed, termination := .resetByLocal }).remember
              streamId := by
      simp [refuseNewStream, rememberTerminatedStream, ledger, appendOutgoing, setStream, StreamLedger.emit, StreamLedger.setStream, StreamLedger.remember]
    rw [← hledger]
    exact (QuietMoves.blocks codec).beginHeaderBlock _ streamId hdiscard _ _
      _ past
  unfold handleNewStreamHeaders
  split
  · exact (fail_quiet c _ _ past).quietStep
  rename_i hfresh
  have hfresh : c.highestPeerStreamId < streamId := Nat.lt_of_not_le hfresh
  split
  · exact hrefused _ hfresh
  rename_i hclosing
  split
  · exact hrefused _ hfresh
  rename_i hroom
  refine ⟨_, .inr (.openStream (c.ledger past) streamId
    c.configuration.initialWindowSize hfresh hclosing halive
    (Nat.lt_of_not_le hroom)), ?_⟩
  exact (QuietMoves.blocks codec).beginHeaderBlock_rest
    (c.openStream streamId) streamId .request payload.endStream
    payload.headerBlockFragment payload.endHeaders past

theorem handleHeadersFrame_quietStep (halive : c.state ≠ .failed)
    (frame : Http2Frame) (past : Past) : QuietStep (c.ledger past)
      ((c.handleHeadersFrame codec frame).2.ledger past) := by
  have hdiscard : HeaderBlockPurpose.discard ≠ .request := by decide
  have htrailers : HeaderBlockPurpose.trailers ≠ .request := by decide
  have w := QuietMoves.blocks codec
  have hquiet : ∀ {c' : Http2Connection D E H}, QuietMoves c c' →
      QuietStep (c.ledger past) (c'.ledger past) := fun h =>
    (h past).quietStep
  unfold handleHeadersFrame
  dsimp only
  split
  · exact hquiet (fail_quiet c _ _)
  split
  · exact hquiet (fail_quiet c _ _)
  split
  · exact handleNewStreamHeaders_quietStep codec halive _ _ past
  rename_i stream hstream
  split
  · exact hquiet (w.handleClosedStreamHeaders _ hstream)
  split
  · exact hquiet (w.failStream c _ _ _)
  split
  · exact hquiet ((w.failStream c _ _ _).trans (w.beginHeaderBlock _ _ hdiscard _ _ _))
  · exact hquiet (w.beginHeaderBlock c _ htrailers _ _ _)

theorem grants_eq_nil {frame : Http2Frame}
    (htype : frame.header.type ≠ .windowUpdate) : frame.grants = [] := if_neg htype

theorem dispatchFrame_quietStep (halive : c.state ≠ .failed) (now : Nat)
    {frame : Http2Frame} (hupdate : frame.header.type ≠ .windowUpdate)
    (hsettings : frame.header.type ≠ .settings) (past : Past) :
    QuietStep (c.ledger past) ((c.dispatchFrame codec now frame).2.ledger past) := by
  have hquiet : ∀ {c' : Http2Connection D E H}, QuietMoves c c' →
      QuietStep (c.ledger past) (c'.ledger past) := fun h =>
    (h past).quietStep
  have w := QuietMoves.blocks codec
  unfold dispatchFrame
  split
  · exact hquiet (QuietMoves.data.handleDataFrame c frame)
  · exact handleHeadersFrame_quietStep codec halive frame past
  · exact hquiet (w.handlePriorityFrame c frame)
  · exact hquiet (w.handleRstStreamFrame c now frame)
  · next htype => exact absurd htype hsettings
  · exact hquiet (fail_quiet c _ _)
  · exact hquiet (w.handlePingFrame c now frame)
  · exact hquiet (w.handleGoAwayFrame c frame)
  · next htype => exact absurd htype hupdate
  · exact hquiet (w.handleContinuationFrame c frame)
  · exact hquiet (.refl c)

theorem dispatchFrame_moves (halive : c.state ≠ .failed) (now : Nat)
    (frame : Http2Frame) (past : Past) (hknown : StreamsKnown (c.ledger past)) :
    StepMoves (c.ledger past)
      ((c.dispatchFrame codec now frame).2.ledger (past.grant frame.grants)) := by
  by_cases hupdate : frame.header.type = .windowUpdate
  · unfold dispatchFrame
    rw [hupdate]
    exact (handleWindowUpdateFrame_answers halive past hupdate hknown).stepMoves
  rw [grants_eq_nil hupdate, Past.grant_nil]
  by_cases hsettings : frame.header.type = .settings
  · unfold dispatchFrame
    rw [hsettings]
    exact (handleSettingsFrame_answers codec halive now frame past).stepMoves
  · exact (dispatchFrame_quietStep codec halive now hupdate hsettings past).stepMoves

theorem handleFrame_moves (halive : c.state ≠ .failed) (now : Nat)
    (frame : Http2Frame) (past : Past) (hknown : StreamsKnown (c.ledger past)) :
    StepMoves (c.ledger past)
      ((c.handleFrame codec now frame).2.ledger (past.grant frame.grants)) := by
  unfold handleFrame
  split
  · split
    · exact (fail_grants c _ _ _ past).answers.stepMoves
    rename_i hcontinues
    have hupdate : frame.header.type ≠ .windowUpdate := by
      intro htype
      refine hcontinues (.inl ?_)
      rw [htype]
      decide
    rw [grants_eq_nil hupdate, Past.grant_nil]
    exact (((QuietMoves.blocks codec).handleContinuationFrame c
      frame).grants past).answers.stepMoves
  · split
    · exact (fail_grants c _ _ _ past).answers.stepMoves
    · exact dispatchFrame_moves codec halive now frame past hknown

/-! ## Streams that begin and end -/

/-- The streams whose record is not closed. -/
def liveStreamIds (c : Http2Connection D E H) : List Nat :=
  (c.streams.entries.filter fun entry => entry.2.state ≠ .closed).map (·.1)

/-- An event begins at most one stream: the one that is now the highest. -/
def begunBetween (c c' : Http2Connection D E H) : List Nat :=
  if c'.highestPeerStreamId = c.highestPeerStreamId then []
  else [c'.highestPeerStreamId]

/-- The streams that were live, or began, and are not live any more. -/
def endedBetween (c c' : Http2Connection D E H) : List Nat :=
  (c.liveStreamIds ++ begunBetween c c').filter fun streamId =>
    streamId ∉ c'.liveStreamIds

end Http2Connection

/-- A history with the requests the application took out and the streams
that began and ended, each in the order of the events. -/
structure StreamHistory (D E H : Type) where
  history : Http2History D E H
  requests : List (Http2Request H) := []
  begun : List Nat := []
  ended : List Nat := []

namespace StreamHistory

open Http2Connection

variable {D E H : Type}

def start (configuration : Http2ConnectionConfiguration) (decoder : D)
    (encoder : E) : StreamHistory D E H :=
  { history := .start configuration decoder encoder }

def requestsTaken (c : Http2Connection D E H) : Http2Event → List (Http2Request H)
  | .takeRequests => c.takeRequests.1
  | _ => []

def step (codec : Http2Codec D E H) (s : StreamHistory D E H)
    (e : Http2Event) : StreamHistory D E H :=
  let c := s.history.connection
  let c' := c.apply codec e
  { history := s.history.step codec e
    requests := s.requests ++ requestsTaken c e
    begun := s.begun ++ begunBetween c c'
    ended := s.ended ++ endedBetween c c' }

/-- The histories of a connection whose steps all meet a condition. -/
def Reachable (codec : Http2Codec D E H) (condition : StreamHistory D E H → Http2Event → Prop)
    (configuration : Http2ConnectionConfiguration) (decoder : D)
    (encoder : E) : StreamHistory D E H → Prop :=
  Reach (step codec) condition (start configuration decoder encoder)

/-- The increments received so far. -/
def granted (s : StreamHistory D E H) : List (Nat × Nat) :=
  s.history.received.flatMap Http2Frame.grants

def past (s : StreamHistory D E H) : Past where
  written := s.history.written
  accepted := s.history.accepted
  granted := s.granted
  requests := s.requests.map (·.streamId)

def ledger (s : StreamHistory D E H) : StreamLedger := s.history.connection.ledger s.past

theorem ledger_of_quiet {codec : Http2Codec D E H} {s : StreamHistory D E H}
    {e : Http2Event} (hpast : (s.step codec e).past = s.past)
    (hquiet : QuietMoves s.history.connection (s.history.connection.apply codec e)) :
    StepMoves s.ledger (s.step codec e).ledger := by
  unfold ledger
  rw [hpast]
  exact ((hquiet.grants s.past).answers).stepMoves

theorem ledger_of_same {codec : Http2Codec D E H} {s : StreamHistory D E H}
    {e : Http2Event} (hsame : (s.step codec e).ledger = s.ledger) :
    StepMoves s.ledger (s.step codec e).ledger := by
  rw [hsame]
  exact (Answers.refl _).stepMoves

theorem apply_moves (codec : Http2Codec D E H) (s : StreamHistory D E H)
    (e : Http2Event) (hknown : StreamsKnown s.ledger) :
    StepMoves s.ledger (s.step codec e).ledger := by
  cases e with
  | preface bytes =>
    refine ledger_of_quiet (by simp [past, step, granted, requestsTaken,
      Http2History.step, Http2History.note]) ?_
    exact QuietMoves.admits.preface _ bytes
  | frame now frame =>
    by_cases hfeeds : s.history.connection.feedsFrames
    · have halive : s.history.connection.state ≠ .failed := by
        simp only [feedsFrames, Bool.and_eq_true, decide_eq_true_eq, ne_eq] at hfeeds
        exact hfeeds.2
      have hmoves := handleFrame_moves codec halive now frame s.past hknown
      have hpast : (s.step codec (.frame now frame)).past = s.past.grant frame.grants := by
        simp [past, step, granted, requestsTaken, Http2History.step,
          Http2History.note, hfeeds, Past.grant, List.flatMap_append]
      have hconnection : (s.step codec (.frame now frame)).history.connection =
            (s.history.connection.handleFrame codec now frame).2 := by
        simp only [step, Http2History.step_connection,
          Http2Connection.apply, feedFrame, if_pos hfeeds]
      unfold ledger
      rw [hpast, hconnection]
      exact hmoves
    · refine ledger_of_quiet (by simp [past, step, granted, requestsTaken,
        Http2History.step, Http2History.note, hfeeds]) ?_
      simp only [Http2Connection.apply, feedFrame, if_neg hfeeds]
      exact .refl _
  | frameDecodeFailure kind message =>
    exact ledger_of_quiet (by simp [past, step, granted, requestsTaken,
      Http2History.step, Http2History.note])
      (QuietMoves.admits.feedDecodeFailure _ kind message)
  | creditReceivedData streamId byteCount =>
    exact ledger_of_quiet (by simp [past, step, granted, requestsTaken,
      Http2History.step, Http2History.note])
      (QuietMoves.data.creditReceivedData _ streamId byteCount)
  | sendGoAway reason =>
    exact ledger_of_quiet (by simp [past, step, granted, requestsTaken,
      Http2History.step, Http2History.note]) (sendGoAway_quiet _ reason)
  | abortStream streamId reason errorCode =>
    exact ledger_of_quiet (by simp [past, step, granted, requestsTaken,
      Http2History.step, Http2History.note])
      (QuietMoves.admits.abortStream _ streamId reason errorCode)
  | failConnection errorCode reason =>
    exact ledger_of_quiet (by simp [past, step, granted, requestsTaken,
      Http2History.step, Http2History.note])
      (QuietMoves.admits.failConnection _ errorCode reason)
  | sendResponseHeaders streamId statusCode headerFields endStream =>
    exact ledger_of_quiet (by simp [past, step, granted, requestsTaken,
      Http2History.step, Http2History.note])
      ((QuietMoves.calls codec).sendResponseHeaders _ streamId statusCode headerFields endStream)
  | sendResponseTrailers streamId trailerFields =>
    exact ledger_of_quiet (by simp [past, step, granted, requestsTaken,
      Http2History.step, Http2History.note])
      ((QuietMoves.calls codec).sendResponseTrailers _ streamId trailerFields)
  | sendResponseData streamId data endStream =>
    have hmoves := sendResponseData_moves s.history.connection streamId data endStream s.past
    have hpast : (s.step codec (.sendResponseData streamId data endStream)).past =
          if (s.history.connection.sendResponseData streamId data endStream).result = .sent then
            Past.accept s.past streamId data else s.past := by
      split <;> simp_all [past, step, granted, requestsTaken,
        Http2History.step, Http2History.note, Past.accept]
    unfold ledger
    rw [hpast]
    exact hmoves
  | takeOutgoingBytes =>
    refine ledger_of_same ?_
    simp [ledger, Http2Connection.ledger, past, step, granted,
      requestsTaken, Http2History.step, Http2History.note,
      Http2Connection.apply, takeOutgoingBytes]
  | takeRequests =>
    refine ledger_of_same ?_
    simp [ledger, Http2Connection.ledger, past, step, granted,
      requestsTaken, Http2History.step, Http2History.note,
      Http2Connection.apply, takeRequests]
  | takeReceivedData =>
    refine ledger_of_same ?_
    simp [ledger, Http2Connection.ledger, past, step, granted,
      requestsTaken, Http2History.step, Http2History.note,
      Http2Connection.apply, takeReceivedData]

end StreamHistory

end AsynGyanis.Http2
