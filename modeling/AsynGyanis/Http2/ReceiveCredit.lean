import AsynGyanis.Http2.HeaderBlocks

/-!
# The books of the connection's receive window

A DATA frame is charged to the connection window with its whole payload,
padding included. From there the bytes have to come back: at once where
the frame is discarded, through the application where it is delivered.
Window, credit not yet announced and bytes delivered but not consumed
therefore add up to the initial window at all times.

`total` is that sum as far as the connection keeps it, and each operation
either leaves it alone or moves it by what it charges and credits. DATA
on a stream that the peer has half-closed is the exception: it is charged
and then neither delivered nor credited (`leakedByteCount`). The books
balance in every run without such a frame (`receive_window_conserved`).
-/

namespace AsynGyanis.Http2

open Library

namespace Http2Connection

variable {D E H : Type}
variable (codec : Http2Codec D E H) (c : Http2Connection D E H)

def CreditState.total (s : CreditState) : Int :=
  s.receiveWindowByteCount + s.pendingReceiveCreditByteCount + s.deliveredByteCount

/-- Window, unannounced credit and bytes not yet taken out. -/
def total (c : Http2Connection D E H) : Int := CreditState.total c.crediting

theorem total_eq : c.total = c.connectionReceiveWindowByteCount +
      c.pendingConnectionReceiveCreditByteCount +
      flowControlByteCount c.pendingReceivedData := rfl

theorem total_of_readSide {c c' : Http2Connection D E H}
    (h : c'.readSide = c.readSide) : c'.total = c.total :=
  congrArg (fun side : DecodingState D × CreditState =>
    CreditState.total side.2) h

variable (streamId : Nat)

theorem creditStreamReceiveWindow_readSide (byteCount : Nat) :
    (c.creditStreamReceiveWindow streamId byteCount).readSide = c.readSide := by
  unfold creditStreamReceiveWindow
  split
  · rfl
  · dsimp only
    split <;> rfl

/-! ## Crediting and charging -/

theorem creditConnectionReceiveWindow_total (byteCount : Nat) :
    (c.creditConnectionReceiveWindow byteCount).total = c.total + byteCount := by
  unfold creditConnectionReceiveWindow
  dsimp only
  split
  · simp only [total_eq]
    push_cast
    omega
  simp only [total_eq, appendOutgoing]
  push_cast
  omega

theorem creditReceivedData_total {c : Http2Connection D E H}
    (h : c.state ≠ .failed) (streamId byteCount : Nat) :
    (c.creditReceivedData streamId byteCount).connection.total =
      c.total + if (c.creditReceivedData streamId byteCount).result then
        (byteCount : Int) else 0 := by
  unfold creditReceivedData
  by_cases hzero : byteCount = 0
  · simp [hzero]
  by_cases hlarge : byteCount > kHttp2MaximumWindowSizeByteCount
  · simp [hzero, h, hlarge]
  rw [if_neg hzero, if_neg h, if_neg hlarge, if_pos rfl]
  exact (total_of_readSide (creditStreamReceiveWindow_readSide _ streamId
    byteCount)).trans (creditConnectionReceiveWindow_total c _)

theorem deliverData_total (payload : Http2DataPayload) (frameByteCount : Nat) :
    (c.deliverData streamId payload frameByteCount).total = c.total + frameByteCount := by
  have hpushed : ({ c with
      pendingReceivedData := c.pendingReceivedData ++
        [{ streamId := streamId
           data := payload.data
           endStream := payload.endStream
           flowControlByteCount := frameByteCount }] } :
      Http2Connection D E H).total = c.total + frameByteCount := by
    simp only [total_eq, flowControlByteCount_append, flowControlByteCount_singleton]
    push_cast
    omega
  unfold deliverData
  split
  · rw [total_of_readSide (noteRemoteEndStream_readSide _ streamId), hpushed]
  · exact hpushed

/-! ## DATA -/

/-- What a DATA frame takes from the connection window for good. -/
def leakedByteCount (c : Http2Connection D E H) (frame : Http2Frame) : Nat :=
  match c.streams.find? frame.header.streamId with
  | none => 0
  | some stream =>
    if c.feedsFrames ∧ c.isAssemblingHeaderBlock = false ∧
        frame.header.type = .data ∧ stream.state = .halfClosedRemote ∧
        (frame.header.payloadLength : Int) ≤ c.connectionReceiveWindowByteCount ∧
        (frame.header.payloadLength : Int) ≤ stream.receiveWindowByteCount then
      frame.header.payloadLength
    else 0

theorem handleDataOnClosedStream_total (stream : StreamRecord) (frameByteCount : Nat) :
    (c.handleDataOnClosedStream streamId stream frameByteCount).2.state = .failed ∨
      (c.handleDataOnClosedStream streamId stream frameByteCount).2.total =
        c.total + frameByteCount := by
  unfold handleDataOnClosedStream
  dsimp only
  split
  · exact .inr (creditConnectionReceiveWindow_total _ _)
  · exact .inr ((total_of_readSide (failStream_readSide _ streamId _
      _)).trans (creditConnectionReceiveWindow_total _ _))
  · exact .inl (fail_state _ _ _)

theorem handleDataOnLiveStream_total (stream : StreamRecord)
    (payload : Http2DataPayload) (frameByteCount : Nat) :
    (c.handleDataOnLiveStream streamId stream payload frameByteCount).2.state = .failed ∨
      (c.handleDataOnLiveStream streamId stream payload frameByteCount).2.total =
        if stream.state = .halfClosedRemote then c.total else c.total + frameByteCount := by
  unfold handleDataOnLiveStream
  dsimp only
  split
  · exact .inl (fail_state _ _ _)
  split
  · exact .inr (total_of_readSide (failStream_readSide _ streamId _ _))
  · exact .inr (deliverData_total _ _ _ _)

theorem handleDataFrame_total {c : Http2Connection D E H}
    {frame : Http2Frame} (hfeeds : c.feedsFrames)
    (hidle : c.isAssemblingHeaderBlock = false) (htype : frame.header.type = .data) :
    (c.handleDataFrame frame).2.state = .failed ∨
      (c.handleDataFrame frame).2.total + c.leakedByteCount frame =
        c.total := by
  have hcharged : ({ c with
      connectionReceiveWindowByteCount := c.connectionReceiveWindowByteCount -
        frame.header.payloadLength } : Http2Connection D E H).total =
      c.total - frame.header.payloadLength := by
    simp only [total_eq]
    omega
  unfold handleDataFrame
  dsimp only
  split
  · exact .inl (fail_state c _ _)
  split
  · exact .inl (fail_state c _ _)
  rename_i payload _
  split
  · exact .inl (fail_state _ _ _)
  unfold leakedByteCount
  rcases c.streams.find? frame.header.streamId with _ | stream
  · dsimp only
    split
    · refine .inr ?_
      rw [creditConnectionReceiveWindow_total, hcharged]
      omega
    · exact .inl (fail_state _ _ _)
  dsimp only
  split
  · next hclosed =>
    rcases handleDataOnClosedStream_total { c with
        connectionReceiveWindowByteCount := c.connectionReceiveWindowByteCount -
            frame.header.payloadLength }
        frame.header.streamId stream frame.header.payloadLength with
      hfailed | htotal
    · exact .inl hfailed
    · rw [htotal, hcharged, if_neg (by simp [hclosed])]
      exact .inr (by omega)
  rcases handleDataOnLiveStream_total { c with
      connectionReceiveWindowByteCount := c.connectionReceiveWindowByteCount -
          frame.header.payloadLength }
      frame.header.streamId stream payload
      frame.header.payloadLength with
    hfailed | htotal
  · exact .inl hfailed
  by_cases hstreamWindow : (frame.header.payloadLength : Int) ≤ stream.receiveWindowByteCount
  · rw [htotal, hcharged]
    refine .inr ?_
    by_cases hhalf : stream.state = .halfClosedRemote
    · rw [if_pos hhalf, if_pos ⟨hfeeds, hidle, htype, hhalf,
        by omega, hstreamWindow⟩]
      omega
    · rw [if_neg hhalf, if_neg fun h => hhalf h.2.2.2.1]
      omega
  · refine .inl ?_
    unfold handleDataOnLiveStream
    rw [if_pos (by omega)]
    exact fail_state _ _ _

/-! ## Header blocks

Trailers reach the application as a piece of received data too, but one
that counts nothing against the windows. -/

/-- Unless the connection fails, its books are as before. -/
def CreditingKept : Http2Connection D E H → Http2Connection D E H → Prop :=
  UnlessFailed fun c => c.readSide.2

theorem CreditingKept.blocks : AdmitsBlocks codec CreditingKept where
  toAdmits := UnlessFailed.admits Prod.snd
  assemble := fun _ _ _ _ _ => .of_same rfl rfl
  fragment := fun _ _ => .of_same rfl rfl
  decode := fun _ => .of_same rfl rfl
  request := fun _ _ _ _ => .of_same rfl rfl
  trailers := fun c data hnone => .of_same rfl (by
    simp only [readSide, crediting, flowControlByteCount_append,
      flowControlByteCount_singleton, hnone, Nat.add_zero])

theorem handleNewStreamHeaders_crediting (payload : Http2HeadersPayload) :
    CreditingKept c (c.handleNewStreamHeaders codec streamId payload).2 := by
  have w := CreditingKept.blocks codec
  have hrefused : ∀ reason, CreditingKept c (c.refuseNewStream streamId reason) := fun reason =>
    .of_same (by simp only [refuseNewStream, rememberTerminatedStream, setStream, appendOutgoing])
      (congrArg Prod.snd (refuseNewStream_readSide c streamId reason))
  unfold handleNewStreamHeaders
  split
  · exact w.fail c _ _
  split
  · exact w.trans (hrefused _) (w.beginHeaderBlock _ _ (by decide) _ _ _)
  split
  · exact w.trans (hrefused _) (w.beginHeaderBlock _ _ (by decide) _ _ _)
  · refine w.trans ?_ (w.beginHeaderBlock_rest _ _ _ _ _ _)
    exact .of_same rfl rfl

/-! ## Every frame -/

theorem leakedByteCount_eq_zero {c : Http2Connection D E H} {frame : Http2Frame}
    (h : c.isAssemblingHeaderBlock = true ∨ frame.header.type ≠ .data) :
    c.leakedByteCount frame = 0 := by
  unfold leakedByteCount
  split
  · rfl
  rw [if_neg]
  rintro ⟨_, hidle, hdata, _⟩
  rcases h with h | h
  · rw [h] at hidle; cases hidle
  · exact h hdata

theorem CreditingKept.total {c c' : Http2Connection D E H}
    (h : CreditingKept c c') {leaked : Nat} (hleaked : leaked = 0) :
    c'.state = .failed ∨ c'.total + leaked = c.total := by
  refine h.kept.imp_right fun hsame => ?_
  have htotal : c'.total = c.total := congrArg CreditState.total hsame
  rw [htotal, hleaked]
  simp

theorem handleFrame_total {c : Http2Connection D E H} (now : Nat)
    (frame : Http2Frame) (hfeeds : c.feedsFrames) :
    (c.handleFrame codec now frame).2.state = .failed ∨
      (c.handleFrame codec now frame).2.total + c.leakedByteCount frame =
        c.total := by
  unfold handleFrame
  split
  · next hassembling =>
    have hnone : c.leakedByteCount frame = 0 := leakedByteCount_eq_zero (.inl hassembling)
    split
    · exact .inl (fail_state c _ _)
    · exact CreditingKept.total ((CreditingKept.blocks codec).handleContinuationFrame c frame) hnone
  rename_i hidle
  have hidle : c.isAssemblingHeaderBlock = false := by simpa using hidle
  split
  · exact .inl (fail_state c _ _)
  by_cases hdata : frame.header.type = .data
  · rw [dispatchFrame, hdata]
    exact handleDataFrame_total hfeeds hidle hdata
  have hnone := leakedByteCount_eq_zero (c := c) (.inr hdata)
  have w := CreditingKept.blocks codec
  refine CreditingKept.total ?_ hnone
  unfold dispatchFrame
  split
  · next h => exact absurd h hdata
  · exact w.handleHeadersFrame c frame fun payload _ =>
      handleNewStreamHeaders_crediting codec c _ payload
  · exact w.handlePriorityFrame c frame
  · exact w.handleRstStreamFrame c now frame
  · exact (UnlessFailed.grants Prod.snd).handleSettingsFrame codec c now frame
  · exact w.fail c _ _
  · exact w.handlePingFrame c now frame
  · exact w.handleGoAwayFrame c frame
  · exact (UnlessFailed.grants Prod.snd).handleWindowUpdateFrame c frame
  · exact w.handleContinuationFrame c frame
  · exact w.refl c

end Http2Connection

/-! ## Whole runs -/

namespace Http2History

open Http2Connection

variable {D E H : Type}

/-- Bytes delivered to the application, taken out or not, that it has not
reported as consumed. -/
def unconsumedByteCount (h : Http2History D E H) : Int :=
  flowControlByteCount (h.taken ++ h.connection.pendingReceivedData) - h.consumedByteCount

/-- The receive window, the credit owed to the peer and the bytes the
application still holds. -/
def receiveBalance (h : Http2History D E H) : Int := h.connection.connectionReceiveWindowByteCount +
    h.connection.pendingConnectionReceiveCreditByteCount +
    h.unconsumedByteCount

/-- What the event takes from the window for good. -/
def leakedByteCount (h : Http2History D E H) (e : Http2Event) : Nat :=
  match e with
  | .frame _ frame => h.connection.leakedByteCount frame
  | _ => 0

theorem receiveBalance_eq (h : Http2History D E H) :
    h.receiveBalance = h.connection.total + flowControlByteCount h.taken -
      h.consumedByteCount := by
  rw [receiveBalance, unconsumedByteCount, Http2Connection.total_eq, flowControlByteCount_append]
  push_cast
  omega

/-- An event that leaves the books of the connection and of the
application alone. -/
theorem receiveBalance_of_kept {codec : Http2Codec D E H} {h : Http2History D E H} {e : Http2Event}
    (htaken : (h.step codec e).taken = h.taken)
    (hconsumed : (h.step codec e).consumedByteCount = h.consumedByteCount)
    (hleaked : h.leakedByteCount e = 0)
    (hkept : h.connection.CreditingKept (h.step codec e).connection) :
    (h.step codec e).connection.state = .failed ∨
      (h.step codec e).receiveBalance + h.leakedByteCount e =
        h.receiveBalance := by
  rcases hkept.total hleaked with hfailed | htotal
  · exact .inl hfailed
  · rw [receiveBalance_eq, receiveBalance_eq, htaken, hconsumed]
    exact .inr (by omega)

theorem receiveBalance_step {codec : Http2Codec D E H}
    {h : Http2History D E H} (hopen : h.connection.state ≠ .failed) (e : Http2Event) :
    (h.step codec e).connection.state = .failed ∨
      (h.step codec e).receiveBalance + h.leakedByteCount e =
        h.receiveBalance := by
  have w := CreditingKept.blocks codec
  cases e with
  | preface bytes =>
    exact receiveBalance_of_kept rfl rfl rfl (w.preface _ bytes)
  | frame now frame =>
    rw [receiveBalance_eq, receiveBalance_eq]
    by_cases hfeeds : h.connection.feedsFrames
    · have htotal := Http2Connection.handleFrame_total codec now frame hfeeds
      have hconnection : (h.step codec (.frame now frame)).connection =
          (h.connection.handleFrame codec now frame).2 := by
        simp [step, Http2Connection.apply, Http2Connection.feedFrame, hfeeds]
      rw [hconnection]
      refine htotal.imp_right fun htotal => ?_
      simp only [step, note, leakedByteCount]
      omega
    have hconnection : (h.step codec (.frame now frame)).connection =
        h.connection := by
      simp [step, Http2Connection.apply, Http2Connection.feedFrame, hfeeds]
    have hleaked : h.leakedByteCount (.frame now frame) = 0 := by
      simp only [leakedByteCount, Http2Connection.leakedByteCount]
      split
      · rfl
      · rw [if_neg fun hcase => hfeeds hcase.1]
    rw [hconnection, hleaked]
    exact .inr (by simp [step, note])
  | frameDecodeFailure kind message =>
    exact receiveBalance_of_kept rfl rfl rfl (w.feedDecodeFailure _ kind message)
  | creditReceivedData streamId byteCount =>
    have htotal := Http2Connection.creditReceivedData_total hopen streamId byteCount
    rw [receiveBalance_eq, receiveBalance_eq]
    refine .inr ?_
    simp only [step, note, Http2Connection.apply, leakedByteCount, htotal]
    split
    · push_cast
      omega
    · simp
  | sendGoAway reason =>
    exact receiveBalance_of_kept rfl rfl rfl (w.announce _ reason)
  | abortStream streamId reason errorCode =>
    exact receiveBalance_of_kept rfl rfl rfl (w.abortStream _ streamId reason errorCode)
  | failConnection errorCode reason =>
    exact receiveBalance_of_kept rfl rfl rfl (w.failConnection _ errorCode reason)
  | sendResponseHeaders streamId statusCode headerFields endStream =>
    exact receiveBalance_of_kept rfl rfl rfl ((UnlessFailed.calls Prod.snd
      codec).sendResponseHeaders _ streamId statusCode headerFields endStream)
  | sendResponseTrailers streamId trailerFields =>
    exact receiveBalance_of_kept rfl rfl rfl ((UnlessFailed.calls Prod.snd
      codec).sendResponseTrailers _ streamId trailerFields)
  | sendResponseData streamId data endStream =>
    exact receiveBalance_of_kept rfl rfl rfl
      (UnlessFailed.sendResponseData Prod.snd _ streamId data endStream)
  | takeOutgoingBytes =>
    exact receiveBalance_of_kept rfl rfl rfl (.of_same rfl rfl)
  | takeRequests =>
    exact receiveBalance_of_kept rfl rfl rfl (.of_same rfl rfl)
  | takeReceivedData =>
    rw [receiveBalance_eq, receiveBalance_eq]
    refine .inr ?_
    simp only [step, note, Http2Connection.apply,
      Http2Connection.takeReceivedData, Http2Connection.total_eq,
      flowControlByteCount_append, leakedByteCount]
    simp only [flowControlByteCount, List.map_nil, List.sum_nil]
    push_cast
    omega

/-- In every run in which no DATA frame leaks, the window, the credit owed
to the peer and the bytes the application has not consumed make up the
initial window as long as the connection has not failed. -/
theorem receive_window_conserved {codec : Http2Codec D E H}
    {configuration : Http2ConnectionConfiguration} {decoder : D}
    {encoder : E} {h : Http2History D E H}
    (hreach : Reachable codec (fun h e => h.leakedByteCount e = 0) configuration decoder encoder h)
    (hopen : h.connection.state ≠ .failed) :
    (h.connection.connectionReceiveWindowByteCount : Int) +
        h.connection.pendingConnectionReceiveCreditByteCount +
        h.unconsumedByteCount = kHttp2InitialWindowSizeByteCount := by
  have hinv : h.connection.state = .failed ∨
      h.receiveBalance = (kHttp2InitialWindowSizeByteCount : Int) := by
    refine hreach.invariant (P := fun h => h.connection.state = .failed ∨
      h.receiveBalance = (kHttp2InitialWindowSizeByteCount : Int))
      (.inr rfl) ?_
    intro h e hinv hleaked
    by_cases hfailed : h.connection.state = .failed
    · exact .inl (Http2Connection.apply_of_failed hfailed e)
    have hbalance := hinv.resolve_left hfailed
    refine (receiveBalance_step hfailed e).imp_right fun hstep => ?_
    omega
  exact hinv.resolve_left hopen

end Http2History

/-- DATA on a stream with its payload length. -/
def exampleData (streamId payloadLength : Nat) (payload : Bytes) (flags : UInt8) : Http2Event :=
  .frame 0 ⟨⟨payloadLength, .data, flags, streamId⟩, payload, false, {}⟩

/-- A request head without END_STREAM. -/
def exampleOpenRequest (streamId : Nat) : Http2Event :=
  .frame 0 ⟨⟨exampleBlock.length, .headers, 4, streamId⟩, exampleBlock, false, {}⟩

theorem receive_window_conserved_padded :
    let h := exampleRun (exampleOpening [] ++ [exampleOpenRequest 1,
      exampleData 1 10 [1, 2] 0, .takeReceivedData, .creditReceivedData 1 4])
    (h.connection.connectionReceiveWindowByteCount : Int) + 4 + 6 =
      kHttp2InitialWindowSizeByteCount := by
  intro h
  have hreach : Http2History.Reachable exampleCodec
      (fun h e => h.leakedByteCount e = 0) {} [] () h :=
    Reach.run .start _ (by decide +kernel)
  have hcredit : h.connection.pendingConnectionReceiveCreditByteCount = 4 := by
    decide +kernel
  have hunconsumed : h.unconsumedByteCount = 6 := by decide +kernel
  have hconserved := Http2History.receive_window_conserved hreach (by decide +kernel)
  rw [hcredit, hunconsumed] at hconserved
  exact hconserved

/-- A byte of DATA after END_STREAM is gone from the window for good. -/
theorem half_closed_data_leaks : ∃ h : Http2History (List HpackHeaderField) Unit Unit,
      Http2History.Reachable exampleCodec (fun _ _ => True) {} [] () h ∧
      h.connection.state ≠ .failed ∧
      (h.connection.connectionReceiveWindowByteCount : Int) +
        h.connection.pendingConnectionReceiveCreditByteCount +
        h.unconsumedByteCount ≠ kHttp2InitialWindowSizeByteCount := by
  refine ⟨exampleRun (exampleOpening [] ++ [exampleRequest 1, exampleData 1 1 [1] 0]),
    Reach.run .start _ ⟨trivial, trivial, trivial, trivial, trivial⟩,
    ?_, ?_⟩
  · decide +kernel
  · decide +kernel

end AsynGyanis.Http2
