import AsynGyanis.Http3.Effects

/-!
# After the end of a request stream

A stream that was failed, cancelled by the peer or turned away is over: what
still arrives on it is to give back its credit and do nothing else.

The end of a stream is kept in its record, and the record does not always
stay. It stays when the stream fails while another one is read, when the
peer's GOAWAY takes it or when the application gives it up. It goes with the
delivery in which the stream fails, and with the peer's cancellation; the
next byte then finds no record and begins a new request. Only the mark of
the drain stands for records that are gone.
-/

namespace AsynGyanis.Http3

open Quic Library List

variable {D E V : Type}

/-- The application is told that the stream is over, or that its head is
not taken. -/
def Http3Output.ends (streamId : Nat) : Http3Output → Bool
  | .streamReset id _ _ _ | .malformedRequest id _ => id == streamId
  | _ => false

/-- Credit of a stream, and what this model notes about credit. -/
def Http3Output.isCreditOf (streamId : Nat) : Http3Output → Bool
  | .credited id _ | .uncredited id _ | .stranded id _ => id == streamId
  | _ => false

namespace Http3Connection

/-! ## The end and what may follow -/

/-- The stream of a request or of its response. -/
def isRequestStream (c : Http3Connection D E V) (streamId : Nat) : Bool :=
  !isUnidirectionalStream streamId && (c.isLocallyInitiatedStream streamId || c.isLocalServer)

def HasEnded (c : Http3Connection D E V) (streamId : Nat) : Prop :=
  (∃ output ∈ c.outputs, output.ends streamId = true) ∨
    (c.streams.find? streamId).any (·.isAbandoned) = true

/-- A request that is still being read. -/
def IsLive (c : Http3Connection D E V) (streamId : Nat) : Prop :=
  ∃ state, c.streams.find? streamId = some state ∧
    state.isAbandoned = false ∧ state.isHeadRejected = false

/-- From one state to the other nothing came out but credit of a stream. -/
structure OnlyCredit (streamId : Nat) (c c' : Http3Connection D E V) :
    Prop where
  outputs : ∃ added, c'.outputs = c.outputs ++ added ∧
    ∀ output ∈ added, output.isCreditOf streamId = true
  isBroken : c'.isBroken = c.isBroken

/-- The delivery finds the end of its stream: the record of an abandoned
stream, the mark of the drain over one without a record, or a rejected head
whose reader holds the bytes and whose end is not to be told. -/
def FindsEnd (c : Http3Connection D E V) (streamId : Nat) (data : Bytes)
    (isEndStream : Bool) : Prop :=
  match c.streams.find? streamId with
  | some state =>
    state.isAbandoned = true ∨ state.isHeadRejected = true ∧
        ((state.reader.getD { maximumFrameByteCount :=
          c.configuration.localSettings.maximumFrameByteCount
          }).feed data).1 = none ∧
        (isEndStream = true → state.isPeerFinished = true ∨ state.isFieldSectionBlocked = true)
  | none =>
    c.isDraining = true ∧ c.rejectedFromStreamId ≤ streamId ∧
      c.lastRejectedDrainedStreamId.any (streamId ≤ ·) = true

variable {codec : Http3Codec D E V} {c c' c'' : Http3Connection D E V}
  {streamId : Nat}

/-! ## Nothing but credit -/

namespace OnlyCredit

theorem refl (c : Http3Connection D E V) : OnlyCredit streamId c c :=
  ⟨⟨[], (List.append_nil _).symm, fun _ hmem => nomatch hmem⟩, rfl⟩

theorem trans (h : OnlyCredit streamId c c')
    (h' : OnlyCredit streamId c' c'') : OnlyCredit streamId c c'' := by
  obtain ⟨added, heq, hadded⟩ := h.outputs
  obtain ⟨added', heq', hadded'⟩ := h'.outputs
  refine ⟨⟨added ++ added', ?_, ?_⟩, h'.isBroken.trans h.isBroken⟩
  · rw [heq', heq, append_assoc]
  intro output hmem
  rcases mem_append.mp hmem with hmem | hmem
  · exact hadded output hmem
  · exact hadded' output hmem

theorem emit {output : Http3Output} (h : output.isCreditOf streamId) :
    OnlyCredit streamId c (c.emit output) :=
  ⟨⟨[output], rfl, fun other hmem => by
    rwa [List.mem_singleton.mp hmem]⟩, rfl⟩

theorem credit (byteCount : Nat) : OnlyCredit streamId c (c.credit streamId byteCount) := by
  unfold Http3Connection.credit
  split
  · exact emit (beq_self_eq_true streamId)
  · exact refl c

theorem noteStranded : OnlyCredit streamId c (c.noteStranded streamId) := by
  unfold Http3Connection.noteStranded
  split
  · exact refl c
  · exact emit (beq_self_eq_true streamId)

theorem modifyStream (update : StreamState V → StreamState V) :
    OnlyCredit streamId c (c.modifyStream streamId update) := by
  obtain ⟨_, heq⟩ := c.modifyStream_eq streamId update
  rw [heq]
  exact ⟨⟨[], (append_nil _).symm, fun _ hmem => nomatch hmem⟩, rfl⟩

theorem creditConsumedBytes (payloadByteCount : Nat) : OnlyCredit streamId c
      (c.creditConsumedBytes streamId payloadByteCount) := by
  unfold Http3Connection.creditConsumedBytes
  dsimp only
  split
  · exact refl c
  split
  · exact refl c
  · exact (modifyStream _).trans (credit _)

theorem reports (h : OnlyCredit streamId c c') (other : Nat) :
    reportsOn other c'.outputs = reportsOn other c.outputs := by
  obtain ⟨added, heq, hadded⟩ := h.outputs
  rw [heq, reportsOn_append]
  refine (congrArg _ ?_).trans (append_nil _)
  refine filter_eq_nil_iff.mpr fun output hmem hreported => ?_
  have hcredit := hadded output hmem
  cases output with
  | credited _ _ | uncredited _ _ | stranded _ _ =>
    exact nomatch of_decide_eq_true hreported
  | _ => exact nomatch hcredit

end OnlyCredit

/-! ## A request under way -/

/-- The request of a stream does not vanish without a word: it is still
being read, the application was told something, or the connection broke. -/
structure Pursues (streamId : Nat) (c c' : Http3Connection D E V) : Prop where
  isBroken : c.isBroken = true → c'.isBroken = true
  reports : (reportsOn streamId c.outputs).length ≤ (reportsOn streamId c'.outputs).length
  live : c.IsLive streamId → c'.IsLive streamId ∨ c'.isBroken = true ∨
    (reportsOn streamId c.outputs).length < (reportsOn streamId c'.outputs).length

namespace Pursues

theorem refl (c : Http3Connection D E V) : Pursues streamId c c := ⟨id, le_rfl, .inl⟩

theorem trans (h : Pursues streamId c c') (h' : Pursues streamId c' c'') :
    Pursues streamId c c'' where
  isBroken := fun hbroken => h'.isBroken (h.isBroken hbroken)
  reports := h.reports.trans h'.reports
  live := by
    intro hlive
    rcases h.live hlive with hlive | hbroken | hless
    · rcases h'.live hlive with hlive | hbroken | hless
      · exact .inl hlive
      · exact .inr (.inl hbroken)
      · exact .inr (.inr (h.reports.trans_lt hless))
    · exact .inr (.inl (h'.isBroken hbroken))
    · exact .inr (.inr (hless.trans_le h'.reports))

theorem of_via (h : Via noStream c c') : Pursues streamId c c' where
  isBroken := h.kept.isBroken
  reports := by rw [h.quiet_reports]
  live := by
    rintro ⟨state, hfind, hstate⟩
    exact .inl ⟨state, (h.quiet_record streamId).trans hfind, hstate⟩

theorem of_reports (hvia : Via .any c c')
    (h : (reportsOn streamId c.outputs).length <
      (reportsOn streamId c'.outputs).length) : Pursues streamId c c' where
  isBroken := hvia.kept.isBroken
  reports := h.le
  live := fun _ => .inr (.inr h)

theorem emit (output : Http3Output) : Pursues streamId c (c.emit output) where
  isBroken := id
  reports := by
    rw [Http3Connection.emit, reportsOn_append, length_append]
    exact Nat.le_add_right _ _
  live := .inl

theorem breakConnection (errorCode : Http3ErrorCode) (reason : String) :
    Pursues streamId c (c.breakConnection errorCode reason) where
  isBroken := fun _ => breakConnection_isBroken _ _
  reports := by
    unfold Http3Connection.breakConnection
    split
    · exact le_rfl
    · rw [reportsOn_append, length_append]
      exact Nat.le_add_right _ _
  live := fun _ => .inr (.inl (breakConnection_isBroken _ _))

theorem modifyStream {update : StreamState V → StreamState V}
    (h : ∀ state, (update state).isAbandoned = state.isAbandoned ∧
      (update state).isHeadRejected = state.isHeadRejected) :
    Pursues streamId c (c.modifyStream streamId update) where
  isBroken := by
    obtain ⟨_, heq⟩ := c.modifyStream_eq streamId update
    rw [heq]
    exact id
  reports := by rw [modifyStream_outputs]
  live := by
    rintro ⟨state, hfind, habandoned, hrejected⟩
    refine .inl ⟨update state, ?_, (h state).1.trans habandoned, (h state).2.trans hrejected⟩
    rw [modifyStream_find_self, hfind]
    rfl

theorem failStream (errorCode : Http3ErrorCode) (reason : String) :
    Pursues streamId c (c.failStream codec streamId errorCode reason) := by
  refine of_reports ((Via.refl c).failStream trivial _ _) ?_
  rw [(failStream_self codec c streamId errorCode reason).2, length_append]
  exact Nat.lt_succ_self _

theorem decoder (decoder : D) (bytes : Bytes) : Pursues streamId c
      ({ c with qpackDecoder := decoder }.queueDecoderInstructions bytes) :=
  of_via ((Via.refl c).decoder decoder bytes)

theorem credit (byteCount : Nat) : Pursues streamId c (c.credit streamId byteCount) :=
  of_via ((Via.refl c).credit trivial byteCount)

theorem noteStranded : Pursues streamId c (c.noteStranded streamId) :=
  of_via ((Via.refl c).noteStranded streamId)

theorem rejectRequestHead (reason : String) :
    Pursues streamId c (c.rejectRequestHead codec streamId reason) := by
  refine of_reports ((Via.refl c).rejectRequestHead trivial reason) ?_
  have hquiet : ∀ d : Http3Connection D E V, reportsOn streamId
          (d.abandonInboundFieldSections codec streamId).outputs =
        reportsOn streamId d.outputs :=
    fun d => Via.quiet_reports (Via.abandonInboundFieldSections (.refl d) codec streamId) streamId
  unfold Http3Connection.rejectRequestHead
  dsimp only
  split
  · rw [Http3Connection.emit, reportsOn_append, hquiet, modifyStream_outputs, length_append]
    simp [reportsOn, Http3Output.reportedStream?]
  rw [(failStream_self codec _ streamId _ _).2, hquiet, modifyStream_outputs, length_append]
  exact Nat.lt_succ_self _

theorem handOverFieldSection (fields : List QpackHeaderField) (isTrailers : Bool) :
    Pursues streamId c (c.handOverFieldSection codec streamId fields isTrailers) := by
  have hfields : Pursues streamId c (fields.foldl (fun c field =>
      c.emit (.headerField streamId field isTrailers)) c) :=
    foldl_invariant (P := Pursues streamId c) (fun _ _ h => h.trans (emit _)) fields c (refl c)
  exact (hfields.trans (decoder _ _)).trans (emit _)

theorem deliverFieldSection (fields : List QpackHeaderField) (isTrailers : Bool) :
    Pursues streamId c (c.deliverFieldSection codec streamId fields isTrailers) := by
  unfold Http3Connection.deliverFieldSection
  dsimp only
  split
  · split
    · refine (modifyStream ?_).trans (rejectRequestHead _)
      exact fun _ => ⟨rfl, rfl⟩
    refine ((modifyStream ?_).trans (modifyStream ?_)).trans (decoder _ _)
    · exact fun _ => ⟨rfl, rfl⟩
    · exact fun _ => ⟨rfl, rfl⟩
  · split
    · refine (modifyStream ?_).trans (rejectRequestHead _)
      exact fun _ => ⟨rfl, rfl⟩
    · refine (modifyStream ?_).trans (handOverFieldSection fields isTrailers)
      exact fun _ => ⟨rfl, rfl⟩

/-! ### Frames -/

theorem handleHeadersFrame (encodedFieldSection : Bytes) : Pursues streamId c
      (c.handleHeadersFrame codec streamId encodedFieldSection) := by
  unfold Http3Connection.handleHeadersFrame
  dsimp only
  split
  · exact failStream _ _
  have hstarted : Pursues streamId c
      ((c.modifyStream streamId fun state =>
        { state with
          isTrailersSeen := state.isTrailersSeen ||
            (c.streamState streamId).isHeaderSectionSeen }).emit
        (.headerSectionStarted streamId (c.streamState streamId).isHeaderSectionSeen)) := by
    refine (modifyStream ?_).trans (emit _)
    exact fun _ => ⟨rfl, rfl⟩
  have hdecoded := fun newDecoder bytes =>
    hstarted.trans (decoder newDecoder bytes)
  split
  · exact (hdecoded _ _).trans (breakConnection _ _)
  · refine (hdecoded _ _).trans (modifyStream ?_)
    exact fun _ => ⟨rfl, rfl⟩
  refine ((hdecoded _ _).trans (modifyStream ?_)).trans (deliverFieldSection _ _)
  exact fun _ => ⟨rfl, rfl⟩

theorem handleDataFrame (payload : Bytes) :
    Pursues streamId c (c.handleDataFrame codec streamId payload) := by
  unfold Http3Connection.handleDataFrame
  dsimp only
  split
  · exact breakConnection _ _
  split
  · refine Pursues.trans ?_ (failStream _ _)
    unfold noteUncredited
    split
    · exact refl c
    · exact emit _
  · split
    · exact modifyStream fun _ => ⟨rfl, rfl⟩
    · refine (modifyStream ?_).trans (emit _)
      exact fun _ => ⟨rfl, rfl⟩

theorem handleRequestFrame (frame : Http3Frame) :
    Pursues streamId c (c.handleRequestFrame codec streamId frame) := by
  unfold Http3Connection.handleRequestFrame
  split
  · exact breakConnection _ _
  split
  · exact handleHeadersFrame _
  · exact handleDataFrame _
  · exact refl c
  split
  · exact refl c
  · exact breakConnection _ _

theorem consumeRequestFrames (rounds payloadByteCount : Nat) :
    Pursues streamId c (Http3Connection.consumeRequestFrames codec streamId
      rounds payloadByteCount c).1 := by
  induction rounds generalizing c payloadByteCount with
  | zero => exact refl c
  | succ rounds ih =>
    unfold Http3Connection.consumeRequestFrames
    dsimp only
    split
    · exact refl c
    split
    · exact refl c
    split
    · refine (modifyStream ?_).trans (breakConnection _ _)
      exact fun _ => ⟨rfl, rfl⟩
    · exact refl c
    refine ((modifyStream ?_).trans (handleRequestFrame _)).trans (ih _)
    exact fun _ => ⟨rfl, rfl⟩

theorem creditConsumedBytes (payloadByteCount : Nat) : Pursues streamId c
      (c.creditConsumedBytes streamId payloadByteCount) := by
  unfold Http3Connection.creditConsumedBytes
  dsimp only
  split
  · exact refl c
  split
  · exact refl c
  · refine (modifyStream ?_).trans (credit _)
    exact fun _ => ⟨rfl, rfl⟩

/-! ### The end of a message -/

theorem closeStreamIfDone_reports_le : (reportsOn streamId c.outputs).length ≤
      (reportsOn streamId (c.closeStreamIfDone codec streamId).outputs).length := by
  unfold closeStreamIfDone
  split
  · exact le_rfl
  split
  · exact le_rfl
  rw [eraseStream_reports, Http3Connection.emit, reportsOn_append, length_append]
  exact Nat.le_add_right _ _

theorem finish_reports : (reportsOn streamId c.outputs).length <
      (reportsOn streamId (c.finishRequestStreamIfEnded codec streamId).outputs).length := by
  have hfailed : ∀ errorCode reason, (reportsOn streamId c.outputs).length <
      (reportsOn streamId (c.failStream codec streamId errorCode reason).outputs).length := by
    intro errorCode reason
    rw [(failStream_self codec c streamId errorCode reason).2, length_append]
    exact Nat.lt_succ_self _
  unfold finishRequestStreamIfEnded
  dsimp only
  split
  · split
    · exact hfailed _ _
    · exact hfailed _ _
  split
  · exact hfailed _ _
  refine lt_of_lt_of_le ?_ closeStreamIfDone_reports_le
  rw [Http3Connection.emit, reportsOn_append, length_append]
  simp [reportsOn, Http3Output.reportedStream?]

theorem finishRequestStreamIfEnded :
    Pursues streamId c (c.finishRequestStreamIfEnded codec streamId) :=
  of_reports ((Via.refl c).finishRequestStreamIfEnded trivial) finish_reports

theorem pruneAbandonedStream : Pursues streamId c (c.pruneAbandonedStream streamId) where
  isBroken := by
    have hvia : Via .any c (c.pruneAbandonedStream streamId) :=
      Via.pruneAbandonedStream (.refl c) trivial
    exact hvia.kept.isBroken
  reports := by rw [pruneAbandonedStream_reports]
  live := by
    rintro ⟨state, hfind, habandoned, hrejected⟩
    refine .inl ⟨state, ?_, habandoned, hrejected⟩
    unfold Http3Connection.pruneAbandonedStream
    rw [if_neg]
    · exact hfind
    · rw [hfind, Option.any_some, habandoned]
      exact Bool.false_ne_true

theorem processRequestStream (data : Bytes) (isEndStream : Bool) : Pursues streamId c
      (c.processRequestStream codec streamId data isEndStream) := by
  have hfed : Pursues streamId c (c.feedReader streamId data).2 := modifyStream fun _ => ⟨rfl, rfl⟩
  unfold Http3Connection.processRequestStream
  split
  · exact credit _
  split
  · next error d heq =>
    rw [heq] at hfed
    exact hfed.trans (breakConnection _ _)
  rename_i d heq
  rw [heq] at hfed
  have hframes : Pursues streamId c
      (Http3Connection.consumeRequestFrames codec streamId (d.readerByteCount streamId) 0 d).1 :=
    hfed.trans (consumeRequestFrames _ _)
  split
  · next d₂ hconsumed =>
    rw [hconsumed] at hframes
    exact hframes
  rename_i d₂ payloadByteCount hconsumed
  rw [hconsumed] at hframes
  refine Pursues.trans ?_ pruneAbandonedStream
  have hcredited := hframes.trans (creditConsumedBytes payloadByteCount)
  split
  · have hnoted : Pursues streamId c
        (((d₂.creditConsumedBytes streamId payloadByteCount).modifyStream streamId fun state =>
            { state with isPeerFinished := true }).noteStranded streamId) := by
      refine (hcredited.trans (modifyStream ?_)).trans noteStranded
      exact fun _ => ⟨rfl, rfl⟩
    split
    · exact hnoted
    · exact hnoted.trans finishRequestStreamIfEnded
  · exact hcredited

end Pursues

/-! ## A head that was rejected -/

variable {state : StreamState V}

theorem creditConsumedBytes_find
    (h : c.streams.find? streamId = some state) (payloadByteCount : Nat) :
    ∃ creditedByteCount, (c.creditConsumedBytes streamId payloadByteCount).streams.find? streamId =
        some { state with creditedByteCount := creditedByteCount } := by
  unfold creditConsumedBytes
  dsimp only
  split
  · exact ⟨_, h⟩
  split
  · exact ⟨_, h⟩
  have hcredited : ∀ (d : Http3Connection D E V) n,
      (d.credit streamId n).streams.find? streamId = d.streams.find? streamId :=
    fun d n => Via.quiet_record (Via.credit (.refl d) trivial n) streamId
  exact ⟨_, (hcredited _ _).trans (modifyStream_find h _)⟩

theorem consumeRequestFrames_headRejected (h : c.streams.find? streamId = some state)
    (hrejected : state.isHeadRejected) (rounds : Nat) :
    consumeRequestFrames codec streamId rounds 0 c = (c, some 0) := by
  cases rounds with
  | zero => rfl
  | succ rounds =>
    exact if_pos (by simp [streamState_eq h, hrejected])

variable (codec) in
/-- Bytes on such a stream wait in its reader, and its end is only told if
no section waits. -/
theorem processRequestStream_headRejected (hfind : c.streams.find? streamId = some state)
    (hopen : c.isBroken = false) (habandoned : state.isAbandoned = false)
    (hrejected : state.isHeadRejected = true) {data : Bytes}
    (hfits : ((state.reader.getD { maximumFrameByteCount :=
      c.configuration.localSettings.maximumFrameByteCount
      }).feed data).1 = none) (isEndStream : Bool) :
    ∃ d state', OnlyCredit streamId c d ∧ d.streams.find? streamId = some state' ∧
      state'.isAbandoned = false ∧ state'.isHeadRejected = true ∧
      c.processRequestStream codec streamId data isEndStream =
        (if isEndStream && !state.isPeerFinished then
          if state.isFieldSectionBlocked then d
          else d.finishRequestStreamIfEnded codec streamId
        else d).pruneAbandonedStream streamId := by
  have hfed : ∃ reader, c.feedReader streamId data =
        (none, c.modifyStream streamId fun state =>
          { state with
            reader := some reader
            fedByteCount := state.fedByteCount + data.length }) := by
    rw [feedReader, streamState_eq hfind]
    exact ⟨_, Prod.ext hfits rfl⟩
  obtain ⟨reader, hfed⟩ := hfed
  have hfound := modifyStream_find hfind fun state =>
    { state with
      reader := some reader
      fedByteCount := state.fedByteCount + data.length }
  obtain ⟨credited, hcredited⟩ := creditConsumedBytes_find hfound 0
  have hquiet : OnlyCredit streamId c
      ((c.modifyStream streamId fun state =>
        { state with
          reader := some reader
          fedByteCount := state.fedByteCount + data.length
          }).creditConsumedBytes streamId 0) :=
    (OnlyCredit.modifyStream _).trans (OnlyCredit.creditConsumedBytes 0)
  have hopen' := hquiet.isBroken.trans hopen
  unfold processRequestStream
  rw [streamState_eq hfind, if_neg (by rw [habandoned]; decide), hfed]
  dsimp only
  rw [consumeRequestFrames_headRejected hfound hrejected]
  dsimp only
  rw [streamState_eq hcredited]
  rw [habandoned, hopen', Bool.not_false, Bool.and_true, Bool.and_true]
  cases isEndStream && !state.isPeerFinished with
  | false => exact ⟨_, _, hquiet, hcredited, habandoned, hrejected, rfl⟩
  | true =>
    have hfinished := modifyStream_find hcredited fun state =>
      { state with isPeerFinished := true }
    have hnoted : ∀ d : Http3Connection D E V,
        (d.noteStranded streamId).streams.find? streamId = d.streams.find? streamId :=
      fun d => Via.quiet_record (Via.noteStranded (.refl d) streamId) streamId
    exact ⟨_, _, (hquiet.trans (OnlyCredit.modifyStream _)).trans
      OnlyCredit.noteStranded, (hnoted _).trans hfinished, habandoned,
      hrejected, rfl⟩

/-! ## The end that is found -/

theorem consumeStreamData_request (hopen : c.isUsable ∧ c.isBroken = false)
    (hrequest : c.isRequestStream streamId) (data : Bytes) (isEndStream : Bool) :
    c.apply codec (.streamData streamId data isEndStream) =
      c.consumeRequestStream codec streamId data isEndStream := by
  simp only [isRequestStream, Bool.and_eq_true, Bool.not_eq_true'] at hrequest
  simp [apply, consumeStreamData, hopen.1, hopen.2, hrequest.1, hrequest.2]

variable {data : Bytes} {isEndStream : Bool}

theorem consumeRequestStream_known (h : c.streams.find? streamId = some state) :
    c.consumeRequestStream codec streamId data isEndStream =
      c.processRequestStream codec streamId data isEndStream := by
  unfold consumeRequestStream ensureStream
  rw [h]
  rfl

theorem credit_find (other byteCount : Nat) :
    (c.credit streamId byteCount).streams.find? other = c.streams.find? other :=
  Via.quiet_record (Via.credit (.refl c) trivial byteCount) other

theorem notLive_of_find (hfind : c.streams.find? streamId = some state)
    (h : state.isAbandoned = true ∨ state.isHeadRejected) : ¬ c.IsLive streamId := by
  rintro ⟨other, hother, habandoned, hrejected⟩
  obtain rfl := Option.some.inj (hfind.symm.trans hother)
  rw [habandoned, hrejected] at h
  exact h.elim (nofun) nofun

theorem FindsEnd.onlyCredit (h : c.FindsEnd streamId data isEndStream)
    (hopen : c.isBroken = false) :
    OnlyCredit streamId c (c.consumeRequestStream codec streamId data isEndStream) ∧
      ¬ (c.consumeRequestStream codec streamId data isEndStream).IsLive
        streamId := by
  unfold FindsEnd at h
  cases hfind : c.streams.find? streamId with
  | none =>
    rw [hfind] at h
    obtain ⟨hdraining, hboundary, hmark⟩ := h
    have heq : c.consumeRequestStream codec streamId data isEndStream =
        c.credit streamId data.length := by
      unfold consumeRequestStream
      simp [hfind, hdraining, hboundary, hmark]
    rw [heq]
    refine ⟨.credit _, ?_⟩
    rintro ⟨state, hlive, _⟩
    rw [credit_find, hfind] at hlive
    cases hlive
  | some state =>
    rw [hfind] at h
    dsimp only at h
    rw [consumeRequestStream_known hfind]
    cases habandoned : state.isAbandoned with
    | true =>
      have heq : c.processRequestStream codec streamId data isEndStream =
          c.credit streamId data.length := by
        unfold processRequestStream
        rw [streamState_eq hfind, if_pos habandoned]
      rw [heq]
      exact ⟨.credit _, notLive_of_find ((credit_find _ _).trans hfind) (.inl habandoned)⟩
    | false =>
      rw [habandoned] at h
      obtain ⟨hrejected, hfits, hend⟩ := h.resolve_left Bool.false_ne_true
      obtain ⟨d, state', hquiet, hfound, habandoned', hrejected', heq⟩ :=
        processRequestStream_headRejected codec hfind hopen habandoned hrejected hfits isEndStream
      have hwaits : (if isEndStream && !state.isPeerFinished then
          if state.isFieldSectionBlocked then d
          else d.finishRequestStreamIfEnded codec streamId
        else d) = d := by
        split
        · next hfinishes =>
          simp only [Bool.and_eq_true, Bool.not_eq_true'] at hfinishes
          have hblocked := (hend hfinishes.1).resolve_left fun hpeer =>
            nomatch hfinishes.2.symm.trans hpeer
          exact if_pos hblocked
        · rfl
      have hkept : d.pruneAbandonedStream streamId = d := by
        unfold pruneAbandonedStream
        rw [hfound, Option.any_some, habandoned']
        exact if_neg Bool.false_ne_true
      rw [heq, hwaits, hkept]
      exact ⟨hquiet, notLive_of_find hfound (.inr hrejected')⟩

/-! ## The end that is not found -/

variable (codec) in
theorem consumeRequestStream_new (hnone : c.streams.find? streamId = none)
    (hdrain : ¬ (c.isDraining = true ∧ c.rejectedFromStreamId ≤ streamId)) :
    ∃ d : Http3Connection D E V, d.IsLive streamId ∧ d.outputs = c.outputs ∧
      c.consumeRequestStream codec streamId data isEndStream =
        d.processRequestStream codec streamId data isEndStream := by
  have hfound : (c.ensureStream streamId).streams.find? streamId = some {} := by
    rw [ensureStream_find_self, hnone]
    rfl
  unfold consumeRequestStream
  dsimp only
  rw [if_neg]
  · split
    · refine ⟨_, ?_, ?_, rfl⟩
      · exact ⟨{}, hfound, rfl, rfl⟩
      · exact ensureStream_outputs
    · exact ⟨_, ⟨{}, hfound, rfl, rfl⟩, ensureStream_outputs, rfl⟩
  · simpa [hnone] using hdrain

theorem IsLive.answers {d : Http3Connection D E V} (hlive : d.IsLive streamId)
    (houtputs : d.outputs = c.outputs) (hopen : c.isBroken = false)
    (hquiet : OnlyCredit streamId c (d.processRequestStream codec streamId data isEndStream)) :
    (d.processRequestStream codec streamId data isEndStream).IsLive
      streamId := by
  have hpursues : Pursues streamId d (d.processRequestStream codec streamId data isEndStream) :=
    .processRequestStream data isEndStream
  rcases hpursues.live hlive with hlive | hfailed | hless
  · exact hlive
  · rw [hquiet.isBroken, hopen] at hfailed
    cases hfailed
  · rw [hquiet.reports, houtputs] at hless
    exact absurd hless (lt_irrefl _)

variable (codec isEndStream) in
theorem processRequestStream_overfed (hfind : c.streams.find? streamId = some state)
    (habandoned : state.isAbandoned = false) {error : Http3FrameError}
    (hfed : ((state.reader.getD { maximumFrameByteCount :=
      c.configuration.localSettings.maximumFrameByteCount
      }).feed data).1 = some error) :
    (c.processRequestStream codec streamId data isEndStream).isBroken = true := by
  have hfailed : (c.feedReader streamId data).1 = some error := by
    rw [feedReader, streamState_eq hfind]
    exact hfed
  unfold processRequestStream
  rw [streamState_eq hfind, if_neg (by rw [habandoned]; decide)]
  split
  · exact breakConnection_isBroken _ _
  rename_i heq
  rw [heq] at hfailed
  exact nomatch hfailed

theorem findsEnd_of_onlyCredit (hopen : c.isBroken = false)
    (hquiet : OnlyCredit streamId c (c.consumeRequestStream codec streamId data isEndStream))
    (hover : ¬ (c.consumeRequestStream codec streamId data isEndStream).IsLive streamId) :
    c.FindsEnd streamId data isEndStream := by
  unfold FindsEnd
  cases hfind : c.streams.find? streamId with
  | none =>
    by_cases hdrain : c.isDraining ∧ c.rejectedFromStreamId ≤ streamId
    · refine ⟨hdrain.1, hdrain.2, ?_⟩
      by_contra hmark
      have heq : c.consumeRequestStream codec streamId data isEndStream =
          { c with lastRejectedDrainedStreamId := some streamId
            }.rejectStreamAfterDrain codec streamId data := by
        unfold consumeRequestStream
        simp [hfind, hdrain.1, hdrain.2, hmark]
      have hsaid := (rejectStreamAfterDrain_self codec
        { c with lastRejectedDrainedStreamId := some streamId } streamId
        data).2
      rw [← heq, hquiet.reports] at hsaid
      have hlength := congrArg length hsaid
      rw [length_append] at hlength
      exact absurd hlength (ne_of_lt (Nat.lt_succ_self _))
    · obtain ⟨d, hlive, houtputs, heq⟩ := consumeRequestStream_new codec hfind hdrain
      rw [heq] at hquiet hover
      exact absurd (hlive.answers houtputs hopen hquiet) hover
  | some state =>
    dsimp only
    rw [consumeRequestStream_known hfind] at hquiet hover
    cases habandoned : state.isAbandoned with
    | true => exact .inl rfl
    | false =>
      refine .inr ?_
      cases hrejected : state.isHeadRejected with
      | false =>
        have hlive : c.IsLive streamId := ⟨state, hfind, habandoned, hrejected⟩
        exact absurd (hlive.answers rfl hopen hquiet) hover
      | true =>
        have hfits : ((state.reader.getD { maximumFrameByteCount :=
            c.configuration.localSettings.maximumFrameByteCount
            }).feed data).1 = none := by
          refine Option.eq_none_iff_forall_ne_some.mpr fun error hfed => ?_
          have hbroken := processRequestStream_overfed codec isEndStream hfind habandoned hfed
          rw [hquiet.isBroken, hopen] at hbroken
          cases hbroken
        refine ⟨rfl, hfits, fun hend => ?_⟩
        obtain ⟨d, _, hbefore, _, _, _, heq⟩ := processRequestStream_headRejected codec hfind hopen
            habandoned hrejected hfits isEndStream
        by_contra hneither
        simp only [not_or, Bool.not_eq_true] at hneither
        rw [heq, hend, hneither.1, hneither.2, Bool.not_false,
          Bool.and_self, if_pos rfl, if_neg Bool.false_ne_true]
          at hquiet
        have hless := @Pursues.finish_reports _ _ _ codec d streamId
        have hsame := hquiet.reports streamId
        rw [pruneAbandonedStream_reports] at hsame
        rw [hsame, hbefore.reports] at hless
        exact absurd hless (lt_irrefl _)

/-! ## Isolation -/

/-- A stream that has ended stays out: a delivery brings nothing but credit
and no request on it is being read. -/
def StaysOut (codec : Http3Codec D E V) (c : Http3Connection D E V)
    (streamId : Nat) (data : Bytes) (isEndStream : Bool) : Prop :=
  OnlyCredit streamId c (c.apply codec (.streamData streamId data isEndStream)) ∧
    ¬ (c.apply codec (.streamData streamId data isEndStream)).IsLive streamId

/-- In every run: what is delivered on a request stream that has ended has
no effect but credit exactly if the delivery finds the stream's end. -/
theorem Reachable.staysOut_iff {configuration : Http3Configuration}
    {accepted : List Nat} (h : Reachable codec configuration accepted c)
    (hopen : c.isBroken = false)
    (hrequest : c.isRequestStream streamId = true) (data : Bytes)
    (isEndStream : Bool) :
    (c.HasEnded streamId → StaysOut codec c streamId data isEndStream) ↔
      (c.HasEnded streamId → c.FindsEnd streamId data isEndStream) := by
  refine imp_congr_right fun _ => ?_
  unfold StaysOut
  rw [consumeStreamData_request ⟨h.intact.isUsable, hopen⟩ hrequest]
  exact ⟨fun hout => findsEnd_of_onlyCredit hopen hout.1 hout.2,
    fun hfinds => hfinds.onlyCredit hopen⟩

/-- The peer wants no response and goes on with its request: the record went
with STOP_SENDING, and the next byte begins the request anew. -/
theorem restart_after_cancellation :
    let cancelled := ((start plainCodec plainServer []).apply plainCodec
      (.streamData 0 [0x01] false)).apply plainCodec (.streamCancelledByPeer 0 0 false)
    cancelled.isBroken = false ∧ cancelled.isRequestStream 0 = true ∧
      cancelled.HasEnded 0 ∧ ¬ StaysOut plainCodec cancelled 0 [0x01] false := by
  intro cancelled
  refine ⟨by decide +kernel, by decide +kernel, .inl ?_, fun hout => ?_⟩
  · exact List.any_eq_true.mp (by decide +kernel)
  have hlive : ((cancelled.apply plainCodec
      (.streamData 0 [0x01] false)).streams.find? 0).any (fun state =>
        !state.isAbandoned && !state.isHeadRejected) = true := by
    decide +kernel
  obtain ⟨state, hfind, hstate⟩ := (Option.any_eq_true _ _).mp hlive
  simp only [Bool.and_eq_true, Bool.not_eq_true'] at hstate
  exact hout.2 ⟨state, hfind, hstate⟩

/-- A stream the application gave up stays out. -/
theorem staysOut_abandoned :
    let abandoned := ((start plainCodec plainServer []).apply plainCodec
      (.streamData 0 [0x01] false)).apply plainCodec (.abandonInboundStream 0)
    abandoned.HasEnded 0 ∧ StaysOut plainCodec abandoned 0 [0x02] true := by
  intro abandoned
  have hreach : Reachable plainCodec plainServer [] abandoned :=
    .next (.next .start trivial) trivial
  have hended : (abandoned.streams.find? 0).any (·.isAbandoned) = true := by
    decide +kernel
  refine ⟨.inr hended, (Reachable.staysOut_iff hreach (by decide +kernel)
    (by decide +kernel) [0x02] true).mpr (fun _ => ?_) (.inr hended)⟩
  obtain ⟨state, hfind, hstate⟩ := (Option.any_eq_true _ _).mp hended
  unfold FindsEnd
  rw [hfind]
  exact .inl hstate

end Http3Connection

end AsynGyanis.Http3
