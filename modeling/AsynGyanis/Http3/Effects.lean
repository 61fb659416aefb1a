import AsynGyanis.Http3.Moves

/-!
# What the connection's functions do, move by move

Each lemma continues a sequence of moves by what one function does. There is
one for every function, and `apply_via` puts them together: an event is a
sequence of moves of any scope that admits it.

Some functions go over streams they find by themselves: the sections that
can go on, the streams a GOAWAY turns away, the rotation. They leave alone a
stream without a record, so it is enough that the scope covers the
connection (`Scope.Covers`): a stream it may not touch has no record.
-/

namespace AsynGyanis.Http3

open Quic Library

variable {D E V : Type}

namespace Http3Connection

/-! ## Records and queues -/

namespace Via

variable {scope : Scope} {codec : Http3Codec D E V}
  {c c' : Http3Connection D E V} {streamId : Nat}

theorem emit (h : Via scope c c') {output : Http3Output}
    (houtput : scope.AllowsOutput output) : Via scope c (c'.emit output) :=
  h.trans (.move c' (.emit output) houtput)

theorem credit (h : Via scope c c') (hcredits : scope.credits streamId)
    (byteCount : Nat) : Via scope c (c'.credit streamId byteCount) := by
  unfold Http3Connection.credit
  split
  · exact h.emit hcredits
  · exact h

theorem noteUncredited (h : Via scope c c') (hhands : scope.hands streamId) (byteCount : Nat) :
    Via scope c (c'.noteUncredited streamId byteCount) := by
  unfold Http3Connection.noteUncredited
  split
  · exact h
  · exact h.emit hhands

theorem noteStranded (h : Via scope c c') (streamId : Nat) :
    Via scope c (c'.noteStranded streamId) := by
  unfold Http3Connection.noteStranded
  split
  · exact h
  · exact h.emit trivial

theorem breakConnection (h : Via scope c c') {errorCode : Http3ErrorCode}
    (hcode : errorCode = .closedCriticalStream → scope.endsCritical)
    (reason : String) : Via scope c (c'.breakConnection errorCode reason) :=
  h.trans (.move c' (.breakConnection errorCode reason) hcode)

theorem ensureStream (h : Via scope c c') (hreads : scope.reads streamId) :
    Via scope c (c'.ensureStream streamId) := h.trans (.move c' (.ensure streamId) hreads)

theorem modifyStream (h : Via scope c c') (htouches : scope.touches streamId)
    {update : StreamState V → StreamState V}
    (hupdate : ∀ state : StreamState V, state.Advances (update state) ∧
      state.KeepsEnd (update state) ∧ state.KeepsReader (update state)) :
    Via scope c (c'.modifyStream streamId update) :=
  h.trans (.move c' (.update streamId update) ⟨htouches, hupdate⟩)

variable {update : StreamState V → StreamState V}

theorem finishStream (h : Via scope c c') (htouches : scope.touches streamId)
    (hupdate : ∀ state : StreamState V,
      state.Advances (update state) ∧ state.KeepsReader (update state)) :
    Via scope c ((c'.modifyStream streamId update).noteStranded streamId) :=
  h.trans (.move c' (.finish streamId update) ⟨htouches, hupdate⟩)

theorem readStream (h : Via scope c c') (hreads : scope.reads streamId)
    (hupdate : ∀ state : StreamState V, state.Advances (update state)) :
    Via scope c (c'.modifyStream streamId update) :=
  h.trans (.move c' (.read streamId update) ⟨hreads, hupdate⟩)

theorem eraseStream (h : Via scope c c') (htouches : scope.touches streamId) :
    Via scope c (c'.eraseStream streamId) := h.trans (.move c' (.erase streamId) htouches)

theorem queueOutboundBytes (h : Via scope c c') (streamId : Nat)
    (bytes : Bytes) (isEndStream : Bool) :
    Via scope c (c'.queueOutboundBytes streamId bytes isEndStream) :=
  h.trans (.move c' (.queue streamId bytes isEndStream) trivial)

theorem queueOutboundFrame (h : Via scope c c') (streamId : Nat)
    (frameType : Http3FrameType) (payload : Bytes) (isEndStream : Bool) :
    Via scope c (c'.queueOutboundFrame streamId frameType payload isEndStream) :=
  h.queueOutboundBytes streamId _ isEndStream

theorem decoder (h : Via scope c c') (decoder : D) (bytes : Bytes) : Via scope c
      ({ c' with qpackDecoder := decoder }.queueDecoderInstructions bytes) := by
  have hdecoder : Via scope c { c' with qpackDecoder := decoder } :=
    h.trans (.move c' (.decoder decoder) trivial)
  unfold queueDecoderInstructions
  split
  · exact hdecoder
  · exact hdecoder.queueOutboundBytes _ _ _

theorem encoder (h : Via scope c c') (encoder : E) :
    Via scope c { c' with qpackEncoder := encoder } :=
  h.trans (.move c' (.encoder encoder) trivial)

theorem queueEncoderInstructions (h : Via scope c c') (bytes : Bytes) :
    Via scope c (c'.queueEncoderInstructions bytes) := by
  unfold Http3Connection.queueEncoderInstructions
  split
  · exact h
  · exact h.queueOutboundBytes _ _ _

theorem noteStreamClosedByEncoder (h : Via scope c c') (streamId : Nat) :
    Via scope c (c'.noteStreamClosedByEncoder codec streamId) :=
  h.encoder (codec.noteStreamClosed c'.qpackEncoder streamId)

theorem discardOutbound (h : Via scope c c') (streamId : Nat) :
    Via scope c (c'.discardOutbound streamId) := h.trans (.move c' (.discard streamId) trivial)

/-! ## Ends of streams -/

theorem closeStreamIfDone (h : Via scope c c') (htouches : scope.touches streamId) :
    Via scope c (c'.closeStreamIfDone codec streamId) := by
  unfold Http3Connection.closeStreamIfDone
  split
  · exact h
  split
  · exact h
  · exact .eraseStream (.emit (h.noteStreamClosedByEncoder streamId) htouches) htouches

theorem abandonInboundFieldSections (h : Via scope c c')
    (codec : Http3Codec D E V) (streamId : Nat) :
    Via scope c (c'.abandonInboundFieldSections codec streamId) := by
  unfold Http3Connection.abandonInboundFieldSections
  split
  · exact h.decoder _ _
  · exact h

theorem failStream (h : Via scope c c') (htouches : scope.touches streamId)
    (errorCode : Http3ErrorCode) (reason : String) :
    Via scope c (c'.failStream codec streamId errorCode reason) := by
  refine .emit (.finishStream ?_ htouches ?_) ?_
  · exact ((h.discardOutbound streamId).abandonInboundFieldSections codec
      streamId).noteStreamClosedByEncoder streamId
  · exact fun _ => ⟨⟨fun _ => rfl, id, id, id⟩, ⟨rfl, rfl, rfl⟩⟩
  · exact htouches

theorem pruneAbandonedStream (h : Via scope c c') (htouches : scope.touches streamId) :
    Via scope c (c'.pruneAbandonedStream streamId) := by
  unfold Http3Connection.pruneAbandonedStream
  split
  · exact h.eraseStream htouches
  · exact h

theorem rejectRequestHead (h : Via scope c c')
    (htouches : scope.touches streamId) (reason : String) :
    Via scope c (c'.rejectRequestHead codec streamId reason) := by
  unfold Http3Connection.rejectRequestHead
  have hrejected : Via scope c (c'.modifyStream streamId fun state =>
      { state with isHeadRejected := true }) :=
    h.modifyStream htouches fun _ => ⟨⟨id, fun _ => rfl, id, id⟩, ⟨rfl, rfl⟩, ⟨rfl, rfl, rfl⟩⟩
  have habandoned := hrejected.abandonInboundFieldSections codec streamId
  dsimp only
  split
  · exact habandoned.emit htouches
  · exact habandoned.failStream htouches _ _

theorem rejectStreamAfterDrain (h : Via scope c c') (hopens : scope.Opens streamId) (data : Bytes) :
    Via scope c (c'.rejectStreamAfterDrain codec streamId data) := by
  refine .pruneAbandonedStream (.failStream (.credit
    (.finishStream (h.ensureStream hopens.reads) hopens.touches ?_)
    hopens.credits _) hopens.touches _ _) hopens.touches
  exact fun _ => ⟨⟨fun _ => rfl, id, id, id⟩, ⟨rfl, rfl, rfl⟩⟩

/-! ## Field sections -/

theorem noteFieldSectionDelivered (h : Via scope c c') (streamId : Nat) :
    Via scope c (c'.noteFieldSectionDelivered codec streamId) := h.decoder _ _

theorem handOverFieldSection (h : Via scope c c')
    (htouches : scope.touches streamId) (fields : List QpackHeaderField) (isTrailers : Bool) :
    Via scope c (c'.handOverFieldSection codec streamId fields isTrailers) := by
  have hfields : Via scope c (fields.foldl (fun c field =>
      c.emit (.headerField streamId field isTrailers)) c') :=
    foldl_invariant (fun _ _ h => h.emit htouches) fields c' h
  exact (hfields.noteFieldSectionDelivered streamId).emit htouches

theorem annotate (h : Via scope c c') (htouches : scope.touches streamId)
    (hupdate : ∀ state : StreamState V, (update state).isAbandoned = state.isAbandoned ∧
      (update state).isHeadRejected = state.isHeadRejected ∧
      (update state).isPeerFinished = state.isPeerFinished ∧
      (update state).isLocalFinished = state.isLocalFinished ∧
      state.KeepsReader (update state)) :
    Via scope c (c'.modifyStream streamId update) := by
  refine h.modifyStream htouches fun state => ?_
  obtain ⟨habandoned, hrejected, hpeer, hlocal, hreader⟩ := hupdate state
  exact ⟨⟨habandoned.trans, hrejected.trans, hpeer.trans, hlocal.trans⟩,
    ⟨habandoned, hpeer⟩, hreader⟩

theorem deliverFieldSection (h : Via scope c c')
    (htouches : scope.touches streamId) (fields : List QpackHeaderField) (isTrailers : Bool) :
    Via scope c (c'.deliverFieldSection codec streamId fields isTrailers) := by
  unfold Http3Connection.deliverFieldSection
  dsimp only
  split
  · split
    · refine .rejectRequestHead (.annotate h htouches ?_) htouches _
      exact fun _ => ⟨rfl, rfl, rfl, rfl, rfl, rfl, rfl⟩
    refine .noteFieldSectionDelivered (.annotate (.annotate h htouches ?_) htouches ?_) streamId
    · exact fun _ => ⟨rfl, rfl, rfl, rfl, rfl, rfl, rfl⟩
    · exact fun _ => ⟨rfl, rfl, rfl, rfl, rfl, rfl, rfl⟩
  · split
    · refine .rejectRequestHead (.annotate h htouches ?_) htouches _
      exact fun _ => ⟨rfl, rfl, rfl, rfl, rfl, rfl, rfl⟩
    · refine .handOverFieldSection (.annotate h htouches ?_) htouches _ _
      exact fun _ => ⟨rfl, rfl, rfl, rfl, rfl, rfl, rfl⟩

theorem finishRequestStreamIfEnded (h : Via scope c c') (htouches : scope.touches streamId) :
    Via scope c (c'.finishRequestStreamIfEnded codec streamId) := by
  unfold Http3Connection.finishRequestStreamIfEnded
  dsimp only
  split
  · split
    · exact h.failStream htouches _ _
    · exact h.failStream htouches _ _
  split
  · exact h.failStream htouches _ _
  · exact .closeStreamIfDone (.emit h htouches) htouches

/-! ## Request streams -/

theorem frameError_ne_critical (kind : Http3FrameErrorKind) (P : Prop) :
    kind.toHttp3ErrorCode = .closedCriticalStream → P := by
  cases kind <;> exact nofun

theorem qpackError_ne_critical (kind : QpackErrorKind) (P : Prop) :
    kind.toHttp3ErrorCode = .closedCriticalStream → P := by
  cases kind <;> exact nofun

theorem breakFor (h : Via scope c c') {errorCode : Http3ErrorCode}
    (hcode : errorCode ≠ .closedCriticalStream) (reason : String) :
    Via scope c (c'.breakConnection errorCode reason) :=
  h.breakConnection (fun heq => absurd heq hcode) reason

theorem breakOnFrameError (h : Via scope c c') (error : Http3FrameError) : Via scope c
      (c'.breakConnection error.kind.toHttp3ErrorCode error.message) :=
  h.breakConnection (frameError_ne_critical _ _) _

theorem breakOnQpackError (h : Via scope c c') (error : QpackError) : Via scope c
      (c'.breakConnection error.kind.toHttp3ErrorCode error.message) :=
  h.breakConnection (qpackError_ne_critical _ _) _

theorem handleHeadersFrame (h : Via scope c c')
    (htouches : scope.touches streamId) (encodedFieldSection : Bytes) :
    Via scope c (c'.handleHeadersFrame codec streamId encodedFieldSection) := by
  unfold Http3Connection.handleHeadersFrame
  dsimp only
  split
  · exact h.failStream htouches _ _
  have hdecoded : ∀ (decoder : D) (bytes : Bytes), Via scope c
      ({ ((c'.modifyStream streamId fun state =>
          { state with
            isTrailersSeen := state.isTrailersSeen ||
              (c'.streamState streamId).isHeaderSectionSeen }).emit
          (.headerSectionStarted streamId (c'.streamState streamId).isHeaderSectionSeen)) with
          qpackDecoder := decoder }.queueDecoderInstructions bytes) := by
    intro decoder bytes
    refine .decoder (.emit (.annotate h htouches ?_) ?_) _ _
    · exact fun _ => ⟨rfl, rfl, rfl, rfl, rfl, rfl, rfl⟩
    · exact htouches
  split
  · exact .breakOnQpackError (hdecoded _ _) _
  · refine .annotate (hdecoded _ _) htouches ?_
    exact fun _ => ⟨rfl, rfl, rfl, rfl, rfl, rfl, rfl⟩
  refine .deliverFieldSection (.annotate (hdecoded _ _) htouches ?_) htouches _ _
  exact fun _ => ⟨rfl, rfl, rfl, rfl, rfl, rfl, rfl⟩

theorem handleDataFrame (h : Via scope c c')
    (htouches : scope.touches streamId) (hhands : scope.hands streamId)
    (payload : Bytes) : Via scope c (c'.handleDataFrame codec streamId payload) := by
  unfold Http3Connection.handleDataFrame
  dsimp only
  split
  · exact h.breakFor (by decide) _
  split
  · exact (h.noteUncredited hhands _).failStream htouches _ _
  have hcounted : Via scope c (c'.modifyStream streamId fun state =>
      { state with
        isBodyStarted := true
        receivedBodyByteCount := state.receivedBodyByteCount + payload.length }) :=
    h.annotate htouches fun _ => ⟨rfl, rfl, rfl, rfl, rfl, rfl, rfl⟩
  split
  · exact hcounted
  · exact hcounted.emit ⟨htouches, hhands⟩

theorem handleRequestFrame (h : Via scope c c')
    (htouches : scope.touches streamId) {frame : Http3Frame}
    (hhands : ∀ payload, frame = .data payload → scope.hands streamId) :
    Via scope c (c'.handleRequestFrame codec streamId frame) := by
  unfold Http3Connection.handleRequestFrame
  split
  · exact h.breakFor (by decide) _
  split
  · exact h.handleHeadersFrame htouches _
  · exact h.handleDataFrame htouches (hhands _ rfl) _
  · exact h
  split
  · exact h
  · exact h.breakFor (by decide) _

theorem setReader (h : Via scope c c') (hreads : scope.reads streamId) (reader : Http3FrameReader) :
    Via scope c (c'.modifyStream streamId fun state =>
      { state with reader := some reader }) := h.readStream hreads fun _ => ⟨id, id, id, id⟩

theorem consumeRequestFrames (h : Via scope c c')
    (codec : Http3Codec D E V) (hopens : scope.Opens streamId) (rounds payloadByteCount : Nat) :
    Via scope c (Http3Connection.consumeRequestFrames codec streamId rounds
      payloadByteCount c').1 := by
  induction rounds generalizing c' payloadByteCount with
  | zero => exact h
  | succ rounds ih =>
    unfold Http3Connection.consumeRequestFrames
    dsimp only
    split
    · exact h
    split
    · exact h
    split
    · exact .breakOnFrameError (h.setReader hopens.reads _) _
    · exact h
    · exact ih (.handleRequestFrame (h.setReader hopens.reads _)
        hopens.touches fun _ _ => hopens.hands) _

theorem creditConsumedBytes (h : Via scope c c')
    (hopens : scope.Opens streamId) (payloadByteCount : Nat) :
    Via scope c (c'.creditConsumedBytes streamId payloadByteCount) := by
  unfold Http3Connection.creditConsumedBytes
  dsimp only
  split
  · exact h
  split
  · exact h
  · refine .credit (.readStream h hopens.reads ?_) hopens.credits _
    exact fun _ => ⟨id, id, id, id⟩

theorem feedReader (h : Via scope c c') (hreads : scope.reads streamId)
    (data : Bytes) : Via scope c (c'.feedReader streamId data).2 :=
  h.readStream hreads fun _ => ⟨id, id, id, id⟩

theorem processRequestStream (h : Via scope c c')
    (hopens : scope.Opens streamId) (data : Bytes) (isEndStream : Bool) :
    Via scope c (c'.processRequestStream codec streamId data isEndStream) := by
  unfold Http3Connection.processRequestStream
  split
  · exact h.credit hopens.credits _
  have hfed := h.feedReader hopens.reads data
  split
  · next error c₁ heq =>
    rw [heq] at hfed
    exact hfed.breakOnFrameError _
  rename_i c₁ heq
  rw [heq] at hfed
  have hframes := hfed.consumeRequestFrames codec hopens (c₁.readerByteCount streamId) 0
  split
  · next c₂ hconsumed =>
    rw [hconsumed] at hframes
    exact hframes
  rename_i c₂ payloadByteCount hconsumed
  rw [hconsumed] at hframes
  refine .pruneAbandonedStream ?_ hopens.touches
  have hcredited := hframes.creditConsumedBytes hopens payloadByteCount
  split
  · have hnoted : Via scope c
        (((c₂.creditConsumedBytes streamId payloadByteCount).modifyStream streamId fun state =>
            { state with isPeerFinished := true }).noteStranded streamId) :=
      hcredited.finishStream hopens.touches fun _ => ⟨⟨id, id, fun _ => rfl, id⟩, ⟨rfl, rfl, rfl⟩⟩
    split
    · exact hnoted
    · exact hnoted.finishRequestStreamIfEnded hopens.touches
  · exact hcredited

/-! ## Sections that waited -/

theorem resumeFieldSections (h : Via scope c c') (codec : Http3Codec D E V)
    (htouches : scope.touches streamId) (rounds : Nat) :
    Via scope c (Http3Connection.resumeFieldSections codec streamId rounds c').1 := by
  induction rounds generalizing c' with
  | zero => exact h
  | succ rounds ih =>
    unfold Http3Connection.resumeFieldSections
    dsimp only
    split
    · exact h
    split
    · exact .breakOnQpackError (h.decoder _ _) _
    · exact h.decoder _ _
    · exact ih (.deliverFieldSection (h.decoder _ _) htouches _ _)

theorem deliverResumedFieldSection (h : Via scope c c')
    (hcovers : scope.Covers c) (streamId : Nat) :
    Via scope c (c'.deliverResumedFieldSection codec streamId) := by
  unfold Http3Connection.deliverResumedFieldSection
  split
  · exact h
  rename_i hopen
  have htouches : scope.touches streamId := by
    cases hfind : c'.streams.find? streamId with
    | some state => exact h.touches hcovers hfind
    | none =>
      simp only [hfind, Option.all_none, Bool.or_true, not_true_eq_false] at hopen
  have hresumed := h.resumeFieldSections codec htouches
    (codec.blockedFieldSectionCount c'.qpackDecoder streamId)
  split
  · next c₁ heq =>
    rw [heq] at hresumed
    exact hresumed
  rename_i c₁ heq
  rw [heq] at hresumed
  have hnoted : Via scope c (c₁.modifyStream streamId fun state =>
      { state with
        isFieldSectionBlocked := codec.blockedFieldSectionCount c₁.qpackDecoder streamId != 0 }) :=
    hresumed.annotate htouches fun _ => ⟨rfl, rfl, rfl, rfl, rfl, rfl, rfl⟩
  dsimp only
  split
  · exact hnoted.finishRequestStreamIfEnded htouches
  · exact hnoted

/-! ## Unidirectional streams -/

theorem consumeQpackEncoderStreamBytes (h : Via scope c c') (hcovers : scope.Covers c)
    (hcredits : ∀ streamId, c'.peerEncoderStreamId = some streamId →
      scope.credits streamId) (data : Bytes) :
    Via scope c (c'.consumeQpackEncoderStreamBytes codec data) := by
  unfold Http3Connection.consumeQpackEncoderStreamBytes
  split
  · exact .breakOnQpackError (h.trans (.move c' (.decoder _) trivial)) _
  rename_i unblocked bytes decoder _
  -- the stream credited is the encoder stream known before
  have hresumed : ∀ {scope : Scope} {c : Http3Connection D E V},
      scope.Covers c → Via scope c c' → Via scope c (unblocked.foldl
        (Http3Connection.deliverResumedFieldSection codec)
        ({ c' with qpackDecoder := decoder }.queueDecoderInstructions bytes)) :=
    fun hcovers h => foldl_invariant (fun _ streamId h =>
      h.deliverResumedFieldSection hcovers streamId) unblocked _
      (h.decoder decoder bytes)
  let anyStream : Scope := { touches := fun _ => True }
  have hsame := (@hresumed anyStream c' (fun _ => .inl trivial) (.refl c')).kept.roles id
  dsimp only
  split
  · next streamId hencoder =>
    rw [hsame.2.2.2.1] at hencoder
    exact (hresumed hcovers h).credit (hcredits _ hencoder) _
  · exact hresumed hcovers h

theorem feedDecoderStream (h : Via scope c c') (codec : Http3Codec D E V) (data : Bytes) :
    Via scope c (c'.feedDecoderStream codec data).1 := by
  unfold Http3Connection.feedDecoderStream
  split
  · exact (h.encoder _).breakOnQpackError _
  · exact h.encoder _

theorem applyPeerSettings (h : Via scope c c') (settings : List (Http3SettingId × Nat)) :
    Via scope c (c'.applyPeerSettings codec settings) := by
  unfold Http3Connection.applyPeerSettings
  have hlimits := h.trans (.move c' (.peerFacts (settingValue settings .qpackBlockedStreams)
    (settingValue settings .maxFieldSectionSize) c'.maximumPushId
    c'.isPeerSettingsReceived c'.isPeerGoAwayReceived) trivial)
  dsimp only
  split
  · exact hlimits
  split
  · exact hlimits.encoder _
  · exact (hlimits.encoder _).queueEncoderInstructions _

theorem handleGoAwayFrame (h : Via scope c c') (hcovers : scope.Covers c) (streamIdOrPushId : Nat) :
    Via scope c (c'.handleGoAwayFrame codec streamIdOrPushId) := by
  refine List.foldlRecOn _ _ ?_ fun _ hreset streamId hmem => ?_
  · exact h.trans (.move c' (.peerFacts c'.peerMaximumBlockedStreamCount
      c'.peerMaximumFieldSectionSizeByteCount c'.maximumPushId
      c'.isPeerSettingsReceived true) trivial)
  obtain ⟨entry, hentry, rfl⟩ := List.mem_map.mp hmem
  have hfind : c'.streams.find? entry.1 = some entry.2 :=
    SortedMap.mem_entries_iff.mp (List.mem_filter.mp hentry).1
  exact hreset.failStream (h.touches hcovers hfind) _ _

theorem handleControlFrame (h : Via scope c c') (hcovers : scope.Covers c) (frame : Http3Frame) :
    Via scope c (c'.handleControlFrame codec frame) := by
  have hfacts : ∀ pushId isSettingsReceived, Via scope c
      { c' with
        maximumPushId := pushId
        isPeerSettingsReceived := isSettingsReceived } :=
    fun pushId isSettingsReceived => h.trans (.move c' (.peerFacts
      c'.peerMaximumBlockedStreamCount c'.peerMaximumFieldSectionSizeByteCount
      pushId isSettingsReceived c'.isPeerGoAwayReceived) trivial)
  unfold Http3Connection.handleControlFrame
  split
  · exact h.breakFor (by decide) _
  split
  · split
    · exact h.breakFor (by decide) _
    · exact (hfacts c'.maximumPushId true).applyPeerSettings _
  split
  · exact h.breakFor (by decide) _
  split
  · exact h.handleGoAwayFrame hcovers _
  · exact hfacts _ c'.isPeerSettingsReceived
  · exact h
  · exact h
  · split
    · exact h
    · exact h.breakFor (by decide) _

theorem consumeControlFrames (h : Via scope c c')
    (codec : Http3Codec D E V) (hcovers : scope.Covers c)
    (hreads : scope.reads streamId) (rounds : Nat) :
    Via scope c (Http3Connection.consumeControlFrames codec streamId rounds c').1 := by
  induction rounds generalizing c' with
  | zero => exact h
  | succ rounds ih =>
    unfold Http3Connection.consumeControlFrames
    split
    · exact h
    split
    · exact h
    split
    · exact .breakOnFrameError (h.setReader hreads _) _
    · exact h
    · exact ih (.handleControlFrame (h.setReader hreads _) hcovers _)

theorem consumeControlStreamBytes (h : Via scope c c')
    (hcovers : scope.Covers c) (hopens : scope.Opens streamId) (data : Bytes)
    {isEndStream : Bool} (hend : isEndStream → scope.endsCritical) :
    Via scope c (c'.consumeControlStreamBytes codec streamId data isEndStream) := by
  unfold Http3Connection.consumeControlStreamBytes
  have hfed := (h.ensureStream hopens.reads).feedReader hopens.reads data
  split
  · next error c₁ heq =>
    rw [heq] at hfed
    exact hfed.breakOnFrameError _
  rename_i c₁ heq
  rw [heq] at hfed
  have hframes := hfed.consumeControlFrames codec hcovers hopens.reads (c₁.readerByteCount streamId)
  split
  · next c₂ hconsumed =>
    rw [hconsumed] at hframes
    exact hframes
  rename_i c₂ hconsumed
  rw [hconsumed] at hframes
  have hcredited := hframes.creditConsumedBytes hopens 0
  split
  · next hisEnd => exact hcredited.breakConnection (fun _ => hend hisEnd) _
  · exact hcredited

theorem setRoles (h : Via scope c c') (hroles : scope.setsRoles)
    (kinds : SortedMap Nat PeerStreamKind) (buffers : SortedMap Nat Bytes)
    (control encoder decoder : Option Nat) :
    Via scope c { c' with
      peerStreamKinds := kinds
      peerStreamTypeBuffers := buffers
      peerControlStreamId := control
      peerEncoderStreamId := encoder
      peerDecoderStreamId := decoder } :=
  h.trans (.move c' (.roles kinds buffers control encoder decoder) hroles)

theorem consumePeerUnidirectionalTypePrefix (h : Via scope c c')
    (hcovers : scope.Covers c) (hopens : scope.Opens streamId)
    (hroles : scope.setsRoles) (data : Bytes) {isEndStream : Bool}
    (hend : isEndStream → scope.endsCritical) :
    Via scope c (c'.consumePeerUnidirectionalTypePrefix codec streamId data isEndStream) := by
  unfold Http3Connection.consumePeerUnidirectionalTypePrefix
  dsimp only
  split
  · split
    · have hwaiting := h.setRoles hroles c'.peerStreamKinds
        (c'.peerStreamTypeBuffers.insert streamId
          ((c'.peerStreamTypeBuffers.find? streamId).getD [] ++ data))
        c'.peerControlStreamId c'.peerEncoderStreamId c'.peerDecoderStreamId
      split
      · exact hwaiting.noteStranded _
      · exact hwaiting
    · exact (h.setRoles hroles c'.peerStreamKinds _ _ _ _).breakFor (by decide) _
  have hclassified := fun kinds buffers control encoder decoder =>
    (h.setRoles hroles kinds buffers control encoder decoder).credit hopens.credits
  have hduplicated : ∀ reason, Via scope c
      ({ c' with
        peerStreamTypeBuffers := c'.peerStreamTypeBuffers.erase streamId
        }.breakConnection .streamCreationError reason) :=
    (h.setRoles hroles c'.peerStreamKinds _ c'.peerControlStreamId
      c'.peerEncoderStreamId c'.peerDecoderStreamId).breakFor (by decide)
  split
  · exact hduplicated _
  · split
    · exact hduplicated _
    split
    · exact hclassified _ _ _ _ _ _
    · exact .consumeControlStreamBytes (hclassified _ _ _ _ _ _) hcovers hopens _ hend
  · split
    · exact hduplicated _
    split
    · exact hclassified _ _ _ _ _ _
    refine .consumeQpackEncoderStreamBytes (hclassified _ _ _ _ _ _) hcovers (fun id hid => ?_) _
    rw [credit_encoderStream] at hid
    cases hid
    exact hopens.credits
  · split
    · exact hduplicated _
    split
    · exact hclassified _ _ _ _ _ _
    exact .noteUncredited (.feedDecoderStream (hclassified _ _ _ _ _ _) codec _) hopens.hands _
  · exact .credit (hclassified _ _ _ _ _ _) hopens.credits _

/-! ## What the transport reports -/

theorem setDrain (h : Via scope c c') (hdrain : scope.setsDrain)
    (isDraining : Bool) (rejectedFrom : Nat) :
    Via scope c { c' with
      isDraining := isDraining
      rejectedFromStreamId := rejectedFrom } :=
  h.trans (.move c' (.drain isDraining rejectedFrom) hdrain)

theorem setRejected (h : Via scope c c') (hrejects : scope.rejects) (streamId : Nat) :
    Via scope c { c' with lastRejectedDrainedStreamId := some streamId } :=
  h.trans (.move c' (.reject streamId) hrejects)

/-- A stream that is taken on has a record and, when it is new, leaves its
number as a mark. -/
theorem takeOn (h : Via scope c c') (hreads : scope.reads streamId) (isNew : Bool) : Via scope c
      (if isNew && (c'.ensureStream streamId).lastProcessedRequestStreamId.all (· < streamId) then
        { c'.ensureStream streamId with
          lastProcessedRequestStreamId := some streamId }
      else c'.ensureStream streamId) := by
  have hensured := h.ensureStream hreads
  have hprocessed := hensured.trans (.move _ (.process streamId) hreads)
  simp only [perform] at hprocessed
  cases isNew with
  | false => exact hensured
  | true => exact hprocessed

theorem consumeRequestStream (h : Via scope c c') (hopens : scope.Opens streamId)
    (hrejects : c'.isDraining → c'.rejectedFromStreamId ≤ streamId →
      scope.rejects) (data : Bytes) (isEndStream : Bool) :
    Via scope c (c'.consumeRequestStream codec streamId data isEndStream) := by
  unfold Http3Connection.consumeRequestStream
  dsimp only
  split
  · next hrejected =>
    simp only [Bool.and_eq_true, decide_eq_true_eq] at hrejected
    split
    · exact h.credit hopens.credits _
    · exact (h.setRejected (hrejects hrejected.1.2 hrejected.2)
        streamId).rejectStreamAfterDrain hopens _
  · exact .processRequestStream (h.takeOn hopens.reads _) hopens _ _

theorem consumeStreamData (h : Via scope c c') (hcovers : scope.Covers c)
    (hopens : scope.Opens streamId)
    (hcredits : c'.peerStreamKinds.find? streamId = some .qpackEncoder →
      ∀ id, c'.peerEncoderStreamId = some id → scope.credits id)
    (hroles : isUnidirectionalStream streamId → c'.isLocallyInitiatedStream streamId = false →
        c'.peerStreamKinds.find? streamId = none → scope.setsRoles)
    (hrejects : isUnidirectionalStream streamId = false →
      c'.isDraining → c'.rejectedFromStreamId ≤ streamId → scope.rejects) (data : Bytes)
    {isEndStream : Bool} (hend : isEndStream → scope.endsCritical) :
    Via scope c (c'.consumeStreamData codec streamId data isEndStream) := by
  unfold Http3Connection.consumeStreamData
  split
  · exact h
  split
  · next hunidirectional =>
    split
    · exact h.credit hopens.credits _
    rename_i hpeer
    split
    · next hnew =>
      exact h.consumePeerUnidirectionalTypePrefix hcovers hopens
        (hroles hunidirectional (Bool.eq_false_iff.mpr hpeer) hnew) _ hend
    · exact h.consumeControlStreamBytes hcovers hopens _ hend
    · next hkind =>
      exact h.consumeQpackEncoderStreamBytes hcovers (hcredits hkind) _
    · have hfed := h.feedDecoderStream codec data
      split
      · next c₁ heq =>
        rw [heq] at hfed
        exact hfed
      rename_i c₁ heq
      rw [heq] at hfed
      exact hfed.credit hopens.credits _
    · exact h.credit hopens.credits _
    · exact h.credit hopens.credits _
  · next hbidirectional =>
    split
    · exact h.consumeRequestStream hopens (hrejects (Bool.not_eq_true _ ▸ hbidirectional)) _ _
    · exact h.credit hopens.credits _

theorem noteStreamCancelledByPeer (h : Via scope c c')
    (hcovers : scope.Covers c) (streamId applicationErrorCode : Nat) (isResetByPeer : Bool) :
    Via scope c (c'.noteStreamCancelledByPeer codec streamId
      applicationErrorCode isResetByPeer) := by
  unfold Http3Connection.noteStreamCancelledByPeer
  split
  · exact h
  have hnoted := (h.discardOutbound streamId).noteStranded streamId
  revert hnoted
  dsimp only
  generalize (c'.discardOutbound streamId).noteStranded streamId = c₁
  intro hnoted
  have hqueued := (hnoted.encoder
    (codec.noteStreamAbandonedByEncoder c₁.qpackEncoder streamId).2).decoder
    (codec.noteStreamAbandoned c₁.qpackDecoder streamId).2
    (codec.noteStreamAbandonedByEncoder c₁.qpackEncoder streamId).1
  split
  · exact hqueued
  rename_i hfound
  have htouches : scope.touches streamId := by
    rw [Option.isNone_iff_eq_none] at hfound
    obtain ⟨state, hstate⟩ := Option.ne_none_iff_exists'.mp hfound
    exact hqueued.touches hcovers hstate
  exact .eraseStream (.emit hqueued htouches) htouches

theorem modifyCovered (h : Via scope c c') (hcovers : scope.Covers c) (streamId : Nat)
    (hupdate : ∀ state : StreamState V, state.Advances (update state) ∧
      state.KeepsEnd (update state) ∧ state.KeepsReader (update state)) :
    Via scope c (c'.modifyStream streamId update) := by
  cases hfind : c'.streams.find? streamId with
  | some state => exact h.modifyStream (h.touches hcovers hfind) hupdate
  | none =>
    unfold Http3Connection.modifyStream
    rw [hfind]
    exact h

theorem finishCovered (h : Via scope c c') (hcovers : scope.Covers c)
    (streamId : Nat) (hupdate : ∀ state : StreamState V,
      state.Advances (update state) ∧ state.KeepsReader (update state)) :
    Via scope c ((c'.modifyStream streamId update).noteStranded streamId) := by
  cases hfind : c'.streams.find? streamId with
  | some state => exact h.finishStream (h.touches hcovers hfind) hupdate
  | none =>
    unfold Http3Connection.modifyStream
    rw [hfind]
    exact h.noteStranded streamId

theorem abandonInboundStream (h : Via scope c c') (hcovers : scope.Covers c) (streamId : Nat) :
    Via scope c (c'.abandonInboundStream codec streamId) := by
  refine .finishCovered (.abandonInboundFieldSections
    (.noteStreamClosedByEncoder (h.discardOutbound _) _) codec _) hcovers _ ?_
  exact fun _ => ⟨⟨fun _ => rfl, id, id, id⟩, ⟨rfl, rfl, rfl⟩⟩

/-! ## What the application submits -/

theorem judgeOutboundSection (h : Via scope c c')
    (codec : Http3Codec D E V) (htouches : scope.touches streamId)
    (fieldLines : List QpackHeaderField) (isTrailers : Bool) :
    Via scope c (c'.judgeOutboundSection codec streamId fieldLines isTrailers).2 := by
  unfold Http3Connection.judgeOutboundSection
  split
  · exact h
  · refine .annotate h htouches ?_
    exact fun _ => ⟨rfl, rfl, rfl, rfl, rfl, rfl, rfl⟩

theorem touches_of_open (h : Via scope c c') (hcovers : scope.Covers c)
    {refuses : StreamState V → Bool} (hopen : ¬ (c'.streams.find? streamId).all refuses) :
    scope.touches streamId := by
  cases hfind : c'.streams.find? streamId with
  | some state => exact h.touches hcovers hfind
  | none =>
    rw [hfind] at hopen
    exact absurd rfl hopen

theorem submitResponseFieldSection (h : Via scope c c') (hcovers : scope.Covers c) (streamId : Nat)
    (fieldLines : List QpackHeaderField) (isTrailers isEndOfStream : Bool) :
    Via scope c (c'.submitResponseFieldSection codec streamId fieldLines
      isTrailers isEndOfStream).2 := by
  unfold Http3Connection.submitResponseFieldSection
  split
  · exact h
  split
  · exact h
  rename_i hopen
  have htouches := h.touches_of_open hcovers hopen
  dsimp only
  split
  · exact h
  have hjudged := h.judgeOutboundSection codec htouches fieldLines isTrailers
  split
  · next heq =>
    rw [heq] at hjudged
    exact hjudged
  rename_i c₁ heq
  rw [heq] at hjudged
  split
  · exact hjudged.encoder _
  refine .modifyStream (.queueOutboundFrame
    ((hjudged.encoder _).queueEncoderInstructions _) _ _ _ _)
    htouches fun _ => ⟨⟨id, id, id, fun hfinished => ?_⟩, ⟨rfl, rfl⟩, ⟨rfl, rfl, rfl⟩⟩
  rw [hfinished, Bool.true_or]

theorem queueBodyChunks (h : Via scope c c') (streamId : Nat)
    (isEndStream : Bool) (rounds : Nat) (bytes : Bytes) :
    Via scope c (Http3Connection.queueBodyChunks streamId isEndStream rounds bytes c') := by
  induction rounds generalizing c' bytes with
  | zero => exact h
  | succ rounds ih =>
    unfold Http3Connection.queueBodyChunks
    split
    · exact h
    · exact ih (h.queueOutboundFrame _ _ _ _) _

theorem closeCovered (h : Via scope c c') (hcovers : scope.Covers c) (streamId : Nat) :
    Via scope c (c'.closeStreamIfDone codec streamId) := by
  cases hfind : c'.streams.find? streamId with
  | some state => exact h.closeStreamIfDone (h.touches hcovers hfind)
  | none =>
    unfold Http3Connection.closeStreamIfDone
    rw [hfind]
    exact h

theorem noteLocallyFinishedStream (h : Via scope c c') (hcovers : scope.Covers c) (streamId : Nat) :
    Via scope c (c'.noteLocallyFinishedStream codec streamId) := by
  refine .closeCovered (.modifyCovered h hcovers _ ?_) hcovers _
  exact fun _ => ⟨⟨id, id, id, fun _ => rfl⟩, ⟨rfl, rfl⟩, ⟨rfl, rfl, rfl⟩⟩

theorem appendResponseBody (h : Via scope c c') (hcovers : scope.Covers c)
    (streamId : Nat) (bytes : Bytes) (isEndStream : Bool) :
    Via scope c (c'.appendResponseBody codec streamId bytes isEndStream).2 := by
  unfold Http3Connection.appendResponseBody
  split
  · exact h
  have hqueued : Via scope c
      (if !bytes.isEmpty then
        Http3Connection.queueBodyChunks streamId isEndStream bytes.length bytes c'
      else if isEndStream then c'.queueOutboundBytes streamId [] true
      else c') := by
    split
    · exact h.queueBodyChunks _ _ _ _
    split
    · exact h.queueOutboundBytes _ _ _
    · exact h
  cases isEndStream with
  | false => exact hqueued
  | true => exact hqueued.noteLocallyFinishedStream hcovers _

theorem submitRequestHead (h : Via scope c c') (hcovers : scope.Covers c)
    (hreads : scope.reads streamId) (fieldLines : List QpackHeaderField) (isEndOfStream : Bool) :
    Via scope c (c'.submitRequestHead codec streamId fieldLines isEndOfStream).2 := by
  unfold Http3Connection.submitRequestHead
  split
  · exact h
  · exact (h.ensureStream hreads).submitResponseFieldSection hcovers _ _ _ _

theorem appendRequestBody (h : Via scope c c') (hcovers : scope.Covers c)
    (hreads : scope.reads streamId) (bytes : Bytes) (isEndStream : Bool) :
    Via scope c (c'.appendRequestBody codec streamId bytes isEndStream).2 :=
  (h.ensureStream hreads).appendResponseBody hcovers _ _ _

/-! ## Sending -/

theorem offerFront (h : Via scope c c') (hoffers : scope.offers) (acceptedByteCount : Nat) :
    Via scope c (c'.offerFront acceptedByteCount) :=
  h.trans (.move c' (.offer acceptedByteCount) hoffers)

theorem flushStream (h : Via scope c c') (hcovers : scope.Covers c)
    (hoffers : scope.offers) {rest : List Nat}
    (hfront : c'.outboundOrder = streamId :: rest) (acceptedByteCount : Nat) :
    Via scope c ({ c' with outboundOrder := rest }.flushStream codec streamId
      acceptedByteCount) := by
  have hoffered := h.offerFront hoffers acceptedByteCount
  unfold Http3Connection.offerFront at hoffered
  rw [hfront] at hoffered
  unfold Http3Connection.flushStream
  cases hfind : c'.outbound.find? streamId with
  | none =>
    simp only [hfind] at hoffered ⊢
    exact hoffered
  | some outbound =>
    simp only [hfind] at hoffered ⊢
    split
    · next hempty =>
      rw [if_pos hempty] at hoffered
      split
      · next hisEnd =>
        rw [if_pos hisEnd] at hoffered
        exact hoffered.noteLocallyFinishedStream hcovers _
      rename_i hisEnd
      rw [if_neg hisEnd] at hoffered
      exact hoffered
    rename_i hempty
    rw [if_neg hempty] at hoffered
    split
    · next hunsent =>
      rw [if_pos hunsent] at hoffered
      exact hoffered
    rename_i hunsent
    rw [if_neg hunsent] at hoffered
    split
    · exact hoffered.noteLocallyFinishedStream hcovers _
    · exact hoffered

theorem flushRounds (h : Via scope c c') (hcovers : scope.Covers c)
    (hoffers : scope.offers) (rounds : Nat) (accepted : List Nat) :
    Via scope c (Http3Connection.flushRounds codec rounds accepted c') := by
  induction rounds generalizing c' accepted with
  | zero => exact h
  | succ rounds ih =>
    unfold Http3Connection.flushRounds
    split
    · exact h
    · next hfront => exact ih (h.flushStream hcovers hoffers hfront _) _

theorem flush (h : Via scope c c') (hcovers : scope.Covers c)
    (hoffers : scope.offers) (accepted : List Nat) : Via scope c (c'.flush codec accepted) := by
  unfold Http3Connection.flush
  split
  · exact h
  · exact .flushRounds (h.decoder _ _) hcovers hoffers _ _

theorem beginGracefulDrain (h : Via scope c c') (hdrain : scope.setsDrain) :
    Via scope c c'.beginGracefulDrain.2 := by
  unfold Http3Connection.beginGracefulDrain
  split
  · exact h
  split
  · exact h
  split
  · exact h
  · exact (h.setDrain hdrain true _).queueOutboundBytes _ _ _

end Via

/-! ## One stream -/

theorem reportsOn_append (streamId : Nat) (outputs added : List Http3Output) :
    reportsOn streamId (outputs ++ added) =
      reportsOn streamId outputs ++ reportsOn streamId added := List.filter_append ..

/-- The scope of what concerns no stream's record. -/
def noStream : Scope where
  touches := fun _ => False
  credits := fun _ => True

section OneStream

variable {codec : Http3Codec D E V} {c c' : Http3Connection D E V}
  {streamId : Nat}

theorem Via.quiet_record (h : Via noStream c c') (streamId : Nat) :
    c'.streams.find? streamId = c.streams.find? streamId := h.record id id

theorem Via.quiet_reports (h : Via noStream c c') (streamId : Nat) :
    reportsOn streamId c'.outputs = reportsOn streamId c.outputs := h.reports id

theorem modifyStream_find_self (update : StreamState V → StreamState V) :
    (c.modifyStream streamId update).streams.find? streamId =
      (c.streams.find? streamId).map update := by
  unfold modifyStream
  cases hfind : c.streams.find? streamId with
  | some state => exact SortedMap.find?_insert_self _ _ _
  | none => exact hfind

theorem modifyStream_find {state : StreamState V} (h : c.streams.find? streamId = some state)
    (update : StreamState V → StreamState V) :
    (c.modifyStream streamId update).streams.find? streamId = some (update state) := by
  rw [modifyStream_find_self, h]
  rfl

theorem streamState_eq {state : StreamState V} (h : c.streams.find? streamId = some state) :
    c.streamState streamId = state := by
  rw [streamState, h]
  rfl

theorem modifyStream_outputs (update : StreamState V → StreamState V) :
    (c.modifyStream streamId update).outputs = c.outputs := by
  obtain ⟨_, heq⟩ := c.modifyStream_eq streamId update
  rw [heq]

theorem ensureStream_find_self : (c.ensureStream streamId).streams.find? streamId =
      some ((c.streams.find? streamId).getD {}) := by
  unfold ensureStream
  cases hfind : c.streams.find? streamId with
  | some state => exact hfind
  | none => exact SortedMap.find?_insert_self _ _ _

theorem ensureStream_outputs : (c.ensureStream streamId).outputs = c.outputs := by
  obtain ⟨_, heq⟩ := c.ensureStream_eq streamId
  rw [heq]

theorem eraseStream_find_self : (c.eraseStream streamId).streams.find? streamId = none := by
  obtain ⟨_, heq⟩ := c.eraseStream_eq streamId
  rw [heq]
  exact SortedMap.find?_erase_self _ _

theorem eraseStream_reports (other : Nat) : reportsOn other (c.eraseStream streamId).outputs =
      reportsOn other c.outputs := by
  unfold eraseStream noteUncredited
  split
  · rfl
  · exact (reportsOn_append _ _ _).trans (List.append_nil _)

theorem failStream_self (codec : Http3Codec D E V) (c : Http3Connection D E V) (streamId : Nat)
    (errorCode : Http3ErrorCode) (reason : String) :
    (c.failStream codec streamId errorCode reason).streams.find? streamId =
      (c.streams.find? streamId).map (fun state =>
        { state with isAbandoned := true }) ∧
    reportsOn streamId (c.failStream codec streamId errorCode reason).outputs =
      reportsOn streamId c.outputs ++ [.streamReset streamId errorCode reason false] := by
  have hbefore : Via noStream c
      (((c.discardOutbound streamId).abandonInboundFieldSections codec
        streamId).noteStreamClosedByEncoder codec streamId) :=
    (((Via.refl c).discardOutbound streamId).abandonInboundFieldSections codec
      streamId).noteStreamClosedByEncoder streamId
  have hnoted : ∀ d : Http3Connection D E V, Via noStream d (d.noteStranded streamId) :=
    fun d => (Via.refl d).noteStranded streamId
  constructor
  · refine ((hnoted _).quiet_record streamId).trans ?_
    refine (modifyStream_find_self _).trans ?_
    rw [hbefore.quiet_record]
  refine (reportsOn_append _ _ _).trans ?_
  rw [(hnoted _).quiet_reports, modifyStream_outputs, hbefore.quiet_reports]
  simp [reportsOn, Http3Output.reportedStream?]

theorem pruneAbandonedStream_reports :
    reportsOn streamId (c.pruneAbandonedStream streamId).outputs =
      reportsOn streamId c.outputs := by
  unfold pruneAbandonedStream
  split
  · exact eraseStream_reports _
  · rfl

theorem pruneAbandonedStream_of_abandoned (h : (c.streams.find? streamId).all (·.isAbandoned)) :
    (c.pruneAbandonedStream streamId).streams.find? streamId = none := by
  unfold pruneAbandonedStream
  split
  · exact eraseStream_find_self
  rename_i hkept
  cases hfind : c.streams.find? streamId with
  | none => rfl
  | some state =>
    rw [hfind] at h hkept
    exact absurd h hkept

/-- What the application is told of a stream that is turned away. -/
def rejectedByDrain (streamId : Nat) : Http3Output :=
  .streamReset streamId .requestRejected "GOAWAY 已通告，新请求不再受理" false

theorem rejectStreamAfterDrain_self (codec : Http3Codec D E V)
    (c : Http3Connection D E V) (streamId : Nat) (data : Bytes) :
    (c.rejectStreamAfterDrain codec streamId data).streams.find? streamId = none ∧
      reportsOn streamId (c.rejectStreamAfterDrain codec streamId data).outputs =
        reportsOn streamId c.outputs ++ [rejectedByDrain streamId] := by
  have hcredited : ∀ d : Http3Connection D E V, Via noStream d
      ((d.noteStranded streamId).credit streamId data.length) :=
    fun d => ((Via.refl d).noteStranded streamId).credit trivial _
  unfold rejectStreamAfterDrain
  constructor
  · refine pruneAbandonedStream_of_abandoned ?_
    rw [(failStream_self codec _ streamId _ _).1, (hcredited _).quiet_record,
      modifyStream_find_self, ensureStream_find_self]
    rfl
  · rw [pruneAbandonedStream_reports, (failStream_self codec _ streamId _ _).2,
      (hcredited _).quiet_reports, modifyStream_outputs, ensureStream_outputs]
    rfl

end OneStream

/-! ## Events -/

/-- The stream an event may make a record for. -/
def openedBy : Http3Event → Option Nat
  | .streamData streamId _ _ | .submitRequestHead streamId _ _
  | .appendRequestBody streamId _ _ => some streamId
  | _ => none

/-- What a scope must allow for an event. -/
structure Admits (c : Http3Connection D E V) (scope : Scope)
    (event : Http3Event) : Prop where
  covers : scope.Covers c
  opens : ∀ streamId, openedBy event = some streamId → scope.Opens streamId
  /-- Bytes arrived: what they may bring about. -/
  streamData : ∀ streamId data isEndStream, event = .streamData streamId data isEndStream →
      (c.peerStreamKinds.find? streamId = some .qpackEncoder →
        ∀ id, c.peerEncoderStreamId = some id → scope.credits id) ∧
      (isUnidirectionalStream streamId = true → c.isLocallyInitiatedStream streamId = false →
          c.peerStreamKinds.find? streamId = none → scope.setsRoles) ∧
      (isUnidirectionalStream streamId = false → c.isDraining = true →
        c.rejectedFromStreamId ≤ streamId → scope.rejects) ∧
      (isEndStream = true → scope.endsCritical)
  flush : ∀ accepted, event = .flush accepted → scope.offers
  drain : event = .beginGracefulDrain → scope.setsDrain

theorem apply_via (codec : Http3Codec D E V) {c : Http3Connection D E V}
    {scope : Scope} {event : Http3Event} (h : c.Admits scope event) :
    Via scope c (c.apply codec event) := by
  have hrefl : Via scope c c := .refl c
  cases event with
  | streamData streamId data isEndStream =>
    obtain ⟨hcredits, hroles, hrejects, hend⟩ := h.streamData _ _ _ rfl
    exact hrefl.consumeStreamData h.covers (h.opens _ rfl) hcredits hroles hrejects _ hend
  | streamCancelledByPeer _ _ _ =>
    exact hrefl.noteStreamCancelledByPeer h.covers _ _ _
  | abandonInboundStream _ => exact hrefl.abandonInboundStream h.covers _
  | submitResponseHead _ _ _ =>
    exact hrefl.submitResponseFieldSection h.covers _ _ _ _
  | submitResponseTrailers _ _ =>
    exact hrefl.submitResponseFieldSection h.covers _ _ _ _
  | appendResponseBody _ _ _ => exact hrefl.appendResponseBody h.covers _ _ _
  | submitRequestHead _ _ _ =>
    exact hrefl.submitRequestHead h.covers (h.opens _ rfl).reads _ _
  | appendRequestBody _ _ _ =>
    exact hrefl.appendRequestBody h.covers (h.opens _ rfl).reads _ _
  | flush accepted =>
    exact hrefl.flush h.covers (h.flush accepted rfl) accepted
  | beginGracefulDrain => exact hrefl.beginGracefulDrain (h.drain rfl)

theorem Admits.any (c : Http3Connection D E V) (event : Http3Event) : c.Admits .any event where
  covers := fun _ => .inl trivial
  opens := fun _ _ => ⟨trivial, trivial, trivial, trivial⟩
  streamData := fun _ _ _ _ =>
    ⟨fun _ _ _ => trivial, fun _ _ _ => trivial, fun _ _ _ => trivial, fun _ => trivial⟩
  flush := fun _ _ => trivial
  drain := fun _ => trivial

theorem start_via (codec : Http3Codec D E V)
    (configuration : Http3Configuration) (accepted : List Nat)
    {scope : Scope} (hcovers : scope.Covers (blank codec configuration))
    (hoffers : scope.offers) :
    Via scope (blank codec configuration) (start codec configuration accepted) := by
  have h : Via scope (blank codec configuration) (blank codec configuration) := .refl _
  exact ((((h.queueOutboundBytes _ _ _).queueOutboundBytes _ _
    _).queueOutboundBytes _ _ _).queueOutboundBytes _ _ _).flush hcovers
    hoffers accepted

/-- What holds of the blank connection and survives every move holds in
every run. -/
theorem Reachable.invariant {codec : Http3Codec D E V}
    {configuration : Http3Configuration} {accepted : List Nat}
    {c : Http3Connection D E V} {P : Http3Connection D E V → Prop}
    (h : Reachable codec configuration accepted c) (hblank : P (blank codec configuration))
    (hmove : ∀ (c : Http3Connection D E V) (move : Http3Move D E V),
      Scope.any.Allows move → P c → P (c.perform move)) : P c := by
  have hvia : ∀ {c c' : Http3Connection D E V}, Via .any c c' → P c → P c' := fun hvia hP =>
    Reach.invariant hvia hP fun c m hP hm => hmove c m hm hP
  refine Reach.invariant h (hvia (start_via _ _ _ ?_ trivial) hblank) ?_
  · exact fun _ => .inl trivial
  · exact fun c event hP _ => hvia (apply_via codec (.any c event)) hP

variable {codec : Http3Codec D E V} {c : Http3Connection D E V}

/-! ## Breaking -/

theorem breakConnection_of_broken (h : c.isBroken) (errorCode : Http3ErrorCode) (reason : String) :
    c.breakConnection errorCode reason = c := if_pos h

theorem breakConnection_twice (errorCode errorCode' : Http3ErrorCode) (reason reason' : String) :
    (c.breakConnection errorCode reason).breakConnection errorCode' reason' =
      c.breakConnection errorCode reason := by
  refine breakConnection_of_broken ?_ _ _
  unfold breakConnection
  split
  · next hbroken => exact hbroken
  · rfl

theorem breakConnection_isBroken (errorCode : Http3ErrorCode) (reason : String) :
    (c.breakConnection errorCode reason).isBroken := by
  unfold breakConnection
  split
  · next hbroken => exact hbroken
  · rfl

/-- It has no error to show. -/
structure Intact (c : Http3Connection D E V) : Prop where
  isUsable : c.isUsable = true
  errorCode : c.isBroken = false → c.connectionErrorCode = .noError

theorem Intact.perform (h : c.Intact) {move : Http3Move D E V}
    (hallows : Scope.any.Allows move) : (c.perform move).Intact := by
  refine ⟨(Kept.perform hallows).isUsable.trans h.isUsable, ?_⟩
  have hsame : ∀ c' : Http3Connection D E V, c'.isBroken = c.isBroken →
      c'.connectionErrorCode = c.connectionErrorCode →
      c'.isBroken = false → c'.connectionErrorCode = .noError := by
    intro c' hbroken hcode hopen
    exact hcode.trans (h.errorCode (hbroken.symm.trans hopen))
  cases move with
  | breakConnection errorCode reason =>
    rw [Http3Connection.perform, Http3Connection.breakConnection]
    split
    · exact h.errorCode
    · rintro ⟨⟩
  | ensure id =>
    obtain ⟨_, heq⟩ := c.ensureStream_eq id
    rw [Http3Connection.perform, heq]
    exact hsame _ rfl rfl
  | update id update | read id update =>
    obtain ⟨_, heq⟩ := c.modifyStream_eq id update
    rw [Http3Connection.perform, heq]
    exact hsame _ rfl rfl
  | finish id update =>
    obtain ⟨_, _, heq⟩ := c.perform_finish_eq id update
    rw [heq]
    exact hsame _ rfl rfl
  | erase id =>
    obtain ⟨_, heq⟩ := c.eraseStream_eq id
    rw [Http3Connection.perform, heq]
    exact hsame _ rfl rfl
  | queue id bytes isEndStream =>
    obtain ⟨_, _, _, heq⟩ := c.queueOutboundBytes_eq id bytes isEndStream
    rw [Http3Connection.perform, heq]
    exact hsame _ rfl rfl
  | offer acceptedByteCount =>
    obtain ⟨_, _, _, heq⟩ := c.offerFront_eq acceptedByteCount
    rw [Http3Connection.perform, heq]
    exact hsame _ rfl rfl
  | process id =>
    obtain ⟨_, heq⟩ := c.perform_process_eq id
    rw [heq]
    exact hsame _ rfl rfl
  | _ => exact hsame _ rfl rfl

theorem Reachable.intact {configuration : Http3Configuration}
    {accepted : List Nat} (h : Reachable codec configuration accepted c) : c.Intact :=
  h.invariant ⟨rfl, fun _ => rfl⟩ fun _ _ hallows hintact =>
    hintact.perform hallows

end Http3Connection

end AsynGyanis.Http3
