import AsynGyanis.Quic.Connection.PacketSteps

/-!
# The receiving side, entry by entry

An arriving datagram is counted, each authenticated packet is entered once,
and of the frames only three kinds reach the books: an ACK resolves packets,
a NEW_CONNECTION_ID changes the IDs held, a PATH_RESPONSE moves the path.
The rest is quiet, or ends the connection and sends the last packet.
-/

namespace AsynGyanis.Quic

open Library QuicCongestionAlgorithm QuicConnectionLedgers

theorem PathMark.validate : PathMark fun state => { state with isValidated := true } :=
  ⟨fun _ => rfl, fun _ => rfl, fun _ => rfl, fun _ _ => rfl⟩

theorem PathMark.authenticate : PathMark fun state =>
      { state with hasReceivedAuthenticatedPacket := true } :=
  ⟨fun _ => rfl, fun _ => rfl, fun _ => rfl, fun _ h => h⟩

namespace QuicConnectionCore

/-! ## Handshake progress and keys -/

variable (environment : QuicEnvironment) (core : QuicConnectionCore)
  (frame : QuicNewConnectionIdFrame) (pathKey : QuicPathKey) (now : QuicTime)
  (packet : QuicArrivingPacket) (space : PacketNumberSpace) (packetNumber : Nat)
  (arrivalTime : QuicTime)

theorem validateSendPath_advances : Advances core core.validateSendPath := by
  unfold validateSendPath
  split
  · exact .after (updatePathState_advances _ core.sendPathKey .validate) (.quiet rfl id id)
  · exact .refl core

theorem confirmHandshake_advances : Advances core (core.confirmHandshake now) := by
  unfold confirmHandshake
  split
  · exact .refl core
  refine Advances.trans (.after (validateSendPath_advances
    { core with isHandshakeConfirmed := true }) (.quiet rfl id id)) ?_
  refine .quiet rfl (fun h => ?_) id
  dsimp only
  split
  · exact h.onHandshakeConfirmed now
  · exact h

theorem followPeerConnectionId_advances (isLongHeader : Bool) (sourceConnectionId : Bytes) :
    Advances core (core.followPeerConnectionId isLongHeader sourceConnectionId) := by
  unfold followPeerConnectionId
  split
  · exact .refl core
  rename_i h
  have hclient : core.configuration.role = .client := by
    simp only [Bool.or_eq_true, not_or, isLocalServer] at h
    cases hrole : core.configuration.role with
    | client => rfl
    | server => simp [hrole] at h
  exact .step (.followConnectionId sourceConnectionId hclient) id id

theorem followKeyPhase_advances : Advances core (core.followKeyPhase environment) := by
  unfold followKeyPhase
  split
  · exact .refl core
  have hkeys : Advances core (core.setSpaceState .application
      { core.spaceState .application with
        writeKeys := (core.spaceState .application).writeKeys.map
          environment.deriveQuicUpdatedPacketKeys }) :=
    setSpaceState_quiet fun _ => rfl
  exact hkeys.trans (.quiet rfl id id)

theorem applyPeerKeyUpdate_advances : Advances core (core.applyPeerKeyUpdate environment now) := by
  have hkeys : Advances core (core.setSpaceState .application
      { core.spaceState .application with
        previousReadKeys := (core.spaceState .application).readKeys
        readKeys := (core.spaceState .application).nextReadKeys
        nextReadKeys := (core.spaceState .application).nextReadKeys.map
          environment.deriveQuicUpdatedPacketKeys }) :=
    setSpaceState_quiet fun _ => rfl
  unfold applyPeerKeyUpdate
  refine .after (followKeyPhase_advances environment _) ?_
  exact hkeys.trans (.quiet rfl id id)

/-! ## Paths -/

theorem armPathChallenge_advances (isCandidate : Bool) (now : QuicTime) :
    Advances core (core.armPathChallenge environment pathKey isCandidate now) := by
  unfold armPathChallenge
  simp only
  repeat' split
  all_goals exact .quiet rfl id id

theorem movePath_advances : Advances core { core with sendPathKey := pathKey } :=
  .step (.movePath pathKey) id id

theorem confirmPeerPathValidated_advances (wasExpanded : Bool) (now : QuicTime) :
    Advances core (core.confirmPeerPathValidated environment pathKey wasExpanded now) := by
  have hmarked := updatePathState_advances core pathKey .validate
  have hreset : ∀ core : QuicConnectionCore, Advances core { core with
      hasValidatedPeerPath := true
      validatedPathKey := pathKey
      congestion := core.congestion.resetToInitialState
      recovery := core.recovery.resetForPathChange } := by
    intro core
    refine .quiet ?_ id id
    unfold ledgers
    simp only [resetToInitialState_bytesInFlight]
    rfl
  unfold confirmPeerPathValidated
  split
  · exact hmarked.trans (hreset _)
  · exact (hmarked.trans (hreset _)).trans
      (armPathChallenge_advances environment _ pathKey false now)

theorem handlePathResponseFrame_advances (data : QuicPathValidationData) (now : QuicTime) :
    Advances core (core.handlePathResponseFrame environment data now) := by
  unfold handlePathResponseFrame
  split
  · exact .refl core
  rename_i matched hmatched
  split
  · refine .after (movePath_advances _ matched.key) ?_
    refine .after (confirmPeerPathValidated_advances environment _
      matched.key matched.wasExpanded now) ?_
    exact .quiet rfl id id
  · exact .quiet rfl id id

theorem considerMigration_advances :
    Advances core (core.considerMigration environment pathKey now) := by
  unfold considerMigration
  split
  · exact (movePath_advances core pathKey).trans (.quiet rfl id id)
  split
  · exact .refl core
  · exact armPathChallenge_advances environment core pathKey true now

theorem migrate_advances : Advances core (core.migrate environment pathKey now) := by
  unfold migrate
  simp only
  split
  · exact (considerMigration_advances environment core pathKey now).trans
      (armPathChallenge_advances environment _ core.sendPathKey false now)
  · exact considerMigration_advances environment core pathKey now

theorem followPeerPath_advances (carriesNonProbingFrame : Bool) (now : QuicTime) :
    Advances core (core.followPeerPath environment pathKey space packetNumber
      carriesNonProbingFrame now) := by
  have hmarked := updatePathState_advances core pathKey .authenticate
  unfold followPeerPath
  simp only
  generalize core.updatePathState pathKey _ = marked at hmarked
  split
  · exact hmarked.trans (.after (movePath_advances
      { marked with hasAdoptedPeerPath := true } pathKey) (.quiet rfl id id))
  split
  · exact hmarked
  split
  · exact hmarked
  split
  · exact hmarked.trans (.quiet rfl id id)
  refine hmarked.trans (.after (migrate_advances environment _ pathKey now) ?_)
  exact .quiet rfl id id

/-! ## Acknowledgements -/

/-- The books and what they rest on are as they were. -/
structure SameBooks (core core' : QuicConnectionCore) : Prop where
  ledgers : core'.ledgers = core.ledgers
  mtu : core.pathMtu.Bounded → core'.pathMtu.Bounded
  exception : core'.exception = core.exception

theorem SameBooks.trans {core core' core'' : QuicConnectionCore}
    (h : SameBooks core core') (h' : SameBooks core' core'') : SameBooks core core'' where
  ledgers := h'.ledgers.trans h.ledgers
  mtu := fun hmtu => h'.mtu (h.mtu hmtu)
  exception := h'.exception.trans h.exception

theorem SameBooks.foldl {α : Type} (step : QuicConnectionCore → α → QuicConnectionCore)
    (hstep : ∀ core a, SameBooks core (step core a)) (as : List α)
    (core : QuicConnectionCore) : SameBooks core (as.foldl step core) := by
  induction as generalizing core with
  | nil => exact ⟨rfl, id, rfl⟩
  | cons a rest ih => exact (hstep core a).trans (ih (step core a))

theorem queueRetransmissions_same (packets : List QuicSentPacketInfo) :
    (core.queueRetransmissions space packets).ledgers = core.ledgers.requeueRanges space packets ∧
      (core.pathMtu.Bounded → (core.queueRetransmissions space packets).pathMtu.Bounded) ∧
      (core.queueRetransmissions space packets).exception =
        core.exception := by
  have hsame : SameBooks core (packets.foldl requeuePacket core) :=
    .foldl requeuePacket (fun _ _ => ⟨rfl, id, rfl⟩) packets core
  unfold queueRetransmissions
  refine ⟨?_, hsame.mtu, hsame.exception⟩
  have hspace := congrArg (fun l : QuicConnectionLedgers => l.spaces space) hsame.ledgers
  rw [ledgers_setSpaceState, hsame.ledgers]
  unfold requeueRanges
  rw [← hspace]
  rfl

theorem congestionAfterAcknowledgement_bytesInFlight
    (congestion : QuicCongestionAlgorithm) (smoothed : QuicTime)
    (update : QuicAcknowledgementUpdate) (arrivalTime : QuicTime) :
    (let congestion := congestion.setSmoothedRoundTripTime smoothed
      let congestion :=
        match update.ecnCongestionEventTime with
        | some eventTime => congestion.noteEcnCongestionEvent eventTime
        | none => congestion
      let congestion := congestion.onCongestionUpdate update.acknowledged update.lost arrivalTime
      if update.isPersistentCongestionDetected then
        congestion.restartAfterPersistentCongestion
      else congestion).bytesInFlight =
      writeOffBytes (update.acknowledged ++ update.lost) congestion.bytesInFlight := by
  have hnoted : (match update.ecnCongestionEventTime with
      | some eventTime => (congestion.setSmoothedRoundTripTime smoothed
          ).noteEcnCongestionEvent eventTime
      | none => congestion.setSmoothedRoundTripTime smoothed).bytesInFlight =
      congestion.bytesInFlight := by
    split
    · exact startCongestionEvent_bytesInFlight _ _
    · rfl
  simp only
  split
  · rw [restartAfterPersistentCongestion_bytesInFlight, onCongestionUpdate_bytesInFlight, hnoted]
  · rw [onCongestionUpdate_bytesInFlight, hnoted]

theorem acknowledgePackets_ledgers (hkeyed : core.ledgers.KeyedSpaces)
    (space : PacketNumberSpace) (frame : QuicAcknowledgementFrame) (arrivalTime : QuicTime) :
    HeldPackets
        ((core.acknowledgePackets space frame arrivalTime).2.acknowledged ++
          (core.acknowledgePackets space frame arrivalTime).2.lost)
        (core.ledgers.spaces space).unacknowledged ∧
      (core.acknowledgePackets space frame arrivalTime).1.ledgers = core.ledgers.takeOut space
          (core.acknowledgePackets space frame arrivalTime).2.acknowledged
          (core.acknowledgePackets space frame arrivalTime).2.lost := by
  have hresolution := QuicRecovery.onAcknowledgementReceived_resolution
    (hkeyed space) frame arrivalTime (core.acknowledgementDelayOf frame)
  unfold acknowledgePackets
  simp only
  generalize core.recovery.onAcknowledgementReceived space frame arrivalTime
    (core.acknowledgementDelayOf frame) = received at hresolution
  have hbytes := congestionAfterAcknowledgement_bytesInFlight core.congestion
    received.1.estimate.smoothed received.2 arrivalTime
  revert hbytes
  generalize (if received.2.isPersistentCongestionDetected then _ else _ :
    QuicCongestionAlgorithm) = congestion
  intro hbytes
  refine ⟨hresolution.held, ?_⟩
  unfold ledgers takeOut
  simp only [noteResolved, note]
  congr 1
  · funext space'
    rw [Function.update_apply]
    split
    · next heq =>
      subst heq
      rw [hresolution.taken]
      rfl
    · next hne =>
      rw [hresolution.others space' hne]
      rfl
  · exact hresolution.bytes
  · congr 1
    exact List.append_assoc _ _ _

theorem settleAcknowledgement_same (update : QuicAcknowledgementUpdate)
    (now : QuicTime) : SameBooks core (update.lost.foldl losePacket
      (noteProbeAcknowledged
        (update.acknowledged.foldl settlePacket
          (notePersistentCongestion (core.noteKeyPhaseAcknowledged space update.acknowledged)
            update.isPersistentCongestionDetected now))
        update.acknowledged now)) := by
  have hkeyPhase : SameBooks core (core.noteKeyPhaseAcknowledged space update.acknowledged) := by
    unfold noteKeyPhaseAcknowledged
    split
    · exact ⟨rfl, id, rfl⟩
    · split <;> exact ⟨rfl, id, rfl⟩
  have hpersistent : ∀ core : QuicConnectionCore, SameBooks core
      (core.notePersistentCongestion update.isPersistentCongestionDetected now) := by
    intro core
    unfold notePersistentCongestion
    split
    · exact ⟨rfl, fun h => h.onConnectivityLost now, rfl⟩
    · exact ⟨rfl, id, rfl⟩
  have hprobe : ∀ core : QuicConnectionCore, SameBooks core
      (core.noteProbeAcknowledged update.acknowledged now) := by
    intro core
    unfold noteProbeAcknowledged
    split
    · exact ⟨rfl, fun h => h.onProbeAcknowledged now, rfl⟩
    · exact ⟨rfl, id, rfl⟩
  refine ((hkeyPhase.trans (hpersistent _)).trans
    (.foldl settlePacket (fun _ _ => ⟨rfl, id, rfl⟩) update.acknowledged _)).trans ?_
  exact (hprobe _).trans (.foldl losePacket (fun _ _ => ⟨rfl, id, rfl⟩) update.lost _)

/-- Confirming the handshake marks the path in use, whatever else the books
say at that moment. -/
theorem confirmHandshake_paths : ∃ paths, (core.confirmHandshake now).ledgers =
        { core.ledgers with peerPaths := paths } ∧
      (∀ l : QuicConnectionLedgers, l.peerPaths = core.peerPaths →
        LedgerSteps false l { l with peerPaths := paths }) := by
  have hsame : ∃ paths, core.ledgers = { core.ledgers with
        peerPaths := paths } ∧
      (∀ l : QuicConnectionLedgers, l.peerPaths = core.peerPaths →
        LedgerSteps false l { l with peerPaths := paths }) :=
    ⟨core.peerPaths, rfl, fun l hl => hl ▸ Relation.ReflTransGen.refl⟩
  unfold confirmHandshake
  split
  · exact hsame
  unfold validateSendPath
  split
  · refine ⟨_, ledgers_updatePathState _ core.sendPathKey _, ?_⟩
    intro l hl
    refine Relation.ReflTransGen.single (.markPath core.sendPathKey ?_ .validate)
    rw [hl]
    exact admitPath_admitted
      { core with
        isHandshakeConfirmed := true
        hasValidatedPeerPath := true
        validatedPathKey := core.sendPathKey } core.sendPathKey
  · exact hsame

theorem confirmHandshake_same :
    (core.pathMtu.Bounded → (core.confirmHandshake now).pathMtu.Bounded) ∧
      (core.confirmHandshake now).exception = core.exception := by
  have hsame : ∀ core : QuicConnectionCore, core.validateSendPath.pathMtu = core.pathMtu ∧
        core.validateSendPath.exception = core.exception := by
    intro core
    unfold validateSendPath
    split
    · exact updatePathState_same _ _ _
    · exact ⟨rfl, rfl⟩
  obtain ⟨hmtu, hexception⟩ := hsame { core with isHandshakeConfirmed := true }
  unfold confirmHandshake
  split
  · exact ⟨id, rfl⟩
  refine ⟨fun hbounded => ?_, hexception⟩
  simp only
  rw [hmtu]
  split
  · exact hbounded.onHandshakeConfirmed now
  · exact hbounded

theorem handleAcknowledgement_advances (frame : QuicAcknowledgementFrame)
    (space : PacketNumberSpace) (arrivalTime : QuicTime) :
    Advances core (core.handleAcknowledgement frame space arrivalTime) := by
  have hpackets := fun hkeyed =>
    @acknowledgePackets_ledgers core hkeyed space frame arrivalTime
  have htakenMtu : (core.acknowledgePackets space frame arrivalTime).1.pathMtu =
      core.pathMtu := rfl
  have htakenException : (core.acknowledgePackets space frame
      arrivalTime).1.exception = core.exception := rfl
  have hsettled := settleAcknowledgement_same
    (core.acknowledgePackets space frame arrivalTime).1 space
    (core.acknowledgePackets space frame arrivalTime).2 arrivalTime
  unfold handleAcknowledgement
  simp only
  generalize core.acknowledgePackets space frame arrivalTime = taken
    at hpackets htakenMtu htakenException hsettled ⊢
  revert hsettled
  generalize taken.2.lost.foldl losePacket _ = settled
  intro hsettled
  -- the handshake may be confirmed in between; only the paths notice
  have hconfirmed : ∃ paths, ∃ confirmed : QuicConnectionCore,
      (if space = .handshake ∧ !taken.2.acknowledged.isEmpty then
        settled.confirmHandshake arrivalTime else settled) = confirmed ∧
      confirmed.ledgers = { settled.ledgers with peerPaths := paths } ∧
      (∀ l : QuicConnectionLedgers, l.peerPaths = settled.peerPaths →
        LedgerSteps false l { l with peerPaths := paths }) ∧
      (settled.pathMtu.Bounded → confirmed.pathMtu.Bounded) ∧
      confirmed.exception = settled.exception := by
    split
    · obtain ⟨paths, hledgers, hsteps⟩ := confirmHandshake_paths settled arrivalTime
      obtain ⟨hmtu, hexception⟩ := confirmHandshake_same settled arrivalTime
      exact ⟨paths, _, rfl, hledgers, hsteps, hmtu, hexception⟩
    · exact ⟨settled.peerPaths, settled, rfl, rfl,
        fun l hl => hl ▸ Relation.ReflTransGen.refl, id, rfl⟩
  obtain ⟨paths, confirmed, heq, hledgers, hsteps, hmtu, hexception⟩ := hconfirmed
  rw [heq]
  obtain ⟨hqueued, hqueuedMtu, hqueuedException⟩ :=
    queueRetransmissions_same confirmed space taken.2.lost
  have hmtus : core.pathMtu.Bounded → confirmed.pathMtu.Bounded :=
    fun h => hmtu (hsettled.mtu (htakenMtu ▸ h))
  have hexceptions : confirmed.exception = core.exception :=
    (hexception.trans hsettled.exception).trans htakenException
  -- the entries: the packets are resolved, then the path is marked
  have hentries : core.WellKept → LedgerSteps false core.ledgers
      { core.ledgers.resolve space taken.2.acknowledged taken.2.lost with
        peerPaths := paths } := by
    intro hkept
    obtain ⟨hheld, htaken⟩ := hpackets hkept.keyed
    refine Relation.ReflTransGen.head (.resolve space _ _ hheld) (hsteps _ ?_)
    have hpaths := congrArg QuicConnectionLedgers.peerPaths (hsettled.ledgers.trans htaken)
    refine Eq.trans ?_ hpaths.symm
    unfold QuicConnectionLedgers.resolve
    split <;> rfl
  split
  · next hnone =>
    refine .entries (fun hkept => ?_) hmtus (fun h => hexceptions ▸ h)
    have hsteps := hentries hkept
    rw [hledgers, hsettled.ledgers, (hpackets hkept.keyed).2]
    unfold QuicConnectionLedgers.resolve at hsteps
    rw [if_pos hnone] at hsteps
    exact hsteps
  rename_i hsome
  refine .entries (fun hkept => ?_) (fun h => hqueuedMtu (hmtus h))
    (fun h => by rw [hqueuedException, hexceptions]; exact h)
  have hsteps := hentries hkept
  rw [hqueued, hledgers, hsettled.ledgers, (hpackets hkept.keyed).2]
  unfold QuicConnectionLedgers.resolve at hsteps
  rw [if_neg hsome] at hsteps
  exact hsteps

/-! ## Connection IDs -/

theorem checkAgainstHeld_some {frame : QuicNewConnectionIdFrame}
    {held : List PeerConnectionId} {answer : Option String}
    (h : checkAgainstHeld frame held = some answer) :
    ∃ existing ∈ held, existing.sequence = frame.sequenceNumber ∨
      existing.id = frame.connectionId := by
  induction held with
  | nil => simp [checkAgainstHeld] at h
  | cons existing rest ih =>
    unfold checkAgainstHeld at h
    split at h
    · next hsequence => exact ⟨existing, by simp, .inl hsequence⟩
    split at h
    · next hid => exact ⟨existing, by simp, .inr hid⟩
    · obtain ⟨other, hmem, hother⟩ := ih h
      exact ⟨other, List.mem_cons_of_mem existing hmem, hother⟩

theorem checkAgainstHeld_none {frame : QuicNewConnectionIdFrame}
    {held : List PeerConnectionId} (h : checkAgainstHeld frame held = none) :
    ∀ existing ∈ held, existing.sequence ≠ frame.sequenceNumber ∧
      existing.id ≠ frame.connectionId := by
  induction held with
  | nil => simp
  | cons existing rest ih =>
    unfold checkAgainstHeld at h
    split at h
    · split at h <;> cases h
    rename_i hsequence
    split at h
    · cases h
    rename_i hid
    intro other hmem
    rcases List.mem_cons.mp hmem with rfl | hmem
    · exact ⟨hsequence, hid⟩
    · exact ih h other hmem

theorem ensureActivePeerConnectionIdIsStillHeld_same :
    core.ensureActivePeerConnectionIdIsStillHeld.ledgers = core.ledgers.ensureActiveIsHeld ∧
      core.ensureActivePeerConnectionIdIsStillHeld.pathMtu = core.pathMtu ∧
      core.ensureActivePeerConnectionIdIsStillHeld.exception =
        core.exception := by
  have hids : core.ledgers.peerConnectionIds = core.peerConnectionIds := rfl
  have hactive : core.ledgers.peerConnectionId =
      core.configuration.peerConnectionId := rfl
  unfold ensureActivePeerConnectionIdIsStillHeld ensureActiveIsHeld
  rw [hids, hactive]
  split
  · exact ⟨rfl, rfl, rfl⟩
  cases lowestHeld core.peerConnectionIds with
  | none => exact ⟨rfl, rfl, rfl⟩
  | some lowest => exact ⟨rfl, rfl, rfl⟩

theorem adoptNewConnectionId_same : (core.adoptNewConnectionId frame).ledgers =
        core.ledgers.adoptNewConnectionId frame ∧
      (core.adoptNewConnectionId frame).pathMtu = core.pathMtu ∧
      (core.adoptNewConnectionId frame).exception = core.exception := by
  have hthreshold : core.ledgers.peerRetirePriorTo = core.peerRetirePriorTo :=
    rfl
  unfold adoptNewConnectionId QuicConnectionLedgers.adoptNewConnectionId
  simp only [hthreshold]
  split <;> exact ensureActivePeerConnectionIdIsStillHeld_same _

theorem handleNewConnectionIdFrame_advances :
    Advances core (core.handleNewConnectionIdFrame frame arrivalTime) := by
  -- a frame that changes nothing is noted all the same
  have hnoted : (frame.retirePriorTo ≤ frame.sequenceNumber →
      ∃ held ∈ core.peerConnectionIds, held.sequence = frame.sequenceNumber ∨
          held.id = frame.connectionId) →
      Advances core (core.noteNewConnectionIdFrame frame) :=
    fun h => .step (.noteConnectionIdFrame frame h) id id
  unfold handleNewConnectionIdFrame
  simp only
  split
  · next hretire =>
    exact (hnoted fun hle => absurd hle (Nat.not_le.mpr hretire)).trans
      (beginClose_advances _ _ _ arrivalTime)
  rename_i hretire
  split
  · next hheld => exact hnoted fun _ => checkAgainstHeld_some hheld
  · next hheld =>
    exact (hnoted fun _ => checkAgainstHeld_some hheld).trans
      (beginClose_advances _ _ _ arrivalTime)
  rename_i hnew
  obtain ⟨hledgers, hmtu, hexception⟩ := adoptNewConnectionId_same
    (core.noteNewConnectionIdFrame frame) frame
  have hadopted : Advances core
      ((core.noteNewConnectionIdFrame frame).adoptNewConnectionId frame) := by
    refine .step ?_ (fun h => hmtu ▸ h) (fun h => hexception ▸ h)
    rw [hledgers]
    exact .adoptConnectionId frame (Nat.le_of_not_lt hretire) (checkAgainstHeld_none hnew)
  split
  · next htooMany =>
    refine hadopted.trans (.after (beginClose_advances _ _ _ arrivalTime) ?_)
    exact .step (.limitError htooMany) id id
  · exact hadopted

theorem handleRetireConnectionIdFrame_advances (sequenceNumber : Nat) (arrivalTime : QuicTime) :
    Advances core (core.handleRetireConnectionIdFrame sequenceNumber arrivalTime) := by
  unfold handleRetireConnectionIdFrame
  split
  · exact beginClose_advances core _ _ arrivalTime
  · exact .quiet rfl id id

/-! ## Frames -/

theorem handleCryptoBytes_advances (frame : QuicCryptoFrame) (arrivalTime : QuicTime) :
    Advances core (core.handleCryptoBytes space frame arrivalTime) := by
  unfold handleCryptoBytes
  simp only
  split
  · exact beginClose_advances core _ _ arrivalTime
  · exact setSpaceState_quiet fun _ => rfl

theorem handleStreamEvent_advances (event : StreamEvent) (arrivalTime : QuicTime) :
    Advances core (core.handleStreamEvent event arrivalTime) := by
  unfold handleStreamEvent
  simp only
  split
  · exact .quiet rfl id id
  · exact .after (beginClose_advances _ _ _ arrivalTime) (.quiet rfl id id)

theorem handleHandshakeDone_advances : Advances core (core.handleHandshakeDone arrivalTime) := by
  unfold handleHandshakeDone
  split
  · exact beginClose_advances core _ _ arrivalTime
  · exact confirmHandshake_advances core arrivalTime

theorem handleNewToken_advances (token : Bytes) (arrivalTime : QuicTime) :
    Advances core (core.handleNewToken token arrivalTime) := by
  unfold handleNewToken
  repeat' split
  · exact beginClose_advances core _ _ arrivalTime
  · exact beginClose_advances core _ _ arrivalTime
  · exact .refl core

theorem queuePathResponse_advances (data : QuicPathValidationData) :
    Advances core (core.queuePathResponse pathKey data) := by
  unfold queuePathResponse
  split
  · exact .refl core
  · exact .quiet rfl id id

theorem handleFrame_advances (frame : QuicFrame) (space : PacketNumberSpace)
    (arrivalTime : QuicTime) (pathKey : QuicPathKey) :
    Advances core (core.handleFrame environment frame space arrivalTime pathKey) := by
  cases frame with
  | acknowledgement frame =>
    exact handleAcknowledgement_advances core frame space arrivalTime
  | crypto frame => exact handleCryptoBytes_advances core space frame arrivalTime
  | stream frame =>
    exact handleStreamEvent_advances core (.streamFrame frame) arrivalTime
  | maxData frame =>
    exact handleStreamEvent_advances core (.maxDataFrame frame) arrivalTime
  | maxStreamData frame =>
    exact handleStreamEvent_advances core (.maxStreamDataFrame frame) arrivalTime
  | maxStreams frame =>
    exact handleStreamEvent_advances core (.maxStreamsFrame frame) arrivalTime
  | resetStream frame =>
    exact handleStreamEvent_advances core (.resetStreamFrame frame) arrivalTime
  | stopSending frame =>
    exact handleStreamEvent_advances core (.stopSendingFrame frame) arrivalTime
  | connectionClose frame => exact .quiet rfl id id
  | handshakeDone => exact handleHandshakeDone_advances core arrivalTime
  | newToken token => exact handleNewToken_advances core token arrivalTime
  | newConnectionId frame =>
    exact handleNewConnectionIdFrame_advances core frame arrivalTime
  | retireConnectionId sequenceNumber =>
    exact handleRetireConnectionIdFrame_advances core sequenceNumber arrivalTime
  | pathChallenge data => exact queuePathResponse_advances core pathKey data
  | pathResponse data =>
    exact handlePathResponseFrame_advances environment core data arrivalTime
  | _ => exact .refl core

theorem handleFrameList_advances (pathKey : QuicPathKey)
    (core : QuicConnectionCore) (frames : List QuicFrame) :
    Advances core (handleFrameList environment space arrivalTime pathKey core frames).1 := by
  induction frames generalizing core with
  | nil => exact .refl core
  | cons frame rest ih =>
    unfold handleFrameList
    simp only
    split
    · exact beginClose_advances core _ _ arrivalTime
    have hframe := handleFrame_advances environment core frame space arrivalTime pathKey
    split
    · exact hframe
    · exact hframe.trans (ih _)

/-- The number of a packet whose frames are handled was accepted, and that
is still so when they are through. -/
theorem handleFrames_advances (frames : List QuicFrame)
    (space : PacketNumberSpace) (packetNumber : Nat) (pathKey : QuicPathKey)
    (arrivalTime : QuicTime) :
    (core.exception.isSome → (core.handleFrames environment frames space
        packetNumber pathKey arrivalTime).exception.isSome) ∧
      ((space, packetNumber) ∈ core.history.accepted →
        Advances core (core.handleFrames environment frames space packetNumber
          pathKey arrivalTime)) := by
  unfold handleFrames
  simp only
  generalize hentered : ({ core with hasProcessedServerInitial := _ } :
    QuicConnectionCore) = entered
  have hquiet : Advances core entered := by
    subst hentered
    exact .quiet rfl id id
  have hhistory : entered.history = core.history := by
    subst hentered
    rfl
  have hlist := handleFrameList_advances environment space arrivalTime pathKey entered frames
  generalize handleFrameList environment space arrivalTime pathKey entered frames = handled at hlist
  obtain ⟨handled, completed⟩ := handled
  have hhandled := hquiet.trans hlist
  cases completed with
  | false => exact ⟨hhandled.throws, fun _ => hhandled⟩
  | true =>
    have hfollowed := followPeerPath_advances environment
      (if frames.any isAcknowledgementEliciting
        then handled.noteAckEliciting space packetNumber arrivalTime
        else handled) pathKey space packetNumber
      (frames.any isNonProbingFrame) arrivalTime
    have hthrows : core.exception.isSome →
        (if frames.any isAcknowledgementEliciting
          then handled.noteAckEliciting space packetNumber arrivalTime
          else handled).exception.isSome := by
      split <;> exact hhandled.throws
    refine ⟨fun h => hfollowed.throws (hthrows h), fun haccepted => ?_⟩
    refine Advances.trans (.whenKept hthrows fun hkept => ?_) hfollowed
    split
    · refine hhandled.trans (.step ?_ id id)
      unfold noteAckEliciting
      rw [ledgers_setSpaceState]
      refine .elicit space packetNumber (hlist.accepted (hquiet.kept hkept) ?_)
      rw [hhistory]
      exact haccepted
    · exact hhandled

/-! ## Packets -/

theorem ledgers_noteArrival (isAccepted : Bool) :
    (core.noteArrival space packetNumber isAccepted).ledgers =
      core.ledgers.noteArrival space packetNumber isAccepted := rfl

theorem noteReceivedPacket_advances : Advances core (core.noteReceivedPacket space packetNumber).1 ∧
      ((core.noteReceivedPacket space packetNumber).2 → (space, packetNumber) ∈
          (core.noteReceivedPacket space packetNumber).1.history.accepted) := by
  have hstep : LedgerStep false core.ledgers
      (core.ledgers.arrive space packetNumber) := .arrive space packetNumber
  have hreceived : (core.ledgers.spaces space).received =
      (core.spaceState space).receivedPacketNumbers := rfl
  unfold arrive at hstep
  unfold noteReceivedPacket
  simp only [hreceived] at hstep ⊢
  generalize (core.spaceState space).receivedPacketNumbers.insert packetNumber = inserted at hstep
  obtain ⟨isNew, received⟩ := inserted
  cases isNew with
  | false => exact ⟨.step hstep id id, fun h => by cases h⟩
  | true =>
    refine ⟨.step ?_ id id, fun _ => by simp [noteArrival, note]⟩
    rw [ledgers_noteArrival, ledgers_setSpaceState]
    exact hstep

theorem restartIdleTimer_advances : Advances core (core.restartIdleTimer now) := by
  unfold restartIdleTimer
  split <;> exact .quiet rfl id id

theorem noteAddressValidated_advances (isValidating : Bool) :
    Advances core { core with
      hasSentAckElicitingSinceReceipt := false
      isAddressValidated := core.isAddressValidated || isValidating } := by
  cases isValidating with
  | false =>
    refine .quiet ?_ id id
    simp only [Bool.or_false]
    rfl
  | true =>
    refine .step ?_ id id
    simp only [Bool.or_true]
    exact .validateAddress

theorem noteFreshPacket_advances :
    Advances core (core.noteFreshPacket packet space arrivalTime) := by
  unfold noteFreshPacket
  refine .after (noteAddressValidated_advances _ _) ?_
  refine .after (restartIdleTimer_advances _ arrivalTime) ?_
  have hconfirmed : ∀ core : QuicConnectionCore, Advances core
      (if !core.isLocalServer && space == PacketNumberSpace.application then
        core.confirmHandshake arrivalTime else core) := by
    intro core
    split
    · exact confirmHandshake_advances core arrivalTime
    · exact .refl core
  refine .after (hconfirmed _) ?_
  refine .after (followPeerConnectionId_advances _ _ _) ?_
  exact .quiet rfl id id

theorem handleAuthenticated_advances (payload : QuicDecodedPayload)
    (arrivalTime : QuicTime) (pathKey : QuicPathKey) :
    Advances core (core.handleAuthenticated environment packet space
      packetNumber payload arrivalTime pathKey).1 := by
  unfold handleAuthenticated
  split
  · exact .refl core
  have hreceived := noteReceivedPacket_advances core space packetNumber
  generalize core.noteReceivedPacket space packetNumber = received at hreceived
  obtain ⟨received, isNew⟩ := received
  obtain ⟨hreceived, haccepted⟩ := hreceived
  cases isNew with
  | false => exact hreceived
  | true =>
    have hfresh := noteFreshPacket_advances received packet space arrivalTime
    cases payload with
    | error error =>
      exact hreceived.trans (hfresh.trans (beginClose_advances _ _ _ arrivalTime))
    | ok frames =>
      obtain ⟨hthrows, hframes⟩ := handleFrames_advances environment
        (received.noteFreshPacket packet space arrivalTime) frames space
        packetNumber pathKey arrivalTime
      refine .whenKept (fun h => hthrows (hfresh.throws (hreceived.throws h)))
        fun hkept => hreceived.trans (hfresh.trans (hframes ?_))
      exact hfresh.accepted (hreceived.kept hkept) (haccepted rfl)

theorem handleUnprotected_advances (readKeys : QuicPacketKeys)
    (header : UnprotectedHeader) (arrivalTime : QuicTime) (pathKey : QuicPathKey) :
    Advances core (core.handleUnprotected environment packet space readKeys
      header arrivalTime pathKey).1 := by
  unfold handleUnprotected
  simp only
  split
  · exact beginClose_advances core _ _ arrivalTime
  split
  · exact .refl core
  split
  · exact .refl core
  split
  · exact .refl core
  refine .after (handleAuthenticated_advances environment _ packet space _ _ arrivalTime pathKey) ?_
  split
  · exact applyPeerKeyUpdate_advances environment core arrivalTime
  · exact .refl core

theorem handlePacket_advances (pathKey : QuicPathKey) :
    Advances core (core.handlePacket environment packet arrivalTime pathKey).1 := by
  unfold handlePacket
  repeat' split
  all_goals try exact .refl core
  exact handleUnprotected_advances environment core packet _ _ _ arrivalTime pathKey

theorem handlePackets_advances (pathKey : QuicPathKey)
    (core : QuicConnectionCore) (packets : List QuicArrivingPacket) :
    Advances core (handlePackets environment arrivalTime pathKey core packets) := by
  induction packets generalizing core with
  | nil => exact .refl core
  | cons packet rest ih =>
    unfold handlePackets
    have hpacket := handlePacket_advances environment core packet arrivalTime pathKey
    generalize core.handlePacket environment packet arrivalTime pathKey = handled at hpacket
    obtain ⟨handled, goesOn⟩ := handled
    cases goesOn with
    | false => exact hpacket
    | true => exact hpacket.andThen (ih handled)

/-! ## Retry -/

theorem ledgers_discardSentPackets : (core.discardSentPackets space).ledgers =
      core.ledgers.discardPackets space (core.ledgers.spaces space) := by
  unfold discardSentPackets ledgers discardPackets
  simp only [noteResolved, note]
  congr 1
  · funext space'
    rw [Function.update_apply]
    simp only [spaceState, QuicRecovery.discardSpace_unacknowledgedOf]
    split
    · next heq =>
      subst heq
      rfl
    · rfl
  · exact QuicRecovery.discardSpace_inFlight core.recovery space
  · exact onPacketsDiscarded_bytesInFlight _ _

theorem discardPackets_setSpace (l : QuicConnectionLedgers)
    (space : PacketNumberSpace) {state : SpaceLedger}
    (h : state.unacknowledged = (l.spaces space).unacknowledged) :
    (l.setSpace space state).discardPackets space ((l.setSpace space state).spaces space) =
      l.discardPackets space state := by
  have hspace : (l.setSpace space state).spaces space = state := setSpace_spaces_self space state
  unfold discardPackets
  rw [hspace, h]
  unfold setSpace
  simp

theorem ledgers_withInitialKeys (connectionId : Bytes) :
    (core.withInitialKeys environment connectionId).ledgers = core.ledgers :=
  ledgers_setSpaceState_of_same fun _ => rfl

theorem acceptRetry_advances (retry : QuicRetryPacketHeader)
    (hclient : core.configuration.role = .client) :
    Advances core (core.acceptRetry environment retry) := by
  have hreset : ∀ core : QuicConnectionCore, Advances core { core with
      recovery := core.recovery.resetForPathChange
      congestion := core.congestion.resetToInitialState
      outboundDatagrams := []
      probeSpace :=
        if core.probeSpace = some .initial then none else core.probeSpace } := by
    intro core
    refine .quiet ?_ id id
    unfold ledgers
    simp only [resetToInitialState_bytesInFlight]
    rfl
  unfold acceptRetry
  refine .after (hreset _) (.step ?_ id id)
  rw [ledgers_discardSentPackets, ledgers_setSpaceState,
    ledgers_withInitialKeys, discardPackets_setSpace]
  · exact .startOver retry.sourceConnectionId hclient
  · rfl

theorem handleRetryPacket_advances (decoded : Option QuicRetryPacketHeader) :
    Advances core (core.handleRetryPacket environment decoded) := by
  unfold handleRetryPacket
  split
  · exact .refl core
  rename_i h
  have hclient : core.configuration.role = .client := by
    simp only [Bool.or_eq_true, not_or, isLocalServer] at h
    cases hrole : core.configuration.role with
    | client => rfl
    | server => simp [hrole] at h
  split
  · exact .refl core
  split
  · exact acceptRetry_advances environment core _ hclient
  · exact .refl core

/-! ## Datagrams -/

theorem countReceivedDatagram_advances (byteCount : Nat) (pathKey : QuicPathKey) :
    Advances core (core.countReceivedDatagram byteCount pathKey) := by
  unfold countReceivedDatagram
  generalize hcounted : ({ core with receivedByteCount := _, history := _ } :
    QuicConnectionCore) = counted
  obtain ⟨hmtu, hexception⟩ := updatePathState_same counted pathKey fun state =>
    { state with receivedByteCount := state.receivedByteCount + byteCount }
  have hadmitted := admitPath_admitted counted pathKey
  refine .step ?_ (fun h => hmtu ▸ ?_) (fun h => hexception ▸ ?_)
  · rw [ledgers_updatePathState]
    subst hcounted
    exact .receive byteCount pathKey hadmitted
  · subst hcounted
    exact h
  · subst hcounted
    exact h

theorem onDatagramReceived_advances (datagram : QuicArrivingDatagram)
    (arrivalTime : QuicTime) (ecnCodepoint : Option Nat) (pathKey : QuicPathKey)
    :
    Advances core (core.onDatagramReceived environment datagram arrivalTime
      ecnCodepoint pathKey) := by
  unfold onDatagramReceived
  simp only
  split
  · exact .after (closeSilently_advances _) (.quiet rfl id id)
  split
  · refine .after (handleRetryPacket_advances environment _ _) ?_
    exact .after (countReceivedDatagram_advances _ _ pathKey) (.quiet rfl id id)
  refine .after (handlePackets_advances environment arrivalTime pathKey _ _) ?_
  exact .after (countReceivedDatagram_advances _ _ pathKey) (.quiet rfl id id)

end QuicConnectionCore

end AsynGyanis.Quic
