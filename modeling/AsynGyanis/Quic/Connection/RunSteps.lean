import AsynGyanis.Quic.Connection.ReceiveSteps

/-!
# Runs, entry by entry

The two driving calls put the parts together, and with them every event of
a run is covered: `apply_steps` says that whatever a call does to the books
is a sequence of entries. A statement about runs is then proved against
`LedgerStep` alone, and the functions of the connection need not be opened
again.
-/

namespace AsynGyanis.Quic

open Library QuicCongestionAlgorithm

namespace QuicConnectionCore

/-! ## What TLS hands over -/

variable (environment : QuicEnvironment) (keys : QuicTlsKeys)
  (report : QuicTlsReport) (rounds : Nat) (now : QuicTime)
  (core : QuicConnectionCore)

theorem adoptTlsKeysOf_advances (space : PacketNumberSpace) :
    Advances core (adoptTlsKeysOf environment keys core space) := by
  refine setSpaceState_quiet fun map => ?_
  repeat' split
  all_goals rfl

theorem adoptTlsKeys_advances : Advances core (core.adoptTlsKeys environment keys) :=
  .foldl (adoptTlsKeysOf_advances environment keys) _ core

theorem adoptTlsRecord_advances (record : PacketNumberSpace × Bytes) :
    Advances core (core.adoptTlsRecord record) := by
  refine .step ?_ id id
  unfold adoptTlsRecord
  rw [ledgers_setSpaceState]
  exact .writeCrypto record.1 record.2

theorem takeOverPeerParameters_advances (parameters : QuicConnectionTransportParameters) :
    Advances core (core.takeOverPeerParameters parameters) := by
  have hmtu : core.pathMtu.Bounded →
      (core.pathMtu.onPeerMaximumPayload parameters.maximumUdpPayloadSize).Bounded :=
    fun h => h.onPeerMaximumPayload _
  unfold takeOverPeerParameters
  cases parameters.statelessResetToken with
  | none => exact .quiet rfl hmtu id
  | some token => exact .step (.noteToken token) hmtu id

theorem adoptPeerTransportParameters_advances
    (received : Option (Except String QuicConnectionTransportParameters)) (now : QuicTime) :
    Advances core (core.adoptPeerTransportParameters received now) := by
  unfold adoptPeerTransportParameters
  split
  · exact .refl core
  split
  · exact .refl core
  · exact beginClose_advances core _ _ now
  split
  · exact beginClose_advances core _ _ now
  · exact takeOverPeerParameters_advances core _

theorem concludeTlsProgress_advances (progress : QuicTlsProgress) (now : QuicTime) :
    Advances core (core.concludeTlsProgress progress now) := by
  unfold concludeTlsProgress
  split
  · exact beginClose_advances core _ _ now
  · exact beginClose_advances core _ _ now
  · exact .quiet rfl id id
  · exact .refl core

theorem driveTls_advances : Advances core (core.driveTls environment report now) := by
  have hadopted : Advances core ((core.adoptTlsKeys environment
      report.keysAfter).adoptTlsRecords report.outboundRecords) :=
    (adoptTlsKeys_advances environment report.keysAfter core).trans
      (.foldl adoptTlsRecord_advances _ _)
  unfold driveTls
  refine Advances.andThen (hadopted.trans (concludeTlsProgress_advances _ report.progress now)) ?_
  exact adoptPeerTransportParameters_advances _ _ now

/-! ## Driving -/

theorem retireStaleKeyPhase_advances (now : QuicTime) :
    Advances core (core.retireStaleKeyPhase now) := by
  unfold retireStaleKeyPhase
  simp only
  split
  · split
    · exact setSpaceState_quiet fun _ => rfl
    · exact .refl core
  · exact .refl core

theorem discardSpace_advances (space : PacketNumberSpace) :
    Advances core (core.discardSpace space) := by
  unfold discardSpace
  simp only
  split
  · exact .refl core
  generalize hwiped : ({ core.spaceState space with
    readKeys := none
    writeKeys := none
    cryptoStream := []
    pendingRetransmissions := []
    reassembly := .empty } : QuicSpaceState) = wiped
  -- the note and the wiped state go in first, then the packets come out
  have hstep : ∀ l : QuicConnectionLedgers,
      l = { core.ledgers with
        history := { core.history with
          discardedSpaces := core.history.discardedSpaces ++ [space] }
        }.setSpace space (wiped.ledger (core.recovery.unacknowledgedOf space)) →
      LedgerStep false core.ledgers (l.discardPackets space (l.spaces space)) := by
    rintro _ rfl
    rw [discardPackets_setSpace]
    · subst hwiped
      exact .discard space
    · rfl
  refine .step ?_ id id
  rw [ledgers_discardSentPackets]
  exact hstep _ (congrArg (fun l : QuicConnectionLedgers => { l with
    history := { core.history with
      discardedSpaces := core.history.discardedSpaces ++ [space] } })
    (ledgers_setSpaceState core space wiped))

theorem queueAllSpacePackets_advances :
    Advances core (core.queueAllSpacePackets environment rounds now) :=
  .foldl (fun core space => Advances.andThen (.refl core)
    (queueSpacePackets_advances environment rounds now core space)) _ core

theorem sendWhatIsDue_advances : Advances core (core.sendWhatIsDue environment rounds now) := by
  have hbudget : Advances core { core with
      congestion := core.congestion.setMaximumDatagramByteLength
        core.pathMtu.maximumDatagramPayloadByteLength } := by
    refine .quiet ?_ id id
    unfold ledgers
    simp only [setMaximumDatagramByteLength_bytesInFlight]
    rfl
  refine Advances.andThen (hbudget.trans (queuePathValidationPackets_advances _ now)) ?_
  exact queueAllSpacePackets_advances environment rounds now _

theorem drive_advances : Advances core (core.drive environment report rounds now) := by
  have hdiscarded : ∀ core : QuicConnectionCore, Advances core
      (if core.isAddressValidated then core.discardSpace .initial
        else core) := by
    intro core
    split
    · exact discardSpace_advances core .initial
    · exact .refl core
  have htls : ∀ core : QuicConnectionCore, Advances core
      (if core.phase ≠ .closing then core.driveTls environment report now
        else core) := by
    intro core
    split
    · exact driveTls_advances environment report now core
    · exact .refl core
  have hsend : ∀ core : QuicConnectionCore, Advances core
      (if core.phase ≠ .closing then
        core.sendWhatIsDue environment rounds now else core) := by
    intro core
    split
    · exact sendWhatIsDue_advances environment rounds now core
    · exact .refl core
  unfold drive
  refine Advances.andThen ?_ (hsend _)
  refine .after (htls _) ?_
  refine .after (adoptTlsKeys_advances environment report.keysBefore _) ?_
  exact .after (hdiscarded _) (retireStaleKeyPhase_advances core now)

/-! ## Timers -/

theorem expirePathChallenge_advances (acc : QuicConnectionCore × List PendingPathChallenge)
    (challenge : PendingPathChallenge) :
    Advances acc.1 (expirePathChallenge environment now acc challenge).1 := by
  unfold expirePathChallenge
  split
  · split
    · unfold abandonPathValidation
      split
      · exact movePath_advances acc.1 _
      · exact closeSilently_advances acc.1
    · exact .refl acc.1
  split
  · unfold renewPathChallenge
    simp only
    repeat' split
    all_goals exact .quiet rfl id id
  · exact .refl acc.1

theorem foldl_expirePathChallenge_advances (challenges : List PendingPathChallenge)
    (acc : QuicConnectionCore × List PendingPathChallenge) : Advances acc.1
      (challenges.foldl (expirePathChallenge environment now) acc).1 := by
  induction challenges generalizing acc with
  | nil => exact .refl acc.1
  | cons challenge rest ih =>
    exact (expirePathChallenge_advances environment now acc challenge).trans (ih _)

theorem expirePathChallenges_advances : Advances core (core.expirePathChallenges environment now) :=
  (foldl_expirePathChallenge_advances environment now
    core.pendingPathChallenges (core, [])).trans (.quiet rfl id id)

theorem ledgers_loseByTimer {core : QuicConnectionCore}
    {recovery : QuicRecovery} {congestion : QuicCongestionAlgorithm}
    {space : PacketNumberSpace} {lost : List QuicSentPacketInfo}
    (hresolution : core.recovery.Resolution recovery space lost)
    (hbytes : congestion.bytesInFlight = writeOffBytes lost core.congestion.bytesInFlight) :
    (noteResolved { core with recovery := recovery, congestion := congestion }
      space .lost lost).ledgers = core.ledgers.takeOut space [] lost := by
  unfold ledgers QuicConnectionLedgers.takeOut
  simp only [noteResolved, note]
  congr 1
  funext space'
  · rw [Function.update_apply]
    split
    · next heq =>
      subst heq
      rw [hresolution.taken]
      rfl
    · next hne =>
      rw [hresolution.others space' hne]
      rfl
  · exact hresolution.bytes

theorem ledgers_loseNothing {core : QuicConnectionCore}
    {recovery : QuicRecovery} {space : PacketNumberSpace}
    (hresolution : core.recovery.Resolution recovery space []) :
    { core with recovery := recovery }.ledgers = core.ledgers := by
  unfold ledgers
  congr 1
  · funext space'
    have hmap : recovery.unacknowledgedOf space' = core.recovery.unacknowledgedOf space' := by
      by_cases heq : space' = space
      · rw [heq]
        exact hresolution.taken
      · exact hresolution.others space' heq
    exact congrArg (core.spaceState space').ledger hmap
  · simpa using hresolution.bytes

/-- The timer's first half: what it finds lost is resolved. -/
def resolveTimerLosses (now : QuicTime) (core : QuicConnectionCore) :
    QuicConnectionCore :=
  let action := (core.recovery.onDeadlineReached now).2
  let core := { core with
    recovery := (core.recovery.onDeadlineReached now).1 }
  if action.lost.isEmpty then core
  else
    let core := { core with
      congestion := core.congestion.onCongestionUpdate [] action.lost now }
    let core := core.noteResolved action.lostSpace .lost action.lost
    let core := core.queueRetransmissions action.lostSpace action.lost
    { core with
      streams := action.lost.foldl (fun streams packet =>
        streams.onSendRangesLost packet.streamRanges) core.streams }

theorem resolveTimerLosses_advances : Advances core (core.resolveTimerLosses now) := by
  have hresolution := fun hkeyed =>
    @QuicRecovery.onDeadlineReached_resolution core.recovery hkeyed now
  unfold resolveTimerLosses
  generalize core.recovery.onDeadlineReached now = reached at hresolution
  obtain ⟨recovery, action⟩ := reached
  simp only at hresolution ⊢
  split
  · next hnone =>
    rw [List.isEmpty_iff.mp hnone] at hresolution
    exact .whenKept id fun hkept =>
      .quiet (ledgers_loseNothing (hresolution hkept.keyed)) id id
  rename_i hsome
  obtain ⟨hqueued, hmtu, hexception⟩ := queueRetransmissions_same
    (noteResolved { core with
      recovery := recovery
      congestion := core.congestion.onCongestionUpdate [] action.lost now }
      action.lostSpace .lost action.lost) action.lostSpace action.lost
  have hthrows := fun h : core.exception.isSome => hexception ▸ h
  refine .whenKept hthrows fun hkept => .step ?_ hmtu hthrows
  have hresolve : LedgerStep false core.ledgers
      (core.ledgers.resolve action.lostSpace [] action.lost) :=
    .resolve action.lostSpace [] action.lost (hresolution hkept.keyed).held
  unfold QuicConnectionLedgers.resolve at hresolve
  rw [if_neg hsome] at hresolve
  rw [ledgers_loseByTimer (hresolution hkept.keyed)
    (onCongestionUpdate_bytesInFlight _ [] action.lost now)] at hqueued
  exact hqueued ▸ hresolve

theorem reactToTimeout_advances : Advances core (core.reactToTimeout now) := by
  have hlosses := resolveTimerLosses_advances now core
  have heq : core.reactToTimeout now =
      if (core.recovery.onDeadlineReached now).2.isProbeTimeout then
        queueRetransmissions { core.resolveTimerLosses now with
            probeSpace := some (core.recovery.onDeadlineReached now).2.probeSpace }
          (core.recovery.onDeadlineReached now).2.probeSpace
          ((core.resolveTimerLosses now).recovery.unacknowledgedPackets
            (core.recovery.onDeadlineReached now).2.probeSpace)
      else core.resolveTimerLosses now := rfl
  rw [heq]
  split
  · obtain ⟨hqueued, hmtu, hexception⟩ := queueRetransmissions_same
      { core.resolveTimerLosses now with
        probeSpace := some (core.recovery.onDeadlineReached now).2.probeSpace }
      (core.recovery.onDeadlineReached now).2.probeSpace
      ((core.resolveTimerLosses now).recovery.unacknowledgedPackets
        (core.recovery.onDeadlineReached now).2.probeSpace)
    refine hlosses.trans (.step ?_ hmtu fun h => hexception ▸ h)
    rw [hqueued]
    exact .requeue _
  · exact hlosses

theorem onTimeout_advances : Advances core (core.onTimeout environment rounds now) := by
  unfold onTimeout
  split
  · exact .refl core
  split
  · exact closeSilently_advances core
  simp only
  have hsearched : Advances core { core with
      pathMtu := core.pathMtu.onDeadlineReached now } :=
    .quiet rfl (fun h => h.onDeadlineReached now) id
  have hexpired := hsearched.trans (expirePathChallenges_advances environment now _)
  split
  · exact hexpired
  refine Advances.andThen ?_ (queuePathValidationPackets_advances _ now)
  refine hexpired.trans ?_
  exact .after (queueAllSpacePackets_advances environment rounds now _)
    (reactToTimeout_advances now _)

/-! ## The application's calls -/

theorem requestKeepalive_advances (now : QuicTime) :
    Advances core (core.requestKeepalive now).1 := by
  unfold requestKeepalive
  repeat' split
  all_goals exact .quiet rfl id id

theorem initiateKeyUpdate_advances (now : QuicTime) :
    Advances core (core.initiateKeyUpdate environment now).1 := by
  unfold initiateKeyUpdate
  simp only
  split
  · exact .refl core
  rename_i writeKeys hwriteKeys
  split
  · exact .refl core
  have hkeys : Advances core (core.setSpaceState .application
      { core.spaceState .application with
        writeKeys := some (environment.deriveQuicUpdatedPacketKeys writeKeys) }) :=
    setSpaceState_quiet fun _ => rfl
  exact hkeys.trans (.quiet rfl id id)

theorem takeOutboundDatagram_advances : Advances core core.takeOutboundDatagram.1 := by
  unfold takeOutboundDatagram
  split
  · exact .refl core
  · exact .quiet rfl id id

/-! ## Every call -/

/-- A call starts without an exception. -/
def entered (core : QuicConnectionCore) : QuicConnectionCore := { core with exception := none }

theorem apply_advances (event : QuicConnectionEvent) :
    Advances core.entered (core.apply environment event) := by
  cases event with
  | datagramReceived datagram arrivalTime ecnCodepoint pathKey =>
    exact onDatagramReceived_advances environment _ datagram arrivalTime ecnCodepoint pathKey
  | driven report rounds now =>
    exact drive_advances environment report rounds now _
  | timedOut rounds now => exact onTimeout_advances environment rounds now _
  | closeRequested errorCode reasonPhrase now =>
    exact beginClose_advances _ errorCode reasonPhrase now
  | keepaliveRequested now => exact requestKeepalive_advances _ now
  | keyUpdateInitiated now =>
    exact initiateKeyUpdate_advances environment _ now
  | outboundDatagramTaken => exact takeOutboundDatagram_advances _
  | streamLayerCalled event => exact .quiet rfl id id

/-- The books before anything has happened. -/
def startLedgers (configuration : QuicConnectionCoreConfiguration)
    (parameters : QuicConnectionTransportParameters) :
    QuicConnectionLedgers where
  role := configuration.role
  localParameters := parameters
  peerConnectionId := configuration.peerConnectionId
  spaces := fun _ => {}
  inFlightByteCount := 0
  bytesInFlight := 0
  isAddressValidated := false
  receivedByteCount := 0
  sentByteCount := 0
  peerPaths := []
  sendPathKey := kUnspecifiedQuicPathKey
  peerConnectionIds :=
    match configuration.role with
    | .server => [{ id := configuration.peerConnectionId, sequence := 0 }]
    | .client => []
  peerRetirePriorTo := 0
  history := {}

theorem ledgers_start (configuration : QuicConnectionCoreConfiguration) :
    (start environment configuration).ledgers = startLedgers configuration
        (start environment configuration).configuration.transportParameters := by
  have hspaces : (start environment configuration).ledgers.spaces = fun _ => {} := by
    funext space
    unfold start restartIdleTimer
    simp only
    split <;> split <;> cases space <;> rfl
  have hrest : ∀ l : QuicConnectionLedgers, l.spaces = (fun _ => {}) →
      { l with spaces := fun _ => {} } = l := by
    rintro l h
    rw [← h]
  rw [← hrest _ hspaces]
  unfold start restartIdleTimer
  simp only
  split <;> split <;> rfl

theorem wellKept_start (configuration : QuicConnectionCoreConfiguration) :
    (start environment configuration).WellKept := by
  have hmtu : (start environment configuration).pathMtu = {} := by
    unfold start restartIdleTimer
    simp only
    split <;> split <;> rfl
  refine ⟨hmtu ▸ QuicPathMtuDiscovery.Bounded.start, fun space => ?_⟩
  rw [ledgers_start]
  exact Keyed.empty

theorem wellKept_apply {core : QuicConnectionCore} (h : core.WellKept)
    (event : QuicConnectionEvent) : (core.apply environment event).WellKept :=
  (apply_advances environment core event).kept ⟨h.mtu, h.keyed⟩

theorem apply_steps {core : QuicConnectionCore} (h : core.WellKept) (event : QuicConnectionEvent) :
    LedgerSteps (core.apply environment event).exception.isSome core.ledgers
      (core.apply environment event).ledgers :=
  (apply_advances environment core event).steps ⟨h.mtu, h.keyed⟩

variable {environment core} {configuration : QuicConnectionCoreConfiguration}
  {permitted : QuicConnectionCore → QuicConnectionEvent → Prop}

/-- What holds of the first books and survives every entry holds of the
books of every state a run leads to. -/
theorem books_invariant {throws : Bool} {P : QuicConnectionLedgers → Prop}
    (h : Reach (apply environment) permitted (start environment configuration) core)
    (hthrows : ∀ core event, permitted core event →
      (core.apply environment event).exception.isSome → throws)
    (hstart : P (start environment configuration).ledgers)
    (hstep : ∀ l l', P l → LedgerStep throws l l' → P l') :
    P core.ledgers := by
  have hsteps : ∀ l l', P l → LedgerSteps throws l l' → P l' := by
    intro l l' hP hsteps
    induction hsteps with
    | refl => exact hP
    | tail _ hstep' ih => exact hstep _ _ ih hstep'
  have hboth : core.WellKept ∧ P core.ledgers := by
    refine @Reach.invariant _ _ _ _ _ (fun core => core.WellKept ∧ P core.ledgers) _ h
      ⟨wellKept_start environment configuration, hstart⟩ ?_
    rintro core event ⟨hkept, hP⟩ hpermitted
    exact ⟨wellKept_apply environment hkept event,
      hsteps _ _ hP ((apply_steps environment hkept event).weaken (hthrows core event hpermitted))⟩
  exact hboth.2

theorem Reachable.books_invariant {P : QuicConnectionLedgers → Prop}
    (h : Reachable environment configuration core)
    (hstart : P (start environment configuration).ledgers)
    (hstep : ∀ l l', P l → LedgerStep true l l' → P l') : P core.ledgers :=
  QuicConnectionCore.books_invariant h (fun _ _ _ _ => rfl) hstart hstep

end QuicConnectionCore

end AsynGyanis.Quic
