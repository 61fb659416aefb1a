import AsynGyanis.Quic.Connection.Advances
import AsynGyanis.Quic.Streams.Packing

/-!
# The sending side, entry by entry

One packet is one entry. Before it the ACK it carries is noted, and the
handshake bytes it carries are taken out of their queue in the same entry
that puts them under way, so there is no moment at which they are nowhere;
only an exception between the two can lose them.

The size guard of the entry is where the estimates of the send path meet
the bytes written. Whatever took a budget fits what the limits left: the
estimate of the overhead is an upper bound with room for the longest CRYPTO
header. What took none, the leading frames and a lone PING, is counted by
itself, and a packet of nothing else is exactly that large.
-/

namespace AsynGyanis.Quic

open Library QuicConnectionLedgers List

/-! ## Sizes -/

namespace PacketShape

/-- The estimate is an upper bound whatever the payload: its allowance for
a CRYPTO header is more than a Length field or a sample can add. -/
theorem outboundPacketByteCount_le_overhead {shape : PacketShape}
    (hnumber : 1 ≤ shape.packetNumberByteCount) (frameByteLength : Nat) :
    shape.outboundPacketByteCount frameByteLength ≤
      shape.packetOverheadByteLength + frameByteLength := by
  have hlength := quicVariableLengthIntegerByteCount_le
    (shape.packetNumberByteCount + shape.plaintextByteCount frameByteLength +
      kQuicAuthenticationTagByteLength)
  unfold outboundPacketByteCount packetOverheadByteLength plainOverheadByteLength
  simp only [plaintextByteCount, kQuicMaximumPacketNumberByteCount,
    kQuicCryptoFrameHeaderByteLimit] at hlength ⊢
  split
  · split <;> omega
  · omega

/-- A short packet padded to a target is no larger than the target, or than
its own estimate. -/
theorem outboundPacketByteCount_padded_le (shape : PacketShape)
    (hshort : shape.isLongHeader = false)
    (hnumber : 1 ≤ shape.packetNumberByteCount) (frameByteLength : Nat)
    (hframes : 3 ≤ frameByteLength) (targetByteLength : Nat) :
    shape.outboundPacketByteCount (frameByteLength +
        shape.datagramPaddingByteLength frameByteLength targetByteLength) ≤
      max targetByteLength (shape.packetOverheadByteLength + frameByteLength) := by
  have hpadding : shape.datagramPaddingByteLength frameByteLength
      targetByteLength = targetByteLength -
        (1 + shape.destinationConnectionIdLength +
          shape.packetNumberByteCount + kQuicAuthenticationTagByteLength +
          frameByteLength) := by
    simp [datagramPaddingByteLength, paddingFor, plainOverheadByteLength, hshort]
  unfold outboundPacketByteCount packetOverheadByteLength plainOverheadByteLength
  simp only [hshort, plaintextByteCount, kQuicMaximumPacketNumberByteCount,
    kQuicCryptoFrameHeaderByteLimit, Bool.false_eq_true, if_false]
  omega

end PacketShape

open PacketShape

theorem appendQuicFrame_crypto_length {frame : QuicCryptoFrame}
    {bytes out : Bytes} (h : appendQuicFrame bytes (.crypto frame) = .ok out) :
    bytes.length < out.length ∧ out.length ≤ bytes.length + 17 + frame.data.length := by
  obtain ⟨header, hheader, hlength⟩ := appendQuicRawBytes_length h
  have hints := appendQuicIntegers_length hheader
  have hoffset := quicVariableLengthIntegerByteCount_le frame.offset
  have hdata := quicVariableLengthIntegerByteCount_le frame.data.length
  have htype : quicVariableLengthIntegerByteCount 0x06 = 1 := by decide
  simp only [quicIntegersByteCount, map_cons, map_nil,
    sum_cons, sum_nil, htype] at hints
  omega

theorem appendQuicFrame_ping {bytes out : Bytes} (h : appendQuicFrame bytes .ping = .ok out) :
    out.length = bytes.length + 1 := by
  have hints : out.length = bytes.length + quicIntegersByteCount [0x01] :=
    appendQuicIntegers_length h
  exact hints

/-! ## A packet in the books -/

theorem QuicRecovery.onPacketSent_unacknowledgedOf (recovery : QuicRecovery)
    (space space' : PacketNumberSpace) (packet : QuicSentPacketInfo) :
    (recovery.onPacketSent space packet).unacknowledgedOf space' =
      if space' = space then
        (recovery.unacknowledgedOf space).insert packet.packetNumber packet
      else recovery.unacknowledgedOf space' := by
  simp only [onPacketSent, unacknowledgedOf, PerSpace.get_set]
  split <;> rfl

namespace QuicConnectionCore

variable {core : QuicConnectionCore}
variable (environment : QuicEnvironment) {contents : PacketContents}
  (now : QuicTime)

theorem replaceUnused_congr {core core' : QuicConnectionCore}
    (h : ∀ state, core'.isPathInUse state = core.isPathInUse state)
    (pathKey : QuicPathKey) (paths : List PeerPathState) :
    core'.replaceUnused pathKey paths = core.replaceUnused pathKey paths := by
  induction paths with
  | nil => rfl
  | cons state rest ih =>
    unfold replaceUnused
    rw [h, ih]

theorem admitPath_congr (core core' : QuicConnectionCore)
    (hpaths : core'.peerPaths = core.peerPaths) (hsend : core'.sendPathKey = core.sendPathKey)
    (hchallenges : core'.pendingPathChallenges = core.pendingPathChallenges)
    (pathKey : QuicPathKey) : core'.admitPath pathKey = core.admitPath pathKey := by
  have hinUse : ∀ state, core'.isPathInUse state = core.isPathInUse state := by
    intro state
    simp only [isPathInUse, hsend, hchallenges]
  simp only [admitPath, findPathState, hpaths, replaceUnused_congr hinUse]
  rfl

theorem extendIdleDeadline_eq (core : QuicConnectionCore) (isAckEliciting : Bool) (now : QuicTime) :
    ∃ deadline hasSent, core.extendIdleDeadline isAckEliciting now =
      { core with
        idleDeadline := deadline
        hasSentAckElicitingSinceReceipt := hasSent } := by
  unfold extendIdleDeadline
  repeat' split
  all_goals exact ⟨_, _, rfl⟩

theorem ledgers_emitPacket (hok : core.outboundPacketError contents.space = none) :
    (core.emitPacket contents now).ledgers =
      core.ledgers.enterSent (core.sentPacketNote contents now)
        ((core.admitPath contents.pathKey).getD core.peerPaths) := by
  unfold emitPacket
  rw [hok]
  simp only
  generalize hmiddle : setSpaceState _ contents.space _ = middle
  obtain ⟨deadline, hasSent, hextended⟩ := middle.extendIdleDeadline_eq contents.isAckEliciting now
  rw [hextended, recordSentPacket, ledgers_updatePathState]
  subst hmiddle
  unfold ledgers enterSent
  simp only [setSpaceState]
  congr 1
  · funext space
    have hspace : (core.sentPacketNote contents now).space =
        contents.space := rfl
    rw [hspace]
    simp only [spaceState, PerSpace.get_set, Function.update_apply,
      QuicRecovery.onPacketSent_unacknowledgedOf]
    split <;> rfl
  · exact QuicCongestionAlgorithm.onPacketSent_bytesInFlight _ _
  · rw [admitPath_congr core]
    all_goals rfl

theorem emitPacket_same (contents : PacketContents) (now : QuicTime)
    (hok : core.outboundPacketError contents.space = none) :
    (core.emitPacket contents now).pathMtu = core.pathMtu ∧
      (core.emitPacket contents now).exception = core.exception := by
  unfold emitPacket
  rw [hok]
  simp only
  generalize hmiddle : setSpaceState _ contents.space _ = middle
  obtain ⟨deadline, hasSent, hextended⟩ := middle.extendIdleDeadline_eq contents.isAckEliciting now
  rw [hextended, recordSentPacket]
  subst hmiddle
  exact updatePathState_same _ _ _

/-- What the size guard of the entry asks of a packet. -/
def WithinLimits (core : QuicConnectionCore) (contents : PacketContents) (now : QuicTime) : Prop :=
  core.ledgers.IsLimited contents.pathKey → core.datagramByteCount contents ≤
      max (core.amplificationLimitForPath contents.pathKey)
        (core.sentPacketNote contents now).unbudgetedByteCount

theorem packetNumberByteCount_pos (core : QuicConnectionCore) (space : PacketNumberSpace) :
    1 ≤ (core.packetShape space).packetNumberByteCount := quicPacketNumberByteCountFor_pos _

/-- A client's Initial is padded to 1200 bytes, nothing else without being
told to. -/
theorem paddingTarget_of_no_padding (hpadding : contents.padding = none) :
    core.paddingTargetByteLength contents = 0 ∨ core.paddingTargetByteLength contents =
          kQuicMinimumInitialDatagramByteLength ∧
        contents.space = .initial := by
  unfold paddingTargetByteLength
  rw [hpadding]
  split
  · next hinitial =>
    simp only [Bool.and_eq_true, beq_iff_eq] at hinitial
    exact .inr ⟨rfl, hinitial.2⟩
  · exact .inl rfl

variable {frames : Bytes}

theorem datagramByteCount_of_target {targetByteLength : Nat}
    (htarget : core.paddingTargetByteLength contents = targetByteLength) :
    core.datagramByteCount { contents with frames := frames } =
      (core.packetShape contents.space).outboundPacketByteCount
        (frames.length + if targetByteLength = 0 then 0
          else (core.packetShape contents.space).datagramPaddingByteLength
            frames.length targetByteLength) := by
  unfold datagramByteCount paddedFrames
  simp only [length_append, length_replicate]
  rw [← htarget]
  rfl

theorem datagramByteCount_of_plain (hpadding : contents.padding = none)
    (hmtu : core.pathMtu.Bounded)
    (hplain : (core.packetShape contents.space).outboundPacketByteCount contents.frames.length ≤
      core.pathMtu.maximumDatagramPayloadByteLength) :
    core.datagramByteCount contents ≤ core.pathMtu.maximumDatagramPayloadByteLength ∨
      contents.space = .initial ∧ core.datagramByteCount contents =
        kQuicMinimumInitialDatagramByteLength + 1 := by
  have hleast : 1200 ≤ core.pathMtu.maximumDatagramPayloadByteLength := hmtu.leastPayload
  rcases @paddingTarget_of_no_padding core contents hpadding with htarget | ⟨htarget, hinitial⟩
  · rw [datagramByteCount_of_target htarget, if_pos rfl]
    exact .inl hplain
  have hlong : (core.packetShape contents.space).isLongHeader := by
    rw [hinitial]
    rfl
  have hnumber := packetNumberByteCount_pos core contents.space
  rw [datagramByteCount_of_target htarget, if_neg (by decide)]
  unfold kQuicMinimumInitialDatagramByteLength
  by_cases hroom : (core.packetShape contents.space).plainOverheadByteLength 2 +
        contents.frames.length < 1200
  · have hover := outboundPacketByteCount_padded_le_succ _ hlong hnumber (by decide) hroom
    rcases Nat.lt_or_eq_of_le hover with hless | hover
    · exact .inl (Nat.le_trans (Nat.le_of_lt_succ hless) hleast)
    · exact .inr ⟨hinitial, hover⟩
  · rw [datagramPaddingByteLength_eq_zero _ (by omega)]
    exact .inl hplain

theorem isMeasured_of_plain (hpadding : contents.padding = none) (hmtu : core.pathMtu.Bounded)
    (hplain : (core.sentPacketNote contents now).unmeasuredByteCount ≤
        core.pathMtu.maximumDatagramPayloadByteLength →
      (core.packetShape contents.space).outboundPacketByteCount contents.frames.length ≤
        core.pathMtu.maximumDatagramPayloadByteLength) :
    (core.sentPacketNote contents now).IsMeasured := by
  have hnone : (core.sentPacketNote contents now).probeByteLength = none := by
    unfold sentPacketNote
    rw [hpadding]
    rfl
  unfold SentPacketNote.IsMeasured
  rw [hnone]
  exact fun h => datagramByteCount_of_plain hpadding hmtu (hplain h)

theorem isMeasured_of_fits
    (hprobe : ∀ padding, contents.padding = some padding → padding.isPathMtuProbe = false)
    (hfits : core.datagramByteCount contents ≤ core.pathMtu.maximumDatagramPayloadByteLength) :
    (core.sentPacketNote contents now).IsMeasured := by
  have hnone : (core.sentPacketNote contents now).probeByteLength = none := by
    unfold sentPacketNote
    cases hpadding : contents.padding with
    | none => rfl
    | some padding => simp [hprobe padding hpadding]
  unfold SentPacketNote.IsMeasured
  rw [hnone]
  exact fun _ => .inl hfits

theorem peerConnectionId_length_le {space : PacketNumberSpace}
    (hok : core.outboundPacketError space = none) :
    core.configuration.peerConnectionId.length ≤
      kQuicMaximumConnectionIdLength := by
  unfold outboundPacketError at hok
  simp only at hok
  split at hok
  · cases hok
  split at hok
  · cases hok
  · next hlengths => omega

theorem emitPacket_step {l : QuicConnectionLedgers} {state : SpaceLedger}
    (hl : core.ledgers = l.setSpace contents.space state)
    (htakes : (l.spaces contents.space).Takes state contents.cryptoRange)
    (hsize : core.WithinLimits contents now)
    (hmeasured : (core.sentPacketNote contents now).IsMeasured)
    (hok : core.outboundPacketError contents.space = none) :
    LedgerStep false l (core.emitPacket contents now).ledgers := by
  have hadmitted := admitPath_admitted core contents.pathKey
  have hnumber : (core.spaceState contents.space).nextPacketNumber =
      state.nextPacketNumber := by
    have h := congrArg (fun l : QuicConnectionLedgers =>
      (l.spaces contents.space).nextPacketNumber) hl
    rwa [setSpace_spaces_self] at h
  have hpaths : core.peerPaths = l.peerPaths := congrArg QuicConnectionLedgers.peerPaths hl
  have hlimit : core.amplificationLimitForPath contents.pathKey =
      l.amplificationLimitForPath contents.pathKey :=
    congrArg (fun l : QuicConnectionLedgers =>
      l.amplificationLimitForPath contents.pathKey) hl
  have hlimited : l.IsLimited contents.pathKey ↔ core.ledgers.IsLimited contents.pathKey := by
    rw [hl]
    rfl
  rw [ledgers_emitPacket now hok, hl]
  refine .send (core.sentPacketNote contents now) htakes (hpaths ▸ hadmitted)
    ?_ hlimit ?_ ?_ hmeasured
  · exact hnumber.trans htakes.books.1
  · change (core.findPathState contents.pathKey).isSome = _
    unfold findPathState QuicConnectionLedgers.findPathState
    rw [hpaths]
    rfl
  · exact fun h => hsize (hlimited.mp h)

theorem emitPacket_advances (hcrypto : contents.cryptoRange = none)
    (hsize : core.WithinLimits contents now)
    (hmeasured : core.outboundPacketError contents.space = none →
      core.pathMtu.Bounded → (core.sentPacketNote contents now).IsMeasured) :
    Advances core (core.emitPacket contents now) := by
  cases hok : core.outboundPacketError contents.space with
  | some message =>
    unfold emitPacket
    rw [hok]
    exact throw_advances core message
  | none =>
    have hself : core.ledgers = core.ledgers.setSpace contents.space
        (core.ledgers.spaces contents.space) := by
      unfold setSpace
      rw [Function.update_eq_self]
    obtain ⟨hmtu, hexception⟩ := emitPacket_same contents now hok
    refine .entry (fun hkept => emitPacket_step now hself ?_ hsize (hmeasured hok hkept.mtu) hok)
      (fun h => hmtu ▸ h) (fun h => hexception ▸ h)
    rw [hcrypto]
    exact .nothing

/-! ## Limits -/

theorem isAmplificationLimited_of_isLimited (h : core.ledgers.IsLimited core.sendPathKey) :
    core.isAmplificationLimited := by
  obtain ⟨hserver, h⟩ := h
  change core.isLocalServer = true at hserver
  change core.isAddressValidated = false ∨ _ at h
  unfold isAmplificationLimited
  rw [hserver]
  rcases h with hvalidated | ⟨hspecified, state, hstate, hunvalidated⟩
  · simp [hvalidated]
  · change core.findPathState core.sendPathKey = some state at hstate
    simp [hspecified, hstate, hunvalidated]

theorem paddedFrames_length_of_no_target (h : core.paddingTargetByteLength contents = 0) :
    (core.paddedFrames contents).length = contents.frames.length := by
  simp [paddedFrames, h]

/-- A limited connection is a server's, which pads only what it is told
to. -/
theorem paddingTarget_of_isLimited (h : core.ledgers.IsLimited contents.pathKey)
    (hpadding : contents.padding = none) : core.paddingTargetByteLength contents = 0 := by
  have hserver : core.isLocalServer := h.1
  simp [paddingTargetByteLength, hserver, hpadding]

/-- A packet without padding whose estimate was checked is within the
limits. -/
theorem withinLimits_of_estimate (hpadding : contents.padding = none)
    (h : core.ledgers.IsLimited contents.pathKey →
      (core.packetShape contents.space).packetOverheadByteLength + contents.frames.length ≤
          core.amplificationLimitForPath contents.pathKey) :
    core.WithinLimits contents now := by
  intro hlimited
  have htarget := paddingTarget_of_isLimited hlimited hpadding
  have hcount := outboundPacketByteCount_le_overhead (packetNumberByteCount_pos core contents.space)
    contents.frames.length
  refine Nat.le_trans ?_ (Nat.le_max_left _ _)
  unfold datagramByteCount
  rw [paddedFrames_length_of_no_target htarget]
  exact Nat.le_trans hcount (h hlimited)

/-! ## Closing -/

theorem queueConnectionClosePacket_advances (core : QuicConnectionCore)
    (now : QuicTime) : Advances core (core.queueConnectionClosePacket now) := by
  unfold queueConnectionClosePacket
  simp only
  split
  · exact throw_advances core _
  split
  · exact .refl core
  rename_i hblocked
  refine emitPacket_advances now rfl (withinLimits_of_estimate now rfl fun hlimited => ?_)
    fun _ hmtu => isMeasured_of_plain now rfl hmtu id
  have hon := isAmplificationLimited_of_isLimited hlimited
  simp only [isBlockedByAmplificationLimit, hon, Bool.true_and, decide_eq_true_eq] at hblocked
  exact Nat.le_of_not_lt hblocked

theorem beginClose_advances (core : QuicConnectionCore) (errorCode : Nat)
    (reasonPhrase : String) (now : QuicTime) :
    Advances core (core.beginClose errorCode reasonPhrase now) := by
  unfold beginClose
  split
  · exact .refl core
  · exact .after (queueConnectionClosePacket_advances _ now) (.quiet rfl id id)

theorem closeSilently_advances (core : QuicConnectionCore) : Advances core core.closeSilently :=
  .quiet rfl id id

/-! ## Path validation packets -/

theorem appendQuicFrame_pathFrame_length {frame : QuicFrame} {data : QuicPathValidationData}
    (hframe : frame = .pathResponse data ∨ frame = .pathChallenge data)
    (h : appendQuicFrame [] frame = .ok frames) : frames.length = 9 := by
  have hdata : data.toList.length = kQuicPathValidationDataByteLength := data.length_toList
  have hlength : ∃ type, quicVariableLengthIntegerByteCount type = 1 ∧
      appendQuicRawBytes data.toList (appendQuicIntegers [] [type]) = .ok frames := by
    rcases hframe with rfl | rfl
    · exact ⟨0x1b, rfl, h⟩
    · exact ⟨0x1a, rfl, h⟩
  obtain ⟨type, hone, htype⟩ := hlength
  obtain ⟨header, hheader, hlen⟩ := appendQuicRawBytes_length htype
  have hints := appendQuicIntegers_length hheader
  have hvalue : kQuicPathValidationDataByteLength = 8 := rfl
  simp only [quicIntegersByteCount, map_cons, map_nil,
    sum_cons, sum_nil, length_nil, hone] at hints
  omega

/-- A path frame's packet was checked by its estimate, its padding by the
target. -/
theorem pathFrame_withinLimits {pathKey : QuicPathKey}
    (now : QuicTime) (hframes : frames.length = 9)
    (hmay : core.mayEmitPathFrame frames pathKey) :
    core.WithinLimits
      { space := .application
        frames := frames
        isAckEliciting := true
        padding := core.pathValidationPadding pathKey
        pathKey := pathKey } now := by
  intro hlimited
  have hserver : core.isLocalServer := hlimited.1
  have hestimate : (core.packetShape .application).packetOverheadByteLength +
      frames.length ≤ core.amplificationLimitForPath pathKey := by
    simp only [mayEmitPathFrame, Bool.and_eq_true, decide_eq_true_eq] at hmay
    exact hmay.1
  refine Nat.le_trans ?_ (Nat.le_max_left _ _)
  unfold datagramByteCount paddedFrames paddingTargetByteLength pathValidationPadding
  simp only [hserver, Bool.not_true, Bool.false_and, Bool.false_eq_true,
    if_false, length_append, length_replicate]
  have hplain := outboundPacketByteCount_le_overhead
    (packetNumberByteCount_pos core .application) frames.length
  split
  · next padding hpadding =>
    split at hpadding
    · next hexpand =>
      injection hpadding with hpadding
      subst hpadding
      have hroom : kQuicMinimumInitialDatagramByteLength ≤
          core.amplificationLimitForPath pathKey := by
        simp only [canExpandPathValidationDatagram, Bool.and_eq_true, decide_eq_true_eq] at hexpand
        exact hexpand.1.1
      have hpadded := outboundPacketByteCount_padded_le (core.packetShape .application) rfl
        (packetNumberByteCount_pos core .application) frames.length
        (by omega) kQuicMinimumInitialDatagramByteLength
      have htarget : kQuicMinimumInitialDatagramByteLength ≠ 0 := by decide
      simp only [htarget, if_false]
      exact Nat.le_trans hpadded (Nat.max_le.mpr ⟨hroom, hestimate⟩)
    · cases hpadding
  · exact Nat.le_trans hplain hestimate

/-- A short packet of a few bytes, expanded to 1200 or not, fits. -/
theorem pathFrame_fits (hspace : contents.space = .application)
    (hframes : contents.frames.length ≤ 9)
    (hpadding : contents.padding = none ∨ contents.padding =
      some { datagramByteLength := kQuicMinimumInitialDatagramByteLength })
    (hok : core.outboundPacketError .application = none)
    (hmtu : core.pathMtu.Bounded) : core.datagramByteCount contents ≤
      core.pathMtu.maximumDatagramPayloadByteLength := by
  have hpeer := peerConnectionId_length_le hok
  have hnumber := packetNumberByteCount_pos core .application
  have hwidth : (core.packetShape .application).packetNumberByteCount ≤
      kQuicMaximumPacketNumberByteCount :=
    quicPacketNumberByteCountFor_le _
  have hdestination : (core.packetShape .application).destinationConnectionIdLength ≤ 20 := hpeer
  have hleast : 1200 ≤ core.pathMtu.maximumDatagramPayloadByteLength := hmtu.leastPayload
  have hmost := hmtu.payload
  have hshort : (core.packetShape .application).isLongHeader = false := rfl
  unfold kQuicMaximumPacketNumberByteCount at hwidth
  unfold datagramByteCount paddedFrames paddingTargetByteLength
  simp only [hspace, length_append, length_replicate]
  have hrole : (!core.isLocalServer && PacketNumberSpace.application == .initial) = false := by
    cases core.isLocalServer <;> rfl
  rw [hrole]
  rcases hpadding with hnone | hexpand
  · rw [hnone]
    simp only [Bool.false_eq_true, if_false, if_true, Nat.add_zero]
    unfold outboundPacketByteCount plaintextByteCount
      kQuicMaximumPacketNumberByteCount kQuicAuthenticationTagByteLength
    simp only [hshort, Bool.false_eq_true, if_false]
    omega
  rw [hexpand]
  have htarget : kQuicMinimumInitialDatagramByteLength ≠ 0 := by decide
  simp only [Bool.false_eq_true, if_false, htarget]
  rw [outboundPacketByteCount_expanded _ hshort _ hnumber]
  · exact hleast
  unfold kQuicAuthenticationTagByteLength kQuicMinimumInitialDatagramByteLength
  omega

theorem pathFrame_isMeasured {pathKey : QuicPathKey} (now : QuicTime) (hframes : frames.length = 9)
    (hok : core.outboundPacketError .application = none) (hmtu : core.pathMtu.Bounded) :
    (core.sentPacketNote
      { space := .application
        frames := frames
        isAckEliciting := true
        padding := core.pathValidationPadding pathKey
        pathKey := pathKey } now).IsMeasured := by
  have hpadding : core.pathValidationPadding pathKey = none ∨ core.pathValidationPadding pathKey =
        some { datagramByteLength := kQuicMinimumInitialDatagramByteLength } := by
    unfold pathValidationPadding
    split
    · exact .inr rfl
    · exact .inl rfl
  refine isMeasured_of_fits now (fun padding hsome => ?_)
    (pathFrame_fits rfl (Nat.le_of_eq hframes) hpadding hok hmtu)
  rcases hpadding with hnone | hexpand
  · rw [hnone] at hsome
    cases hsome
  rw [hexpand] at hsome
  injection hsome with hsome
  rw [← hsome]

theorem emitPathFrame_advances (core : QuicConnectionCore) {frame : QuicFrame}
    {data : QuicPathValidationData}
    (hframe : frame = .pathResponse data ∨ frame = .pathChallenge data)
    (pathKey : QuicPathKey) (now : QuicTime) :
    Advances core (core.emitPathFrame frame pathKey now).1 := by
  unfold emitPathFrame
  split
  · exact throw_advances core _
  rename_i frames hframes
  split
  · exact .refl core
  rename_i hmay
  have hlength := appendQuicFrame_pathFrame_length hframe hframes
  refine emitPacket_advances now rfl (pathFrame_withinLimits now hlength
    ?_) (pathFrame_isMeasured now hlength)
  simpa using hmay

theorem sendPathResponse_advances (acc : QuicConnectionCore × List PendingPathResponse)
    (response : PendingPathResponse) : Advances acc.1 (sendPathResponse now acc response).1 := by
  have hemit := emitPathFrame_advances acc.1 (.inl rfl :
    QuicFrame.pathResponse response.data = .pathResponse response.data ∨ _)
    response.key now
  unfold sendPathResponse
  split
  · exact .refl _
  split
  all_goals
    next heq =>
    rw [heq] at hemit
    exact hemit

theorem sendPathResponses_advances (core : QuicConnectionCore)
    (now : QuicTime) : Advances core (core.sendPathResponses now) := by
  have hfold : ∀ (responses : List PendingPathResponse)
      (acc : QuicConnectionCore × List PendingPathResponse),
      Advances acc.1 (responses.foldl (sendPathResponse now) acc).1 := by
    intro responses
    induction responses with
    | nil => exact fun acc => .refl acc.1
    | cons response rest ih =>
      exact fun acc => (sendPathResponse_advances now acc response).trans (ih _)
  unfold sendPathResponses
  exact (hfold core.pendingPathResponses (core, [])).andThen (.quiet rfl id id)

theorem sendPathChallenge_advances (core : QuicConnectionCore) (position : Nat) :
    Advances core (sendPathChallenge now core position) := by
  unfold sendPathChallenge
  split
  · exact .refl core
  rename_i challenge hchallenge
  split
  · exact .refl core
  have hemit := emitPathFrame_advances core (.inr rfl :
    QuicFrame.pathChallenge challenge.data = .pathResponse challenge.data ∨ _) challenge.key now
  split
  · next heq =>
    rw [heq] at hemit
    exact hemit
  rename_i heq
  rw [heq] at hemit
  exact hemit.andThen (.quiet rfl id id)

theorem queuePathValidationPackets_advances (core : QuicConnectionCore) (now : QuicTime) :
    Advances core (core.queuePathValidationPackets now) := by
  unfold queuePathValidationPackets
  split
  · exact .refl core
  · exact (sendPathResponses_advances core now).andThen
      (.foldl (sendPathChallenge_advances now) _ _)

/-! ## Connection IDs and the MTU probe -/

theorem issueConnectionId_advances (core : QuicConnectionCore) (isAdvertised : Bool) :
    Advances core (core.issueConnectionId environment isAdvertised) := by
  unfold issueConnectionId
  simp only
  split
  · exact .quiet rfl id id
  · exact .quiet rfl id id

theorem pathMtuProbe_isMeasured {probeByteLength : Nat}
    {pathKey : QuicPathKey} (now : QuicTime) (hframes : frames.length = 1)
    (habove : core.pathMtu.datagramPayloadByteLength < probeByteLength)
    (hok : core.outboundPacketError .application = none) (hmtu : core.pathMtu.Bounded) :
    (core.sentPacketNote
      { space := .application
        frames := frames
        isAckEliciting := true
        padding := some { datagramByteLength := probeByteLength, isPathMtuProbe := true }
        pathKey := pathKey } now).IsMeasured := by
  have hdestination : (core.packetShape .application).destinationConnectionIdLength ≤ 20 :=
    peerConnectionId_length_le hok
  have hnumber := packetNumberByteCount_pos core .application
  have hwidth : (core.packetShape .application).packetNumberByteCount ≤ 4 :=
    quicPacketNumberByteCountFor_le _
  have hleast : 1200 ≤ core.pathMtu.datagramPayloadByteLength := hmtu.leastPayload
  have hrole : (!core.isLocalServer && PacketNumberSpace.application == .initial) = false := by
    cases core.isLocalServer <;> rfl
  have htarget : probeByteLength ≠ 0 := by omega
  unfold SentPacketNote.IsMeasured sentPacketNote sentPacketRecord
    datagramByteCount paddedFrames paddingTargetByteLength
  simp only [hrole, Bool.false_eq_true, if_false, htarget, Option.bind_some,
    if_true, length_append, length_replicate]
  rw [outboundPacketByteCount_expanded _ rfl _ hnumber]
  unfold kQuicAuthenticationTagByteLength
  omega

theorem queuePathMtuProbe_advances (core : QuicConnectionCore)
    (now : QuicTime) : Advances core (core.queuePathMtuProbe now) := by
  have hdue : Advances core { core with
      pathMtu := (core.pathMtu.probeByteLengthIfDue now core.congestion.remainingByteBudget).1 } :=
    .quiet rfl (fun h => h.probeByteLengthIfDue now _) id
  unfold queuePathMtuProbe
  simp only
  split
  · exact hdue
  rename_i probeByteLength hprobe
  split
  · exact hdue.trans (throw_advances _ _)
  rename_i frames hframes
  refine hdue.trans (emitPacket_advances now rfl (fun _ => ?_) ?_)
  · exact Nat.le_max_right _ _
  · exact pathMtuProbe_isMeasured now (appendQuicFrame_ping hframes)
      (QuicPathMtuDiscovery.probeByteLengthIfDue_above hprobe)

theorem prepareOneRttPackets_advances (core : QuicConnectionCore) (now : QuicTime) :
    Advances core (core.prepareOneRttPackets environment now) := by
  refine (queuePathMtuProbe_advances core now).andThen ?_
  split
  · exact issueConnectionId_advances environment _ false
  · exact .refl _

end QuicConnectionCore

end AsynGyanis.Quic
