import AsynGyanis.Quic.Connection.SendSteps

/-!
# Filling a packet, entry by entry

Up to the CRYPTO frame filling a packet is quiet but for the ACK, which is
noted. From the CRYPTO frame on the books are one fragment away from what
they were: `Filled` says which fragment that is, and that what was filled in
keeps to the limits or is what no budget was asked for. Sending the packet
makes the entry; if nothing is sent, either nothing was taken or an
exception is on its way.
-/

namespace AsynGyanis.Quic

open Library

namespace QuicConnectionCore

/-! ## The leading frames -/

/-- The assembly so far carries nothing that a budget was asked for. -/
structure Leading (core : QuicConnectionCore) (assembly : PacketAssembly) :
    Prop where
  advances : Advances core assembly.core
  noCrypto : assembly.carriedRange = none

variable {core : QuicConnectionCore} {assembly : PacketAssembly}

theorem Leading.appendFrame (h : Leading core assembly) (frame : QuicFrame) :
    Leading core (assembly.appendFrame frame) := by
  unfold PacketAssembly.appendFrame
  split
  · exact ⟨h.advances, h.noCrypto⟩
  · exact ⟨h.advances.trans (throw_advances _ _), h.noCrypto⟩

variable {rest : PacketAssembly → PacketAssembly}

theorem Leading.andThen (h : Leading core assembly)
    (hrest : ∀ assembly, Leading core assembly → Leading core (rest assembly)) :
    Leading core (assembly.andThen rest) := by
  unfold PacketAssembly.andThen
  split
  · exact h
  · exact hrest assembly h

theorem Leading.quiet {assembly' : PacketAssembly} (h : Leading core assembly)
    (hquiet : Advances assembly.core assembly'.core)
    (hcrypto : assembly'.carriedRange = assembly.carriedRange) : Leading core assembly' :=
  ⟨h.advances.trans hquiet, hcrypto.trans h.noCrypto⟩

theorem Leading.foldl {α : Type} {step : PacketAssembly → α → PacketAssembly}
    (hstep : ∀ assembly a, Leading core assembly → Leading core (step assembly a)) (as : List α)
    (h : Leading core assembly) : Leading core (as.foldl step assembly) := by
  induction as generalizing assembly with
  | nil => exact h
  | cons a rest ih => exact ih (hstep assembly a h)

variable {space : PacketNumberSpace}

theorem noteAcknowledgement_advances {largest : Nat} (now : QuicTime)
    (hlargest : (core.spaceState space).largestAckElicitingReceived = some largest) :
    Advances core (core.noteAcknowledgement space largest now) :=
  .step (.acknowledge
    { space := space
      tracked := (core.spaceState space).receivedPacketNumbers
      acknowledgedUpTo := largest
      elapsed := core.acknowledgementElapsed space now
      ecnCounts := core.reportedEcnCounts space
      frame := core.acknowledgementFrameOf space largest now }
    rfl hlargest rfl) id id

theorem appendAcknowledgementIfPending_leading (space : PacketNumberSpace)
    (now : QuicTime) (h : Leading core assembly) :
    Leading core (appendAcknowledgementIfPending space now assembly) := by
  have hsettled : Advances assembly.core (assembly.core.setSpaceState space
      { assembly.core.spaceState space with
        isAcknowledgementPending := false }) :=
    setSpaceState_quiet fun _ => rfl
  unfold appendAcknowledgementIfPending
  simp only
  split
  · next largest hpending hlargest =>
    refine Leading.appendFrame ?_ _
    refine h.quiet ?_ rfl
    refine .after (noteAcknowledgement_advances now ?_) hsettled
    simp only [spaceState, setSpaceState, PerSpace.get_set_self]
    exact hlargest
  · exact h.quiet hsettled rfl

theorem appendIssuedConnectionId_leading (isDirty : Bool)
    (assembly : PacketAssembly) (issued : IssuedConnectionId) (h : Leading core assembly) :
    Leading core (appendIssuedConnectionId isDirty assembly issued) := by
  unfold appendIssuedConnectionId
  split
  · exact h
  · refine h.andThen fun assembly h => Leading.appendFrame ?_ _
    exact h.quiet (.refl _) rfl

theorem appendRetirementNotice_leading (assembly : PacketAssembly)
    (position : Nat) (h : Leading core assembly) :
    Leading core (appendRetirementNotice assembly position) := by
  unfold appendRetirementNotice
  split
  · exact h
  split
  · exact h
  · refine (h.andThen fun assembly h => h.appendFrame _).andThen ?_
    exact fun assembly h => h.quiet (.quiet rfl id id) rfl

theorem appendPendingConnectionIdFrames_leading (h : Leading core assembly) :
    Leading core (appendPendingConnectionIdFrames assembly) := by
  refine Leading.andThen (Leading.foldl appendRetirementNotice_leading _
    (Leading.foldl (appendIssuedConnectionId_leading _) _ h)) ?_
  intro assembly h
  unfold markConnectionIdsAdvertised
  split
  · exact h.quiet (.quiet rfl id id) rfl
  · exact h

theorem appendHandshakeDone_leading (h : Leading core assembly) :
    Leading core (appendHandshakeDone assembly) := by
  unfold appendHandshakeDone
  split
  · refine Leading.appendFrame ?_ _
    exact h.quiet (.refl _) rfl
  · exact h

/-! ## The CRYPTO fragment -/

theorem takeNextCryptoFragment_ledger (state : QuicSpaceState)
    (byteBudget : Nat) (map : SortedMap Nat QuicSentPacketInfo) :
    (takeNextCryptoFragment state byteBudget).1.ledger map =
        ((state.ledger map).takeFragment byteBudget).1 ∧
      (takeNextCryptoFragment state byteBudget).2 =
        ((state.ledger map).takeFragment byteBudget).2 := by
  unfold takeNextCryptoFragment SpaceLedger.takeFragment
  cases hpending : state.pendingRetransmissions with
  | nil =>
    simp only [QuicSpaceState.ledger, hpending]
    split <;> simp [hpending]
  | cons queuedRange rest => simp [QuicSpaceState.ledger, hpending]

theorem takeNextCryptoFragment_length {state : QuicSpaceState}
    {byteBudget : Nat} {range : QuicCryptoRange}
    (h : (takeNextCryptoFragment state byteBudget).2 = some range) :
    0 < range.endOffset - range.beginOffset ∧ range.endOffset - range.beginOffset ≤ byteBudget := by
  unfold takeNextCryptoFragment at h
  split at h
  · simp only at h
    split at h
    · cases h
    injection h with h
    subst h
    dsimp only
    omega
  simp only at h
  split at h
  · injection h with h
    subst h
    dsimp only
    omega
  · cases h

theorem cryptoFrameOf_length_le (state : QuicSpaceState)
    (range : QuicCryptoRange) : (cryptoFrameOf state range).data.length ≤
      range.endOffset - range.beginOffset := by
  exact List.length_take_le _ _

/-! ## Within the limits -/

theorem sendByteBudget_le_mtu (core : QuicConnectionCore)
    (reservedByteLength : Nat) (ignoresCongestionWindow : Bool) :
    core.sendByteBudget reservedByteLength ignoresCongestionWindow ≤
      core.pathMtu.maximumDatagramPayloadByteLength - reservedByteLength := by
  unfold sendByteBudget
  simp only [saturatingSubtract_eq]
  split <;> split <;> omega

theorem sendByteBudget_le_limit (core : QuicConnectionCore)
    (reservedByteLength : Nat) (ignoresCongestionWindow : Bool)
    (h : core.isAmplificationLimited) :
    core.sendByteBudget reservedByteLength ignoresCongestionWindow ≤
      core.amplificationLimitForPath core.sendPathKey - reservedByteLength := by
  unfold sendByteBudget amplificationRemainingByteCount
  simp only [saturatingSubtract_eq, h, if_true]
  split <;> omega

/-- An assembly from the CRYPTO frame on, `base` being the core before the
fragment was taken. The size is asked for only while no exception is on its
way: otherwise nothing is sent. -/
structure Filled (base : QuicConnectionCore) (space : PacketNumberSpace)
    (assembly : PacketAssembly) : Prop where
  books : ∃ state, (base.ledgers.spaces space).Takes state assembly.carriedRange ∧
      assembly.core.ledgers = base.ledgers.setSpace space state
  mtu : assembly.core.pathMtu = base.pathMtu
  shape : assembly.core.packetShape space = base.packetShape space
  fits : assembly.core.exception = none → base.pathMtu.Bounded →
    base.ledgers.IsLimited base.sendPathKey →
      (base.packetShape space).outboundPacketByteCount assembly.frames.length ≤
            base.amplificationLimitForPath base.sendPathKey ∨
        assembly.frames.length = assembly.unbudgetedFrameByteLength
  measured : assembly.core.exception = none →
    (base.packetShape space).plainOverheadByteLength 2 + max assembly.frames.length 3 <
        base.pathMtu.maximumDatagramPayloadByteLength ∨
      assembly.frames.length = assembly.unbudgetedFrameByteLength
  plain : assembly.core.exception = none → assembly.elicitsAcknowledgement = false →
      assembly.frames.length = assembly.unbudgetedFrameByteLength
  carried : assembly.core.exception = none → assembly.carriedRange.isSome →
    assembly.elicitsAcknowledgement = true ∧ assembly.frames ≠ []

variable {base : QuicConnectionCore}

theorem Filled.sendPathKey (h : Filled base space assembly) :
    assembly.core.sendPathKey = base.sendPathKey := by
  obtain ⟨state, -, hledgers⟩ := h.books
  exact congrArg QuicConnectionLedgers.sendPathKey hledgers

theorem Filled.limit (h : Filled base space assembly) (pathKey : QuicPathKey) :
    assembly.core.amplificationLimitForPath pathKey = base.amplificationLimitForPath pathKey := by
  obtain ⟨state, -, hledgers⟩ := h.books
  exact congrArg (fun l : QuicConnectionLedgers =>
    l.amplificationLimitForPath pathKey) hledgers

theorem Filled.isLimited (h : Filled base space assembly)
    (pathKey : QuicPathKey) : assembly.core.ledgers.IsLimited pathKey ↔
      base.ledgers.IsLimited pathKey := by
  obtain ⟨state, -, hledgers⟩ := h.books
  rw [hledgers]
  rfl

theorem setSpaceState_fragment (byteBudget : Nat) :
    (core.setSpaceState space (takeNextCryptoFragment
        (core.spaceState space) byteBudget).1).ledgers =
      core.ledgers.setSpace space ((core.ledgers.spaces space).takeFragment byteBudget).1 := by
  rw [ledgers_setSpaceState, (takeNextCryptoFragment_ledger _ _ _).1]
  rfl

theorem appendCrypto_filled (space : PacketNumberSpace)
    (isProbingSpace : Bool) (assembly : PacketAssembly) :
    Filled assembly.core space (appendCrypto space isProbingSpace assembly) := by
  unfold appendCrypto
  simp only
  generalize hbudget : assembly.core.sendByteBudget
    (reservedByteLength space assembly) isProbingSpace = byteBudget
  have hledgers : (assembly.core.setSpaceState space
      (takeNextCryptoFragment (assembly.core.spaceState space)
        byteBudget).1).ledgers = _ := setSpaceState_fragment byteBudget
  have hrange : (takeNextCryptoFragment (assembly.core.spaceState space)
      byteBudget).2 = ((assembly.core.ledgers.spaces space).takeFragment
        byteBudget).2 := (takeNextCryptoFragment_ledger _ _ _).2
  have htakes : (assembly.core.ledgers.spaces space).Takes
      ((assembly.core.ledgers.spaces space).takeFragment byteBudget).1
      (takeNextCryptoFragment (assembly.core.spaceState space)
        byteBudget).2 := hrange ▸ .fragment byteBudget
  have hshape : (assembly.core.setSpaceState space (takeNextCryptoFragment
      (assembly.core.spaceState space) byteBudget).1).packetShape space =
        assembly.core.packetShape space := by
    have hnumber := congrArg (fun l : QuicConnectionLedgers =>
      (l.spaces space).nextPacketNumber) hledgers
    simp only [QuicConnectionLedgers.setSpace_spaces_self,
      (SpaceLedger.takeFragment_books _ _).1] at hnumber
    change ((assembly.core.setSpaceState space _).spaceState
      space).nextPacketNumber = (assembly.core.spaceState space).nextPacketNumber at hnumber
    unfold packetShape
    rw [hnumber]
    rfl
  generalize htaken : takeNextCryptoFragment (assembly.core.spaceState space)
    byteBudget = taken at hledgers htakes hshape
  cases hcarried : taken.2 with
  | none =>
    rw [hcarried] at htakes
    exact ⟨⟨_, htakes, hledgers⟩, rfl, hshape,
      fun _ _ _ => .inr rfl, fun _ => .inr rfl, fun _ _ => rfl,
      fun _ h => by cases h⟩
  | some range =>
    rw [hcarried] at htakes
    have hlength := takeNextCryptoFragment_length (htaken ▸ hcarried)
    have hdata := cryptoFrameOf_length_le taken.1 range
    unfold PacketAssembly.appendFrame
    simp only
    split
    · next frames hframes =>
      have hgrown := appendQuicFrame_crypto_length hframes
      refine ⟨⟨_, htakes, hledgers⟩, rfl, hshape, fun _ hmtu hlimited => ?_,
        fun _ => .inl ?_, fun _ h => by simp at h, fun _ _ => ⟨rfl, ?_⟩⟩
      · refine .inl ?_
        have hon := isAmplificationLimited_of_isLimited hlimited
        have hbelowLimit := sendByteBudget_le_limit assembly.core
          (reservedByteLength space assembly) isProbingSpace hon
        have hbelowMtu := sendByteBudget_le_mtu assembly.core
          (reservedByteLength space assembly) isProbingSpace
        have hpayload := hmtu.payload
        rw [hbudget] at hbelowLimit hbelowMtu
        simp only [reservedByteLength, PacketShape.packetOverheadByteLength,
          kQuicCryptoFrameHeaderByteLimit,
          QuicPathMtuDiscovery.maximumDatagramPayloadByteLength,
          kLargestProbedDatagramPayloadByteLength]
          at hbelowLimit hbelowMtu hpayload
        have hplain := (assembly.core.packetShape space).packetNumberByteCount_add_le
        refine Nat.le_trans (PacketShape.outboundPacketByteCount_le
          (packetNumberByteCount_pos assembly.core space) ?_) ?_
        · dsimp only [kQuicMaximumTwoByteIntegerValue] at hgrown ⊢
          omega
        · dsimp only at hgrown ⊢
          omega
      · have hbelowMtu := sendByteBudget_le_mtu assembly.core
          (reservedByteLength space assembly) isProbingSpace
        rw [hbudget] at hbelowMtu
        simp only [reservedByteLength, PacketShape.packetOverheadByteLength,
          kQuicCryptoFrameHeaderByteLimit] at hbelowMtu
        dsimp only at hgrown ⊢
        omega
      · intro hnil
        have hpos := hgrown.1
        dsimp only at hnil
        rw [hnil] at hpos
        exact absurd hpos (Nat.not_lt_zero _)
    · next message hmessage =>
      refine ⟨⟨_, htakes, hledgers⟩, rfl, hshape, ?_, ?_, ?_, ?_⟩
      all_goals intro h; cases h

/-! ## Stream frames and the PING -/

variable {base : QuicConnectionCore} {space : PacketNumberSpace}

theorem appendStreamFrames_filled (isProbingSpace : Bool) (h : Filled base space assembly)
    (hok : assembly.core.exception = none) :
    Filled base space (appendStreamFrames space isProbingSpace assembly) := by
  unfold appendStreamFrames
  split
  · exact h
  simp only
  generalize hbudget : assembly.core.sendByteBudget
    (reservedByteLength space assembly) isProbingSpace = byteBudget
  have hwithin := @collectFrames_within assembly.core.streams assembly.frames byteBudget
  have hwithout := @collectFrames_without_frames assembly.core.streams assembly.frames byteBudget
  have hgrows := @collectFrames_grows assembly.core.streams assembly.frames byteBudget
  generalize assembly.core.streams.collectFrames assembly.frames byteBudget =
    collected at hwithin hwithout hgrows
  refine ⟨h.books, h.mtu, h.shape, fun _ hmtu hlimited => ?_, fun _ => ?_,
    fun _ hplain => ?_, fun _ hcarried => ?_⟩
  · by_cases hsame : collected.frames.length = assembly.frames.length
    · rw [hsame]
      exact h.fits hok hmtu hlimited
    refine .inl (Nat.le_trans
      (PacketShape.outboundPacketByteCount_le_overhead (packetNumberByteCount_pos base space) _) ?_)
    have hlimited' : assembly.core.ledgers.IsLimited
        assembly.core.sendPathKey := by
      rw [h.sendPathKey, h.isLimited]
      exact hlimited
    have hbelow := sendByteBudget_le_limit assembly.core
      (reservedByteLength space assembly) isProbingSpace
      (isAmplificationLimited_of_isLimited hlimited')
    rw [hbudget, h.sendPathKey, h.limit] at hbelow
    simp only [reservedByteLength, h.shape] at hbelow
    dsimp only
    omega
  · by_cases hsame : collected.frames.length = assembly.frames.length
    · rw [hsame]
      exact h.measured hok
    have hbelow := sendByteBudget_le_mtu assembly.core
      (reservedByteLength space assembly) isProbingSpace
    rw [hbudget, h.mtu] at hbelow
    simp only [reservedByteLength, h.shape,
      PacketShape.packetOverheadByteLength, kQuicCryptoFrameHeaderByteLimit]
      at hbelow
    dsimp only
    omega
  · simp only [Bool.or_eq_false_iff] at hplain
    exact (hwithout hplain.2).trans (h.plain hok hplain.1)
  · obtain ⟨helicits, hne⟩ := h.carried hok hcarried
    refine ⟨by simp [helicits], fun hnil => hne ?_⟩
    dsimp only at hnil
    rw [hnil] at hgrows
    exact List.eq_nil_of_length_eq_zero (Nat.le_zero.mp hgrows)

theorem appendProbe_filled (h : Filled base space assembly) (hok : assembly.core.exception = none) :
    Filled base space (appendProbe assembly) := by
  unfold appendProbe
  split
  · exact h
  have hsettle : ∀ pinged : PacketAssembly, Filled base space pinged →
      Filled base space (pinged.andThen fun assembly =>
        { assembly with
          owesProbe := false
          core := { assembly.core with probeSpace := none } }) := by
    intro pinged hpinged
    unfold PacketAssembly.andThen
    split
    · exact hpinged
    · exact ⟨hpinged.books, hpinged.mtu, hpinged.shape, hpinged.fits,
        hpinged.measured, hpinged.plain, hpinged.carried⟩
  refine hsettle _ ?_
  split
  · exact h
  rename_i hplain
  have hlone := h.plain hok (by simpa using hplain)
  have hcarried : assembly.carriedRange.isSome = false := by
    cases hsome : assembly.carriedRange.isSome with
    | false => rfl
    | true => exact absurd (h.carried hok hsome).1 hplain
  unfold PacketAssembly.appendFrame
  split
  · next frames hframes =>
    have hone := appendQuicFrame_ping hframes
    refine ⟨h.books, h.mtu, h.shape, fun _ _ _ => .inr ?_,
      fun _ => .inr ?_, fun _ h => by simp at h, fun _ hsome => ?_⟩
    · dsimp only at hone ⊢
      omega
    · dsimp only at hone ⊢
      omega
    · rw [hcarried] at hsome
      cases hsome
  · refine ⟨h.books, h.mtu, h.shape, ?_, ?_, ?_, ?_⟩
    all_goals intro h; cases h

/-! ## One packet -/

theorem Filled.andThen (h : Filled base space assembly)
    (hrest : assembly.core.exception = none → Filled base space (rest assembly)) :
    Filled base space (assembly.andThen rest) := by
  unfold PacketAssembly.andThen
  split
  · exact h
  · next hok => exact hrest (by simpa using hok)

/-- Nothing is sent after this: what was taken was nothing, or it goes down
with the call. -/
theorem Filled.abandoned (h : Filled base space assembly) (hok : base.exception = none)
    (hlost : assembly.carriedRange = none ∨ assembly.core.exception.isSome) :
    Advances base assembly.core := by
  obtain ⟨state, htakes, hledgers⟩ := h.books
  have hstep : LedgerStep assembly.core.exception.isSome base.ledgers
      assembly.core.ledgers := by
    rw [hledgers]
    exact .takeFragment space hlost htakes
  refine ⟨fun hkept => ⟨h.mtu ▸ hkept.mtu, hstep.keyed hkept.keyed⟩,
    fun hthrows => by simp [hok] at hthrows,
    fun _ => Relation.ReflTransGen.single hstep⟩

theorem Filled.withinLimits (h : Filled base space assembly) (now : QuicTime)
    (hmtu : base.pathMtu.Bounded) (hok : assembly.core.exception = none)
    (hne : assembly.frames ≠ []) :
    assembly.core.WithinLimits (contentsOf space assembly) now := by
  intro hlimited
  have hlimited' : base.ledgers.IsLimited base.sendPathKey := by
    rw [← h.sendPathKey, ← h.isLimited]
    exact hlimited
  have htarget := paddingTarget_of_isLimited hlimited rfl
  have hcount : assembly.core.datagramByteCount (contentsOf space assembly) =
      (base.packetShape space).outboundPacketByteCount
        assembly.frames.length := by
    unfold datagramByteCount
    rw [paddedFrames_length_of_no_target htarget, ← h.shape]
    rfl
  rw [hcount]
  rcases h.fits hok hmtu hlimited' with hfits | hlone
  · refine Nat.le_trans hfits (Nat.le_trans ?_ (Nat.le_max_left _ _))
    change _ ≤ assembly.core.amplificationLimitForPath assembly.core.sendPathKey
    rw [h.limit, h.sendPathKey]
  refine Nat.le_trans ?_ (Nat.le_max_right _ _)
  have hpos : assembly.unbudgetedFrameByteLength ≠ 0 := by
    intro hzero
    exact hne (List.eq_nil_of_length_eq_zero (hlone.trans hzero))
  have hnoted : (assembly.core.sentPacketNote (contentsOf space assembly)
      now).unbudgetedByteCount = (assembly.core.packetShape space).outboundPacketByteCount
          assembly.unbudgetedFrameByteLength := if_neg hpos
  rw [hnoted, h.shape, hlone]

theorem Filled.isMeasured (h : Filled base space assembly) (now : QuicTime)
    (hmtu : base.pathMtu.Bounded) (hok : assembly.core.exception = none) :
    (assembly.core.sentPacketNote (contentsOf space assembly) now).IsMeasured := by
  refine isMeasured_of_plain now rfl (h.mtu ▸ hmtu) fun hunmeasured => ?_
  rcases h.measured hok with hfits | hlone
  · rw [← h.shape, ← h.mtu] at hfits
    have hpayload : assembly.core.pathMtu.maximumDatagramPayloadByteLength ≤
        8952 := (h.mtu ▸ hmtu : assembly.core.pathMtu.Bounded).payload
    have hplain := (assembly.core.packetShape space).packetNumberByteCount_add_le
    refine Nat.le_trans (PacketShape.outboundPacketByteCount_le
      (packetNumberByteCount_pos assembly.core space) ?_) (Nat.le_of_lt hfits)
    change (assembly.core.packetShape space).packetNumberByteCount +
      max assembly.frames.length 3 + _ ≤ 16383
    omega
  · exact hlone ▸ hunmeasured

theorem Filled.sent (h : Filled base space assembly) (now : QuicTime)
    (hbase : base.exception = none)
    (hok : assembly.core.exception = none) (hne : assembly.frames ≠ []) :
    Advances base (assembly.core.emitPacket (contentsOf space assembly) now) := by
  cases herror : assembly.core.outboundPacketError space with
  | some message =>
    have hthrown : assembly.core.emitPacket (contentsOf space assembly) now =
        assembly.core.throw message := by
      unfold emitPacket
      rw [show (contentsOf space assembly).space = space from rfl, herror]
    have hfilled : Filled base space { assembly with core := assembly.core.throw message } := by
      refine ⟨h.books, h.mtu, h.shape, ?_, ?_, ?_, ?_⟩
      all_goals intro h; cases h
    rw [hthrown]
    exact hfilled.abandoned hbase (.inr rfl)
  | none =>
    obtain ⟨state, htakes, hledgers⟩ := h.books
    obtain ⟨hmtu, hexception⟩ := emitPacket_same (contentsOf space assembly) now herror
    refine .entry (fun hkept => emitPacket_step now hledgers htakes
        (h.withinLimits now hkept.mtu hok hne)
        (h.isMeasured now hkept.mtu hok) herror)
      (fun hbounded => ?_) (fun hthrows => by simp [hbase] at hthrows)
    rw [hmtu, h.mtu]
    exact hbounded

/-! ## The rounds -/

theorem assemblePacket_filled (space : PacketNumberSpace)
    (isProbingSpace : Bool) (now : QuicTime) (assembly : PacketAssembly)
    (h : Leading core assembly) :
    (assemblePacket space isProbingSpace now assembly).core.exception.isSome ∧
        Advances core (assemblePacket space isProbingSpace now assembly).core ∨
      ∃ base, Advances core base ∧ base.exception = none ∧ Filled base space
          (assemblePacket space isProbingSpace now assembly) := by
  unfold assemblePacket
  simp only
  have hacknowledged := appendAcknowledgementIfPending_leading space now h
  generalize appendAcknowledgementIfPending space now assembly = acknowledged at hacknowledged
  have hidentified : Leading core (if space = .application then
      acknowledged.andThen appendPendingConnectionIdFrames
        else acknowledged) := by
    split
    · exact hacknowledged.andThen fun _ => appendPendingConnectionIdFrames_leading
    · exact hacknowledged
  generalize (if space = .application then
    acknowledged.andThen appendPendingConnectionIdFrames
      else acknowledged) = identified at hidentified
  have hannounced := hidentified.andThen fun _ => appendHandshakeDone_leading
  generalize identified.andThen appendHandshakeDone = announced at hannounced
  cases hthrows : announced.core.exception with
  | some message =>
    have hstays : ∀ rest, announced.andThen rest = announced := by
      intro rest
      simp [PacketAssembly.andThen, hthrows]
    rw [hstays, hstays, hstays]
    exact .inl ⟨by simp [hthrows], hannounced.advances⟩
  | none =>
    refine .inr ⟨announced.core, hannounced.advances, hthrows, ?_⟩
    have hcrypto : announced.andThen (appendCrypto space isProbingSpace) =
        appendCrypto space isProbingSpace announced := by
      simp [PacketAssembly.andThen, hthrows]
    rw [hcrypto]
    exact ((appendCrypto_filled space isProbingSpace announced).andThen
      fun hok => appendStreamFrames_filled isProbingSpace
        (appendCrypto_filled space isProbingSpace announced) hok).andThen
      fun hok => appendProbe_filled ((appendCrypto_filled space
        isProbingSpace announced).andThen fun hok =>
          appendStreamFrames_filled isProbingSpace
            (appendCrypto_filled space isProbingSpace announced) hok) hok

theorem sendSpacePacket_advances (space : PacketNumberSpace)
    (isProbingSpace : Bool) (now : QuicTime) (assembly : PacketAssembly) :
    Advances assembly.core (sendSpacePacket space isProbingSpace now assembly).1.core := by
  unfold sendSpacePacket
  simp only
  have hassembled := assemblePacket_filled space isProbingSpace now
    { core := assembly.core
      owesHandshakeDone := assembly.owesHandshakeDone
      owesProbe := assembly.owesProbe } ⟨.refl _, rfl⟩
  generalize assemblePacket space isProbingSpace now _ = assembled at hassembled
  rcases hassembled with ⟨hthrows, hadvances⟩ | ⟨base, hbase, hok, hfilled⟩
  · rw [hthrows]
    exact hadvances
  split
  · next hstop =>
    refine hbase.trans (hfilled.abandoned hok ?_)
    cases hexception : assembled.core.exception with
    | some message => exact .inr rfl
    | none =>
      refine .inl ?_
      cases hcarried : assembled.carriedRange with
      | none => rfl
      | some range =>
        have hne := (hfilled.carried hexception (by simp [hcarried])).2
        simp [hexception, hne] at hstop
  · next hgo =>
    simp only [Bool.or_eq_true, not_or, Bool.not_eq_true,
      Option.isSome_eq_false_iff, Option.isNone_iff_eq_none] at hgo
    refine hbase.trans (hfilled.sent now hok hgo.1 fun hnil => ?_)
    simp [hnil] at hgo

theorem sendSpacePackets_advances (space : PacketNumberSpace)
    (isProbingSpace : Bool) (now : QuicTime) (rounds : Nat) (assembly : PacketAssembly) :
    Advances assembly.core (sendSpacePackets space isProbingSpace now rounds assembly).core := by
  induction rounds generalizing assembly with
  | zero => exact .refl _
  | succ rounds ih =>
    have hone := sendSpacePacket_advances space isProbingSpace now assembly
    unfold sendSpacePackets
    split
    · next assembly' heq =>
      rw [heq] at hone
      exact hone
    rename_i assembly' heq
    rw [heq] at hone
    unfold PacketAssembly.andThen
    split
    · exact hone
    · exact hone.trans (ih assembly')

theorem queueSpacePackets_advances (environment : QuicEnvironment)
    (rounds : Nat) (now : QuicTime) (core : QuicConnectionCore) (space : PacketNumberSpace) :
    Advances core (core.queueSpacePackets environment rounds now space) := by
  unfold queueSpacePackets
  split
  · exact .refl core
  split
  · exact .refl core
  have hprepared : Advances core (if space = .application then
      core.prepareOneRttPackets environment now else core) := by
    split
    · exact prepareOneRttPackets_advances environment core now
    · exact .refl core
  refine hprepared.andThen ?_
  exact sendSpacePackets_advances space _ now rounds
    { core := _, owesHandshakeDone := _, owesProbe := _ }

end QuicConnectionCore

end AsynGyanis.Quic
