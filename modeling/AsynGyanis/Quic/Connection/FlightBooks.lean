import AsynGyanis.Quic.Connection.RunSteps

/-!
# Two ledgers, one quantity

Loss recovery and congestion control each keep the number of bytes under
way. Recovery counts every packet it still waits for, congestion control
only those that elicit an acknowledgement, and it subtracts with a floor at
zero, so that a packet told to one of them and not to the other would never
show. `FlightBooks` ties both to the same list: the packets sent are, each
exactly once, the packets resolved and the packets the spaces still hold,
and either count is the sum of the sizes of the latter.

With the counts exact no subtraction can reach the floor, which
`bytesInFlight_conserved` says in a form that would betray a single
saturated subtraction anywhere in the run.
-/

namespace AsynGyanis.Quic

open Library List QuicCongestionAlgorithm QuicConnectionLedgers

/-! ## Packets of all spaces -/

/-- The packets the spaces still wait for. -/
def unresolvedOf (spaces : PacketNumberSpace → SpaceLedger) :
    List (PacketNumberSpace × QuicSentPacketInfo) :=
  [PacketNumberSpace.initial, .handshake, .application].flatMap fun space =>
    (spaces space).unacknowledged.values.map fun packet => (space, packet)

def byteCountOf (packets : List (PacketNumberSpace × QuicSentPacketInfo)) :
    Nat :=
  (packets.map fun entry => entry.2.byteCount).sum

/-- What congestion control counts of a packet. -/
def countedByteCount (packet : QuicSentPacketInfo) : Nat :=
  if packet.isAckEliciting then packet.byteCount else 0

def countedByteCountOf (packets : List (PacketNumberSpace × QuicSentPacketInfo)) : Nat :=
  (packets.map fun entry => countedByteCount entry.2).sum

namespace QuicConnectionHistory

def sent (history : QuicConnectionHistory) : List (PacketNumberSpace × QuicSentPacketInfo) :=
  history.sentPackets.map fun note => (note.space, note.packet)

def resolved (history : QuicConnectionHistory) : List (PacketNumberSpace × QuicSentPacketInfo) :=
  history.resolvedPackets.map fun note => (note.space, note.packet)

end QuicConnectionHistory

open QuicConnectionHistory

theorem unresolvedOf_update (spaces : PacketNumberSpace → SpaceLedger) (space : PacketNumberSpace) :
    ∃ rest, ∀ state, (unresolvedOf (Function.update spaces space state)).Perm
      (state.unacknowledged.values.map (fun packet => (space, packet)) ++ rest) := by
  unfold unresolvedOf
  simp only [flatMap_cons, flatMap_nil, append_nil]
  cases space with
  | initial =>
    exact ⟨_, fun state => by
      simp only [Function.update_self, Function.update_of_ne, ne_eq,
        reduceCtorEq, not_false_eq_true]
      exact List.Perm.refl _⟩
  | handshake =>
    exact ⟨_, fun state => by
      simp only [Function.update_self, Function.update_of_ne, ne_eq,
        reduceCtorEq, not_false_eq_true]
      exact perm_append_comm_assoc _ _ _⟩
  | application =>
    exact ⟨_, fun state => by
      simp only [Function.update_self, Function.update_of_ne, ne_eq,
        reduceCtorEq, not_false_eq_true]
      rw [← append_assoc]
      exact perm_append_comm⟩

theorem unresolvedOf_congr {spaces spaces' : PacketNumberSpace → SpaceLedger}
    (h : ∀ space, (spaces' space).unacknowledged = (spaces space).unacknowledged) :
    unresolvedOf spaces' = unresolvedOf spaces := by
  unfold unresolvedOf
  simp only [h]

theorem writeOffBytes_eq (packets : List QuicSentPacketInfo) (bytesInFlight : Nat) :
    writeOffBytes packets bytesInFlight = bytesInFlight - (packets.map countedByteCount).sum := by
  unfold writeOffBytes
  induction packets generalizing bytesInFlight with
  | nil => rfl
  | cons packet rest ih =>
    rw [foldl_cons, ih, map_cons, sum_cons]
    unfold countedByteCount
    split
    · rw [saturatingSubtract_eq, Nat.sub_add_eq]
    · rw [Nat.zero_add]

variable {packets packets' : List (PacketNumberSpace × QuicSentPacketInfo)}

theorem byteCountOf_perm
    (h : packets.Perm packets') : byteCountOf packets = byteCountOf packets' := (h.map _).sum_eq

theorem countedByteCountOf_perm (h : packets.Perm packets') :
    countedByteCountOf packets = countedByteCountOf packets' := (h.map _).sum_eq

theorem byteCountOf_append (packets packets' : List (PacketNumberSpace × QuicSentPacketInfo)) :
    byteCountOf (packets ++ packets') = byteCountOf packets + byteCountOf packets' := by
  simp [byteCountOf]

theorem countedByteCountOf_append
    (packets packets' : List (PacketNumberSpace × QuicSentPacketInfo)) :
    countedByteCountOf (packets ++ packets') =
      countedByteCountOf packets + countedByteCountOf packets' := by
  simp [countedByteCountOf]

theorem byteCountOf_inSpace (space : PacketNumberSpace) (packets : List QuicSentPacketInfo) :
    byteCountOf (packets.map fun packet => (space, packet)) = totalByteCount packets := by
  simp [byteCountOf, totalByteCount, Function.comp_def]

theorem countedByteCountOf_inSpace (space : PacketNumberSpace) (packets : List QuicSentPacketInfo) :
    countedByteCountOf (packets.map fun packet => (space, packet)) =
      (packets.map countedByteCount).sum := by
  simp [countedByteCountOf, Function.comp_def]

/-! ## The invariant -/

structure FlightBooks (l : QuicConnectionLedgers) : Prop where
  keyed : l.KeyedSpaces
  fresh : ∀ note ∈ l.history.sentPackets,
    note.packet.packetNumber < (l.spaces note.space).nextPacketNumber
  once : (l.history.sentPackets.map fun note =>
    (note.space, note.packet.packetNumber)).Nodup
  split : l.history.sent.Perm (l.history.resolved ++ unresolvedOf l.spaces)
  inFlight : l.inFlightByteCount = byteCountOf (unresolvedOf l.spaces)
  bytesInFlight : l.bytesInFlight = countedByteCountOf (unresolvedOf l.spaces)

namespace FlightBooks

variable {l l' : QuicConnectionLedgers}

theorem congr (h : FlightBooks l)
    (hunacknowledged : ∀ space, (l'.spaces space).unacknowledged = (l.spaces space).unacknowledged)
    (hnext : ∀ space, (l'.spaces space).nextPacketNumber = (l.spaces space).nextPacketNumber)
    (hinFlight : l'.inFlightByteCount = l.inFlightByteCount)
    (hbytes : l'.bytesInFlight = l.bytesInFlight)
    (hsent : l'.history.sentPackets = l.history.sentPackets)
    (hresolved : l'.history.resolvedPackets = l.history.resolvedPackets) : FlightBooks l' where
  keyed := fun space => hunacknowledged space ▸ h.keyed space
  fresh := fun note hnote => hnext note.space ▸ h.fresh note (hsent ▸ hnote)
  once := hsent ▸ h.once
  split := by
    have := h.split
    unfold sent resolved at *
    rw [hsent, hresolved, unresolvedOf_congr hunacknowledged]
    exact this
  inFlight := by
    rw [hinFlight, unresolvedOf_congr hunacknowledged, h.inFlight]
  bytesInFlight := by
    rw [hbytes, unresolvedOf_congr hunacknowledged, h.bytesInFlight]

variable {state : SpaceLedger} {space : PacketNumberSpace}

theorem setSpace (h : FlightBooks l)
    (hunacknowledged : state.unacknowledged = (l.spaces space).unacknowledged)
    (hnext : state.nextPacketNumber = (l.spaces space).nextPacketNumber) :
    FlightBooks (l.setSpace space state) := by
  refine h.congr (fun space' => ?_) (fun space' => ?_) rfl rfl rfl rfl
  all_goals
    by_cases heq : space' = space
    · subst heq
      rw [setSpace_spaces_self]
      assumption
    · rw [setSpace_spaces_of_ne state heq]

theorem takePackets (h : FlightBooks l) {packets : List QuicSentPacketInfo}
    {notes : List ResolvedPacketNote}
    (hspaces : l'.spaces = Function.update l.spaces space state)
    (hvalues : (l.spaces space).unacknowledged.values.Perm (packets ++ state.unacknowledged.values))
    (hkeyed : Keyed state.unacknowledged)
    (hnext : state.nextPacketNumber = (l.spaces space).nextPacketNumber)
    (hinFlight : l'.inFlightByteCount = l.inFlightByteCount - totalByteCount packets)
    (hbytes : l'.bytesInFlight = writeOffBytes packets l.bytesInFlight)
    (hsent : l'.history.sentPackets = l.history.sentPackets)
    (hresolved : l'.history.resolvedPackets = l.history.resolvedPackets ++ notes)
    (hnotes : notes.map (fun note => (note.space, note.packet)) =
      packets.map fun packet => (space, packet)) : FlightBooks l':= by
  obtain ⟨rest, hrest⟩ := unresolvedOf_update l.spaces space
  have hbefore : (unresolvedOf l.spaces).Perm
      (packets.map (fun packet => (space, packet)) ++ unresolvedOf l'.spaces) := by
    have hself := hrest (l.spaces space)
    rw [Function.update_eq_self] at hself
    have hmapped := hvalues.map fun packet => (space, packet)
    rw [map_append] at hmapped
    refine (hself.trans (hmapped.append_right rest)).trans ?_
    rw [append_assoc, hspaces]
    exact (hrest state).symm.append_left _
  refine ⟨fun space' => ?_, fun note hnote => ?_, hsent ▸ h.once, ?_, ?_, ?_⟩
  · rw [hspaces]
    by_cases heq : space' = space
    · subst heq
      rwa [Function.update_self]
    · rw [Function.update_of_ne heq]
      exact h.keyed space'
  · rw [hspaces]
    by_cases heq : note.space = space
    · rw [heq, Function.update_self, hnext, ← heq]
      exact h.fresh note (hsent ▸ hnote)
    · rw [Function.update_of_ne heq]
      exact h.fresh note (hsent ▸ hnote)
  · have hsplit := h.split
    unfold sent resolved at *
    rw [hsent, hresolved, map_append, hnotes, append_assoc]
    exact hsplit.trans (hbefore.append_left _)
  · have hsum := byteCountOf_perm hbefore
    rw [byteCountOf_append, byteCountOf_inSpace] at hsum
    rw [hinFlight, h.inFlight, hsum]
    omega
  · have hsum := countedByteCountOf_perm hbefore
    rw [countedByteCountOf_append, countedByteCountOf_inSpace] at hsum
    rw [hbytes, writeOffBytes_eq, h.bytesInFlight, hsum]
    omega

theorem sent_of_held (h : FlightBooks l) {number : Nat} {packet : QuicSentPacketInfo}
    (hheld : (l.spaces space).unacknowledged.find? number = some packet) :
    ∃ note ∈ l.history.sentPackets, note.space = space ∧ note.packet = packet := by
  have hmem : (space, packet) ∈ unresolvedOf l.spaces := by
    refine mem_flatMap.mpr ⟨space, ?_, mem_map.mpr
      ⟨packet, SortedMap.mem_values_iff.mpr ⟨number, hheld⟩, rfl⟩⟩
    cases space <;> simp
  obtain ⟨note, hnote, heq⟩ := mem_map.mp (h.split.mem_iff.mpr (mem_append_right _ hmem))
  exact ⟨note, hnote, congrArg Prod.fst heq, congrArg Prod.snd heq⟩

theorem next_not_held (h : FlightBooks l) (space : PacketNumberSpace) :
    (l.spaces space).unacknowledged.find? (l.spaces space).nextPacketNumber =
      none := by
  cases hheld : (l.spaces space).unacknowledged.find? (l.spaces space).nextPacketNumber with
  | none => rfl
  | some packet =>
    obtain ⟨note, hnote, hspace, hpacket⟩ := h.sent_of_held hheld
    have hfresh := h.fresh note hnote
    have hnumber := h.keyed space _ packet hheld
    rw [hspace, hpacket, hnumber] at hfresh
    exact absurd hfresh (Nat.lt_irrefl _)

theorem enterSent (h : FlightBooks l) (note : SentPacketNote) (paths : List PeerPathState)
    (hnumber : note.packet.packetNumber = (l.spaces note.space).nextPacketNumber) :
    FlightBooks (l.enterSent note paths) := by
  have hnone := h.next_not_held note.space
  rw [← hnumber] at hnone
  obtain ⟨rest, hrest⟩ := unresolvedOf_update l.spaces note.space
  have hentered : (unresolvedOf (l.enterSent note paths).spaces).Perm
      ((note.space, note.packet) :: unresolvedOf l.spaces) := by
    have hself := hrest (l.spaces note.space)
    rw [Function.update_eq_self] at hself
    have hvalues := (SortedMap.values_insert_perm note.packet hnone).map
      fun packet => (note.space, packet)
    refine (hrest _).trans ((hvalues.append_right rest).trans ?_)
    exact hself.symm.cons _
  refine ⟨fun space => ?_, fun other hother => ?_, ?_, ?_, ?_, ?_⟩
  · unfold QuicConnectionLedgers.enterSent
    by_cases heq : space = note.space
    · subst heq
      simp only [Function.update_self]
      exact (h.keyed note.space).insert note.packet
    · simp only [Function.update_of_ne heq]
      exact h.keyed space
  · have hlt : other ∈ l.history.sentPackets → other.packet.packetNumber <
          (l.spaces other.space).nextPacketNumber := h.fresh other
    unfold QuicConnectionLedgers.enterSent at hother ⊢
    rcases mem_append.mp hother with hother | hother
    · have hold := hlt hother
      by_cases heq : other.space = note.space
      · rw [heq] at hold
        simp only [heq, Function.update_self]
        omega
      · simp only [Function.update_of_ne heq]
        exact hold
    · rw [mem_singleton.mp hother]
      simp only [Function.update_self]
      omega
  · unfold QuicConnectionLedgers.enterSent
    rw [map_append, nodup_append]
    refine ⟨h.once, nodup_singleton _, fun a ha b hb hab => ?_⟩
    obtain ⟨other, hother, rfl⟩ := mem_map.mp ha
    rw [map_cons, map_nil, mem_singleton] at hb
    rw [hb, Prod.mk.injEq] at hab
    have hold := h.fresh other hother
    rw [hab.1, hab.2, hnumber] at hold
    exact absurd hold (Nat.lt_irrefl _)
  · have hsent : (l.enterSent note paths).history.sent =
        l.history.sent ++ [(note.space, note.packet)] := by
      unfold QuicConnectionHistory.sent QuicConnectionLedgers.enterSent
      rw [map_append, map_cons, map_nil]
    rw [hsent]
    refine (h.split.append_right _).trans ?_
    rw [append_assoc]
    refine List.Perm.append_left _ ?_
    exact perm_append_comm.trans hentered.symm
  · have hsum := byteCountOf_perm hentered
    unfold QuicConnectionLedgers.enterSent at hsum ⊢
    simp only [hnone, hsum, h.inFlight]
    simp [byteCountOf, Int.add_comm]
  · have hsum := countedByteCountOf_perm hentered
    unfold QuicConnectionLedgers.enterSent at hsum ⊢
    simp only [hsum, h.bytesInFlight]
    simp only [countedByteCountOf, map_cons, sum_cons, countedByteCount]
    split <;> omega

theorem takes (h : FlightBooks l) {range : Option QuicCryptoRange}
    (htakes : (l.spaces space).Takes state range) : FlightBooks (l.setSpace space state) :=
  h.setSpace htakes.books.2.2.2.2 htakes.books.1

theorem requeueRanges (h : FlightBooks l) (space : PacketNumberSpace)
    (packets : List QuicSentPacketInfo) : FlightBooks (l.requeueRanges space packets) :=
  h.setSpace rfl rfl

theorem resolve (h : FlightBooks l) {acknowledged lost : List QuicSentPacketInfo}
    (hheld : HeldPackets (acknowledged ++ lost) (l.spaces space).unacknowledged) :
    FlightBooks (l.resolve space acknowledged lost) := by
  have htaken : FlightBooks (l.takeOut space acknowledged lost) :=
    h.takePackets rfl (values_eraseAll_perm hheld) ((h.keyed space).eraseAll _) rfl rfl rfl rfl rfl
      (by simp [notedAs, Function.comp_def])
  unfold QuicConnectionLedgers.resolve
  split
  · exact htaken
  · exact htaken.requeueRanges space lost

theorem discardPackets (h : FlightBooks l)
    (hnext : state.nextPacketNumber = (l.spaces space).nextPacketNumber) :
    FlightBooks (l.discardPackets space state) :=
  h.takePackets rfl (by simp [SortedMap.values, SortedMap.empty]) Keyed.empty hnext rfl rfl rfl rfl
    (by simp [notedAs, Function.comp_def])

theorem noteArrival (h : FlightBooks l) (space : PacketNumberSpace)
    (packetNumber : Nat) (isAccepted : Bool) :
    FlightBooks (l.noteArrival space packetNumber isAccepted) :=
  h.congr (fun _ => rfl) (fun _ => rfl) rfl rfl rfl rfl

theorem step {throws : Bool} (h : FlightBooks l)
    (hstep : LedgerStep throws l l') : FlightBooks l' := by
  cases hstep with
  | receive | markPath | movePath | validateAddress | acknowledge |
    followConnectionId | noteConnectionIdFrame | limitError | noteToken =>
      exact h.congr (fun _ => rfl) (fun _ => rfl) rfl rfl rfl rfl
  | arrive space packetNumber =>
    unfold arrive
    simp only
    split
    · exact h.noteArrival space packetNumber false
    · refine FlightBooks.noteArrival ?_ space packetNumber true
      exact h.setSpace rfl rfl
  | elicit space packetNumber haccepted => exact h.setSpace rfl rfl
  | send note htakes hpaths hnumber hallowance hrecord hsize =>
    refine (h.takes htakes).enterSent note _ ?_
    rw [setSpace_spaces_self, htakes.books.1]
    exact hnumber
  | takeFragment space hlost htakes => exact h.takes htakes
  | resolve space acknowledged lost hheld => exact h.resolve hheld
  | requeue space => exact h.requeueRanges space _
  | discard space =>
    have hnoted : FlightBooks { l with
        history := { l.history with
          discardedSpaces := l.history.discardedSpaces ++ [space] } } :=
      h.congr (fun _ => rfl) (fun _ => rfl) rfl rfl rfl rfl
    exact hnoted.discardPackets rfl
  | startOver peerConnectionId hclient =>
    have hnamed : FlightBooks { l with
        peerConnectionId := peerConnectionId
        history := { l.history with
          adoptionThresholds := l.history.adoptionThresholds ++ [l.peerRetirePriorTo] } } :=
      h.congr (fun _ => rfl) (fun _ => rfl) rfl rfl rfl rfl
    exact hnamed.discardPackets rfl
  | writeCrypto space bytes => exact h.setSpace rfl rfl
  | adoptConnectionId frame hretire hnew =>
    refine h.congr (fun _ => ?_) (fun _ => ?_) ?_ ?_ ?_ ?_
    all_goals
      unfold adoptNewConnectionId ensureActiveIsHeld
      simp only
      repeat' split
      all_goals rfl

end FlightBooks

/-! ## Packet numbers -/

variable {l l' : QuicConnectionLedgers}

/-- In every space the numbers sent, in the order they went out, are those
before the next one. -/
def CountsUp (l : QuicConnectionLedgers) : Prop :=
  ∀ space, (l.history.sentPackets.filter fun note => note.space = space).map
    (·.packet.packetNumber) = range (l.spaces space).nextPacketNumber

namespace CountsUp

theorem congr (h : CountsUp l) (hsent : l'.history.sentPackets = l.history.sentPackets)
    (hnext : ∀ space, (l'.spaces space).nextPacketNumber = (l.spaces space).nextPacketNumber) :
    CountsUp l' := by
  intro space
  rw [hsent, hnext]
  exact h space

theorem setSpace (h : CountsUp l) {space : PacketNumberSpace} {state : SpaceLedger}
    (hsent : l'.history.sentPackets = l.history.sentPackets)
    (hspaces : l'.spaces = Function.update l.spaces space state)
    (hnext : state.nextPacketNumber = (l.spaces space).nextPacketNumber) : CountsUp l' := by
  refine h.congr hsent fun other => ?_
  rw [hspaces]
  exact update_congr (·.nextPacketNumber) hnext other

theorem step {throws : Bool} (h : CountsUp l) (hstep : LedgerStep throws l l') : CountsUp l' := by
  cases hstep with
  | receive | markPath | movePath | validateAddress | acknowledge |
    followConnectionId | noteConnectionIdFrame | limitError | noteToken =>
      exact h.congr rfl fun _ => rfl
  | arrive space packetNumber =>
    unfold arrive
    simp only
    split
    · exact h.congr rfl fun _ => rfl
    · exact h.setSpace rfl rfl rfl
  | elicit | requeue | discard | startOver | writeCrypto => exact h.setSpace rfl rfl rfl
  | takeFragment space hlost htakes => exact h.setSpace rfl rfl htakes.books.1
  | send note htakes hpaths hnumber =>
    intro space
    have hspace := h space
    by_cases heq : note.space = space
    · subst heq
      simp [enterSent, QuicConnectionLedgers.setSpace, hspace, hnumber, htakes.books.1, range_succ]
    · simp [enterSent, QuicConnectionLedgers.setSpace, heq, Ne.symm heq, hspace]
  | resolve space acknowledged lost hheld =>
    have htaken : CountsUp (l.takeOut space acknowledged lost) := h.setSpace rfl rfl rfl
    unfold resolve
    simp only
    split
    · exact htaken
    · exact htaken.setSpace rfl rfl rfl
  | adoptConnectionId frame hretire hnew =>
    refine h.congr ?_ fun _ => ?_
    all_goals
      unfold adoptNewConnectionId ensureActiveIsHeld
      simp only
      repeat' split
      all_goals rfl

end CountsUp

/-! ## Over runs -/

namespace QuicConnectionCore

/-- The packets sent and not resolved, as recovery holds them. -/
def unresolved (core : QuicConnectionCore) : List (PacketNumberSpace × QuicSentPacketInfo) :=
  [PacketNumberSpace.initial, .handshake, .application].flatMap fun space =>
    (core.recovery.unacknowledgedPackets space).map fun packet =>
      (space, packet)

theorem FlightBooks.start (environment : QuicEnvironment)
    (configuration : QuicConnectionCoreConfiguration) :
    FlightBooks (start environment configuration).ledgers := by
  rw [ledgers_start]
  exact ⟨fun _ => Keyed.empty, by simp [startLedgers],
    by simp [startLedgers], List.Perm.refl _, rfl, rfl⟩

variable {environment : QuicEnvironment}
  {configuration : QuicConnectionCoreConfiguration}
  {core : QuicConnectionCore}

theorem Reachable.flightBooks (h : Reachable environment configuration core) :
    FlightBooks core.ledgers :=
  h.books_invariant (FlightBooks.start environment configuration)
    fun _ _ hbooks hstep => hbooks.step hstep

/-- Nothing is resolved twice or both resolved and waited for, both counts
are exact, and no subtraction was ever cut short: a floor reached at any
time would have left more in flight than was sent and not resolved. -/
theorem Reachable.ledgers_agree (h : Reachable environment configuration core) :
    ((core.history.resolved ++ core.unresolved).map fun entry =>
        (entry.1, entry.2.packetNumber)).Nodup ∧
      core.history.sent.Perm (core.history.resolved ++ core.unresolved) ∧
      core.recovery.inFlightByteCount = byteCountOf core.unresolved ∧
      core.congestion.bytesInFlight = countedByteCountOf core.unresolved ∧
      core.congestion.bytesInFlight + countedByteCountOf core.history.resolved =
        countedByteCountOf core.history.sent := by
  have hbooks := h.flightBooks
  have hsplit : core.history.sent.Perm (core.history.resolved ++ core.unresolved) := hbooks.split
  have hbytes : core.congestion.bytesInFlight =
      countedByteCountOf core.unresolved := hbooks.bytesInFlight
  refine ⟨?_, hsplit, hbooks.inFlight, hbytes, ?_⟩
  · refine (hsplit.map _).nodup_iff.mp ?_
    have honce := hbooks.once
    unfold sent
    rw [map_map]
    exact honce
  · rw [countedByteCountOf_perm hsplit, countedByteCountOf_append, hbytes]
    omega

/-- A client's first flight, the server's answer acknowledging it, and what
the client sends then. -/
def firstExchange : List QuicConnectionEvent :=
  [.driven (plainReport [(.initial, [1, 2, 3])]) 4 0, .datagramReceived
      (plainDatagram 1200 [plainPacket .initial [2] [9] 0 1
        [.acknowledgement
            { largestAcknowledgedPacketNumber := 0
              ranges := [{}]
              acknowledgementDelay := 0 },
          .crypto { offset := 0, data := [4] }]])
      5 none (Vector.replicate _ 1),
    .driven (plainReport [(.handshake, [5, 6])]) 4 10]

/-- The client of the run above. -/
def firstExchangeClient : QuicConnectionCoreConfiguration where
  role := .client
  localConnectionId := [2]
  peerConnectionId := [3]
  originalDestinationConnectionId := [3]

def firstExchangeCore : QuicConnectionCore := firstExchange.foldl (apply plainEnvironment)
    (start plainEnvironment firstExchangeClient)

theorem firstExchangeCore_reachable :
    Reachable plainEnvironment firstExchangeClient firstExchangeCore :=
  Reach.run .start firstExchange ⟨trivial, trivial, trivial, trivial⟩

theorem Reachable.ledgers_agree_firstExchange :
    firstExchangeCore.history.resolvedPackets.length = 1 ∧
      firstExchangeCore.congestion.bytesInFlight =
        countedByteCountOf firstExchangeCore.unresolved :=
  ⟨by decide +kernel, (Reachable.ledgers_agree firstExchangeCore_reachable).2.2.2.1⟩

/-- The packets of a space go out under 0, 1, 2 and so on, none skipped and
none used again: not after a loss, a Retry, a key update or once the keys of
the space are gone. -/
theorem Reachable.sent_numbers (h : Reachable environment configuration core)
    (space : PacketNumberSpace) :
    (core.history.sentPackets.filter fun note => note.space = space).map
      (·.packet.packetNumber) = range (core.spaceState space).nextPacketNumber := by
  have hcounts : CountsUp core.ledgers := h.books_invariant
    (by rw [ledgers_start]; exact fun _ => rfl) fun _ _ hcounts hstep => hcounts.step hstep
  exact hcounts space

theorem Reachable.sent_numbers_firstExchange :
    (firstExchangeCore.history.sentPackets.filter fun note => note.space = .handshake).map
      (·.packet.packetNumber) = range (firstExchangeCore.spaceState .handshake).nextPacketNumber :=
  Reachable.sent_numbers firstExchangeCore_reachable .handshake

end QuicConnectionCore

end AsynGyanis.Quic
