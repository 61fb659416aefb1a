import AsynGyanis.Quic.Connection.RunSteps

/-!
# What a connection knows of its arrivals

A packet is handled only if its number is not among those tracked, and what
is tracked is bounded: after every new number the oldest are dropped. So
the connection never knows the history, only the greatest 4096 numbers of
it, and a number that fell out of this window is taken for new when it
comes again. `ArrivalBooks` says both, what is tracked and what follows for
the acceptance of packets: no number is accepted twice exactly as long as
no arrival repeats a number that 4096 greater ones have pushed out.
-/

namespace AsynGyanis.Quic

open Library
open List PacketNumberSpace QuicConnectionLedgers QuicReceivedPacketNumbers

/-! ## Arrivals of a space -/

def numbersIn (space : PacketNumberSpace)
    (arrivals : List (PacketNumberSpace × Nat)) : Finset Nat :=
  ((arrivals.filter fun arrival => arrival.1 = space).map (·.2)).toFinset

variable {arrivals : List (PacketNumberSpace × Nat)} {space : PacketNumberSpace}

theorem mem_numbersIn {number : Nat} :
    number ∈ numbersIn space arrivals ↔ (space, number) ∈ arrivals := by
  unfold numbersIn
  rw [mem_toFinset, mem_map]
  constructor
  · rintro ⟨⟨space', number'⟩, hmem, rfl⟩
    obtain ⟨hmem, heq⟩ := mem_filter.mp hmem
    simp only [decide_eq_true_eq] at heq
    exact heq ▸ hmem
  · intro hmem
    exact ⟨(space, number), mem_filter.mpr ⟨hmem, by simp⟩, rfl⟩

theorem numbersIn_append_self (space : PacketNumberSpace)
    (arrivals : List (PacketNumberSpace × Nat)) (number : Nat) :
    numbersIn space (arrivals ++ [(space, number)]) = insert number (numbersIn space arrivals) := by
  ext n
  rw [mem_numbersIn, Finset.mem_insert, mem_numbersIn, mem_append, mem_singleton, Prod.mk.injEq]
  tauto

theorem numbersIn_append_of_ne {other : PacketNumberSpace}
    (h : other ≠ space) (arrivals : List (PacketNumberSpace × Nat)) (number : Nat) :
    numbersIn space (arrivals ++ [(other, number)]) = numbersIn space arrivals := by
  ext n
  rw [mem_numbersIn, mem_numbersIn, mem_append, mem_singleton, Prod.mk.injEq]
  constructor
  · rintro (hmem | ⟨heq, -⟩)
    · exact hmem
    · exact absurd heq.symm h
  · exact .inl

/-- The number is still among those the space can have tracked. -/
def WithinWindow (arrivals : List (PacketNumberSpace × Nat))
    (arrival : PacketNumberSpace × Nat) : Prop :=
  rankIn (numbersIn arrival.1 arrivals) arrival.2 < kQuicMaximumTrackedPacketNumbers

/-- Whatever comes again comes before 4096 greater numbers of its space
have. -/
def RepeatsWithinWindow (arrivals : List (PacketNumberSpace × Nat)) : Prop :=
  ∀ before arrival after, arrivals = before ++ arrival :: after →
    arrival ∈ before → WithinWindow before arrival

theorem repeatsWithinWindow_append {arrival : PacketNumberSpace × Nat} :
    RepeatsWithinWindow (arrivals ++ [arrival]) ↔ RepeatsWithinWindow arrivals ∧
        (arrival ∈ arrivals → WithinWindow arrivals arrival) := by
  constructor
  · intro h
    refine ⟨fun before other after heq => ?_, h arrivals arrival [] rfl⟩
    exact h before other (after ++ [arrival]) (by simp [heq])
  rintro ⟨hbefore, hlast⟩ before other after heq hmem
  rcases eq_nil_or_concat after with rfl | ⟨init, last, rfl⟩
  · obtain ⟨rfl, hsame⟩ := append_inj' heq rfl
    injection hsame with hsame
    subst hsame
    exact hlast hmem
  · rw [concat_eq_append, ← cons_append, ← append_assoc] at heq
    obtain ⟨rfl, -⟩ := append_inj' heq rfl
    exact hbefore before other init rfl hmem

/-! ## The invariant -/

structure ArrivalBooks (l : QuicConnectionLedgers) : Prop where
  tracked : ∀ space, (l.spaces space).received.members =
    highest kQuicMaximumTrackedPacketNumbers (numbersIn space l.history.arrivals)
  sameNumbers : ∀ arrival, arrival ∈ l.history.accepted ↔ arrival ∈ l.history.arrivals
  once : l.history.accepted.Nodup ↔ RepeatsWithinWindow l.history.arrivals

namespace ArrivalBooks

variable {l l' : QuicConnectionLedgers}

theorem congr (h : ArrivalBooks l)
    (hreceived : ∀ space, (l'.spaces space).received = (l.spaces space).received)
    (harrivals : l'.history.arrivals = l.history.arrivals)
    (haccepted : l'.history.accepted = l.history.accepted) : ArrivalBooks l' where
  tracked := fun space => by
    rw [hreceived, harrivals]
    exact h.tracked space
  sameNumbers := fun arrival => by
    rw [harrivals, haccepted]
    exact h.sameNumbers arrival
  once := by
    rw [harrivals, haccepted]
    exact h.once

theorem setSpace (h : ArrivalBooks l) {state : SpaceLedger}
    (hreceived : state.received = (l.spaces space).received) :
    ArrivalBooks (l.setSpace space state) :=
  h.congr (update_congr SpaceLedger.received hreceived)
    rfl rfl

/-- A number is refused exactly when it arrived before and has not been
pushed out since. -/
theorem isNew_iff (h : ArrivalBooks l) (space : PacketNumberSpace) (packetNumber : Nat) :
    ((l.spaces space).received.insert packetNumber).1 ↔
      ¬ ((space, packetNumber) ∈ l.history.arrivals ∧
        WithinWindow l.history.arrivals (space, packetNumber)) := by
  rw [insert_isNew, decide_eq_true_eq, h.tracked space, mem_highest, mem_numbersIn]
  rfl

theorem arrive_again (h : ArrivalBooks l) {packetNumber : Nat}
    (hmem : (space, packetNumber) ∈ l.history.arrivals)
    (hwithin : WithinWindow l.history.arrivals (space, packetNumber)) :
    ArrivalBooks (l.noteArrival space packetNumber false) := by
  have haccepted : (l.noteArrival space packetNumber
      false).history.accepted = l.history.accepted := append_nil _
  have harrivals : (l.noteArrival space packetNumber
      false).history.arrivals = l.history.arrivals ++ [(space, packetNumber)] := rfl
  refine ⟨fun other => ?_, fun arrival => ?_, ?_⟩
  · refine (h.tracked other).trans ?_
    rw [harrivals]
    by_cases hspace : space = other
    · subst hspace
      rw [numbersIn_append_self, Finset.insert_eq_of_mem (mem_numbersIn.mpr hmem)]
    · rw [numbersIn_append_of_ne hspace]
  · rw [haccepted, harrivals, h.sameNumbers, mem_append, mem_singleton]
    constructor
    · exact .inl
    rintro (hold | rfl)
    · exact hold
    · exact hmem
  · rw [haccepted, harrivals, repeatsWithinWindow_append, h.once]
    exact ⟨fun hrepeats => ⟨hrepeats, fun _ => hwithin⟩, And.left⟩

theorem arrive_fresh (h : ArrivalBooks l) {packetNumber : Nat} {state : SpaceLedger}
    (hnew : ¬ ((space, packetNumber) ∈ l.history.arrivals ∧
      WithinWindow l.history.arrivals (space, packetNumber)))
    (hmembers : state.received.members = highest kQuicMaximumTrackedPacketNumbers
        (insert packetNumber (l.spaces space).received.members)) :
    ArrivalBooks ((l.setSpace space state).noteArrival space packetNumber true) := by
  have haccepted : ((l.setSpace space state).noteArrival space packetNumber
      true).history.accepted = l.history.accepted ++ [(space, packetNumber)] := rfl
  have harrivals : ((l.setSpace space state).noteArrival space packetNumber
      true).history.arrivals = l.history.arrivals ++ [(space, packetNumber)] := rfl
  have hspaces : ((l.setSpace space state).noteArrival space packetNumber
      true).spaces = (l.setSpace space state).spaces := rfl
  refine ⟨fun other => ?_, fun arrival => ?_, ?_⟩
  · rw [harrivals, hspaces]
    by_cases hspace : space = other
    · subst hspace
      rw [setSpace_spaces_self, numbersIn_append_self, hmembers, h.tracked, highest_insert_highest]
    rw [numbersIn_append_of_ne hspace, setSpace_spaces_of_ne _ (Ne.symm hspace)]
    exact h.tracked other
  · rw [haccepted, harrivals, mem_append, mem_append]
    exact or_congr_left (h.sameNumbers arrival)
  have honce : (l.history.accepted ++ [(space, packetNumber)]).Nodup ↔
      l.history.accepted.Nodup ∧ (space, packetNumber) ∉ l.history.arrivals := by
    rw [nodup_append, ← h.sameNumbers]
    simp only [nodup_singleton, true_and, mem_singleton]
    exact and_congr_right fun _ =>
      ⟨fun hne hmem => hne _ hmem _ rfl rfl, fun hnot a ha b hb hab => hnot (hb ▸ hab ▸ ha)⟩
  rw [haccepted, harrivals, honce, repeatsWithinWindow_append, h.once]
  exact and_congr_right fun _ => ⟨fun hnot hmem => absurd hmem hnot,
    fun hwithin hmem => hnew ⟨hmem, hwithin hmem⟩⟩

theorem arrive (h : ArrivalBooks l) (space : PacketNumberSpace)
    (packetNumber : Nat) : ArrivalBooks (l.arrive space packetNumber) := by
  have hnew := h.isNew_iff space packetNumber
  have hmembers := insert_members (l.spaces space).received packetNumber
  unfold QuicConnectionLedgers.arrive
  simp only
  split
  · next received heq =>
    rw [heq] at hnew
    simp only [Bool.false_eq_true, false_iff, not_not] at hnew
    exact h.arrive_again hnew.1 hnew.2
  rename_i received heq
  rw [heq] at hnew hmembers
  refine h.arrive_fresh (hnew.mp rfl) ?_
  rw [dropOldestUntil_members, hmembers]

theorem step {throws : Bool} (h : ArrivalBooks l)
    (hstep : LedgerStep throws l l') : ArrivalBooks l' := by
  have hupdate := @update_congr _ SpaceLedger.received
  cases hstep with
  | receive | markPath | movePath | validateAddress | acknowledge |
    followConnectionId | noteConnectionIdFrame | limitError | noteToken =>
      exact h.congr (fun _ => rfl) rfl rfl
  | arrive space packetNumber => exact h.arrive space packetNumber
  | elicit space packetNumber haccepted => exact h.setSpace rfl
  | send note htakes hpaths hnumber hallowance hrecord hsize =>
    exact (h.setSpace htakes.books.2.1).congr (hupdate rfl) rfl rfl
  | takeFragment space hlost htakes => exact h.setSpace htakes.books.2.1
  | resolve space acknowledged lost hheld =>
    have htaken : ArrivalBooks (l.takeOut space acknowledged lost) := h.congr (hupdate rfl) rfl rfl
    unfold resolve
    split
    · exact htaken
    · exact htaken.setSpace rfl
  | requeue space => exact h.setSpace rfl
  | discard space => exact h.congr (hupdate rfl) rfl rfl
  | startOver peerConnectionId hclient => exact h.congr (hupdate rfl) rfl rfl
  | writeCrypto space bytes => exact h.setSpace rfl
  | adoptConnectionId frame hretire hnew =>
    refine h.congr (fun _ => ?_) ?_ ?_
    all_goals
      unfold adoptNewConnectionId ensureActiveIsHeld
      simp only
      repeat' split
      all_goals rfl

end ArrivalBooks

/-! ## Over runs -/

namespace QuicConnectionCore

variable {environment : QuicEnvironment}
  {configuration : QuicConnectionCoreConfiguration}
  {core core' core'' : QuicConnectionCore}
variable {destination : Bytes}

theorem ArrivalBooks.start (environment : QuicEnvironment)
    (configuration : QuicConnectionCoreConfiguration) :
    ArrivalBooks (start environment configuration).ledgers := by
  rw [ledgers_start]
  refine ⟨fun space => ?_, fun arrival => Iff.rfl, ?_⟩
  · exact (highest_of_card_le (by simp [startLedgers])).symm
  · refine ⟨fun _ before arrival after heq => ?_, fun _ => nodup_nil⟩
    simp [startLedgers] at heq

theorem Reachable.arrivalBooks (h : Reachable environment configuration core) :
    ArrivalBooks core.ledgers :=
  h.books_invariant (ArrivalBooks.start environment configuration)
    fun _ _ hbooks hstep => hbooks.step hstep

/-- No packet number is accepted twice exactly when every number that
arrives again does so while the connection still tracks it. -/
theorem Reachable.accepted_once_iff (h : Reachable environment configuration core) :
    core.history.accepted.Nodup ↔ RepeatsWithinWindow core.history.arrivals :=
  h.arrivalBooks.once

/-! ## A packet of PADDING

What such a packet leaves behind in a server, besides its number: nothing
a later packet's number depends on. -/

/-- Nothing a later Initial packet depends on has changed. -/
structure SameFront (core core' : QuicConnectionCore) : Prop where
  configuration : core'.configuration = core.configuration
  spaces : core'.spaces = core.spaces
  exception : core'.exception = core.exception
  arrivals : core'.history.arrivals = core.history.arrivals

theorem SameFront.trans (h : SameFront core core')
    (h' : SameFront core' core'') : SameFront core core'' where
  configuration := h'.configuration.trans h.configuration
  spaces := h'.spaces.trans h.spaces
  exception := h'.exception.trans h.exception
  arrivals := h'.arrivals.trans h.arrivals

theorem updatePathState_sameFront (core : QuicConnectionCore)
    (pathKey : QuicPathKey) (update : PeerPathState → PeerPathState) :
    SameFront core (core.updatePathState pathKey update) := by
  unfold updatePathState
  split <;> exact ⟨rfl, rfl, rfl, rfl⟩

theorem noteFreshPacket_sameFront (hserver : core.configuration.role = .server)
    (packet : QuicArrivingPacket) (space : PacketNumberSpace) (arrivalTime : QuicTime) :
    SameFront core (core.noteFreshPacket packet space arrivalTime) := by
  have hfollow : ∀ core : QuicConnectionCore,
      core.configuration.role = .server → ∀ isLongHeader source,
        core.followPeerConnectionId isLongHeader source = core := by
    intro core hserver isLongHeader source
    unfold followPeerConnectionId isLocalServer
    rw [hserver]
    rfl
  have htimer : ∀ core : QuicConnectionCore,
      SameFront core (core.restartIdleTimer arrivalTime) := by
    intro core
    unfold restartIdleTimer
    split <;> exact ⟨rfl, rfl, rfl, rfl⟩
  unfold noteFreshPacket
  simp only
  generalize hnoted : ({ core with peerFirstInitialSourceConnectionId := _ } :
    QuicConnectionCore) = noted
  have hsame : SameFront core noted := by
    subst hnoted
    exact ⟨rfl, rfl, rfl, rfl⟩
  have hserver' : noted.configuration.role = .server := hsame.configuration ▸ hserver
  have hlocal : (!noted.isLocalServer) = false := by
    unfold isLocalServer
    rw [hserver']
    rfl
  rw [hfollow noted hserver', hlocal, Bool.false_and, if_neg Bool.false_ne_true]
  have htimed := hsame.trans (htimer noted)
  exact htimed.trans ⟨rfl, rfl, rfl, rfl⟩

/-- A frame list of PADDING is handled without a trace but for the path. -/
theorem handleFrames_padding_sameFront (environment : QuicEnvironment)
    (hquiet : core.exception = none) (space : PacketNumberSpace)
    (packetNumber : Nat) (pathKey : QuicPathKey) (arrivalTime : QuicTime) :
    SameFront core (core.handleFrames environment [.padding] space
      packetNumber pathKey arrivalTime) := by
  have hlist : ∀ core : QuicConnectionCore, core.exception = none →
      handleFrameList environment space arrivalTime pathKey core [.padding] = (core, true) := by
    intro core hquiet
    simp [handleFrameList, handleFrame, quicFrameTypeValue, isOneRttOnlyFrameType, hquiet]
  have hfollow : ∀ core : QuicConnectionCore,
      SameFront core (core.followPeerPath environment pathKey space
        packetNumber false arrivalTime) := by
    intro core
    have hupdated := updatePathState_sameFront core pathKey fun state =>
      { state with hasReceivedAuthenticatedPacket := true }
    unfold followPeerPath
    simp only [Bool.not_false, if_true]
    split
    · exact hupdated.trans ⟨rfl, rfl, rfl, rfl⟩
    · exact hupdated
  unfold handleFrames
  simp only
  generalize hentered : ({ core with hasProcessedServerInitial := _ } :
    QuicConnectionCore) = entered
  have hsame : SameFront core entered := by
    subst hentered
    exact ⟨rfl, rfl, rfl, rfl⟩
  rw [hlist entered (hsame.exception.trans hquiet)]
  exact hsame.trans (hfollow entered)

/-- A server that reads Initial packets sent to this ID. -/
structure ListensAt (core : QuicConnectionCore) (destination : Bytes) :
    Prop where
  server : core.configuration.role = .server
  original : core.configuration.originalDestinationConnectionId = destination
  keys : (core.spaceState .initial).readKeys.isSome
  quiet : core.exception = none

/-- The number an Initial packet with such a header gets. -/
def initialNumber (core : QuicConnectionCore) (truncated packetNumberByteCount : Nat) : Nat :=
  restoreQuicPacketNumber ((core.spaceState .initial).largestReceivedPacketNumber.getD 0) truncated
    packetNumberByteCount

theorem SameFront.listensAt (h : SameFront core core')
    (hlistens : ListensAt core destination) : ListensAt core' destination where
  server := h.configuration ▸ hlistens.server
  original := h.configuration ▸ hlistens.original
  keys := by
    unfold spaceState
    rw [h.spaces]
    exact hlistens.keys
  quiet := h.exception.trans hlistens.quiet

variable {destination : Bytes}

theorem handlePacket_padding (environment : QuicEnvironment)
    (h : ListensAt core destination) (source : Bytes)
    (truncated packetNumberByteCount : Nat) (arrivalTime : QuicTime)
    (pathKey : QuicPathKey) : (core.handlePacket environment
        (plainPacket .initial destination source truncated
          packetNumberByteCount [.padding]) arrivalTime pathKey).2 ∧ SameFront
        (core.noteReceivedPacket .initial (core.initialNumber truncated packetNumberByteCount)).1
        (core.handlePacket environment
          (plainPacket .initial destination source truncated
            packetNumberByteCount [.padding]) arrivalTime pathKey).1 := by
  obtain ⟨keys, hkeys⟩ := Option.isSome_iff_exists.mp h.keys
  have hown : core.isOwnDestination (plainPacket .initial destination source
      truncated packetNumberByteCount [.padding]) := by
    simp [isOwnDestination, plainPacket, h.original]
  have hlocal : (!core.isLocalServer) = false := by
    unfold isLocalServer
    rw [h.server]
    rfl
  have hreceived : (core.noteReceivedPacket .initial
      (core.initialNumber truncated packetNumberByteCount)).1.configuration = core.configuration ∧
      (core.noteReceivedPacket .initial
        (core.initialNumber truncated packetNumberByteCount)).1.exception =
        core.exception := by
    unfold noteReceivedPacket
    simp only
    split <;> exact ⟨rfl, rfl⟩
  have hhandled : core.handlePacket environment
      (plainPacket .initial destination source truncated
        packetNumberByteCount [.padding]) arrivalTime pathKey =
      core.handleAuthenticated environment
        (plainPacket .initial destination source truncated
          packetNumberByteCount [.padding]) .initial
        (core.initialNumber truncated packetNumberByteCount)
        (.ok [.padding]) arrivalTime pathKey := by
    generalize hpacket : plainPacket .initial destination source truncated
      packetNumberByteCount [.padding] = packet at hown
    have hlevel : packet.level = some .initial := by rw [← hpacket]; rfl
    have hunprotect : packet.unprotect keys = some
        { truncatedPacketNumber := truncated
          packetNumberByteCount := packetNumberByteCount } := by
      rw [← hpacket]
      rfl
    have hopen : ∀ number, packet.openPayload keys number = some (.ok [.padding]) := by
      rw [← hpacket]
      exact fun _ => rfl
    simp [handlePacket, hlevel, hown, hkeys, hunprotect, handleUnprotected,
      readingKeysFor, hopen, initialNumber]
  rw [hhandled]
  unfold handleAuthenticated
  rw [hlocal, Bool.false_and, Bool.false_and, if_neg Bool.false_ne_true]
  generalize core.noteReceivedPacket .initial
    (core.initialNumber truncated packetNumberByteCount) = received
    at hreceived
  obtain ⟨received, isNew⟩ := received
  cases isNew with
  | false => exact ⟨rfl, rfl, rfl, rfl, rfl⟩
  | true =>
    simp only at hreceived ⊢
    refine ⟨trivial, ?_⟩
    have hserver : received.configuration.role = .server := hreceived.1 ▸ h.server
    have hfresh := noteFreshPacket_sameFront hserver
      (plainPacket .initial destination source truncated
        packetNumberByteCount [.padding]) .initial arrivalTime
    refine hfresh.trans (handleFrames_padding_sameFront environment ?_
      .initial _ pathKey arrivalTime)
    rw [hfresh.exception, hreceived.2]
    exact h.quiet

theorem noteReceivedPacket_initial (h : ListensAt core destination) (packetNumber : Nat) :
    ListensAt (core.noteReceivedPacket .initial packetNumber).1 destination ∧
      (core.noteReceivedPacket .initial packetNumber).1.history.arrivals =
        core.history.arrivals ++ [(.initial, packetNumber)] ∧
      (((core.spaceState .initial).receivedPacketNumbers.insert packetNumber).1 →
        ((core.noteReceivedPacket .initial packetNumber).1.spaceState
            .initial).largestReceivedPacketNumber =
          some (max packetNumber
            ((core.spaceState .initial).largestReceivedPacketNumber.getD packetNumber))) := by
  unfold noteReceivedPacket
  simp only
  split
  · next received heq =>
    rw [heq]
    exact ⟨⟨h.server, h.original, h.keys, h.quiet⟩, rfl, fun h => by cases h⟩
  refine ⟨⟨h.server, h.original, h.keys, h.quiet⟩, rfl, fun _ => ?_⟩
  have hset : ∀ (core : QuicConnectionCore) (state : QuicSpaceState),
      (core.setSpaceState .initial state).spaceState .initial = state :=
    fun _ _ => rfl
  have hnoted : ∀ (core : QuicConnectionCore) isAccepted,
      (core.noteArrival .initial packetNumber isAccepted).spaceState
        .initial = core.spaceState .initial := fun _ _ => rfl
  rw [hnoted, hset]
  cases (core.spaceState .initial).largestReceivedPacketNumber with
  | none => simp
  | some largest =>
    simp only [Option.getD_some]
    split
    · next hlt => rw [Nat.max_eq_left (Nat.le_of_lt hlt)]
    · next hle => rw [Nat.max_eq_right (Nat.le_of_not_lt hle)]

/-- A datagram with an Initial packet of PADDING in it. -/
def paddingEvent (destination : Bytes)
    (truncated packetNumberByteCount : Nat) : QuicConnectionEvent :=
  .datagramReceived
    (plainDatagram 1200 [plainPacket .initial destination [2] truncated
      packetNumberByteCount [.padding]])
    0 none kUnspecifiedQuicPathKey

theorem apply_paddingEvent_eq (environment : QuicEnvironment)
    (h : ListensAt core destination) (truncated packetNumberByteCount : Nat) :
    ∃ counted, SameFront core counted ∧ core.apply environment
          (paddingEvent destination truncated packetNumberByteCount) =
        (counted.handlePacket environment
          (plainPacket .initial destination [2] truncated
            packetNumberByteCount [.padding]) 0 kUnspecifiedQuicPathKey).1 := by
  have hcount : ∀ core : QuicConnectionCore, SameFront core
      (core.countReceivedDatagram 1200 kUnspecifiedQuicPathKey) := by
    intro core
    unfold countReceivedDatagram
    generalize hcounted : ({ core with
      receivedByteCount := _, history := _ } : QuicConnectionCore) = counted
    have hsame : SameFront core counted := by
      subst hcounted
      exact ⟨rfl, rfl, rfl, rfl⟩
    exact hsame.trans (updatePathState_sameFront _ _ _)
  generalize hentered : ({ core with
    exception := none
    incomingEcnCodepoint := none
    isEcnFieldReadable := core.isEcnFieldReadable || false } : QuicConnectionCore) = entered
  have hsame : SameFront core entered := by
    subst hentered
    exact ⟨rfl, rfl, h.quiet.symm, rfl⟩
  have hcounted := hsame.trans (hcount entered)
  refine ⟨_, hcounted, ?_⟩
  have hgoesOn := (handlePacket_padding environment (hcounted.listensAt h) [2]
    truncated packetNumberByteCount 0 kUnspecifiedQuicPathKey).1
  have hreset : entered.isStatelessResetDatagram (plainDatagram 1200
      [plainPacket .initial destination [2] truncated packetNumberByteCount
        [.padding]]) = false := rfl
  have hlast : ∀ core : QuicConnectionCore,
      (core.andThen fun core => handlePackets environment 0
        kUnspecifiedQuicPathKey core []) = core := by
    intro core
    unfold andThen handlePackets
    split <;> rfl
  unfold apply paddingEvent onDatagramReceived
  simp only [Option.isSome_none]
  rw [hentered, hreset]
  simp only [Bool.false_eq_true, if_false]
  unfold plainDatagram handlePackets
  simp only
  generalize (entered.countReceivedDatagram 1200 kUnspecifiedQuicPathKey).handlePacket environment
      (plainPacket .initial destination [2] truncated packetNumberByteCount
        [.padding]) 0 kUnspecifiedQuicPathKey = handled at hgoesOn ⊢
  obtain ⟨handled, goesOn⟩ := handled
  subst hgoesOn
  exact hlast handled

theorem apply_paddingEvent (environment : QuicEnvironment)
    (h : ListensAt core destination) (truncated packetNumberByteCount : Nat) :
    let packetNumber := core.initialNumber truncated packetNumberByteCount
    let core' := core.apply environment (paddingEvent destination truncated packetNumberByteCount)
    ListensAt core' destination ∧ core'.history.arrivals =
        core.history.arrivals ++ [(.initial, packetNumber)] ∧
      (((core.spaceState .initial).receivedPacketNumbers.insert packetNumber).1 →
        (core'.spaceState .initial).largestReceivedPacketNumber =
          some (max packetNumber
            ((core.spaceState .initial).largestReceivedPacketNumber.getD packetNumber))) := by
  obtain ⟨counted, hsame, heq⟩ := apply_paddingEvent_eq environment h truncated
    packetNumberByteCount
  have hlistens := hsame.listensAt h
  have hspaces : counted.spaceState .initial = core.spaceState .initial :=
    congrArg (fun spaces => spaces.get initial) hsame.spaces
  have hnumber : counted.initialNumber truncated packetNumberByteCount =
      core.initialNumber truncated packetNumberByteCount := by
    unfold initialNumber
    rw [hspaces]
  obtain ⟨hafter, harrivals, hlargest⟩ := noteReceivedPacket_initial hlistens
    (core.initialNumber truncated packetNumberByteCount)
  have hhandled := (handlePacket_padding environment hlistens [2] truncated
    packetNumberByteCount 0 kUnspecifiedQuicPathKey).2
  rw [hnumber] at hhandled
  rw [heq]
  refine ⟨hhandled.listensAt hafter, ?_, fun hnew => ?_⟩
  · rw [hhandled.arrivals, harrivals, hsame.arrivals]
  have hfinal := congrArg (fun spaces => (spaces.get initial)) hhandled.spaces
  rw [hspaces] at hlargest
  have := hlargest hnew
  rw [← this]
  exact congrArg QuicSpaceState.largestReceivedPacketNumber hfinal

/-! ## A number accepted twice

A client that sends PADDING under the numbers 0 to 4096 and then 0 again:
by then 0 has been pushed out. -/

def countedServer : QuicConnectionCoreConfiguration where
  role := .server
  localConnectionId := [1]
  peerConnectionId := [2]
  originalDestinationConnectionId := [3]

/-- The server once the numbers below `n` have arrived in order. -/
def countedCore : Nat → QuicConnectionCore
  | 0 => start plainEnvironment countedServer
  | n + 1 => (countedCore n).apply plainEnvironment (paddingEvent [3] n 2)

theorem countedCore_reachable (n : Nat) :
    Reachable plainEnvironment countedServer (countedCore n) := by
  induction n with
  | zero => exact Reach.start
  | succ n ih => exact ih.next trivial

theorem restoreQuicPacketNumber_counted {n truncated : Nat}
    (hn : n ≤ 4096) (htruncated : truncated ≤ n + 1) :
    restoreQuicPacketNumber n truncated 2 = truncated := by
  unfold restoreQuicPacketNumber
  simp only
  have hexpected : (n + 1) % 2 ^ 64 = n + 1 := by omega
  have hwindow : (n + 1) % 2 ^ (2 * 8) = n + 1 := by omega
  rw [hexpected, hwindow, Nat.sub_self, Nat.zero_add, if_neg (by omega), if_neg (by omega)]

theorem countedCore_spec (n : Nat) (hn : n ≤ 4097) : ListensAt (countedCore n) [3] ∧
      (∀ number, (initial, number) ∈ (countedCore n).history.arrivals ↔ number < n) ∧
      ((countedCore n).spaceState .initial).largestReceivedPacketNumber.getD 0 = n - 1 := by
  induction n with
  | zero =>
    refine ⟨⟨rfl, rfl, rfl, rfl⟩, fun _ => ?_, rfl⟩
    exact ⟨fun h => absurd h not_mem_nil, fun h => absurd h (by omega)⟩
  | succ n ih =>
    obtain ⟨hlistens, harrived, hlargest⟩ := ih (by omega)
    have hnumber : (countedCore n).initialNumber n 2 = n := by
      unfold initialNumber
      exact restoreQuicPacketNumber_counted (by omega) (by omega)
    have hfresh : (initial, n) ∉ (countedCore n).history.arrivals := by
      rw [harrived]
      omega
    obtain ⟨hlistens', harrivals, hnext⟩ := apply_paddingEvent plainEnvironment hlistens n 2
    rw [hnumber] at harrivals hnext
    refine ⟨hlistens', fun number => ?_, ?_⟩
    · show _ ∈ ((countedCore n).apply plainEnvironment (paddingEvent [3] n 2)).history.arrivals ↔ _
      rw [harrivals, mem_append, harrived, mem_singleton, Prod.mk.injEq, eq_self_iff_true, true_and]
      omega
    have hnew := ((countedCore_reachable n).arrivalBooks.isNew_iff
      .initial n).mpr fun h => hfresh h.1
    show (((countedCore n).apply plainEnvironment (paddingEvent [3] n
      2)).spaceState .initial).largestReceivedPacketNumber.getD 0 = _
    rw [hnext hnew, Option.getD_some]
    cases h : ((countedCore n).spaceState .initial).largestReceivedPacketNumber with
    | none => simp
    | some largest =>
      rw [h] at hlargest
      simp only [Option.getD_some] at hlargest ⊢
      omega

theorem countedCore_arrivals (n : Nat) (hn : n ≤ 4097) :
    numbersIn .initial (countedCore n).history.arrivals = Finset.range n := by
  ext number
  rw [mem_numbersIn, (countedCore_spec n hn).2.1, Finset.mem_range]

theorem countedCore_again {n : Nat} (hn : n = 4097) : Reachable plainEnvironment countedServer
        ((countedCore n).apply plainEnvironment (paddingEvent [3] 0 2)) ∧
      ¬ ((countedCore n).apply plainEnvironment (paddingEvent [3] 0 2)).history.accepted.Nodup := by
  have hreachable := (countedCore_reachable n).next (e := paddingEvent [3] 0 2) trivial
  refine ⟨hreachable, fun hnodup => ?_⟩
  obtain ⟨hlistens, harrived, hlargest⟩ := countedCore_spec n (by omega)
  have hnumber : (countedCore n).initialNumber 0 2 = 0 := by
    unfold initialNumber
    exact restoreQuicPacketNumber_counted (by omega) (by omega)
  obtain ⟨-, harrivals, -⟩ := apply_paddingEvent plainEnvironment hlistens 0 2
  rw [hnumber] at harrivals
  have hrepeats := (Reachable.arrivalBooks hreachable).once.mp hnodup
  change RepeatsWithinWindow ((countedCore n).apply plainEnvironment
    (paddingEvent [3] 0 2)).history.arrivals at hrepeats
  rw [harrivals, repeatsWithinWindow_append] at hrepeats
  have hwithin := hrepeats.2 ((harrived 0).mpr (by omega))
  unfold WithinWindow at hwithin
  rw [countedCore_arrivals n (by omega)] at hwithin
  have hrank : rankIn (Finset.range n) 0 = n - 1 := by
    have hfilter : (Finset.range n).filter (0 < ·) = (Finset.range n).erase 0 := by
      ext number
      rw [Finset.mem_filter, Finset.mem_erase, and_comm, Nat.pos_iff_ne_zero]
    unfold rankIn
    rw [hfilter, Finset.card_erase_of_mem (Finset.mem_range.mpr (by omega)), Finset.card_range]
  rw [hrank] at hwithin
  unfold kQuicMaximumTrackedPacketNumbers at hwithin
  omega

theorem number_accepted_twice : ∃ core, Reachable plainEnvironment countedServer core ∧
      ¬ core.history.accepted.Nodup :=
  ⟨_, countedCore_again rfl⟩

/-- Three packets in order and the first of them again. -/
theorem Reachable.accepted_once_iff_counted :
    RepeatsWithinWindow ((countedCore 3).apply plainEnvironment
      (paddingEvent [3] 0 2)).history.arrivals :=
  (Reachable.accepted_once_iff ((countedCore_reachable 3).next
    (e := paddingEvent [3] 0 2) trivial)).mp (by decide +kernel)

end QuicConnectionCore

end AsynGyanis.Quic
