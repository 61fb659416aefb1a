import AsynGyanis.Quic.Connection.Arrivals

/-!
# What a connection acknowledges

An ACK frame is built from two things kept apart: the set of numbers
tracked and the number of the packet that last asked for an
acknowledgement, which heads the frame. Nothing ties them together when the
frame is built, so what they have in common is an invariant over runs,
`AcknowledgementBooks`: both come from packets that arrived, and the number
that heads the frame is either still tracked or older than all that are.
From it follow the two halves of the promise a frame makes. It claims
nothing that did not arrive, and below the number that heads it the frame
is complete as far as it has room.
-/

namespace AsynGyanis.Quic

open Library QuicConnectionLedgers

/-- What a frame's note says is what the connection knew. -/
structure AcknowledgementNote.IsFaithful (note : AcknowledgementNote)
    (acknowledgmentDelayExponent : Nat)
    (arrivals : List (PacketNumberSpace × Nat)) : Prop where
  tracked : ∀ packetNumber ∈ note.tracked.members, (note.space, packetNumber) ∈ arrivals
  headed : (note.space, note.acknowledgedUpTo) ∈ arrivals
  trackedOrOlder : note.acknowledgedUpTo ∈ note.tracked.members ∨
    ∀ packetNumber ∈ note.tracked.members, note.acknowledgedUpTo < packetNumber
  frame : note.frame =
    { largestAcknowledgedPacketNumber := note.acknowledgedUpTo
      ranges := buildQuicAcknowledgementRanges note.tracked note.acknowledgedUpTo
      acknowledgementDelay := note.elapsed.toNat >>> min acknowledgmentDelayExponent 20
      hasEcnCounts := note.ecnCounts.isSome
      ecnCounts := note.ecnCounts.getD {} }

structure AcknowledgementBooks (l : QuicConnectionLedgers) : Prop where
  arrivals : ArrivalBooks l
  elicited : ∀ space packetNumber,
    (l.spaces space).largestAckElicitingReceived = some packetNumber →
      (space, packetNumber) ∈ l.history.arrivals
  faithful : ∀ note ∈ l.history.acknowledgements,
    note.IsFaithful l.localParameters.acknowledgmentDelayExponent l.history.arrivals

theorem AcknowledgementNote.IsFaithful.mono {note : AcknowledgementNote}
    {exponent : Nat} {arrivals arrivals' : List (PacketNumberSpace × Nat)}
    (h : note.IsFaithful exponent arrivals) (hsub : arrivals ⊆ arrivals') :
    note.IsFaithful exponent arrivals' where
  tracked := fun packetNumber hmem => hsub (h.tracked packetNumber hmem)
  headed := hsub h.headed
  trackedOrOlder := h.trackedOrOlder
  frame := h.frame

/-- A number among those that arrived is among the highest of them or below
every one of these. -/
theorem ArrivalBooks.tracked_or_older {l : QuicConnectionLedgers}
    (h : ArrivalBooks l) {space : PacketNumberSpace} {packetNumber : Nat}
    (hmem : (space, packetNumber) ∈ l.history.arrivals) :
    packetNumber ∈ (l.spaces space).received.members ∨
      ∀ other ∈ (l.spaces space).received.members, packetNumber < other := by
  by_cases htracked : packetNumber ∈ (l.spaces space).received.members
  · exact .inl htracked
  refine .inr fun other hother => ?_
  rw [h.tracked space, mem_highest] at htracked hother
  by_contra hle
  refine htracked ⟨mem_numbersIn.mpr hmem, ?_⟩
  refine Nat.lt_of_le_of_lt (Finset.card_le_card ?_) hother.2
  intro n hn
  obtain ⟨hn, hlt⟩ := Finset.mem_filter.mp hn
  exact Finset.mem_filter.mpr ⟨hn, Nat.lt_of_le_of_lt (Nat.le_of_not_lt hle) hlt⟩

namespace AcknowledgementBooks

variable {l l' : QuicConnectionLedgers}

theorem grow (h : AcknowledgementBooks l) (harrivals : ArrivalBooks l')
    (helicited : ∀ space, (l'.spaces space).largestAckElicitingReceived =
      (l.spaces space).largestAckElicitingReceived)
    (hsub : l.history.arrivals ⊆ l'.history.arrivals)
    (hnotes : l'.history.acknowledgements = l.history.acknowledgements)
    (hparameters : l'.localParameters = l.localParameters) :
    AcknowledgementBooks l' where
  arrivals := harrivals
  elicited := fun space packetNumber hlargest =>
    hsub (h.elicited space packetNumber (helicited space ▸ hlargest))
  faithful := fun note hnote => by
    rw [hnotes] at hnote
    rw [hparameters]
    exact (h.faithful note hnote).mono hsub

theorem elicit (h : AcknowledgementBooks l) {space : PacketNumberSpace} {packetNumber : Nat}
    (haccepted : (space, packetNumber) ∈ l.history.accepted) :
    AcknowledgementBooks (l.elicitAcknowledgement space packetNumber) where
  arrivals := h.arrivals.setSpace rfl
  elicited := fun other number hlargest => by
    by_cases hspace : other = space
    · subst hspace
      unfold elicitAcknowledgement at hlargest
      rw [setSpace_spaces_self] at hlargest
      injection hlargest with hlargest
      exact hlargest ▸ (h.arrivals.sameNumbers _).mp haccepted
    · unfold elicitAcknowledgement at hlargest
      rw [setSpace_spaces_of_ne _ hspace] at hlargest
      exact h.elicited other number hlargest
  faithful := h.faithful

theorem acknowledge (h : AcknowledgementBooks l) {note : AcknowledgementNote}
    (hnote : note.IsFaithful l.localParameters.acknowledgmentDelayExponent l.history.arrivals) :
    AcknowledgementBooks (l.noteAcknowledgement note) where
  arrivals := h.arrivals.congr (fun _ => rfl) rfl rfl
  elicited := h.elicited
  faithful := fun other hother => by
    rcases List.mem_append.mp hother with hother | hother
    · exact h.faithful other hother
    · rw [List.mem_singleton.mp hother]
      exact hnote

theorem step {throws : Bool} (h : AcknowledgementBooks l)
    (hstep : LedgerStep throws l l') : AcknowledgementBooks l' := by
  have harrivals := h.arrivals.step hstep
  have hupdate := @update_congr _ SpaceLedger.largestAckElicitingReceived
  cases hstep with
  | receive | markPath | movePath | validateAddress | followConnectionId
    | noteConnectionIdFrame | limitError | noteToken =>
      exact h.grow harrivals (fun _ => rfl) (List.Subset.refl _) rfl rfl
  | elicit space packetNumber haccepted => exact h.elicit haccepted
  | acknowledge note htracked hlargest hframe =>
    have hheaded := h.elicited note.space _ hlargest
    refine h.acknowledge ⟨fun packetNumber hmem => ?_, hheaded, ?_, hframe⟩
    · rw [htracked, h.arrivals.tracked] at hmem
      exact mem_numbersIn.mp (highest_subset _ _ hmem)
    · rw [htracked]
      exact h.arrivals.tracked_or_older hheaded
  | arrive space packetNumber =>
    have hsub : l.history.arrivals ⊆ l.history.arrivals ++ [(space, packetNumber)] :=
      List.subset_append_left _ _
    unfold arrive at harrivals ⊢
    simp only at harrivals ⊢
    split
    · next heq =>
      rw [heq] at harrivals
      exact h.grow harrivals (fun _ => rfl) hsub rfl rfl
    rename_i heq
    rw [heq] at harrivals
    exact h.grow harrivals (@hupdate l.spaces space _ rfl) hsub rfl rfl
  | send note htakes hpaths hnumber hallowance hrecord hsize =>
    have htaken := @hupdate l.spaces note.space _ htakes.books.2.2.1
    refine h.grow harrivals (fun other => ?_) (List.Subset.refl _) rfl rfl
    refine Eq.trans ?_ (htaken other)
    refine hupdate ?_ other
    rfl
  | takeFragment space hlost htakes =>
    exact h.grow harrivals (hupdate htakes.books.2.2.1) (List.Subset.refl _) rfl rfl
  | resolve space acknowledged lost hheld =>
    have htakeOut : ∀ other,
        ((l.takeOut space acknowledged lost).spaces other).largestAckElicitingReceived =
        (l.spaces other).largestAckElicitingReceived := hupdate rfl
    unfold resolve at harrivals ⊢
    split at harrivals
    · next hempty =>
      rw [if_pos hempty]
      exact h.grow harrivals htakeOut (List.Subset.refl _) rfl rfl
    rename_i hlost
    rw [if_neg hlost]
    refine h.grow harrivals (fun other => ?_) (List.Subset.refl _) rfl rfl
    refine Eq.trans ?_ (htakeOut other)
    refine hupdate ?_ other
    rfl
  | requeue | discard | startOver | writeCrypto =>
    exact h.grow harrivals (hupdate rfl) (List.Subset.refl _) rfl rfl
  | adoptConnectionId frame hretire hnew =>
    refine h.grow harrivals (fun _ => ?_) ?_ ?_ ?_
    all_goals
      unfold adoptNewConnectionId ensureActiveIsHeld
      simp only
      repeat' split
    all_goals first
      | rfl
      | exact List.Subset.refl _

end AcknowledgementBooks

namespace AcknowledgementNote

variable {note : AcknowledgementNote} {exponent : Nat}
  {arrivals : List (PacketNumberSpace × Nat)}

end AcknowledgementNote

/-! ## Over runs -/

namespace QuicConnectionCore

variable {environment : QuicEnvironment}
  {configuration : QuicConnectionCoreConfiguration}
  {core : QuicConnectionCore}

theorem AcknowledgementBooks.start (environment : QuicEnvironment)
    (configuration : QuicConnectionCoreConfiguration) :
    AcknowledgementBooks (start environment configuration).ledgers where
  arrivals := ArrivalBooks.start environment configuration
  elicited := by
    rw [ledgers_start]
    intro space packetNumber hlargest
    simp [startLedgers] at hlargest
  faithful := by
    rw [ledgers_start]
    intro note hnote
    simp [startLedgers] at hnote

theorem Reachable.acknowledgementBooks (h : Reachable environment configuration core) :
    AcknowledgementBooks core.ledgers :=
  h.books_invariant (AcknowledgementBooks.start environment configuration)
    fun _ _ hbooks hstep => hbooks.step hstep

/-- Up to the number that heads it a frame leaves out nothing that is
tracked, as far as it has room. -/
theorem Reachable.acknowledgements_complete (h : Reachable environment configuration core) :
    ∀ note ∈ core.history.acknowledgements, ∀ run ∈ note.tracked.highestRuns, ∀ packetNumber,
        run.Contains packetNumber →
        packetNumber ≤ note.frame.largestAcknowledgedPacketNumber →
        note.frame.Covers packetNumber := by
  intro note hnote run hrun packetNumber hcontains hle
  have hfaithful := h.acknowledgementBooks.faithful note hnote
  rw [hfaithful.frame] at hle ⊢
  exact QuicReceivedPacketNumbers.buildQuicAcknowledgementRanges_complete hrun hcontains hle

/-- A PING under the number 0 and PADDING under the number 1, then an ACK. -/
def laggingCore : QuicConnectionCore :=
  [.datagramReceived (plainDatagram 1200 [plainPacket .initial [3] [2] 0 1 [.ping]]) 0 none
      kUnspecifiedQuicPathKey,
    paddingEvent [3] 1 1,
    .driven {} 4 0].foldl (apply plainEnvironment)
    (start plainEnvironment countedServer)

theorem laggingCore_reachable : Reachable plainEnvironment countedServer laggingCore :=
  Reach.run .start _ ⟨trivial, trivial, trivial, trivial⟩

/-- The frame is headed by 0 and does not mention 1. -/
theorem acknowledgement_lags_behind : Reachable plainEnvironment countedServer laggingCore ∧
      ∃ note ∈ laggingCore.history.acknowledgements, ∃ run ∈ note.tracked.highestRuns,
          run.Contains run.last ∧ ¬ note.frame.Covers run.last :=
  ⟨laggingCore_reachable, by decide +kernel⟩

theorem Reachable.acknowledgements_complete_lagging :
    ∃ note ∈ laggingCore.history.acknowledgements, note.frame.Covers 0 := by
  have hrun : ∃ note ∈ laggingCore.history.acknowledgements,
      ∃ run ∈ note.tracked.highestRuns, run.Contains 0 := by decide +kernel
  obtain ⟨note, hnote, run, hrun, hcontains⟩ := hrun
  exact ⟨note, hnote, Reachable.acknowledgements_complete
    laggingCore_reachable note hnote run hrun 0 hcontains (Nat.zero_le _)⟩

def acknowledgmentDelayExponent (core : QuicConnectionCore) : Nat :=
  core.configuration.transportParameters.acknowledgmentDelayExponent

end QuicConnectionCore

end AsynGyanis.Quic
