import AsynGyanis.Quic.Connection.Ledgers

/-!
# From calls to entries

A function of the connection advances it when whatever it did to the books
is a row of entries. The relation composes along `andThen` and over folds,
so a function advances the connection because its parts do, and most parts
are quiet: they leave the books alone. Alongside the books travel the two
facts the entries rest on, that sent packets stand under their own numbers
and that no datagram size is above the ladder's, and the exception, which
no part of a call takes back.
-/

namespace AsynGyanis.Quic

open Library

/-! ## What every entry keeps -/

variable {state : SpaceLedger}

namespace SpaceLedger

theorem takeFragment_books (state : SpaceLedger) (byteBudget : Nat) :
    (state.takeFragment byteBudget).1.nextPacketNumber = state.nextPacketNumber ∧
      (state.takeFragment byteBudget).1.received = state.received ∧
      (state.takeFragment byteBudget).1.largestAckElicitingReceived =
        state.largestAckElicitingReceived ∧
      (state.takeFragment byteBudget).1.cryptoStream = state.cryptoStream ∧
      (state.takeFragment byteBudget).1.unacknowledged =
        state.unacknowledged := by
  unfold takeFragment
  simp only
  repeat' split
  all_goals exact ⟨rfl, rfl, rfl, rfl, rfl⟩

theorem Takes.books {state' : SpaceLedger}
    {range : Option QuicCryptoRange} (h : state.Takes state' range) :
    state'.nextPacketNumber = state.nextPacketNumber ∧ state'.received = state.received ∧
      state'.largestAckElicitingReceived = state.largestAckElicitingReceived ∧
      state'.cryptoStream = state.cryptoStream ∧
      state'.unacknowledged = state.unacknowledged := by
  cases h with
  | nothing => exact ⟨rfl, rfl, rfl, rfl, rfl⟩
  | fragment byteBudget => exact takeFragment_books state byteBudget

end SpaceLedger

variable {space : PacketNumberSpace}

namespace QuicConnectionLedgers

variable {l : QuicConnectionLedgers}

@[simp] theorem setSpace_spaces_self (space : PacketNumberSpace)
    (state : SpaceLedger) : (l.setSpace space state).spaces space = state := by
  exact Function.update_self ..

theorem setSpace_spaces_of_ne {space' : PacketNumberSpace}
    (state : SpaceLedger) (h : space' ≠ space) :
    (l.setSpace space state).spaces space' = l.spaces space' := by
  exact Function.update_of_ne h ..

theorem update_congr {α : Type} (f : SpaceLedger → α)
    {spaces : PacketNumberSpace → SpaceLedger} {space : PacketNumberSpace}
    {state : SpaceLedger} (h : f state = f (spaces space)) (other : PacketNumberSpace) :
    f (Function.update spaces space state other) = f (spaces other) := by
  by_cases heq : other = space
  · rw [heq, Function.update_self, h]
  · rw [Function.update_of_ne heq]

/-- Packets of every space stand under their own numbers. -/
def KeyedSpaces (l : QuicConnectionLedgers) : Prop := ∀ space, Keyed (l.spaces space).unacknowledged

theorem KeyedSpaces.setSpace (h : l.KeyedSpaces) (space : PacketNumberSpace)
    (hstate : Keyed state.unacknowledged) : (l.setSpace space state).KeyedSpaces := by
  intro space'
  by_cases heq : space' = space
  · rw [heq, setSpace_spaces_self]
    exact hstate
  · rw [setSpace_spaces_of_ne state heq]
    exact h space'

theorem ensureActiveIsHeld_spaces : l.ensureActiveIsHeld.spaces = l.spaces := by
  unfold ensureActiveIsHeld
  repeat' split
  all_goals rfl

theorem ensureActiveIsHeld_history : l.ensureActiveIsHeld.history = l.history := by
  unfold ensureActiveIsHeld
  repeat' split
  all_goals rfl

theorem adoptNewConnectionId_spaces (frame : QuicNewConnectionIdFrame) :
    (l.adoptNewConnectionId frame).spaces = l.spaces := by
  unfold adoptNewConnectionId
  rw [ensureActiveIsHeld_spaces]
  simp only [holdPeerConnectionId]
  split <;> rfl

theorem arrive_spaces_unacknowledged (space : PacketNumberSpace)
    (packetNumber : Nat) (space' : PacketNumberSpace) :
    ((l.arrive space packetNumber).spaces space').unacknowledged =
      (l.spaces space').unacknowledged := by
  unfold arrive
  simp only
  split
  · rfl
  simp only [noteArrival, setSpace, Function.update_apply]
  split
  · next heq => rw [heq]
  · rfl

end QuicConnectionLedgers

variable {l l' : QuicConnectionLedgers} {throws : Bool}

open QuicConnectionLedgers in
theorem LedgerStep.keyed
    (h : LedgerStep throws l l') (hkeyed : l.KeyedSpaces) : l'.KeyedSpaces := by
  cases h with
  | arrive space packetNumber =>
    intro space'
    rw [arrive_spaces_unacknowledged]
    exact hkeyed space'
  | elicit space packetNumber => exact hkeyed.setSpace space (hkeyed space)
  | @send note state paths htakes =>
    have hstate : Keyed state.unacknowledged := by
      rw [htakes.books.2.2.2.2]
      exact hkeyed note.space
    have hinsert : Keyed (((l.setSpace note.space state).spaces
        note.space).unacknowledged.insert note.packet.packetNumber note.packet) := by
      rw [setSpace_spaces_self]
      exact hstate.insert note.packet
    exact (hkeyed.setSpace note.space hstate).setSpace note.space hinsert
  | takeFragment space hlost htakes =>
    refine hkeyed.setSpace space ?_
    rw [htakes.books.2.2.2.2]
    exact hkeyed space
  | resolve space acknowledged lost hheld =>
    have htaken : (l.takeOut space acknowledged lost).KeyedSpaces :=
      hkeyed.setSpace space ((hkeyed space).eraseAll _)
    unfold QuicConnectionLedgers.resolve
    simp only
    split
    · exact htaken
    · exact htaken.setSpace space (htaken space)
  | requeue space => exact hkeyed.setSpace space (hkeyed space)
  | discard space => exact hkeyed.setSpace space Keyed.empty
  | startOver peerConnectionId =>
    exact hkeyed.setSpace .initial Keyed.empty
  | writeCrypto space bytes => exact hkeyed.setSpace space (hkeyed space)
  | adoptConnectionId frame =>
    intro space
    rw [adoptNewConnectionId_spaces]
    exact hkeyed space
  | _ => exact hkeyed

open QuicConnectionLedgers in
theorem LedgerStep.accepted_subset (h : LedgerStep throws l l') :
    l.history.accepted ⊆ l'.history.accepted := by
  cases h with
  | arrive space packetNumber =>
    unfold QuicConnectionLedgers.arrive
    simp only
    split <;> exact List.subset_append_left _ _
  | resolve space acknowledged lost hheld =>
    unfold QuicConnectionLedgers.resolve
    simp only
    split <;> exact List.Subset.refl _
  | adoptConnectionId frame =>
    unfold adoptNewConnectionId
    rw [ensureActiveIsHeld_history]
    simp only [holdPeerConnectionId]
    split <;> exact List.Subset.refl _
  | _ => exact List.Subset.refl _

theorem LedgerSteps.accepted_subset (h : LedgerSteps throws l l') :
    l.history.accepted ⊆ l'.history.accepted := by
  induction h with
  | refl => exact List.Subset.refl _
  | tail _ hstep ih => exact fun _ hmem => hstep.accepted_subset (ih hmem)

theorem LedgerSteps.keyed
    (h : LedgerSteps throws l l') (hkeyed : l.KeyedSpaces) : l'.KeyedSpaces:= by
  induction h with
  | refl => exact hkeyed
  | tail _ hstep ih => exact hstep.keyed ih

/-! ## Advancing -/

namespace QuicConnectionCore

/-- What the entries rest on. -/
structure WellKept (core : QuicConnectionCore) : Prop where
  mtu : core.pathMtu.Bounded
  keyed : core.ledgers.KeyedSpaces

structure Advances (core core' : QuicConnectionCore) : Prop where
  kept : core.WellKept → core'.WellKept
  throws : core.exception.isSome → core'.exception.isSome
  steps : core.WellKept → LedgerSteps core'.exception.isSome core.ledgers core'.ledgers

variable {core core' core'' : QuicConnectionCore}
variable (pathKey : QuicPathKey)

theorem Advances.refl (core : QuicConnectionCore) : Advances core core where
  kept := id
  throws := id
  steps := fun _ => Relation.ReflTransGen.refl

theorem Advances.trans (h : Advances core core')
    (h' : Advances core' core'') : Advances core core'' where
  kept := fun hkept => h'.kept (h.kept hkept)
  throws := fun hthrows => h'.throws (h.throws hthrows)
  steps := fun hkept => ((h.steps hkept).weaken h'.throws).trans (h'.steps (h.kept hkept))

theorem Advances.after (h' : Advances core' core'')
    (h : Advances core core') : Advances core core'' := h.trans h'

theorem Advances.quiet (hledgers : core'.ledgers = core.ledgers)
    (hmtu : core.pathMtu.Bounded → core'.pathMtu.Bounded)
    (hthrows : core.exception.isSome → core'.exception.isSome) : Advances core core' where
  kept := fun hkept => ⟨hmtu hkept.mtu, hledgers ▸ hkept.keyed⟩
  throws := hthrows
  steps := fun _ => hledgers ▸ Relation.ReflTransGen.refl

theorem Advances.entries (hsteps : core.WellKept → LedgerSteps false core.ledgers core'.ledgers)
    (hmtu : core.pathMtu.Bounded → core'.pathMtu.Bounded)
    (hthrows : core.exception.isSome → core'.exception.isSome) : Advances core core' where
  kept := fun hkept =>
    ⟨hmtu hkept.mtu, (hsteps hkept).keyed hkept.keyed⟩
  throws := hthrows
  steps := fun hkept => (hsteps hkept).mono

theorem Advances.entry (hstep : core.WellKept → LedgerStep false core.ledgers core'.ledgers)
    (hmtu : core.pathMtu.Bounded → core'.pathMtu.Bounded)
    (hthrows : core.exception.isSome → core'.exception.isSome) : Advances core core' :=
  .entries (fun hkept => Relation.ReflTransGen.single (hstep hkept)) hmtu hthrows

theorem Advances.step (hstep : LedgerStep false core.ledgers core'.ledgers)
    (hmtu : core.pathMtu.Bounded → core'.pathMtu.Bounded)
    (hthrows : core.exception.isSome → core'.exception.isSome) : Advances core core' :=
  .entry (fun _ => hstep) hmtu hthrows

theorem Advances.whenKept (hthrows : core.exception.isSome → core'.exception.isSome)
    (h : core.WellKept → Advances core core') : Advances core core' where
  kept := fun hkept => (h hkept).kept hkept
  throws := hthrows
  steps := fun hkept => (h hkept).steps hkept

theorem Advances.accepted (h : Advances core core') (hkept : core.WellKept) :
    core.history.accepted ⊆ core'.history.accepted := LedgerSteps.accepted_subset (h.steps hkept)

theorem Advances.andThen {rest : QuicConnectionCore → QuicConnectionCore}
    (h : Advances core core') (hrest : Advances core' (rest core')) :
    Advances core (core'.andThen rest) := by
  unfold QuicConnectionCore.andThen
  split
  · exact h
  · exact h.trans hrest

theorem Advances.foldl {α : Type} {step : QuicConnectionCore → α →
    QuicConnectionCore} (hstep : ∀ core a, Advances core (step core a))
    (as : List α) (core : QuicConnectionCore) :
    Advances core (as.foldl step core) := by
  induction as generalizing core with
  | nil => exact .refl core
  | cons a rest ih => exact (hstep core a).trans (ih (step core a))

variable (core)

theorem throw_advances (message : InvalidArgument) :
    Advances core (core.throw message) := .quiet rfl id fun _ => rfl

/-! ## Parts of the state -/

theorem ledgers_setSpaceState (space : PacketNumberSpace) (state : QuicSpaceState) :
    (core.setSpaceState space state).ledgers = core.ledgers.setSpace space
      (state.ledger (core.recovery.unacknowledgedOf space)) := by
  unfold ledgers QuicConnectionLedgers.setSpace setSpaceState
  congr 1
  funext space'
  simp only [spaceState, PerSpace.get_set, Function.update_apply]
  split
  · next heq => rw [heq]
  · rfl

theorem ledgers_spaces
    (space : PacketNumberSpace) : core.ledgers.spaces space = (core.spaceState space).ledger
        (core.recovery.unacknowledgedOf space) := rfl

variable {core}

theorem ledgers_setSpaceState_of_same {state : QuicSpaceState}
    (h : ∀ map, state.ledger map = (core.spaceState space).ledger map) :
    (core.setSpaceState space state).ledgers = core.ledgers := by
  rw [ledgers_setSpaceState, h, ← ledgers_spaces]
  unfold QuicConnectionLedgers.setSpace
  rw [Function.update_eq_self]

theorem setSpaceState_quiet {state : QuicSpaceState}
    (h : ∀ map, state.ledger map = (core.spaceState space).ledger map) :
    Advances core (core.setSpaceState space state) :=
  .quiet (ledgers_setSpaceState_of_same h) id id

/-! ## The path table -/

theorem replaceUnused_admitted {pathKey : QuicPathKey} {paths paths' : List PeerPathState}
    (hnone : paths.find? (fun state => state.key == pathKey) = none)
    (h : core.replaceUnused pathKey paths = some paths') :
    ∃ before old after, paths = before ++ old :: after ∧ old.isValidated = false ∧
      paths' = before ++ { key := pathKey } :: after := by
  induction paths generalizing paths' with
  | nil => simp [replaceUnused] at h
  | cons state rest ih =>
    rw [List.find?_cons] at hnone
    split at hnone
    · cases hnone
    unfold replaceUnused at h
    split at h
    · next hinUse =>
      obtain ⟨paths'', hrest, rfl⟩ := Option.map_eq_some_iff.mp h
      obtain ⟨before, old, after, hpaths, hold, hpaths''⟩ := ih hnone hrest
      exact ⟨state :: before, old, after, by rw [hpaths]; rfl, hold,
        by rw [hpaths'']; rfl⟩
    · next hunused =>
      refine ⟨[], state, rest, rfl, ?_, (Option.some.inj h).symm⟩
      simp only [isPathInUse, Bool.or_eq_true, not_or] at hunused
      simpa using hunused.1.1

variable (core)

theorem admitPath_admitted (pathKey : QuicPathKey) : Admitted pathKey core.peerPaths
      ((core.admitPath pathKey).getD core.peerPaths) := by
  unfold admitPath
  split
  · exact .kept
  rename_i hnone
  simp only [findPathState, Option.not_isSome_iff_eq_none] at hnone
  split
  · cases hreplaced : core.replaceUnused pathKey core.peerPaths with
    | none => exact .kept
    | some paths =>
      obtain ⟨before, old, after, hpaths, hold, hpaths'⟩ := replaceUnused_admitted hnone hreplaced
      rw [hpaths', hpaths]
      exact .replaced (hpaths ▸ hnone) hold
  · exact .added hnone

theorem ledgers_updatePathState
    (pathKey : QuicPathKey) (update : PeerPathState → PeerPathState) :
    (core.updatePathState pathKey update).ledgers = { core.ledgers with
        peerPaths := updatePath pathKey update
          ((core.admitPath pathKey).getD core.peerPaths) } := by
  unfold updatePathState
  cases hadmitted : core.admitPath pathKey with
  | some paths => rfl
  | none =>
    have hnone : core.findPathState pathKey = none := by
      unfold admitPath at hadmitted
      split at hadmitted
      · cases hadmitted
      · next h => simpa using h
    have hsame : updatePath pathKey update core.peerPaths =
        core.peerPaths := by
      refine List.map_congr_left (g := id) ?_ |>.trans (List.map_id _)
      intro state hstate
      have hne := List.find?_eq_none.mp hnone state hstate
      simp only [beq_iff_eq] at hne
      rw [if_neg hne, id]
    simp only [Option.getD_none, hsame]
    rfl

theorem updatePathState_same (pathKey : QuicPathKey) (update : PeerPathState → PeerPathState) :
    (core.updatePathState pathKey update).pathMtu = core.pathMtu ∧
      (core.updatePathState pathKey update).exception = core.exception := by
  unfold updatePathState
  split <;> exact ⟨rfl, rfl⟩

theorem updatePathState_advances (pathKey : QuicPathKey) {update : PeerPathState → PeerPathState}
    (h : PathMark update) : Advances core (core.updatePathState pathKey update) := by
  obtain ⟨hmtu, hexception⟩ := updatePathState_same core pathKey update
  refine .step ?_ (fun hb => hmtu ▸ hb) (fun he => hexception ▸ he)
  rw [ledgers_updatePathState]
  exact .markPath pathKey (admitPath_admitted core pathKey) h

end QuicConnectionCore

end AsynGyanis.Quic
