import AsynGyanis.Quic.Connection.Arrivals
import AsynGyanis.Quic.Connection.FlightBooks

/-!
# The amplification limits

A server may be made to answer to an address its datagrams only claim to
come from, so until the address is validated it sends at most three times
what it received, and the same holds for every further path. The limit is
looked up when a packet is put together, and only handshake and stream
bytes are cut to it: an ACK, connection IDs, a PING and the whole of an MTU
probe go in whatever is left. So what runs keep is the limit for as long as
what no budget was asked for fits into it by itself.

For a path the counts are kept in a table of four records, and a record may
have to make room for another. `PathAccount` says what the table still
knows of a path: with a record, that the limit held before it was made and
holds since; without one, that it held so far.
-/

namespace AsynGyanis.Quic

open Library List PeerPathState QuicConnectionLedgers

/-- What no budget was asked for fits into what was left. -/
def SentPacketNote.FitsAllowance (note : SentPacketNote) : Prop :=
  note.unbudgetedByteCount ≤ note.allowance

instance (note : SentPacketNote) : Decidable note.FitsAllowance :=
  inferInstanceAs (Decidable (_ ≤ _))

namespace QuicConnectionHistory

def bytesSentTo (history : QuicConnectionHistory) (pathKey : QuicPathKey) :
    Nat :=
  ((history.sentPackets.filter fun note => note.pathKey = pathKey).map (·.packet.byteCount)).sum

def bytesReceivedFrom (history : QuicConnectionHistory) (pathKey : QuicPathKey) : Nat :=
  ((history.receivedDatagrams.filter fun datagram =>
    datagram.1 = pathKey).map (·.2)).sum

end QuicConnectionHistory

open QuicConnectionHistory

/-! ## One path -/

/-- The records stand under different keys. -/
def KeyedPaths (paths : List PeerPathState) : Prop := (paths.map (·.key)).Nodup

/-- The record of the path. -/
def recordOf (pathKey : QuicPathKey) (paths : List PeerPathState) : Option PeerPathState :=
  paths.find? fun state => state.key == pathKey

/-- What the table knows of a path to which `sent` bytes went and from
which `received` came. -/
def PathAccount (pathKey : QuicPathKey) (paths : List PeerPathState) (sent received : Nat) : Prop :=
  match recordOf pathKey paths with
  | none => sent ≤ kQuicAmplificationFactor * received
  | some state =>
    state.isValidated = true ∨ state.sentByteCount ≤ sent ∧ state.receivedByteCount ≤ received ∧
        sent - state.sentByteCount ≤ kQuicAmplificationFactor *
          (received - state.receivedByteCount) ∧
        state.sentByteCount ≤ kQuicAmplificationFactor * state.receivedByteCount

variable {pathKey other : QuicPathKey} {paths paths' : List PeerPathState}
  {state : PeerPathState} {sent received : Nat}

theorem recordOf_eq_none : recordOf pathKey paths = none ↔ pathKey ∉ paths.map (·.key) := by
  simp [recordOf, find?_eq_none]

theorem KeyedPaths.recordOf_of_mem (h : KeyedPaths paths)
    (hmem : state ∈ paths) : recordOf state.key paths = some state := by
  unfold recordOf
  induction paths with
  | nil => cases hmem
  | cons head rest ih =>
    obtain ⟨hhead, hrest⟩ := nodup_cons.mp h
    rcases mem_cons.mp hmem with rfl | hmem
    · simp
    have hne : head.key ≠ state.key := by
      intro heq
      refine hhead ?_
      simp only [heq]
      exact mem_map_of_mem hmem
    rw [find?_cons_of_neg (by simpa using hne)]
    exact ih hrest hmem

theorem PathAccount.bounded (h : PathAccount pathKey paths sent received)
    (hopen : ∀ state, recordOf pathKey paths = some state → state.isValidated = false) :
    sent ≤ kQuicAmplificationFactor * received := by
  unfold PathAccount at h
  split at h
  · exact h
  rename_i state hrecord
  rcases h with hvalidated | ⟨hsent, hreceived, hbefore, hsince⟩
  · rw [hopen state hrecord] at hvalidated
    cases hvalidated
  · unfold kQuicAmplificationFactor at *
    omega

/-! ## The table -/

variable {update : PeerPathState → PeerPathState}

theorem recordOf_updatePath (hkey : ∀ state, (update state).key = state.key) :
    recordOf pathKey (updatePath other update paths) = (recordOf pathKey paths).map fun state =>
        if pathKey = other then update state else state := by
  unfold recordOf updatePath
  induction paths with
  | nil => rfl
  | cons head rest ih =>
    rw [map_cons]
    by_cases hhead : head.key = pathKey
    · have hupdated : (if head.key = other then update head
          else head).key = pathKey := by
        split
        · rw [hkey, hhead]
        · exact hhead
      rw [find?_cons_of_pos (by simpa using hupdated),
        find?_cons_of_pos (by simpa using hhead), Option.map_some,
        hhead]
    have hupdated : (if head.key = other then update head
        else head).key ≠ pathKey := by
      split
      · rwa [hkey]
      · exact hhead
    rw [find?_cons_of_neg (by simpa using hupdated), find?_cons_of_neg (by simpa using hhead)]
    exact ih

theorem KeyedPaths.updatePath
    (h : KeyedPaths paths) (hkey : ∀ state, (update state).key = state.key) :
    KeyedPaths (updatePath pathKey update paths) := by
  have hkeys : (Quic.updatePath pathKey update paths).map (·.key) = paths.map (·.key) := by
    unfold Quic.updatePath
    rw [map_map]
    refine map_congr_left fun state _ => ?_
    simp only [Function.comp_apply]
    split
    · exact hkey state
    · rfl
  unfold KeyedPaths
  rw [hkeys]
  exact h

theorem KeyedPaths.admitted (h : KeyedPaths paths)
    (hadmitted : Admitted pathKey paths paths') : KeyedPaths paths' := by
  cases hadmitted with
  | kept => exact h
  | added hnone =>
    have hfresh := recordOf_eq_none.mp hnone
    unfold KeyedPaths
    rw [map_append, nodup_append]
    refine ⟨h, nodup_singleton _, fun a ha b hb => ?_⟩
    rw [map_singleton, mem_singleton] at hb
    intro heq
    rw [heq, hb] at ha
    exact hfresh ha
  | replaced hnone hvalidated =>
    have hfresh := recordOf_eq_none.mp hnone
    unfold KeyedPaths at h ⊢
    rw [map_append, map_cons] at h hfresh ⊢
    rw [nodup_middle, nodup_cons] at h ⊢
    refine ⟨fun hmem => hfresh ?_, h.2⟩
    rw [mem_append] at hmem
    rw [mem_append, mem_cons]
    exact hmem.imp_right .inr

theorem Admitted.eq_of_record (h : Admitted pathKey paths paths')
    (hrecord : recordOf pathKey paths = some state) : paths' = paths := by
  cases h with
  | kept => rfl
  | added hnone => exact absurd (hrecord.symm.trans hnone) (by simp)
  | replaced hnone hvalidated =>
    exact absurd (hrecord.symm.trans hnone) (by simp)

/-- Making a record, even in another's place, loses no account: the record
given up had kept the limit and so had what came before it. -/
theorem PathAccount.admitted (h : PathAccount pathKey paths sent received)
    (hkeyed : KeyedPaths paths) (hadmitted : Admitted other paths paths') :
    PathAccount pathKey paths' sent received := by
  have hfresh : PathAccount other paths sent received → recordOf other paths = none →
      recordOf other paths' = some { key := other } →
      PathAccount other paths' sent received := by
    intro h hnone hsome
    unfold PathAccount at h ⊢
    rw [hnone] at h
    rw [hsome]
    exact .inr ⟨Nat.zero_le _, Nat.zero_le _, by simpa using h, Nat.zero_le _⟩
  have hseparate : ∀ before after : List PeerPathState, recordOf pathKey (before ++ after) =
        (recordOf pathKey before).or (recordOf pathKey after) :=
    fun before after => find?_append
  have hskip : ∀ (head : PeerPathState) rest, head.key ≠ pathKey →
      recordOf pathKey (head :: rest) = recordOf pathKey rest :=
    fun head rest hne => find?_cons_of_neg (by simpa using hne)
  cases hadmitted with
  | kept => exact h
  | added hnone =>
    by_cases hpath : other = pathKey
    · subst hpath
      refine hfresh h hnone ?_
      rw [hseparate, show recordOf other paths = none from hnone]
      simp [recordOf]
    · unfold PathAccount at h ⊢
      rw [hseparate, hskip _ _ hpath]
      simpa [recordOf] using h
  | @replaced before after old hnone hvalidated =>
    by_cases hpath : other = pathKey
    · subst hpath
      refine hfresh h hnone ?_
      have hbefore : recordOf other before = none := by
        rw [recordOf_eq_none]
        intro hmem
        refine recordOf_eq_none.mp hnone ?_
        rw [map_append]
        exact mem_append_left _ hmem
      rw [hseparate, hbefore]
      simp [recordOf]
    by_cases hold : old.key = pathKey
    · subst hold
      have hrecord : recordOf old.key (before ++ old :: after) = some old :=
        hkeyed.recordOf_of_mem (mem_append_right _ mem_cons_self)
      have hbounded := h.bounded fun state hstate => by
        rw [hrecord] at hstate
        injection hstate with hstate
        exact hstate ▸ hvalidated
      have hgone : recordOf old.key (before ++ { key := other } :: after) =
          none := by
        rw [recordOf_eq_none, map_append, map_cons, mem_append, mem_cons]
        unfold KeyedPaths at hkeyed
        rw [map_append, map_cons, nodup_middle, nodup_cons, mem_append] at hkeyed
        rintro (hmem | heq | hmem)
        · exact hkeyed.1 (.inl hmem)
        · exact hpath heq.symm
        · exact hkeyed.1 (.inr hmem)
      unfold PathAccount
      rw [hgone]
      exact hbounded
    · unfold PathAccount at h ⊢
      rw [hseparate, hskip _ _ hold] at h
      rw [hseparate, hskip _ _ hpath]
      exact h

/-! ## Traffic -/

/-- Nothing was received or sent and no record changed. -/
structure SameTraffic (l l' : QuicConnectionLedgers) : Prop where
  role : l'.role = l.role
  received : l'.receivedByteCount = l.receivedByteCount
  sent : l'.sentByteCount = l.sentByteCount
  paths : l'.peerPaths = l.peerPaths
  validated : l.isAddressValidated → l'.isAddressValidated
  receivedDatagrams : l'.history.receivedDatagrams = l.history.receivedDatagrams
  sentPackets : l'.history.sentPackets = l.history.sentPackets

/-- What an entry can mean for the traffic of a connection. -/
inductive TrafficStep : QuicConnectionLedgers → QuicConnectionLedgers → Prop
  | none {l l' : QuicConnectionLedgers} : SameTraffic l l' → TrafficStep l l'
  | mark {l l' : QuicConnectionLedgers} (pathKey : QuicPathKey)
      {update : PeerPathState → PeerPathState} {paths : List PeerPathState} :
      Admitted pathKey l.peerPaths paths → PathMark update →
      SameTraffic l { l' with peerPaths := l.peerPaths } →
      l'.peerPaths = updatePath pathKey update paths → TrafficStep l l'
  | receive {l : QuicConnectionLedgers} (byteCount : Nat)
      (pathKey : QuicPathKey) {paths : List PeerPathState} :
      Admitted pathKey l.peerPaths paths →
      TrafficStep l (l.receiveBytes byteCount pathKey paths)
  | send {l l' : QuicConnectionLedgers} (note : SentPacketNote) {paths : List PeerPathState} :
      Admitted note.pathKey l.peerPaths paths →
      note.allowance = l.amplificationLimitForPath note.pathKey →
      note.hasPathRecord = (l.findPathState note.pathKey).isSome →
      (l.IsLimited note.pathKey → note.packet.byteCount ≤
        max note.allowance note.unbudgetedByteCount) →
      SameTraffic (l.enterSent note paths) l' → TrafficStep l l'

variable {l l' : QuicConnectionLedgers}

theorem LedgerStep.traffic {throws : Bool}
    (hstep : LedgerStep throws l l') : TrafficStep l l' := by
  cases hstep with
  | receive byteCount pathKey hpaths => exact .receive byteCount pathKey hpaths
  | markPath pathKey hpaths hmark =>
    exact .mark pathKey hpaths hmark ⟨rfl, rfl, rfl, rfl, id, rfl, rfl⟩ rfl
  | validateAddress => exact .none ⟨rfl, rfl, rfl, rfl, fun _ => rfl, rfl, rfl⟩
  | send note htakes hpaths hnumber hallowance hrecord hsize =>
    exact .send note hpaths hallowance hrecord hsize ⟨rfl, rfl, rfl, rfl, id, rfl, rfl⟩
  | arrive space packetNumber =>
    refine .none ?_
    unfold QuicConnectionLedgers.arrive
    simp only
    split <;> exact ⟨rfl, rfl, rfl, rfl, id, rfl, rfl⟩
  | resolve space acknowledged lost hheld =>
    refine .none ?_
    unfold QuicConnectionLedgers.resolve
    split <;> exact ⟨rfl, rfl, rfl, rfl, id, rfl, rfl⟩
  | adoptConnectionId frame hretire hnew =>
    refine .none ⟨?_, ?_, ?_, ?_, ?_, ?_, ?_⟩
    all_goals
      unfold adoptNewConnectionId ensureActiveIsHeld
      simp only
      repeat' split
    all_goals first
      | rfl
      | exact id
  | movePath | elicit | acknowledge | takeFragment | requeue | discard
    | startOver | writeCrypto | followConnectionId | noteConnectionIdFrame
    | limitError | noteToken =>
      exact .none ⟨rfl, rfl, rfl, rfl, id, rfl, rfl⟩

theorem TrafficStep.role (hstep : TrafficStep l l') : l'.role = l.role:= by
  cases hstep with
  | none hsame => exact hsame.role
  | mark pathKey hpaths hmark hsame => exact hsame.role
  | receive => rfl
  | send note hpaths hallowance hrecord hsize hsame => exact hsame.role

theorem QuicConnectionLedgers.amplificationLimit_le_connection
    (l : QuicConnectionLedgers) (hlocal : l.isLocalServer)
    (hopen : l.isAddressValidated = false) (pathKey : QuicPathKey) :
    l.amplificationLimitForPath pathKey ≤
      kQuicAmplificationFactor * l.receivedByteCount - l.sentByteCount := by
  unfold amplificationLimitForPath
  simp only [hlocal, hopen, Bool.not_false, Bool.and_self, Bool.true_and,
    if_true, saturatingSubtract_eq]
  repeat' split
  all_goals first
    | exact Nat.le_refl _
    | exact Nat.min_le_left _ _

variable {pathKey : QuicPathKey}

theorem QuicConnectionLedgers.amplificationLimit_le_path
    (l : QuicConnectionLedgers) (hlocal : l.isLocalServer)
    (hnamed : isUnspecifiedQuicPathKey pathKey = false)
    {state : PeerPathState} (hrecord : l.findPathState pathKey = some state)
    (hopen : state.isValidated = false) :
    l.amplificationLimitForPath pathKey ≤ kQuicAmplificationFactor * state.receivedByteCount -
        state.sentByteCount := by
  unfold amplificationLimitForPath
  simp only [hlocal, hnamed, hrecord, hopen, Bool.not_false, Bool.and_self,
    if_true, saturatingSubtract_eq]
  exact Nat.min_le_right _ _

/-- Until the address is validated, three bytes for each received. -/
def ConnectionAccount (l : QuicConnectionLedgers) : Prop :=
  l.role = .server → l.isAddressValidated = false →
    l.sentByteCount ≤ kQuicAmplificationFactor * l.receivedByteCount

theorem ConnectionAccount.sameTraffic
    (h : ConnectionAccount l) (hsame : SameTraffic l l') : ConnectionAccount l' := by
  intro hserver hopen
  rw [hsame.role] at hserver
  rw [hsame.sent, hsame.received]
  refine h hserver ?_
  cases hvalidated : l.isAddressValidated with
  | false => rfl
  | true =>
    rw [hsame.validated hvalidated] at hopen
    cases hopen

theorem ConnectionAccount.step (h : ConnectionAccount l) (hstep : TrafficStep l l')
    (hfits : ∀ note ∈ l'.history.sentPackets, note.FitsAllowance) : ConnectionAccount l' := by
  cases hstep with
  | none hsame => exact h.sameTraffic hsame
  | mark pathKey hpaths hmark hsame =>
    have hkept := h.sameTraffic hsame
    exact hkept
  | receive byteCount pathKey hpaths =>
    intro hserver hopen
    have hbound := h hserver hopen
    simp only [receiveBytes]
    unfold kQuicAmplificationFactor at *
    omega
  | send note hpaths hallowance hrecord hsize hsame =>
    refine ConnectionAccount.sameTraffic (fun hserver hopen => ?_) hsame
    have hbound := h hserver hopen
    have hnote : note.FitsAllowance :=
      hfits note (by
        rw [hsame.sentPackets]
        exact mem_append_right _ mem_cons_self)
    have hlocal : l.isLocalServer := by
      unfold isLocalServer
      rw [show l.role = .server from hserver]
      rfl
    have hlimited := hsize ⟨hlocal, .inl hopen⟩
    rw [Nat.max_eq_left hnote, hallowance] at hlimited
    have hlimit := l.amplificationLimit_le_connection hlocal hopen note.pathKey
    simp only [enterSent]
    omega

/-! ## A path's limit -/

def PeerPathState.addReceived (byteCount : Nat) (state : PeerPathState) :
    PeerPathState :=
  { state with receivedByteCount := state.receivedByteCount + byteCount }

def PeerPathState.addSent (byteCount : Nat) (state : PeerPathState) :
    PeerPathState :=
  { state with sentByteCount := state.sentByteCount + byteCount }

/-- The account of every path but the one without a name. -/
structure PathAccounts (l : QuicConnectionLedgers) : Prop where
  keyed : KeyedPaths l.peerPaths
  server : l.role = .server
  account : ∀ pathKey, isUnspecifiedQuicPathKey pathKey = false →
    (∀ note ∈ l.history.sentPackets, note.pathKey = pathKey →
      note.hasPathRecord = true ∧ note.FitsAllowance) →
    PathAccount pathKey l.peerPaths (l.history.bytesSentTo pathKey)
      (l.history.bytesReceivedFrom pathKey)

theorem PathAccount.receive (h : PathAccount pathKey paths sent received) (byteCount : Nat) :
    PathAccount pathKey (updatePath other (.addReceived byteCount) paths)
      sent (received + if other = pathKey then byteCount else 0) := by
  have hkey : ∀ state, (addReceived byteCount state).key =
      state.key := fun _ => rfl
  unfold PathAccount at h ⊢
  rw [recordOf_updatePath hkey]
  cases hrecord : recordOf pathKey paths with
  | none =>
    rw [hrecord] at h
    simp only [Option.map_none, kQuicAmplificationFactor] at h ⊢
    omega
  | some state =>
    rw [hrecord] at h
    simp only [Option.map_some, kQuicAmplificationFactor] at h ⊢
    by_cases hpath : pathKey = other
    · subst hpath
      simp only [if_true, addReceived] at h ⊢
      exact h.imp_right fun hcounts => by omega
    · simp only [hpath, Ne.symm hpath, if_false] at h ⊢
      exact h

theorem PathAccount.mark (h : PathAccount pathKey paths sent received)
    (hmark : PathMark update) :
    PathAccount pathKey (updatePath other update paths) sent received := by
  unfold PathAccount at h ⊢
  rw [recordOf_updatePath hmark.key]
  cases hrecord : recordOf pathKey paths with
  | none => rwa [hrecord] at h
  | some state =>
    rw [hrecord] at h
    simp only [Option.map_some]
    split
    · rw [hmark.sent, hmark.received]
      exact h.imp_left (hmark.validated state)
    · exact h

theorem PathAccount.send (h : PathAccount pathKey paths sent received) (byteCount : Nat)
    (hlimit : other = pathKey → ∃ state, recordOf pathKey paths = some state ∧
      (state.isValidated = false → byteCount ≤
        kQuicAmplificationFactor * state.receivedByteCount - state.sentByteCount)) :
    PathAccount pathKey (updatePath other (.addSent byteCount) paths)
      (sent + if other = pathKey then byteCount else 0) received := by
  have hkey : ∀ state, (addSent byteCount state).key =
      state.key := fun _ => rfl
  unfold PathAccount at h ⊢
  rw [recordOf_updatePath hkey]
  by_cases hpath : other = pathKey
  · subst hpath
    obtain ⟨state, hrecord, hfits⟩ := hlimit rfl
    rw [hrecord] at h ⊢
    simp only [Option.map_some, if_true, kQuicAmplificationFactor, addSent] at h hfits ⊢
    rcases h with hvalidated | hcounts
    · exact .inl hvalidated
    cases hopen : state.isValidated with
    | true => exact .inl rfl
    | false =>
      have := hfits hopen
      exact .inr (by omega)
  · cases hrecord : recordOf pathKey paths with
    | none =>
      rw [hrecord] at h
      simpa [hpath] using h
    | some state =>
      rw [hrecord] at h
      simpa [hpath, Ne.symm hpath] using h

namespace PathAccounts

variable {l l' : QuicConnectionLedgers}

theorem sameTraffic (h : PathAccounts l) (hsame : SameTraffic l l') : PathAccounts l' where
  keyed := hsame.paths ▸ h.keyed
  server := hsame.role.trans h.server
  account := fun pathKey hnamed hnotes => by
    unfold bytesSentTo bytesReceivedFrom
    rw [hsame.sentPackets] at hnotes
    rw [hsame.paths, hsame.sentPackets, hsame.receivedDatagrams]
    exact h.account pathKey hnamed hnotes

variable {paths : List PeerPathState}

theorem mark (h : PathAccounts l)
    (hpaths : Admitted pathKey l.peerPaths paths) (hmark : PathMark update) :
    PathAccounts { l with peerPaths := updatePath pathKey update paths } where
  keyed := (h.keyed.admitted hpaths).updatePath hmark.key
  server := h.server
  account := fun path hnamed hnotes =>
    ((h.account path hnamed hnotes).admitted h.keyed hpaths).mark hmark

theorem receive (h : PathAccounts l) (byteCount : Nat)
    (hpaths : Admitted pathKey l.peerPaths paths) :
    PathAccounts (l.receiveBytes byteCount pathKey paths) where
  keyed := (h.keyed.admitted hpaths).updatePath fun _ => rfl
  server := h.server
  account := fun path hnamed hnotes => by
    have hreceived : (l.receiveBytes byteCount pathKey paths).history.bytesReceivedFrom path =
        l.history.bytesReceivedFrom path +
          if pathKey = path then byteCount else 0 := by
      unfold bytesReceivedFrom
      simp only [receiveBytes, filter_append, map_append, sum_append, filter_singleton]
      by_cases hpath : pathKey = path <;> simp [hpath]
    rw [hreceived]
    exact ((h.account path hnamed hnotes).admitted h.keyed hpaths).receive byteCount

theorem send (h : PathAccounts l) {note : SentPacketNote}
    (hpaths : Admitted note.pathKey l.peerPaths paths)
    (hallowance : note.allowance = l.amplificationLimitForPath note.pathKey)
    (hrecord : note.hasPathRecord = (l.findPathState note.pathKey).isSome)
    (hsize : l.IsLimited note.pathKey → note.packet.byteCount ≤
      max note.allowance note.unbudgetedByteCount) :
    PathAccounts (l.enterSent note paths) where
  keyed := (h.keyed.admitted hpaths).updatePath fun _ => rfl
  server := h.server
  account := fun path hnamed hnotes => by
    have hsent : (l.enterSent note paths).history.bytesSentTo path = l.history.bytesSentTo path +
          if note.pathKey = path then note.packet.byteCount else 0 := by
      unfold bytesSentTo
      simp only [enterSent, filter_append, map_append, sum_append, filter_singleton]
      by_cases hpath : note.pathKey = path <;> simp [hpath]
    have hnotes' : ∀ other ∈ l.history.sentPackets, other.pathKey = path →
        other.hasPathRecord ∧ other.FitsAllowance :=
      fun other hother => hnotes other (mem_append_left _ hother)
    have haccount := (h.account path hnamed hnotes').admitted h.keyed hpaths
    have hlocal : l.isLocalServer := by
      unfold isLocalServer
      rw [h.server]
      rfl
    rw [hsent]
    refine haccount.send note.packet.byteCount fun hpath => ?_
    obtain ⟨hhasRecord, hfits⟩ := hnotes note (mem_append_right _ mem_cons_self) hpath
    obtain ⟨state, hstate⟩ := Option.isSome_iff_exists.mp (hrecord ▸ hhasRecord)
    rw [hpath] at hstate
    have hkept : paths = l.peerPaths := by
      rw [hpath] at hpaths
      exact hpaths.eq_of_record hstate
    rw [hkept]
    refine ⟨state, hstate, fun hopen => ?_⟩
    have hlimited := hsize ⟨hlocal, .inr ⟨hpath ▸ hnamed, state, hpath ▸ hstate, hopen⟩⟩
    rw [Nat.max_eq_left hfits, hallowance, hpath] at hlimited
    exact Nat.le_trans hlimited (l.amplificationLimit_le_path hlocal hnamed hstate hopen)

theorem step (h : PathAccounts l) (hstep : TrafficStep l l') : PathAccounts l' := by
  cases hstep with
  | none hsame => exact h.sameTraffic hsame
  | @mark _ pathKey update paths hpaths hmark hsame hmoved =>
    have hsame' : SameTraffic { l with peerPaths := updatePath pathKey update paths } l' :=
      ⟨hsame.role, hsame.received, hsame.sent, hmoved, hsame.validated,
        hsame.receivedDatagrams, hsame.sentPackets⟩
    exact (h.mark hpaths hmark).sameTraffic hsame'
  | receive byteCount pathKey hpaths => exact h.receive byteCount hpaths
  | send note hpaths hallowance hrecord hsize hsame =>
    exact (h.send hpaths hallowance hrecord hsize).sameTraffic hsame

end PathAccounts

/-! ## Over runs -/

namespace QuicConnectionCore

variable {environment : QuicEnvironment}
  {configuration : QuicConnectionCoreConfiguration}
  {core : QuicConnectionCore}

theorem PathAccounts.start (environment : QuicEnvironment)
    {configuration : QuicConnectionCoreConfiguration} (hserver : configuration.role = .server) :
    PathAccounts (start environment configuration).ledgers := by
  rw [ledgers_start]
  exact ⟨nodup_nil, hserver, fun _ _ _ => Nat.zero_le _⟩

end QuicConnectionCore

end AsynGyanis.Quic
