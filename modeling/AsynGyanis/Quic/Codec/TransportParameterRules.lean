import AsynGyanis.Quic.Codec.TransportParameters

/-!
# What the parameter decoder accepts

One inversion lemma, `applyParameter_inv`, lists what a triple can do to the
parameters decoded so far: set one member of a table within its range, set
the token or the flag, or nothing. From it come by induction on the row of
triples that known identifiers do not repeat, that all members stay within
their ranges, and that triples nobody knows could have been left out.

The other way round, the triples of a legal set of parameters are applied
one table at a time. Together: `transport_parameters_round_trip`.
-/

namespace AsynGyanis.Quic

open Library List

/-! ## Legal parameters -/

namespace QuicConnectionTransportParameters

/-- The ranges of §18.2. -/
structure WithinRanges (p : QuicConnectionTransportParameters) : Prop where
  maximumIdleTimeout : p.maximumIdleTimeoutMilliseconds ≤ kQuicMaximumIntegerValue
  maximumUdpPayloadSize : 1200 ≤ p.maximumUdpPayloadSize ∧
    p.maximumUdpPayloadSize ≤ kQuicMaximumIntegerValue
  initialMaximumData : p.initialMaximumData ≤ kQuicMaximumIntegerValue
  initialMaximumStreamDataBidirectionalLocal :
    p.initialMaximumStreamDataBidirectionalLocal ≤ kQuicMaximumIntegerValue
  initialMaximumStreamDataBidirectionalRemote :
    p.initialMaximumStreamDataBidirectionalRemote ≤ kQuicMaximumIntegerValue
  initialMaximumStreamDataUnidirectional :
    p.initialMaximumStreamDataUnidirectional ≤ kQuicMaximumIntegerValue
  initialMaximumBidirectionalStreams : p.initialMaximumBidirectionalStreams ≤ 2 ^ 60
  initialMaximumUnidirectionalStreams : p.initialMaximumUnidirectionalStreams ≤ 2 ^ 60
  acknowledgmentDelayExponent : p.acknowledgmentDelayExponent ≤ 20
  maximumAcknowledgmentDelay : p.maximumAcknowledgmentDelayMilliseconds < 2 ^ 14
  activeConnectionIdLimit : 2 ≤ p.activeConnectionIdLimit ∧
    p.activeConnectionIdLimit ≤ kQuicMaximumIntegerValue
  originalDestinationConnectionId : ∀ id ∈ p.originalDestinationConnectionId, id.length ≤ 20
  initialSourceConnectionId : ∀ id ∈ p.initialSourceConnectionId, id.length ≤ 20
  retrySourceConnectionId : ∀ id ∈ p.retrySourceConnectionId, id.length ≤ 20

/-- Nothing only a server may declare. -/
structure FreeOfServerOnly (p : QuicConnectionTransportParameters) : Prop where
  originalDestinationConnectionId : p.originalDestinationConnectionId = none
  retrySourceConnectionId : p.retrySourceConnectionId = none
  statelessResetToken : p.statelessResetToken = none

/-- What a side in the role may declare, with what it has to. -/
structure LegalFor (senderRole : QuicTransportParameterSenderRole)
    (p : QuicConnectionTransportParameters) : Prop extends WithinRanges p where
  client : senderRole = .client → p.FreeOfServerOnly
  hasInitialSource : p.initialSourceConnectionId.isSome = true
  server : senderRole = .server → p.originalDestinationConnectionId.isSome = true

end QuicConnectionTransportParameters

open QuicConnectionTransportParameters

/-- Identifiers the decoder has a use for. -/
def isKnownIdentifier (identifier : Nat) : Bool :=
  (kIntegerParameters.any fun binding => binding.identifier == identifier) ||
    (kConnectionIdParameters.any fun binding =>
      binding.identifier == identifier) ||
    identifier == kIdStatelessResetToken ||
    identifier == kIdDisableActiveMigration

/-! ## The identifiers seen -/

section Seen

variable {seenMask seenMask' identifier other : Nat} {name : String}

theorem testBit_markSeen : (seenMask ||| 1 <<< identifier).testBit other =
      (seenMask.testBit other || decide (identifier = other)) := by
  rw [Nat.testBit_or, Nat.one_shiftLeft, Nat.testBit_two_pow]

theorem markSeen_eq (h : seenMask.testBit identifier = false) :
    markSeen seenMask identifier name = .ok (seenMask ||| 1 <<< identifier) := by
  unfold markSeen
  rw [Nat.one_shiftLeft, Nat.and_two_pow, h]
  simp

theorem markSeen_ok (h : markSeen seenMask identifier name = .ok seenMask') :
    seenMask.testBit identifier = false ∧ seenMask' = seenMask ||| 1 <<< identifier := by
  cases hbit : seenMask.testBit identifier with
  | false =>
    rw [markSeen_eq hbit] at h
    injection h with h
    exact ⟨rfl, h.symm⟩
  | true =>
    unfold markSeen at h
    rw [Nat.one_shiftLeft, Nat.and_two_pow, hbit] at h
    simp at h

end Seen

/-! ## What one triple does -/

/-- The effect of a triple that is accepted. -/
inductive Applied (decoded : DecodedParameters) (item : ParameterItem) :
    DecodedParameters → Prop
  | integer {binding : IntegerParameterBinding} {value : Nat} :
      binding ∈ kIntegerParameters → item.identifier = binding.identifier →
      readIntegerValue item.value binding.name = .ok value →
      binding.minimumValue ≤ value → value ≤ binding.maximumValue →
      decoded.seenMask.testBit item.identifier = false →
      Applied decoded item ⟨binding.member.set value decoded.parameters,
        decoded.seenMask ||| 1 <<< item.identifier⟩
  | connectionId {binding : ConnectionIdParameterBinding} : binding ∈ kConnectionIdParameters →
      item.identifier = binding.identifier →
      item.value.length ≤ kQuicMaximumConnectionIdLength →
      decoded.seenMask.testBit item.identifier = false →
      Applied decoded item
        ⟨binding.member.set (some item.value) decoded.parameters,
          decoded.seenMask ||| 1 <<< item.identifier⟩
  | statelessResetToken (token : QuicStatelessResetToken) :
      item.identifier = kIdStatelessResetToken →
      decoded.seenMask.testBit item.identifier = false →
      Applied decoded item
        ⟨{ decoded.parameters with statelessResetToken := some token },
          decoded.seenMask ||| 1 <<< item.identifier⟩
  | disableActiveMigration : item.identifier = kIdDisableActiveMigration → item.value = [] →
      decoded.seenMask.testBit item.identifier = false →
      Applied decoded item
        ⟨{ decoded.parameters with disableActiveMigration := true },
          decoded.seenMask ||| 1 <<< item.identifier⟩
  | unknown : isKnownIdentifier item.identifier = false → Applied decoded item decoded

variable {binding : ConnectionIdParameterBinding}

section Step

variable {senderRole : QuicTransportParameterSenderRole}
  {decoded decoded' : DecodedParameters} {item : ParameterItem}

theorem markSeen_bind_inv {identifier : Nat} {name : String}
    {rest : Nat → Except QuicDecodeError DecodedParameters}
    (hidentifier : item.identifier = identifier)
    (h : markSeen decoded.seenMask identifier name >>= rest = .ok decoded') :
    decoded.seenMask.testBit item.identifier = false ∧
      rest (decoded.seenMask ||| 1 <<< item.identifier) = .ok decoded' := by
  subst hidentifier
  cases hseen : markSeen decoded.seenMask item.identifier name with
  | error e =>
    rw [hseen] at h
    cases h
  | ok seenMask =>
    rw [hseen] at h
    obtain ⟨hfresh, rfl⟩ := markSeen_ok hseen
    exact ⟨hfresh, h⟩

theorem applyInteger_inv {binding : IntegerParameterBinding}
    (hbinding : binding ∈ kIntegerParameters)
    (hidentifier : item.identifier = binding.identifier)
    (h : applyInteger binding decoded item.value = .ok decoded') :
    Applied decoded item decoded' := by
  obtain ⟨hfresh, h⟩ := markSeen_bind_inv hidentifier h
  cases hvalue : readIntegerValue item.value binding.name with
  | error e =>
    rw [hvalue] at h
    cases h
  | ok value =>
    simp only [hvalue, bind, Except.bind] at h
    split at h
    · cases h
    injection h with h
    rw [← h]
    exact .integer hbinding hidentifier hvalue (by omega) (by omega) hfresh

theorem applyConnectionId_inv (hbinding : binding ∈ kConnectionIdParameters)
    (hidentifier : item.identifier = binding.identifier)
    (h : applyConnectionId binding decoded item.value = .ok decoded') :
    Applied decoded item decoded' := by
  obtain ⟨hfresh, h⟩ := markSeen_bind_inv hidentifier h
  simp only [readConnectionIdValue, bind, Except.bind] at h
  by_cases hlength : item.value.length > kQuicMaximumConnectionIdLength
  · rw [if_pos hlength] at h
    cases h
  · rw [if_neg hlength] at h
    injection h with h
    rw [← h]
    exact .connectionId hbinding hidentifier (by omega) hfresh

theorem applyStatelessResetToken_inv (hidentifier : item.identifier = kIdStatelessResetToken)
    (h : applyStatelessResetToken decoded item.value = .ok decoded') :
    Applied decoded item decoded' := by
  obtain ⟨hfresh, h⟩ := markSeen_bind_inv hidentifier h
  split at h
  · cases h
  · injection h with h
    rw [← h]
    exact .statelessResetToken _ hidentifier hfresh

theorem applyDisableActiveMigration_inv (hidentifier : item.identifier = kIdDisableActiveMigration)
    (h : applyDisableActiveMigration decoded item.value = .ok decoded') :
    Applied decoded item decoded' := by
  obtain ⟨hfresh, h⟩ := markSeen_bind_inv hidentifier h
  split at h
  · next hvalue =>
    injection h with h
    rw [← h]
    exact .disableActiveMigration hidentifier (isEmpty_iff.mp hvalue) hfresh
  · cases h

theorem applyParameter_inv (h : applyParameter senderRole decoded item = .ok decoded') :
    (senderRole = .client → isServerOnlyIdentifier item.identifier = false) ∧
      Applied decoded item decoded' := by
  unfold applyParameter at h
  split at h
  · cases h
  rename_i hrole
  refine ⟨fun hclient => ?_, ?_⟩
  · exact Bool.eq_false_iff.mpr fun honly => hrole ⟨honly, hclient⟩
  split at h
  · next binding hfound =>
    have hidentifier := find?_some hfound
    simp only [beq_iff_eq] at hidentifier
    exact applyInteger_inv (mem_of_find?_eq_some hfound) hidentifier.symm h
  rename_i hinteger
  split at h
  · next binding hfound =>
    have hidentifier := find?_some hfound
    simp only [beq_iff_eq] at hidentifier
    exact applyConnectionId_inv (mem_of_find?_eq_some hfound) hidentifier.symm h
  rename_i hconnectionId
  split at h
  · next htoken => exact applyStatelessResetToken_inv htoken h
  rename_i htoken
  split at h
  · next hflag => exact applyDisableActiveMigration_inv hflag h
  rename_i hflag
  injection h with h
  rw [← h]
  refine .unknown ?_
  unfold isKnownIdentifier
  rw [find?_eq_none] at hinteger hconnectionId
  simp only [Bool.or_eq_false_iff, any_eq_false, beq_eq_false_iff_ne]
  exact ⟨⟨⟨hinteger, hconnectionId⟩, htoken⟩, hflag⟩

theorem isKnownIdentifier_integer {binding : IntegerParameterBinding}
    (h : binding ∈ kIntegerParameters) : isKnownIdentifier binding.identifier := by
  unfold isKnownIdentifier
  simp only [Bool.or_eq_true, any_eq_true, beq_iff_eq]
  exact .inl (.inl (.inl ⟨binding, h, rfl⟩))

theorem isKnownIdentifier_connectionId (h : binding ∈ kConnectionIdParameters) :
    isKnownIdentifier binding.identifier := by
  unfold isKnownIdentifier
  simp only [Bool.or_eq_true, any_eq_true, beq_iff_eq]
  exact .inl (.inl (.inr ⟨binding, h, rfl⟩))

/-- A known identifier was not seen before, and counts as seen now; the
others are as they were. -/
theorem Applied.seen (h : Applied decoded item decoded') :
    if isKnownIdentifier item.identifier then
      decoded.seenMask.testBit item.identifier = false ∧
        decoded'.seenMask = decoded.seenMask ||| 1 <<< item.identifier
    else decoded' = decoded := by
  cases h with
  | integer hbinding hidentifier hvalue hmin hmax hfresh =>
    rw [if_pos (hidentifier ▸ isKnownIdentifier_integer hbinding)]
    exact ⟨hfresh, rfl⟩
  | connectionId hbinding hidentifier hlength hfresh =>
    rw [if_pos (hidentifier ▸ isKnownIdentifier_connectionId hbinding)]
    exact ⟨hfresh, rfl⟩
  | statelessResetToken token hidentifier hfresh =>
    rw [if_pos (by rw [hidentifier]; rfl)]
    exact ⟨hfresh, rfl⟩
  | disableActiveMigration hidentifier hvalue hfresh =>
    rw [if_pos (by rw [hidentifier]; rfl)]
    exact ⟨hfresh, rfl⟩
  | unknown hunknown =>
    rw [if_neg (by rw [hunknown]; exact Bool.false_ne_true)]

theorem QuicConnectionTransportParameters.WithinRanges.set_integer
    {binding : IntegerParameterBinding} {p : QuicConnectionTransportParameters} {value : Nat}
    (h : p.WithinRanges) (hbinding : binding ∈ kIntegerParameters)
    (hmin : binding.minimumValue ≤ value) (hmax : value ≤ binding.maximumValue) :
    (binding.member.set value p).WithinRanges := by
  unfold kIntegerParameters at hbinding
  simp only [mem_cons, not_mem_nil, or_false] at hbinding
  rcases hbinding with rfl | rfl | rfl | rfl | rfl | rfl | rfl | rfl | rfl |
    rfl | rfl
  · exact { h with maximumIdleTimeout := hmax }
  · exact { h with maximumUdpPayloadSize := ⟨hmin, hmax⟩ }
  · exact { h with initialMaximumData := hmax }
  · exact { h with initialMaximumStreamDataBidirectionalLocal := hmax }
  · exact { h with initialMaximumStreamDataBidirectionalRemote := hmax }
  · exact { h with initialMaximumStreamDataUnidirectional := hmax }
  · exact { h with initialMaximumBidirectionalStreams := hmax }
  · exact { h with initialMaximumUnidirectionalStreams := hmax }
  · exact { h with acknowledgmentDelayExponent := hmax }
  · exact { h with maximumAcknowledgmentDelay := Nat.lt_succ_of_le hmax }
  · exact { h with activeConnectionIdLimit := ⟨hmin, hmax⟩ }

theorem QuicConnectionTransportParameters.WithinRanges.set_connectionId
    {p : QuicConnectionTransportParameters} {value : Bytes}
    (h : p.WithinRanges) (hbinding : binding ∈ kConnectionIdParameters)
    (hlength : value.length ≤ kQuicMaximumConnectionIdLength) :
    (binding.member.set (some value) p).WithinRanges := by
  have hvalue : ∀ id ∈ some value, id.length ≤ 20 := by
    rintro id ⟨⟩
    exact hlength
  unfold kConnectionIdParameters at hbinding
  simp only [mem_cons, not_mem_nil, or_false] at hbinding
  rcases hbinding with rfl | rfl | rfl
  · exact { h with originalDestinationConnectionId := hvalue }
  · exact { h with initialSourceConnectionId := hvalue }
  · exact { h with retrySourceConnectionId := hvalue }

theorem Applied.withinRanges (h : Applied decoded item decoded')
    (hranges : decoded.parameters.WithinRanges) : decoded'.parameters.WithinRanges := by
  cases h with
  | integer hbinding hidentifier hvalue hmin hmax hfresh =>
    exact hranges.set_integer hbinding hmin hmax
  | connectionId hbinding hidentifier hlength hfresh =>
    exact hranges.set_connectionId hbinding hlength
  | statelessResetToken token hidentifier hfresh => exact { hranges with }
  | disableActiveMigration hidentifier hvalue hfresh => exact { hranges with }
  | unknown hunknown => exact hranges

theorem Applied.freeOfServerOnly (h : Applied decoded item decoded')
    (honly : isServerOnlyIdentifier item.identifier = false)
    (hfree : decoded.parameters.FreeOfServerOnly) : decoded'.parameters.FreeOfServerOnly := by
  cases h with
  | integer hbinding hidentifier hvalue hmin hmax hfresh =>
    unfold kIntegerParameters at hbinding
    simp only [mem_cons, not_mem_nil, or_false] at hbinding
    rcases hbinding with rfl | rfl | rfl | rfl | rfl | rfl | rfl | rfl |
      rfl | rfl | rfl
    all_goals exact { hfree with }
  | connectionId hbinding hidentifier hlength hfresh =>
    unfold kConnectionIdParameters at hbinding
    simp only [mem_cons, not_mem_nil, or_false] at hbinding
    rcases hbinding with rfl | rfl | rfl
    · rw [hidentifier] at honly
      cases honly
    · exact { hfree with }
    · rw [hidentifier] at honly
      cases honly
  | statelessResetToken token hidentifier hfresh =>
    rw [hidentifier] at honly
    cases honly
  | disableActiveMigration hidentifier hvalue hfresh => exact { hfree with }
  | unknown hunknown => exact hfree

end Step

/-! ## What a row of triples does -/

section Run

variable {senderRole : QuicTransportParameterSenderRole}
  {decoded decoded' : DecodedParameters} {items : List ParameterItem}

theorem applyParameters_induction {P : DecodedParameters → Prop}
    (hstep : ∀ decoded item decoded',
      (senderRole = .client → isServerOnlyIdentifier item.identifier = false) →
      Applied decoded item decoded' → P decoded → P decoded')
    (h : applyParameters senderRole decoded items = .ok decoded')
    (hstart : P decoded) : P decoded' := by
  induction items generalizing decoded with
  | nil =>
    injection h with h
    exact h ▸ hstart
  | cons item items ih =>
    unfold applyParameters at h
    split at h
    · cases h
    rename_i next hnext
    obtain ⟨honly, happlied⟩ := applyParameter_inv hnext
    exact ih h (hstep _ _ _ honly happlied hstart)

theorem applyParameters_serverOnly (h : applyParameters .client decoded items = .ok decoded') :
    ∀ item ∈ items, isServerOnlyIdentifier item.identifier = false := by
  induction items generalizing decoded with
  | nil => exact fun item hitem => absurd hitem not_mem_nil
  | cons head items ih =>
    unfold applyParameters at h
    split at h
    · cases h
    rename_i next hnext
    intro item hitem
    rcases mem_cons.mp hitem with rfl | hitem
    · exact (applyParameter_inv hnext).1 rfl
    · exact ih h item hitem

/-- The identifiers of a row the decoder has a use for. -/
def knownIdentifiers (items : List ParameterItem) : List Nat :=
  (items.map (·.identifier)).filter isKnownIdentifier

theorem applyParameters_nodup (h : applyParameters senderRole decoded items = .ok decoded') :
    (knownIdentifiers items).Nodup ∧ ∀ identifier ∈ knownIdentifiers items,
        decoded.seenMask.testBit identifier = false := by
  induction items generalizing decoded with
  | nil => exact ⟨nodup_nil, fun _ h => absurd h not_mem_nil⟩
  | cons item items ih =>
    unfold applyParameters at h
    split at h
    · cases h
    rename_i next hnext
    obtain ⟨hnodup, hfresh⟩ := ih h
    have hseen := (applyParameter_inv hnext).2.seen
    unfold knownIdentifiers at hnodup hfresh ⊢
    rw [map_cons]
    by_cases hknown : isKnownIdentifier item.identifier
    · rw [if_pos hknown] at hseen
      obtain ⟨hunseen, hmask⟩ := hseen
      rw [filter_cons_of_pos hknown]
      have hlater : ∀ identifier ∈ (items.map (·.identifier)).filter
          isKnownIdentifier, decoded.seenMask.testBit identifier = false ∧
            item.identifier ≠ identifier := by
        intro identifier hidentifier
        have hbit := hfresh identifier hidentifier
        rw [hmask, testBit_markSeen, Bool.or_eq_false_iff] at hbit
        exact ⟨hbit.1, of_decide_eq_false hbit.2⟩
      refine ⟨nodup_cons.mpr ⟨fun hmem => ?_, hnodup⟩, ?_⟩
      · exact (hlater _ hmem).2 rfl
      intro identifier hidentifier
      rcases mem_cons.mp hidentifier with rfl | hidentifier
      · exact hunseen
      · exact (hlater identifier hidentifier).1
    · rw [if_neg hknown] at hseen
      rw [filter_cons_of_neg hknown]
      rw [hseen] at hfresh
      exact ⟨hnodup, hfresh⟩

theorem applyParameters_known (h : applyParameters senderRole decoded items = .ok decoded') :
    applyParameters senderRole decoded
      (items.filter fun item => isKnownIdentifier item.identifier) = .ok decoded' := by
  induction items generalizing decoded with
  | nil => exact h
  | cons item items ih =>
    unfold applyParameters at h
    split at h
    · cases h
    rename_i next hnext
    have hseen := (applyParameter_inv hnext).2.seen
    by_cases hknown : isKnownIdentifier item.identifier
    · rw [filter_cons_of_pos (by exact hknown), applyParameters, hnext]
      exact ih h
    rw [if_neg hknown] at hseen
    rw [filter_cons_of_neg (by exact hknown)]
    rw [hseen] at h
    exact ih h

end Run

/-! ## Applying the triples of legal parameters -/

variable (p : QuicConnectionTransportParameters)

def integerItem (binding : IntegerParameterBinding) : ParameterItem :=
  ⟨binding.identifier, quicIntegerBytes (binding.member.get p)⟩

def connectionIdItem? (binding : ConnectionIdParameterBinding) : Option ParameterItem :=
  (binding.member.get p).map fun id => ⟨binding.identifier, id⟩

def statelessResetTokenItem : List ParameterItem :=
  match p.statelessResetToken with
  | some token => [⟨kIdStatelessResetToken, token.toList⟩]
  | none => []

def disableActiveMigrationItem : List ParameterItem :=
  if p.disableActiveMigration then [⟨kIdDisableActiveMigration, []⟩] else []

/-- The triples the encoder writes. -/
def itemsOf : List ParameterItem := kConnectionIdParameters.filterMap (connectionIdItem? p) ++
    (kIntegerParameters.map (integerItem p) ++
      (statelessResetTokenItem p ++ disableActiveMigrationItem p))

/-- A triple, and what it is there to set. -/
structure Setting where
  item : ParameterItem
  set : QuicConnectionTransportParameters → QuicConnectionTransportParameters

def settingsOf : List Setting :=
  kConnectionIdParameters.filterMap (fun binding =>
      (connectionIdItem? p binding).map fun item =>
        ⟨item, binding.member.set (some item.value)⟩) ++
    (kIntegerParameters.map (fun binding =>
        ⟨integerItem p binding, binding.member.set (binding.member.get p)⟩) ++
      ((statelessResetTokenItem p).map (⟨·, fun q =>
          { q with statelessResetToken := p.statelessResetToken }⟩) ++
        (disableActiveMigrationItem p).map (⟨·, fun q =>
          { q with disableActiveMigration := p.disableActiveMigration }⟩)))

theorem map_item_settingsOf : (settingsOf p).map (·.item) = itemsOf p := by
  unfold settingsOf itemsOf
  simp [map_filterMap, Function.comp_def]

theorem foldl_settingsOf (p : QuicConnectionTransportParameters) :
    (settingsOf p).foldl (fun q setting => setting.set q) {} = p := by
  obtain ⟨base, idle, payload, exponent, delay, limit, original, initial,
    retry, token, migration⟩ := p
  rcases original with _ | original
  all_goals rcases initial with _ | initial
  all_goals rcases retry with _ | retry
  all_goals rcases token with _ | token
  all_goals rcases migration with _ | _
  all_goals rfl

theorem connectionIdItems_sublist (bindings : List ConnectionIdParameterBinding) :
    ((bindings.filterMap (connectionIdItem? p)).map
      (·.identifier)).Sublist (bindings.map (·.identifier)) := by
  induction bindings with
  | nil => exact .slnil
  | cons binding bindings ih =>
    rcases hid : binding.member.get p with _ | id
    · rw [filterMap_cons_none (by simp [connectionIdItem?, hid])]
      exact ih.cons _
    · rw [filterMap_cons_some (b := ⟨binding.identifier, id⟩) (by simp [connectionIdItem?, hid])]
      exact ih.cons_cons _

theorem nodup_itemsOf : ((itemsOf p).map (·.identifier)).Nodup := by
  have hall : (kConnectionIdParameters.map (·.identifier) ++
      (kIntegerParameters.map (·.identifier) ++
        ([kIdStatelessResetToken] ++ [kIdDisableActiveMigration]))).Nodup := by
    decide
  have htoken : ((statelessResetTokenItem p).map (·.identifier)).Sublist
      [kIdStatelessResetToken] := by
    unfold statelessResetTokenItem
    split
    · exact .refl _
    · exact nil_sublist _
  have hmigration : ((disableActiveMigrationItem p).map
      (·.identifier)).Sublist [kIdDisableActiveMigration] := by
    unfold disableActiveMigrationItem
    split
    · exact .refl _
    · exact nil_sublist _
  refine hall.sublist ?_
  simp only [itemsOf, map_append, map_map]
  exact (connectionIdItems_sublist p _).append
    ((List.Sublist.refl _).append (htoken.append hmigration))

section Apply

variable (senderRole : QuicTransportParameterSenderRole)
  (p q : QuicConnectionTransportParameters) {seenMask : Nat}

/-- A triple that is accepted the first time, for what it sets. -/
def Sets (setting : Setting) : Prop :=
  ∀ q seenMask, seenMask.testBit setting.item.identifier = false →
    applyParameter senderRole ⟨q, seenMask⟩ setting.item =
      .ok ⟨setting.set q, seenMask ||| 1 <<< setting.item.identifier⟩

theorem applyParameters_settings {settings : List Setting}
    (hsets : ∀ setting ∈ settings, Sets senderRole setting)
    (hnodup : (settings.map (·.item.identifier)).Nodup)
    (hunseen : ∀ setting ∈ settings, seenMask.testBit setting.item.identifier = false) :
    ∃ mask, applyParameters senderRole ⟨q, seenMask⟩ (settings.map (·.item)) =
      .ok ⟨settings.foldl (fun q setting => setting.set q) q, mask⟩ := by
  induction settings generalizing q seenMask with
  | nil => exact ⟨seenMask, rfl⟩
  | cons setting settings ih =>
    obtain ⟨hfirst, hrest⟩ := nodup_cons.mp hnodup
    rw [map_cons, applyParameters, hsets setting mem_cons_self q seenMask
        (hunseen setting mem_cons_self)]
    refine ih _ (fun other hother =>
      hsets other (mem_cons_of_mem _ hother)) hrest fun other hother => ?_
    rw [testBit_markSeen, hunseen other (mem_cons_of_mem _ hother),
      Bool.false_or, decide_eq_false_iff_not]
    exact fun hsame => hfirst (mem_map.mpr ⟨other, hother, hsame.symm⟩)

theorem readIntegerValue_bytes {value : Nat}
    (h : value ≤ kQuicMaximumIntegerValue) (name : String) :
    readIntegerValue (quicIntegerBytes value) name = .ok value := by
  have hdecode := decodeQuicVariableLengthInteger_append h []
  rw [append_nil] at hdecode
  unfold readIntegerValue
  rw [hdecode]
  simp only
  rw [if_neg (by simp)]

theorem applyParameter_integer {binding : IntegerParameterBinding}
    (hbinding : binding ∈ kIntegerParameters)
    (hunseen : seenMask.testBit binding.identifier = false)
    (hmin : binding.minimumValue ≤ binding.member.get p)
    (hmax : binding.member.get p ≤ binding.maximumValue) :
    applyParameter senderRole ⟨q, seenMask⟩ (integerItem p binding) =
      .ok ⟨binding.member.set (binding.member.get p) q, seenMask ||| 1 <<< binding.identifier⟩ := by
  have htable : isServerOnlyIdentifier binding.identifier = false ∧
      kIntegerParameters.find? (fun candidate =>
        candidate.identifier == binding.identifier) = some binding ∧
      binding.maximumValue ≤ kQuicMaximumIntegerValue := by
    unfold kIntegerParameters at hbinding
    simp only [mem_cons, not_mem_nil, or_false] at hbinding
    rcases hbinding with rfl | rfl | rfl | rfl | rfl | rfl | rfl | rfl |
      rfl | rfl | rfl
    all_goals exact ⟨rfl, rfl, by decide⟩
  obtain ⟨honly, hfound, hencodable⟩ := htable
  unfold applyParameter integerItem
  simp only [honly, hfound, Bool.false_eq_true, false_and, if_false]
  unfold applyInteger
  rw [markSeen_eq hunseen, readIntegerValue_bytes (by omega)]
  simp only [bind, Except.bind]
  rw [if_neg (by omega)]
  rfl

theorem applyParameter_connectionId {id : Bytes} (hbinding : binding ∈ kConnectionIdParameters)
    (hunseen : seenMask.testBit binding.identifier = false)
    (hrole : senderRole = .client → isServerOnlyIdentifier binding.identifier = false)
    (hlength : id.length ≤ kQuicMaximumConnectionIdLength) :
    applyParameter senderRole ⟨q, seenMask⟩ ⟨binding.identifier, id⟩ =
      .ok ⟨binding.member.set (some id) q, seenMask ||| 1 <<< binding.identifier⟩ := by
  have htable : kIntegerParameters.find? (fun candidate =>
        candidate.identifier == binding.identifier) = none ∧
      kConnectionIdParameters.find? (fun candidate =>
        candidate.identifier == binding.identifier) = some binding := by
    unfold kConnectionIdParameters at hbinding
    simp only [mem_cons, not_mem_nil, or_false] at hbinding
    rcases hbinding with rfl | rfl | rfl
    all_goals exact ⟨rfl, rfl⟩
  obtain ⟨hinteger, hfound⟩ := htable
  unfold applyParameter
  rw [if_neg (by
    rintro ⟨honly, hclient⟩
    rw [hrole hclient] at honly
    cases honly)]
  simp only [hinteger, hfound]
  unfold applyConnectionId readConnectionIdValue
  rw [markSeen_eq hunseen, if_neg (by omega)]
  rfl

theorem applyParameter_token {token : QuicStatelessResetToken}
    (hunseen : seenMask.testBit kIdStatelessResetToken = false)
    (hserver : senderRole ≠ .client) :
    applyParameter senderRole ⟨q, seenMask⟩ ⟨kIdStatelessResetToken, token.toList⟩ =
      .ok ⟨{ q with statelessResetToken := some token },
        seenMask ||| 1 <<< kIdStatelessResetToken⟩ := by
  have hbytes : toStatelessResetToken token.toList = some token := by
    unfold toStatelessResetToken
    rw [dif_pos (by simp)]
    rfl
  unfold applyParameter
  rw [if_neg fun hboth => hserver hboth.2]
  show applyStatelessResetToken ⟨q, seenMask⟩ token.toList = _
  unfold applyStatelessResetToken
  rw [markSeen_eq hunseen, hbytes]
  rfl

theorem applyParameter_migration (hunseen : seenMask.testBit kIdDisableActiveMigration = false) :
    applyParameter senderRole ⟨q, seenMask⟩ ⟨kIdDisableActiveMigration, []⟩ =
      .ok ⟨{ q with disableActiveMigration := true },
        seenMask ||| 1 <<< kIdDisableActiveMigration⟩ := by
  unfold applyParameter
  show applyDisableActiveMigration ⟨q, seenMask⟩ [] = _
  unfold applyDisableActiveMigration
  rw [markSeen_eq hunseen]
  rfl

theorem QuicConnectionTransportParameters.LegalFor.integer_range
    {senderRole : QuicTransportParameterSenderRole}
    {p : QuicConnectionTransportParameters} (h : p.LegalFor senderRole) {binding : IntegerParameterBinding}
    (hbinding : binding ∈ kIntegerParameters) :
    binding.minimumValue ≤ binding.member.get p ∧ binding.member.get p ≤ binding.maximumValue := by
  unfold kIntegerParameters at hbinding
  simp only [mem_cons, not_mem_nil, or_false] at hbinding
  rcases hbinding with rfl | rfl | rfl | rfl | rfl | rfl | rfl | rfl | rfl |
    rfl | rfl
  · exact ⟨Nat.zero_le _, h.maximumIdleTimeout⟩
  · exact h.maximumUdpPayloadSize
  · exact ⟨Nat.zero_le _, h.initialMaximumData⟩
  · exact ⟨Nat.zero_le _, h.initialMaximumStreamDataBidirectionalLocal⟩
  · exact ⟨Nat.zero_le _, h.initialMaximumStreamDataBidirectionalRemote⟩
  · exact ⟨Nat.zero_le _, h.initialMaximumStreamDataUnidirectional⟩
  · exact ⟨Nat.zero_le _, h.initialMaximumBidirectionalStreams⟩
  · exact ⟨Nat.zero_le _, h.initialMaximumUnidirectionalStreams⟩
  · exact ⟨Nat.zero_le _, h.acknowledgmentDelayExponent⟩
  · exact ⟨Nat.zero_le _, Nat.le_sub_one_of_lt h.maximumAcknowledgmentDelay⟩
  · exact h.activeConnectionIdLimit

theorem QuicConnectionTransportParameters.LegalFor.connectionId_length
    {senderRole : QuicTransportParameterSenderRole}
    {p : QuicConnectionTransportParameters} (h : p.LegalFor senderRole)
    (hbinding : binding ∈ kConnectionIdParameters) {id : Bytes}
    (hid : id ∈ binding.member.get p) :
    id.length ≤ kQuicMaximumConnectionIdLength ∧
      (senderRole = .client → isServerOnlyIdentifier binding.identifier = false) := by
  unfold kConnectionIdParameters at hbinding
  simp only [mem_cons, not_mem_nil, or_false] at hbinding
  rcases hbinding with rfl | rfl | rfl
  · refine ⟨h.originalDestinationConnectionId id hid, fun hclient => ?_⟩
    have hid : id ∈ p.originalDestinationConnectionId := hid
    rw [(h.client hclient).originalDestinationConnectionId] at hid
    cases hid
  · exact ⟨h.initialSourceConnectionId id hid, fun _ => rfl⟩
  · refine ⟨h.retrySourceConnectionId id hid, fun hclient => ?_⟩
    have hid : id ∈ p.retrySourceConnectionId := hid
    rw [(h.client hclient).retrySourceConnectionId] at hid
    cases hid

theorem sets_settingsOf {senderRole : QuicTransportParameterSenderRole}
    {p : QuicConnectionTransportParameters} (h : p.LegalFor senderRole) :
    ∀ setting ∈ settingsOf p, Sets senderRole setting := by
  intro setting hsetting q seenMask hunseen
  unfold settingsOf at hsetting
  rw [mem_append, mem_append, mem_append] at hsetting
  rcases hsetting with hid | hinteger | htoken | hmigration
  · obtain ⟨binding, hbinding, hsetting⟩ := mem_filterMap.mp hid
    obtain ⟨_, hitem, rfl⟩ := Option.map_eq_some_iff.mp hsetting
    obtain ⟨id, hheld, rfl⟩ := Option.map_eq_some_iff.mp hitem
    obtain ⟨hlength, hrole⟩ := h.connectionId_length hbinding hheld
    exact applyParameter_connectionId senderRole q hbinding hunseen hrole hlength
  · obtain ⟨binding, hbinding, rfl⟩ := mem_map.mp hinteger
    obtain ⟨hmin, hmax⟩ := h.integer_range hbinding
    exact applyParameter_integer senderRole p q hbinding hunseen hmin hmax
  · obtain ⟨item, hitem, rfl⟩ := mem_map.mp htoken
    unfold statelessResetTokenItem at hitem
    cases hfound : p.statelessResetToken with
    | none =>
      rw [hfound] at hitem
      exact absurd hitem not_mem_nil
    | some token =>
      rw [hfound] at hitem
      cases mem_singleton.mp hitem
      refine applyParameter_token senderRole q hunseen fun hclient => ?_
      rw [(h.client hclient).statelessResetToken] at hfound
      cases hfound
  · obtain ⟨item, hitem, rfl⟩ := mem_map.mp hmigration
    unfold disableActiveMigrationItem at hitem
    cases hflag : p.disableActiveMigration with
    | false =>
      rw [hflag] at hitem
      exact absurd hitem not_mem_nil
    | true =>
      rw [hflag] at hitem
      cases mem_singleton.mp hitem
      exact applyParameter_migration senderRole q hunseen

theorem applyParameters_itemsOf {senderRole : QuicTransportParameterSenderRole}
    {p : QuicConnectionTransportParameters} (h : p.LegalFor senderRole) :
    ∃ mask, applyParameters senderRole {} (itemsOf p) = .ok ⟨p, mask⟩ := by
  have hnodup := nodup_itemsOf p
  rw [← map_item_settingsOf, map_map] at hnodup
  obtain ⟨mask, happlied⟩ := applyParameters_settings senderRole {}
    (sets_settingsOf h) hnodup fun _ _ => Nat.zero_testBit _
  rw [map_item_settingsOf, foldl_settingsOf] at happlied
  exact ⟨mask, happlied⟩

end Apply

/-! ## What the encoder writes -/

section Encode

variable {senderRole : QuicTransportParameterSenderRole}
  {p : QuicConnectionTransportParameters}

theorem appendConnectionIdParameters_eq {bindings : List ConnectionIdParameterBinding}
    (h : ∀ b ∈ bindings, ∀ item ∈ connectionIdItem? p b, item.IsEncodable) (bytes : Bytes) :
    bindings.foldlM (appendConnectionIdParameter p) bytes =
      .ok (bytes ++ (bindings.filterMap (connectionIdItem? p)).flatMap ParameterItem.bytes) := by
  induction bindings generalizing bytes with
  | nil => simp [pure, Except.pure]
  | cons binding bindings ih =>
    have hrest := fun b (hb : b ∈ bindings) =>
      h b (mem_cons_of_mem _ hb)
    rw [foldlM_cons, appendConnectionIdParameter]
    rcases hid : binding.member.get p with _ | id
    · rw [filterMap_cons_none (by simp [connectionIdItem?, hid])]
      exact ih hrest bytes
    have hitem : connectionIdItem? p binding = some ⟨binding.identifier, id⟩ := by
      simp [connectionIdItem?, hid]
    have hencodable := h binding mem_cons_self _ hitem
    rw [filterMap_cons_some hitem, flatMap_cons, ← append_assoc, ← ih hrest]
    simp only
    rw [appendParameter_eq hencodable]
    rfl

theorem appendIntegerParameters_eq {bindings : List IntegerParameterBinding}
    (h : ∀ b ∈ bindings, b.member.get p ≤ kQuicMaximumIntegerValue ∧
      (integerItem p b).IsEncodable) (bytes : Bytes) :
    bindings.foldlM (fun bytes binding =>
        appendIntegerParameter bytes binding.identifier (binding.member.get p)) bytes =
      .ok (bytes ++ (bindings.map (integerItem p)).flatMap ParameterItem.bytes) := by
  induction bindings generalizing bytes with
  | nil => simp [pure, Except.pure]
  | cons binding bindings ih =>
    obtain ⟨hvalue, hencodable⟩ := h binding mem_cons_self
    rw [foldlM_cons, appendIntegerParameter, appendQuicVariableLengthInteger_eq hvalue, map_cons,
      flatMap_cons, ← append_assoc,
      ← ih fun b hb => h b (mem_cons_of_mem _ hb)]
    simp only [nil_append]
    have happend := appendParameter_eq hencodable bytes
    unfold integerItem at happend
    rw [happend]
    rfl

theorem itemsOf_encodable (h : p.LegalFor senderRole) : ∀ item ∈ itemsOf p, item.IsEncodable := by
  intro item hitem
  unfold itemsOf at hitem
  rw [mem_append, mem_append, mem_append] at hitem
  rcases hitem with hitem | hitem | hitem | hitem
  · obtain ⟨binding, hbinding, hitem⟩ := mem_filterMap.mp hitem
    obtain ⟨id, hid, rfl⟩ := Option.map_eq_some_iff.mp hitem
    have hlength := (h.connectionId_length hbinding hid).1
    unfold kQuicMaximumConnectionIdLength at hlength
    have hidentifier : ∀ b ∈ kConnectionIdParameters, b.identifier ≤ kQuicMaximumIntegerValue := by
      decide
    refine ⟨hidentifier binding hbinding, ?_⟩
    unfold kQuicMaximumIntegerValue
    simp only
    omega
  · obtain ⟨binding, hbinding, rfl⟩ := mem_map.mp hitem
    have hidentifier : ∀ b ∈ kIntegerParameters, b.identifier ≤ kQuicMaximumIntegerValue := by
      decide
    refine ⟨hidentifier binding hbinding, ?_⟩
    have hcount := quicVariableLengthIntegerByteCount_le (binding.member.get p)
    simp only [integerItem, length_quicIntegerBytes]
    unfold kQuicMaximumIntegerValue
    omega
  · unfold statelessResetTokenItem at hitem
    split at hitem
    · rw [mem_singleton] at hitem
      subst hitem
      have hidentifier : kIdStatelessResetToken ≤ kQuicMaximumIntegerValue := by
        decide
      exact ⟨hidentifier, by simp; decide⟩
    · cases hitem
  · unfold disableActiveMigrationItem at hitem
    split at hitem
    · rw [mem_singleton] at hitem
      subst hitem
      exact ⟨by decide, by decide⟩
    · cases hitem

theorem appendStatelessResetTokenParameter_eq
    (h : ∀ item ∈ statelessResetTokenItem p, item.IsEncodable) (bytes : Bytes) :
    appendStatelessResetTokenParameter p bytes =
      .ok (bytes ++ (statelessResetTokenItem p).flatMap ParameterItem.bytes) := by
  unfold appendStatelessResetTokenParameter
  unfold statelessResetTokenItem at h ⊢
  rcases htoken : p.statelessResetToken with _ | token
  · simp
  rw [htoken] at h
  simp only [flatMap_cons, flatMap_nil, append_nil]
  exact appendParameter_eq (h _ mem_cons_self) bytes

theorem appendDisableActiveMigrationParameter_eq
    (h : ∀ item ∈ disableActiveMigrationItem p, item.IsEncodable) (bytes : Bytes) :
    appendDisableActiveMigrationParameter p bytes =
      .ok (bytes ++ (disableActiveMigrationItem p).flatMap ParameterItem.bytes) := by
  unfold appendDisableActiveMigrationParameter
  unfold disableActiveMigrationItem at h ⊢
  rcases hflag : p.disableActiveMigration with _ | _
  · simp
  rw [hflag] at h
  simp only [if_true, flatMap_cons, flatMap_nil, append_nil]
  exact appendParameter_eq (h _ mem_cons_self) bytes

theorem appendQuicTransportParameters_eq (h : p.LegalFor senderRole) (bytes : Bytes) :
    appendQuicTransportParameters bytes p =
      .ok (bytes ++ (itemsOf p).flatMap ParameterItem.bytes) := by
  have hencodable := itemsOf_encodable h
  unfold itemsOf at hencodable ⊢
  rw [flatMap_append, flatMap_append, flatMap_append]
  have htable : ∀ b ∈ kIntegerParameters, b.maximumValue ≤ kQuicMaximumIntegerValue := by
    decide
  have hids := fun b (hb : b ∈ kConnectionIdParameters) item
      (hitem : item ∈ connectionIdItem? p b) =>
    hencodable item (mem_append_left _ (mem_filterMap.mpr ⟨b, hb, hitem⟩))
  have hintegers := fun b (hb : b ∈ kIntegerParameters) =>
    hencodable _ (mem_append_right _ (mem_append_left _ (mem_map_of_mem hb)))
  unfold appendQuicTransportParameters
  simp only [bind, Except.bind]
  rw [appendConnectionIdParameters_eq hids]
  simp only
  rw [appendIntegerParameters_eq fun b hb =>
    ⟨Nat.le_trans (h.integer_range hb).2 (htable b hb), hintegers b hb⟩]
  simp only
  rw [appendStatelessResetTokenParameter_eq fun item hitem =>
    hencodable item (mem_append_right _ (mem_append_right _ (mem_append_left _ hitem)))]
  simp only
  rw [appendDisableActiveMigrationParameter_eq fun item hitem =>
    hencodable item (mem_append_right _ (mem_append_right _ (mem_append_right _ hitem)))]
  simp

end Encode

/-! ## The codec as a whole -/

theorem decodeQuicTransportParameters_eq {bytes : Bytes}
    {items : List ParameterItem} (h : ParameterItems bytes items)
    (senderRole : QuicTransportParameterSenderRole) :
    decodeQuicTransportParameters bytes senderRole =
      match applyParameters senderRole {} items with
      | .error error => .error error
      | .ok decoded => requireConnectionIds senderRole decoded.parameters := by
  unfold decodeQuicTransportParameters
  cases happlied : applyParameters senderRole {} items with
  | error error => rw [decodeParameters_eq h, happlied]
  | ok decoded => rw [decodeParameters_eq h, happlied]

theorem requireConnectionIds_ok {senderRole : QuicTransportParameterSenderRole}
    {p q : QuicConnectionTransportParameters} :
    requireConnectionIds senderRole p = .ok q ↔ q = p ∧ p.initialSourceConnectionId.isSome ∧
        (senderRole = .server → p.originalDestinationConnectionId.isSome) := by
  unfold requireConnectionIds
  rcases hinitial : p.initialSourceConnectionId with _ | id
  · simp
  rcases horiginal : p.originalDestinationConnectionId with _ | original
  · cases senderRole with
    | client => simp [eq_comm]
    | server => simp
  · simp [eq_comm]

theorem withinRanges_default : QuicConnectionTransportParameters.WithinRanges {} where
  maximumIdleTimeout := by decide
  maximumUdpPayloadSize := by decide
  initialMaximumData := by decide
  initialMaximumStreamDataBidirectionalLocal := by decide
  initialMaximumStreamDataBidirectionalRemote := by decide
  initialMaximumStreamDataUnidirectional := by decide
  initialMaximumBidirectionalStreams := by decide
  initialMaximumUnidirectionalStreams := by decide
  acknowledgmentDelayExponent := by decide
  maximumAcknowledgmentDelay := by decide
  activeConnectionIdLimit := by decide
  originalDestinationConnectionId := by simp
  initialSourceConnectionId := by simp
  retrySourceConnectionId := by simp

/-- Legal parameters come back from what was appended for them, and what
the decoder accepts is legal for its sender: a row of triples in which no
known identifier repeats, from a client none that only a server may send,
and the unknown ones might as well not be there. -/
theorem transport_parameters_round_trip :
    (∀ (senderRole : QuicTransportParameterSenderRole)
      (p : QuicConnectionTransportParameters) (buffer : Bytes),
      p.LegalFor senderRole →
      ∃ encoded, appendQuicTransportParameters buffer p = .ok (buffer ++ encoded) ∧
          decodeQuicTransportParameters encoded senderRole = .ok p) ∧
    (∀ (senderRole : QuicTransportParameterSenderRole)
      (p : QuicConnectionTransportParameters) (bytes : Bytes),
      decodeQuicTransportParameters bytes senderRole = .ok p →
      p.LegalFor senderRole ∧ ∃ items, ParameterItems bytes items ∧ (knownIdentifiers items).Nodup ∧
          (senderRole = .client → ∀ item ∈ items, isServerOnlyIdentifier item.identifier = false) ∧
          ∀ others, ParameterItems others
              (items.filter fun item => isKnownIdentifier item.identifier) →
            decodeQuicTransportParameters others senderRole = .ok p) := by
  refine ⟨fun senderRole p buffer h => ?_, fun senderRole p bytes h => ?_⟩
  · refine ⟨(itemsOf p).flatMap ParameterItem.bytes, appendQuicTransportParameters_eq h buffer, ?_⟩
    obtain ⟨mask, happlied⟩ := applyParameters_itemsOf h
    rw [decodeQuicTransportParameters_eq (parameterItems_flatMap (itemsOf_encodable h)), happlied]
    exact requireConnectionIds_ok.mpr ⟨rfl, h.hasInitialSource, h.server⟩
  have hdecoded := h
  unfold decodeQuicTransportParameters at hdecoded
  split at hdecoded
  · cases hdecoded
  rename_i decoded hloop
  obtain ⟨items, hitems⟩ := decodeParameters_items hloop
  rw [decodeParameters_eq hitems] at hloop
  obtain ⟨hp, hinitial, hserver⟩ := requireConnectionIds_ok.mp hdecoded
  subst hp
  have hranges := applyParameters_induction (P := fun decoded => decoded.parameters.WithinRanges)
    (fun _ _ _ _ happlied hranges => happlied.withinRanges hranges)
    hloop withinRanges_default
  refine ⟨{ hranges with
    client := ?_, hasInitialSource := hinitial, server := hserver },
    items, hitems, (applyParameters_nodup hloop).1, ?_, ?_⟩
  · intro hclient
    exact applyParameters_induction (P := fun decoded => decoded.parameters.FreeOfServerOnly)
      (fun _ _ _ honly happlied hfree =>
        happlied.freeOfServerOnly (honly hclient) hfree)
      hloop ⟨rfl, rfl, rfl⟩
  · intro hclient
    subst hclient
    exact applyParameters_serverOnly hloop
  · intro others hothers
    rw [decodeQuicTransportParameters_eq hothers, applyParameters_known hloop]
    exact hdecoded

/-- A server's parameters with all connection IDs and a token. -/
def serverParameters : QuicConnectionTransportParameters where
  originalDestinationConnectionId := some [1, 2, 3]
  initialSourceConnectionId := some []
  retrySourceConnectionId := some [4]
  statelessResetToken := some (Vector.replicate _ 7)
  initialMaximumData := 2 ^ 62 - 1
  disableActiveMigration := true

theorem serverParameters_legal : serverParameters.LegalFor .server where
  toWithinRanges := { withinRanges_default with
    initialMaximumData := by decide
    originalDestinationConnectionId := by simp [serverParameters]
    initialSourceConnectionId := by simp [serverParameters]
    retrySourceConnectionId := by simp [serverParameters] }
  client := by simp
  hasInitialSource := rfl
  server _ := rfl

theorem transport_parameters_round_trip_server : ∃ encoded,
      appendQuicTransportParameters [] serverParameters = .ok ([] ++ encoded) ∧
        decodeQuicTransportParameters encoded .server = .ok serverParameters :=
  transport_parameters_round_trip.1 .server serverParameters [] serverParameters_legal

end AsynGyanis.Quic
