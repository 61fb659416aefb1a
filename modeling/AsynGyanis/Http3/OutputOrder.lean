import AsynGyanis.Http3.Effects

/-!
# What leaves on a stream is what was queued on it

The log of a connection's outputs says what was queued on a stream, what the
stream writer was offered and took, and when the buffer was thrown away
because the stream was cancelled or failed. `outboundLog` reads the account
of one stream off it. The invariant is that the buffer holds exactly the
bytes that are kept and not yet accepted, and that a stream with a buffer
has its place in the rotation.

A move changes at most one buffer and appends at most one output, so the
proof goes over the moves. The offer is the one with something in it: the
buffer leaves the map, and what the writer did not take comes back behind
the other streams.
-/

namespace AsynGyanis.Http3

open Quic Library List SortedMap

variable {D E V : Type}

/-! ## The account of a stream -/

structure OutboundLog where
  /-- Every byte queued. -/
  queued : Bytes := []
  /-- The bytes queued, without what was thrown away unsent. -/
  kept : Bytes := []
  /-- What the stream writer took. -/
  accepted : Bytes := []
  /-- An end mark was queued and has not gone out with the last byte. -/
  isEndOwed : Bool := false
  deriving DecidableEq

def OutboundLog.note (streamId : Nat) (log : OutboundLog) : Http3Output → OutboundLog
  | .queued id bytes isEndStream =>
    if id = streamId then
      { log with
        queued := log.queued ++ bytes
        kept := log.kept ++ bytes
        isEndOwed := log.isEndOwed || isEndStream }
    else log
  | .discarded id =>
    if id = streamId then
      { log with kept := log.accepted, isEndOwed := false }
    else log
  | .written id bytes _ acceptedByteCount =>
    if id = streamId then
      { log with
        accepted := log.accepted ++ bytes.take acceptedByteCount
        isEndOwed := log.isEndOwed && acceptedByteCount < bytes.length }
    else log
  | _ => log

def outboundLog (streamId : Nat) (outputs : List Http3Output) : OutboundLog :=
  outputs.foldl (OutboundLog.note streamId) {}

theorem outboundLog_append (streamId : Nat) (outputs : List Http3Output) (output : Http3Output) :
    outboundLog streamId (outputs ++ [output]) =
      (outboundLog streamId outputs).note streamId output := by
  rw [outboundLog, foldl_append]
  rfl

theorem outboundLog_kept {streamId : Nat} {outputs : List Http3Output}
    (h : Http3Output.discarded streamId ∉ outputs) :
    (outboundLog streamId outputs).kept = (outboundLog streamId outputs).queued := by
  induction outputs using reverseRecOn with
  | nil => rfl
  | append_singleton outputs output ih =>
    have ih := ih fun hmem => h (mem_append_left _ hmem)
    rw [outboundLog_append]
    cases output with
    | queued id bytes isEndStream =>
      simp only [OutboundLog.note]
      split
      · rw [ih]
      · exact ih
    | discarded id =>
      have hne : id ≠ streamId := by
        rintro rfl
        exact h (mem_append_right _ mem_cons_self)
      simp only [OutboundLog.note, if_neg hne, ih]
    | written id bytes isEndStream acceptedByteCount =>
      simp only [OutboundLog.note]
      split
      · exact ih
      · exact ih
    | _ => exact ih

theorem OutboundLog.note_of_allowed {scope : Scope} {output : Http3Output}
    (h : scope.AllowsOutput output) (streamId : Nat) (log : OutboundLog) :
    log.note streamId output = log := by
  cases output with
  | written _ _ _ _ | queued _ _ _ | discarded _ => exact False.elim h
  | _ => rfl

/-! ## Offers -/

/-- What an offer to the stream writer looks like, given the outputs before
it: all that is kept and not accepted, with the end mark if one is owed. -/
def IsWholeOffer (before : List Http3Output) : Http3Output → Prop
  | .written streamId bytes isEndStream acceptedByteCount =>
    acceptedByteCount ≤ bytes.length ∧ (outboundLog streamId before).accepted ++ bytes =
        (outboundLog streamId before).kept ∧
      isEndStream = (outboundLog streamId before).isEndOwed
  | _ => True

def OffersWhole (outputs : List Http3Output) : Prop :=
  ∀ before output after, outputs = before ++ output :: after → IsWholeOffer before output

theorem IsWholeOffer.of_allowed {scope : Scope} {output : Http3Output}
    (h : scope.AllowsOutput output) (before : List Http3Output) :
    IsWholeOffer before output := by
  cases output with
  | written _ _ _ _ => exact False.elim h
  | _ => trivial

theorem OffersWhole.append {outputs : List Http3Output} {output : Http3Output}
    (h : OffersWhole outputs) (houtput : IsWholeOffer outputs output) :
    OffersWhole (outputs ++ [output]) := by
  intro before last after heq
  rcases eq_nil_or_concat after with rfl | ⟨after, final, rfl⟩
  · obtain ⟨rfl, hlast⟩ := append_inj' heq rfl
    rwa [← singleton_inj.mp hlast]
  · rw [concat_eq_append, ← cons_append, ← append_assoc] at heq
    exact h before last after (append_inj' heq rfl).1

namespace Http3Connection

variable {c : Http3Connection D E V}

/-- What a stream still has to hand over. -/
def unsentBytes (c : Http3Connection D E V) (streamId : Nat) : Bytes :=
  match c.outbound.find? streamId with
  | some outbound => outbound.bytes.drop outbound.sentByteCount
  | none => []

def isEndUnsent (c : Http3Connection D E V) (streamId : Nat) : Bool :=
  (c.outbound.find? streamId).any (·.isEndStream)

/-- The buffers agree with the log, and each is scheduled. -/
structure BuffersAgree (c : Http3Connection D E V) : Prop where
  bytes : ∀ streamId, (outboundLog streamId c.outputs).accepted ++
    c.unsentBytes streamId = (outboundLog streamId c.outputs).kept
  isEnd : ∀ streamId, c.isEndUnsent streamId = (outboundLog streamId c.outputs).isEndOwed
  sent : ∀ streamId outbound, c.outbound.find? streamId = some outbound →
    outbound.sentByteCount ≤ outbound.bytes.length
  scheduled : ∀ streamId, (c.outbound.find? streamId).isSome → streamId ∈ c.outboundOrder
  offers : OffersWhole c.outputs

/-! ## Moves -/

theorem BuffersAgree.of_same {c c' : Http3Connection D E V}
    (h : c.BuffersAgree) (houtbound : c'.outbound = c.outbound)
    (horder : c'.outboundOrder = c.outboundOrder)
    (houtputs : c'.outputs = c.outputs) : c'.BuffersAgree where
  bytes := by
    simpa only [unsentBytes, houtbound, houtputs] using h.bytes
  isEnd := by
    simpa only [isEndUnsent, houtbound, houtputs] using h.isEnd
  sent := by rw [houtbound]; exact h.sent
  scheduled := by rw [houtbound, horder]; exact h.scheduled
  offers := by rw [houtputs]; exact h.offers

theorem BuffersAgree.output {output : Http3Output} (h : c.BuffersAgree)
    (hnote : ∀ streamId log, OutboundLog.note streamId log output = log)
    (hwhole : IsWholeOffer c.outputs output) : (c.emit output).BuffersAgree where
  bytes := by
    intro streamId
    simp only [emit, outboundLog_append, hnote]
    exact h.bytes streamId
  isEnd := by
    intro streamId
    simp only [emit, outboundLog_append, hnote]
    exact h.isEnd streamId
  sent := h.sent
  scheduled := h.scheduled
  offers := h.offers.append hwhole

theorem queueOutboundBytes_cases (streamId : Nat) (bytes : Bytes)
    (isEndStream : Bool) : c.queueOutboundBytes streamId bytes isEndStream = c ∨
      ∃ outbound, (c.outbound.find? streamId = some outbound ∨
          c.outbound.find? streamId = none ∧ outbound = {}) ∧
        (c.queueOutboundBytes streamId bytes isEndStream).outbound =
          c.outbound.insert streamId { outbound with
            bytes := outbound.bytes ++ bytes
            isEndStream := outbound.isEndStream || isEndStream } ∧
        (c.queueOutboundBytes streamId bytes isEndStream).outputs =
          c.outputs ++ [.queued streamId bytes isEndStream] ∧
        (∀ id ∈ c.outboundOrder, id ∈
          (c.queueOutboundBytes streamId bytes isEndStream).outboundOrder) ∧
        (c.outbound.find? streamId = none → streamId ∈
          (c.queueOutboundBytes streamId bytes isEndStream).outboundOrder) := by
  unfold queueOutboundBytes
  split
  · exact .inl rfl
  right
  simp only [emit]
  cases hfind : c.outbound.find? streamId with
  | some outbound =>
    refine ⟨outbound, .inl rfl, rfl, rfl, fun _ hid => hid, ?_⟩
    rintro ⟨⟩
  | none =>
    refine ⟨{}, .inr ⟨rfl, rfl⟩, rfl, rfl, fun id hid => ?_, fun _ => ?_⟩
    · exact mem_append_left _ hid
    · exact mem_append_right _ mem_cons_self

theorem BuffersAgree.queue (h : c.BuffersAgree) (streamId : Nat) (bytes : Bytes)
    (isEndStream : Bool) : (c.queueOutboundBytes streamId bytes isEndStream).BuffersAgree := by
  rcases c.queueOutboundBytes_cases streamId bytes isEndStream with hsame |
    ⟨outbound, hold, houtbound, houtputs, horder, hnew⟩
  · rw [hsame]
    exact h
  have hunsent : c.unsentBytes streamId = outbound.bytes.drop outbound.sentByteCount := by
    rcases hold with hfind | ⟨hfind, rfl⟩
    · simp only [unsentBytes, hfind]
    · simp only [unsentBytes, hfind, drop_nil]
  have hisEnd : c.isEndUnsent streamId = outbound.isEndStream := by
    rcases hold with hfind | ⟨hfind, rfl⟩
    · simp only [isEndUnsent, hfind, Option.any_some]
    · simp only [isEndUnsent, hfind, Option.any_none]
  have hsent : outbound.sentByteCount ≤ outbound.bytes.length := by
    rcases hold with hfind | ⟨_, rfl⟩
    · exact h.sent _ _ hfind
    · exact le_refl _
  constructor
  · intro id
    rw [houtputs, outboundLog_append, OutboundLog.note]
    by_cases hid : streamId = id
    · subst hid
      have hbytes := h.bytes streamId
      simp only [unsentBytes, houtbound, find?_insert_self, if_true, drop_append_of_le_length hsent]
      rw [← hbytes, hunsent, append_assoc]
    · simp only [unsentBytes, houtbound, find?_insert_of_ne _ _ (Ne.symm hid), if_neg hid]
      exact h.bytes id
  · intro id
    rw [houtputs, outboundLog_append, OutboundLog.note]
    by_cases hid : streamId = id
    · subst hid
      simp only [isEndUnsent, houtbound, find?_insert_self, if_true, Option.any_some]
      rw [← h.isEnd, hisEnd]
    · simp only [isEndUnsent, houtbound, find?_insert_of_ne _ _ (Ne.symm hid), if_neg hid]
      exact h.isEnd id
  · intro id found hfound
    rw [houtbound, find?_insert] at hfound
    split at hfound
    · cases hfound
      simp only [length_append]
      omega
    · exact h.sent id found hfound
  · intro id hfound
    rw [houtbound, find?_insert] at hfound
    split at hfound
    · next hid =>
      subst hid
      cases hfind : c.outbound.find? id with
      | none => exact hnew hfind
      | some _ => exact horder _ (h.scheduled id (by rw [hfind]; rfl))
    · exact horder _ (h.scheduled id hfound)
  · rw [houtputs]
    exact h.offers.append trivial

theorem BuffersAgree.discard (h : c.BuffersAgree) (streamId : Nat) :
    (c.discardOutbound streamId).BuffersAgree where
  bytes := by
    intro id
    simp only [discardOutbound, emit, outboundLog_append, OutboundLog.note,
      unsentBytes, find?_erase]
    by_cases hid : streamId = id
    · rw [if_pos hid, if_pos hid.symm]
      exact append_nil _
    · rw [if_neg hid, if_neg (Ne.symm hid)]
      exact h.bytes id
  isEnd := by
    intro id
    simp only [discardOutbound, emit, outboundLog_append, OutboundLog.note,
      isEndUnsent, find?_erase]
    by_cases hid : streamId = id
    · rw [if_pos hid, if_pos hid.symm]
      rfl
    · rw [if_neg hid, if_neg (Ne.symm hid)]
      exact h.isEnd id
  sent := by
    intro id outbound hfound
    simp only [discardOutbound, emit, find?_erase] at hfound
    split at hfound
    · cases hfound
    · exact h.sent id outbound hfound
  scheduled := by
    intro id hfound
    simp only [discardOutbound, emit, find?_erase] at hfound
    split at hfound
    · cases hfound
    · exact h.scheduled id hfound
  offers := h.offers.append trivial

/-- The writer was offered the rest of a buffer and took some of it: what
it did not take is kept, or there is nothing left. -/
theorem BuffersAgree.offered {c c' : Http3Connection D E V}
    {streamId : Nat} {outbound : OutboundStream} (h : c.BuffersAgree) (count : Nat)
    (hfind : c.outbound.find? streamId = some outbound)
    (hcount : count ≤ (outbound.bytes.drop outbound.sentByteCount).length)
    (houtputs : c'.outputs = c.outputs ++
      [.written streamId (outbound.bytes.drop outbound.sentByteCount) outbound.isEndStream count])
    (hothers : ∀ id, id ≠ streamId → c'.outbound.find? id = c.outbound.find? id)
    (hself : c'.outbound.find? streamId = some { outbound with
        sentByteCount := outbound.sentByteCount + count } ∧
      streamId ∈ c'.outboundOrder ∧
      count < (outbound.bytes.drop outbound.sentByteCount).length ∨
      c'.outbound.find? streamId = none ∧
        count = (outbound.bytes.drop outbound.sentByteCount).length)
    (horder : ∀ id, id ≠ streamId → (c.outbound.find? id).isSome →
      id ∈ c'.outboundOrder) : c'.BuffersAgree := by
  have hbytes := h.bytes streamId
  have hisEnd := h.isEnd streamId
  simp only [unsentBytes, hfind] at hbytes
  simp only [isEndUnsent, hfind, Option.any_some] at hisEnd
  constructor
  · intro id
    rw [houtputs, outboundLog_append, OutboundLog.note]
    by_cases hid : streamId = id
    · subst hid
      rw [if_pos rfl]
      have hrest : c'.unsentBytes streamId =
          (outbound.bytes.drop outbound.sentByteCount).drop count := by
        rcases hself with ⟨hkept, _, _⟩ | ⟨hgone, hall⟩
        · simp only [unsentBytes, hkept, drop_drop]
        · simp only [unsentBytes, hgone, hall, drop_length]
      rw [hrest, append_assoc, take_append_drop, hbytes]
    · rw [if_neg hid, unsentBytes, hothers id (Ne.symm hid)]
      exact h.bytes id
  · intro id
    rw [houtputs, outboundLog_append, OutboundLog.note]
    by_cases hid : streamId = id
    · subst hid
      rw [if_pos rfl, ← hisEnd]
      rcases hself with ⟨hkept, _, hless⟩ | ⟨hgone, hall⟩
      · simp only [isEndUnsent, hkept, Option.any_some, hless, decide_true, Bool.and_true]
      · simp only [isEndUnsent, hgone, Option.any_none, hall, lt_irrefl,
          decide_false, Bool.and_false]
    · rw [if_neg hid, isEndUnsent, hothers id (Ne.symm hid)]
      exact h.isEnd id
  · intro id found hfound
    by_cases hid : id = streamId
    · subst hid
      rcases hself with ⟨hkept, _, hless⟩ | ⟨hgone, _⟩
      · rw [hkept] at hfound
        cases hfound
        rw [length_drop] at hless
        dsimp only
        omega
      · rw [hgone] at hfound
        exact nomatch hfound
    · rw [hothers id hid] at hfound
      exact h.sent id found hfound
  · intro id hfound
    by_cases hid : id = streamId
    · subst hid
      rcases hself with ⟨_, hmem, _⟩ | ⟨hgone, _⟩
      · exact hmem
      · rw [hgone] at hfound
        exact nomatch hfound
    · rw [hothers id hid] at hfound
      exact horder id hid hfound
  · rw [houtputs]
    exact h.offers.append ⟨hcount, hbytes, hisEnd⟩

theorem BuffersAgree.drop_empty {streamId : Nat} {rest : List Nat}
    (h : c.BuffersAgree) (hunsent : c.unsentBytes streamId = [])
    (hopen : c.isEndUnsent streamId = false)
    (hrest : ∀ id, id ≠ streamId → (c.outbound.find? id).isSome → id ∈ rest) :
    { c with
      outboundOrder := rest
      outbound := c.outbound.erase streamId }.BuffersAgree := by
  have hothers : ∀ id, id ≠ streamId → (c.outbound.erase streamId).find? id = c.outbound.find? id :=
    fun id hid => find?_erase_of_ne _ hid
  have hself := find?_erase_self c.outbound streamId
  refine ⟨fun id => ?_, fun id => ?_, fun id found hfound => ?_, fun id hfound => ?_, h.offers⟩
  · have hbytes := h.bytes id
    by_cases hid : id = streamId
    · subst hid
      rw [hunsent] at hbytes
      simp only [unsentBytes, hself, hbytes]
    · simp only [unsentBytes, hothers id hid]
      exact hbytes
  · have hisEnd := h.isEnd id
    by_cases hid : id = streamId
    · subst hid
      rw [hopen] at hisEnd
      simp only [isEndUnsent, hself, Option.any_none, hisEnd]
    · simp only [isEndUnsent, hothers id hid]
      exact hisEnd
  · by_cases hid : id = streamId
    · subst hid
      rw [hself] at hfound
      cases hfound
    · rw [hothers id hid] at hfound
      exact h.sent id found hfound
  · by_cases hid : id = streamId
    · subst hid
      rw [hself] at hfound
      cases hfound
    · rw [hothers id hid] at hfound
      exact hrest id hid hfound

theorem BuffersAgree.offer (h : c.BuffersAgree) (acceptedByteCount : Nat) :
    (c.offerFront acceptedByteCount).BuffersAgree := by
  unfold offerFront
  split
  · exact h
  rename_i streamId rest hfront
  have hrest : ∀ id, id ≠ streamId → (c.outbound.find? id).isSome → id ∈ rest := by
    intro id hne hfound
    have hmem := h.scheduled id hfound
    rw [hfront] at hmem
    exact (mem_cons.mp hmem).resolve_left hne
  dsimp only
  split
  · next hnone =>
    refine ⟨h.bytes, h.isEnd, h.sent, fun id hfound => ?_, h.offers⟩
    refine hrest id ?_ hfound
    rintro rfl
    rw [hnone] at hfound
    exact nomatch hfound
  rename_i outbound hfind
  have herased : ∀ id, id ≠ streamId → (c.outbound.erase streamId).find? id = c.outbound.find? id :=
    fun id hid => find?_erase_of_ne _ hid
  split
  · next hempty =>
    have hnil : outbound.bytes = [] := isEmpty_iff.mp hempty
    have hdrop : outbound.bytes.drop outbound.sentByteCount = [] := by
      rw [hnil, drop_nil]
    split
    · next hisEnd =>
      refine h.offered 0 hfind (Nat.zero_le _) ?_ herased
        (.inr ⟨find?_erase_self _ _, by rw [hdrop]; rfl⟩) hrest
      rw [hdrop, hisEnd]
      rfl
    rename_i hisEnd
    have hunsent : c.unsentBytes streamId = [] := by
      simp only [unsentBytes, hfind, hdrop]
    have hopen : c.isEndUnsent streamId = false := by
      simpa only [isEndUnsent, hfind, Option.any_some, Bool.not_eq_true] using hisEnd
    exact h.drop_empty hunsent hopen hrest
  have hwhole : ¬ outbound.sentByteCount + min acceptedByteCount
        (outbound.bytes.drop outbound.sentByteCount).length <
      outbound.bytes.length →
      min acceptedByteCount (outbound.bytes.drop outbound.sentByteCount).length =
        (outbound.bytes.drop outbound.sentByteCount).length := by
    rw [length_drop]
    omega
  split
  · next hless =>
    have hmem : ∀ id, id ∈ rest ∨ id = streamId → id ∈
        (if streamId ∈ rest then rest else rest ++ [streamId]) := by
      intro id hid
      split
      · next hin =>
        rcases hid with hid | rfl
        · exact hid
        · exact hin
      · rcases hid with hid | rfl
        · exact mem_append_left _ hid
        · exact mem_append_right _ mem_cons_self
    refine h.offered
      (min acceptedByteCount (outbound.bytes.drop outbound.sentByteCount).length) hfind
      (min_le_right _ _) rfl ?_ (.inl ⟨?_, hmem _ (.inr rfl), ?_⟩)
      fun id hid hfound => hmem id (.inl (hrest id hid hfound))
    · intro id hid
      simp only [retainUnsentOutboundBytes, emit]
      rw [find?_insert_of_ne _ _ hid, herased id hid]
    · simp only [retainUnsentOutboundBytes, emit, find?_insert_self]
    · rw [length_drop] at hless ⊢
      omega
  · next hless =>
    exact h.offered _ hfind (min_le_right _ _) rfl herased
      (.inr ⟨find?_erase_self _ _, hwhole hless⟩) hrest

theorem BuffersAgree.perform {scope : Scope} {move : Http3Move D E V}
    (hmove : scope.Allows move) (h : c.BuffersAgree) : (c.perform move).BuffersAgree := by
  cases move with
  | emit output =>
    exact h.output (OutboundLog.note_of_allowed hmove) (.of_allowed hmove _)
  | breakConnection errorCode reason =>
    simp only [Http3Connection.perform, breakConnection]
    split
    · exact h
    have hclosed : (c.emit (.connectionClosed errorCode reason)).BuffersAgree :=
      h.output (fun _ _ => rfl) trivial
    exact hclosed.of_same rfl rfl rfl
  | queue streamId bytes isEndStream => exact h.queue streamId bytes isEndStream
  | discard streamId => exact h.discard streamId
  | offer acceptedByteCount => exact h.offer acceptedByteCount
  | ensure streamId =>
    simp only [Http3Connection.perform, ensureStream]
    split
    · exact h
    · exact h.of_same rfl rfl rfl
  | update streamId update | read streamId update =>
    simp only [Http3Connection.perform, modifyStream]
    split
    · exact h.of_same rfl rfl rfl
    · exact h
  | finish streamId update =>
    obtain ⟨_, heq⟩ := c.modifyStream_eq streamId update
    rw [Http3Connection.perform, heq, noteStranded]
    split
    · exact h.of_same rfl rfl rfl
    · refine BuffersAgree.output (h.of_same rfl rfl rfl) ?_ trivial
      exact fun _ _ => rfl
  | erase streamId =>
    have herased : ({ c with streams := c.streams.erase streamId } :
        Http3Connection D E V).BuffersAgree := h.of_same rfl rfl rfl
    simp only [Http3Connection.perform, eraseStream, noteUncredited]
    split
    · exact herased
    · exact herased.output (fun _ _ => rfl) trivial
  | process streamId =>
    obtain ⟨_, heq⟩ := c.perform_process_eq streamId
    rw [heq]
    exact h.of_same rfl rfl rfl
  | decoder _ | encoder _ | peerFacts _ _ _ _ _ | roles _ _ _ _ _
  | drain _ _ | reject _ => exact h.of_same rfl rfl rfl

theorem BuffersAgree.blank (codec : Http3Codec D E V) (configuration : Http3Configuration) :
    (blank codec configuration).BuffersAgree where
  bytes := fun _ => rfl
  isEnd := fun _ => rfl
  sent := fun _ _ hfound => nomatch hfound
  scheduled := fun _ hfound => nomatch hfound
  offers := fun before _ _ heq => by
    cases before with
    | nil => exact nomatch heq
    | cons _ _ => exact nomatch heq

variable {codec : Http3Codec D E V} {configuration : Http3Configuration}
  {accepted : List Nat}

theorem Reachable.buffersAgree (h : Reachable codec configuration accepted c) : c.BuffersAgree :=
  h.invariant (.blank codec configuration) fun _ _ hmove hc =>
    hc.perform hmove

/-- A stream that has something to hand over, bytes or the end mark, has its
place in the rotation. -/
theorem BuffersAgree.scheduled_of_owed (h : c.BuffersAgree) {streamId : Nat}
    (howed : c.unsentBytes streamId ≠ [] ∨ (outboundLog streamId c.outputs).isEndOwed) :
    streamId ∈ c.outboundOrder := by
  refine h.scheduled streamId ?_
  rw [← h.isEnd] at howed
  cases hfind : c.outbound.find? streamId with
  | some _ => rfl
  | none =>
    rw [unsentBytes, isEndUnsent, hfind] at howed
    rcases howed with hbytes | hisEnd
    · exact absurd rfl hbytes
    · cases hisEnd

/-- In every run, what the stream writer took on a stream, followed by what
the stream still has to hand over, is what was queued on it, in order; where
a stream was cancelled or failed, without what was thrown away then. Each
time the writer is offered all that it has not taken, and the end mark goes
with that when it is owed and never before. -/
theorem Reachable.output_in_order (h : Reachable codec configuration accepted c) :
    (∀ streamId, (outboundLog streamId c.outputs).accepted ++ c.unsentBytes streamId =
        (outboundLog streamId c.outputs).kept ∧
      (.discarded streamId ∉ c.outputs → (outboundLog streamId c.outputs).kept =
          (outboundLog streamId c.outputs).queued) ∧
      (c.unsentBytes streamId ≠ [] ∨ (outboundLog streamId c.outputs).isEndOwed = true →
        streamId ∈ c.outboundOrder)) ∧
    ∀ before after streamId bytes isEndStream acceptedByteCount, c.outputs = before ++
        .written streamId bytes isEndStream acceptedByteCount :: after →
      acceptedByteCount ≤ bytes.length ∧
      (outboundLog streamId before).accepted ++ bytes = (outboundLog streamId before).kept ∧
      isEndStream = (outboundLog streamId before).isEndOwed := by
  have hagree := h.buffersAgree
  refine ⟨fun streamId => ⟨hagree.bytes streamId, outboundLog_kept, hagree.scheduled_of_owed⟩, ?_⟩
  intro before after streamId bytes isEndStream acceptedByteCount heq
  exact hagree.offers _ _ _ heq

/-- A response whose buffer leaves in three pieces. -/
def pieces : List Http3Event :=
  [.streamData 0 [1, 4, 1, 7, 1, 8] true, .submitResponseHead 0 [⟨[5], [6]⟩] false, .flush [1],
    .appendResponseBody 0 [1, 2, 3] true,
    .flush [4, 9, 9],
    .flush [9]]

theorem output_in_order_pieces :
    (outboundLog 0 (pieces.foldl (apply plainCodec)
        (start plainCodec plainServer [9, 1, 1])).outputs).accepted =
      [1, 4, 1, 5, 1, 6, 0, 3, 1, 2, 3] := by
  have hreach : Reachable plainCodec plainServer [9, 1, 1]
      (pieces.foldl (apply plainCodec) (start plainCodec plainServer [9, 1, 1])) :=
    Reach.run .start pieces ⟨trivial, trivial, trivial, trivial, trivial, trivial, trivial⟩
  have hbytes := ((Reachable.output_in_order hreach).1 0).1
  have hunsent : (pieces.foldl (apply plainCodec)
      (start plainCodec plainServer [9, 1, 1])).unsentBytes 0 = [] := by
    decide +kernel
  rw [hunsent, append_nil] at hbytes
  decide +kernel

end Http3Connection

end AsynGyanis.Http3
