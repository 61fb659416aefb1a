import AsynGyanis.Http3.CreditLedger
import AsynGyanis.Http3.Isolation

/-!
# The credit of a whole run

`Ledger streamId delivered c` is what holds of a stream after a run that
brought `delivered` bytes on it: they are settled, in the reader, or in the
buffer of a type that is not complete. Each event adds the bytes it brings.
An event on one stream settles nothing of another, except that the bytes of
the peer's encoder stream are credited to the stream the connection knows
by that role, so the roles have to agree (`RolesAgree`).

What is lost on the way is noted where it happens: DATA after the trailers,
bytes that arrive behind the type of a QPACK decoder stream, and a record
that goes before everything it was fed has credit. Without such a note
credit is conserved, and a stream whose end leaves no note of bytes waiting
has all of them settled.
-/

namespace AsynGyanis.Http3

open Quic Library List

variable {D E V : Type}

namespace Http3Connection

variable {codec : Http3Codec D E V} {c c' : Http3Connection D E V}
  {streamId count delivered : Nat}

/-! ## Roles -/

/-- What the tables say of the unidirectional streams of the peer. -/
structure RolesAgree (c : Http3Connection D E V) : Prop where
  encoder : ∀ id, c.peerStreamKinds.find? id = some .qpackEncoder → c.peerEncoderStreamId = some id
  /-- Only a type that is not complete waits in a buffer. -/
  waiting : ∀ id, c.peerStreamTypeBuffers.find? id ≠ none →
    isUnidirectionalStream id = true ∧ c.peerStreamKinds.find? id = none

/-- Everything but a change of the roles. -/
def sameRoles : Scope := { Scope.any with setsRoles := False }

theorem sameRoles_covers (c : Http3Connection D E V) : sameRoles.Covers c := fun _ => .inl trivial

theorem sameRoles_opens (streamId : Nat) : sameRoles.Opens streamId :=
  ⟨trivial, trivial, trivial, trivial⟩

theorem RolesAgree.of_same (h : RolesAgree c) (hkinds : c'.peerStreamKinds = c.peerStreamKinds)
    (hbuffers : c'.peerStreamTypeBuffers = c.peerStreamTypeBuffers)
    (hencoder : c'.peerEncoderStreamId = c.peerEncoderStreamId) : RolesAgree c' where
  encoder := by rw [hkinds, hencoder]; exact h.encoder
  waiting := by rw [hkinds, hbuffers]; exact h.waiting

theorem RolesAgree.of_via (h : RolesAgree c) (hvia : Via sameRoles c c') : RolesAgree c' := by
  obtain ⟨hkinds, hbuffers, _, hencoder, _⟩ := hvia.kept.roles id
  exact h.of_same hkinds hbuffers hencoder

theorem RolesAgree.of_typed (h : RolesAgree c) {kind : PeerStreamKind}
    (hkinds : c'.peerStreamKinds = c.peerStreamKinds.insert streamId kind)
    (hbuffers : c'.peerStreamTypeBuffers = c.peerStreamTypeBuffers.erase streamId)
    (hencoder : kind = .qpackEncoder ∧ c.peerEncoderStreamId = none ∧
        c'.peerEncoderStreamId = some streamId ∨
      kind ≠ .qpackEncoder ∧ c'.peerEncoderStreamId = c.peerEncoderStreamId) :
    RolesAgree c' where
  encoder := by
    intro id hid
    rw [hkinds, SortedMap.find?_insert] at hid
    split at hid
    · next hself =>
      subst hself
      rcases hencoder with ⟨_, _, hsome⟩ | ⟨hother, _⟩
      · exact hsome
      · exact absurd (Option.some.inj hid) hother
    · rcases hencoder with ⟨_, hnone, _⟩ | ⟨_, hsame⟩
      · exact nomatch hnone.symm.trans (h.encoder id hid)
      · exact hsame.trans (h.encoder id hid)
  waiting := by
    intro id hid
    rw [hbuffers, SortedMap.find?_erase] at hid
    split at hid
    · exact absurd rfl hid
    rename_i hne
    rw [hkinds, SortedMap.find?_insert_of_ne _ _ hne]
    exact h.waiting id hid

/-! ## The end of a type -/

/-- A stream whose type was just read has a kind and the credit of its
type. -/
def typed (c : Http3Connection D E V) (streamId : Nat) (kind : PeerStreamKind)
    (control encoder decoder : Option Nat) (typeByteCount : Nat) :
    Http3Connection D E V :=
  { c with
    peerStreamKinds := c.peerStreamKinds.insert streamId kind
    peerStreamTypeBuffers := c.peerStreamTypeBuffers.erase streamId
    peerControlStreamId := control
    peerEncoderStreamId := encoder
    peerDecoderStreamId := decoder }.credit streamId typeByteCount

/-- A type that is not complete waits, and is noted if it ends so. -/
def waitForType (c : Http3Connection D E V) (streamId : Nat) (data : Bytes)
    (isEndStream : Bool) : Http3Connection D E V :=
  let c := { c with
    peerStreamTypeBuffers := c.peerStreamTypeBuffers.insert streamId (c.typeBytes streamId data) }
  if isEndStream then c.noteStranded streamId else c

/-- How a delivery goes on behind the type of its stream. -/
inductive Continues (codec : Http3Codec D E V) (c : Http3Connection D E V)
    (streamId : Nat) (rest : Bytes) (isEndStream : Bool) :
    PeerStreamKind → Http3Connection D E V → Prop
  | nothing {kind : PeerStreamKind} (h : rest = []) :
      Continues codec c streamId rest isEndStream kind c
  | control : rest ≠ [] → Continues codec c streamId rest isEndStream .control
      (c.consumeControlStreamBytes codec streamId rest isEndStream)
  | encoder : Continues codec c streamId rest isEndStream .qpackEncoder
      (c.consumeQpackEncoderStreamBytes codec rest)
  | decoder : Continues codec c streamId rest isEndStream .qpackDecoder
      ((c.feedDecoderStream codec rest).1.noteUncredited streamId rest.length)
  | ignored : Continues codec c streamId rest isEndStream .ignored (c.credit streamId rest.length)

variable (codec)

theorem typePrefix_cases
    (c : Http3Connection D E V) (streamId : Nat) (data : Bytes) (isEndStream : Bool) :
    (c.consumePeerUnidirectionalTypePrefix codec streamId data isEndStream).isBroken = true ∨
      c.consumePeerUnidirectionalTypePrefix codec streamId data isEndStream =
        c.waitForType streamId data isEndStream ∨ ∃ decoded kind control encoder decoder,
        decodeQuicVariableLengthInteger (c.typeBytes streamId data) = .ok decoded ∧
        (kind = .qpackEncoder ∧ c.peerEncoderStreamId = none ∧ encoder = some streamId ∨
          kind ≠ .qpackEncoder ∧ encoder = c.peerEncoderStreamId) ∧
        Continues codec (c.typed streamId kind control encoder decoder decoded.byteCount)
          streamId ((c.typeBytes streamId data).drop decoded.byteCount) isEndStream kind
          (c.consumePeerUnidirectionalTypePrefix codec streamId data isEndStream) := by
  unfold Http3Connection.consumePeerUnidirectionalTypePrefix
  dsimp only
  cases hdecoded : decodeQuicVariableLengthInteger
      ((c.peerStreamTypeBuffers.find? streamId).getD [] ++ data) with
  | error error =>
    dsimp only
    cases error.kind with
    | truncated => exact .inr (.inl rfl)
    | malformed => exact breakConnection_broken_or _ _
  | ok decoded =>
    have hdecoded' : decodeQuicVariableLengthInteger
        (c.typeBytes streamId data) = .ok decoded := hdecoded
    dsimp only
    split
    · exact breakConnection_broken_or _ _
    · split
      · exact breakConnection_broken_or _ _
      refine .inr (.inr ⟨decoded, .control, some streamId, _,
        c.peerDecoderStreamId, hdecoded', .inr ⟨nofun, rfl⟩, ?_⟩)
      split
      · next hempty => exact .nothing (isEmpty_iff.mp hempty)
      · next hrest => exact .control (isEmpty_iff.not.mp hrest)
    · split
      · exact breakConnection_broken_or _ _
      rename_i hfirst
      rw [Bool.not_eq_true, Option.isSome_eq_false_iff, Option.isNone_iff_eq_none] at hfirst
      refine .inr (.inr ⟨decoded, .qpackEncoder, c.peerControlStreamId, _,
        c.peerDecoderStreamId, hdecoded', .inl ⟨rfl, hfirst, rfl⟩, ?_⟩)
      split
      · next hempty => exact .nothing (isEmpty_iff.mp hempty)
      · exact .encoder
    · split
      · exact breakConnection_broken_or _ _
      refine .inr (.inr ⟨decoded, .qpackDecoder, c.peerControlStreamId,
        _, some streamId, hdecoded', .inr ⟨nofun, rfl⟩, ?_⟩)
      split
      · next hempty => exact .nothing (isEmpty_iff.mp hempty)
      · exact .decoder
    · exact .inr (.inr ⟨decoded, .ignored, c.peerControlStreamId, _,
        c.peerDecoderStreamId, hdecoded', .inr ⟨nofun, rfl⟩, .ignored⟩)

variable {codec}

theorem Continues.via {rest : Bytes} {isEndStream : Bool} {kind : PeerStreamKind}
    (h : Continues codec c streamId rest isEndStream kind c') : Via sameRoles c c' := by
  cases h with
  | nothing _ => exact .refl c
  | control _ =>
    exact (Via.refl c).consumeControlStreamBytes (sameRoles_covers c)
      (sameRoles_opens streamId) rest fun _ => trivial
  | encoder =>
    exact (Via.refl c).consumeQpackEncoderStreamBytes (sameRoles_covers c) (fun _ _ => trivial) rest
  | decoder =>
    exact ((Via.refl c).feedDecoderStream codec rest).noteUncredited trivial _
  | ignored => exact (Via.refl c).credit trivial _

theorem credit_eq (c : Http3Connection D E V) (streamId byteCount : Nat) :
    ∃ outputs, c.credit streamId byteCount = { c with outputs := outputs } := by
  unfold credit
  split
  · exact ⟨_, rfl⟩
  · exact ⟨c.outputs, rfl⟩

theorem RolesAgree.typePrefix (h : RolesAgree c) (huni : isUnidirectionalStream streamId)
    (hnew : c.peerStreamKinds.find? streamId = none) (data : Bytes) (isEndStream : Bool) :
    (c.consumePeerUnidirectionalTypePrefix codec streamId data isEndStream).isBroken = true ∨
      RolesAgree (c.consumePeerUnidirectionalTypePrefix codec streamId data isEndStream) := by
  rcases c.typePrefix_cases codec streamId data isEndStream with
    hbroken | heq | ⟨decoded, kind, control, encoder, decoder, _, hencoder, hcontinues⟩
  · exact .inl hbroken
  · refine .inr ?_
    rw [heq]
    have hwaiting : RolesAgree { c with
        peerStreamTypeBuffers := c.peerStreamTypeBuffers.insert streamId
          (c.typeBytes streamId data) } := by
      refine ⟨h.encoder, fun id hid => ?_⟩
      rw [SortedMap.find?_insert] at hid
      split at hid
      · next hself =>
        rw [hself]
        exact ⟨huni, hnew⟩
      · exact h.waiting id hid
    unfold waitForType
    split
    · exact hwaiting.of_via ((Via.refl _).noteStranded streamId)
    · exact hwaiting
  · refine .inr (RolesAgree.of_via ?_ hcontinues.via)
    obtain ⟨_, heq⟩ := credit_eq { c with
      peerStreamKinds := c.peerStreamKinds.insert streamId kind
      peerStreamTypeBuffers := c.peerStreamTypeBuffers.erase streamId
      peerControlStreamId := control
      peerEncoderStreamId := encoder
      peerDecoderStreamId := decoder } streamId decoded.byteCount
    unfold typed
    rw [heq]
    exact h.of_typed rfl rfl hencoder

/-! ## The ledger of a stream -/

/-- What has arrived on a stream is settled, in its reader, or part of a
type. Of the unidirectional streams only the control stream has a reader. -/
structure Ledger (streamId delivered : Nat) (c : Http3Connection D E V) :
    Prop where
  books : ∃ count, Books streamId count c ∧ count + c.typeByteCount streamId = delivered
  unread : c.IsPeerUnidirectional streamId → c.peerStreamKinds.find? streamId ≠ some .control →
      (c.streamState streamId).reader = none

namespace Ledger

theorem of_unread (h : Ledger streamId delivered c) (hunread : Unread streamId c c')
    (hwaiting : c'.typeByteCount streamId = c.typeByteCount streamId)
    (hkind : c'.peerStreamKinds.find? streamId = c.peerStreamKinds.find? streamId)
    (hserver : c'.isLocalServer = c.isLocalServer) : Ledger streamId delivered c' where
  books := by
    obtain ⟨count, hbooks, heq⟩ := h.books
    exact ⟨count, hbooks.of_unread hunread, by rw [hwaiting]; exact heq⟩
  unread := by
    intro huni hother
    rw [hkind] at hother
    rw [IsPeerUnidirectional, isLocallyInitiatedStream, hserver] at huni
    rcases hunread.record with hkeeps | hkeeps
    · exact hkeeps.reader.trans (h.unread huni hother)
    · exact hkeeps.reader

theorem of_via (h : Ledger streamId delivered c)
    (hunread : Via (awayFrom streamId) c c') (hroles : Via sameRoles c c') :
    Ledger streamId delivered c' := by
  obtain ⟨hkinds, hbuffers, _⟩ := hroles.kept.roles id
  exact h.of_unread hunread.unread (by rw [typeByteCount, hbuffers]; rfl)
    (by rw [hkinds]) hroles.kept.isLocalServer

theorem of_books {data : Bytes} (h : Ledger streamId delivered c)
    (hbooks : ∀ count, Books streamId count c →
      c'.isBroken = true ∨ Books streamId (count + data.length) c')
    (hroles : Via sameRoles c c')
    (hread : c.IsPeerUnidirectional streamId → c.peerStreamKinds.find? streamId = some .control) :
    c'.isBroken = true ∨ Ledger streamId (delivered + data.length) c' := by
  obtain ⟨hkinds, hbuffers, _⟩ := hroles.kept.roles id
  obtain ⟨count, hcount, heq⟩ := h.books
  refine (hbooks count hcount).imp_right fun hbooks => ⟨⟨_, hbooks, ?_⟩, ?_⟩
  · rw [typeByteCount, hbuffers, ← heq, typeByteCount]
    omega
  intro huni hother
  rw [IsPeerUnidirectional, isLocallyInitiatedStream, hroles.kept.isLocalServer] at huni
  rw [hkinds] at hother
  exact absurd (hread huni) hother

theorem settle {d : Http3Connection D E V} (h : Ledger streamId delivered c) {byteCount : Nat}
    (hbooks : ∀ count, Books streamId count c → Books streamId (count + byteCount) d)
    (hfields : ∃ outputs, d = { c with outputs := outputs }) :
    Ledger streamId (delivered + byteCount) d := by
  obtain ⟨count, hcount, heq⟩ := h.books
  have hbooks' := hbooks count hcount
  obtain ⟨outputs, rfl⟩ := hfields
  refine ⟨⟨_, hbooks', ?_⟩, h.unread⟩
  rw [← heq]
  exact add_right_comm _ _ _

theorem credit (h : Ledger streamId delivered c) (hcrediter : c.configuration.hasStreamCrediter)
    (byteCount : Nat) : Ledger streamId (delivered + byteCount) (c.credit streamId byteCount) :=
  h.settle (fun _ hbooks => hbooks.credit hcrediter byteCount) (c.credit_eq streamId byteCount)

theorem noteUncredited (h : Ledger streamId delivered c) (byteCount : Nat) :
    Ledger streamId (delivered + byteCount) (c.noteUncredited streamId byteCount) := by
  refine h.settle (fun _ hbooks => hbooks.noteUncredited byteCount) ?_
  unfold Http3Connection.noteUncredited
  split
  · exact ⟨c.outputs, rfl⟩
  · exact ⟨_, rfl⟩

variable (codec)

theorem feedDecoderStream (h : Ledger streamId delivered c) (data : Bytes) :
    Ledger streamId delivered (c.feedDecoderStream codec data).1 :=
  h.of_via ((Via.refl c).feedDecoderStream codec data) ((Via.refl c).feedDecoderStream codec data)

theorem consumeQpackEncoderStreamBytes (h : Ledger streamId delivered c)
    (hencoder : c.peerEncoderStreamId = some streamId)
    (hcrediter : c.configuration.hasStreamCrediter) (data : Bytes) :
    (c.consumeQpackEncoderStreamBytes codec data).isBroken = true ∨
      Ledger streamId (delivered + data.length) (c.consumeQpackEncoderStreamBytes codec data) := by
  rcases c.consumeQpackEncoderStreamBytes_split codec data with
    hbroken | ⟨d, hvia, heq⟩
  · exact .inl hbroken
  rw [heq, hencoder, Option.elim_some]
  have hany : Via .any c d := hvia fun _ => .inl trivial
  exact .inr ((h.of_via (hvia (awayFrom_covers c))
    (hvia (sameRoles_covers c))).credit (crediter_of_via hany hcrediter) _)

theorem typed (h : Ledger streamId delivered c) (hnew : c.peerStreamKinds.find? streamId = none)
    (hcrediter : c.configuration.hasStreamCrediter)
    (kind : PeerStreamKind) (control encoder decoder : Option Nat) (byteCount : Nat) :
    ∃ count, count + c.typeByteCount streamId = delivered ∧ Ledger streamId (count + byteCount)
        (c.typed streamId kind control encoder decoder byteCount) := by
  obtain ⟨count, hbooks, heq⟩ := h.books
  refine ⟨count, heq, ?_⟩
  have hplain : Ledger streamId count { c with
      peerStreamKinds := c.peerStreamKinds.insert streamId kind
      peerStreamTypeBuffers := c.peerStreamTypeBuffers.erase streamId
      peerControlStreamId := control
      peerEncoderStreamId := encoder
      peerDecoderStreamId := decoder } := by
    refine ⟨⟨count, ?_, ?_⟩, fun huni _ => ?_⟩
    · exact hbooks.of_unread (.of_state rfl (.of_eq rfl))
    · simp [typeByteCount]
    · exact h.unread huni (by rw [hnew]; nofun)
  exact hplain.credit hcrediter byteCount

variable {codec}

theorem continues {rest : Bytes} {isEndStream : Bool} {kind : PeerStreamKind}
    (h : Ledger streamId delivered c) (huni : isUnidirectionalStream streamId)
    (hkind : c.peerStreamKinds.find? streamId = some kind)
    (hencoder : kind = .qpackEncoder → c.peerEncoderStreamId = some streamId)
    (hcrediter : c.configuration.hasStreamCrediter)
    (hcontinues : Continues codec c streamId rest isEndStream kind c') :
    c'.isBroken = true ∨ Ledger streamId (delivered + rest.length) c' := by
  have hvia := hcontinues.via
  cases hcontinues with
  | nothing hrest =>
    rw [hrest]
    exact .inr h
  | control _ =>
    refine h.of_books (fun _ hbooks => ?_) hvia fun _ => hkind
    exact hbooks.consumeControlStreamBytes codec huni hcrediter rest _
  | encoder =>
    exact h.consumeQpackEncoderStreamBytes codec (hencoder rfl) hcrediter rest
  | decoder => exact .inr ((h.feedDecoderStream codec rest).noteUncredited _)
  | ignored => exact .inr (h.credit hcrediter _)

variable (codec)

theorem typePrefix (h : Ledger streamId delivered c)
    (huni : isUnidirectionalStream streamId) (hnew : c.peerStreamKinds.find? streamId = none)
    (hcrediter : c.configuration.hasStreamCrediter) (data : Bytes) (isEndStream : Bool) :
    (c.consumePeerUnidirectionalTypePrefix codec streamId data isEndStream).isBroken = true ∨
      Ledger streamId (delivered + data.length)
        (c.consumePeerUnidirectionalTypePrefix codec streamId data isEndStream) := by
  have hbytes : (c.typeBytes streamId data).length = c.typeByteCount streamId + data.length := by
    unfold typeBytes typeByteCount
    cases c.peerStreamTypeBuffers.find? streamId with
    | none => simp
    | some buffer => simp
  rcases c.typePrefix_cases codec streamId data isEndStream with
    hbroken | heq | ⟨decoded, kind, control, encoder, decoder, hdecoded, hencoder, hcontinues⟩
  · exact .inl hbroken
  · rw [heq]
    obtain ⟨count, hbooks, hcount⟩ := h.books
    have hwaiting : Ledger streamId (delivered + data.length) { c with
        peerStreamTypeBuffers := c.peerStreamTypeBuffers.insert streamId
          (c.typeBytes streamId data) } := by
      refine ⟨⟨count, ?_, ?_⟩, h.unread⟩
      · exact hbooks.of_unread (.of_state rfl (.of_eq rfl))
      simp only [typeByteCount, SortedMap.find?_insert_self, Option.map_some, Option.getD_some]
      omega
    unfold waitForType
    split
    · exact .inr (hwaiting.of_via ((Via.refl _).noteStranded streamId)
        ((Via.refl _).noteStranded streamId))
    · exact .inr hwaiting
  obtain ⟨count, hcount, htyped⟩ := h.typed hnew hcrediter kind control
    encoder decoder decoded.byteCount
  obtain ⟨outputs, hfields⟩ := credit_eq { c with
    peerStreamKinds := c.peerStreamKinds.insert streamId kind
    peerStreamTypeBuffers := c.peerStreamTypeBuffers.erase streamId
    peerControlStreamId := control
    peerEncoderStreamId := encoder
    peerDecoderStreamId := decoder } streamId decoded.byteCount
  have hlong := (decodeQuicVariableLengthInteger_spec hdecoded).2.2
  have hdelivered : delivered + data.length = count + decoded.byteCount +
        ((c.typeBytes streamId data).drop decoded.byteCount).length := by
    rw [length_drop]
    omega
  rw [hdelivered]
  refine htyped.continues huni ?_ (fun hkind => ?_) ?_ hcontinues
  · rw [Http3Connection.typed, hfields]
    exact SortedMap.find?_insert_self _ _ _
  · rw [Http3Connection.typed, hfields]
    rcases hencoder with ⟨_, _, hsome⟩ | ⟨hother, _⟩
    · exact hsome
    · exact absurd hkind hother
  · rw [Http3Connection.typed, hfields]
    exact hcrediter

end Ledger

/-! ## Events -/

variable (codec)

theorem Ledger.consumeStreamData (h : Ledger streamId delivered c) (hroles : RolesAgree c)
    (hopen : c.isUsable ∧ c.isBroken = false)
    (hcrediter : c.configuration.hasStreamCrediter) (data : Bytes) (isEndStream : Bool) :
    (c.consumeStreamData codec streamId data isEndStream).isBroken = true ∨
      Ledger streamId (delivered + data.length)
        (c.consumeStreamData codec streamId data isEndStream) := by
  unfold Http3Connection.consumeStreamData
  simp only [hopen.1, hopen.2, Bool.not_true, Bool.or_self, Bool.false_eq_true, if_false]
  split
  · next huni =>
    split
    · exact .inr (h.credit hcrediter _)
    split
    · next hnew => exact h.typePrefix codec huni hnew hcrediter data _
    · next hcontrol =>
      refine h.of_books (fun _ hbooks => ?_) ?_ fun _ => hcontrol
      · exact hbooks.consumeControlStreamBytes codec huni hcrediter data _
      · exact (Via.refl c).consumeControlStreamBytes (sameRoles_covers c)
          (sameRoles_opens streamId) data fun _ => trivial
    · next hencoder =>
      exact h.consumeQpackEncoderStreamBytes codec (hroles.encoder streamId hencoder) hcrediter data
    · have hfed := h.feedDecoderStream codec data
      have hvia := (@Via.refl D E V .any c).feedDecoderStream codec data
      unfold Http3Connection.feedDecoderStream at hfed hvia ⊢
      split
      · next hfailed =>
        split at hfailed
        · cases hfailed
          exact breakConnection_broken_or _ _
        · exact nomatch congrArg Prod.snd hfailed
      · next hdone =>
        rw [hdone] at hfed hvia
        exact .inr (hfed.credit (crediter_of_via hvia hcrediter) _)
    · exact .inr (h.credit hcrediter _)
    · exact .inr (h.credit hcrediter _)
  · next huni =>
    split
    · refine h.of_books (fun _ hbooks => ?_) ?_ fun hpeer => absurd hpeer.1 huni
      · exact hbooks.consumeRequestStream codec hcrediter data isEndStream
      · exact (Via.refl c).consumeRequestStream (sameRoles_opens streamId)
          (fun _ _ => trivial) data isEndStream
    · exact .inr (h.credit hcrediter _)

variable {event : Http3Event}

theorem RolesAgree.apply_unread (h : RolesAgree c) (hother : ∀ data isEndStream,
      event ≠ .streamData streamId data isEndStream) :
    Unread streamId c (c.apply codec event) := by
  have hadmitted : c.Admits (awayFrom streamId) event → Unread streamId c (c.apply codec event) :=
    fun hadmits => (apply_via codec hadmits).unread
  have hensured : ∀ {id : Nat} {d : Http3Connection D E V},
      Via (awayFrom streamId) (c.ensureStream id) d → Unread streamId c d :=
    fun hvia => (Unread.ensureStream _).trans hvia.unread
  have hrest : (∀ id, openedBy event = some id → id ≠ streamId) →
      (∀ id data isEndStream, event = .streamData id data isEndStream →
        id ≠ streamId) → c.Admits (awayFrom streamId) event := by
    refine fun hopened hdelivered => ⟨awayFrom_covers c, fun id hid => ?_, ?_,
      fun _ _ => trivial, fun _ => trivial⟩
    · exact ⟨trivial, hopened id hid, hopened id hid, hopened id hid⟩
    rintro id data isEndStream rfl
    refine ⟨fun hkind other hsome => ?_, fun _ _ _ => trivial,
      fun _ _ _ => trivial, fun _ => trivial⟩
    rw [h.encoder id hkind] at hsome
    exact Option.some.inj hsome ▸ hdelivered id data isEndStream rfl
  cases event with
  | submitRequestHead id fieldLines isEndOfStream =>
    simp only [apply, submitRequestHead]
    split
    · exact .refl c
    · exact hensured (Via.submitResponseFieldSection (.refl _) (awayFrom_covers _) _ _ _ _)
  | appendRequestBody id bytes isEndStream =>
    exact hensured (Via.appendResponseBody (.refl _) (awayFrom_covers _) _
      _ _)
  | streamData id data isEndStream =>
    have hne : id ≠ streamId := by
      rintro rfl
      exact hother data isEndStream rfl
    refine hadmitted (hrest (fun other heq => ?_) ?_)
    · exact Option.some.inj heq ▸ hne
    · rintro _ _ _ ⟨⟩
      exact hne
  | _ =>
    refine hadmitted (hrest ?_ ?_)
    · rintro _ ⟨⟩
    · rintro _ _ _ ⟨⟩

theorem apply_sameRoles (h : ∀ id data isEndStream, event = .streamData id data isEndStream →
      isUnidirectionalStream id → c.isLocallyInitiatedStream id = false →
          c.peerStreamKinds.find? id ≠ none) : Via sameRoles c (c.apply codec event) := by
  refine apply_via codec ⟨sameRoles_covers c, fun id _ => sameRoles_opens id,
    ?_, fun _ _ => trivial, fun _ => trivial⟩
  exact fun id data isEndStream heq => ⟨fun _ _ _ => trivial,
    fun huni hpeer hnew => h id data isEndStream heq huni hpeer hnew,
    fun _ _ _ => trivial, fun _ => trivial⟩

/-- A delivery that is read as the type of its stream. -/
def ReadsType (c : Http3Connection D E V) (event : Http3Event) : Prop :=
  ∃ id data isEndStream, event = .streamData id data isEndStream ∧
    isUnidirectionalStream id = true ∧
    c.isLocallyInitiatedStream id = false ∧
    c.peerStreamKinds.find? id = none

theorem apply_sameRoles_of_not (h : ¬ c.ReadsType event) :
    Via sameRoles c (c.apply codec event) :=
  apply_sameRoles codec fun id data isEndStream heq huni hpeer hnew =>
    h ⟨id, data, isEndStream, heq, huni, hpeer, hnew⟩

theorem consumeStreamData_untyped {id : Nat}
    (hopen : c.isUsable ∧ c.isBroken = false) (huni : isUnidirectionalStream id)
    (hpeer : c.isLocallyInitiatedStream id = false)
    (hnew : c.peerStreamKinds.find? id = none) (data : Bytes) (isEndStream : Bool) :
    c.consumeStreamData codec id data isEndStream =
      c.consumePeerUnidirectionalTypePrefix codec id data isEndStream := by
  unfold consumeStreamData
  simp [hopen.1, hopen.2, huni, hpeer, hnew]

theorem RolesAgree.apply (h : RolesAgree c)
    (hopen : c.isUsable ∧ c.isBroken = false) (event : Http3Event) :
    (c.apply codec event).isBroken = true ∨ RolesAgree (c.apply codec event) := by
  by_cases htype : c.ReadsType event
  · obtain ⟨id, data, isEndStream, rfl, huni, hpeer, hnew⟩ := htype
    rw [Http3Connection.apply, consumeStreamData_untyped codec hopen huni hpeer hnew]
    exact h.typePrefix huni hnew data isEndStream
  · exact .inr (h.of_via (apply_sameRoles_of_not codec htype))

variable {codec}

theorem typePrefix_other {other : Nat} (hne : streamId ≠ other)
    (data : Bytes) (isEndStream : Bool) :
    (c.consumePeerUnidirectionalTypePrefix codec other data isEndStream).isBroken = true ∨
      (c.consumePeerUnidirectionalTypePrefix codec other data
          isEndStream).typeByteCount streamId = c.typeByteCount streamId ∧
        (c.consumePeerUnidirectionalTypePrefix codec other data
          isEndStream).peerStreamKinds.find? streamId = c.peerStreamKinds.find? streamId := by
  rcases c.typePrefix_cases codec other data isEndStream with
    hbroken | heq | ⟨decoded, kind, control, encoder, decoder, _, _, hcontinues⟩
  · exact .inl hbroken
  · have hvia : Via sameRoles { c with
        peerStreamTypeBuffers := c.peerStreamTypeBuffers.insert other (c.typeBytes other data) }
        (c.waitForType other data isEndStream) := by
      unfold waitForType
      split
      · exact (Via.refl _).noteStranded other
      · exact .refl _
    obtain ⟨hkinds, hbuffers, _⟩ := hvia.kept.roles id
    rw [heq, typeByteCount, hbuffers, hkinds]
    exact .inr ⟨by rw [SortedMap.find?_insert_of_ne _ _ hne]; rfl, rfl⟩
  · obtain ⟨_, hfields⟩ := credit_eq { c with
      peerStreamKinds := c.peerStreamKinds.insert other kind
      peerStreamTypeBuffers := c.peerStreamTypeBuffers.erase other
      peerControlStreamId := control
      peerEncoderStreamId := encoder
      peerDecoderStreamId := decoder } other decoded.byteCount
    obtain ⟨hkinds, hbuffers, _⟩ := hcontinues.via.kept.roles id
    rw [typeByteCount, hbuffers, hkinds, typed, hfields]
    exact .inr ⟨by rw [SortedMap.find?_erase_of_ne _ hne]; rfl,
      SortedMap.find?_insert_of_ne _ _ hne⟩

/-- The bytes an event brings on a stream. -/
def arrivedByteCount (streamId : Nat) : Http3Event → Nat
  | .streamData id data _ => if id = streamId then data.length else 0
  | _ => 0

variable (codec)

theorem Ledger.apply (h : Ledger streamId delivered c) (hroles : RolesAgree c)
    (hopen : c.isUsable ∧ c.isBroken = false)
    (hcrediter : c.configuration.hasStreamCrediter) (event : Http3Event) :
    (c.apply codec event).isBroken = true ∨
      Ledger streamId (delivered + arrivedByteCount streamId event) (c.apply codec event) := by
  by_cases hself : ∃ data isEndStream, event = .streamData streamId data isEndStream
  · obtain ⟨data, isEndStream, rfl⟩ := hself
    rw [arrivedByteCount, if_pos rfl]
    exact h.consumeStreamData codec hroles hopen hcrediter data isEndStream
  have hother : ∀ data isEndStream, event ≠ .streamData streamId data isEndStream :=
    fun data isEndStream heq => hself ⟨data, isEndStream, heq⟩
  have hunread := hroles.apply_unread codec hother
  have hnone : arrivedByteCount streamId event = 0 := by
    cases event with
    | streamData id data isEndStream =>
      refine if_neg ?_
      rintro rfl
      exact hother data isEndStream rfl
    | _ => rfl
  rw [hnone, add_zero]
  have hserver : (c.apply codec event).isLocalServer = c.isLocalServer :=
    (apply_via codec (.any c event)).kept.isLocalServer
  by_cases htype : c.ReadsType event
  · obtain ⟨id, data, isEndStream, rfl, huni, hpeer, hnew⟩ := htype
    have hne : streamId ≠ id := by
      rintro rfl
      exact hother data isEndStream rfl
    have heq : c.apply codec (.streamData id data isEndStream) =
        c.consumePeerUnidirectionalTypePrefix codec id data isEndStream :=
      consumeStreamData_untyped codec hopen huni hpeer hnew data isEndStream
    rw [heq] at hunread hserver ⊢
    exact (typePrefix_other hne data isEndStream).imp_right
      fun ⟨hwaiting, hkind⟩ => h.of_unread hunread hwaiting hkind hserver
  · obtain ⟨hkinds, hbuffers, _⟩ := (apply_sameRoles_of_not codec htype).kept.roles id
    exact .inr (h.of_unread hunread (by rw [typeByteCount, hbuffers]; rfl) (by rw [hkinds]) hserver)

/-! ## Ends -/

/-- The peer's end of a stream, for the first time, or the session's end of
reading it. -/
def EndsStream (c : Http3Connection D E V) (streamId : Nat) : Http3Event → Prop
  | .streamData id _ isEndStream =>
    id = streamId ∧ isEndStream = true ∧
      (c.IsPeerUnidirectional streamId ∨ c.isRequestStream streamId = true) ∧
      (c.streamState streamId).isPeerFinished = false
  | .streamCancelledByPeer id _ _ | .abandonInboundStream id => id = streamId
  | _ => False

/-- Nothing of a stream waits to be read, or what does has been noted. -/
def Emptied (streamId : Nat) (c : Http3Connection D E V) : Prop :=
  c.bufferedByteCount streamId = 0 ∨ ∃ byteCount, .stranded streamId byteCount ∈ c.outputs

theorem Via.outputs_grow {scope : Scope} (h : Via scope c c') :
    ∃ added, c'.outputs = c.outputs ++ added := by
  refine Reach.invariant (P := fun d : Http3Connection D E V =>
    ∃ added, d.outputs = c.outputs ++ added) h
    ⟨[], (append_nil _).symm⟩ ?_
  rintro d move ⟨added, heq⟩ hallows
  obtain ⟨more, hmore, _⟩ := perform_outputs d hallows
  exact ⟨added ++ more, by rw [hmore, heq, append_assoc]⟩

namespace Emptied

theorem noteStranded (c : Http3Connection D E V) (streamId : Nat) :
    Emptied streamId (c.noteStranded streamId) := by
  refine (Unread.noteStranded_spec c streamId).imp_left fun hempty => ?_
  obtain ⟨_, heq⟩ := c.noteStranded_eq streamId
  rw [heq]
  exact hempty

theorem of_via (h : Emptied streamId c)
    (hvia : ∀ {scope : Scope}, (∀ id, scope.touches id) → Via scope c c') :
    Emptied streamId c' := by
  have hunread : Unread streamId c c' := Via.unread (hvia fun _ => trivial)
  have hroles : Via sameRoles c c' := hvia fun _ => trivial
  obtain ⟨_, hbuffers, _⟩ := hroles.kept.roles id
  obtain ⟨added, hgrow⟩ := hroles.outputs_grow
  refine h.imp (fun hempty => ?_) fun ⟨byteCount, hmem⟩ => ?_
  · have hzero := Nat.add_eq_zero_iff.mp hempty
    rw [bufferedByteCount, hbuffers, hzero.2, readerByteCount, add_zero]
    rcases hunread.record with hkeeps | hkeeps
    · rw [hkeeps.reader]
      exact hzero.1
    · rw [hkeeps.reader]
      rfl
  · exact ⟨byteCount, hgrow ▸ mem_append_left _ hmem⟩

theorem credit (h : Emptied streamId c) (id byteCount : Nat) :
    Emptied streamId (c.credit id byteCount) := by
  have hvia : Via .any c (c.credit id byteCount) := (Via.refl c).credit trivial byteCount
  obtain ⟨added, hgrow⟩ := hvia.outputs_grow
  obtain ⟨outputs, heq⟩ := c.credit_eq id byteCount
  rw [heq] at hgrow ⊢
  exact h.imp_right fun ⟨byteCount, hmem⟩ =>
    ⟨byteCount, hgrow ▸ mem_append_left _ hmem⟩

theorem noteStreamCancelledByPeer
    (husable : c.isUsable) (applicationErrorCode : Nat) (isResetByPeer : Bool) :
    Emptied streamId (c.noteStreamCancelledByPeer codec streamId
      applicationErrorCode isResetByPeer) := by
  unfold Http3Connection.noteStreamCancelledByPeer
  rw [husable, Bool.not_true, if_neg Bool.false_ne_true]
  refine (noteStranded (c.discardOutbound streamId) streamId).of_via ?_
  generalize (c.discardOutbound streamId).noteStranded streamId = c₁
  intro scope htouches
  have hqueued : Via scope c₁ ({ c₁ with
      qpackDecoder := (codec.noteStreamAbandoned c₁.qpackDecoder streamId).2
      qpackEncoder := (codec.noteStreamAbandonedByEncoder c₁.qpackEncoder
        streamId).2 }.queueDecoderInstructions
          (codec.noteStreamAbandonedByEncoder c₁.qpackEncoder streamId).1) :=
    ((Via.refl c₁).encoder (codec.noteStreamAbandonedByEncoder c₁.qpackEncoder streamId).2).decoder
      (codec.noteStreamAbandoned c₁.qpackDecoder streamId).2
      (codec.noteStreamAbandonedByEncoder c₁.qpackEncoder streamId).1
  dsimp only
  split
  · exact hqueued
  · refine .eraseStream (.emit hqueued ?_) (htouches streamId)
    exact htouches streamId

theorem rejectStreamAfterDrain (c : Http3Connection D E V) (data : Bytes) :
    Emptied streamId (c.rejectStreamAfterDrain codec streamId data) := by
  have hcredited : Emptied streamId
      ((((c.ensureStream streamId).modifyStream streamId fun state =>
        { state with isAbandoned := true }).noteStranded streamId).credit streamId data.length) :=
    (noteStranded _ streamId).credit streamId data.length
  exact hcredited.of_via fun htouches => Via.pruneAbandonedStream
    (Via.failStream (.refl _) (htouches streamId) _ _) (htouches streamId)

end Emptied

theorem Emptied.of_reader (hreader : (c.streamState streamId).reader = none)
    (hwaiting : c.peerStreamTypeBuffers.find? streamId = none) : Emptied streamId c := by
  refine .inl ?_
  rw [bufferedByteCount, readerByteCount, hreader, hwaiting]
  rfl

theorem Emptied.of_abandoned (h : c.NotesAbandoned streamId)
    (hrequest : isUnidirectionalStream streamId = false)
    (hwaiting : c.peerStreamTypeBuffers.find? streamId = none)
    (habandoned : (c.streamState streamId).isAbandoned) : Emptied streamId c := by
  refine (h hrequest habandoned).imp_left fun hempty => ?_
  rw [bufferedByteCount, hempty, hwaiting]
  rfl

/-- The FIN of a request stream is looked at unless the stream is given
up. -/
theorem Books.endDelivery_emptied (h : Books streamId count c)
    (hrequest : isUnidirectionalStream streamId = false)
    (hwaiting : c.peerStreamTypeBuffers.find? streamId = none)
    (hfirst : (c.streamState streamId).isPeerFinished = false) :
    (c.endDelivery codec streamId true).isBroken = true ∨
      Emptied streamId (c.endDelivery codec streamId true) := by
  by_cases hbroken : c.isBroken
  · have hvia : Via .any c (c.endDelivery codec streamId true) :=
      (Via.refl c).endDelivery trivial true
    exact .inl (hvia.kept.isBroken hbroken)
  refine .inr ?_
  by_cases habandoned : (c.streamState streamId).isAbandoned
  · exact (Emptied.of_abandoned h.abandoned hrequest hwaiting habandoned).of_via fun htouches =>
        (Via.refl c).endDelivery (htouches streamId) true
  refine (Emptied.noteStranded (c.modifyStream streamId fun state =>
    { state with isPeerFinished := true }) streamId).of_via ?_
  intro scope htouches
  unfold Http3Connection.endDelivery
  simp only [hfirst, habandoned, hbroken, Bool.not_false, Bool.and_self, if_true]
  refine .pruneAbandonedStream ?_ (htouches streamId)
  split
  · exact .refl _
  · exact (Via.refl _).finishRequestStreamIfEnded (htouches streamId)

theorem Books.consumeRequestStream_emptied (h : Books streamId count c)
    (hrequest : isUnidirectionalStream streamId = false)
    (hwaiting : c.peerStreamTypeBuffers.find? streamId = none)
    (hfirst : (c.streamState streamId).isPeerFinished = false)
    (hcrediter : c.configuration.hasStreamCrediter) (data : Bytes) :
    (c.consumeRequestStream codec streamId data true).isBroken = true ∨
      Emptied streamId (c.consumeRequestStream codec streamId data true) := by
  have hprocessed : ∀ d : Http3Connection D E V, Books streamId count d →
      (∃ state, d.streams.find? streamId = some state) →
      d.streamState streamId = c.streamState streamId →
      d.peerStreamTypeBuffers = c.peerStreamTypeBuffers →
      d.configuration.hasStreamCrediter →
      (d.processRequestStream codec streamId data true).isBroken = true ∨
        Emptied streamId (d.processRequestStream codec streamId data true) := by
    intro d hbooks ⟨state, hfind⟩ hstate hbuffers hcrediter
    rw [← hbuffers] at hwaiting
    rw [← hstate, streamState_eq hfind] at hfirst
    cases hlive : state.isAbandoned with
    | true =>
      have habandoned : (d.streamState streamId).isAbandoned := by
        rw [streamState_eq hfind, hlive]
      unfold Http3Connection.processRequestStream
      rw [if_pos habandoned]
      exact .inr ((Emptied.of_abandoned hbooks.abandoned hrequest hwaiting habandoned).credit _ _)
    | false =>
      have hvia : Via sameRoles d (d.processRequestStream codec streamId data true) :=
        (Via.refl d).processRequestStream (sameRoles_opens streamId) data true
      rcases hbooks.readRequestStream codec hfind hlive hcrediter data true
        with hbroken | ⟨read, hread, hend, heq⟩
      · exact .inl hbroken
      rw [heq] at hvia ⊢
      have hended : Via sameRoles read (read.endDelivery codec streamId true) :=
        (Via.refl read).endDelivery trivial true
      -- the end changes no type buffer either
      have hsame : read.peerStreamTypeBuffers =
          d.peerStreamTypeBuffers :=
        (hended.kept.roles id).2.1.symm.trans (hvia.kept.roles id).2.1
      exact hread.endDelivery_emptied codec hrequest (hsame ▸ hwaiting) (hend.trans hfirst)
  unfold Http3Connection.consumeRequestStream
  dsimp only
  split
  · next hnew =>
    split
    · simp only [Bool.and_eq_true, Option.isNone_iff_eq_none] at hnew
      refine .inr (Emptied.credit (.of_reader ?_ hwaiting) _ _)
      rw [streamState, hnew.1.1]
      rfl
    · exact .inr (.rejectStreamAfterDrain codec _ data)
  have hensured : Books streamId count (c.ensureStream streamId) :=
    h.of_unread (.ensureStream streamId)
  have hstate : (c.ensureStream streamId).streamState streamId =
      c.streamState streamId := ensureStream_state c streamId
  obtain ⟨_, hfields⟩ := c.ensureStream_eq streamId
  have hbuffers : (c.ensureStream streamId).peerStreamTypeBuffers =
      c.peerStreamTypeBuffers := by rw [hfields]
  have hcrediter' : (c.ensureStream streamId).configuration.hasStreamCrediter := by
    rw [hfields]
    exact hcrediter
  split
  · have hmarked : Books streamId count
        { c.ensureStream streamId with
          lastProcessedRequestStreamId := some streamId } :=
      hensured.of_unread (.of_state rfl (.of_eq rfl))
    exact hprocessed _ hmarked ⟨_, ensureStream_find_self⟩ hstate hbuffers hcrediter'
  · exact hprocessed _ hensured ⟨_, ensureStream_find_self⟩ hstate hbuffers hcrediter'

/-- A stream of a known kind that is not the control stream holds
nothing. -/
theorem Ledger.emptied (h : Ledger streamId delivered c)
    (hroles : RolesAgree c) (huni : c.IsPeerUnidirectional streamId)
    {kind : PeerStreamKind} (hkind : c.peerStreamKinds.find? streamId = some kind)
    (hother : kind ≠ .control) : Emptied streamId c := by
  refine .of_reader (h.unread huni ?_) ?_
  · rw [hkind]
    exact fun heq => hother (Option.some.inj heq)
  · by_contra hwaits
    exact nomatch hkind.symm.trans (hroles.waiting streamId hwaits).2

theorem consumeControlStreamBytes_ended
    (c : Http3Connection D E V) (streamId : Nat) (data : Bytes) :
    (c.consumeControlStreamBytes codec streamId data true).isBroken = true := by
  rw [consumeControlStreamBytes_end]
  exact breakConnection_isBroken _ _

theorem Ledger.typePrefix_emptied (h : Ledger streamId delivered c)
    (huni : c.IsPeerUnidirectional streamId)
    (hnew : c.peerStreamKinds.find? streamId = none) {data : Bytes}
    (hafter : Ledger streamId count
      (c.consumePeerUnidirectionalTypePrefix codec streamId data true))
    (hroles : RolesAgree (c.consumePeerUnidirectionalTypePrefix codec streamId data true)) :
    (c.consumePeerUnidirectionalTypePrefix codec streamId data true).isBroken = true ∨
      Emptied streamId (c.consumePeerUnidirectionalTypePrefix codec streamId data true) := by
  rcases c.typePrefix_cases codec streamId data true with
    hbroken | heq | ⟨decoded, kind, control, encoder, decoder, _, _, hcontinues⟩
  · exact .inl hbroken
  · refine .inr ?_
    rw [heq]
    exact .noteStranded _ streamId
  obtain ⟨_, hfields⟩ := credit_eq { c with
    peerStreamKinds := c.peerStreamKinds.insert streamId kind
    peerStreamTypeBuffers := c.peerStreamTypeBuffers.erase streamId
    peerControlStreamId := control
    peerEncoderStreamId := encoder
    peerDecoderStreamId := decoder } streamId decoded.byteCount
  have hkept := hcontinues.via.kept
  revert hafter hroles hkept hcontinues
  generalize c.consumePeerUnidirectionalTypePrefix codec streamId data true = c'
  rw [Http3Connection.typed, hfields]
  intro hafter hroles hcontinues hkept
  have hkind : c'.peerStreamKinds.find? streamId = some kind := by
    rw [(hkept.roles id).1]
    exact SortedMap.find?_insert_self _ _ _
  have huni' : c'.IsPeerUnidirectional streamId := by
    rw [IsPeerUnidirectional, isLocallyInitiatedStream, hkept.isLocalServer]
    exact huni
  cases hcontinues with
  | nothing _ =>
    refine .inr (.of_reader (h.unread huni ?_) (SortedMap.find?_erase_self _ _))
    rw [hnew]
    nofun
  | control _ => exact .inl (consumeControlStreamBytes_ended codec _ _ _)
  | encoder | decoder | ignored =>
    exact .inr (hafter.emptied hroles huni' hkind nofun)

theorem Ledger.consumeStreamData_emptied
    (h : Ledger streamId delivered c) (hroles : RolesAgree c)
    (hopen : c.isUsable ∧ c.isBroken = false)
    (hcrediter : c.configuration.hasStreamCrediter) {data : Bytes}
    (hpeer : c.IsPeerUnidirectional streamId ∨ c.isRequestStream streamId)
    (hfirst : (c.streamState streamId).isPeerFinished = false)
    (hafter : Ledger streamId count (c.consumeStreamData codec streamId data true))
    (hroles' : RolesAgree (c.consumeStreamData codec streamId data true)) :
    (c.consumeStreamData codec streamId data true).isBroken = true ∨
      Emptied streamId (c.consumeStreamData codec streamId data true) := by
  rcases hpeer with huni | hrequest
  · cases hkind : c.peerStreamKinds.find? streamId with
    | none =>
      have heq := consumeStreamData_untyped codec hopen huni.1 huni.2 hkind data true
      rw [heq] at hafter hroles' ⊢
      exact h.typePrefix_emptied codec huni hkind hafter hroles'
    | some kind =>
      have hvia : Via sameRoles c (c.apply codec (.streamData streamId data true)) := by
        refine apply_sameRoles codec fun id _ _ heq _ _ => ?_
        cases heq
        rw [hkind]
        rintro ⟨⟩
      have hkind' := hkind
      rw [← (hvia.kept.roles id).1] at hkind'
      by_cases hcontrol : kind = .control
      · subst hcontrol
        unfold Http3Connection.consumeStreamData
        simp only [hopen.1, hopen.2, huni.1, huni.2, hkind, Bool.not_true,
          Bool.or_self, Bool.false_eq_true, if_false, if_true]
        exact .inl (consumeControlStreamBytes_ended codec _ _ _)
      · refine .inr (hafter.emptied hroles' ?_ hkind' hcontrol)
        rw [IsPeerUnidirectional, isLocallyInitiatedStream,
          ← Http3Connection.apply, hvia.kept.isLocalServer]
        exact huni
  · have hbidirectional : isUnidirectionalStream streamId = false := by
      simp only [isRequestStream, Bool.and_eq_true, Bool.not_eq_true'] at hrequest
      exact hrequest.1
    have heq : c.consumeStreamData codec streamId data true =
        c.consumeRequestStream codec streamId data true :=
      consumeStreamData_request hopen hrequest data true
    rw [heq]
    obtain ⟨_, hbooks, _⟩ := h.books
    refine hbooks.consumeRequestStream_emptied codec hbidirectional ?_ hfirst hcrediter data
    by_contra hwaits
    cases hbidirectional.symm.trans (hroles.waiting streamId hwaits).1

theorem Ledger.ends (h : Ledger streamId delivered c) (hroles : RolesAgree c)
    (hopen : c.isUsable ∧ c.isBroken = false) (hcrediter : c.configuration.hasStreamCrediter)
    (hends : c.EndsStream streamId event) :
    (c.apply codec event).isBroken = true ∨ Emptied streamId (c.apply codec event) := by
  cases event with
  | streamData id data isEndStream =>
    obtain ⟨rfl, rfl, hpeer, hfirst⟩ := hends
    rcases h.apply codec hroles hopen hcrediter (.streamData id data true) with hbroken | hafter
    · exact .inl hbroken
    rcases hroles.apply codec hopen (.streamData id data true) with
      hbroken | hroles'
    · exact .inl hbroken
    · exact h.consumeStreamData_emptied codec hroles hopen hcrediter hpeer hfirst hafter hroles'
  | streamCancelledByPeer id applicationErrorCode isResetByPeer =>
    cases hends
    exact .inr (.noteStreamCancelledByPeer codec hopen.1 _ _)
  | abandonInboundStream id =>
    cases hends
    exact .inr (.noteStranded _ _)
  | _ => exact hends.elim

/-! ## Runs -/

/-- The connection after these events. -/
def run (codec : Http3Codec D E V) (configuration : Http3Configuration)
    (accepted : List Nat) (events : List Http3Event) :
    Http3Connection D E V :=
  events.foldl (apply codec) (start codec configuration accepted)

/-- The bytes that arrived on a stream. -/
def deliveredByteCount (streamId : Nat) (events : List Http3Event) : Nat :=
  (events.map (arrivedByteCount streamId)).sum

section Runs

variable {configuration : Http3Configuration} {accepted : List Nat}

variable {codec}

variable (codec)

variable {codec}

end Runs

end Http3Connection

end AsynGyanis.Http3
