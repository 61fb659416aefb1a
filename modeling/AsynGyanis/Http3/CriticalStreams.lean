import AsynGyanis.Http3.Effects

/-!
# The end of a critical stream

The peer's control stream and its two QPACK streams live as long as the
connection: if one of them ends, by a FIN or a reset, the connection is to
break with H3_CLOSED_CRITICAL_STREAM.

Only one of the ways such a stream can end is looked at, the FIN that is
read with the bytes of the control stream. A FIN that comes with the type
of the stream and nothing behind it is dropped with the empty rest, the
QPACK streams do not look at theirs, and a reset is taken for that of a
request.
-/

namespace AsynGyanis.Http3

open Quic Library

variable {D E V : Type}

def PeerStreamKind.isCritical : PeerStreamKind → Bool
  | .control | .qpackEncoder | .qpackDecoder => true
  | .unknown | .ignored => false

namespace Http3Connection

/-! ## What ends -/

variable (c : Http3Connection D E V) (streamId : Nat)

def IsPeerUnidirectional : Prop := isUnidirectionalStream streamId = true ∧
    c.isLocallyInitiatedStream streamId = false

/-- The bytes of a stream whose type is not complete, with new ones. -/
def typeBytes (data : Bytes) :
    Bytes :=
  (c.peerStreamTypeBuffers.find? streamId).getD [] ++ data

/-- The kind of a stream with these bytes in. A type that another stream
has already is not had twice. -/
def kindAfter (data : Bytes) : Option PeerStreamKind :=
  match c.peerStreamKinds.find? streamId with
  | some kind => some kind
  | none =>
    match decodeQuicVariableLengthInteger (c.typeBytes streamId data) with
    | .error _ => none
    | .ok decoded =>
      match Http3StreamType.ofValue? decoded.value with
      | some .push => none
      | some .control =>
        if c.peerControlStreamId.isSome then none else some .control
      | some .qpackEncoder =>
        if c.peerEncoderStreamId.isSome then none else some .qpackEncoder
      | some .qpackDecoder =>
        if c.peerDecoderStreamId.isSome then none else some .qpackDecoder
      | none => some .ignored

/-- With a delivery the peer ends one of its critical streams. -/
def EndsCritical : Http3Event → Prop
  | .streamData streamId data isEndStream =>
    isEndStream = true ∧ c.IsPeerUnidirectional streamId ∧
      (c.kindAfter streamId data).any (·.isCritical) = true
  | .streamCancelledByPeer streamId _ isResetByPeer =>
    isResetByPeer = true ∧ (c.peerStreamKinds.find? streamId).any (·.isCritical) = true
  | _ => False

/-- A delivery that is read as bytes of the control stream: it is known, or
something is left behind its type. -/
def IsReadAsControl (data : Bytes) : Prop := c.IsPeerUnidirectional streamId ∧
    c.kindAfter streamId data = some .control ∧
      (c.peerStreamKinds.find? streamId = none → ∀ decoded, decodeQuicVariableLengthInteger
            (c.typeBytes streamId data) = .ok decoded →
          (c.typeBytes streamId data).drop decoded.byteCount ≠ [])

/-- The ends the connection looks at: a FIN with bytes of the control stream
that would not break the connection without it. -/
def EndIsRead (codec : Http3Codec D E V) (c : Http3Connection D E V) : Http3Event → Prop
  | .streamData streamId data isEndStream =>
    isEndStream = true ∧ c.IsReadAsControl streamId data ∧
      (c.apply codec (.streamData streamId data false)).isBroken = false
  | _ => False

def IsClosedCritical : Prop := c.isBroken = true ∧ c.connectionErrorCode = .closedCriticalStream

variable {codec : Http3Codec D E V} {c : Http3Connection D E V}

/-! ## The bytes of the control stream -/

/-- Whatever a scope allows but the end of a critical stream. -/
def noCritical : Scope := { Scope.any with endsCritical := False }

theorem noCritical_covers (c : Http3Connection D E V) : noCritical.Covers c := fun _ => .inl trivial

theorem noCritical_opens : noCritical.Opens streamId := ⟨trivial, trivial, trivial, trivial⟩

theorem consumeControlFrames_stopped (codec : Http3Codec D E V)
    (streamId rounds : Nat) (c : Http3Connection D E V) :
    (consumeControlFrames codec streamId rounds c).2 = false →
      (consumeControlFrames codec streamId rounds c).1.isBroken := by
  induction rounds generalizing c with
  | zero => rintro ⟨⟩
  | succ rounds ih =>
    unfold consumeControlFrames
    split
    · rintro ⟨⟩
    split
    · rintro ⟨⟩
    split
    · exact fun _ => breakConnection_isBroken _ _
    · rintro ⟨⟩
    · exact ih _

theorem consumeControlStreamBytes_end (data : Bytes) :
    c.consumeControlStreamBytes codec streamId data true =
      (c.consumeControlStreamBytes codec streamId data false).breakConnection
        .closedCriticalStream "对端控制流已关闭" := by
  unfold consumeControlStreamBytes
  rcases (c.ensureStream streamId).feedReader streamId data with
    ⟨_ | error, d⟩
  · dsimp only
    have hstopped := consumeControlFrames_stopped codec streamId (d.readerByteCount streamId) d
    revert hstopped
    rcases consumeControlFrames codec streamId (d.readerByteCount streamId) d with ⟨d', _ | _⟩
    · exact fun hstopped =>
        (breakConnection_of_broken (hstopped rfl) _ _).symm
    · exact fun _ => rfl
  · exact (breakConnection_twice _ _ _ _).symm

theorem consumePeerUnidirectionalTypePrefix_end {streamId : Nat}
    {data : Bytes} (hnew : c.peerStreamKinds.find? streamId = none)
    (hread : c.IsReadAsControl streamId data) :
    c.consumePeerUnidirectionalTypePrefix codec streamId data true =
      (c.consumePeerUnidirectionalTypePrefix codec streamId data
        false).breakConnection .closedCriticalStream "对端控制流已关闭" := by
  obtain ⟨_, hkind, hrest⟩ := hread
  have hrest := hrest hnew
  unfold kindAfter at hkind
  rw [hnew] at hkind
  unfold consumePeerUnidirectionalTypePrefix
  unfold typeBytes at hkind hrest
  dsimp only at hkind ⊢
  cases hdecoded : decodeQuicVariableLengthInteger
      ((c.peerStreamTypeBuffers.find? streamId).getD [] ++ data) with
  | error error =>
    rw [hdecoded] at hkind
    cases hkind
  | ok decoded =>
    rw [hdecoded] at hkind
    have hrest := hrest decoded hdecoded
    cases htype : Http3StreamType.ofValue? decoded.value with
    | none =>
      simp only [htype] at hkind
      cases hkind
    | some streamType =>
      cases streamType with
      | push =>
        simp only [htype] at hkind
        cases hkind
      | qpackEncoder | qpackDecoder =>
        simp only [htype] at hkind
        split at hkind
        · cases hkind
        · cases hkind
      | control =>
        simp only [htype] at hkind ⊢
        split at hkind
        · cases hkind
        rename_i hfirst
        have hsome := (List.isEmpty_iff.not.mpr hrest)
        rw [if_neg hfirst, if_neg hsome, if_neg hfirst, if_neg hsome]
        exact consumeControlStreamBytes_end _ _

theorem Via.consumePeerUnidirectionalTypePrefix_end {streamId : Nat}
    {data : Bytes} (huni : c.IsPeerUnidirectional streamId)
    (hnew : c.peerStreamKinds.find? streamId = none)
    (hread : ¬ c.IsReadAsControl streamId data) :
    Via noCritical c (c.consumePeerUnidirectionalTypePrefix codec streamId data true) := by
  have hsame : Via noCritical c (c.consumePeerUnidirectionalTypePrefix codec streamId data false) :=
    (Via.refl c).consumePeerUnidirectionalTypePrefix (noCritical_covers c)
      (noCritical_opens streamId) trivial data nofun
  revert hsame
  unfold Http3Connection.consumePeerUnidirectionalTypePrefix
  dsimp only
  cases hdecoded : decodeQuicVariableLengthInteger
      ((c.peerStreamTypeBuffers.find? streamId).getD [] ++ data) with
  | error error =>
    dsimp only
    cases error.kind with
    | truncated =>
      intro hsame
      exact Via.noteStranded hsame streamId
    | malformed => exact id
  | ok decoded =>
    dsimp only
    cases htype : Http3StreamType.ofValue? decoded.value with
    | none => exact id
    | some streamType =>
      cases streamType with
      | push => exact id
      | qpackEncoder => exact id
      | qpackDecoder => exact id
      | control =>
        dsimp only
        split
        · exact id
        rename_i hfirst
        split
        · exact id
        rename_i hrest
        refine absurd ⟨huni, ?_, fun _ decoded' hdecoded' => ?_⟩ hread
        · unfold kindAfter
          rw [hnew]
          simp only [typeBytes, hdecoded, htype, if_neg hfirst]
        · obtain rfl := Except.ok.inj (hdecoded.symm.trans hdecoded')
          rwa [List.isEmpty_iff] at hrest

/-! ## A delivery with a FIN -/

variable {streamId : Nat} {data : Bytes}

theorem consumeStreamData_end (hopen : c.isUsable ∧ c.isBroken = false)
    (hread : c.IsReadAsControl streamId data) :
    c.consumeStreamData codec streamId data true =
      (c.consumeStreamData codec streamId data false).breakConnection
        .closedCriticalStream "对端控制流已关闭" := by
  obtain ⟨⟨hunidirectional, hpeer⟩, hkind, _⟩ := id hread
  unfold consumeStreamData
  simp only [hopen.1, hopen.2, hunidirectional, hpeer, Bool.not_true,
    Bool.or_self, Bool.false_eq_true, if_false, if_true]
  cases hfound : c.peerStreamKinds.find? streamId with
  | none => exact consumePeerUnidirectionalTypePrefix_end hfound hread
  | some kind =>
    unfold kindAfter at hkind
    rw [hfound] at hkind
    obtain rfl := Option.some.inj hkind
    exact consumeControlStreamBytes_end _ _

theorem Via.consumeStreamData_end (hread : ¬ c.IsReadAsControl streamId data) :
    Via noCritical c (c.consumeStreamData codec streamId data true) := by
  have hrefl : Via noCritical c c := .refl c
  unfold Http3Connection.consumeStreamData
  split
  · exact hrefl
  split
  · next hunidirectional =>
    split
    · exact hrefl.credit trivial _
    rename_i hpeer
    have huni : c.IsPeerUnidirectional streamId := ⟨hunidirectional, Bool.eq_false_iff.mpr hpeer⟩
    split
    · next hnew =>
      exact Via.consumePeerUnidirectionalTypePrefix_end huni hnew hread
    · next hfound =>
      refine absurd ⟨huni, ?_, fun hnew => ?_⟩ hread
      · unfold kindAfter
        rw [hfound]
      · exact nomatch hfound.symm.trans hnew
    · exact hrefl.consumeQpackEncoderStreamBytes (noCritical_covers c) (fun _ _ => trivial) data
    · have hfed := hrefl.feedDecoderStream codec data
      split
      · next c₁ heq =>
        rw [heq] at hfed
        exact hfed
      rename_i c₁ heq
      rw [heq] at hfed
      exact hfed.credit trivial _
    · exact hrefl.credit trivial _
    · exact hrefl.credit trivial _
  · split
    · exact hrefl.consumeRequestStream (noCritical_opens streamId) (fun _ _ => trivial) data true
    · exact hrefl.credit trivial _

/-! ## When the connection breaks for a critical stream -/

theorem admits_noCritical {event : Http3Event}
    (h : ∀ streamId data, event ≠ .streamData streamId data true) :
    c.Admits noCritical event where
  covers := noCritical_covers c
  opens := fun id _ => noCritical_opens id
  streamData := by
    rintro streamId data isEndStream rfl
    refine ⟨fun _ _ _ => trivial, fun _ _ _ => trivial, fun _ _ _ => trivial, fun hend => ?_⟩
    exact h streamId data (by rw [hend])
  flush := fun _ _ => trivial
  drain := fun _ => trivial

theorem Via.not_closed {c' : Http3Connection D E V} (h : Via noCritical c c')
    (hcode : c.connectionErrorCode = .noError) : ¬ c'.IsClosedCritical :=
  fun hclosed => h.kept.notCritical (fun hno => hno) (by rw [hcode]; decide) hclosed.2

theorem breakConnection_closed (hopen : c.isBroken = false) (reason : String) :
    (c.breakConnection .closedCriticalStream reason).IsClosedCritical := by
  refine ⟨breakConnection_isBroken _ _, ?_⟩
  unfold breakConnection
  rw [if_neg (by rw [hopen]; decide)]

/-- The connection is closed for a critical stream by the ends it looks at
and by nothing else. -/
theorem closedCritical_iff (hintact : c.Intact) (hopen : c.isBroken = false) (event : Http3Event) :
    (c.apply codec event).IsClosedCritical ↔ c.EndIsRead codec event := by
  have hcode := hintact.errorCode hopen
  by_cases hend : ∃ streamId data, event = .streamData streamId data true
  · obtain ⟨streamId, data, rfl⟩ := hend
    by_cases hread : c.IsReadAsControl streamId data
    · have heq : c.apply codec (.streamData streamId data true) =
          (c.apply codec (.streamData streamId data false)).breakConnection
            .closedCriticalStream "对端控制流已关闭" :=
        consumeStreamData_end ⟨hintact.isUsable, hopen⟩ hread
      have hwithout : Via noCritical c (c.apply codec (.streamData streamId data false)) :=
        apply_via codec (admits_noCritical fun _ _ hno => nomatch hno)
      rw [heq]
      cases hbroken : (c.apply codec (.streamData streamId data false)).isBroken with
      | false =>
        exact iff_of_true (breakConnection_closed hbroken _) ⟨rfl, hread, hbroken⟩
      | true =>
        rw [breakConnection_of_broken hbroken]
        refine iff_of_false (hwithout.not_closed hcode) fun hseen => ?_
        exact nomatch hbroken.symm.trans hseen.2.2
    · exact iff_of_false ((Via.consumeStreamData_end hread).not_closed hcode)
        fun hseen => hread hseen.2.1
  · have hvia : Via noCritical c (c.apply codec event) :=
      apply_via codec (admits_noCritical fun streamId data heq =>
        hend ⟨streamId, data, heq⟩)
    refine iff_of_false (hvia.not_closed hcode) fun hseen => ?_
    cases event with
    | streamData id bytes isEndStream =>
      obtain ⟨rfl, _⟩ := hseen
      exact hend ⟨id, bytes, rfl⟩
    | _ => exact hseen

theorem EndIsRead.endsCritical {event : Http3Event}
    (h : c.EndIsRead codec event) : c.EndsCritical event := by
  cases event with
  | streamData streamId data isEndStream =>
    obtain ⟨hend, ⟨huni, hkind, _⟩, _⟩ := h
    refine ⟨hend, huni, ?_⟩
    rw [hkind]
    rfl
  | _ => exact h.elim

/-- In every run a delivery closes the connection with
H3_CLOSED_CRITICAL_STREAM exactly if it ends a critical stream, provided the
ends among such deliveries are those that are read. -/
theorem Reachable.closedCritical_iff_ends {configuration : Http3Configuration}
    {accepted : List Nat} (h : Reachable codec configuration accepted c)
    (hopen : c.isBroken = false) (event : Http3Event) :
    ((c.apply codec event).IsClosedCritical ↔ c.EndsCritical event) ↔
      (c.EndsCritical event → c.EndIsRead codec event) := by
  rw [closedCritical_iff h.intact hopen event]
  constructor
  · exact fun hiff hends => hiff.mpr hends
  · exact fun hread => ⟨fun hseen => hseen.endsCritical, hread⟩

/-- Three ends that go unnoticed: the type of the control stream with a FIN,
a FIN on the encoder stream and a reset of the control stream. -/
theorem ends_unnoticed :
    let fresh := start plainCodec plainServer []
    let encoder := fresh.apply plainCodec (.streamData 2 [0x02] false)
    let control := fresh.apply plainCodec (.streamData 2 [0x00] false)
    (fresh.EndsCritical (.streamData 2 [0x00] true) ∧
      ¬ (fresh.apply plainCodec (.streamData 2 [0x00] true)).IsClosedCritical) ∧
    (encoder.EndsCritical (.streamData 2 [] true) ∧
      ¬ (encoder.apply plainCodec (.streamData 2 [] true)).IsClosedCritical) ∧
    (control.EndsCritical (.streamCancelledByPeer 2 0 true) ∧
      ¬ (control.apply plainCodec (.streamCancelledByPeer 2 0 true)).IsClosedCritical) := by
  unfold EndsCritical IsClosedCritical IsPeerUnidirectional
  decide +kernel

/-- A FIN on the known control stream closes the connection. -/
theorem closedCritical_control :
    let control := (start plainCodec plainServer []).apply plainCodec
      (.streamData 2 [0x00, 0x04, 0x00] false)
    (control.apply plainCodec (.streamData 2 [] true)).IsClosedCritical ↔
      control.EndsCritical (.streamData 2 [] true) := by
  have hreach : Reachable plainCodec plainServer []
      ((start plainCodec plainServer []).apply plainCodec
        (.streamData 2 [0x00, 0x04, 0x00] false)) :=
    .next .start trivial
  refine (Reachable.closedCritical_iff_ends hreach (by decide +kernel) _).mpr
    fun _ => ⟨rfl, ⟨?_, ?_, fun hnew => ?_⟩, ?_⟩
  · unfold IsPeerUnidirectional
    decide +kernel
  · decide +kernel
  · exact absurd hnew (by decide +kernel)
  · decide +kernel

end Http3Connection

end AsynGyanis.Http3
