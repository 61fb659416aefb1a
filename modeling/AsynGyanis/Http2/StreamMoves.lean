import AsynGyanis.Http2.Walk

/-!
# How the operations move the ledger

The ledger after an operation is reached from the ledger before by the
moves its kind allows. Most operations are quiet, since the small steps
they are made of are. The frames that grant something are WINDOW_UPDATE
and SETTINGS, those that let DATA out are the same two and the call
`sendResponseData`. `apply_moves` puts them together: every event of a run
is a `StepMoves`.

What an event adds to the past (an increment received, a body piece
accepted) is told by the event itself, `Past.after`.
-/

namespace AsynGyanis.Http2

open Library Relation StreamLedger StreamRecord List

namespace Http2Connection

variable {D E H : Type}

/-! ## Quiet operations -/

variable (codec : Http2Codec D E H) (c : Http2Connection D E H) (streamId : Nat)

def QuietMoves (c c' : Http2Connection D E H) : Prop :=
  ∀ past, Quietly (c.ledger past) (c'.ledger past)

theorem QuietMoves.refl : QuietMoves c c := fun _ => .refl

theorem QuietMoves.trans {c c' c'' : Http2Connection D E H}
    (h : QuietMoves c c') (h' : QuietMoves c' c'') : QuietMoves c c'' :=
  fun past => (h past).trans (h' past)

theorem QuietMoves.of_same {c c' : Http2Connection D E H}
    (h : ∀ past, c'.ledger past = c.ledger past) : QuietMoves c c' := by
  intro past
  rw [Quietly, h past]

theorem QuietMoves.of_move {c c' : Http2Connection D E H}
    (h : ∀ past, QuietMove (c.ledger past) (c'.ledger past)) : QuietMoves c c' :=
  fun past => .single (h past)

@[simp] theorem appendOutgoing_ledger (frames : List OutgoingFrame) (past : Past) :
    (c.appendOutgoing frames).ledger past = (c.ledger past).emit frames := by
  simp [ledger, appendOutgoing, emit]

@[simp] theorem rememberTerminatedStream_ledger (past : Past) :
    (c.rememberTerminatedStream streamId).ledger past = (c.ledger past).remember streamId := by
  simp only [ledger, rememberTerminatedStream, remember]

theorem appendOutgoing_quiet {frames : List OutgoingFrame} (h : ∀ f ∈ frames, f.isPlain) :
    QuietMoves c (c.appendOutgoing frames) := by
  refine .of_move fun past => ?_
  rw [appendOutgoing_ledger]
  exact .emit _ frames h

theorem appendFrame_quiet {f : OutgoingFrame} (h : f.isPlain) :
    QuietMoves c (c.appendOutgoing [f]) :=
  appendOutgoing_quiet c fun _ hf => List.mem_singleton.mp hf ▸ h

theorem setStream_quiet {c : Http2Connection D E H} {streamId : Nat}
    {old new : StreamRecord} (hold : c.streams.find? streamId = some old)
    (h : old.Touches new) : QuietMoves c (c.setStream streamId new) :=
  .of_move fun _ => .touch _ streamId old new hold h

theorem fail_ledger {c : Http2Connection D E H} (halive : c.state ≠ .failed)
    (errorCode : Http2ErrorCode) (reason : String) (past : Past) :
    (c.fail errorCode reason).ledger past =
      ({ c.ledger past with isAssemblingHeaderBlock := false }.announce
        .failed errorCode (textBytes reason)) := by
  unfold fail
  rw [if_neg halive]
  cases hfixed : c.goAwayLastStreamId with
  | none =>
    simp only [fixGoAwayLastStreamId, clearHeaderBlockAssembly, hfixed,
      clampedLastStreamId, appendOutgoing, ledger, announce,
      Option.getD, append_assoc]
  | some fixed =>
    simp only [fixGoAwayLastStreamId, clearHeaderBlockAssembly, hfixed,
      clampedLastStreamId, appendOutgoing, ledger, announce,
      Option.getD, append_assoc]

theorem fail_quiet (errorCode : Http2ErrorCode) (reason : String) :
    QuietMoves c (c.fail errorCode reason) := by
  by_cases hfailed : c.state = .failed
  · unfold fail
    rw [if_pos hfailed]
    exact .refl c
  refine .of_move fun past => ?_
  rw [fail_ledger hfailed]
  exact .fail _ errorCode _ hfailed

theorem terminateStream_quiet (termination : StreamTermination) :
    QuietMoves c (c.terminateStream streamId termination) := by
  unfold terminateStream
  split
  · exact .refl c
  rename_i stream hstream
  split
  · exact .refl c
  rename_i hopen
  refine .of_move fun past => ?_
  rw [rememberTerminatedStream_ledger]
  exact .terminate _ streamId stream termination hstream hopen

theorem noteLocalEndStream_quiet : QuietMoves c (c.noteLocalEndStream streamId) := by
  unfold noteLocalEndStream
  split
  · exact .refl c
  rename_i stream hstream
  split
  · next hopen =>
    exact setStream_quiet hstream ⟨rfl, rfl, rfl, .inr ⟨hopen, .inr rfl⟩⟩
  · exact terminateStream_quiet c streamId .completed
  · exact .refl c

theorem handOver_quiet {c : Http2Connection D E H} (hassembling : c.isAssemblingHeaderBlock)
    (hpurpose : c.pendingHeaderPurpose = .request) (request : Http2Request H)
    (hid : request.streamId = c.pendingHeaderStreamId) :
    QuietMoves c { c.decodePendingHeaderBlock codec with
      pendingRequests := (c.decodePendingHeaderBlock codec).pendingRequests ++ [request] } := by
  refine .of_move fun past => ?_
  have hmove := QuietMove.request (c.ledger past) hassembling hpurpose
  have hledger : ({ c.decodePendingHeaderBlock codec with
      pendingRequests := (c.decodePendingHeaderBlock codec).pendingRequests ++ [request] } :
          Http2Connection D E H).ledger past =
      { c.ledger past with
        isAssemblingHeaderBlock := false
        requests := (c.ledger past).requests ++ [c.pendingHeaderStreamId] } := by
    simp [ledger, decodePendingHeaderBlock, clearHeaderBlockAssembly, hid]
  rw [hledger]
  exact hmove

theorem sendGoAway_quiet (reason : String) : QuietMoves c (c.sendGoAway reason).connection := by
  unfold sendGoAway
  split
  · exact .refl c
  · exact .refl c
  · exact .refl c
  · exact .refl c
  rename_i hopen
  refine .of_move fun past => ?_
  have hmove := QuietMove.announce (c.ledger past) (textBytes reason) hopen
  cases hfixed : c.goAwayLastStreamId with
  | none =>
    simpa only [fixGoAwayLastStreamId, hfixed, clampedLastStreamId,
      appendOutgoing, ledger, announce, Option.getD,
      append_assoc] using hmove
  | some fixed =>
    simpa only [fixGoAwayLastStreamId, hfixed, clampedLastStreamId,
      appendOutgoing, ledger, announce, Option.getD,
      append_assoc] using hmove

theorem continuationFrames_isPlain (streamId maximumFragmentByteCount : Nat)
    (fuel : Nat) (block : Bytes) :
    ∀ f ∈ continuationFrames streamId maximumFragmentByteCount fuel block,
      f.isPlain := by
  induction fuel generalizing block with
  | zero => exact fun f hf => absurd hf not_mem_nil
  | succ fuel ih =>
    intro f hf
    rcases mem_cons.mp hf with rfl | hf
    · rfl
    split at hf
    · exact absurd hf not_mem_nil
    · exact ih _ f hf

theorem headerBlockFrames_isPlain (headerBlock : Bytes) (endStream : Bool)
    (maximumFragmentByteCount : Nat) :
    ∀ f ∈ headerBlockFrames streamId headerBlock endStream maximumFragmentByteCount, f.isPlain := by
  intro f hf
  rcases mem_cons.mp hf with rfl | hf
  · rfl
  split at hf
  · exact absurd hf not_mem_nil
  · exact continuationFrames_isPlain _ _ _ _ f hf

theorem encodeAndEmit_quiet (fields : List HpackHeaderField) (endStream : Bool) :
    QuietMoves c (c.encodeAndEmit codec streamId fields endStream) := by
  refine QuietMoves.trans ?_ (appendOutgoing_quiet
    { c with encoder := (codec.encode c.encoder fields).2 }
    (headerBlockFrames_isPlain streamId (codec.encode c.encoder fields).1
      endStream c.peerMaximumFrameSize))
  exact .of_same fun _ => rfl

theorem QuietMoves.admits : Admits (@QuietMoves D E H) where
  refl := .refl
  trans := .trans
  aside := fun hledger _ _ => .of_same hledger
  emit := fun c _ hplain _ => appendFrame_quiet c hplain
  fail := fail_quiet
  enter := fun henters => .of_move fun past => .enter (ledger _ past) _ henters
  announce := sendGoAway_quiet
  receive := fun hstream hreceives => setStream_quiet hstream
    ⟨hreceives.queue, hreceives.pending, hreceives.window,
      hreceives.state.imp_right (And.imp_right .inl)⟩
  terminate := terminateStream_quiet

theorem QuietMoves.data : AdmitsData (@QuietMoves D E H) where
  toAdmits := QuietMoves.admits
  book := fun _ _ _ _ => .of_same fun _ => rfl

theorem QuietMoves.blocks : AdmitsBlocks codec QuietMoves where
  toAdmits := QuietMoves.admits
  assemble := fun c streamId purpose _ hother =>
    .of_move fun past => .beginBlock (c.ledger past) streamId purpose hother
  fragment := fun _ _ => .of_same fun _ => rfl
  decode := fun c => .of_move fun past => .endBlock (c.ledger past)
  request := handOver_quiet codec
  trailers := fun _ _ _ => .of_same fun _ => rfl

theorem QuietMoves.calls : AdmitsCalls codec QuietMoves where
  toAdmits := QuietMoves.admits
  block := encodeAndEmit_quiet codec
  localEnd := noteLocalEndStream_quiet

/-! ## The peer's grants -/

theorem QuietMoves.grants {c c' : Http2Connection D E H} (h : QuietMoves c c') (past : Past) :
    Grants (c.ledger past) (c'.ledger past) := (h past).grants

theorem shift_sameButWindow (windowDelta : Int) (stream : StreamRecord) :
    stream.SameButWindow (stream.shift windowDelta) := by
  unfold shift
  split <;> rfl

/-- What a change of the initial window makes of the table: either every
listed stream that is not closed was shifted, or the connection failed on
one of them. -/
def Shifted (c : Http2Connection D E H) (windowDelta : Int)
    (streamIds : List Nat) (result : Bool × Http2Connection D E H) : Prop :=
  (∃ streams, result = (true, { c with streams := streams }) ∧ ∀ streamId, streams.find? streamId =
      if streamId ∈ streamIds then
        (c.streams.find? streamId).map (shift windowDelta)
      else c.streams.find? streamId) ∨
  ∃ streams errorCode reason,
    result = (false, { c with streams := streams }.fail errorCode reason) ∧
    ∀ streamId, Option.Rel StreamRecord.SameButWindow
      (c.streams.find? streamId) (streams.find? streamId)

theorem sameButWindow_refl (streams : SortedMap Nat StreamRecord) (streamId : Nat) :
    Option.Rel StreamRecord.SameButWindow (streams.find? streamId) (streams.find? streamId) := by
  cases streams.find? streamId with
  | none => exact .none
  | some stream => exact .some rfl

theorem foldl_shiftSendWindow_of_false (value : Nat) (windowDelta : Int)
    (streamIds : List Nat) (c : Http2Connection D E H) :
    streamIds.foldl (shiftSendWindow value windowDelta) (false, c) = (false, c) := by
  induction streamIds with
  | nil => rfl
  | cons streamId rest ih => exact ih

theorem find?_shifted {streams : SortedMap Nat StreamRecord}
    {streamId : Nat} {stream : StreamRecord} (windowDelta : Int)
    (hstream : streams.find? streamId = some stream)
    (hopen : stream.state ≠ .closed) (other : Nat) :
    (streams.insert streamId { stream with
        sendWindowByteCount := stream.sendWindowByteCount + windowDelta
        }).find? other =
      if other = streamId then
        (streams.find? other).map (shift windowDelta)
      else streams.find? other := by
  rw [SortedMap.find?_insert]
  split
  · next heq =>
    subst heq
    rw [hstream, Option.map_some, shift, if_neg hopen]
  · rfl

theorem map_shift_of_inactive {c : Http2Connection D E H} {streamId : Nat}
    (h : c.findActiveStream streamId = none) (windowDelta : Int) :
    (c.streams.find? streamId).map (shift windowDelta) = c.streams.find? streamId := by
  unfold findActiveStream at h
  split at h
  · next hnone => rw [hnone, Option.map_none]
  rename_i stream hstream
  split at h
  · next hclosed =>
    rw [hstream, Option.map_some, shift, if_pos hclosed]
  · cases h

theorem foldl_shiftSendWindow (value : Nat) (windowDelta : Int)
    (streamIds : List Nat) (hnodup : streamIds.Nodup) (c : Http2Connection D E H) :
    Shifted c windowDelta streamIds
      (streamIds.foldl (shiftSendWindow value windowDelta) (true, c)) := by
  induction streamIds generalizing c with
  | nil =>
    exact .inl ⟨c.streams, rfl, fun streamId => by simp⟩
  | cons first rest ih =>
    obtain ⟨hfirst, hrest⟩ := nodup_cons.mp hnodup
    rw [foldl_cons]
    rcases hactive : c.findActiveStream first with _ | stream
    · -- nothing to shift for the first stream
      have hstep : shiftSendWindow value windowDelta (true, c) first = (true, c) := by
        simp only [shiftSendWindow, hactive, Bool.not_true, Bool.false_eq_true, if_false]
      rw [hstep]
      rcases ih hrest c with ⟨streams, hresult, hfind⟩ | hfailed
      · refine .inl ⟨streams, hresult, fun streamId => ?_⟩
        rw [hfind streamId]
        by_cases heq : streamId = first
        · subst heq
          rw [if_neg hfirst, if_pos mem_cons_self, map_shift_of_inactive hactive]
        · simp only [mem_cons, heq, false_or]
      · exact .inr hfailed
    obtain ⟨hstream, hopen⟩ := find?_of_findActiveStream hactive
    have hshifted := find?_shifted windowDelta hstream hopen
    by_cases hlarge : stream.sendWindowByteCount + windowDelta > kHttp2MaximumWindowSizeByteCount
    · -- the connection fails on the first stream
      simp only [shiftSendWindow, hactive, Bool.not_true,
        Bool.false_eq_true, if_false, if_pos hlarge,
        foldl_shiftSendWindow_of_false]
      refine .inr ⟨_, _, _, rfl, fun streamId => ?_⟩
      rw [hshifted streamId]
      split
      · cases c.streams.find? streamId with
        | none => exact .none
        | some old => exact .some (shift_sameButWindow windowDelta old)
      · exact sameButWindow_refl c.streams streamId
    simp only [shiftSendWindow, hactive, Bool.not_true, Bool.false_eq_true, if_false, if_neg hlarge]
    rcases ih hrest (c.setStream first { stream with
        sendWindowByteCount := stream.sendWindowByteCount + windowDelta }) with
      ⟨streams, hresult, hfind⟩ | ⟨streams, errorCode, reason, hresult, hsame⟩
    · refine .inl ⟨streams, hresult, fun streamId => ?_⟩
      rw [hfind streamId]
      simp only [setStream, hshifted streamId]
      by_cases heq : streamId = first
      · subst heq
        rw [if_neg hfirst, if_pos rfl, if_pos mem_cons_self]
      · simp only [mem_cons, heq, false_or, if_false]
    refine .inr ⟨streams, errorCode, reason, hresult, fun streamId => ?_⟩
    have hrel := hsame streamId
    simp only [setStream, hshifted streamId] at hrel
    split at hrel
    · revert hrel
      cases c.streams.find? streamId with
      | none => exact id
      | some old =>
        cases streams.find? streamId with
        | none => intro hrel; cases hrel
        | some new =>
          intro hrel
          cases hrel with
          | some hwindow =>
            refine .some ?_
            have hfirst := shift_sameButWindow windowDelta old
            unfold StreamRecord.SameButWindow at *
            rw [hwindow, hfirst]
    · exact hrel

theorem failShifted_grants {streams : SortedMap Nat StreamRecord}
    (hsame : ∀ streamId, Option.Rel StreamRecord.SameButWindow
      (c.streams.find? streamId) (streams.find? streamId))
    (errorCode : Http2ErrorCode) (reason : String) (past : Past) :
    Grants (c.ledger past) (({ c with streams := streams }.fail errorCode reason).ledger past) := by
  by_cases hfailed : c.state = .failed
  · have hsame' := GrantMove.spoil (c.ledger past) streams hfailed hsame
    unfold fail
    rw [if_pos hfailed]
    exact .single hsame'
  rw [fail_ledger (c := { c with streams := streams }) hfailed]
  refine ReflTransGen.tail (.single (.quiet
    (.fail (c.ledger past) errorCode (textBytes reason) hfailed))) ?_
  exact .spoil _ streams rfl hsame

theorem applyPeerSetting_grants (setting : Http2Setting) (past : Past) : Grants (c.ledger past)
      ((if (c.applyPeerSetting codec setting).1 then
        { (c.applyPeerSetting codec setting).2 with
          peerSettings := (c.applyPeerSetting codec setting).2.peerSettings.insert
              setting.identifier setting.value }
      else (c.applyPeerSetting codec setting).2 : Http2Connection D E H).ledger past) := by
  have hrecorded : ∀ c' : Http2Connection D E H, c'.ledger past = c.ledger past →
      setting.identifier ≠ Http2SettingIdentifier.initialWindowSize →
      (setting.identifier = Http2SettingIdentifier.maxFrameSize →
        kHttp2DefaultMaximumFrameSize ≤ setting.value) →
      Grants (c.ledger past) ({ c' with
        peerSettings := c'.peerSettings.insert setting.identifier setting.value }.ledger past) := by
    intro c' hsame hother hsize
    have hmove := GrantMove.setting (c'.ledger past) setting.identifier setting.value hother hsize
    rw [← hsame]
    exact .single hmove
  have hfail := fun errorCode reason =>
    (fail_quiet c errorCode reason).grants past
  unfold applyPeerSetting
  split
  · next htable =>
    refine hrecorded _ rfl ?_ fun hsize => ?_
    · rw [htable]
      decide
    · rw [htable] at hsize
      exact absurd hsize (by decide)
  split
  · next hpush =>
    split
    · exact hfail _ _
    refine hrecorded c rfl ?_ fun hsize => ?_
    · rw [hpush]
      decide
    · rw [hpush] at hsize
      exact absurd hsize (by decide)
  split
  · next hinitial =>
    split
    · exact hfail _ _
    rcases foldl_shiftSendWindow setting.value ((setting.value : Int) - c.peerInitialWindowSize)
        c.streams.keys c.streams.keys_nodup c with
      ⟨streams, hresult, hfind⟩ | ⟨streams, errorCode, reason, hresult, hsame⟩
    · rw [hresult, if_pos rfl, hinitial]
      refine .single (.initialWindow (c.ledger past) setting.value streams fun streamId => ?_)
      rw [hfind streamId]
      split
      · rfl
      rename_i hmissing
      have hnone : c.streams.find? streamId = none := by
        cases hfound : c.streams.find? streamId with
        | none => rfl
        | some stream =>
          exact absurd (SortedMap.mem_keys_iff.mpr ⟨_, hfound⟩) hmissing
      rw [show (c.ledger past).streams = c.streams from rfl, hnone]
      rfl
    · rw [hresult, if_neg Bool.false_ne_true]
      exact failShifted_grants c hsame errorCode reason past
  · next hinitial =>
    split
    · next hframe =>
      split
      · exact hfail _ _
      rename_i hrange
      exact hrecorded c rfl hinitial fun _ =>
        Nat.le_of_not_lt fun hsmall => hrange (.inl hsmall)
    rename_i hframe
    split
    · split
      · exact hfail _ _
      · exact hrecorded c rfl hinitial fun h => absurd h hframe
    · exact hrecorded c rfl hinitial fun h => absurd h hframe

theorem applyPeerSettings_grants (settings : List Http2Setting)
    (c : Http2Connection D E H) (past : Past) : Grants (c.ledger past)
      ((applyPeerSettings codec settings c).2.ledger past) := by
  induction settings generalizing c with
  | nil => exact .refl
  | cons setting rest ih =>
    have hone := c.applyPeerSetting_grants codec setting past
    rw [applyPeerSettings]
    split
    · next hfailed =>
      rw [Bool.not_eq_true'] at hfailed
      rw [if_neg (by rw [hfailed]; exact Bool.false_ne_true)] at hone
      exact hone
    · next hrecorded =>
      rw [if_pos (by simpa using hrecorded)] at hone
      exact hone.trans (ih _)

end Http2Connection

end AsynGyanis.Http2
