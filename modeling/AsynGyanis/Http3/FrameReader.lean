import AsynGyanis.Http3.Frame
import AsynGyanis.Library.Framing

/-!
# The frame reader and the cuts of its input

The reader of `Frame` drops what it has read at once. The source does so
late: a read offset moves over the buffer, and the bytes in front of it go
when half of the buffer is behind it or when more bytes arrive, because the
frames handed out point into the buffer. Here the buffer and the offset are
those of the source (`Http3FrameReaderBuffer`), and the reader of `Frame` is
what is left when one looks only at the unread bytes.

What one look at the unread bytes finds (`readFrame`) does not depend on
bytes that are still to come. So the reader is a framing, and every mixture
of feeds and reads gives the frames of one parse of all the bytes.
-/

namespace AsynGyanis.Quic

theorem decodeQuicVariableLengthInteger_more {bytes : Bytes} {decoded : QuicDecodedInteger}
    (h : decodeQuicVariableLengthInteger bytes = .ok decoded) (more : Bytes) :
    decodeQuicVariableLengthInteger (bytes ++ more) = .ok decoded := by
  cases bytes with
  | nil => exact nomatch h
  | cons first rest =>
    rw [List.cons_append]
    unfold decodeQuicVariableLengthInteger at h ⊢
    simp only at h ⊢
    split at h
    · cases h
    rw [if_neg (by rw [List.length_append]; omega), List.take_append_of_le_length (by omega)]
    exact h

theorem decodeQuicVariableLengthInteger_error {bytes : Bytes} {e : QuicDecodeError}
    (h : decodeQuicVariableLengthInteger bytes = .error e) : bytes.length < 8 := by
  cases bytes with
  | nil => exact Nat.zero_lt_succ _
  | cons first rest =>
    unfold decodeQuicVariableLengthInteger at h
    simp only at h
    split at h
    · next hshort =>
      have hall : ∀ byte : Fin 256, 1 <<< (byte.val >>> 6) ≤ 8 := by
        decide +kernel
      have hwidth := hall ⟨first.toNat, first.toNat_lt⟩
      simp only at hwidth
      rw [List.length_cons]
      omega
    · cases h

theorem decodeQuicVariableLengthInteger_byteCount_le {bytes : Bytes} {decoded : QuicDecodedInteger}
    (h : decodeQuicVariableLengthInteger bytes = .ok decoded) : decoded.byteCount ≤ 8 := by
  cases bytes with
  | nil => exact nomatch h
  | cons first rest =>
    unfold decodeQuicVariableLengthInteger at h
    simp only at h
    split at h
    · cases h
    injection h with h
    have hall : ∀ byte : Fin 256, 1 <<< (byte.val >>> 6) ≤ 8 := by
      decide +kernel
    rw [← h]
    exact hall ⟨first.toNat, first.toNat_lt⟩

end AsynGyanis.Quic

namespace AsynGyanis.Http3

open Quic Library Framing Http3FrameReader List PayloadCursor

/-! ## One look at the unread bytes -/

/-- What `nextFrame` does with the unread bytes: the frame in front of them
and the bytes it takes. -/
def readFrame (maximumFrameByteCount : Nat) (buffered : Bytes) :
    Except Http3FrameError (Option (Http3Frame × Nat)) :=
  match decodeQuicVariableLengthInteger buffered with
  | .error _ => .ok none
  | .ok frameType =>
    match decodeQuicVariableLengthInteger (buffered.drop frameType.byteCount) with
    | .error _ => .ok none
    | .ok length =>
      let headerByteCount := frameType.byteCount + length.byteCount
      let declaredFrameByteCount := headerByteCount + length.value
      if declaredFrameByteCount > maximumFrameByteCount then
        .error
          { kind := .limitExceeded
            message := s!"{http3FrameTypeName frameType.value}帧声明载荷 {length.value} 字节，加上 {headerByteCount} 字节帧头超过单帧上限 {maximumFrameByteCount} 字节（RFC 9114 §10.8 要求长度自洽，本端不接受超上限的帧）" }
      else if buffered.length < declaredFrameByteCount then .ok none
      else
        let payload := (buffered.drop headerByteCount).take length.value
        match decodeHttp3FramePayload frameType.value payload with
        | .error error => .error error
        | .ok frame => .ok (some (frame, declaredFrameByteCount))

section ReadFrame

variable {limit : Nat} {buffered : Bytes}

theorem readFrame_more {result : Except Http3FrameError (Option (Http3Frame × Nat))}
    (h : readFrame limit buffered = result) (hresult : result ≠ .ok none)
    (more : Bytes) : readFrame limit (buffered ++ more) = result := by
  unfold readFrame at h ⊢
  split at h
  · exact absurd h.symm hresult
  rename_i frameType htype
  have hin := (decodeQuicVariableLengthInteger_spec htype).2.2
  rw [decodeQuicVariableLengthInteger_more htype more]
  simp only
  rw [drop_append_of_le_length hin]
  split at h
  · exact absurd h.symm hresult
  rename_i length hlength
  rw [decodeQuicVariableLengthInteger_more hlength more]
  simp only at h ⊢
  split at h
  · next hlimit => rw [if_pos hlimit]; exact h
  rename_i hlimit
  rw [if_neg hlimit]
  split at h
  · exact absurd h.symm hresult
  rw [if_neg (by rw [length_append]; omega), drop_append_of_le_length (by omega),
    take_append_of_le_length (by rw [length_drop]; omega)]
  exact h

theorem readFrame_byteCount {frame : Http3Frame} {byteCount : Nat}
    (h : readFrame limit buffered = .ok (some (frame, byteCount))) :
    0 < byteCount ∧ byteCount ≤ buffered.length := by
  unfold readFrame at h
  split at h
  · cases h
  rename_i frameType htype
  have hpos := (decodeQuicVariableLengthInteger_spec htype).2.1
  split at h
  · cases h
  simp only at h
  split at h
  · cases h
  split at h
  · cases h
  split at h
  · cases h
  injection h with h
  injection h with h
  injection h with _ h
  omega

/-- What is not a frame yet is a header that is not complete, or less than
the frame it declares. -/
theorem readFrame_none (h : readFrame limit buffered = .ok none) :
    buffered.length ≤ max limit 15 := by
  unfold readFrame at h
  split at h
  · next htype =>
    have hlt := decodeQuicVariableLengthInteger_error htype
    omega
  rename_i frameType htype
  have hwidth := decodeQuicVariableLengthInteger_byteCount_le htype
  split at h
  · next hlength =>
    have hlt := decodeQuicVariableLengthInteger_error hlength
    rw [length_drop] at hlt
    omega
  simp only at h
  split at h
  · cases h
  split at h
  · omega
  · split at h <;> exact nomatch h

end ReadFrame

/-- The frames of an input, one behind the other. -/
def http3Framing (maximumFrameByteCount : Nat) :
    Framing (List Http3Frame) UInt8 Http3FrameError where
  next frames input :=
    match readFrame maximumFrameByteCount input with
    | .error e => .error e
    | .ok none => .ok none
    | .ok (some (frame, byteCount)) =>
      .ok (some (frames ++ [frame], input.drop byteCount))

theorem http3Framing_stable (limit : Nat) : (http3Framing limit).Stable where
  taken := by
    intro frames input frames' rest h more
    simp only [http3Framing] at h ⊢
    split at h
    · cases h
    · cases h
    rename_i frame byteCount hread
    rw [readFrame_more hread (nofun) more]
    simp only at h ⊢
    rw [drop_append_of_le_length (readFrame_byteCount hread).2]
    injection h with h
    injection h with h
    injection h with hframes hrest
    rw [hframes, hrest]
  refused := by
    intro frames input e h more
    simp only [http3Framing] at h ⊢
    split at h
    · next hread =>
      rw [readFrame_more hread (nofun) more]
      exact h
    · cases h
    · cases h
  shorter := by
    intro frames input frames' rest h
    simp only [http3Framing] at h
    split at h
    · cases h
    · cases h
    rename_i frame byteCount hread
    injection h with h
    injection h with h
    injection h with _ hrest
    have hbytes := readFrame_byteCount hread
    rw [← hrest, length_drop]
    omega

/-- The one parse of a sequence of bytes: its frames, and what is left over
or why it is refused. -/
def parseHttp3Frames (maximumFrameByteCount : Nat) (bytes : Bytes) :
    List Http3Frame × Except Http3FrameError Bytes :=
  (http3Framing maximumFrameByteCount).parse [] bytes

/-! ## The source's reader -/

/-- The members of `Http3FrameReader`. -/
structure Http3FrameReaderBuffer where
  buffer : Bytes := []
  consumedByteOffset : Nat := 0
  maximumFrameByteCount : Nat
  stickyError : Option Http3FrameError := none
  deriving DecidableEq

namespace Http3FrameReaderBuffer

/-- The constructor, which throws at a limit of zero. -/
def construct (maximumFrameByteCount : Nat) : Option Http3FrameReaderBuffer :=
  if maximumFrameByteCount = 0 then none
  else some { maximumFrameByteCount := maximumFrameByteCount }

variable (reader : Http3FrameReaderBuffer)

def unread : Bytes := reader.buffer.drop reader.consumedByteOffset

def pendingByteCount : Nat := reader.buffer.length - reader.consumedByteOffset

/-- The bytes that were read are erased. -/
def compact : Http3FrameReaderBuffer :=
  { reader with buffer := reader.unread, consumedByteOffset := 0 }

def latchError (error : Http3FrameError) :
    Http3FrameReaderBuffer :=
  { reader with stickyError := some error }

def feed (newBytes : Bytes) : Option Http3FrameError × Http3FrameReaderBuffer :=
  match reader.stickyError with
  | some error => (some error, reader)
  | none =>
    if newBytes.length > reader.maximumFrameByteCount then
      let error : Http3FrameError :=
        { kind := .limitExceeded
          message := s!"本次喂入 {newBytes.length} 字节，超过单帧上限 {reader.maximumFrameByteCount} 字节：请按不超过上限的块切好再喂（RFC 9114 §10.5 的过量负载防护）" }
      (some error, reader.latchError error)
    else
      let reader := reader.compact
      (none, { reader with buffer := reader.buffer ++ newBytes })

/-- Half of the buffer has to be behind the offset. -/
def compactAtHalf :
    Http3FrameReaderBuffer :=
  if reader.consumedByteOffset ≥ reader.buffer.length / 2 then reader.compact
  else reader

def nextFrame : Except Http3FrameError (Option Http3Frame) × Http3FrameReaderBuffer :=
  match reader.stickyError with
  | some error => (.error error, reader)
  | none =>
    let reader := reader.compactAtHalf
    match readFrame reader.maximumFrameByteCount reader.unread with
    | .error error => (.error error, reader.latchError error)
    | .ok none => (.ok none, reader)
    | .ok (some (frame, byteCount)) =>
      (.ok (some frame),
        { reader with
          consumedByteOffset := reader.consumedByteOffset + byteCount })

def reset : Http3FrameReaderBuffer :=
  { reader with buffer := [], consumedByteOffset := 0, stickyError := none }

/-! ## What the late erasure does not change -/

/-- The reader that sees the unread bytes only. -/
def toReader (reader : Http3FrameReaderBuffer) : Http3FrameReader where
  buffer := reader.unread
  maximumFrameByteCount := reader.maximumFrameByteCount
  stickyError := reader.stickyError

theorem compactAtHalf_same : reader.compactAtHalf.toReader = reader.toReader ∧
      reader.compactAtHalf.buffer.length ≤ reader.buffer.length := by
  unfold compactAtHalf
  split
  · refine ⟨rfl, ?_⟩
    show reader.unread.length ≤ _
    rw [unread, length_drop]
    omega
  · exact ⟨rfl, le_refl _⟩

theorem toReader_advance (byteCount : Nat) :
    toReader { reader with
        consumedByteOffset := reader.consumedByteOffset + byteCount } =
      { reader.toReader with
        buffer := reader.toReader.buffer.drop byteCount } := by
  unfold toReader unread
  simp

end Http3FrameReaderBuffer

open Http3FrameReaderBuffer

theorem Http3FrameReader.nextFrame_eq (reader : Http3FrameReader) : reader.nextFrame =
      match reader.stickyError with
      | some error => (.error error, reader)
      | none =>
        match readFrame reader.maximumFrameByteCount reader.buffer with
        | .error error => (.error error, reader.latchError error)
        | .ok none => (.ok none, reader)
        | .ok (some (frame, byteCount)) =>
          (.ok (some frame), { reader with buffer := reader.buffer.drop byteCount }) := by
  obtain ⟨buffer, limit, stickyError⟩ := reader
  cases stickyError with
  | some error => rfl
  | none =>
    simp only [nextFrame, readFrame]
    cases decodeQuicVariableLengthInteger buffer with
    | error e => rfl
    | ok frameType =>
      simp only
      cases decodeQuicVariableLengthInteger (buffer.drop frameType.byteCount) with
      | error e => rfl
      | ok length =>
        simp only
        split
        · rfl
        split
        · rfl
        cases decodeHttp3FramePayload frameType.value
          ((buffer.drop (frameType.byteCount + length.byteCount)).take length.value) <;> rfl

namespace Http3FrameReaderBuffer

theorem toReader_nextFrame (reader : Http3FrameReaderBuffer) :
    reader.nextFrame.1 = reader.toReader.nextFrame.1 ∧
      reader.nextFrame.2.toReader = reader.toReader.nextFrame.2 := by
  obtain ⟨hsame, -⟩ := reader.compactAtHalf_same
  rw [nextFrame_eq]
  unfold nextFrame
  cases hopen : reader.stickyError with
  | some error =>
    have hsticky : reader.toReader.stickyError = some error := hopen
    rw [hsticky]
    exact ⟨rfl, rfl⟩
  | none =>
    have hsticky : reader.toReader.stickyError = none := hopen
    rw [hsticky, ← hsame]
    rw [← hsame] at hsticky
    generalize reader.compactAtHalf = tidied at hsticky
    have hlook : readFrame tidied.toReader.maximumFrameByteCount tidied.toReader.buffer =
      readFrame tidied.maximumFrameByteCount tidied.unread := rfl
    simp only
    rw [hlook]
    cases hread : readFrame tidied.maximumFrameByteCount tidied.unread with
    | error e => exact ⟨rfl, rfl⟩
    | ok found =>
      cases found with
      | none => exact ⟨rfl, rfl⟩
      | some found =>
        obtain ⟨frame, byteCount⟩ := found
        refine ⟨rfl, (tidied.toReader_advance byteCount).trans ?_⟩
        show Http3FrameReader.mk _ _ tidied.toReader.stickyError = Http3FrameReader.mk _ _ none
        rw [hsticky]

variable {reader : Http3FrameReaderBuffer}

theorem nextFrame_error {reader' : Http3FrameReaderBuffer} {error : Http3FrameError}
    (h : reader.nextFrame = (.error error, reader')) : reader'.stickyError = some error := by
  unfold nextFrame at h
  split at h
  · next hsticky =>
    injection h with herror hreader
    injection herror with herror
    rw [← hreader, ← herror, hsticky]
  simp only at h
  split at h
  · injection h with herror hreader
    injection herror with herror
    rw [← hreader, ← herror]
    rfl
  · cases h
  · cases h

theorem nextFrame_answer (reader : Http3FrameReaderBuffer) : reader.nextFrame.1 =
      match reader.stickyError with
      | some error => .error error
      | none =>
        (readFrame reader.maximumFrameByteCount reader.unread).map (Option.map Prod.fst) := by
  have hlook : readFrame reader.compactAtHalf.maximumFrameByteCount
      reader.compactAtHalf.unread = readFrame reader.maximumFrameByteCount reader.unread :=
    congrArg (fun plain : Http3FrameReader =>
      readFrame plain.maximumFrameByteCount plain.buffer)
      reader.compactAtHalf_same.1
  unfold nextFrame
  cases reader.stickyError with
  | some error => rfl
  | none =>
    simp only
    rw [hlook]
    cases readFrame reader.maximumFrameByteCount reader.unread with
    | error e => rfl
    | ok found => cases found <;> rfl

theorem nextFrame_none (h : reader.nextFrame.1 = .ok none) :
    reader.stickyError = none ∧
      readFrame reader.maximumFrameByteCount reader.unread = .ok none := by
  rw [nextFrame_answer] at h
  split at h
  · cases h
  rename_i hopen
  refine ⟨hopen, ?_⟩
  cases hread : readFrame reader.maximumFrameByteCount reader.unread with
  | error e =>
    rw [hread] at h
    cases h
  | ok found =>
    rw [hread] at h
    cases found with
    | none => rfl
    | some found => exact nomatch h

theorem nextFrame_kept (h : reader.nextFrame.1 = .ok none) :
    reader.nextFrame.2.toReader = reader.toReader := by
  obtain ⟨hopen, hread⟩ := nextFrame_none h
  have hreader := reader.toReader_nextFrame.2
  rw [nextFrame_eq] at hreader
  have hplain : reader.toReader.stickyError = none := hopen
  have hlook : readFrame reader.toReader.maximumFrameByteCount
      reader.toReader.buffer = .ok none := hread
  rw [hplain, hlook] at hreader
  exact hreader

theorem feed_length {newBytes : Bytes} (hopen : reader.stickyError = none)
    (hshort : newBytes.length ≤ reader.maximumFrameByteCount) :
    (reader.feed newBytes).2.buffer.length = reader.unread.length + newBytes.length := by
  rw [feed, hopen]
  rw [if_neg (Nat.not_lt_of_le hshort)]
  show (reader.unread ++ newBytes).length = _
  exact length_append

end Http3FrameReaderBuffer

/-! ## Sequences of calls -/

inductive FrameReaderCall
  | feed (newBytes : Bytes)
  | nextFrame
  deriving DecidableEq, Repr

/-- The reader, the frames it has returned and the errors. -/
structure FrameReaderRun where
  reader : Http3FrameReaderBuffer
  frames : List Http3Frame := []
  errors : List Http3FrameError := []
  deriving DecidableEq

def FrameReaderRun.call (run : FrameReaderRun) : FrameReaderCall → FrameReaderRun
  | .feed newBytes =>
    { run with
      reader := (run.reader.feed newBytes).2
      errors := run.errors ++ (run.reader.feed newBytes).1.toList }
  | .nextFrame =>
    match run.reader.nextFrame with
    | (.error error, reader) =>
      { run with reader := reader, errors := run.errors ++ [error] }
    | (.ok none, reader) => { run with reader := reader }
    | (.ok (some frame), reader) =>
      { run with reader := reader, frames := run.frames ++ [frame] }

def runFrameReader (maximumFrameByteCount : Nat) (calls : List FrameReaderCall) : FrameReaderRun :=
  calls.foldl FrameReaderRun.call { reader := { maximumFrameByteCount := maximumFrameByteCount } }

/-- Everything that was fed. -/
def fedBytes (calls : List FrameReaderCall) : Bytes := calls.flatMap fun call =>
    match call with
    | .feed newBytes => newBytes
    | .nextFrame => []

def FrameReaderCall.event : FrameReaderCall → Framing.Event UInt8
  | .feed newBytes => .feed newBytes
  | .nextFrame => .look

def FrameReaderCall.FitsInto (maximumFrameByteCount : Nat) : FrameReaderCall → Prop
  | .feed newBytes => newBytes.length ≤ maximumFrameByteCount
  | .nextFrame => True

theorem arrivals_event (calls : List FrameReaderCall) :
    arrivals (calls.map FrameReaderCall.event) = fedBytes calls := by
  induction calls with
  | nil => rfl
  | cons call calls ih =>
    cases call with
    | feed newBytes => exact congrArg (newBytes ++ ·) ih
    | nextFrame => exact ih

namespace FrameReaderRun

/-- The run as the framing sees it. -/
def progress (run : FrameReaderRun) : Framing.Progress (List Http3Frame) UInt8 Http3FrameError where
  state := run.frames
  unread := run.reader.unread
  refusal := run.reader.stickyError

variable {run : FrameReaderRun}

theorem call_feed {newBytes : Bytes} (hfits : newBytes.length ≤ run.reader.maximumFrameByteCount) :
    (run.call (.feed newBytes)).progress = Framing.feed run.progress newBytes ∧
      (run.call (.feed newBytes)).reader.maximumFrameByteCount =
        run.reader.maximumFrameByteCount := by
  obtain ⟨⟨buffer, consumed, limit, stickyError⟩, frames, errors⟩ := run
  cases stickyError with
  | some error => exact ⟨rfl, rfl⟩
  | none =>
    have hshort : ¬newBytes.length > limit := Nat.not_lt_of_le hfits
    simp [call, Http3FrameReaderBuffer.feed, hshort, progress, Framing.feed,
      Http3FrameReaderBuffer.compact, Http3FrameReaderBuffer.unread]

theorem progress_eq (run : FrameReaderRun) : run.progress =
    ⟨run.frames, run.reader.toReader.buffer, run.reader.toReader.stickyError⟩ := rfl

theorem call_nextFrame (run : FrameReaderRun) : (run.call .nextFrame).progress =
        (http3Framing run.reader.maximumFrameByteCount).look run.progress ∧
      (run.call .nextFrame).reader.maximumFrameByteCount =
        run.reader.maximumFrameByteCount := by
  obtain ⟨reader, frames, errors⟩ := run
  obtain ⟨hanswer, hreader⟩ := reader.toReader_nextFrame
  rw [Http3FrameReader.nextFrame_eq] at hanswer hreader
  rw [progress_eq, progress_eq]
  unfold call
  show _ = (http3Framing reader.toReader.maximumFrameByteCount).look _ ∧
    (Http3FrameReaderBuffer.toReader _).maximumFrameByteCount =
      reader.toReader.maximumFrameByteCount
  generalize reader.nextFrame = result at hanswer hreader
  obtain ⟨answer, reader'⟩ := result
  generalize reader.toReader = plain at hanswer hreader
  obtain ⟨buffer, limit, stickyError⟩ := plain
  unfold Framing.look http3Framing
  cases stickyError with
  | some error =>
    subst hanswer
    simp only [hreader, and_self]
  | none =>
    simp only at hanswer hreader ⊢
    cases hread : readFrame limit buffer with
    | error e =>
      rw [hread] at hanswer hreader
      subst hanswer
      simp only [hreader, Http3FrameReader.latchError, and_self]
    | ok found =>
      rw [hread] at hanswer hreader
      cases found with
      | none =>
        subst hanswer
        simp only [hreader, and_self]
      | some found =>
        obtain ⟨frame, byteCount⟩ := found
        subst hanswer
        simp only [hreader, and_self]

theorem calls_progress {limit : Nat} {calls : List FrameReaderCall}
    (hlimit : run.reader.maximumFrameByteCount = limit)
    (hfits : ∀ call ∈ calls, call.FitsInto limit) :
    (calls.foldl FrameReaderRun.call run).progress =
        (calls.map FrameReaderCall.event).foldl (http3Framing limit).apply run.progress ∧
      (calls.foldl FrameReaderRun.call run).reader.maximumFrameByteCount =
        limit := by
  induction calls generalizing run with
  | nil => exact ⟨rfl, hlimit⟩
  | cons call calls ih =>
    have hcall := hfits call mem_cons_self
    cases call with
    | feed newBytes =>
      obtain ⟨hprogress, hmaximum⟩ := @call_feed run newBytes (hlimit.symm ▸ hcall)
      obtain ⟨hcalls, hkept⟩ := ih (hmaximum.trans hlimit)
        fun call h => hfits call (mem_cons_of_mem _ h)
      rw [hprogress] at hcalls
      exact ⟨hcalls, hkept⟩
    | nextFrame =>
      obtain ⟨hprogress, hmaximum⟩ := call_nextFrame run
      obtain ⟨hcalls, hkept⟩ := ih (hmaximum.trans hlimit)
        fun call h => hfits call (mem_cons_of_mem _ h)
      rw [hprogress, hlimit] at hcalls
      exact ⟨hcalls, hkept⟩

theorem call_errors (herrors : ∀ e ∈ run.errors, run.reader.stickyError = some e)
    (call : FrameReaderCall) :
    ∀ e ∈ (run.call call).errors, (run.call call).reader.stickyError = some e := by
  obtain ⟨reader, frames, errors⟩ := run
  cases call with
  | feed newBytes =>
    intro e he
    rcases mem_append.mp he with he | he
    · have hsticky : reader.stickyError = some e := herrors e he
      show (reader.feed newBytes).2.stickyError = some e
      unfold Http3FrameReaderBuffer.feed
      rw [hsticky]
      exact hsticky
    have hanswer : (reader.feed newBytes).1 = some e := by
      simpa using he
    show (reader.feed newBytes).2.stickyError = some e
    unfold Http3FrameReaderBuffer.feed at hanswer ⊢
    cases hsticky : reader.stickyError with
    | some error =>
      simp only [hsticky] at hanswer ⊢
      exact hanswer
    | none =>
      simp only [hsticky] at hanswer ⊢
      split at hanswer
      · next hlong =>
        rw [if_pos hlong]
        exact hanswer
      · cases hanswer
  | nextFrame =>
    have hstuck : ∀ e ∈ errors, reader.nextFrame = (.error e, reader) := by
      intro e he
      have hsticky : reader.stickyError = some e := herrors e he
      rw [Http3FrameReaderBuffer.nextFrame, hsticky]
    unfold call
    simp only
    split
    · next error reader' hresult =>
      intro e he
      rcases mem_append.mp he with he | he
      · rw [hstuck e he] at hresult
        injection hresult with _ hreader
        exact hreader ▸ herrors e he
      · rw [mem_singleton.mp he]
        exact nextFrame_error hresult
    · next reader' hresult =>
      intro e he
      rw [hstuck e he] at hresult
      cases hresult
    · next frame reader' hresult =>
      intro e he
      rw [hstuck e he] at hresult
      cases hresult

theorem calls_errors (herrors : ∀ e ∈ run.errors, run.reader.stickyError = some e)
    (calls : List FrameReaderCall) :
    ∀ e ∈ (calls.foldl FrameReaderRun.call run).errors,
      (calls.foldl FrameReaderRun.call run).reader.stickyError = some e := by
  induction calls generalizing run with
  | nil => exact herrors
  | cons call calls ih => exact ih (call_errors herrors call)

end FrameReaderRun

open FrameReaderRun

section Cuts

variable {limit : Nat} {calls : List FrameReaderCall}

theorem runFrameReader_outcome (hfits : ∀ call ∈ calls, call.FitsInto limit) :
    (http3Framing limit).outcome (runFrameReader limit calls).progress =
      parseHttp3Frames limit (fedBytes calls) := by
  unfold runFrameReader
  rw [(calls_progress rfl hfits).1, outcome_run (http3Framing_stable limit), arrivals_event]
  rfl

theorem runFrameReader_limit (hfits : ∀ call ∈ calls, call.FitsInto limit) :
    (runFrameReader limit calls).reader.maximumFrameByteCount = limit :=
  (calls_progress rfl hfits).2

theorem runFrameReader_frames (hfits : ∀ call ∈ calls, call.FitsInto limit) :
    (runFrameReader limit calls).frames <+: (parseHttp3Frames limit (fedBytes calls)).1 := by
  rw [← runFrameReader_outcome hfits]
  unfold outcome
  split
  · exact prefix_rfl
  refine parse_induction (P := ((runFrameReader limit calls).frames <+: ·)) ?_ prefix_rfl _
  intro frames input frames' rest hframes hnext
  simp only [http3Framing] at hnext
  split at hnext
  · cases hnext
  · cases hnext
  injection hnext with hnext
  injection hnext with hnext
  injection hnext with hnext _
  rw [← hnext]
  exact hframes.trans (prefix_append _ _)

theorem runFrameReader_none (hfits : ∀ call ∈ calls, call.FitsInto limit)
    (hnone : (runFrameReader limit calls).reader.nextFrame.1 = .ok none) :
    parseHttp3Frames limit (fedBytes calls) =
      ((runFrameReader limit calls).frames, .ok (runFrameReader limit calls).reader.unread) := by
  rw [← runFrameReader_outcome hfits]
  obtain ⟨hopen, hread⟩ := nextFrame_none hnone
  unfold outcome progress
  rw [hopen]
  refine parse_waiting ?_
  rw [runFrameReader_limit hfits] at hread
  rw [http3Framing]
  simp only
  rw [hread]

theorem runFrameReader_error (hfits : ∀ call ∈ calls, call.FitsInto limit) {e : Http3FrameError}
    (herror : (runFrameReader limit calls).reader.nextFrame.1 = .error e) :
    parseHttp3Frames limit (fedBytes calls) = ((runFrameReader limit calls).frames, .error e) := by
  rw [← runFrameReader_outcome hfits]
  rw [nextFrame_answer, runFrameReader_limit hfits] at herror
  unfold outcome progress
  cases hsticky : (runFrameReader limit calls).reader.stickyError with
  | some error =>
    rw [hsticky] at herror
    injection herror with herror
    rw [herror]
  | none =>
    rw [hsticky] at herror
    refine parse_refused ?_
    rw [http3Framing]
    simp only at herror ⊢
    cases hread : readFrame limit (runFrameReader limit calls).reader.unread with
    | error error =>
      rw [hread] at herror
      injection herror with herror
      rw [herror]
    | ok found =>
      rw [hread] at herror
      cases herror

end Cuts

/-! ## Reading what was written -/

/-- The integers a frame is written with have an encoding, and what it
calls unknown is not known. -/
def Http3Frame.IsWritable : Http3Frame → Prop
  | .data _ | .headers _ => True
  | .cancelPush pushId => pushId ≤ kQuicMaximumIntegerValue
  | .settings known others =>
    (∀ setting ∈ known, setting.2 ≤ kQuicMaximumIntegerValue) ∧
      ∀ setting ∈ others, setting.identifier ≤ kQuicMaximumIntegerValue ∧
          setting.value ≤ kQuicMaximumIntegerValue ∧
          http3SettingIdFromValue setting.identifier = none
  | .pushPromise pushId _ => pushId ≤ kQuicMaximumIntegerValue
  | .goAway streamIdOrPushId => streamIdOrPushId ≤ kQuicMaximumIntegerValue
  | .maxPushId pushId => pushId ≤ kQuicMaximumIntegerValue
  | .unknown frameType _ =>
    frameType ≤ kQuicMaximumIntegerValue ∧ ∀ known : Http3FrameType, known.value ≠ frameType

variable {cursor : PayloadCursor}

theorem PayloadCursor.readInteger_append {value : Nat}
    {rest : Bytes} (hvalue : value ≤ kQuicMaximumIntegerValue)
    (hremaining : cursor.remaining = quicIntegerBytes value ++ rest) (fieldName : String) :
    ∃ behind : PayloadCursor, cursor.readInteger fieldName = .ok (value, behind) ∧
        behind.remaining = rest := by
  refine ⟨{ cursor with offset := cursor.offset +
    quicVariableLengthIntegerByteCount value }, ?_, ?_⟩
  · rw [readInteger, hremaining, decodeQuicVariableLengthInteger_append hvalue]
  show cursor.payload.drop _ = rest
  rw [← drop_drop]
  show cursor.remaining.drop _ = rest
  rw [hremaining, ← length_quicIntegerBytes, drop_left]

theorem readSoleInteger_eq {value : Nat} (hvalue : value ≤ kQuicMaximumIntegerValue)
    (hremaining : cursor.remaining = quicIntegerBytes value)
    (fieldName : String) : readSoleInteger cursor fieldName = .ok value:= by
  obtain ⟨behind, hread, hrest⟩ := readInteger_append hvalue
    (hremaining.trans (append_nil _).symm) fieldName
  unfold readSoleInteger
  rw [hread]
  show ((behind.requireFieldsEnd fieldName).bind fun _ => .ok value) = _
  rw [requireFieldsEnd, hrest]
  rfl

/-! ### Settings -/

/-- A setting as it stands in the payload. -/
def settingBytes (setting : Nat × Nat) : Bytes :=
  quicIntegerBytes setting.1 ++ quicIntegerBytes setting.2

def knownSettings (settings : List (Nat × Nat)) : List (Http3SettingId × Nat) :=
  settings.filterMap fun setting =>
    (http3SettingIdFromValue setting.1).map (·, setting.2)

def otherSettings (settings : List (Nat × Nat)) : List Http3UnknownSetting :=
  settings.filterMap fun setting =>
    match http3SettingIdFromValue setting.1 with
    | some _ => none
    | none => some ⟨setting.1, setting.2⟩

theorem readSettings_eq {settings : List (Nat × Nat)} {rounds : Nat}
    (hwritable : ∀ setting ∈ settings, setting.1 ≤ kQuicMaximumIntegerValue ∧
        setting.2 ≤ kQuicMaximumIntegerValue)
    (hrounds : settings.length ≤ rounds)
    (hremaining : cursor.remaining = settings.flatMap settingBytes)
    (known : List (Http3SettingId × Nat)) (unknown : List Http3UnknownSetting) :
    readSettings rounds cursor known unknown =
      .ok (known ++ knownSettings settings, unknown ++ otherSettings settings) := by
  induction settings generalizing rounds cursor known unknown with
  | nil =>
    rw [knownSettings, otherSettings, filterMap_nil, filterMap_nil, append_nil, append_nil]
    cases rounds with
    | zero => rfl
    | succ rounds =>
      rw [readSettings, hremaining]
      rfl
  | cons setting settings ih =>
    obtain ⟨identifier, value⟩ := setting
    obtain ⟨hidentifier, hvalue⟩ := hwritable _ mem_cons_self
    cases rounds with
    | zero => exact absurd hrounds (Nat.not_succ_le_zero _)
    | succ rounds =>
      rw [flatMap_cons, settingBytes, append_assoc] at hremaining
      obtain ⟨first, hfirst, hbehind⟩ := readInteger_append hidentifier hremaining "设置项标识"
      obtain ⟨second, hsecond, hrest⟩ := readInteger_append hvalue hbehind "设置项的值"
      have hnext := fun known unknown => ih
        (fun setting h => hwritable setting (mem_cons_of_mem _ h))
        (Nat.le_of_succ_le_succ hrounds) hrest known unknown
      have hsome : cursor.remaining.isEmpty = false := by
        have hpos := quicVariableLengthIntegerByteCount_pos hidentifier
        rw [isEmpty_eq_false_iff, hremaining]
        intro hnil
        have hlength := congrArg length hnil
        rw [length_append, length_quicIntegerBytes, length_nil] at hlength
        omega
      rw [readSettings, hsome]
      simp only [Bool.false_eq_true, if_false]
      show ((cursor.readInteger "设置项标识").bind _ : Except _ _) = _
      rw [hfirst]
      show ((first.readInteger "设置项的值").bind _ : Except _ _) = _
      rw [hsecond]
      show (match http3SettingIdFromValue identifier with
        | some known' => _
        | none => _) = _
      cases hknown : http3SettingIdFromValue identifier with
      | some name =>
        simp only
        rw [hnext]
        simp [knownSettings, otherSettings, hknown]
      | none =>
        rw [hnext]
        simp [knownSettings, otherSettings, hknown]

/-- The settings of a frame in the order they are written in. -/
def writtenSettings (known : List (Http3SettingId × Nat))
    (others : List Http3UnknownSetting) : List (Nat × Nat) :=
  known.map (fun setting => (setting.1.value, setting.2)) ++
    others.map fun setting => (setting.identifier, setting.value)

@[simp] theorem http3SettingIdFromValue_value (id : Http3SettingId) :
    http3SettingIdFromValue id.value = some id := by
  cases id <;> rfl

theorem framePayload_settings (known : List (Http3SettingId × Nat))
    (others : List Http3UnknownSetting) :
    framePayload (.settings known others) =
      (writtenSettings known others).flatMap settingBytes := by
  rw [writtenSettings, flatMap_append, flatMap_map, flatMap_map]
  rfl

theorem knownSettings_written {known : List (Http3SettingId × Nat)}
    {others : List Http3UnknownSetting}
    (hothers : ∀ setting ∈ others, http3SettingIdFromValue setting.identifier = none) :
    knownSettings (writtenSettings known others) = known ∧
      otherSettings (writtenSettings known others) = others := by
  have hnone : knownSettings (others.map fun setting =>
        (setting.identifier, setting.value)) = [] ∧
      otherSettings (others.map fun setting =>
        (setting.identifier, setting.value)) = others := by
    induction others with
    | nil => exact ⟨rfl, rfl⟩
    | cons setting others ih =>
      have hsetting := hothers setting mem_cons_self
      obtain ⟨hknown, hother⟩ := ih fun setting h =>
        hothers setting (mem_cons_of_mem _ h)
      unfold knownSettings at hknown ⊢
      unfold otherSettings at hother ⊢
      simp [hsetting, hknown, hother]
  have hsome : knownSettings (known.map fun setting =>
        (setting.1.value, setting.2)) = known ∧
      otherSettings (known.map fun setting =>
        (setting.1.value, setting.2)) = [] := by
    induction known with
    | nil => exact ⟨rfl, rfl⟩
    | cons setting known ih =>
      obtain ⟨hknown, hother⟩ := ih
      unfold knownSettings at hknown ⊢
      unfold otherSettings at hother ⊢
      simp [hknown, hother]
  unfold knownSettings otherSettings writtenSettings at *
  rw [filterMap_append, filterMap_append, hsome.1, hsome.2, hnone.1,
    hnone.2, append_nil, nil_append]
  exact ⟨rfl, rfl⟩

theorem length_le_flatMap_settingBytes {settings : List (Nat × Nat)}
    (hwritable : ∀ setting ∈ settings, setting.1 ≤ kQuicMaximumIntegerValue) :
    settings.length ≤ (settings.flatMap settingBytes).length := by
  induction settings with
  | nil => exact le_refl _
  | cons setting settings ih =>
    have hpos := quicVariableLengthIntegerByteCount_pos (hwritable setting mem_cons_self)
    have hrest := ih fun setting h =>
      hwritable setting (mem_cons_of_mem _ h)
    rw [flatMap_cons, length_append, settingBytes,
      length_append, length_quicIntegerBytes, length_cons]
    omega

theorem Http3SettingId.value_le (id : Http3SettingId) : id.value ≤ kQuicMaximumIntegerValue := by
  cases id <;> decide

/-! ### Frames -/

variable {frame : Http3Frame}

theorem decodeHttp3FramePayload_framePayload (h : frame.IsWritable) :
    decodeHttp3FramePayload (http3FrameTypeValue frame) (framePayload frame) = .ok frame := by
  cases frame with
  | data payload => rfl
  | headers encodedFieldSection => rfl
  | cancelPush pushId =>
    show Http3Frame.cancelPush <$> readSoleInteger _ _ = _
    rw [readSoleInteger_eq h rfl]
    rfl
  | settings known others =>
    obtain ⟨hknown, hothers⟩ := h
    have hwritable : ∀ setting ∈ writtenSettings known others,
        setting.1 ≤ kQuicMaximumIntegerValue ∧ setting.2 ≤ kQuicMaximumIntegerValue := by
      intro setting hsetting
      rcases mem_append.mp hsetting with hsetting | hsetting
      · obtain ⟨known', hmem, rfl⟩ := mem_map.mp hsetting
        exact ⟨known'.1.value_le, hknown known' hmem⟩
      · obtain ⟨other, hmem, rfl⟩ := mem_map.mp hsetting
        exact ⟨(hothers other hmem).1, (hothers other hmem).2.1⟩
    have hbytes := framePayload_settings known others
    have hread : readSettings (framePayload (.settings known others)).length
        { frameTypeValue := http3FrameTypeValue (.settings known others)
          payload := framePayload (.settings known others) } [] [] =
        .ok (knownSettings (writtenSettings known others),
          otherSettings (writtenSettings known others)) :=
      readSettings_eq hwritable
        (hbytes ▸ length_le_flatMap_settingBytes
          fun setting hsetting => (hwritable setting hsetting).1)
        (by exact hbytes) [] []
    obtain ⟨hsome, hnone⟩ := @knownSettings_written known others
      fun setting hsetting => (hothers setting hsetting).2.2
    show ((readSettings _ _ _ _).bind _ : Except _ _) = _
    rw [hread, hsome, hnone]
    rfl
  | pushPromise pushId encodedFieldSection =>
    obtain ⟨behind, hread, hrest⟩ : ∃ behind : PayloadCursor, readInteger
          { frameTypeValue := http3FrameTypeValue (.pushPromise pushId encodedFieldSection)
            payload := framePayload (.pushPromise pushId encodedFieldSection) } "Push ID" =
          .ok (pushId, behind) ∧ behind.remaining = encodedFieldSection :=
      readInteger_append h rfl "Push ID"
    show ((readInteger _ _).bind _ : Except _ _) = _
    rw [hread]
    show Except.ok (Http3Frame.pushPromise pushId behind.remaining) = _
    rw [hrest]
  | goAway streamIdOrPushId =>
    show Http3Frame.goAway <$> readSoleInteger _ _ = _
    rw [readSoleInteger_eq h rfl]
    rfl
  | maxPushId pushId =>
    show Http3Frame.maxPushId <$> readSoleInteger _ _ = _
    rw [readSoleInteger_eq h rfl]
    rfl
  | unknown frameType payload =>
    have hnot := h.2
    show decodeHttp3FramePayload frameType payload = _
    unfold decodeHttp3FramePayload
    split
    · exact absurd rfl (hnot .data)
    · exact absurd rfl (hnot .headers)
    · exact absurd rfl (hnot .cancelPush)
    · exact absurd rfl (hnot .settings)
    · exact absurd rfl (hnot .pushPromise)
    · exact absurd rfl (hnot .goAway)
    · exact absurd rfl (hnot .maxPushId)
    · rfl

theorem Http3Frame.IsWritable.typeValue_le (h : frame.IsWritable) :
    http3FrameTypeValue frame ≤ kQuicMaximumIntegerValue := by
  cases frame with
  | unknown frameType payload => exact h.1
  | _ => simp [http3FrameTypeValue, kQuicMaximumIntegerValue]

theorem readFrame_appendHttp3Frame {limit : Nat} (hwritable : frame.IsWritable)
    (hlimit : (appendHttp3Frame [] frame).length ≤ limit)
    (hlength : (framePayload frame).length ≤ kQuicMaximumIntegerValue) (rest : Bytes) :
    readFrame limit (appendHttp3Frame [] frame ++ rest) =
      .ok (some (frame, (appendHttp3Frame [] frame).length)) := by
  have htype := hwritable.typeValue_le
  have hbytes : appendHttp3Frame [] frame ++ rest = quicIntegerBytes (http3FrameTypeValue frame) ++
        (quicIntegerBytes (framePayload frame).length ++ (framePayload frame ++ rest)) := by
    simp [appendHttp3Frame]
  have hcount : (appendHttp3Frame [] frame).length =
      quicVariableLengthIntegerByteCount (http3FrameTypeValue frame) +
        quicVariableLengthIntegerByteCount (framePayload frame).length +
        (framePayload frame).length := by
    simp [appendHttp3Frame, add_assoc]
  have hdrop : ∀ (value : Nat) (behind : Bytes), (quicIntegerBytes value ++ behind).drop
        (quicVariableLengthIntegerByteCount value) = behind := by
    intro value behind
    rw [← length_quicIntegerBytes, drop_left]
  unfold readFrame
  rw [hbytes, decodeQuicVariableLengthInteger_append htype]
  simp only
  rw [hdrop, decodeQuicVariableLengthInteger_append hlength]
  simp only
  rw [if_neg (by omega), ← hbytes, if_neg (by rw [length_append]; omega), hbytes, ← drop_drop,
    hdrop, hdrop, take_left,
    decodeHttp3FramePayload_framePayload hwritable, hcount]

theorem nextFrame_written {limit : Nat} (hwritable : frame.IsWritable)
    (hlength : (framePayload frame).length ≤ kQuicMaximumIntegerValue)
    (hlimit : (appendHttp3Frame [] frame).length ≤ limit) :
    (Http3FrameReaderBuffer.feed { maximumFrameByteCount := limit }
      (appendHttp3Frame [] frame)).2.nextFrame.1 = .ok (some frame) := by
  have hshort : ¬(appendHttp3Frame [] frame).length > limit := Nat.not_lt_of_le hlimit
  have hread := readFrame_appendHttp3Frame hwritable hlimit hlength []
  rw [append_nil] at hread
  rw [Http3FrameReaderBuffer.nextFrame_answer, Http3FrameReaderBuffer.feed]
  simp only [hshort, if_false]
  show (readFrame limit (appendHttp3Frame [] frame)).map _ = _
  rw [hread]
  rfl

/-! ## The reader as a whole -/

/-- The frames and the error of a run are those of one parse of everything
that was fed; what is buffered once the complete frames are taken is no more
than a limit, or the fifteen bytes of a header that is not complete, and a
feed; and what was written is read back. -/
theorem frame_reader_independent_of_cuts (limit : Nat) (calls : List FrameReaderCall)
    (hfits : ∀ call ∈ calls, call.FitsInto limit) :
    let run := runFrameReader limit calls
    let whole := parseHttp3Frames limit (fedBytes calls)
    run.frames <+: whole.1 ∧ (∀ e ∈ run.errors, whole = (run.frames, .error e)) ∧
      (∀ e, run.reader.nextFrame.1 = .error e → whole = (run.frames, .error e)) ∧
      (run.reader.nextFrame.1 = .ok none → whole = (run.frames, .ok run.reader.unread) ∧
        run.reader.pendingByteCount ≤ max limit 15 ∧
        ∀ newBytes : Bytes, newBytes.length ≤ limit →
          (run.reader.nextFrame.2.feed newBytes).2.buffer.length ≤ max limit 15 + newBytes.length) ∧
      ∀ frame : Http3Frame, frame.IsWritable →
        (framePayload frame).length ≤ kQuicMaximumIntegerValue →
        (appendHttp3Frame [] frame).length ≤ limit →
        (Http3FrameReaderBuffer.feed { maximumFrameByteCount := limit }
          (appendHttp3Frame [] frame)).2.nextFrame.1 = .ok (some frame) := by
  refine ⟨runFrameReader_frames hfits, fun e he => ?_,
    fun e herror => runFrameReader_error hfits herror, fun hnone => ?_,
    fun frame hwritable hlength hlimit => nextFrame_written hwritable hlength hlimit⟩
  · have hstuck : (runFrameReader limit calls).reader.stickyError = some e :=
      FrameReaderRun.calls_errors (fun e he => absurd he List.not_mem_nil) calls e he
    refine runFrameReader_error hfits ?_
    rw [Http3FrameReaderBuffer.nextFrame_answer, hstuck]
  obtain ⟨hopen, hread⟩ := Http3FrameReaderBuffer.nextFrame_none hnone
  rw [runFrameReader_limit hfits] at hread
  have hunread := readFrame_none hread
  refine ⟨runFrameReader_none hfits hnone, ?_, fun newBytes hnew => ?_⟩
  · show _ - _ ≤ _
    rw [← List.length_drop]
    exact hunread
  have hkept := Http3FrameReaderBuffer.nextFrame_kept hnone
  have hlimit : (runFrameReader limit calls).reader.nextFrame.2.maximumFrameByteCount = limit :=
    (congrArg Http3FrameReader.maximumFrameByteCount hkept).trans (runFrameReader_limit hfits)
  rw [Http3FrameReaderBuffer.feed_length ((congrArg Http3FrameReader.stickyError hkept).trans hopen)
    (hlimit.symm ▸ hnew)]
  have hsame : (runFrameReader limit calls).reader.nextFrame.2.unread =
      (runFrameReader limit calls).reader.unread :=
    congrArg Http3FrameReader.buffer hkept
  rw [hsame]
  omega

/-- A header in two pieces. -/
theorem frame_reader_independent_of_cuts_header :
    (runFrameReader 16 [.feed [0], .nextFrame, .feed [1, 7], .nextFrame]).frames <+:
      (parseHttp3Frames 16 (fedBytes [.feed [0], .nextFrame, .feed [1, 7], .nextFrame])).1 :=
  (frame_reader_independent_of_cuts 16 [.feed [0], .nextFrame, .feed [1, 7],
    .nextFrame] (by simp [FrameReaderCall.FitsInto])).1

/-- Under a limit of one byte more than one byte and a feed is buffered; a
payload within the limit does not fit with its header; and an unknown frame
with a known type is read as that type. -/
theorem frame_reader_small_limit :
    (runFrameReader 1 [.feed [0xC0], .nextFrame, .feed [0], .nextFrame,
        .feed [0], .nextFrame]).reader.nextFrame.1 = .ok none ∧
      (runFrameReader 1 [.feed [0xC0], .nextFrame, .feed [0], .nextFrame,
        .feed [0], .nextFrame]).reader.pendingByteCount > 1 + 1 ∧
      (framePayload (.data [1, 2])).length ≤ 2 ∧
      (runFrameReader 2 [.feed [0, 2], .nextFrame]).errors ≠ [] ∧
      fedBytes [.feed [0, 2]] <+: appendHttp3Frame [] (.data [1, 2]) ∧
      (parseHttp3Frames 16 (appendHttp3Frame [] (.unknown 0 [5]))).1 = [.data [5]] := by
  decide +kernel

/-! ## Frames written and read back -/

section Written

variable {limit : Nat} {frames : List Http3Frame} {calls : List FrameReaderCall}
  (hframes : ∀ frame ∈ frames, frame.IsWritable ∧ (appendHttp3Frame [] frame).length ≤ limit ∧
    (framePayload frame).length ≤ kQuicMaximumIntegerValue)

include hframes

theorem parse_written (taken : List Http3Frame) :
    (http3Framing limit).parse taken (frames.flatMap (appendHttp3Frame [])) =
      (taken ++ frames, .ok []) := by
  induction frames generalizing taken with
  | nil =>
    rw [append_nil]
    exact parse_waiting rfl
  | cons frame rest ih =>
    obtain ⟨hwritable, hlimit, hlength⟩ := hframes frame mem_cons_self
    have hnext : (http3Framing limit).next taken ((frame :: rest).flatMap (appendHttp3Frame [])) =
        .ok (some (taken ++ [frame], rest.flatMap (appendHttp3Frame []))) := by
      simp only [http3Framing, flatMap_cons, drop_left,
        readFrame_appendHttp3Frame hwritable hlimit hlength]
    rw [parse_taken (http3Framing_stable limit) hnext,
      ih fun other hother => hframes other (mem_cons_of_mem _ hother), append_assoc]
    rfl

/-- Frames written one behind the other come back as they were, in order
and each once, however the bytes are cut and whenever the reader is asked:
there is no error on the way, and nothing is left once it has no more. -/
theorem written_frames_read_back (hfits : ∀ call ∈ calls, call.FitsInto limit)
    (hfed : fedBytes calls = frames.flatMap (appendHttp3Frame [])) :
    let run := runFrameReader limit calls
    run.frames <+: frames ∧ run.errors = [] ∧
      (run.reader.nextFrame.1 = .ok none → run.frames = frames ∧ run.reader.unread = []) := by
  have hparse : parseHttp3Frames limit (fedBytes calls) = (frames, .ok []) := by
    rw [hfed]
    exact parse_written hframes []
  refine ⟨?_, eq_nil_iff_forall_not_mem.mpr fun e he => ?_, fun hnone => ?_⟩
  · simpa [hparse] using runFrameReader_frames hfits
  · have hstuck : (runFrameReader limit calls).reader.stickyError = some e :=
      FrameReaderRun.calls_errors (fun e he => absurd he not_mem_nil) calls e he
    have herror := runFrameReader_error hfits
      ((Http3FrameReaderBuffer.nextFrame_answer _).trans (by rw [hstuck]))
    simp [hparse] at herror
  · have hall := runFrameReader_none hfits hnone
    simp only [hparse, Prod.mk.injEq, Except.ok.injEq] at hall
    exact ⟨hall.1.symm, hall.2.symm⟩

end Written

/-- Two frames in three pieces. -/
theorem written_frames_read_back_pieces :
    (runFrameReader 16 [.feed [0], .nextFrame, .feed [1, 7, 7], .feed [1, 4]]).frames <+:
      [.data [7], .goAway 4] :=
  (@written_frames_read_back 16 [.data [7], .goAway 4] _ (forall_mem_cons.mpr
    ⟨⟨trivial, by decide, by decide⟩, forall_mem_singleton.mpr
      ⟨Nat.le_of_ble_eq_true rfl, by decide, by decide⟩⟩) (by simp [FrameReaderCall.FitsInto])
    (by decide)).1

end AsynGyanis.Http3
