import AsynGyanis.Http3.DrainBlind
import AsynGyanis.Http3.Effects

/-!
# The boundary a GOAWAY draws

A server that drains tells the peer the number `G` of the first request it
will not take: one past the highest request it has taken on. From then on a
stream below `G` is handled as if nothing had been said, a stream at or above
it is turned away with H3_REQUEST_REJECTED, and nothing of its bytes reaches
the application.

The record of a stream turned away is dropped at once. What keeps it from
being turned away again is one mark, the highest stream turned away so far,
and the mark also covers the streams below it that have not been seen yet.
So the reset reaches exactly the streams that deliver their first bytes
ahead of every stream above them (`IsAhead`); the others are left without a
word.
-/

namespace AsynGyanis.Http3

open Quic Library List

variable {D E V : Type}

/-! ## Deliveries -/

/-- Requests are submitted by clients only, and on a server the only
bidirectional streams are those of the client's requests. -/
def IsServerEvent : Http3Event → Prop
  | .submitRequestHead _ _ _ | .appendRequestBody _ _ _ => False
  | _ => True

/-- The request stream at or above a boundary on which an event delivers. -/
def deliveredFrom (boundary : Nat) : Http3Event → Option Nat
  | .streamData streamId _ _ =>
    if !isUnidirectionalStream streamId && boundary ≤ streamId then
      some streamId
    else none
  | _ => none

/-- The first time a stream is in the list, only lower ones are before it. -/
def IsAhead (streamId : Nat) (deliveries : List Nat) : Prop :=
  ∃ before after, deliveries = before ++ streamId :: after ∧ ∀ other ∈ before, other < streamId

variable {deliveries : List Nat}

theorem IsAhead.mem {streamId : Nat}
    (h : IsAhead streamId deliveries) : streamId ∈ deliveries := by
  obtain ⟨before, after, rfl, _⟩ := h
  exact mem_append_right _ mem_cons_self

theorem isAhead_append {streamId last : Nat} :
    IsAhead streamId (deliveries ++ [last]) ↔ IsAhead streamId deliveries ∨
        streamId = last ∧ ∀ other ∈ deliveries, other < streamId := by
  constructor
  · rintro ⟨before, after, heq, hbefore⟩
    rcases eq_nil_or_concat after with rfl | ⟨after, final, rfl⟩
    · obtain ⟨rfl, hlast⟩ := append_inj' heq rfl
      exact .inr ⟨(singleton_inj.mp hlast).symm, hbefore⟩
    rw [concat_eq_append, ← cons_append, ← append_assoc] at heq
    exact .inl ⟨before, after, (append_inj' heq rfl).1, hbefore⟩
  · rintro (⟨before, after, rfl, hbefore⟩ | ⟨rfl, hall⟩)
    · exact ⟨before, after ++ [last], by simp, hbefore⟩
    · exact ⟨deliveries, [], rfl, hall⟩

namespace Http3Connection

variable {codec : Http3Codec D E V} {c : Http3Connection D E V}

/-! ## Streams an event does not open -/

variable {limit streamId : Nat} {deliveries : List Nat}

theorem deliveredFrom_streamData {data : Bytes} {isEndStream : Bool}
    (hbidirectional : isUnidirectionalStream streamId = false) (hle : limit ≤ streamId) :
    deliveredFrom limit (.streamData streamId data isEndStream) = some streamId :=
  if_pos (by simp [hbidirectional, hle])

/-- A scope that leaves one stream alone. -/
def allBut (streamId : Nat) : Scope :=
  { Scope.any with
    touches := (· ≠ streamId)
    reads := (· ≠ streamId)
    setsDrain := False }

variable {event : Http3Event}

/-- An event that does not open a stream without a record leaves it without
one and reports nothing about it. -/
theorem apply_spares (codec : Http3Codec D E V) (hopened : openedBy event ≠ some streamId)
    (hdrain : event ≠ .beginGracefulDrain) (hnone : c.streams.find? streamId = none) :
    (c.apply codec event).streams.find? streamId = none ∧
      reportsOn streamId (c.apply codec event).outputs = reportsOn streamId c.outputs := by
  have hadmits : c.Admits (allBut streamId) event := by
    refine ⟨fun other => ?_, fun other hother => ?_,
      fun _ _ _ _ => ⟨fun _ _ _ => trivial, fun _ _ _ => trivial,
        fun _ _ _ => trivial, fun _ => trivial⟩, fun _ _ => trivial, fun heq => absurd heq hdrain⟩
    · by_cases hother : other = streamId
      · subst hother
        exact .inr ⟨fun hreads => hreads rfl, hnone⟩
      · exact .inl hother
    have hne : other ≠ streamId := by
      rintro rfl
      exact hopened hother
    exact ⟨hne, hne, trivial, trivial⟩
  have hvia := apply_via codec hadmits
  exact ⟨hvia.absent (fun hne => hne rfl) hnone, hvia.reports fun hne => hne rfl⟩

/-- Everything but the beginning of a drain. -/
def notDraining (rejects : Prop) : Scope :=
  { Scope.any with setsDrain := False, rejects := rejects }

theorem admits_notDraining {rejects : Prop} (hdrain : event ≠ .beginGracefulDrain)
    (hrejects : c.isDraining → deliveredFrom c.rejectedFromStreamId event ≠ none → rejects) :
    c.Admits (notDraining rejects) event where
  covers := fun _ => .inl trivial
  opens := fun _ _ => ⟨trivial, trivial, trivial, trivial⟩
  streamData := by
    rintro streamId data isEndStream rfl
    refine ⟨fun _ _ _ => trivial, fun _ _ _ => trivial,
      fun hbidirectional hdraining hle => hrejects hdraining ?_,
      fun _ => trivial⟩
    rw [deliveredFrom_streamData hbidirectional hle]
    exact Option.some_ne_none _
  flush := fun _ _ => trivial
  drain := fun heq => absurd heq hdrain

/-! ## A stream that is turned away -/

/-- Bytes on a stream at or above the boundary: the first ones above the
mark get the stream turned away, others only give credit back. -/
theorem consumeStreamData_rejected (data : Bytes)
    (isEndStream : Bool) (hopen : c.isUsable ∧ c.isBroken = false)
    (hserver : c.isLocalServer) (hdraining : c.isDraining)
    (hbidirectional : isUnidirectionalStream streamId = false)
    (hboundary : c.rejectedFromStreamId ≤ streamId) (hnone : c.streams.find? streamId = none) :
    c.consumeStreamData codec streamId data isEndStream =
      if c.lastRejectedDrainedStreamId.any (streamId ≤ ·) then
        c.credit streamId data.length
      else
        { c with lastRejectedDrainedStreamId := some streamId
          }.rejectStreamAfterDrain codec streamId data := by
  unfold consumeStreamData consumeRequestStream
  simp [hopen.1, hopen.2, hbidirectional, hserver, hdraining, hnone, hboundary]

/-! ## Before the drain -/

/-- What no drain has touched yet: a request stream above the mark of the
streams taken on is unknown, and none was turned away. -/
structure BeforeDrain (c : Http3Connection D E V) : Prop where
  unseen : ∀ streamId, isUnidirectionalStream streamId = false →
    c.lastProcessedRequestStreamId.all (· < streamId) = true →
      c.streams.find? streamId = none ∧ reportsOn streamId c.outputs = []
  rejected : c.lastRejectedDrainedStreamId = none

theorem consumeStreamData_marks (codec : Http3Codec D E V)
    (data : Bytes) (isEndStream : Bool) (hopen : c.isUsable ∧ c.isBroken = false)
    (hserver : c.isLocalServer) (hdraining : c.isDraining = false)
    (hbidirectional : isUnidirectionalStream streamId = false)
    (hnone : c.streams.find? streamId = none) :
    (c.consumeStreamData codec streamId data
      isEndStream).lastProcessedRequestStreamId.all (· < streamId) = false := by
  unfold consumeStreamData consumeRequestStream
  simp only [hopen.1, hopen.2, hbidirectional, hserver, hdraining, hnone,
    Bool.not_true, Bool.or_self, Bool.or_true, Option.isNone_none,
    Bool.and_false, Bool.false_and, Bool.true_and, if_true, if_false,
    Bool.false_eq_true]
  have hprocessed : ∀ d : Http3Connection D E V,
      d.lastProcessedRequestStreamId.all (· < streamId) = false →
      (d.processRequestStream codec streamId data
        isEndStream).lastProcessedRequestStreamId.all (· < streamId) =
          false := by
    intro d hd
    have hvia : Via .any d (d.processRequestStream codec streamId data isEndStream) :=
      Via.processRequestStream (.refl d) ⟨trivial, trivial, trivial, trivial⟩ _ _
    refine Bool.eq_false_iff.mpr fun hall => ?_
    rw [hvia.kept.processed _ hall] at hd
    cases hd
  refine hprocessed _ ?_
  split
  · simp
  · next hmark => exact Bool.eq_false_iff.mpr hmark

theorem BeforeDrain.next (h : c.BeforeDrain)
    (hserver : c.isLocalServer) (hevent : IsServerEvent event)
    (hdraining : c.isDraining = false) (hdrain : event ≠ .beginGracefulDrain) :
    (c.apply codec event).BeforeDrain := by
  have hkept := (apply_via codec (admits_notDraining (c := c) hdrain
    fun hdraining _ => hdraining)).kept
  constructor
  · intro streamId hbidirectional hall
    obtain ⟨hnone, hreports⟩ := h.unseen streamId hbidirectional (hkept.processed _ hall)
    by_cases hopened : openedBy event = some streamId
    · cases event with
      | streamData _ data isEndStream =>
        cases hopened
        by_cases hopen : c.isUsable ∧ c.isBroken = false
        · have hmarked := consumeStreamData_marks codec data isEndStream
             hopen hserver hdraining hbidirectional hnone
          exact absurd (hall.symm.trans hmarked) (by decide)
        have hclosed : c.apply codec (.streamData streamId data isEndStream) = c := by
          refine if_pos ?_
          simp only [Bool.or_eq_true, Bool.not_eq_true']
          cases husable : c.isUsable with
          | false => exact .inl rfl
          | true =>
            rw [husable] at hopen
            simp only [true_and, Bool.not_eq_false] at hopen
            exact .inr hopen
        rw [hclosed]
        exact ⟨hnone, hreports⟩
      | submitRequestHead _ _ _ | appendRequestBody _ _ _ =>
        exact False.elim hevent
      | _ => exact nomatch hopened
    · obtain ⟨hnone', hreports'⟩ := apply_spares codec hopened hdrain hnone
      exact ⟨hnone', hreports'.trans hreports⟩
  · refine (hkept.rejected ?_).trans h.rejected
    intro hrejects
    rw [hdraining] at hrejects
    cases hrejects

/-! ## After it -/

/-- Where a drained server stands after some deliveries at or above the
boundary. -/
structure Drained (limit : Nat) (deliveries : List Nat)
    (c : Http3Connection D E V) : Prop where
  isLocalServer : c.isLocalServer = true
  isUsable : c.isUsable = true
  isDraining : c.isDraining = true
  boundary : c.rejectedFromStreamId = limit
  mark : ∀ streamId, c.lastRejectedDrainedStreamId.any (streamId ≤ ·) = true ↔
    ∃ other ∈ deliveries, streamId ≤ other
  absent : ∀ streamId, isUnidirectionalStream streamId = false →
    limit ≤ streamId → c.streams.find? streamId = none
  ahead : ∀ streamId, isUnidirectionalStream streamId = false →
    limit ≤ streamId → IsAhead streamId deliveries →
      reportsOn streamId c.outputs = [rejectedByDrain streamId]
  behind : ∀ streamId, isUnidirectionalStream streamId = false →
    limit ≤ streamId → ¬ IsAhead streamId deliveries → reportsOn streamId c.outputs = []

theorem beginGracefulDrain_via (hopen : c.isUsable ∧ c.isBroken = false)
    (hdraining : c.isDraining = false) :
    Via noStream
      { c with
        isDraining := true
        rejectedFromStreamId := (c.lastProcessedRequestStreamId.map
          (· + kClientBidirectionalStreamIdStep)).getD 0 }
      c.beginGracefulDrain.2 := by
  unfold beginGracefulDrain
  rw [if_neg (by simp [hopen.1]), if_neg (by simp [hopen.2]), if_neg (by simp [hdraining])]
  exact (Via.refl _).queueOutboundBytes _ _ _

theorem beginGracefulDrain_of_notDraining (h : c.beginGracefulDrain.2.isDraining = false) :
    c.beginGracefulDrain.2 = c := by
  by_cases hopen : c.isUsable ∧ c.isBroken = false
  · cases hdraining : c.isDraining with
    | false =>
      have hkept := (beginGracefulDrain_via hopen hdraining).kept
      exact nomatch (hkept.drain id).1.symm.trans h
    | true =>
      unfold beginGracefulDrain
      simp only [hopen.1, hopen.2, hdraining, Bool.not_true, Bool.false_eq_true, if_false, if_true]
  · unfold beginGracefulDrain
    cases husable : c.isUsable with
    | false => rfl
    | true =>
      have hbroken : c.isBroken := by simpa [husable] using hopen
      simp only [hbroken, Bool.not_true, Bool.false_eq_true, if_false, if_true]

/-- The drain begins with nothing turned away and nothing known above the
boundary. -/
theorem BeforeDrain.beginGracefulDrain (h : c.BeforeDrain) (hserver : c.isLocalServer)
    (hopen : c.isUsable ∧ c.isBroken = false) (hdraining : c.isDraining = false) :
    Drained c.beginGracefulDrain.2.rejectedFromStreamId []
      c.beginGracefulDrain.2 := by
  have hquiet := beginGracefulDrain_via hopen hdraining
  have hkept := hquiet.kept
  have hboundary := (hkept.drain id).2
  have hunseen : ∀ streamId, isUnidirectionalStream streamId = false →
      c.beginGracefulDrain.2.rejectedFromStreamId ≤ streamId →
        c.streams.find? streamId = none ∧ reportsOn streamId c.outputs = [] := by
    intro streamId hbidirectional hle
    refine h.unseen streamId hbidirectional ?_
    rw [hboundary] at hle
    cases hlast : c.lastProcessedRequestStreamId with
    | none => rfl
    | some last =>
      simp only [hlast, Option.map_some, Option.getD_some, kClientBidirectionalStreamIdStep] at hle
      simp only [Option.all_some, decide_eq_true_eq]
      omega
  have hnotAhead : ∀ streamId, ¬ IsAhead streamId [] := fun _ hahead => nomatch hahead.mem
  constructor
  · rw [isLocalServer, hkept.configuration]
    exact hserver
  · exact hkept.isUsable.trans hopen.1
  · exact (hkept.drain id).1
  · rfl
  · intro streamId
    rw [hkept.rejected id]
    simp only [h.rejected, Option.any_none, Bool.false_eq_true, false_iff]
    rintro ⟨other, hmem, _⟩
    cases hmem
  · intro streamId hbidirectional hle
    exact (hquiet.quiet_record streamId).trans (hunseen streamId hbidirectional hle).1
  · exact fun streamId _ _ hahead => absurd hahead (hnotAhead streamId)
  · intro streamId hbidirectional hle _
    exact (hquiet.quiet_reports streamId).trans (hunseen streamId hbidirectional hle).2

theorem Drained.quiet {limit : Nat} {c' : Http3Connection D E V} (h : Drained limit deliveries c)
    (hquiet : Via noStream c c') : Drained limit deliveries c' where
  isLocalServer := hquiet.kept.isLocalServer.trans h.isLocalServer
  isUsable := hquiet.kept.isUsable.trans h.isUsable
  isDraining := ((hquiet.kept.drain id).1).trans h.isDraining
  boundary := ((hquiet.kept.drain id).2).trans h.boundary
  mark := by
    rw [hquiet.kept.rejected id]
    exact h.mark
  absent := fun streamId hbidirectional hle =>
    (hquiet.quiet_record streamId).trans (h.absent streamId hbidirectional hle)
  ahead := fun streamId hbidirectional hle hahead =>
    (hquiet.quiet_reports streamId).trans (h.ahead streamId hbidirectional hle hahead)
  behind := fun streamId hbidirectional hle hbehind =>
    (hquiet.quiet_reports streamId).trans (h.behind streamId hbidirectional hle hbehind)

theorem Drained.covered {other : Nat} (h : Drained limit deliveries c) (hother : other ∈ deliveries)
    (hle : streamId ≤ other) : Drained limit (deliveries ++ [streamId]) c := by
  have hsame : ∀ id, IsAhead id (deliveries ++ [streamId]) ↔ IsAhead id deliveries := by
    intro id
    rw [isAhead_append, or_iff_left_iff_imp]
    rintro ⟨rfl, hall⟩
    exact absurd (hall other hother) (by omega)
  refine ⟨h.isLocalServer, h.isUsable, h.isDraining, h.boundary, fun id => ?_,
    h.absent, fun id hid hlimit hahead => ?_,
    fun id hid hlimit hbehind => ?_⟩
  · rw [h.mark id]
    constructor
    · exact fun ⟨first, hfirst, hless⟩ =>
        ⟨first, mem_append_left _ hfirst, hless⟩
    rintro ⟨first, hfirst, hless⟩
    rcases mem_append.mp hfirst with hfirst | hfirst
    · exact ⟨first, hfirst, hless⟩
    · rw [mem_singleton.mp hfirst] at hless
      exact ⟨other, hother, hless.trans hle⟩
  · exact h.ahead id hid hlimit ((hsame id).mp hahead)
  · exact h.behind id hid hlimit fun hold => hbehind ((hsame id).mpr hold)

theorem Drained.turnAway (h : Drained limit deliveries c)
    (hbidirectional : isUnidirectionalStream streamId = false)
    (hle : limit ≤ streamId) (hmark : ∀ other ∈ deliveries, other < streamId) (data : Bytes) :
    Drained limit (deliveries ++ [streamId])
      ({ c with lastRejectedDrainedStreamId := some streamId
        }.rejectStreamAfterDrain codec streamId data) := by
  let onlyThis : Scope :=
    { touches := (· = streamId), reads := (· = streamId),
      credits := fun _ => True }
  have hvia : Via onlyThis { c with lastRejectedDrainedStreamId := some streamId }
      ({ c with lastRejectedDrainedStreamId := some streamId
        }.rejectStreamAfterDrain codec streamId data) :=
    (Via.refl _).rejectStreamAfterDrain ⟨rfl, rfl, rfl, trivial⟩ data
  have hself := rejectStreamAfterDrain_self codec
    { c with lastRejectedDrainedStreamId := some streamId } streamId data
  have hkept := hvia.kept
  have hfresh : reportsOn streamId c.outputs = [] :=
    h.behind streamId hbidirectional hle fun hahead =>
      absurd (hmark streamId hahead.mem) (lt_irrefl _)
  have hothers : ∀ id, id ≠ streamId →
      (IsAhead id (deliveries ++ [streamId]) ↔ IsAhead id deliveries) := by
    intro id hne
    rw [isAhead_append, or_iff_left_iff_imp]
    exact fun ⟨heq, _⟩ => absurd heq hne
  refine ⟨hkept.isLocalServer.trans h.isLocalServer,
    hkept.isUsable.trans h.isUsable, ((hkept.drain id).1).trans h.isDraining,
    ((hkept.drain id).2).trans h.boundary, fun id => ?_,
    fun id hid hlimit => ?_, fun id hid hlimit hahead => ?_,
    fun id hid hlimit hbehind => ?_⟩
  · rw [hkept.rejected fun hno => hno]
    simp only [Option.any_some, decide_eq_true_eq]
    constructor
    · exact fun hless =>
        ⟨streamId, mem_append_right _ mem_cons_self, hless⟩
    rintro ⟨other, hother, hless⟩
    rcases mem_append.mp hother with hother | hother
    · exact hless.trans (hmark other hother).le
    · rwa [mem_singleton.mp hother] at hless
  · by_cases hne : id = streamId
    · subst hne
      exact hself.1
    · exact (hvia.record hne hne).trans (h.absent id hid hlimit)
  · by_cases hne : id = streamId
    · subst hne
      rw [hself.2]
      exact congrArg (· ++ _) hfresh
    · exact (hvia.reports hne).trans (h.ahead id hid hlimit ((hothers id hne).mp hahead))
  · by_cases hne : id = streamId
    · subst hne
      exact absurd (isAhead_append.mpr (.inr ⟨rfl, hmark⟩)) hbehind
    · exact (hvia.reports hne).trans
        (h.behind id hid hlimit fun hold => hbehind ((hothers id hne).mpr hold))

theorem Drained.deliver (h : Drained limit deliveries c) (hopen : c.isBroken = false)
    (hbidirectional : isUnidirectionalStream streamId = false)
    (hle : limit ≤ streamId) (data : Bytes) (isEndStream : Bool) :
    Drained limit (deliveries ++ [streamId])
      (c.consumeStreamData codec streamId data isEndStream) := by
  rw [consumeStreamData_rejected data isEndStream ⟨h.isUsable, hopen⟩
    h.isLocalServer h.isDraining hbidirectional (h.boundary ▸ hle)
    (h.absent streamId hbidirectional hle)]
  split
  · next hmark =>
    obtain ⟨other, hother, hbelow⟩ := (h.mark streamId).mp hmark
    exact (h.quiet ((Via.refl c).credit trivial _)).covered hother hbelow
  rename_i hmark
  refine h.turnAway hbidirectional hle (fun other hother => ?_) data
  refine lt_of_not_ge fun hbelow => hmark ?_
  exact (h.mark streamId).mpr ⟨other, hother, hbelow⟩

theorem Drained.other (h : Drained limit deliveries c) (hevent : IsServerEvent event)
    (hdelivered : deliveredFrom limit event = none) :
    Drained limit deliveries (c.apply codec event) := by
  by_cases hdrain : event = .beginGracefulDrain
  · subst hdrain
    have hsame : c.apply codec .beginGracefulDrain = c := by
      simp only [apply, beginGracefulDrain, h.isUsable, h.isDraining,
        Bool.not_true, Bool.false_eq_true, if_false, if_true]
      split
      · rfl
      · rfl
    rw [hsame]
    exact h
  have hadmits : c.Admits (notDraining False) event := admits_notDraining hdrain fun _ hsome =>
      hsome (h.boundary ▸ hdelivered)
  have hkept := (apply_via codec hadmits).kept
  have hspares : ∀ streamId, isUnidirectionalStream streamId = false → limit ≤ streamId →
      (c.apply codec event).streams.find? streamId = none ∧
        reportsOn streamId (c.apply codec event).outputs = reportsOn streamId c.outputs := by
    intro streamId hbidirectional hle
    refine apply_spares codec (fun hopened => ?_) hdrain (h.absent streamId hbidirectional hle)
    cases event with
    | streamData _ data isEndStream =>
      cases hopened
      rw [deliveredFrom_streamData hbidirectional hle] at hdelivered
      cases hdelivered
    | submitRequestHead _ _ _ | appendRequestBody _ _ _ => exact hevent
    | _ => exact nomatch hopened
  refine ⟨hkept.isLocalServer.trans h.isLocalServer, hkept.isUsable.trans h.isUsable,
    ((hkept.drain id).1).trans h.isDraining,
    ((hkept.drain id).2).trans h.boundary, ?_,
    fun streamId hbidirectional hle =>
      (hspares streamId hbidirectional hle).1,
    fun streamId hbidirectional hle hahead =>
      (hspares streamId hbidirectional hle).2.trans (h.ahead streamId hbidirectional hle hahead),
    fun streamId hbidirectional hle hbehind =>
      (hspares streamId hbidirectional hle).2.trans (h.behind streamId hbidirectional hle hbehind)⟩
  rw [hkept.rejected id]
  exact h.mark

/-! ## Runs -/

/-- The states of the runs of a server. -/
def ServerReachable (codec : Http3Codec D E V)
    (configuration : Http3Configuration) (accepted : List Nat) :
    Http3Connection D E V → Prop :=
  Reach (apply codec) (fun _ event => IsServerEvent event) (start codec configuration accepted)

theorem ServerReachable.beforeDrain {configuration : Http3Configuration}
    {accepted : List Nat} (hserver : configuration.isLocalServer)
    (h : ServerReachable codec configuration accepted c) :
    c.isLocalServer ∧ (c.isDraining = false → c.BeforeDrain) := by
  refine Reach.invariant (P := fun c => c.isLocalServer ∧
    (c.isDraining = false → c.BeforeDrain)) h ?_ ?_
  · let quietStart : Scope := { touches := fun _ => False, offers := True }
    have hvia : Via quietStart (blank codec configuration) (start codec configuration accepted) :=
      start_via codec configuration accepted (fun _ => .inr ⟨id, rfl⟩) trivial
    refine ⟨hvia.kept.isLocalServer.trans hserver, fun _ => ⟨fun id _ _ => ?_,
      hvia.kept.rejected fun hno => hno⟩⟩
    exact ⟨(hvia.record (fun hno => hno) fun hno => hno).trans rfl,
      (hvia.reports fun hno => hno).trans rfl⟩
  rintro c event ⟨hlocal, hbefore⟩ hevent
  have hkept := (apply_via codec (.any c event)).kept
  refine ⟨hkept.isLocalServer.trans hlocal, fun hdraining => ?_⟩
  by_cases hdrain : event = .beginGracefulDrain
  · subst hdrain
    have hsame : c.beginGracefulDrain.2 = c := beginGracefulDrain_of_notDraining hdraining
    rw [apply, hsame] at hdraining ⊢
    exact hbefore hdraining
  · have hsame := (apply_via codec (admits_notDraining (c := c) hdrain
      fun hdraining _ => hdraining)).kept.drain id
    exact (hbefore (hsame.1.symm.trans hdraining)).next hlocal hevent
      (hsame.1.symm.trans hdraining) hdrain

/-! ## Every delivery -/

/-- A request stream at or above the boundary that brings bytes. -/
def DeliversBytes (limit : Nat) (later : List Http3Event) (streamId : Nat) :
    Prop :=
  isUnidirectionalStream streamId = false ∧ limit ≤ streamId ∧ ∃ data isEndStream, data ≠ [] ∧
      .streamData streamId data isEndStream ∈ later

/-- What the boundary is to mean for the calls after the GOAWAY. -/
structure BoundaryHolds (codec : Http3Codec D E V) (limit : Nat)
    (later : List Http3Event) (c : Http3Connection D E V) : Prop where
  /-- The application hears of no request from the boundary on. -/
  undelivered : ∀ streamId, isUnidirectionalStream streamId = false →
    limit ≤ streamId → ∀ output ∈ reportsOn streamId c.outputs, output = rejectedByDrain streamId
  /-- Below it bytes are handled as without a drain. -/
  asUsual : ∀ streamId, isUnidirectionalStream streamId = false →
    streamId < limit → ∀ data isEndStream isDraining,
      (c.withDraining isDraining).consumeStreamData codec streamId data isEndStream =
        (c.consumeStreamData codec streamId data isEndStream).withDraining isDraining
  /-- A stream that brings bytes is turned away, and once. -/
  cancelledOnce : ∀ streamId, DeliversBytes limit later streamId →
    (reportsOn streamId c.outputs).count (rejectedByDrain streamId) = 1

/-- The deliveries at or above the boundary that a live connection gets. -/
def deliveriesFrom (codec : Http3Codec D E V) (limit : Nat) :
    Http3Connection D E V → List Http3Event → List Nat
  | _, [] => []
  | c, event :: later =>
    (if c.isBroken then none else deliveredFrom limit event).toList ++
      deliveriesFrom codec limit (c.apply codec event) later

theorem Drained.run {later : List Http3Event} (h : Drained limit deliveries c)
    (hlater : ∀ event ∈ later, IsServerEvent event) :
    Drained limit (deliveries ++ deliveriesFrom codec limit c later)
      (later.foldl (apply codec) c) := by
  induction later generalizing c deliveries with
  | nil =>
    rw [deliveriesFrom, append_nil]
    exact h
  | cons event later ih =>
    have hnext : Drained limit (deliveries ++
        (if c.isBroken then none else deliveredFrom limit event).toList)
        (c.apply codec event) := by
      cases hdelivered : deliveredFrom limit event with
      | none =>
        rw [ite_self, Option.toList_none, append_nil]
        exact h.other (hlater event mem_cons_self) hdelivered
      | some streamId =>
        cases event with
        | streamData id data isEndStream =>
          simp only [deliveredFrom, Bool.and_eq_true, Bool.not_eq_true',
            decide_eq_true_eq, Option.ite_none_right_eq_some,
            Option.some.injEq] at hdelivered
          obtain ⟨⟨hbidirectional, hle⟩, rfl⟩ := hdelivered
          cases hbroken : c.isBroken with
          | true =>
            have hsame : c.apply codec (.streamData id data isEndStream) = c :=
              if_pos (by rw [hbroken, Bool.or_true])
            rw [hsame, if_pos rfl, Option.toList_none, append_nil]
            exact h
          | false =>
            exact h.deliver hbroken hbidirectional hle data isEndStream
        | _ => exact nomatch hdelivered
    rw [deliveriesFrom, ← append_assoc]
    exact ih hnext fun other hmem => hlater other (mem_cons_of_mem _ hmem)

theorem Drained.boundaryHolds (h : Drained limit deliveries c) (later : List Http3Event) :
    BoundaryHolds codec limit later c ↔ ∀ streamId, DeliversBytes limit later streamId →
        IsAhead streamId deliveries := by
  constructor
  · intro hholds streamId hdelivers
    by_contra hbehind
    have hcount := hholds.cancelledOnce streamId hdelivers
    rw [h.behind streamId hdelivers.1 hdelivers.2.1 hbehind] at hcount
    cases hcount
  intro hahead
  refine ⟨fun streamId hbidirectional hle output hmem => ?_,
    fun streamId hbidirectional hbelow data isEndStream isDraining => ?_,
    fun streamId hdelivers => ?_⟩
  · by_cases hfirst : IsAhead streamId deliveries
    · rw [h.ahead streamId hbidirectional hle hfirst] at hmem
      exact mem_singleton.mp hmem
    · rw [h.behind streamId hbidirectional hle hfirst] at hmem
      cases hmem
  · refine consumeStreamData_withDraining codec c isDraining data isEndStream hbidirectional ?_
    rwa [h.boundary]
  · rw [h.ahead streamId hdelivers.1 hdelivers.2.1 (hahead _ hdelivers)]
    exact count_singleton_self

/-- After the GOAWAY the boundary holds exactly if every request stream that
brings bytes at or above it comes, on the live connection, before every
higher one. -/
theorem ServerReachable.boundary_holds {configuration : Http3Configuration}
    {accepted : List Nat} (hserver : configuration.isLocalServer = true)
    (h : ServerReachable codec configuration accepted c)
    (hopen : c.isUsable = true ∧ c.isBroken = false)
    (hdraining : c.isDraining = false) (later : List Http3Event)
    (hlater : ∀ event ∈ later, IsServerEvent event) :
    BoundaryHolds codec c.beginGracefulDrain.2.rejectedFromStreamId later
        (later.foldl (apply codec) c.beginGracefulDrain.2) ↔
      ∀ streamId, DeliversBytes c.beginGracefulDrain.2.rejectedFromStreamId later streamId →
        IsAhead streamId (deliveriesFrom codec c.beginGracefulDrain.2.rejectedFromStreamId
          c.beginGracefulDrain.2 later) := by
  obtain ⟨hlocal, hbefore⟩ := h.beforeDrain hserver
  have hdrained := (hbefore hdraining).beginGracefulDrain hlocal hopen hdraining
  have hrun : Drained _ _ (later.foldl (apply codec) c.beginGracefulDrain.2) := hdrained.run hlater
  exact hrun.boundaryHolds later

/-- Stream 8 is turned away first; its mark then covers stream 4, which
brings its first byte later and is never turned away. -/
theorem boundary_lost_below_the_mark :
    let drained := (start plainCodec plainServer []).beginGracefulDrain.2
    let later : List Http3Event := [.streamData 8 [0x00] false, .streamData 4 [0x00] false]
    let final := later.foldl (apply plainCodec) drained
    drained.rejectedFromStreamId = 0 ∧ final.isBroken = false ∧
      reportsOn 8 final.outputs = [rejectedByDrain 8] ∧
      reportsOn 4 final.outputs = [] ∧
      ¬ BoundaryHolds plainCodec 0 later final := by
  refine ⟨by decide +kernel, by decide +kernel, by decide +kernel,
    by decide +kernel, fun hholds => ?_⟩
  have hcount := hholds.cancelledOnce 4 ⟨rfl, by decide, [0x00], false, by decide, by decide⟩
  exact absurd hcount (by decide +kernel)

/-- In the order of their numbers both are turned away, once. -/
theorem boundary_holds_in_order :
    let drained := (start plainCodec plainServer []).beginGracefulDrain.2
    let later : List Http3Event :=
      [.streamData 4 [0x00] false, .streamData 8 [0x00] false, .streamData 4 [0x01] true]
    BoundaryHolds plainCodec drained.rejectedFromStreamId later
      (later.foldl (apply plainCodec) drained) := by
  intro drained later
  have hopen : (start plainCodec plainServer []).isUsable = true ∧
      (start plainCodec plainServer []).isBroken = false := by
    decide +kernel
  have hlater : ∀ event ∈ later, IsServerEvent event := by
    simp [later, IsServerEvent]
  have hrun : deliveriesFrom plainCodec drained.rejectedFromStreamId drained later = [4, 8, 4] := by
    decide +kernel
  have hstart : ServerReachable plainCodec plainServer []
      (start plainCodec plainServer []) := .start
  refine (ServerReachable.boundary_holds rfl hstart hopen (by decide +kernel) later hlater).mpr ?_
  rintro streamId ⟨_, _, data, isEndStream, _, hmem⟩
  have hstream : streamId = 4 ∨ streamId = 8 := by
    simp only [later, mem_cons, Http3Event.streamData.injEq, not_mem_nil, or_false] at hmem
    omega
  rcases hstream with rfl | rfl
  · exact ⟨[], [8, 4], rfl, fun _ hmem => nomatch hmem⟩
  · exact ⟨[4], [4], rfl, by simp⟩

end Http3Connection

end AsynGyanis.Http3
