import AsynGyanis.Http3.Effects
import AsynGyanis.Http3.HeaderValidation

/-!
# Submissions that are refused

The application submits a message section by section, and every section goes
through the validator its stream keeps for the message. A section that is
refused puts nothing into a buffer. But the validator is not put back: what
the fields before the violation had noted stays noted, and a head that is
refused at its end, or by the encoder, counts as the head of the message.
A refused request also leaves a record behind where its stream had none.

`refused_submission` says which refused submissions leave nothing, and that
after those every later one is answered as if they had not been made.
-/

namespace AsynGyanis.Http3

open Quic Library
open Http (asciiText equalsIgnoringCase
  containsOnlyFieldValueCharacters)

variable {D E V : Type}

/-! ## What a violation leaves in the validator -/

namespace Http3HeaderValidator

/-- A regular field counts as seen once its name and value are well-formed,
whatever is found wrong with it then. -/
def afterRefusedField (v : Http3HeaderValidator) (field : QpackHeaderField) :
    Http3HeaderValidator :=
  if field.name ≠ [] ∧ field.name.head? ≠ some 0x3A ∧ validateFieldName field.name = none ∧
      containsOnlyFieldValueCharacters field.value then
    { v with sawRegularField := true }
  else v

/-- The message of a violation, and the validator in either case. -/
def verdict (refused : Http3HeaderValidator) : Status → Option String × Http3HeaderValidator
  | .ok v => (none, v)
  | .error error => (some error.message, refused)

/-- What the next section finds: `beginHeaderBlock` sets the other marks. -/
def lasting (v : Http3HeaderValidator) : Http3HeaderValidator :=
  { v with isTrailersSection := false, sawRegularField := false }

/-- Whether a field, once it is accepted, is noted for the whole message. -/
def notes (v : Http3HeaderValidator) (field : QpackHeaderField) : Bool :=
  field.name.head? == some 0x3A ||
    (equalsIgnoringCase field.name (asciiText "host") && !v.hasHostHeader) ||
    (equalsIgnoringCase field.name (asciiText "content-length") && v.contentLengthByteCount.isNone)

/-- Whether anything is noted before a field of a head is refused. The end
of a head, when no field is, notes that there was one. -/
def notesBeforeRefusal (v : Http3HeaderValidator) : List QpackHeaderField → Bool
  | [] => true
  | field :: rest =>
    match v.onHeaderField field with
    | .error _ => false
    | .ok w => v.notes field || w.notesBeforeRefusal rest

end Http3HeaderValidator

open Http3HeaderValidator

open Http3HeaderValidator in
/-- A codec with the rules of `Http3HeaderValidator`. -/
def Http3Codec.withHeaderRules (codec : Http3Codec D E V) : Http3Codec D E Http3HeaderValidator :=
  { codec with
    newValidator := fun messageKind isExtendedConnectPermitted =>
      { messageKind, isExtendedConnectPermitted }
    beginHeaderBlock := fun v isTrailers =>
      v.verdict (v.beginHeaderBlock isTrailers)
    onHeaderField := fun v field =>
      (v.afterRefusedField field).verdict (v.onHeaderField field)
    endHeaderBlock := fun v =>
      { v with isHeadSectionDone := true }.verdict v.endHeaderBlock
    contentLengthByteCount := (·.contentLengthByteCount) }

namespace Http3HeaderValidator

/-- How much has been noted. -/
def noted (v : Http3HeaderValidator) : Nat := v.isHeadSectionDone.toNat + v.hasHostHeader.toNat +
    v.statusCode.isSome.toNat + v.contentLengthByteCount.isSome.toNat +
    (decide (v.methodText ≠ [])).toNat + (decide (v.pathText ≠ [])).toNat +
    (decide (v.authorityText ≠ [])).toNat +
    (decide (v.schemeText ≠ [])).toNat + (decide (v.protocolText ≠ [])).toNat

theorem noted_of_lasting {v w : Http3HeaderValidator}
    (h : w.lasting = v.lasting) : w.noted = v.noted := by
  show w.lasting.noted = v.lasting.noted
  rw [h]

/-- What an accepted field does to a validator: it is noted, in a head, or
it leaves nothing for the next section. -/
inductive Accepts (v w : Http3HeaderValidator) : (isNoted : Bool) → Prop
  | noted : w.isTrailersSection = v.isTrailersSection →
      w.isHeadSectionDone = v.isHeadSectionDone → v.noted < w.noted →
      Accepts v w true
  | left : w.isTrailersSection = v.isTrailersSection → w.lasting = v.lasting → Accepts v w false

variable {v w : Http3HeaderValidator} {field : QpackHeaderField}
  {name value : Bytes}

theorem of_refused_if {p : Prop} {_ : Decidable p}
    {kind : Http3HeaderErrorKind} {text : String} {status : Status}
    (h : (if p then makeHeaderError kind text else status) = .ok w) : ¬ p ∧ status = .ok w := by
  split at h
  · cases h
  · next hp => exact ⟨hp, h⟩

theorem onStatusHeader_accepts (h : v.onStatusHeader value = .ok w) : Accepts v w true := by
  obtain ⟨hnone, h⟩ := of_refused_if h
  split at h
  · obtain ⟨_, h⟩ := of_refused_if h
    cases h
    exact .noted rfl rfl (by simp [noted, hnone])
  · cases h

theorem onMethodHeader_accepts (h : v.onMethodHeader value = .ok w) : Accepts v w true := by
  obtain ⟨hold, h⟩ := of_refused_if h
  obtain ⟨hvalue, h⟩ := of_refused_if h
  obtain ⟨_, h⟩ := of_refused_if h
  cases h
  exact .noted rfl rfl (by
    simp [noted, not_not.mp hold, hvalue])

theorem onSchemeHeader_accepts (h : v.onSchemeHeader value = .ok w) : Accepts v w true := by
  obtain ⟨hold, h⟩ := of_refused_if h
  obtain ⟨hscheme, h⟩ := of_refused_if h
  cases h
  have hvalue : value ≠ [] := by
    rintro rfl
    exact hscheme rfl
  exact .noted rfl rfl (by
    simp [noted, not_not.mp hold, hvalue])

theorem onAuthorityHeader_accepts (h : v.onAuthorityHeader value = .ok w) : Accepts v w true := by
  obtain ⟨hold, h⟩ := of_refused_if h
  obtain ⟨hvalue, h⟩ := of_refused_if h
  split at h
  · cases h
  cases h
  exact .noted rfl rfl (by
    simp [noted, not_not.mp hold, hvalue])

theorem onPathHeader_accepts (h : v.onPathHeader value = .ok w) : Accepts v w true := by
  obtain ⟨hold, h⟩ := of_refused_if h
  obtain ⟨hvalue, h⟩ := of_refused_if h
  obtain ⟨_, h⟩ := of_refused_if h
  obtain ⟨_, h⟩ := of_refused_if h
  cases h
  exact .noted rfl rfl (by
    simp [noted, not_not.mp hold, hvalue])

theorem onProtocolHeader_accepts (h : v.onProtocolHeader value = .ok w) : Accepts v w true := by
  obtain ⟨_, h⟩ := of_refused_if h
  obtain ⟨hold, h⟩ := of_refused_if h
  obtain ⟨hvalue, h⟩ := of_refused_if h
  obtain ⟨_, h⟩ := of_refused_if h
  cases h
  exact .noted rfl rfl (by
    simp [noted, not_not.mp hold, hvalue])

theorem onPseudoHeader_accepts (h : v.onPseudoHeader name value = .ok w) :
    v.isTrailersSection = false ∧ Accepts v w true := by
  obtain ⟨hhead, h⟩ := of_refused_if h
  refine ⟨Bool.not_eq_true _ ▸ hhead, ?_⟩
  obtain ⟨_, h⟩ := of_refused_if h
  obtain ⟨_, h⟩ := of_refused_if h
  obtain ⟨_, h⟩ := of_refused_if h
  obtain ⟨_, h⟩ := of_refused_if h
  unfold placePseudoHeader at h
  split at h
  · exact onStatusHeader_accepts (of_refused_if h).2
  split at h
  · exact onMethodHeader_accepts h
  split at h
  · exact onSchemeHeader_accepts h
  split at h
  · exact onAuthorityHeader_accepts h
  split at h
  · exact onPathHeader_accepts h
  split at h
  · exact onProtocolHeader_accepts h
  · cases h

theorem onHostField_accepts (h : v.onHostField value = .ok w) : Accepts v w (!v.hasHostHeader) := by
  obtain ⟨hsame, h⟩ := of_refused_if h
  obtain ⟨_, h⟩ := of_refused_if h
  split at h
  · cases h
  cases h
  cases hhost : v.hasHostHeader with
  | false =>
    exact .noted rfl rfl (by simp [noted, hhost])
  | true =>
    have htext : v.hostText = value := by simpa [hhost] using hsame
    exact .left rfl (by simp [lasting, hhost, htext])

theorem onContentLengthField_accepts (h : v.onContentLengthField value = .ok w) :
    Accepts v w v.contentLengthByteCount.isNone := by
  unfold onContentLengthField at h
  split at h
  · cases h
  rename_i declaredLength hparsed
  obtain ⟨hsame, h⟩ := of_refused_if h
  cases h
  cases hold : v.contentLengthByteCount with
  | none =>
    exact .noted rfl rfl (by simp [noted, hold])
  | some length =>
    have hlength : length = declaredLength := by
      simpa [hold] using hsame
    exact .left rfl (by simp [lasting, hold, hlength])

theorem equalsIgnoringCase_other {other : Bytes} (h : equalsIgnoringCase name value)
    (hother : equalsIgnoringCase value other = false) :
    equalsIgnoringCase name other = false := by
  unfold equalsIgnoringCase at h hother ⊢
  rw [of_decide_eq_true h]
  exact hother

theorem onNamedField_accepts (h : v.onNamedField name value = .ok w) :
    ∃ isNoted, Accepts v w isNoted ∧
      isNoted = (equalsIgnoringCase name (asciiText "host") && !v.hasHostHeader ||
        equalsIgnoringCase name (asciiText "content-length") && v.contentLengthByteCount.isNone) ∧
      (v.isTrailersSection → isNoted = false) := by
  unfold onNamedField at h
  split at h
  · next hte =>
    cases (of_refused_if h).2
    refine ⟨false, .left rfl rfl, ?_, fun _ => rfl⟩
    rw [equalsIgnoringCase_other hte rfl, equalsIgnoringCase_other hte rfl]
    rfl
  obtain ⟨_, h⟩ := of_refused_if h
  obtain ⟨hallowed, h⟩ := of_refused_if h
  split at h
  · next hhost =>
    refine ⟨_, onHostField_accepts h, ?_, fun htrailers => ?_⟩
    · rw [hhost, equalsIgnoringCase_other hhost rfl]
      simp
    · simp [hhost, htrailers] at hallowed
  rename_i hhost
  rw [Bool.not_eq_true] at hhost
  split at h
  · next hlength =>
    refine ⟨_, onContentLengthField_accepts h, ?_, fun htrailers => ?_⟩
    · rw [hlength, hhost]
      simp
    · simp [hlength, htrailers] at hallowed
  rename_i hlength
  rw [Bool.not_eq_true] at hlength
  cases h
  refine ⟨false, .left rfl rfl, ?_, fun _ => rfl⟩
  rw [hlength, hhost]
  rfl

/-- An accepted field is noted when `notes` says so, and in a trailer
section no accepted field is. -/
theorem onHeaderField_accepts (h : v.onHeaderField field = .ok w) :
    Accepts v w (v.notes field) ∧ (v.isTrailersSection → v.notes field = false) := by
  unfold onHeaderField at h
  split at h
  · cases h
  rename_i front name hname
  split at h
  · next hcolon =>
    obtain ⟨hhead, haccepts⟩ := onPseudoHeader_accepts h
    have hnotes : v.notes field := by simp [notes, hname, hcolon]
    rw [hnotes, hhead]
    exact ⟨haccepts, nofun⟩
  rename_i hregular
  unfold onRegularField at h
  split at h
  · cases h
  obtain ⟨isNoted, haccepts, hnoted, htrailers⟩ := onNamedField_accepts (of_refused_if h).2
  have hcolon : (field.name.head? == some 0x3A) = false := by
    simp [hname, hregular]
  have hnotes : v.notes field = isNoted := by
    rw [hnoted, notes, hcolon, Bool.false_or]
  rw [hnotes]
  refine ⟨?_, htrailers⟩
  cases haccepts with
  | noted hsection hdone hmore => exact .noted hsection hdone hmore
  | left hsection hleft => exact .left hsection hleft

/-- Whatever it finds, the end of a head notes that there was one. -/
theorem endHeaderBlock_verdict (hhead : v.isTrailersSection = false) :
    (verdict { v with isHeadSectionDone := true } v.endHeaderBlock).2 =
      { v with isHeadSectionDone := true } := by
  have hend : ∀ {u w : Http3HeaderValidator}, u.endRequest = .ok w → w = u := by
    intro u w h
    unfold endRequest endConnectRequest endAuthority at h
    dsimp only at h
    repeat' split at h
    all_goals first
      | (cases h; rfl)
      | cases h
  cases hstatus : v.endHeaderBlock with
  | error error => rfl
  | ok w =>
    show w = _
    unfold endHeaderBlock at hstatus
    rw [if_neg (by rw [hhead]; exact Bool.false_ne_true)] at hstatus
    split at hstatus
    · split at hstatus
      · cases hstatus
      · cases hstatus
        rfl
    · exact hend hstatus

theorem afterRefusedField_lasting (field : QpackHeaderField) :
    (v.afterRefusedField field).lasting = v.lasting := by
  unfold afterRefusedField
  split
  · rfl
  · rfl

end Http3HeaderValidator

/-! ## What is left of a section -/

section Judged

open Http3HeaderValidator

variable (codec : Http3Codec D E V) {v w : Http3HeaderValidator}

open Http3Connection

theorem judgeFields_head (fields : List QpackHeaderField) (hhead : v.isTrailersSection = false)
    (hfirst : v.isHeadSectionDone = false) :
    if v.notesBeforeRefusal fields then
      v.noted < (judgeFields codec.withHeaderRules v fields).2.noted
    else (judgeFields codec.withHeaderRules v fields).2.lasting = v.lasting := by
  induction fields generalizing v with
  | nil =>
    show v.noted < (verdict _ v.endHeaderBlock).2.noted
    rw [endHeaderBlock_verdict hhead]
    simp [noted, hfirst]
  | cons field rest ih =>
    unfold judgeFields notesBeforeRefusal
    have hcall : codec.withHeaderRules.onHeaderField v field =
        (v.afterRefusedField field).verdict (v.onHeaderField field) := rfl
    rw [hcall]
    cases hfield : v.onHeaderField field with
    | error error =>
      exact afterRefusedField_lasting field
    | ok w =>
      obtain ⟨haccepts, _⟩ := onHeaderField_accepts hfield
      show if (v.notes field || w.notesBeforeRefusal rest) = true then
          v.noted < (judgeFields codec.withHeaderRules w rest).2.noted
        else (judgeFields codec.withHeaderRules w rest).2.lasting = v.lasting
      generalize v.notes field = isNoted at haccepts
      cases haccepts with
      | noted hsection hdone hmore =>
        have hrest := ih (hsection.trans hhead) (hdone.trans hfirst)
        split at hrest
        · exact lt_trans hmore hrest
        · rw [noted_of_lasting hrest]
          exact hmore
      | left hsection hleft =>
        have hrest := ih (hsection.trans hhead) ((congrArg isHeadSectionDone hleft).trans hfirst)
        rw [Bool.false_or, ← noted_of_lasting hleft, ← hleft]
        exact hrest

theorem judgeFields_trailers (fields : List QpackHeaderField) (htrailers : v.isTrailersSection)
    (hdone : v.isHeadSectionDone) :
    (judgeFields codec.withHeaderRules v fields).2.lasting = v.lasting := by
  induction fields generalizing v with
  | nil =>
    show (verdict _ v.endHeaderBlock).2.lasting = v.lasting
    unfold endHeaderBlock
    rw [if_pos htrailers]
    simp [verdict, lasting, hdone]
  | cons field rest ih =>
    unfold judgeFields
    have hcall : codec.withHeaderRules.onHeaderField v field =
        (v.afterRefusedField field).verdict (v.onHeaderField field) := rfl
    rw [hcall]
    cases hfield : v.onHeaderField field with
    | error error => exact afterRefusedField_lasting field
    | ok w =>
      obtain ⟨haccepts, hnone⟩ := onHeaderField_accepts hfield
      rw [hnone htrailers] at haccepts
      cases haccepts with
      | left hsection hleft =>
        exact (ih (hsection.trans htrailers)
          ((congrArg isHeadSectionDone hleft).trans hdone)).trans hleft

theorem judgeFieldSection_rules (v : Http3HeaderValidator)
    (isTrailers : Bool) (fields : List QpackHeaderField) :
    judgeFieldSection codec.withHeaderRules v isTrailers fields =
      if v.isHeadSectionDone = isTrailers then
        judgeFields codec.withHeaderRules { v.lasting with isTrailersSection := isTrailers } fields
      else ((v.verdict (v.lasting.beginHeaderBlock isTrailers)).1, v) := by
  have hcall : codec.withHeaderRules.beginHeaderBlock v isTrailers =
      v.verdict (v.beginHeaderBlock isTrailers) := rfl
  unfold judgeFieldSection
  rw [hcall]
  rcases Bool.eq_false_or_eq_true v.isHeadSectionDone with hdone | hdone
  · cases isTrailers
    all_goals simp [beginHeaderBlock, lasting, hdone, makeHeaderError, verdict]
  · cases isTrailers
    all_goals simp [beginHeaderBlock, lasting, hdone, makeHeaderError, verdict]

/-- A head leaves something exactly when it is the first, and something is
noted before one of its fields is refused. -/
theorem judgeFieldSection_lasting (v : Http3HeaderValidator)
    (isTrailers : Bool) (fields : List QpackHeaderField) :
    (judgeFieldSection codec.withHeaderRules v isTrailers fields).2.lasting = v.lasting ↔
      ¬ (isTrailers = false ∧ v.isHeadSectionDone = false ∧
        v.lasting.notesBeforeRefusal fields) := by
  rw [judgeFieldSection_rules]
  rcases Bool.eq_false_or_eq_true v.isHeadSectionDone with hdone | hdone
  · rw [hdone]
    cases isTrailers with
    | false => simp
    | true =>
      refine iff_of_true ?_ fun h => nomatch h.1
      exact judgeFields_trailers codec (v := { v.lasting with
        isTrailersSection := true }) fields rfl hdone
  rw [hdone]
  cases isTrailers with
  | true => simp
  | false =>
    have hjudged := judgeFields_head codec (v := v.lasting) fields rfl hdone
    show (judgeFields codec.withHeaderRules v.lasting fields).2.lasting = v.lasting ↔ _
    split at hjudged
    · next hnotes =>
      refine iff_of_false (fun heq => ?_) (not_not.mpr ⟨rfl, rfl, hnotes⟩)
      have hsame := noted_of_lasting (v := v.lasting) heq
      omega
    · next hnotes =>
      exact iff_of_true hjudged fun h => hnotes h.2.2

theorem judgeFieldSection_alike (h : w.lasting = v.lasting)
    (isTrailers : Bool) (fields : List QpackHeaderField) :
    (judgeFieldSection codec.withHeaderRules w isTrailers fields).map id lasting =
      (judgeFieldSection codec.withHeaderRules v isTrailers fields).map id
        lasting := by
  have hdone : w.isHeadSectionDone = v.isHeadSectionDone := by
    show w.lasting.isHeadSectionDone = v.lasting.isHeadSectionDone
    rw [h]
  rw [judgeFieldSection_rules, judgeFieldSection_rules, h, hdone]
  split
  · rfl
  cases v.lasting.beginHeaderBlock isTrailers with
  | error error => exact congrArg (Prod.mk _) h
  | ok _ => exact congrArg (Prod.mk _) h

end Judged

/-! ## Submissions -/

/-- A section of a message, as the application submits it. -/
inductive Submission
  | responseHead (fieldLines : List QpackHeaderField) (isEndOfStream : Bool)
  | responseTrailers (fieldLines : List QpackHeaderField)
  | requestHead (fieldLines : List QpackHeaderField) (isEndOfStream : Bool)

/-- What a stream keeps for the messages that go out on it. -/
structure OutgoingState where
  isAbandoned : Bool
  isLocalFinished : Bool
  validator : Http3HeaderValidator
  deriving DecidableEq

def StreamState.outgoing (fresh : Http3HeaderValidator)
    (state : StreamState Http3HeaderValidator) : OutgoingState where
  isAbandoned := state.isAbandoned
  isLocalFinished := state.isLocalFinished
  validator := (state.responseValidator.getD fresh).lasting

namespace Http3Connection

variable (codec : Http3Codec D E V)
  {c d : Http3Connection D E Http3HeaderValidator} {streamId : Nat}

/-- The validator of a message that has not begun. -/
def newOutboundValidator (c : Http3Connection D E Http3HeaderValidator) : Http3HeaderValidator where
  messageKind := c.outboundMessageKind
  isExtendedConnectPermitted := c.configuration.localSettings.isExtendedConnectEnabled

/-- The validator the next section of a stream goes through. -/
def outboundValidator (c : Http3Connection D E Http3HeaderValidator)
    (streamId : Nat) : Http3HeaderValidator :=
  (c.streamState streamId).responseValidator.getD c.newOutboundValidator

def outgoingState (c : Http3Connection D E Http3HeaderValidator)
    (streamId : Nat) : Option OutgoingState :=
  (c.streams.find? streamId).map (·.outgoing c.newOutboundValidator)

def submit (codec : Http3Codec D E V) (streamId : Nat) (c : Http3Connection D E V) :
    Submission → Option QpackError × Http3Connection D E V
  | .responseHead fieldLines isEndOfStream =>
    c.submitResponseHead codec streamId fieldLines isEndOfStream
  | .responseTrailers fieldLines =>
    c.submitResponseTrailers codec streamId fieldLines
  | .requestHead fieldLines isEndOfStream =>
    c.submitRequestHead codec streamId fieldLines isEndOfStream

/-- What is answered to one submission after the other. -/
def answers (codec : Http3Codec D E V) (streamId : Nat) :
    Http3Connection D E V → List Submission → List (Option QpackError)
  | _, [] => []
  | c, submission :: rest =>
    (c.submit codec streamId submission).1 ::
      answers codec streamId (c.submit codec streamId submission).2 rest

/-- Nothing was queued, the stream keeps what it kept, and whatever is
submitted on it later is answered as before. The encoder serves all
streams, so it is taken to be any one, the same for both. -/
def Untraced (codec : Http3Codec D E V) (streamId : Nat)
    (c c' : Http3Connection D E Http3HeaderValidator) : Prop :=
  (c'.outputs = c.outputs ∧ c'.outbound = c.outbound ∧ c'.outboundOrder = c.outboundOrder) ∧
    c'.outgoingState streamId = c.outgoingState streamId ∧
    ∀ encoder later, answers codec.withHeaderRules streamId
          { c' with qpackEncoder := encoder } later =
        answers codec.withHeaderRules streamId { c with qpackEncoder := encoder } later

/-- A section is refused without a look at its fields. -/
def isRefusedUnread (c : Http3Connection D E Http3HeaderValidator)
    (streamId : Nat) (fieldLines : List QpackHeaderField) : Bool :=
  c.isBroken ||
    ((c.streams.find? streamId).all fun state =>
      state.isAbandoned || state.isLocalFinished) ||
    (c.peerMaximumFieldSectionSizeByteCount != 0 &&
      decide (c.peerMaximumFieldSectionSizeByteCount < fieldSectionSizeByteCount fieldLines))

/-- The section is the first head of the message that is looked at, no 1xx,
and of its fields one is noted before any is refused, or none is refused. -/
def headLeavesTrace (c : Http3Connection D E Http3HeaderValidator)
    (streamId : Nat) (fieldLines : List QpackHeaderField) : Prop :=
  c.isRefusedUnread streamId fieldLines = false ∧ isInformationalFieldSection fieldLines = false ∧
    (c.outboundValidator streamId).isHeadSectionDone = false ∧
    (c.outboundValidator streamId).lasting.notesBeforeRefusal fieldLines = true

/-- Which submissions leave something when they are refused. A request on a
stream without a record leaves one, unless the peer's GOAWAY forbids it. -/
def LeavesTrace (c : Http3Connection D E Http3HeaderValidator) (streamId : Nat) : Submission → Prop
  | .responseHead fieldLines _ => c.headLeavesTrace streamId fieldLines
  | .responseTrailers _ => False
  | .requestHead fieldLines _ =>
    ¬ (c.isLocalServer = false ∧ c.isPeerGoAwayReceived = true) ∧
      (c.streams.find? streamId = none ∨ c.headLeavesTrace streamId fieldLines)

/-! ## Connections that answer alike -/

theorem modifyStream_outgoingState
    (update : StreamState Http3HeaderValidator → StreamState Http3HeaderValidator)
    (change : OutgoingState → OutgoingState)
    (h : ∀ state : StreamState Http3HeaderValidator,
      (update state).outgoing c.newOutboundValidator =
        change (state.outgoing c.newOutboundValidator)) :
    (c.modifyStream streamId update).outgoingState streamId =
      (c.outgoingState streamId).map change := by
  have hfind : (c.modifyStream streamId update).streams.find? streamId = _ :=
    modifyStream_find_self update
  obtain ⟨_, heq⟩ := c.modifyStream_eq streamId update
  unfold outgoingState
  rw [hfind, Option.map_map, Option.map_map]
  have hfresh : (c.modifyStream streamId update).newOutboundValidator =
      c.newOutboundValidator := by
    rw [heq]
    rfl
  rw [hfresh]
  cases c.streams.find? streamId with
  | none => rfl
  | some state => exact congrArg some (h state)

/-- All that the answers to submissions on a stream depend on. -/
structure AnswersAlike (streamId : Nat)
    (c d : Http3Connection D E Http3HeaderValidator) : Prop where
  isBroken : c.isBroken = d.isBroken
  configuration : c.configuration = d.configuration
  goAway : c.isPeerGoAwayReceived = d.isPeerGoAwayReceived
  limit : c.peerMaximumFieldSectionSizeByteCount = d.peerMaximumFieldSectionSizeByteCount
  encoder : c.qpackEncoder = d.qpackEncoder
  outgoing : c.outgoingState streamId = d.outgoingState streamId

/-- A call answers the same on both, and then they answer alike. -/
def SameAnswer {A : Type} (streamId : Nat) (c d : Http3Connection D E Http3HeaderValidator)
    (call : Http3Connection D E Http3HeaderValidator →
      A × Http3Connection D E Http3HeaderValidator) : Prop :=
  (call c).1 = (call d).1 ∧ AnswersAlike streamId (call c).2 (call d).2

namespace AnswersAlike

variable {codec}

theorem fresh (h : AnswersAlike streamId c d) :
    c.newOutboundValidator = d.newOutboundValidator := by
  unfold newOutboundValidator outboundMessageKind isLocalServer
  rw [h.configuration]

theorem setEncoder (h : AnswersAlike streamId c d) (encoder : E) :
    AnswersAlike streamId { c with qpackEncoder := encoder } { d with qpackEncoder := encoder } :=
  ⟨h.isBroken, h.configuration, h.goAway, h.limit, rfl, h.outgoing⟩

theorem queueOutboundBytes (h : AnswersAlike streamId c d) (id : Nat)
    (bytes : Bytes) (isEndStream : Bool) :
    AnswersAlike streamId (c.queueOutboundBytes id bytes isEndStream)
      (d.queueOutboundBytes id bytes isEndStream) := by
  obtain ⟨_, _, _, hc⟩ := c.queueOutboundBytes_eq id bytes isEndStream
  obtain ⟨_, _, _, hd⟩ := d.queueOutboundBytes_eq id bytes isEndStream
  rw [hc, hd]
  exact ⟨h.isBroken, h.configuration, h.goAway, h.limit, h.encoder, h.outgoing⟩

theorem queueEncoderInstructions (h : AnswersAlike streamId c d) (bytes : Bytes) :
    AnswersAlike streamId (c.queueEncoderInstructions bytes)
      (d.queueEncoderInstructions bytes) := by
  unfold Http3Connection.queueEncoderInstructions
  rw [h.configuration]
  split
  · exact h
  · exact h.queueOutboundBytes _ _ _

theorem modifyStream (h : AnswersAlike streamId c d)
    {update update' : StreamState Http3HeaderValidator → StreamState Http3HeaderValidator}
    (change : OutgoingState → OutgoingState)
    (hc : ∀ state : StreamState Http3HeaderValidator,
      (update state).outgoing c.newOutboundValidator =
        change (state.outgoing c.newOutboundValidator))
    (hd : ∀ state : StreamState Http3HeaderValidator,
      (update' state).outgoing d.newOutboundValidator =
        change (state.outgoing d.newOutboundValidator)) :
    AnswersAlike streamId (c.modifyStream streamId update) (d.modifyStream streamId update') := by
  have houtgoing : (c.modifyStream streamId update).outgoingState streamId =
      (d.modifyStream streamId update').outgoingState streamId := by
    rw [modifyStream_outgoingState update change hc,
      modifyStream_outgoingState update' change hd, h.outgoing]
  obtain ⟨_, hc⟩ := c.modifyStream_eq streamId update
  obtain ⟨_, hd⟩ := d.modifyStream_eq streamId update'
  rw [hc, hd] at houtgoing ⊢
  exact ⟨h.isBroken, h.configuration, h.goAway, h.limit, h.encoder, houtgoing⟩

theorem ensureStream (h : AnswersAlike streamId c d) :
    AnswersAlike streamId (c.ensureStream streamId) (d.ensureStream streamId) := by
  have hstate : ∀ e : Http3Connection D E Http3HeaderValidator,
      (e.ensureStream streamId).outgoingState streamId =
        some ((e.outgoingState streamId).getD
          (StreamState.outgoing e.newOutboundValidator {})) := by
    intro e
    obtain ⟨_, heq⟩ := e.ensureStream_eq streamId
    have hfind : (e.ensureStream streamId).streams.find? streamId = _ := ensureStream_find_self
    rw [heq] at hfind ⊢
    unfold outgoingState
    rw [hfind]
    show some (StreamState.outgoing e.newOutboundValidator _) = _
    cases e.streams.find? streamId with
    | none => rfl
    | some state => rfl
  have houtgoing : (c.ensureStream streamId).outgoingState streamId =
      (d.ensureStream streamId).outgoingState streamId := by
    rw [hstate, hstate, h.outgoing, h.fresh]
  obtain ⟨_, hc⟩ := c.ensureStream_eq streamId
  obtain ⟨_, hd⟩ := d.ensureStream_eq streamId
  rw [hc, hd] at houtgoing ⊢
  exact ⟨h.isBroken, h.configuration, h.goAway, h.limit, h.encoder, houtgoing⟩

theorem outboundValidator_lasting (h : AnswersAlike streamId c d) :
    (c.outboundValidator streamId).lasting = (d.outboundValidator streamId).lasting := by
  have hvalidator : ∀ e : Http3Connection D E Http3HeaderValidator,
      (e.outboundValidator streamId).lasting = ((e.outgoingState streamId).map (·.validator)).getD
          e.newOutboundValidator.lasting := by
    intro e
    unfold outboundValidator outgoingState streamState
    cases e.streams.find? streamId with
    | none => rfl
    | some state => rfl
  rw [hvalidator, hvalidator, h.outgoing, h.fresh]

theorem judgeOutboundSection (h : AnswersAlike streamId c d)
    (fieldLines : List QpackHeaderField) (isTrailers : Bool) :
    SameAnswer streamId c d (·.judgeOutboundSection codec.withHeaderRules
      streamId fieldLines isTrailers) := by
  unfold SameAnswer Http3Connection.judgeOutboundSection
  beta_reduce
  rw [h.configuration]
  dsimp only
  split
  · exact ⟨rfl, h⟩
  obtain ⟨hverdict, hjudged⟩ := Prod.mk.inj (judgeFieldSection_alike codec
    h.outboundValidator_lasting isTrailers fieldLines)
  have hkept : ∀ e : Http3Connection D E Http3HeaderValidator, e.configuration = d.configuration →
      (e.streamState streamId).responseValidator.getD
        (codec.withHeaderRules.newValidator e.outboundMessageKind
          d.configuration.localSettings.isExtendedConnectEnabled) =
        e.outboundValidator streamId := by
    intro e he
    rw [← he]
    rfl
  rw [hkept c h.configuration, hkept d rfl]
  refine ⟨hverdict, h.modifyStream (fun outgoing =>
    { outgoing with validator := (judgeFieldSection codec.withHeaderRules
        (d.outboundValidator streamId) isTrailers fieldLines).2.lasting })
    (fun state => ?_) fun state => rfl⟩
  exact congrArg (OutgoingState.mk _ _) hjudged

theorem submitResponseFieldSection (h : AnswersAlike streamId c d)
    (fieldLines : List QpackHeaderField) (isTrailers isEndOfStream : Bool) :
    SameAnswer streamId c d (·.submitResponseFieldSection
      codec.withHeaderRules streamId fieldLines isTrailers
      isEndOfStream) := by
  have hclosed : ∀ e : Http3Connection D E Http3HeaderValidator,
      ((e.streams.find? streamId).all fun state =>
        state.isAbandoned || state.isLocalFinished) =
      (e.outgoingState streamId).all fun outgoing =>
        outgoing.isAbandoned || outgoing.isLocalFinished := by
    intro e
    unfold outgoingState
    cases e.streams.find? streamId with
    | none => rfl
    | some state => rfl
  obtain ⟨hverdict, hafter⟩ : SameAnswer streamId c d
      (·.judgeOutboundSection codec.withHeaderRules streamId fieldLines isTrailers) :=
    h.judgeOutboundSection fieldLines isTrailers
  beta_reduce at hverdict hafter
  unfold SameAnswer Http3Connection.submitResponseFieldSection isLocalServer
  beta_reduce
  rw [hclosed, hclosed, h.isBroken, h.outgoing, h.limit, h.configuration]
  split
  · exact ⟨rfl, h⟩
  split
  · exact ⟨rfl, h⟩
  dsimp only
  split
  · exact ⟨rfl, h⟩
  generalize c.judgeOutboundSection codec.withHeaderRules streamId
    fieldLines isTrailers = judged at hverdict hafter ⊢
  generalize d.judgeOutboundSection codec.withHeaderRules streamId
    fieldLines isTrailers = judged' at hverdict hafter ⊢
  obtain ⟨verdict, c⟩ := judged
  obtain ⟨_, d⟩ := judged'
  obtain rfl : verdict = _ := hverdict
  cases verdict with
  | some message => exact ⟨rfl, hafter⟩
  | none =>
    dsimp only at hafter ⊢
    rw [hafter.encoder]
    rcases codec.withHeaderRules.encodeFieldSection d.qpackEncoder
      streamId fieldLines with ⟨error | ⟨headerBlock, bytes⟩, encoder⟩
    · exact ⟨rfl, hafter.setEncoder encoder⟩
    refine ⟨rfl, (((hafter.setEncoder encoder).queueEncoderInstructions bytes).queueOutboundBytes
        _ _ _).modifyStream (fun outgoing =>
          { outgoing with isLocalFinished := outgoing.isLocalFinished || isEndOfStream })
      (fun _ => rfl) fun _ => rfl⟩

theorem submit (h : AnswersAlike streamId c d) (submission : Submission) :
    SameAnswer streamId c d (·.submit codec.withHeaderRules streamId submission) := by
  cases submission with
  | responseHead fieldLines isEndOfStream =>
    exact h.submitResponseFieldSection fieldLines false isEndOfStream
  | responseTrailers fieldLines =>
    exact h.submitResponseFieldSection fieldLines true true
  | requestHead fieldLines isEndOfStream =>
    unfold SameAnswer Http3Connection.submit submitRequestHead isLocalServer
    beta_reduce
    rw [h.configuration, h.goAway]
    dsimp only
    split
    · exact ⟨rfl, h⟩
    · exact h.ensureStream.submitResponseFieldSection fieldLines false isEndOfStream

theorem answers (h : AnswersAlike streamId c d) (later : List Submission) :
    Http3Connection.answers codec.withHeaderRules streamId c later =
      Http3Connection.answers codec.withHeaderRules streamId d later := by
  induction later generalizing c d with
  | nil => rfl
  | cons submission rest ih =>
    obtain ⟨hanswer, hafter⟩ : SameAnswer streamId c d
      (·.submit codec.withHeaderRules streamId submission) :=
      h.submit submission
    unfold Http3Connection.answers
    rw [hanswer, ih hafter]

end AnswersAlike

/-! ## Refused submissions -/

/-- `c'` is what a refused section makes of `c`: buffers and outputs are as
they were, and so is what the stream keeps, unless `leaves`. -/
structure Refuses (streamId : Nat)
    (c c' : Http3Connection D E Http3HeaderValidator) (leaves : Prop) :
    Prop where
  fields : ∃ streams encoder, c' = { c with streams := streams, qpackEncoder := encoder }
  record : c.outgoingState streamId ≠ none → c'.outgoingState streamId ≠ none
  trace : c'.outgoingState streamId = c.outgoingState streamId ↔ ¬ leaves

namespace Refuses

variable {c' : Http3Connection D E Http3HeaderValidator} {leaves : Prop}

theorem refl (h : ¬ leaves) : Refuses streamId c c leaves :=
  ⟨⟨c.streams, c.qpackEncoder, rfl⟩, id, iff_of_true rfl h⟩

theorem setEncoder (h : Refuses streamId c c' leaves) (encoder : E) :
    Refuses streamId c { c' with qpackEncoder := encoder } leaves := by
  obtain ⟨⟨streams, _, rfl⟩, hrecord, htrace⟩ := h
  exact ⟨⟨streams, encoder, rfl⟩, hrecord, htrace⟩

theorem untraced_iff (h : Refuses streamId c c' leaves) :
    Untraced codec streamId c c' ↔ ¬ leaves := by
  obtain ⟨⟨streams, encoder, rfl⟩, _, htrace⟩ := h
  refine .trans ⟨fun huntraced => huntraced.2.1, fun hsame =>
    ⟨⟨rfl, rfl, rfl⟩, hsame, fun encoder later => ?_⟩⟩ htrace
  refine AnswersAlike.answers ?_ later
  exact ⟨rfl, rfl, rfl, rfl, rfl, hsame⟩

theorem judgeOutboundSection (fieldLines : List QpackHeaderField) (isTrailers : Bool)
    (hread : c.isRefusedUnread streamId fieldLines = false) :
    Refuses streamId c (c.judgeOutboundSection codec.withHeaderRules streamId
        fieldLines isTrailers).2
      (isTrailers = false ∧ c.headLeavesTrace streamId fieldLines) := by
  unfold Http3Connection.judgeOutboundSection
  split
  · next hinformational =>
    exact .refl fun h => nomatch h.2.2.1.symm.trans hinformational
  rename_i hordinary
  have hlasting := judgeFieldSection_lasting codec
    (c.outboundValidator streamId) isTrailers fieldLines
  change Refuses streamId c (c.modifyStream streamId fun state =>
    { state with responseValidator := some (judgeFieldSection
      codec.withHeaderRules (c.outboundValidator streamId) isTrailers
      fieldLines).2 }) _
  generalize judgeFieldSection codec.withHeaderRules
    (c.outboundValidator streamId) isTrailers fieldLines = judged
    at hlasting ⊢
  have hchange : (c.modifyStream streamId _).outgoingState streamId = _ :=
    modifyStream_outgoingState (fun state => { state with responseValidator := some judged.2 })
      (fun outgoing => { outgoing with validator := judged.2.lasting })
      fun _ => rfl
  obtain ⟨state, hfind⟩ : ∃ state, c.streams.find? streamId = some state := by
    cases hfind : c.streams.find? streamId with
    | none => simp [isRefusedUnread, hfind] at hread
    | some state => exact ⟨state, rfl⟩
  have hold : c.outgoingState streamId =
      some ⟨state.isAbandoned, state.isLocalFinished, (c.outboundValidator streamId).lasting⟩ := by
    rw [outgoingState, hfind, outboundValidator, streamState_eq hfind]
    rfl
  refine ⟨?_, fun hsome => ?_, ?_⟩
  · obtain ⟨streams, heq⟩ := c.modifyStream_eq streamId _
    exact ⟨streams, c.qpackEncoder, heq⟩
  · rw [hchange, hold]
    exact nofun
  · rw [hchange, hold]
    simp [hlasting, headLeavesTrace, hread, hordinary]

theorem submitResponseFieldSection (fieldLines : List QpackHeaderField)
    (isTrailers isEndOfStream : Bool)
    (h : (c.submitResponseFieldSection codec.withHeaderRules streamId
      fieldLines isTrailers isEndOfStream).1.isSome) :
    Refuses streamId c (c.submitResponseFieldSection codec.withHeaderRules
        streamId fieldLines isTrailers isEndOfStream).2
      (isTrailers = false ∧ c.headLeavesTrace streamId fieldLines) := by
  have hunread : c.isRefusedUnread streamId fieldLines → Refuses streamId c c
        (isTrailers = false ∧ c.headLeavesTrace streamId fieldLines) :=
    fun hunread => .refl fun htrace =>
      nomatch htrace.2.1.symm.trans hunread
  unfold Http3Connection.submitResponseFieldSection at h ⊢
  split
  · next hbroken => exact hunread (by simp [isRefusedUnread, hbroken])
  rename_i hbroken
  rw [if_neg hbroken] at h
  split
  · next hclosed => exact hunread (by simp [isRefusedUnread, hclosed])
  rename_i hopen
  rw [if_neg hopen] at h
  dsimp only at h ⊢
  split
  · next hlimit => exact hunread (by simp [isRefusedUnread, hlimit])
  rename_i hlimit
  rw [if_neg hlimit] at h
  have hread : c.isRefusedUnread streamId fieldLines = false := by
    simp only [isRefusedUnread, hbroken, hopen]
    simpa using hlimit
  have hjudged := judgeOutboundSection codec fieldLines isTrailers hread
  generalize c.judgeOutboundSection codec.withHeaderRules streamId
    fieldLines isTrailers = judged at h hjudged ⊢
  obtain ⟨_ | message, judged⟩ := judged
  · dsimp only at h ⊢
    split at h
    · exact hjudged.setEncoder _
    · cases h
  · exact hjudged

end Refuses

/-- A refused submission puts nothing into a buffer and leaves the stream
as it was, so that all later ones are answered as if it had not been made,
exactly when it is none of those that leave something. -/
theorem refused_submission (submission : Submission)
    (h : (c.submit codec.withHeaderRules streamId submission).1.isSome = true) :
    Untraced codec streamId c (c.submit codec.withHeaderRules streamId submission).2 ↔
      ¬ c.LeavesTrace streamId submission := by
  cases submission with
  | responseHead fieldLines isEndOfStream =>
    have hrefuses := Refuses.submitResponseFieldSection codec fieldLines false isEndOfStream h
    exact (hrefuses.untraced_iff codec).trans (not_congr (and_iff_right rfl))
  | responseTrailers fieldLines =>
    have hrefuses := Refuses.submitResponseFieldSection codec fieldLines true true h
    exact (hrefuses.untraced_iff codec).trans (not_congr (by simp [LeavesTrace]))
  | requestHead fieldLines isEndOfStream =>
    unfold submit submitRequestHead at h ⊢
    dsimp only at h ⊢
    split
    · next hforbidden =>
      rw [Bool.and_eq_true, Bool.not_eq_true'] at hforbidden
      exact iff_of_true ⟨⟨rfl, rfl, rfl⟩, rfl, fun _ _ => rfl⟩ fun htrace => htrace.1 hforbidden
    rename_i hallowed
    rw [if_neg hallowed] at h
    rw [Bool.and_eq_true, Bool.not_eq_true'] at hallowed
    have hrefuses := Refuses.submitResponseFieldSection codec fieldLines false isEndOfStream h
    cases hfind : c.streams.find? streamId with
    | some state =>
      have hensured : c.ensureStream streamId = c := by
        rw [ensureStream, hfind]
      rw [hensured] at hrefuses ⊢
      refine (hrefuses.untraced_iff codec).trans (not_congr ?_)
      simp [LeavesTrace, hallowed, hfind]
    | none =>
      refine iff_of_false (fun huntraced => ?_) (not_not.mpr ⟨hallowed, .inl hfind⟩)
      refine hrefuses.record ?_ (huntraced.2.1.trans ?_)
      · rw [outgoingState, ensureStream_find_self]
        rintro ⟨⟩
      · rw [outgoingState, hfind]
        rfl

/-- A server's connection with a request stream to answer on. -/
def answering : Http3Connection Unit Unit Http3HeaderValidator :=
  (blank plainCodec.withHeaderRules plainServer).ensureStream 0

/-- `:status` of an answer that is fine. -/
def statusField : QpackHeaderField := ⟨kStatusFieldName, asciiText "200"⟩

/-- The second name has a capital letter. -/
def misspeltHead : Submission :=
  .responseHead [statusField, ⟨asciiText "Server", asciiText "x"⟩] false

theorem refused_submission_misspelt : Untraced plainCodec 0 answering
        (answering.submit plainCodec.withHeaderRules 0 misspeltHead).2 ↔
      ¬ answering.LeavesTrace 0 misspeltHead :=
  refused_submission plainCodec misspeltHead (by decide +kernel)

/-- After it the head without the second field is refused as well. -/
theorem misspelt_head_leaves_status :
    (answering.submit plainCodec.withHeaderRules 0 misspeltHead).1.isSome = true ∧
      ¬ Untraced plainCodec 0 answering
        (answering.submit plainCodec.withHeaderRules 0 misspeltHead).2 := by
  refine ⟨by decide +kernel, fun huntraced => ?_⟩
  exact absurd (huntraced.2.2 () [.responseHead [statusField] false]) (by decide +kernel)

end Http3Connection

end AsynGyanis.Http3
