import AsynGyanis.Http2.RequestHead
import AsynGyanis.Library.Judgement

/-!
# What a header list says

`HeadSummary` is what a server learns from the header list of a request: the
value of each pseudo-header, the hosts, the length. `Obeys` is the rule for
the fields that HTTP/2 and HTTP/3 have in common. What HTTP/2 asks besides is
a condition on the summary of the whole list (`http2_accepts_iff`).
-/

namespace AsynGyanis.Http

open Library Judges
open Http2 (HpackHeaderField HeadScan)

/-! ## What a header list says -/

structure HeadSummary where
  sawRegular : Bool := false
  method : Option Bytes := none
  scheme : Option Bytes := none
  path : Option Bytes := none
  authority : Option Bytes := none
  protocol : Option Bytes := none
  contentLength : Option Nat := none
  hosts : List Bytes := []
  deriving DecidableEq, Repr

def isPseudoHeader (field : HpackHeaderField) : Bool := field.name.head? = some 0x3A

namespace HeadSummary

variable (s : HeadSummary) (field : HpackHeaderField)

def addPseudo : HeadSummary :=
  if field.name = asciiText ":method" then
    { s with method := some field.value }
  else if field.name = asciiText ":scheme" then
    { s with scheme := some field.value }
  else if field.name = asciiText ":path" then
    { s with path := some field.value }
  else if field.name = asciiText ":authority" then
    { s with authority := some field.value }
  else if field.name = asciiText ":protocol" then
    { s with protocol := some field.value }
  else s

def addRegular : HeadSummary :=
  { s with
    sawRegular := true
    contentLength :=
      if field.name = asciiText "content-length" then
        parseContentLengthValue field.value
      else s.contentLength
    hosts :=
      if field.name = asciiText "host" then s.hosts ++ [field.value]
      else s.hosts }

def add : HeadSummary :=
  if isPseudoHeader field then s.addPseudo field else s.addRegular field

/-- A pseudo-header stands before all regular fields, is one of the five, has
not come before and has a value of its form. -/
def PseudoRule : Prop := s.sawRegular = false ∧
    if field.name = asciiText ":method" then s.method = none
    else if field.name = asciiText ":scheme" then
      s.scheme = none ∧ isUriSchemeSyntax field.value = true
    else if field.name = asciiText ":path" then
      s.path = none ∧ field.value.all isRequestTargetCharacter = true
    else if field.name = asciiText ":authority" then
      s.authority = none ∧ findAuthorityFieldDefect field.value = none
    else if field.name = asciiText ":protocol" then s.protocol = none
    else False

/-- A regular field is none that names a connection, and a length or a host
is well formed and, if a length, the same as before. -/
def RegularRule : Prop := containsOnlyTokenCharacters field.name = true ∧
  isConnectionSpecificHeaderName field.name = false ∧
  (field.name = asciiText "te" → teValueIsTrailers field.value = true) ∧
  (field.name = asciiText "content-length" →
    ∃ length, parseContentLengthValue field.value = some length ∧
      ∀ earlier ∈ s.contentLength, earlier = length) ∧
  (field.name = asciiText "host" → findAuthorityFieldDefect field.value = none)

/-- What both protocols ask of one field behind those of the summary. -/
def FieldRule : Prop := field.name ≠ [] ∧ containsUppercaseAscii field.name = false ∧
  containsOnlyFieldValueCharacters field.value = true ∧
  if isPseudoHeader field then s.PseudoRule field else s.RegularRule field

/-- Hosts come behind all pseudo-headers, and a scheme is not empty. -/
structure Sound (s : HeadSummary) : Prop where
  hosts : s.sawRegular = false → s.hosts = []
  scheme : s.scheme ≠ some []

theorem isUriSchemeSyntax_ne_nil {scheme : Bytes} (h : isUriSchemeSyntax scheme) : scheme ≠ [] := by
  rintro rfl
  cases h

theorem Sound.add {s : HeadSummary} (h : s.Sound) {field : HpackHeaderField}
    (hrule : s.FieldRule field) : (s.add field).Sound := by
  obtain ⟨-, -, -, hrule⟩ := hrule
  rw [HeadSummary.add]
  split
  · next hpseudo =>
    rw [if_pos hpseudo] at hrule
    obtain ⟨hbefore, hrule⟩ := hrule
    rw [addPseudo]
    split
    · exact ⟨fun _ => h.hosts hbefore, h.scheme⟩
    rename_i hmethod
    rw [if_neg hmethod] at hrule
    split
    · next hscheme =>
      rw [if_pos hscheme] at hrule
      refine ⟨fun _ => h.hosts hbefore, fun hnil => ?_⟩
      exact isUriSchemeSyntax_ne_nil hrule.2 (Option.some.inj hnil)
    split
    · exact ⟨fun _ => h.hosts hbefore, h.scheme⟩
    split
    · exact ⟨fun _ => h.hosts hbefore, h.scheme⟩
    split
    · exact ⟨fun _ => h.hosts hbefore, h.scheme⟩
    · exact h
  · exact ⟨nofun, h.scheme⟩

/-! ## HTTP/2 -/

/-- What the scan of HTTP/2 knows. -/
structure IsScan (s : HeadSummary) (scan : HeadScan) : Prop where
  sawRegular : scan.hasSeenRegularHeader = s.sawRegular
  method : scan.method = s.method
  scheme : scan.scheme = s.scheme
  path : scan.path = s.path
  authority : scan.authority = s.authority
  protocol : scan.protocol = s.protocol
  contentLength : scan.contentLength = s.contentLength
  firstHost : scan.firstHostValue = s.hosts.head?

section Http2Fields

open Http2

variable {s : HeadSummary} {scan : HeadScan} {field : HpackHeaderField}

theorem judges_authorityField (value : Bytes) :
    Judges (findAuthorityFieldDefect value = none) (fun _ => True)
      (acceptRequestAuthorityField value) := by
  rw [acceptRequestAuthorityField]
  cases findAuthorityFieldDefect value with
  | none => exact .ok rfl trivial
  | some defect => exact .error nofun

theorem IsScan.placePseudoHeader (h : s.IsScan scan)
    (limits : HttpParserLimits) (hbefore : s.sawRegular = false) :
    Judges (s.PseudoRule field) (s.addPseudo field).IsScan
      (Http2.placePseudoHeader limits scan field) := by
  rw [Http2.placePseudoHeader, addPseudo, PseudoRule]
  by_cases hmethod : field.name = asciiText ":method"
  · simp only [if_pos hmethod]
    exact (Judges.guard fun _ => .ok trivial { h with method := rfl }).congr
      (by simp [h.method, hbefore]) fun _ _ => id
  by_cases hscheme : field.name = asciiText ":scheme"
  · simp only [if_neg hmethod, if_pos hscheme]
    exact (guard fun _ => guard fun _ =>
      .ok trivial { h with scheme := rfl }).congr
      (by simp [h.scheme, hbefore]) fun _ _ => id
  by_cases hpath : field.name = asciiText ":path"
  · simp only [if_neg hmethod, if_neg hscheme, if_pos hpath]
    exact (guard fun _ => guard fun _ =>
      .ok trivial { h with path := rfl }).congr
      (by simp [h.path, hbefore]) fun _ _ => id
  by_cases hauthority : field.name = asciiText ":authority"
  · simp only [if_neg hmethod, if_neg hscheme, if_neg hpath, if_pos hauthority]
    exact (guard fun _ =>
      (judges_authorityField field.value).bind fun _ _ _ =>
        .ok trivial { h with authority := rfl }).congr
      (by simp [h.authority, hbefore]) fun _ _ => id
  by_cases hprotocol : field.name = asciiText ":protocol"
  · simp only [if_neg hmethod, if_neg hscheme, if_neg hpath, if_neg hauthority, if_pos hprotocol]
    exact (Judges.guard fun _ => .ok trivial { h with protocol := rfl }).congr
      (by simp [h.protocol, hbefore]) fun _ _ => id
  · simp only [if_neg hmethod, if_neg hscheme, if_neg hpath, if_neg hauthority, if_neg hprotocol]
    exact .error fun hrule => hrule.2

/-- What HTTP/2 asks of a host besides its form. -/
def HostRule (s : HeadSummary) (host : Bytes) : Prop :=
  (∀ authority ∈ s.authority, authority ≠ [] → normalizeHostComparisonKey host =
      normalizeHostComparisonKey authority) ∧
  ∀ first ∈ s.hosts.head?, normalizeHostComparisonKey host = normalizeHostComparisonKey first

theorem IsScan.noteHost (h : s.IsScan scan) :
    Judges (field.name = asciiText "host" →
        findAuthorityFieldDefect field.value = none ∧ s.HostRule field.value)
      (· = (s.addRegular field).hosts.head?) (noteHost scan field) := by
  rw [Http2.noteHost, addRegular]
  by_cases hhost : field.name = asciiText "host"
  · simp only [if_pos hhost, acceptRequestHostField]
    cases findAuthorityFieldDefect field.value with
    | some defect => exact .error fun hrule => nomatch (hrule hhost).1
    | none =>
      refine (map (guard fun _ => guard fun _ =>
        .ok trivial ?_)).congr ?_ fun _ _ => id
      · rw [h.firstHost]
        cases s.hosts <;> rfl
      · rw [HostRule, h.authority, h.firstHost]
        cases s.authority <;> cases s.hosts <;> simp [hhost]
  · simp only [if_neg hhost]
    exact .ok (fun hname => absurd hname hhost) h.firstHost

theorem IsScan.noteContentLength (h : s.IsScan scan) :
    Judges (field.name = asciiText "content-length" →
        ∃ length, parseContentLengthValue field.value = some length ∧
          ∀ earlier ∈ s.contentLength, earlier = length)
      (· = (s.addRegular field).contentLength)
      (noteContentLength scan field) := by
  rw [Http2.noteContentLength, addRegular]
  by_cases hlength : field.name = asciiText "content-length"
  · simp only [if_pos hlength, acceptRequestContentLength]
    cases parseContentLengthValue field.value with
    | none => exact .error fun hrule => by simpa using hrule hlength
    | some length =>
      refine (map (guard fun _ => .ok trivial rfl)).congr ?_ fun _ _ h => h.symm
      rw [h.contentLength]
      cases s.contentLength <;> simp [hlength]
  · simp only [if_neg hlength]
    exact .ok (fun hname => absurd hname hlength) h.contentLength

end Http2Fields

/-- The target of a request is a path, or the asterisk of OPTIONS. -/
def PathRule (method path : Bytes) : Prop :=
  path ≠ [] ∧ (path = asciiText "*" → method = asciiText "OPTIONS") ∧
    (path = asciiText "*" ∨ path.head? = some 0x2F)

/-- What HTTP/2 asks for the target, by the method. -/
def Http2TargetRule (s : HeadSummary) (method : Bytes) : Prop :=
  if method = asciiText "CONNECT" then
    if s.protocol.isSome then
      s.scheme ≠ none ∧ s.path ≠ none ∧ s.authority.getD [] ≠ []
    else s.scheme = none ∧ s.path = none ∧ s.authority.getD [] ≠ []
  else s.scheme ≠ none ∧ ∃ path, s.path = some path ∧ PathRule method path

/-- What HTTP/2 asks of a list as a whole. -/
def Http2EndRule (s : HeadSummary) (enableConnectProtocol : Nat) : Prop :=
  ∃ method, s.method = some method ∧ method ≠ [] ∧ containsOnlyTokenCharacters method = true ∧
    (∀ protocol ∈ s.protocol, enableConnectProtocol ≠ 0 ∧ method = asciiText "CONNECT" ∧
      containsOnlyTokenCharacters protocol = true) ∧
    s.Http2TargetRule method

section Http2Head

open Http2

variable {s : HeadSummary} {scan : HeadScan}

theorem judges_targetPath (method path : Bytes) : Judges (PathRule method path) (fun _ => True)
      (acceptRequestTargetPath method path) := by
  rw [acceptRequestTargetPath]
  by_cases hempty : path = []
  · rw [if_pos hempty]
    exact .error fun hrule => hrule.1 hempty
  rw [if_neg hempty]
  by_cases hstar : path = asciiText "*"
  · rw [if_pos hstar]
    exact (guard fun _ => .ok trivial trivial).congr
      (by simp [PathRule, hstar, asciiText]) fun _ _ => id
  rw [if_neg hstar]
  exact (guard fun _ => .ok trivial trivial).congr (by simp [PathRule, hempty, hstar]) fun _ _ => id

theorem IsScan.acceptTarget (h : s.IsScan scan) (method : Bytes) :
    Judges (s.Http2TargetRule method) (fun _ => True) (acceptRequestTarget scan method) := by
  rw [acceptRequestTarget, Http2TargetRule, h.protocol, h.scheme, h.path, h.authority]
  by_cases hconnect : method = asciiText "CONNECT"
  · rw [if_pos hconnect, if_pos hconnect]
    by_cases hprotocol : s.protocol.isSome
    · rw [if_pos hprotocol, if_pos hprotocol]
      refine (guard fun _ => guard fun _ =>
        .ok trivial trivial).congr ?_ fun _ _ => id
      cases s.scheme <;> cases s.path <;> simp
    rw [if_neg hprotocol, if_neg hprotocol]
    refine (guard fun _ => guard fun _ =>
      .ok trivial trivial).congr ?_ fun _ _ => id
    cases s.scheme <;> cases s.path <;> simp
  rw [if_neg hconnect, if_neg hconnect]
  cases hscheme : s.scheme with
  | none => exact .error fun hrule => hrule.1 rfl
  | some scheme =>
    cases hpath : s.path with
    | none => exact .error fun hrule => by simpa using hrule.2
    | some path =>
      exact (judges_targetPath method path).congr (by simp) fun _ _ => id

theorem judges_protocol (enableConnectProtocol : Nat) (method protocol : Bytes) :
    Judges (enableConnectProtocol ≠ 0 ∧ method = asciiText "CONNECT" ∧
        containsOnlyTokenCharacters protocol) (fun _ => True)
      (acceptRequestProtocol enableConnectProtocol method protocol) := by
  exact (guard fun _ => guard fun _ => guard fun _ =>
    .ok trivial trivial).congr (by simp) fun _ _ => id

theorem IsScan.finish (h : s.IsScan scan) (enableConnectProtocol : Nat) :
    Judges (s.Http2EndRule enableConnectProtocol) (fun _ => True)
      (finishRequestHead enableConnectProtocol scan) := by
  rw [finishRequestHead, Http2EndRule, h.method, h.protocol]
  cases s.method with
  | none => exact .error fun ⟨_, hmethod, _⟩ => nomatch hmethod
  | some method =>
    cases s.protocol with
    | none =>
      exact (guard fun _ => guard fun _ =>
        h.acceptTarget method).congr (by simp) fun _ _ => id
    | some protocol =>
      exact (guard fun _ => guard fun _ =>
        (judges_protocol enableConnectProtocol method protocol).bind
          fun _ _ _ => h.acceptTarget method).congr (by simp)
        fun _ _ => id

end Http2Head

end HeadSummary

end AsynGyanis.Http
