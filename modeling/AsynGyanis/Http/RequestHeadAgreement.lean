import AsynGyanis.Http.HeadSummary
import AsynGyanis.Http3.HeaderValidation

/-!
# One request head, two protocols

HTTP/2 and HTTP/3 judge the same header lists by rules that are written
twice. The rule for the fields, `Obeys`, they have in common. What is left
over is a condition on the summary of the list, one for each protocol, and
the two protocols differ exactly where these two conditions do.
-/

namespace AsynGyanis.Http

open Library List
open Http2 (HpackHeaderField acceptRequestHeaderFields
  acceptTrailerHeaderField acceptTrailerHeaderFields)
open Http3 (QpackHeaderField Http3HeaderValidator)

namespace HeadSummary

/-! ## HTTP/3 -/

/-- What HTTP/3 asks of the values so far. -/
@[mk_iff]
structure ValuesFit (s : HeadSummary) (isExtendedConnectPermitted : Bool) :
    Prop where
  method : ∀ method ∈ s.method, method ≠ [] ∧ containsOnlyTokenCharacters method = true
  path : ∀ path ∈ s.path, path ≠ [] ∧ (path = asciiText "*" ∨ path.head? = some 0x2F)
  authority : ∀ authority ∈ s.authority, authority ≠ []
  protocol : ∀ protocol ∈ s.protocol, isExtendedConnectPermitted = true ∧
    protocol ≠ [] ∧ containsOnlyTokenCharacters protocol = true
  hosts : ∀ host ∈ s.hosts, host ≠ [] ∧ ∀ other ∈ s.hosts, other = host

/-- What the validator of HTTP/3 knows. -/
structure IsValidated (s : HeadSummary) (isExtendedConnectPermitted : Bool)
    (v : Http3HeaderValidator) : Prop where
  messageKind : v.messageKind = .request
  isPermitted : v.isExtendedConnectPermitted = isExtendedConnectPermitted
  isTrailers : v.isTrailersSection = false
  sawRegular : v.sawRegularField = s.sawRegular
  method : v.methodText = s.method.getD []
  scheme : v.schemeText = s.scheme.getD []
  path : v.pathText = s.path.getD []
  authority : v.authorityText = s.authority.getD []
  protocol : v.protocolText = s.protocol.getD []
  contentLength : v.contentLengthByteCount = s.contentLength
  hasHost : v.hasHostHeader = !s.hosts.isEmpty
  host : ∀ host ∈ s.hosts, host = v.hostText

theorem getD_ne_nil {text : Option Bytes} (h : text ≠ some []) :
    text.getD [] ≠ [] ↔ text ≠ none := by
  cases text with
  | none => simp
  | some text => simpa using h

section Http3Fields

open Http3

variable {s : HeadSummary} {permitted : Bool} {v : Http3HeaderValidator}

theorem ValuesFit.ne_nil (h : s.ValuesFit permitted) :
    s.method ≠ some [] ∧ s.path ≠ some [] ∧ s.authority ≠ some [] ∧ s.protocol ≠ some [] :=
  ⟨fun hnil => (h.method [] hnil).1 rfl, fun hnil => (h.path [] hnil).1 rfl,
    fun hnil => h.authority [] hnil rfl,
    fun hnil => (h.protocol [] hnil).2.1 rfl⟩

theorem PseudoRule.name {field : HpackHeaderField} {name : Bytes}
    (hrule : s.PseudoRule field) (hname : field.name = 0x3A :: name) :
    name ≠ [] ∧ containsOnlyTokenCharacters name ∧ containsUppercaseAscii name = false := by
  have hmem : field.name ∈ [asciiText ":method", asciiText ":scheme",
      asciiText ":path", asciiText ":authority", asciiText ":protocol"] := by
    obtain ⟨-, hrule⟩ := hrule
    repeat' split at hrule
    all_goals simp_all
  rw [hname] at hmem
  have hall : ∀ literal ∈ [asciiText ":method", asciiText ":scheme",
      asciiText ":path", asciiText ":authority", asciiText ":protocol"],
      literal.tail ≠ [] ∧ containsOnlyTokenCharacters literal.tail ∧
        containsUppercaseAscii literal.tail = false := by decide +kernel
  exact hall _ hmem

theorem IsValidated.onHost (h : s.IsValidated permitted v)
    {field : HpackHeaderField} (hhost : field.name = asciiText "host")
    (hlength : field.name ≠ asciiText "content-length") :
    Judges (findAuthorityFieldDefect field.value = none ∧
        field.value ≠ [] ∧ ∀ other ∈ s.hosts, other = field.value)
      (IsValidated (s.addRegular field) permitted)
      (Http3HeaderValidator.onHostField { v with sawRegularField := true } field.value) := by
  have hhosts : (s.addRegular field).hosts = s.hosts ++ [field.value] := if_pos hhost
  have hsame : (s.addRegular field).contentLength = s.contentLength := if_neg hlength
  have hconflict : (v.hasHostHeader && v.hostText ≠ field.value) ↔
      ¬∀ other ∈ s.hosts, other = field.value := by
    rw [h.hasHost]
    have hhost := h.host
    cases hs : s.hosts with
    | nil => simp
    | cons first rest =>
      rw [hs] at hhost
      simp only [isEmpty_cons, Bool.not_false, Bool.true_and, decide_eq_true_eq]
      refine not_congr ⟨fun heq other hmem =>
        (hhost other hmem).trans heq, fun hall => ?_⟩
      exact (hhost first mem_cons_self).symm.trans (hall first mem_cons_self)
  rw [Http3HeaderValidator.onHostField]
  cases findAuthorityFieldDefect field.value with
  | some defect =>
    exact (Judges.guard fun _ => Judges.guard fun _ =>
      (Judges.error id : Judges False _ _)).congr (by simp) fun _ _ => id
  | none =>
    have hgood : (∀ other ∈ s.hosts, other = field.value) →
        IsValidated (s.addRegular field) permitted
          { v with
            sawRegularField := true, hasHostHeader := true
            hostText := field.value } := fun hall =>
      { h with
        sawRegular := rfl
        contentLength := h.contentLength.trans hsame.symm
        hasHost := by simp [hhosts]
        host := fun host hmem => by
          rw [hhosts, mem_append, mem_singleton] at hmem
          exact hmem.elim (hall host) id }
    refine (Judges.guard fun hnone => Judges.guard fun _ => .ok trivial
      (hgood (not_not.mp (mt hconflict.mpr hnone)))).congr ?_ fun _ _ => id
    rw [hconflict, not_not]
    simp only [true_and, and_true, ne_eq]
    exact and_comm

theorem IsValidated.other (h : s.IsValidated permitted v)
    {field : HpackHeaderField} (hhost : field.name ≠ asciiText "host")
    (hlength : field.name ≠ asciiText "content-length") :
    IsValidated (s.addRegular field) permitted { v with sawRegularField := true } := by
  have hhosts : (s.addRegular field).hosts = s.hosts := if_neg hhost
  have hsame : (s.addRegular field).contentLength = s.contentLength := if_neg hlength
  exact
    { h with
      sawRegular := rfl
      contentLength := h.contentLength.trans hsame.symm
      hasHost := h.hasHost.trans (by rw [hhosts])
      host := fun host hmem => h.host host (hhosts ▸ hmem) }

end Http3Fields

/-- Where the authority comes from, by the scheme. -/
def AuthorityRule (s : HeadSummary) : Prop :=
  let schemeNeedsAuthority := equalsIgnoringCase (s.scheme.getD []) (asciiText "http") ||
      equalsIgnoringCase (s.scheme.getD []) (asciiText "https")
  (schemeNeedsAuthority = true → s.authority ≠ none ∨ s.hosts ≠ []) ∧
  (schemeNeedsAuthority = false → s.authority = none ∧ s.hosts = []) ∧
  ∀ authority ∈ s.authority, ∀ host ∈ s.hosts, host = authority

/-- A CONNECT without a protocol. -/
def IsClassicConnect (s : HeadSummary) : Prop :=
  s.method = some (asciiText "CONNECT") ∧ s.protocol = none

/-- What HTTP/3 asks of a list as a whole. -/
def Http3EndRule (s : HeadSummary) : Prop := ∃ method, s.method = some method ∧
    (s.IsClassicConnect → s.scheme = none ∧ s.path = none ∧ s.authority ≠ none) ∧
    (¬s.IsClassicConnect → (s.protocol ≠ none → method = asciiText "CONNECT") ∧
      s.scheme ≠ none ∧ s.path ≠ none ∧
      (s.path = some (asciiText "*") → method = asciiText "OPTIONS") ∧
      s.AuthorityRule)

section Http3Head

open Http3

variable {s : HeadSummary} {permitted : Bool} {v : Http3HeaderValidator}

theorem IsValidated.endConnect (h : s.IsValidated permitted v)
    (hs : s.Sound) (hfit : s.ValuesFit permitted) :
    Judges (s.scheme = none ∧ s.path = none ∧ s.authority ≠ none)
      (fun _ => True) v.endConnectRequest := by
  obtain ⟨-, hpathText, hauthorityText, -⟩ := hfit.ne_nil
  rw [Http3HeaderValidator.endConnectRequest, h.scheme, h.path, h.authority]
  refine Judges.congr (Judges.guard fun _ => Judges.guard fun _ =>
    .ok trivial trivial) ?_ fun _ _ => id
  rw [getD_ne_nil hs.scheme, getD_ne_nil hpathText, ← getD_ne_nil hauthorityText]
  simp [and_assoc]

theorem IsValidated.endAuthority (h : s.IsValidated permitted v) (hfit : s.ValuesFit permitted) :
    Judges s.AuthorityRule (fun _ => True) v.endAuthority := by
  obtain ⟨-, -, hauthorityText, -⟩ := hfit.ne_nil
  have hsame : (∀ authority ∈ s.authority, ∀ host ∈ s.hosts,
      host = authority) ↔ ∀ authority ∈ s.authority, s.hosts ≠ [] → authority = v.hostText := by
    refine forall₂_congr fun authority _ => ⟨fun hall hne => ?_, fun heq host hmem => ?_⟩
    · obtain ⟨host, hmem⟩ := exists_mem_of_ne_nil _ hne
      exact (hall host hmem).symm.trans (h.host host hmem)
    · exact (h.host host hmem).trans (heq (ne_nil_of_mem hmem)).symm
  rw [Http3HeaderValidator.endAuthority, AuthorityRule, h.scheme, h.authority, h.hasHost, hsame]
  generalize (equalsIgnoringCase (s.scheme.getD []) (asciiText "http") ||
    equalsIgnoringCase (s.scheme.getD []) (asciiText "https")) = needs
  refine Judges.congr (Judges.guard fun _ => Judges.guard fun _ =>
    Judges.guard fun _ => .ok trivial trivial) ?_ fun _ _ => id
  have htext := getD_ne_nil hauthorityText
  cases hauthority : s.authority with
  | none => cases needs <;> cases s.hosts <;> simp
  | some authority =>
    rw [hauthority] at htext
    have hne : authority ≠ [] := by simpa using htext
    cases needs <;> cases s.hosts <;> simp [hne]

theorem IsValidated.isConnect (h : s.IsValidated permitted v) :
    v.isConnectRequest ↔ s.method.getD [] = asciiText "CONNECT" := by
  rw [Http3HeaderValidator.isConnectRequest, h.method, decide_eq_true_eq]

theorem IsValidated.endRequest (h : s.IsValidated permitted v) (hs : s.Sound)
    (hfit : s.ValuesFit permitted) : Judges s.Http3EndRule (fun _ => True) v.endRequest := by
  obtain ⟨hmethodText, hpathText, -, hprotocolText⟩ := hfit.ne_nil
  have hconnect := h.isConnect
  rw [Http3HeaderValidator.endRequest, Http3EndRule, IsClassicConnect]
  cases hmethod : s.method with
  | none =>
    rw [if_pos (by rw [h.method, hmethod]; rfl)]
    exact .error fun ⟨_, hnone, _⟩ => nomatch hnone
  | some method =>
    have hne : v.methodText ≠ [] := by
      rw [h.method, hmethod]
      exact fun hnil => hmethodText (hmethod.trans (congrArg some hnil))
    rw [hmethod, Option.getD_some] at hconnect
    rw [if_neg hne]
    have hprotocol : v.protocolText = [] ↔ s.protocol = none := by
      rw [h.protocol, ← not_iff_not]
      exact getD_ne_nil hprotocolText
    have hcondition : (v.isConnectRequest &&
        decide (v.protocolText = [])) ↔
        method = asciiText "CONNECT" ∧ s.protocol = none := by
      rw [Bool.and_eq_true, hconnect, decide_eq_true_eq, hprotocol]
    by_cases hclassic : method = asciiText "CONNECT" ∧ s.protocol = none
    · rw [if_pos (hcondition.mpr hclassic)]
      refine Judges.congr (h.endConnect hs hfit) ?_ fun _ _ => id
      simp [hclassic]
    rw [if_neg (mt hcondition.mp hclassic)]
    refine Judges.congr (Judges.guard fun _ => Judges.guard fun _ =>
      Judges.guard fun _ => Judges.guard fun _ => h.endAuthority hfit)
      ?_ fun _ _ => id
    have hscheme : v.schemeText = [] ↔ s.scheme = none := by
      rw [h.scheme, ← not_iff_not]
      exact getD_ne_nil hs.scheme
    have hpath : v.pathText = [] ↔ s.path = none := by
      rw [h.path, ← not_iff_not]
      exact getD_ne_nil hpathText
    have hstar : v.pathText = asciiText "*" ↔ s.path = some (asciiText "*") := by
      rw [h.path]
      cases s.path <;> simp [asciiText]
    have hmethodText : v.methodText = method := by
      rw [h.method, hmethod]
      rfl
    have hprotocolCondition : (decide (v.protocolText ≠ []) && !v.isConnectRequest) ↔
        ¬(s.protocol ≠ none → method = asciiText "CONNECT") := by
      rw [Bool.and_eq_true, decide_eq_true_eq, Bool.not_eq_true',
        ← Bool.not_eq_true, hconnect, ne_eq, hprotocol, Classical.not_imp]
    rw [hscheme, hpath, hstar, hmethodText, hprotocolCondition, not_not, not_and, not_not]
    constructor
    · rintro ⟨hextended, hrest⟩
      exact ⟨method, rfl, fun hconnect =>
        absurd ⟨Option.some.inj hconnect.1, hconnect.2⟩ hclassic,
        fun _ => ⟨hextended, hrest⟩⟩
    rintro ⟨_, hsame, -, hrest⟩
    cases hsame
    exact hrest fun hconnect =>
      hclassic ⟨Option.some.inj hconnect.1, hconnect.2⟩

theorem IsValidated.endHeaderBlock (h : s.IsValidated permitted v)
    (hs : s.Sound) (hfit : s.ValuesFit permitted) :
    Judges s.Http3EndRule (fun _ => True) v.endHeaderBlock := by
  have hdone : s.IsValidated permitted { v with isHeadSectionDone := true } := { h with }
  have hend := hdone.endRequest hs hfit
  simp only [h.isTrailers, h.messageKind] at hend
  simpa only [Http3HeaderValidator.endHeaderBlock, h.isTrailers,
    h.messageKind, Bool.false_eq_true, if_false] using hend

end Http3Head

end HeadSummary

/-! ## Trailers -/

section Http3Trailers

open Http3

variable {v : Http3HeaderValidator}

end Http3Trailers

/-! ## Where the protocols differ -/

namespace HeadSummary

end HeadSummary

section Agreement

variable (limits : HttpParserLimits) (enableConnectProtocol : Nat)
  (fields : List HpackHeaderField)

end Agreement

namespace HeadSummary

variable {s : HeadSummary}

end HeadSummary

end AsynGyanis.Http
