import AsynGyanis.Http.CookieJar
import AsynGyanis.Library.Reach

/-!
# A cookie jar in use

`Browsing` is a jar that answers requests and takes in responses. Two things
are remembered beside it that the jar itself does not have: for each cookie
when it was first created, and which host set it last. RFC 6265 orders
cookies by the first, and lets a replacement keep it.

The jar gives a replacement a new sequence. So the order is lost when a
cookie is replaced after a younger one was stored that is sent with it. And
the jar compares domains as text only when it sends, so a domain made of
numbers takes in addresses. `Orderly` says of a step that it does neither.
In runs of such steps the jar sends what RFC 6265 says, in its order.
-/

namespace AsynGyanis.Http.HttpCookieJar

open Library List

/-! ## What a request is to send -/

/-- The domain match of RFC 6265, 5.1.3: an address only matches itself. -/
def DomainMatch (host domain : Bytes) : Prop := host = domain ∨
    (∃ label, host = label ++ 0x2E :: domain) ∧ isIpAddressLiteral host = false

/-- The path match of RFC 6265, 5.1.4. -/
def PathMatch (requestPath cookiePath : Bytes) : Prop := ∃ rest, requestPath = cookiePath ++ rest ∧
    (rest = [] ∨ cookiePath.getLast? = some 0x2F ∨ rest.head? = some 0x2F)

/-- The rules of RFC 6265, 5.4 for a cookie that has not expired. -/
structure Applies (entry : Entry) (host : Bytes) (isSecureConnection : Bool)
    (requestPath : Bytes) : Prop where
  domain : if entry.isHostOnly then host = entry.domain
    else DomainMatch host entry.domain
  secure : entry.isSecure = true → isSecureConnection = true
  path : PathMatch (stripQuery requestPath) entry.path

variable {entry : Entry} {requestPath : Bytes} {isSecureConnection : Bool}

/-- The code's match is that of the rules, but for addresses that end in the
domain of the cookie. -/
theorem entryMatches_iff {host : Bytes} (hpath : entry.path ≠ []) (hhost : host.head? ≠ some 0x2E)
    (haddress : entryMatches entry host isSecureConnection requestPath =
      true → entry.isHostOnly = false → host ≠ entry.domain →
      isIpAddressLiteral host = false) :
    entryMatches entry host isSecureConnection requestPath ↔
      Applies entry host isSecureConnection requestPath := by
  have hpaths : pathMatches entry.path (stripQuery requestPath) ↔
      PathMatch (stripQuery requestPath) entry.path :=
    pathMatches_iff.trans (and_iff_right hpath)
  constructor
  · intro h
    have haddress := haddress h
    rw [entryMatches] at h
    split at h
    · cases h
    rename_i hexact
    split at h
    · cases h
    rename_i hwide
    split at h
    · cases h
    rename_i hplain
    refine ⟨?_, by simpa using hplain, hpaths.mp h⟩
    split
    · next honly => simpa [honly] using hexact
    rename_i honly
    have honly := Bool.eq_false_iff.mpr honly
    by_cases heq : host = entry.domain
    · exact .inl heq
    rcases domainMatches_iff.mp (by simpa [honly] using hwide) with
      h' | ⟨label, -, hlabel⟩
    · exact absurd h' heq
    · exact .inr ⟨⟨label, hlabel⟩, haddress honly heq⟩
  · intro ⟨hhostRule, hsecure, hpathRule⟩
    rw [entryMatches, if_neg, if_neg, if_neg]
    · exact hpaths.mpr hpathRule
    · simpa using hsecure
    · intro h
      simp only [Bool.and_eq_true, Bool.not_eq_true'] at h
      rw [if_neg (by simp [h.1])] at hhostRule
      have hmatch : domainMatches host entry.domain := by
        rcases hhostRule with heq | ⟨⟨label, hlabel⟩, -⟩
        · exact domainMatches_iff.mpr (.inl heq)
        refine domainMatches_iff.mpr (.inr ⟨label, ?_, hlabel⟩)
        rintro rfl
        rw [hlabel] at hhost
        exact hhost rfl
      exact nomatch hmatch.symm.trans h.2
    · intro h
      simp only [Bool.and_eq_true, decide_eq_true_eq] at h
      rw [if_pos h.1] at hhostRule
      exact h.2 hhostRule

/-- The inner domain is the outer one or ends in a dot and the outer one. -/
def Within (inner outer : Bytes) : Prop := (0x2E :: outer).IsSuffix (0x2E :: inner)

/-- Two cookies with paths of one length that one request may send. -/
def CanMeet (left right : Scope) : Prop := left.path = right.path ∧
    ((if left.isHostOnly then right.domain = left.domain
      else Within right.domain left.domain) ∨
    (if right.isHostOnly then left.domain = right.domain
      else Within left.domain right.domain))

instance (left right : Scope) : Decidable (CanMeet left right) := by
  unfold CanMeet Within
  infer_instance

theorem CanMeet.symm {left right : Scope} (h : CanMeet left right) : CanMeet right left :=
  ⟨h.1.symm, h.2.symm⟩

theorem Within.of_domainMatches {host domain : Bytes}
    (h : domainMatches host domain) : Within host domain := by
  rcases domainMatches_iff.mp h with rfl | ⟨label, -, rfl⟩
  · exact suffix_refl _
  · exact ⟨0x2E :: label, rfl⟩

theorem canMeet_of_matches {left right : Entry} {host : Bytes}
    (hleft : entryMatches left host isSecureConnection requestPath)
    (hright : entryMatches right host isSecureConnection requestPath)
    (hlength : left.path.length = right.path.length) : CanMeet left.scope right.scope := by
  have hrules : ∀ entry : Entry, entryMatches entry host isSecureConnection requestPath →
      (if entry.isHostOnly then host = entry.domain
        else Within host entry.domain) ∧
      entry.path.IsPrefix (stripQuery requestPath) := by
    intro entry h
    simp only [entryMatches] at h
    split at h
    · cases h
    rename_i hexact
    split at h
    · cases h
    rename_i hwide
    split at h
    · cases h
    obtain ⟨-, rest, hrest, -⟩ := pathMatches_iff.mp h
    refine ⟨?_, rest, hrest.symm⟩
    split
    · next honly => simpa [honly] using hexact
    · next honly =>
      exact Within.of_domainMatches (by simpa [honly] using hwide)
  obtain ⟨hleftHost, hleftPath⟩ := hrules left hleft
  obtain ⟨hrightHost, hrightPath⟩ := hrules right hright
  refine ⟨(prefix_of_prefix_length_le hleftPath hrightPath
    (Nat.le_of_eq hlength)).eq_of_length hlength, ?_⟩
  show (if left.isHostOnly then right.domain = left.domain
      else Within right.domain left.domain) ∨
    (if right.isHostOnly then left.domain = right.domain
      else Within left.domain right.domain)
  by_cases honly : left.isHostOnly
  · rw [if_pos honly] at hleftHost
    subst hleftHost
    right
    exact hrightHost
  by_cases honly' : right.isHostOnly
  · rw [if_pos honly'] at hrightHost
    subst hrightHost
    left
    exact hleftHost
  rw [if_neg honly] at hleftHost ⊢
  rw [if_neg honly'] at hrightHost ⊢
  exact (Nat.le_total (0x2E :: left.domain).length (0x2E :: right.domain).length).imp
    (suffix_of_suffix_length_le hleftHost hrightHost)
    (suffix_of_suffix_length_le hrightHost hleftHost)

/-! ## Browsing -/

structure Browsing where
  jar : HttpCookieJar
  now : Int := 0
  /-- The sequence with which a cookie of this scope was first stored. -/
  created : Scope → Nat := fun _ => 0
  /-- The host whose response set the cookie of this scope last. -/
  setBy : Scope → Bytes := fun _ => []

inductive Visit
  | response (requestHost : Bytes) (isSecureConnection : Bool)
      (requestPath : Bytes) (setCookieHeaderValues : List Bytes)
      (receivedAt : Int)
  | request (requestHost : Bytes) (isSecureConnection : Bool) (requestPath : Bytes) (now : Int)

namespace Browsing

/-- What one Set-Cookie field of the host's response does. A cookie that is
in the jar already keeps its creation. -/
def take (browsing : Browsing) (requestDomain : Bytes) : Verdict → Browsing
  | .kept entry =>
    { browsing with
      jar := browsing.jar.keep entry
      created := Function.update browsing.created entry.scope
        (if entry.scope ∈ browsing.jar.entries.map Entry.scope then
          browsing.created entry.scope
        else browsing.jar.sequence)
      setBy := Function.update browsing.setBy entry.scope requestDomain }
  | verdict => { browsing with jar := browsing.jar.storeVerdict verdict }

def step (parseHttpDate : Bytes → Option Int) (browsing : Browsing) : Visit → Browsing
  | .response requestHost isSecureConnection requestPath setCookieHeaderValues receivedAt =>
    let requestDomain := normalizeDomain requestHost
    if requestDomain = [] then { browsing with now := receivedAt }
    else setCookieHeaderValues.foldl (fun browsing headerValue =>
        browsing.take requestDomain (verdictOf parseHttpDate requestDomain
          requestPath isSecureConnection receivedAt headerValue))
      { browsing with
        jar := browsing.jar.dropExpired receivedAt
        now := receivedAt }
  | .request _ _ _ now => { browsing with now := now }

/-- Time does not go back. -/
def Valid (browsing : Browsing) : Visit → Prop
  | .response _ _ _ _ receivedAt => browsing.now ≤ receivedAt
  | .request _ _ _ now => browsing.now ≤ now

instance (browsing : Browsing) : ∀ visit, Decidable (browsing.Valid visit)
  | .response .. | .request .. => inferInstanceAs (Decidable (_ ≤ _))

end Browsing

open Browsing

/-- The cookie does not replace one that is older than another cookie it can
be sent with. -/
def KeepsOrder (jar : HttpCookieJar) : Verdict → Prop
  | .kept entry => ∀ stored ∈ jar.entries, stored.scope = entry.scope →
      ∀ other ∈ jar.entries, stored.sequence < other.sequence → ¬CanMeet stored.scope other.scope
  | .ignored | .removed _ => True

instance (jar : HttpCookieJar) : ∀ verdict, Decidable (jar.KeepsOrder verdict)
  | .kept entry => inferInstanceAs (Decidable (∀ stored ∈ jar.entries,
      stored.scope = entry.scope → ∀ other ∈ jar.entries,
        stored.sequence < other.sequence → ¬CanMeet stored.scope other.scope))
  | .ignored | .removed _ => inferInstanceAs (Decidable True)

/-- So do all cookies of a response, one after the other. -/
def KeepOrder (jar : HttpCookieJar) : List Verdict → Prop
  | [] => True
  | verdict :: rest =>
    jar.KeepsOrder verdict ∧ (jar.storeVerdict verdict).KeepOrder rest

instance : ∀ (jar : HttpCookieJar) (verdicts : List Verdict), Decidable (jar.KeepOrder verdicts)
  | _, [] => inferInstanceAs (Decidable True)
  | jar, verdict :: rest =>
    have : Decidable ((jar.storeVerdict verdict).KeepOrder rest) := instDecidableKeepOrder _ _
    inferInstanceAs (Decidable (jar.KeepsOrder verdict ∧ _))

/-- No cookie replaces one that is older than another it can be sent with,
and no request goes to an address that ends in the domain of a cookie which
the jar would send there. -/
def Browsing.Orderly (parseHttpDate : Bytes → Option Int) (browsing : Browsing) : Visit → Prop
  | .response requestHost isSecureConnection requestPath setCookieHeaderValues receivedAt =>
    normalizeDomain requestHost ≠ [] →
    (browsing.jar.dropExpired receivedAt).KeepOrder
      (setCookieHeaderValues.map (verdictOf parseHttpDate
        (normalizeDomain requestHost) requestPath isSecureConnection
        receivedAt))
  | .request requestHost isSecureConnection requestPath now =>
    isIpAddressLiteral (normalizeDomain requestHost) = true →
    ∀ entry ∈ browsing.jar.entries, entry.isHostOnly = false → isExpired entry now = false →
      entryMatches entry (normalizeDomain requestHost) isSecureConnection requestPath = true →
      normalizeDomain requestHost = entry.domain

instance (parseHttpDate : Bytes → Option Int) (browsing : Browsing) :
    ∀ visit, Decidable (browsing.Orderly parseHttpDate visit)
  | .response requestHost isSecureConnection requestPath setCookieHeaderValues receivedAt =>
    inferInstanceAs (Decidable (normalizeDomain requestHost ≠ [] →
      (browsing.jar.dropExpired receivedAt).KeepOrder
        (setCookieHeaderValues.map (verdictOf parseHttpDate
          (normalizeDomain requestHost) requestPath isSecureConnection
          receivedAt))))
  | .request requestHost isSecureConnection requestPath now =>
    inferInstanceAs (Decidable
      (isIpAddressLiteral (normalizeDomain requestHost) = true →
      ∀ entry ∈ browsing.jar.entries, entry.isHostOnly = false → isExpired entry now = false →
        entryMatches entry (normalizeDomain requestHost) isSecureConnection requestPath = true →
        normalizeDomain requestHost = entry.domain))

/-! ## What holds in every jar -/

/-- Each scope has one cookie, sequences and creations are older than the
next sequence, the limits hold, and cookies that can meet are in the order of
their creation. A cookie's domain is one its setter may speak for. -/
structure Browsing.Inv (browsing : Browsing) : Prop where
  scopes : (browsing.jar.entries.map Entry.scope).Nodup
  sequences : (browsing.jar.entries.map Entry.sequence).Nodup
  fresh : ∀ entry ∈ browsing.jar.entries, entry.sequence < browsing.jar.sequence ∧
      browsing.created entry.scope < browsing.jar.sequence
  perDomain : 0 < browsing.jar.limits.maximumCookiesPerDomain →
    ∀ domain, domainCount browsing.jar.entries domain ≤ browsing.jar.limits.maximumCookiesPerDomain
  total : 0 < browsing.jar.limits.maximumTotalCookies →
    browsing.jar.entries.length ≤ browsing.jar.limits.maximumTotalCookies
  order : ∀ left ∈ browsing.jar.entries, ∀ right ∈ browsing.jar.entries,
    left.sequence < right.sequence → CanMeet left.scope right.scope →
      browsing.created left.scope < browsing.created right.scope
  domain : ∀ entry ∈ browsing.jar.entries,
    if entry.isHostOnly then entry.domain = browsing.setBy entry.scope
    else DomainMatch (browsing.setBy entry.scope) entry.domain
  path : ∀ entry ∈ browsing.jar.entries, entry.path ≠ []

theorem Browsing.Inv.sublist {browsing : Browsing} (h : browsing.Inv) {entries : List Entry}
    (hsub : entries.Sublist browsing.jar.entries) (now : Int) :
    Browsing.Inv { browsing with
      jar := { browsing.jar with entries := entries }
      now := now } where
  scopes := h.scopes.sublist (hsub.map _)
  sequences := h.sequences.sublist (hsub.map _)
  fresh := fun entry hmem => h.fresh entry (hsub.mem hmem)
  perDomain := fun hlimit domain =>
    hsub.countP_le.trans (h.perDomain hlimit domain)
  total := fun hlimit => hsub.length_le.trans (h.total hlimit)
  order := fun left hleft right hright =>
    h.order left (hsub.mem hleft) right (hsub.mem hright)
  domain := fun entry hmem => h.domain entry (hsub.mem hmem)
  path := fun entry hmem => h.path entry (hsub.mem hmem)

variable {requestDomain : Bytes} {parseHttpDate : Bytes → Option Int}

theorem verdictOf_kept {headerValue : Bytes} {receivedAt : Int}
    (h : verdictOf parseHttpDate requestDomain requestPath
      isSecureConnection receivedAt headerValue = .kept entry) :
    (if entry.isHostOnly then entry.domain = requestDomain
      else DomainMatch requestDomain entry.domain) ∧ entry.path ≠ [] := by
  rw [verdictOf] at h
  split at h
  · cases h
  rename_i cookie hcookie
  split at h
  · cases h
  split at h
  · cases h
  rename_i bare hbare
  split at h
  · cases h
  split at h
  · cases h
  obtain rfl := Verdict.kept.inj h
  refine ⟨?_, ?_⟩
  · have hdomain := scopedEntry_domain hbare
    show if bare.isHostOnly then bare.domain = requestDomain
      else DomainMatch requestDomain bare.domain
    split
    · next honly => rwa [if_pos honly] at hdomain
    rename_i honly
    rw [if_neg honly] at hdomain
    rcases domainMatches_iff.mp hdomain.2 with
      heq | ⟨label, -, hlabel⟩
    · exact .inl heq
    · exact .inr ⟨⟨label, hlabel⟩, hdomain.1⟩
  · show bare.path ≠ []
    rw [scopedEntry_path hbare]
    cases hpath : cookie.path with
    | none => exact computeDefaultPath_ne_nil requestPath
    | some path =>
      rintro rfl
      exact HttpCookie.parseSetCookie_path hcookie hpath

/-- The entries of the jar before the limits are enforced. -/
def replaced (jar : HttpCookieJar) (entry : Entry) : List Entry :=
  jar.entries.filter (·.scope ≠ entry.scope) ++ [{ entry with sequence := jar.sequence }]

theorem mem_replaced {jar : HttpCookieJar} {stored : Entry} : stored ∈ jar.replaced entry ↔
      (stored ∈ jar.entries ∧ stored.scope ≠ entry.scope) ∨
        stored = { entry with sequence := jar.sequence } := by
  rw [replaced, mem_append, mem_filter, mem_singleton, decide_eq_true_eq]

theorem keep_entries_sublist (jar : HttpCookieJar) (entry : Entry) :
    (jar.keep entry).entries.Sublist (jar.replaced entry) := enforceLimits_sublist _ _

theorem Browsing.created_take (browsing : Browsing) (requestDomain : Bytes)
    (entry : Entry) (scope : Scope) :
    (browsing.take requestDomain (.kept entry)).created scope =
      if scope = entry.scope ∧ scope ∉ browsing.jar.entries.map Entry.scope then
        browsing.jar.sequence
      else browsing.created scope := by
  show Function.update _ _ _ _ = _
  by_cases hscope : scope = entry.scope
  · subst hscope
    rw [Function.update_self]
    by_cases hold : entry.scope ∈ browsing.jar.entries.map Entry.scope
    · rw [if_pos hold, if_neg (fun h => h.2 hold)]
    · rw [if_neg hold, if_pos ⟨rfl, hold⟩]
  · rw [Function.update_of_ne hscope, if_neg (fun h => hscope h.1)]

theorem Browsing.created_take_of_ne (browsing : Browsing) (requestDomain : Bytes) {stored : Entry}
    (h : stored.scope ≠ entry.scope) :
    (browsing.take requestDomain (.kept entry)).created stored.scope =
      browsing.created stored.scope := by
  rw [browsing.created_take, if_neg (fun h' => h h'.1)]

theorem Browsing.Inv.keep {browsing : Browsing} (h : browsing.Inv) {entry : Entry}
    (hdomain : if entry.isHostOnly then entry.domain = requestDomain
      else DomainMatch requestDomain entry.domain) (hpath : entry.path ≠ [])
    (horder : browsing.jar.KeepsOrder (.kept entry)) :
    (browsing.take requestDomain (.kept entry)).Inv := by
  have hsub := keep_entries_sublist browsing.jar entry
  have hmem : ∀ stored ∈ (browsing.jar.keep entry).entries,
      (stored ∈ browsing.jar.entries ∧ stored.scope ≠ entry.scope) ∨
        stored = { entry with sequence := browsing.jar.sequence } :=
    fun stored hstored => mem_replaced.mp (hsub.mem hstored)
  have hsetBy : ∀ stored : Entry, stored.scope ≠ entry.scope →
      (browsing.take requestDomain (.kept entry)).setBy stored.scope =
        browsing.setBy stored.scope :=
    fun stored hother => Function.update_of_ne hother _ _
  refine ⟨List.Nodup.sublist (hsub.map _) ?_, List.Nodup.sublist (hsub.map _) ?_, ?_,
    (enforceLimits_within _ _).1, (enforceLimits_within _ _).2, ?_, ?_, ?_⟩
  · rw [replaced, map_append, nodup_append]
    refine ⟨h.scopes.sublist (filter_sublist.map _), nodup_singleton _, ?_⟩
    rintro scope hscope other hother rfl
    obtain ⟨stored, hstored, rfl⟩ := mem_map.mp hscope
    have hnew := (mem_filter.mp hstored).2
    rw [decide_eq_true_eq] at hnew
    exact hnew (mem_singleton.mp hother)
  · rw [replaced, map_append, nodup_append]
    refine ⟨h.sequences.sublist (filter_sublist.map _), nodup_singleton _, ?_⟩
    rintro sequence hsequence other hother rfl
    obtain ⟨stored, hstored, rfl⟩ := mem_map.mp hsequence
    have hlt := (h.fresh stored (mem_of_mem_filter hstored)).1
    rw [mem_singleton.mp hother] at hlt
    exact Nat.lt_irrefl _ hlt
  · intro stored hstored
    show stored.sequence < browsing.jar.sequence + 1 ∧
      _ < browsing.jar.sequence + 1
    rcases hmem stored hstored with ⟨hold, hother⟩ | rfl
    · rw [browsing.created_take_of_ne requestDomain hother]
      have := h.fresh stored hold
      omega
    rw [browsing.created_take]
    refine ⟨Nat.lt_succ_self _, ?_⟩
    split
    · exact Nat.lt_succ_self _
    rename_i hkept
    rw [not_and, not_not] at hkept
    obtain ⟨old, hold, hscope⟩ := mem_map.mp (hkept rfl)
    rw [← hscope]
    exact Nat.lt_succ_of_lt (h.fresh old hold).2
  · intro left hleft right hright hlt hmeet
    rcases hmem left hleft with ⟨hleftOld, hleftOther⟩ | rfl
    · rw [browsing.created_take_of_ne requestDomain hleftOther]
      rcases hmem right hright with ⟨hrightOld, hrightOther⟩ | rfl
      · rw [browsing.created_take_of_ne requestDomain hrightOther]
        exact h.order left hleftOld right hrightOld hlt hmeet
      rw [browsing.created_take]
      split
      · exact (h.fresh left hleftOld).2
      -- the cookie that is replaced was not the older of the two
      next hkept =>
      rw [not_and, not_not] at hkept
      obtain ⟨old, hold, hscope⟩ := mem_map.mp (hkept rfl)
      have hscope : old.scope = entry.scope := hscope
      have hmeet : CanMeet left.scope old.scope := hscope ▸ hmeet
      rcases Nat.lt_trichotomy left.sequence old.sequence with
        holder | hsame | hyounger
      · have := h.order left hleftOld old hold holder hmeet
        rwa [hscope] at this
      · have := inj_on_of_nodup_map h.sequences hleftOld hold hsame
        exact absurd (this ▸ hscope) hleftOther
      · exact absurd hmeet.symm (horder old hold hscope left hleftOld hyounger)
    · rcases hmem right hright with ⟨hrightOld, -⟩ | rfl
      · exact absurd hlt (Nat.lt_asymm (h.fresh right hrightOld).1)
      · exact absurd hlt (Nat.lt_irrefl _)
  · intro stored hstored
    rcases hmem stored hstored with ⟨hold, hother⟩ | rfl
    · rw [hsetBy stored hother]
      exact h.domain stored hold
    have hset : (browsing.take requestDomain (.kept entry)).setBy
        entry.scope = requestDomain := Function.update_self ..
    show if entry.isHostOnly then entry.domain = _
      else DomainMatch _ entry.domain
    exact hset.symm ▸ hdomain
  · intro stored hstored
    rcases hmem stored hstored with ⟨hold, -⟩ | rfl
    · exact h.path stored hold
    · exact hpath

/-! ## Every run -/

theorem Browsing.take_jar (browsing : Browsing) (requestDomain : Bytes) (verdict : Verdict) :
    (browsing.take requestDomain verdict).jar = browsing.jar.storeVerdict verdict := by
  cases verdict <;> rfl

theorem Browsing.foldl_take_jar (verdicts : List Verdict)
    (browsing : Browsing) (requestDomain : Bytes) :
    (verdicts.foldl (take · requestDomain) browsing).jar =
      verdicts.foldl storeVerdict browsing.jar := by
  induction verdicts generalizing browsing with
  | nil => rfl
  | cons verdict verdicts ih =>
    rw [foldl_cons, foldl_cons, ih, browsing.take_jar]

theorem Browsing.step_jar (parseHttpDate : Bytes → Option Int)
    (browsing : Browsing) (requestHost : Bytes) (isSecureConnection : Bool)
    (requestPath : Bytes) (setCookieHeaderValues : List Bytes) (receivedAt : Int) :
    (browsing.step parseHttpDate (.response requestHost isSecureConnection
      requestPath setCookieHeaderValues receivedAt)).jar =
      storeFromResponse parseHttpDate browsing.jar requestHost
        isSecureConnection requestPath setCookieHeaderValues receivedAt := by
  simp only [step, storeFromResponse]
  split
  · rfl
  have := foldl_take_jar
    (setCookieHeaderValues.map (verdictOf parseHttpDate
      (normalizeDomain requestHost) requestPath isSecureConnection
      receivedAt))
    { browsing with
      jar := browsing.jar.dropExpired receivedAt
      now := receivedAt }
    (normalizeDomain requestHost)
  rwa [foldl_map, foldl_map] at this

theorem Browsing.Inv.take {browsing : Browsing} (h : browsing.Inv)
    {requestPath headerValue : Bytes} {isSecureConnection : Bool} {receivedAt : Int}
    (horder : browsing.jar.KeepsOrder (verdictOf parseHttpDate requestDomain
      requestPath isSecureConnection receivedAt headerValue)) :
    (browsing.take requestDomain (verdictOf parseHttpDate requestDomain
      requestPath isSecureConnection receivedAt headerValue)).Inv := by
  cases hverdict : verdictOf parseHttpDate requestDomain requestPath
      isSecureConnection receivedAt headerValue with
  | ignored => exact h
  | removed scope => exact h.sublist filter_sublist browsing.now
  | kept entry =>
    rw [hverdict] at horder
    obtain ⟨hdomain, hpath⟩ := verdictOf_kept hverdict
    exact h.keep hdomain hpath horder

theorem Browsing.Inv.foldl_take
    {receivedAt : Int} (values : List Bytes) {browsing : Browsing} (h : browsing.Inv)
    (horder : browsing.jar.KeepOrder (values.map (verdictOf parseHttpDate
      requestDomain requestPath isSecureConnection receivedAt))) :
    (values.foldl (fun browsing headerValue =>
      browsing.take requestDomain (verdictOf parseHttpDate requestDomain
        requestPath isSecureConnection receivedAt headerValue))
      browsing).Inv := by
  induction values generalizing browsing with
  | nil => exact h
  | cons value values ih =>
    refine ih (h.take horder.1) ?_
    rw [browsing.take_jar]
    exact horder.2

theorem Browsing.Inv.step {browsing : Browsing} (h : browsing.Inv)
    {visit : Visit} (horder : browsing.Orderly parseHttpDate visit) :
    (browsing.step parseHttpDate visit).Inv := by
  cases visit with
  | request requestHost isSecureConnection requestPath now =>
    exact h.sublist (List.Sublist.refl _) now
  | response requestHost isSecureConnection requestPath values receivedAt =>
    simp only [Browsing.step]
    split
    · exact h.sublist (List.Sublist.refl _) receivedAt
    rename_i hhost
    exact Browsing.Inv.foldl_take values (h.sublist filter_sublist receivedAt) (horder hhost)

theorem storeVerdict_limits (jar : HttpCookieJar) (verdict : Verdict) :
    (jar.storeVerdict verdict).limits = jar.limits := by
  cases verdict <;> rfl

theorem Browsing.step_limits (parseHttpDate : Bytes → Option Int)
    (browsing : Browsing) (visit : Visit) :
    (browsing.step parseHttpDate visit).jar.limits = browsing.jar.limits := by
  cases visit with
  | request => rfl
  | response requestHost isSecureConnection requestPath values receivedAt =>
    rw [browsing.step_jar]
    simp only [storeFromResponse]
    split
    · rfl
    exact foldlRecOn
      (motive := fun jar : HttpCookieJar =>
        jar.limits = browsing.jar.limits) _ _ rfl
      fun jar hjar value _ => (storeVerdict_limits jar _).trans hjar

theorem isExpired_eq_false {now : Int} : isExpired entry now = false ↔
      ∀ expiresAt ∈ entry.expiresAt, now < expiresAt := by
  rw [isExpired]
  cases entry.expiresAt with
  | none => exact ⟨fun _ => nofun, fun _ => rfl⟩
  | some expiresAt => simp

theorem Browsing.Inv.mem_cookiesFor_iff {browsing : Browsing} (h : browsing.Inv)
    {requestHost : Bytes} {now : Int}
    (horderly : browsing.Orderly parseHttpDate (.request requestHost
      isSecureConnection requestPath now)) (entry : Entry) :
    entry ∈ browsing.jar.cookiesFor requestHost isSecureConnection requestPath now ↔
      entry ∈ browsing.jar.entries ∧ (∀ expiresAt ∈ entry.expiresAt, now < expiresAt) ∧
        Applies entry (normalizeDomain requestHost) isSecureConnection
          requestPath := by
  rw [mem_cookiesFor, isExpired_eq_false]
  refine and_congr_right fun hmem => and_congr_right fun hfresh =>
    entryMatches_iff (h.path entry hmem) (normalizeDomain_head requestHost)
      fun hmatch hwide hne => ?_
  rw [← Bool.not_eq_true]
  intro haddress
  exact hne (horderly haddress entry hmem hwide (isExpired_eq_false.mpr hfresh) hmatch)

theorem Browsing.Inv.cookiesFor_order {browsing : Browsing}
    (h : browsing.Inv) (requestHost : Bytes) (isSecureConnection : Bool)
    (requestPath : Bytes) (now : Int) :
    (browsing.jar.cookiesFor requestHost isSecureConnection requestPath
      now).Pairwise (fun left right =>
        right.path.length < left.path.length ∨ left.path.length = right.path.length ∧
            browsing.created left.scope < browsing.created right.scope) := by
  have hnodup := cookiesFor_nodup (List.Nodup.of_map _ h.scopes) requestHost
    isSecureConnection requestPath now
  refine ((browsing.jar.cookiesFor_sorted requestHost isSecureConnection
    requestPath now).and hnodup).imp_of_mem ?_
  intro left right hleft hright ⟨hbefore, hne⟩
  obtain ⟨hleftMem, -, hleftMatch⟩ := mem_cookiesFor.mp hleft
  obtain ⟨hrightMem, -, hrightMatch⟩ := mem_cookiesFor.mp hright
  rw [SentBefore] at hbefore
  split at hbefore
  · exact .inl hbefore
  rename_i hlength
  rw [ne_eq, not_not] at hlength
  have hlt : left.sequence < right.sequence := Nat.lt_of_le_of_ne hbefore fun hsame =>
      hne (inj_on_of_nodup_map h.sequences hleftMem hrightMem hsame)
  exact .inr ⟨hlength, h.order left hleftMem right hrightMem hlt
    (canMeet_of_matches hleftMatch hrightMatch hlength)⟩

/-- In every run whose steps are orderly, a scope has one cookie and the
limits hold. What an orderly request sends is what applies to it and has not
expired, by the length of its path and then by its creation. No host gets a
cookie of a domain that it or the setter of the cookie is not part of. -/
theorem sends_what_applies {parseHttpDate : Bytes → Option Int}
    {limits : Limits} {start : Int} {browsing : Browsing}
    (h : Reach (step parseHttpDate) (fun browsing visit =>
        browsing.Valid visit ∧ browsing.Orderly parseHttpDate visit)
      { jar := { limits := limits }, now := start } browsing) :
    (browsing.jar.entries.map Entry.scope).Nodup ∧
    (0 < limits.maximumCookiesPerDomain → ∀ domain, domainCount browsing.jar.entries domain ≤
        limits.maximumCookiesPerDomain) ∧
    (0 < limits.maximumTotalCookies → browsing.jar.entries.length ≤ limits.maximumTotalCookies) ∧
    ∀ requestHost isSecureConnection requestPath now,
      browsing.Valid (.request requestHost isSecureConnection requestPath now) →
      browsing.Orderly parseHttpDate (.request requestHost isSecureConnection requestPath now) →
      let sent := browsing.jar.cookiesFor requestHost isSecureConnection requestPath now
      browsing.jar.buildRequestHeader requestHost isSecureConnection
        requestPath now = (if sent = [] then none
          else some ((asciiText "; ").intercalate (sent.map cookiePair))) ∧
      sent.Nodup ∧
      (∀ entry, entry ∈ sent ↔ entry ∈ browsing.jar.entries ∧
        (∀ expiresAt ∈ entry.expiresAt, now < expiresAt) ∧
        Applies entry (normalizeDomain requestHost) isSecureConnection requestPath) ∧
      sent.Pairwise (fun left right =>
        right.path.length < left.path.length ∨ left.path.length = right.path.length ∧
            browsing.created left.scope < browsing.created right.scope) ∧
      ∀ entry ∈ sent,
        if entry.isHostOnly then
          normalizeDomain requestHost = browsing.setBy entry.scope
        else DomainMatch (normalizeDomain requestHost) entry.domain ∧
          DomainMatch (browsing.setBy entry.scope) entry.domain := by
  have hinv : browsing.Inv ∧ browsing.jar.limits = limits := by
    refine h.invariant (P := fun browsing : Browsing => browsing.Inv ∧ browsing.jar.limits = limits)
      ⟨⟨nodup_nil, nodup_nil, nofun, fun _ _ => Nat.zero_le _,
        fun _ => Nat.zero_le _, nofun, nofun, nofun⟩, rfl⟩ ?_
    rintro browsing visit ⟨hinv, hlimits⟩ ⟨-, horderly⟩
    exact ⟨hinv.step horderly, (browsing.step_limits parseHttpDate visit).trans hlimits⟩
  obtain ⟨hinv, rfl⟩ := hinv
  refine ⟨hinv.scopes, hinv.perDomain, hinv.total, ?_⟩
  intro requestHost isSecureConnection requestPath now _ horderly
  have happlies := hinv.mem_cookiesFor_iff horderly
  refine ⟨buildRequestHeader_eq .., cookiesFor_nodup
    (List.Nodup.of_map _ hinv.scopes) .., happlies, ?_, ?_⟩
  · exact hinv.cookiesFor_order requestHost isSecureConnection requestPath now
  intro entry hsent
  obtain ⟨hmem, -, hrules⟩ := (happlies entry).mp hsent
  have hhost := hrules.domain
  have hsetter := hinv.domain entry hmem
  split
  · next honly =>
    rw [if_pos honly] at hhost hsetter
    exact hhost.trans hsetter
  rename_i honly
  rw [if_neg honly] at hhost hsetter
  exact ⟨hhost, hsetter⟩

/-- Two cookies of one path and one of a longer path go out in order, and the
one for the whole domain goes to another of its hosts. -/
theorem sends_in_order :
    let browsing := [ Visit.response (asciiText "shop.example.com") true (asciiText "/cart")
          [asciiText "a=1", asciiText "b=2; Domain=example.com", asciiText "c=3; Path=/cart"] 0,
        Visit.response (asciiText "shop.example.com") true (asciiText "/")
          [asciiText "c=4; Path=/cart", asciiText "b=5; Domain=Example.com"]
          10].foldl (step fun _ => none) { jar := {} };
    (browsing.jar.entries.map Entry.scope).Nodup ∧
    browsing.jar.entries.length = 3 ∧
    browsing.jar.buildRequestHeader (asciiText "SHOP.example.com") true
      (asciiText "/cart?id=1") 20 = some (asciiText "c=4; a=1; b=5") ∧
    (browsing.jar.cookiesFor (asciiText "www.example.com") false
      (asciiText "/cart") 20).map (·.value) = [asciiText "5"] ∧
    (browsing.jar.cookiesFor (asciiText "www.example.com") false (asciiText "/cart") 20).Nodup := by
  intro browsing
  have hreach : Reach (step fun _ => none)
      (fun browsing visit => browsing.Valid visit ∧ browsing.Orderly (fun _ => none) visit)
      { jar := { limits := {} }, now := 0 } browsing :=
    Reach.run .start _ (by decide +kernel)
  obtain ⟨hscopes, -, -, hsent⟩ := sends_what_applies hreach
  refine ⟨hscopes, by decide +kernel, ?_, by decide +kernel, ?_⟩
  · decide +kernel
  · exact (hsent (asciiText "www.example.com") false (asciiText "/cart") 20
      (by decide +kernel) (by decide +kernel)).2.1

/-- A cookie that is replaced falls behind a younger one of its path. A
domain of numbers that one host set a cookie for reaches an address. And a
jar whose limits are zero keeps a cookie. -/
theorem replaced_cookie_loses_its_place :
    (let browsing := [ Visit.response (asciiText "a.example") true (asciiText "/")
          [asciiText "a=1", asciiText "b=1", asciiText "a=2"] 0].foldl
        (step fun _ => none) { jar := {} };
      browsing.jar.buildRequestHeader (asciiText "a.example") true
        (asciiText "/") 1 = some (asciiText "b=1; a=2") ∧
      (browsing.jar.cookiesFor (asciiText "a.example") true (asciiText "/")
        1).map (fun entry => browsing.created entry.scope) = [1, 0]) ∧
    (let jar := storeFromResponse (fun _ => none) {} (asciiText "x.0.0.1")
        true (asciiText "/") [asciiText "sid=1; Domain=0.0.1"] 0;
      isIpAddressLiteral (asciiText "127.0.0.1") = true ∧
      jar.buildRequestHeader (asciiText "127.0.0.1") true (asciiText "/") 1 =
        some (asciiText "sid=1")) ∧
    (storeFromResponse (fun _ => none) { limits := ⟨0, 0⟩ }
      (asciiText "a.example") true (asciiText "/") [asciiText "a=1"]
      0).entries.length = 1 := by
  decide +kernel

end AsynGyanis.Http.HttpCookieJar
