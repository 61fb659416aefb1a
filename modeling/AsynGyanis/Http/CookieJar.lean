import AsynGyanis.Http.Cookie

/-!
# The cookie jar

`HttpCookieJar` keeps what responses set and says what a request sends. The
operations are the code's, one definition each: `storeFromResponse` drops
what has expired and then takes the Set-Cookie fields one by one;
`enforceLimits` puts cookies out until both limits hold; `cookiesFor` and
`buildRequestHeader` choose and order what is sent.

Each comes with the lemma that says what it does. Matching is stated without
positions: a host matches the domain of a cookie if it is that domain or
ends in a dot and that domain.
-/

namespace AsynGyanis.Http

open List

/-! ## Hosts and paths -/

/-- Lower case, without leading dots. -/
def normalizeDomain (domain : Bytes) : Bytes := (domain.dropWhile (· = 0x2E)).map toLowerAscii

def domainMatches (requestHost cookieDomain : Bytes) : Bool :=
  if requestHost = cookieDomain then true
  else if requestHost.length ≤ cookieDomain.length + 1 then false
  else
    let suffix := requestHost.drop (requestHost.length - cookieDomain.length)
    suffix = cookieDomain && requestHost[requestHost.length - cookieDomain.length - 1]? = some 0x2E

def pathMatches (cookiePath requestPath : Bytes) : Bool :=
  if cookiePath = [] then false
  else if requestPath.length < cookiePath.length then false
  else if requestPath.take cookiePath.length ≠ cookiePath then false
  else if requestPath.length = cookiePath.length ∨ cookiePath.getLast? = some 0x2F then true
  else requestPath[cookiePath.length]? = some 0x2F

def stripQuery (requestPath : Bytes) : Bytes := requestPath.takeWhile (· ≠ 0x3F)

theorem domainMatches_iff {requestHost cookieDomain : Bytes} :
    domainMatches requestHost cookieDomain ↔ requestHost = cookieDomain ∨
        ∃ label, label ≠ [] ∧ requestHost = label ++ 0x2E :: cookieDomain := by
  rw [domainMatches]
  by_cases heq : requestHost = cookieDomain
  · simp [heq]
  rw [if_neg heq]
  constructor
  · intro h
    split at h
    · cases h
    simp only [Bool.and_eq_true, decide_eq_true_eq] at h
    -- what stands before the suffix ends in the dot
    have hdrop : requestHost.drop (requestHost.length - cookieDomain.length - 1) =
          0x2E :: cookieDomain := by
      have hnext : requestHost.length - cookieDomain.length - 1 + 1 =
          requestHost.length - cookieDomain.length := by omega
      rw [drop_eq_getElem?_toList_append, h.2, hnext, h.1]
      rfl
    refine .inr ⟨requestHost.take (requestHost.length - cookieDomain.length - 1), ?_, ?_⟩
    · intro hnil
      have := congrArg length hnil
      rw [length_take, length_nil] at this
      omega
    · rw [← hdrop, take_append_drop]
  · rintro (h | ⟨label, hlabel, rfl⟩)
    · exact absurd h heq
    have hpos := length_pos_of_ne_nil hlabel
    have hlength : (label ++ 0x2E :: cookieDomain).length -
        cookieDomain.length = label.length + 1 := by
      rw [length_append, length_cons]
      omega
    have hlong : ¬(label ++ 0x2E :: cookieDomain).length ≤ cookieDomain.length + 1 := by
      omega
    rw [if_neg hlong, hlength]
    simp

variable {requestPath : Bytes}

theorem pathMatches_iff {cookiePath : Bytes} : pathMatches cookiePath requestPath ↔
      cookiePath ≠ [] ∧ ∃ rest, requestPath = cookiePath ++ rest ∧
        (rest = [] ∨ cookiePath.getLast? = some 0x2F ∨ rest.head? = some 0x2F) := by
  rw [pathMatches]
  by_cases hnil : cookiePath = []
  · simp [hnil]
  rw [if_neg hnil]
  constructor
  · intro h
    split at h
    · cases h
    split at h
    · cases h
    rename_i hlong htake
    rw [ne_eq, not_not] at htake
    refine ⟨hnil, requestPath.drop cookiePath.length, ?_, ?_⟩
    · conv_rhs => rw [← htake]
      rw [length_take, Nat.min_eq_left (by omega), take_append_drop]
    rw [head?_drop]
    split at h
    · next hend =>
      rcases hend with hend | hend
      · exact .inl (drop_eq_nil_of_le (by omega))
      · exact .inr (.inl hend)
    · exact .inr (.inr (of_decide_eq_true h))
  · rintro ⟨-, rest, rfl, hrest⟩
    rw [if_neg (by rw [length_append]; omega), if_neg (by simp)]
    split
    · rfl
    rename_i hend
    rw [not_or] at hend
    rcases hrest with rfl | hslash | hslash
    · exact absurd (by rw [append_nil]) hend.1
    · exact absurd hslash hend.2
    rw [getElem?_append_right (Nat.le_refl _), Nat.sub_self, ← head?_eq_getElem?, hslash]
    rfl

theorem normalizeDomain_head (domain : Bytes) : (normalizeDomain domain).head? ≠ some 0x2E := by
  rw [normalizeDomain, head?_map]
  intro h
  obtain ⟨first, hfirst, hdot⟩ := Option.map_eq_some_iff.mp h
  have hother : first ≠ 0x2E := by
    have := head?_dropWhile_not (· = 0x2E) domain
    rw [hfirst] at this
    simpa using this
  rw [toLowerAscii] at hdot
  split at hdot
  · next hupper =>
    have hlow := UInt8.le_iff_toNat_le.mp hupper.1
    have hhigh := UInt8.le_iff_toNat_le.mp hupper.2
    have hsum := congrArg UInt8.toNat hdot
    simp at hlow hhigh hsum
    omega
  · exact hother hdot

/-- The default path of RFC 6265, 5.1.4: up to the last slash, unless that is
the first. -/
def computeDefaultPath (requestPath : Bytes) : Bytes :=
  let path := stripQuery requestPath
  if path.head? ≠ some 0x2F then [0x2F]
  else if path.count 0x2F < 2 then [0x2F]
  else (path.rdropWhile (· ≠ 0x2F)).dropLast

theorem computeDefaultPath_ne_nil (requestPath : Bytes) : computeDefaultPath requestPath ≠ [] := by
  simp only [computeDefaultPath]
  split
  · exact cons_ne_nil _ _
  split
  · exact cons_ne_nil _ _
  rename_i hmany
  -- both slashes are in what is left after the text behind the last
  have hcount : 2 ≤ ((stripQuery requestPath).rdropWhile (· ≠ 0x2F)).count 0x2F := by
    have hbehind : ((stripQuery requestPath).rtakeWhile (· ≠ 0x2F)).count 0x2F = 0 :=
      count_eq_zero_of_not_mem fun hmem => by
        simpa using mem_rtakeWhile_imp hmem
    rw [← rdropWhile_append_rtakeWhile
      (p := (· ≠ (0x2F : UInt8))) (l := stripQuery requestPath), count_append] at hmany
    omega
  intro hnil
  have hlength := congrArg length hnil
  rw [length_dropLast, length_nil] at hlength
  have := count_le_length (a := (0x2F : UInt8))
    (l := (stripQuery requestPath).rdropWhile (· ≠ 0x2F))
  omega

def resetOctet (octetLength octetValue : Nat) : Bool :=
  !(octetLength = 0 || 3 < octetLength || 255 < octetValue)

def scanOctets (octetLength octetValue : Nat) : Bytes → Bool
  | [] => resetOctet octetLength octetValue
  | character :: rest =>
    if character = 0x2E then
      resetOctet octetLength octetValue && scanOctets 0 0 rest
    else if isDigit character then
      scanOctets (octetLength + 1) (octetValue * 10 + (character.toNat - 0x30)) rest
    else false

/-- Whether the host has the form of an address: colons, or dotted numbers. -/
def isIpAddressLiteral (host : Bytes) : Bool :=
  if host = [] then false
  else if host.contains 0x3A then true
  else if !host.contains 0x2E then false
  else scanOctets 0 0 host

/-! ## The jar -/

structure HttpCookieJar.Limits where
  maximumCookiesPerDomain : Nat := 50
  maximumTotalCookies : Nat := 500
  deriving DecidableEq, Repr

structure HttpCookieJar.Entry where
  name : Bytes
  value : Bytes
  domain : Bytes
  isHostOnly : Bool
  path : Bytes
  isSecure : Bool
  expiresAt : Option Int := none
  sequence : Nat := 0
  deriving DecidableEq, Repr

/-- What tells two cookies apart. -/
structure HttpCookieJar.Scope where
  name : Bytes
  domain : Bytes
  path : Bytes
  isHostOnly : Bool
  deriving DecidableEq, Repr

structure HttpCookieJar where
  limits : HttpCookieJar.Limits := {}
  entries : List HttpCookieJar.Entry := []
  /-- The sequence of the next entry. -/
  sequence : Nat := 0
  deriving DecidableEq, Repr

namespace HttpCookieJar

variable (limits : Limits) (entries : List Entry) (jar : HttpCookieJar)
variable (entry : Entry) (requestHost : Bytes) (isSecureConnection : Bool)
variable (requestPath : Bytes) (now : Int)

def Entry.scope : Scope := ⟨entry.name, entry.domain, entry.path, entry.isHostOnly⟩

def isSameScope (entry candidate : Entry) : Bool := entry.scope = candidate.scope

def isExpired : Bool := entry.expiresAt.any (· ≤ now)

def entryMatches : Bool :=
  if entry.isHostOnly && requestHost ≠ entry.domain then false
  else if !entry.isHostOnly && !domainMatches requestHost entry.domain then
    false
  else if entry.isSecure && !isSecureConnection then false
  else pathMatches entry.path (stripQuery requestPath)

/-! ## The limits -/

def domainCount (domain : Bytes) : Nat := entries.countP (·.domain = domain)

/-- One entry more in the search for a domain above its limit. -/
def considerVictim (found : Option Entry × Nat) (probe : Entry) : Option Entry × Nat :=
  let count := domainCount entries probe.domain
  if count ≤ limits.maximumCookiesPerDomain then found
  else if found.2 < count ∨ found.1.any (fun victim => probe.sequence < victim.sequence) then
    (some probe, count)
  else found

/-- The entry to put out for its domain's limit: the oldest of the domain
that the search has come upon. -/
def domainVictim : Option Entry :=
  match (entries.foldl (considerVictim limits entries) (none, 0)).1 with
  | none => none
  | some victim =>
    some (entries.foldl (fun oldest candidate =>
      if candidate.domain = victim.domain ∧ candidate.sequence < oldest.sequence then candidate
      else oldest) victim)

/-- The first loop, for as many rounds as there are entries: each puts one
entry out. -/
def enforceDomainLimit (limits : Limits) : Nat → List Entry → List Entry
  | 0, entries => entries
  | rounds + 1, entries =>
    if 0 < limits.maximumCookiesPerDomain ∧ 1 < entries.length then
      match domainVictim limits entries with
      | none => entries
      | some oldest =>
        enforceDomainLimit limits rounds (entries.eraseP (·.sequence = oldest.sequence))
    else entries

/-- The first of the entries with the smallest sequence. -/
def oldestOf : List Entry → Option Entry
  | [] => none
  | first :: rest =>
    some (rest.foldl (fun oldest candidate =>
      if candidate.sequence < oldest.sequence then candidate else oldest)
      first)

def enforceTotalLimit (limits : Limits) : Nat → List Entry → List Entry
  | 0, entries => entries
  | rounds + 1, entries =>
    if 0 < limits.maximumTotalCookies ∧ limits.maximumTotalCookies < entries.length then
      match oldestOf entries with
      | none => entries
      | some victim => enforceTotalLimit limits rounds (entries.erase victim)
    else entries

def enforceLimits : List Entry :=
  let entries := enforceDomainLimit limits entries.length entries
  enforceTotalLimit limits entries.length entries

theorem foldl_choice_mem {α : Type} (better : α → α → Prop)
    [∀ a b, Decidable (better a b)] (entries : List α) (first : α) :
    entries.foldl (fun best entry => if better best entry then entry
      else best) first ∈ first :: entries := by
  induction entries generalizing first with
  | nil => exact mem_singleton_self first
  | cons entry rest ih =>
    rw [foldl_cons]
    split
    · exact mem_cons_of_mem _ (ih entry)
    rcases mem_cons.mp (ih first) with h | h
    · rw [h]
      exact mem_cons_self
    · exact mem_cons_of_mem _ (mem_cons_of_mem _ h)

/-- The search finds an entry whose domain is above its limit, or there is
none among those it has looked at. -/
theorem foldl_considerVictim (limits : Limits) (entries : List Entry)
    (probes : List Entry) (hprobes : ∀ probe ∈ probes, probe ∈ entries)
    (found : Option Entry × Nat) (hfound : ∀ victim ∈ found.1, victim ∈ entries)
    (hcount : found.1 = none → found.2 = 0) :
    let result := probes.foldl (considerVictim limits entries) found
    (∀ victim ∈ result.1, victim ∈ entries) ∧
      (result.1 = none → found.1 = none ∧ ∀ probe ∈ probes,
        domainCount entries probe.domain ≤ limits.maximumCookiesPerDomain) := by
  induction probes generalizing found with
  | nil => exact ⟨hfound, fun h => ⟨h, fun _ => nofun⟩⟩
  | cons probe probes ih =>
    have hprobe := hprobes probe mem_cons_self
    have hprobes' : ∀ other ∈ probes, other ∈ entries := fun other hmem =>
      hprobes other (mem_cons_of_mem _ hmem)
    simp only [foldl_cons]
    by_cases hbelow : domainCount entries probe.domain ≤ limits.maximumCookiesPerDomain
    · have hsame : considerVictim limits entries found probe = found := by
        exact if_pos hbelow
      rw [hsame]
      obtain ⟨hmem, hnone⟩ := ih hprobes' found hfound hcount
      refine ⟨hmem, fun h => ⟨(hnone h).1, fun other hother => ?_⟩⟩
      rcases mem_cons.mp hother with rfl | hother
      · exact hbelow
      · exact (hnone h).2 other hother
    -- an entry above its limit is found, unless one was found before
    have hsome : ∃ victim count, considerVictim limits entries found probe =
          (some victim, count) ∧ victim ∈ entries := by
      rw [considerVictim]
      simp only [if_neg hbelow]
      split
      · exact ⟨probe, _, rfl, hprobe⟩
      rename_i hworse
      cases hnone : found.1 with
      | some victim =>
        exact ⟨victim, found.2, Prod.ext hnone rfl, hfound victim hnone⟩
      | none =>
        have hpos : 0 < domainCount entries probe.domain :=
          countP_pos_iff.mpr ⟨probe, hprobe, decide_eq_true rfl⟩
        rw [hcount hnone] at hworse
        exact absurd (.inl hpos) hworse
    obtain ⟨victim, count, hvictim, hmem⟩ := hsome
    rw [hvictim]
    obtain ⟨hall, hnone⟩ := ih hprobes' (some victim, count)
      (fun other hother => Option.some.inj hother ▸ hmem) nofun
    exact ⟨hall, fun h => nomatch (hnone h).1⟩

variable {entries}

theorem domainVictim_eq_none {limits : Limits}
    (h : domainVictim limits entries = none) (domain : Bytes) :
    domainCount entries domain ≤ limits.maximumCookiesPerDomain := by
  obtain ⟨-, hnone⟩ := foldl_considerVictim limits entries entries
    (fun _ => id) (none, 0) nofun fun _ => rfl
  rw [domainVictim] at h
  cases hresult : (entries.foldl (considerVictim limits entries) (none, 0)).1 with
  | some victim =>
    rw [hresult] at h
    cases h
  | none =>
    rcases Nat.eq_zero_or_pos (domainCount entries domain) with hzero | hpos
    · omega
    obtain ⟨entry, hmem, hdomain⟩ := countP_pos_iff.mp hpos
    rw [← of_decide_eq_true hdomain]
    exact (hnone hresult).2 entry hmem

theorem domainVictim_mem {limits : Limits}
    {oldest : Entry} (h : domainVictim limits entries = some oldest) : oldest ∈ entries := by
  obtain ⟨hmem, -⟩ := foldl_considerVictim limits entries entries
    (fun _ => id) (none, 0) nofun fun _ => rfl
  rw [domainVictim] at h
  cases hresult : (entries.foldl (considerVictim limits entries) (none, 0)).1 with
  | none =>
    rw [hresult] at h
    cases h
  | some victim =>
    rw [hresult] at h
    obtain rfl := Option.some.inj h
    rcases mem_cons.mp (foldl_choice_mem (fun oldest candidate =>
        candidate.domain = victim.domain ∧
          candidate.sequence < oldest.sequence) entries victim) with h | h
    · rw [h]
      exact hmem victim hresult
    · exact h

theorem oldestOf_mem {oldest : Entry}
    (h : oldestOf entries = some oldest) : oldest ∈ entries := by
  cases entries with
  | nil => exact nomatch h
  | cons first rest =>
    obtain rfl := Option.some.inj h
    exact foldl_choice_mem (fun oldest candidate => candidate.sequence < oldest.sequence) rest first

theorem enforceDomainLimit_sublist (rounds : Nat) (entries : List Entry) :
    (enforceDomainLimit limits rounds entries).Sublist entries := by
  induction rounds generalizing entries with
  | zero => exact List.Sublist.refl _
  | succ rounds ih =>
    rw [enforceDomainLimit]
    split
    · split
      · exact List.Sublist.refl _
      · exact (ih _).trans eraseP_sublist
    · exact List.Sublist.refl _

theorem enforceDomainLimit_within {limits : Limits}
    (hlimit : 0 < limits.maximumCookiesPerDomain) (rounds : Nat)
    (hrounds : entries.length ≤ rounds) (domain : Bytes) :
    domainCount (enforceDomainLimit limits rounds entries) domain ≤
      limits.maximumCookiesPerDomain := by
  induction rounds generalizing entries with
  | zero =>
    rw [length_eq_zero_iff.mp (Nat.le_zero.mp hrounds)]
    exact Nat.zero_le _
  | succ rounds ih =>
    rw [enforceDomainLimit]
    split
    · cases hvictim : domainVictim limits entries with
      | none => exact domainVictim_eq_none hvictim domain
      | some oldest =>
        refine ih ?_
        have hmem := domainVictim_mem hvictim
        rw [length_eraseP_of_mem hmem (decide_eq_true rfl)]
        omega
    · next hfew =>
      have := countP_le_length (p := (·.domain = domain)) (l := entries)
      show entries.countP (·.domain = domain) ≤ _
      omega

theorem enforceTotalLimit_sublist (rounds : Nat) (entries : List Entry) :
    (enforceTotalLimit limits rounds entries).Sublist entries := by
  induction rounds generalizing entries with
  | zero => exact List.Sublist.refl _
  | succ rounds ih =>
    rw [enforceTotalLimit]
    split
    · split
      · exact List.Sublist.refl _
      · exact (ih _).trans erase_sublist
    · exact List.Sublist.refl _

theorem enforceTotalLimit_within {limits : Limits}
    (hlimit : 0 < limits.maximumTotalCookies) (rounds : Nat)
    (hrounds : entries.length ≤ rounds) :
    (enforceTotalLimit limits rounds entries).length ≤
      limits.maximumTotalCookies := by
  induction rounds generalizing entries with
  | zero =>
    rw [length_eq_zero_iff.mp (Nat.le_zero.mp hrounds)]
    exact Nat.zero_le _
  | succ rounds ih =>
    rw [enforceTotalLimit]
    split
    · next habove =>
      cases entries with
      | nil => exact absurd habove.2 (Nat.not_lt_zero _)
      | cons first rest =>
        cases hvictim : oldestOf (first :: rest) with
        | none => exact nomatch hvictim
        | some victim =>
          refine ih ?_
          rw [length_erase_of_mem (oldestOf_mem hvictim)]
          omega
    · omega

variable (entries)

theorem enforceLimits_sublist : (enforceLimits limits entries).Sublist entries :=
  (enforceTotalLimit_sublist limits _ _).trans (enforceDomainLimit_sublist limits _ _)

theorem enforceLimits_within :
    (0 < limits.maximumCookiesPerDomain → ∀ domain,
      domainCount (enforceLimits limits entries) domain ≤ limits.maximumCookiesPerDomain) ∧
    (0 < limits.maximumTotalCookies →
      (enforceLimits limits entries).length ≤ limits.maximumTotalCookies) :=
  ⟨fun hlimit domain =>
    (enforceTotalLimit_sublist limits _ _).countP_le.trans
      (enforceDomainLimit_within hlimit _ (Nat.le_refl _) domain),
    fun hlimit => enforceTotalLimit_within hlimit _ (Nat.le_refl _)⟩

/-! ## Storing -/

def kTicksPerSecond : Int := 1000000000

def kMaximumLifetimeSeconds : Int := 100 * 365 * 24 * 3600

/-- The entry a cookie asks for, without its lifetime and its sequence, or
nothing when the domain it names is not one the host may set. -/
def scopedEntry (requestDomain requestPath : Bytes) (parsedCookie : HttpCookie) : Option Entry :=
  let path := parsedCookie.path.getD (computeDefaultPath requestPath)
  match parsedCookie.domain with
  | some domain =>
    if isIpAddressLiteral requestDomain then none
    else
      let cookieDomain := normalizeDomain domain
      if cookieDomain = [] ∨ !cookieDomain.contains 0x2E ∨
          !domainMatches requestDomain cookieDomain then none
      else some
        { name := parsedCookie.name, value := parsedCookie.value
          domain := cookieDomain, isHostOnly := false, path := path
          isSecure := parsedCookie.isSecure }
  | none => some
      { name := parsedCookie.name, value := parsedCookie.value
        domain := requestDomain, isHostOnly := true, path := path
        isSecure := parsedCookie.isSecure }

theorem scopedEntry_path {requestDomain requestPath : Bytes}
    {parsedCookie : HttpCookie} {entry : Entry}
    (h : scopedEntry requestDomain requestPath parsedCookie = some entry) :
    entry.path = parsedCookie.path.getD (computeDefaultPath requestPath) := by
  simp only [scopedEntry] at h
  split at h
  · split at h
    · cases h
    split at h
    · cases h
    · rw [← Option.some.inj h]
  · rw [← Option.some.inj h]

theorem scopedEntry_domain {requestDomain requestPath : Bytes}
    {parsedCookie : HttpCookie} {entry : Entry}
    (h : scopedEntry requestDomain requestPath parsedCookie = some entry) :
    if entry.isHostOnly then entry.domain = requestDomain
    else isIpAddressLiteral requestDomain = false ∧ domainMatches requestDomain entry.domain := by
  simp only [scopedEntry] at h
  split at h
  · split at h
    · cases h
    rename_i hname
    split at h
    · cases h
    rename_i hcovers
    rw [not_or, not_or] at hcovers
    rw [← Option.some.inj h]
    exact ⟨Bool.not_eq_true _ ▸ hname, by simpa using hcovers.2.2⟩
  · rw [← Option.some.inj h]
    exact rfl

/-- When the cookie expires, if ever, or nothing when it is over as it
arrives. Max-Age comes before Expires and is cut to a hundred years. -/
def lifetimeOf (parsedCookie : HttpCookie) (receivedAt : Int) : Option (Option Int) :=
  match parsedCookie.maxAgeSeconds with
  | some seconds =>
    if seconds ≤ 0 then none
    else some (some (receivedAt +
      (if kMaximumLifetimeSeconds < seconds then kMaximumLifetimeSeconds
        else seconds) * kTicksPerSecond))
  | none =>
    match parsedCookie.expiresAt with
    | some expiresAt => if expiresAt ≤ receivedAt then none
        else some (some expiresAt)
    | none => some none

def removeScope (scope : Scope) : HttpCookieJar :=
  { jar with entries := jar.entries.filter (·.scope ≠ scope) }

/-- The entry takes the place of the one of its scope, at the end, and both
limits are enforced. -/
def keep : HttpCookieJar :=
  { jar with
    entries := enforceLimits jar.limits
      (jar.entries.filter (·.scope ≠ entry.scope) ++ [{ entry with sequence := jar.sequence }])
    sequence := jar.sequence + 1 }

/-- What becomes of one Set-Cookie field of a response. -/
inductive Verdict
  | ignored
  | removed (scope : Scope)
  | kept (entry : Entry)
  deriving DecidableEq, Repr

/-- What a Set-Cookie field asks of a jar, whatever the jar holds. -/
def verdictOf (parseHttpDate : Bytes → Option Int)
    (requestDomain requestPath : Bytes) (isSecureConnection : Bool)
    (receivedAt : Int) (headerValue : Bytes) : Verdict :=
  match HttpCookie.parseSetCookie parseHttpDate headerValue with
  | none => .ignored
  | some parsedCookie =>
    if parsedCookie.prefixRequirementViolation.isSome then .ignored
    else
      match scopedEntry requestDomain requestPath parsedCookie with
      | none => .ignored
      | some entry =>
        if entry.isSecure && !isSecureConnection then .ignored
        else
          match lifetimeOf parsedCookie receivedAt with
          | none => .removed entry.scope
          | some expiresAt => .kept { entry with expiresAt := expiresAt }

def storeVerdict : Verdict → HttpCookieJar
  | .ignored => jar
  | .removed scope => jar.removeScope scope
  | .kept entry => jar.keep entry

def dropExpired (receivedAt : Int) : HttpCookieJar :=
  { jar with entries := jar.entries.filter (!isExpired · receivedAt) }

def storeFromResponse (parseHttpDate : Bytes → Option Int)
    (jar : HttpCookieJar) (requestHost : Bytes) (isSecureConnection : Bool)
    (requestPath : Bytes) (setCookieHeaderValues : List Bytes)
    (receivedAt : Int) : HttpCookieJar :=
  let requestDomain := normalizeDomain requestHost
  if requestDomain = [] then jar
  else setCookieHeaderValues.foldl (fun jar headerValue =>
      jar.storeVerdict (verdictOf parseHttpDate requestDomain requestPath
        isSecureConnection receivedAt headerValue))
    (jar.dropExpired receivedAt)

/-! ## Sending -/

/-- Longer paths first, and of equal length the smaller sequence. -/
def SentBefore (left right : Entry) : Prop :=
  if left.path.length ≠ right.path.length then
    right.path.length < left.path.length
  else left.sequence ≤ right.sequence

instance : DecidableRel SentBefore := fun left right => by
  unfold SentBefore
  infer_instance

instance : Std.Total SentBefore :=
  ⟨fun left right => by
    simp only [SentBefore]
    split <;> split <;> omega⟩

instance : IsTrans Entry SentBefore :=
  ⟨fun first second third => by
    simp only [SentBefore]
    split <;> split <;> split <;> omega⟩

/-- The cookies a request sends, in order. -/
def cookiesFor : List Entry :=
  let requestDomain := normalizeDomain requestHost
  (jar.entries.filter fun entry => !isExpired entry now &&
    entryMatches entry requestDomain isSecureConnection requestPath
    ).insertionSort SentBefore

theorem cookiesFor_sorted : (jar.cookiesFor requestHost isSecureConnection requestPath now).Pairwise
      SentBefore := pairwise_insertionSort _ _

theorem mem_cookiesFor {jar : HttpCookieJar} {requestHost : Bytes}
    {isSecureConnection : Bool} {requestPath : Bytes} {now : Int} {entry : Entry} :
    entry ∈ jar.cookiesFor requestHost isSecureConnection requestPath now ↔
      entry ∈ jar.entries ∧ isExpired entry now = false ∧
        entryMatches entry (normalizeDomain requestHost) isSecureConnection
          requestPath := by
  rw [cookiesFor, mem_insertionSort, mem_filter, Bool.and_eq_true, Bool.not_eq_true']

theorem cookiesFor_nodup {jar : HttpCookieJar} (h : jar.entries.Nodup)
    (requestHost : Bytes) (isSecureConnection : Bool) (requestPath : Bytes) (now : Int) :
    (jar.cookiesFor requestHost isSecureConnection requestPath now).Nodup :=
  (perm_insertionSort _ _).nodup_iff.mpr (h.filter _)

def cookiePair : Bytes := entry.name ++ [0x3D] ++ entry.value

/-- The text of one cookie behind those already written. -/
def appendCookie (text : Bytes) (entry : Entry) : Bytes :=
  (if text ≠ [] then text ++ asciiText "; " else text) ++ cookiePair entry

def buildRequestHeader : Option Bytes :=
  let header := (jar.cookiesFor requestHost isSecureConnection requestPath
    now).foldl appendCookie []
  if header = [] then none else some header

theorem cookiePair_ne_nil : cookiePair entry ≠ [] := by
  simp [cookiePair]

theorem foldl_appendCookie (text : Bytes) (htext : text ≠ []) (entries : List Entry) :
    entries.foldl appendCookie text =
      (asciiText "; ").intercalate (text :: entries.map cookiePair) := by
  induction entries generalizing text with
  | nil => exact intercalate_singleton.symm
  | cons entry rest ih =>
    have happend : appendCookie text entry = text ++ asciiText "; " ++ cookiePair entry := by
      rw [appendCookie, if_pos htext]
    rw [foldl_cons, happend, ih _ (by simp [cookiePair]), map_cons, intercalate_cons_cons]
    cases rest with
    | nil =>
      rw [map_nil, intercalate_singleton, intercalate_singleton]
    | cons next rest =>
      rw [map_cons, intercalate_cons_cons, intercalate_cons_cons]
      simp

theorem buildRequestHeader_eq (jar : HttpCookieJar) (requestHost : Bytes)
    (isSecureConnection : Bool) (requestPath : Bytes) (now : Int) :
    let sent := jar.cookiesFor requestHost isSecureConnection requestPath now
    jar.buildRequestHeader requestHost isSecureConnection requestPath now =
      if sent = [] then none
      else some ((asciiText "; ").intercalate (sent.map cookiePair)) := by
  simp only [buildRequestHeader]
  cases jar.cookiesFor requestHost isSecureConnection requestPath now with
  | nil => rfl
  | cons first rest =>
    have hfirst : appendCookie [] first = cookiePair first := rfl
    rw [foldl_cons, hfirst, foldl_appendCookie _ (cookiePair_ne_nil first), map_cons,
      if_neg (cons_ne_nil _ _), if_neg]
    cases rest with
    | nil =>
      rw [map_nil, intercalate_singleton]
      exact cookiePair_ne_nil first
    | cons next rest =>
      simp [cookiePair]

end HttpCookieJar

end AsynGyanis.Http
