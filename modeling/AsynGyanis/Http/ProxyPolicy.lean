import AsynGyanis.Http.FramingRules
import AsynGyanis.Library.Cut

/-!
# Outbound proxies and their credentials

A proxy is configured as `[http://|https://][user[:password]@]host[:port]`.
`parseProxyUrl` takes the address apart, `redactProxyCredentials` masks the
credentials in it, and `resolveOutboundProxy` picks the address for a target
and puts both into the text of its error.

The credentials are what stands between the scheme, or the front of the
address, and the last `@`. What is proved is what may be learned of them:
nothing from the masked address, nothing from the host, the port and the TLS
flag of an address that is accepted, and from an error no more than which of
three things is wrong with them. Texts are bytes, the literals of the source
in UTF-8.
-/

namespace AsynGyanis.Http

open Library List

/-- A literal of the source. -/
def literalText (text : String) : Bytes := text.toUTF8.data.toList

def kSchemeSeparator : Bytes := asciiText "://"

structure HttpProxyPolicy where
  httpProxy : Bytes
  httpsProxy : Bytes
  noProxy : Bytes
  deriving DecidableEq, Repr

structure HttpProxyRoute where
  host : Bytes := []
  port : Nat := 0
  isTls : Bool := false
  /-- Empty where the address has no credentials. -/
  authorizationHeader : Bytes := []
  deriving DecidableEq, Repr

/-! ## Parts of an address -/

/-- An escape that is cut off or is none has no reading. -/
def percentDecode : Bytes → Option Bytes
  | [] => some []
  | 0x25 :: high :: low :: rest =>
    match hexadecimalDigitValue high, hexadecimalDigitValue low with
    | some highValue, some lowValue =>
      (percentDecode rest).map (UInt8.ofNat (highValue * 16 + lowValue) :: ·)
    | _, _ => none
  | character :: rest =>
    if character = 0x25 then none
    else (percentDecode rest).map (character :: ·)

def kBase64EncodingAlphabet : Bytes :=
  asciiText "ABCDEFGHIJKLMNOPQRSTUVWXYZabcdefghijklmnopqrstuvwxyz0123456789+/"

/-- One of the four pieces of six bits of a group. -/
def base64Character (groupValue piece : Nat) : UInt8 :=
  kBase64EncodingAlphabet.getD (groupValue / 64 ^ piece % 64) 0

def base64Encode : Bytes → Bytes
  | first :: second :: third :: rest =>
    let groupValue :=
      first.toNat * 0x10000 + second.toNat * 0x100 + third.toNat
    base64Character groupValue 3 :: base64Character groupValue 2 ::
      base64Character groupValue 1 :: base64Character groupValue 0 :: base64Encode rest
  | [first, second] =>
    let groupValue := first.toNat * 0x10000 + second.toNat * 0x100
    [base64Character groupValue 3, base64Character groupValue 2, base64Character groupValue 1, 0x3D]
  | [first] =>
    let groupValue := first.toNat * 0x10000
    [base64Character groupValue 3, base64Character groupValue 2, 0x3D, 0x3D]
  | [] => []

/-- The loop over the digits of a port, which stops beyond the last port;
`none` at a character that is no digit. -/
def readPort : Bytes → Nat → Option Nat
  | [], parsedPort => some parsedPort
  | digit :: rest, parsedPort =>
    if !isDigit digit then none
    else
      let parsedPort := parsedPort * 10 + (digit.toNat - 0x30)
      if 65535 < parsedPort then some parsedPort else readPort rest parsedPort

/-- The host and the text of the port, if a port is written. -/
def separateHostPort (authority : Bytes) : Except Bytes (Bytes × Option Bytes) :=
  match authority with
  | 0x5B :: bracketed =>
    match cutAt [0x5D] bracketed with
    | none => .error (literalText "IPv6 地址缺右方括号（写法是 [地址]:端口）")
    | some (hostPart, []) => .ok (hostPart, none)
    | some (hostPart, 0x3A :: portPart) => .ok (hostPart, some portPart)
    | some _ => .error (literalText "方括号之后只能跟 :端口")
  | _ =>
    match cutAt [0x3A] authority with
    | none => .ok (authority, none)
    | some (hostPart, portPart) =>
      if 0x3A ∈ portPart then
        .error (literalText "IPv6 地址要写成 [地址]:端口")
      else .ok (hostPart, some portPart)

def splitHostPort (authority : Bytes) (defaultPort : Nat) : Except Bytes (Bytes × Nat) := do
  let (hostPart, portPart) ← separateHostPort authority
  if hostPart = [] then .error (literalText "缺主机名")
  else
    match portPart with
    | none => .ok (hostPart, defaultPort)
    | some [] => .error (literalText "端口是空的（写了冒号就要写端口）")
    | some portPart =>
      match readPort portPart 0 with
      | none =>
        .error (literalText "端口「" ++ portPart ++ literalText "」不是十进制数")
      | some parsedPort =>
        if parsedPort = 0 ∨ 65535 < parsedPort then
          .error (literalText "端口「" ++ portPart ++ literalText "」不在 1..65535")
        else .ok (hostPart, parsedPort)

/-! ## An address -/

def isPathCharacter (character : UInt8) : Bool := (asciiText "/?#").contains character

/-- The three things that may be wrong with credentials. -/
inductive CredentialFault
  | pathCharacter
  | userName
  | password
  deriving DecidableEq, Repr

def CredentialFault.text : CredentialFault → Bytes
  | pathCharacter => literalText "代理地址带了路径或查询：只接受 [http://|https://][用户[:口令]@]主机[:端口]"
  | userName => literalText "代理地址凭据的用户名含非法的 %XX 转义"
  | password => literalText "代理地址凭据的口令含非法的 %XX 转义"

/-- The value of the header that carries the credentials. -/
def basicAuthorization (userInfo : Bytes) : Except CredentialFault Bytes :=
  match percentDecode (userInfo.takeWhile (· ≠ 0x3A)) with
  | none => .error .userName
  | some user =>
    match percentDecode ((userInfo.dropWhile (· ≠ 0x3A)).drop 1) with
    | none => .error .password
    | some password =>
      .ok (asciiText "Basic " ++ base64Encode (user ++ 0x3A :: password))

/-- A scheme that is no scheme of a proxy is refused; without one the proxy
is plain. The second part is what stands behind the scheme. -/
def readScheme (text : Bytes) : Except Bytes (Bool × Bytes) :=
  match cutAt kSchemeSeparator text with
  | none => .ok (false, text)
  | some (scheme, authority) =>
    if equalsIgnoringCase scheme (asciiText "https") then .ok (true, authority)
    else if equalsIgnoringCase scheme (asciiText "http") then
      .ok (false, authority)
    else
      .error (literalText "代理地址的协议「" ++ scheme ++ literalText
        "」不支持：只认 http://（明文连代理）与 https://（TLS 连到代理自身）两种")

/-- One slash at the end is dropped. -/
def dropTrailingSlash (authority : Bytes) : Bytes :=
  if authority.getLast? = some 0x2F then authority.dropLast else authority

/-- The value of the header and what is left for the host. -/
def separateCredentials (authority : Bytes) : Except Bytes (Bytes × Bytes) :=
  if authority.any isPathCharacter then
    .error CredentialFault.pathCharacter.text
  else
    match cutAtLast 0x40 authority with
    | none => .ok ([], authority)
    | some (userInfo, authority) =>
      match basicAuthorization userInfo with
      | .error fault => .error fault.text
      | .ok authorizationHeader => .ok (authorizationHeader, authority)

def proxyRoute (isTls : Bool) (authorizationHeader authority : Bytes) :
    Except Bytes HttpProxyRoute :=
  match splitHostPort authority (if isTls then 443 else 80) with
  | .error failureReason =>
    .error (literalText "代理地址非法：" ++ failureReason)
  | .ok (host, port) => .ok { host, port, isTls, authorizationHeader }

def parseProxyUrl (proxyUrl : Bytes) : Except Bytes HttpProxyRoute := do
  let text := trimOptionalWhitespace proxyUrl
  if text = [] then
    .error (literalText "代理地址是空串（请给出 http:// 或 https:// 主机[:端口]，或清掉这一项走直连）")
  else
    let (isTlsToProxy, authority) ← readScheme text
    let (authorizationHeader, authority) ← separateCredentials (dropTrailingSlash authority)
    proxyRoute isTlsToProxy authorizationHeader authority

def redactProxyCredentials (proxyUrl : Bytes) : Bytes :=
  match cutAtLast 0x40 proxyUrl with
  | none => proxyUrl
  | some (front, host) =>
    let credentialsStart :=
      match cutAt kSchemeSeparator proxyUrl with
      | none => 0
      | some (scheme, _) =>
        if scheme.length < front.length then scheme.length + 3 else 0
    proxyUrl.take credentialsStart ++ asciiText "***" ++ 0x40 :: host

/-! ## The proxy of a target -/

/-- The host and the port of an entry; a bracket that is not closed matches
nothing. -/
def separateEntry (entry : Bytes) : Option (Bytes × Bytes) :=
  match entry with
  | 0x5B :: bracketed =>
    match cutAt [0x5D] bracketed with
    | none => none
    | some (entryHost, 0x3A :: entryPort) => some (entryHost, entryPort)
    | some (entryHost, _) => some (entryHost, [])
  | _ =>
    match cutAt [0x3A] entry with
    | none => some (entry, [])
    | some (entryHost, entryPort) =>
      if 0x3A ∈ entryPort then some (entry, []) else some (entryHost, entryPort)

/-- An entry matches its host and the domains below it. -/
def matchesEntry (host : Bytes) (port : Nat) (entry : Bytes) : Bool :=
  if entry = [] then false
  else if entry = asciiText "*" then true
  else
    match separateEntry entry with
    | none => false
    | some (entryHost, entryPort) =>
      if entryPort ≠ [] ∧ readPort entryPort 0 ≠ some port then false
      else
        let entryHost := entryHost.dropWhile (· = 0x2E)
        let parentLength := host.length - entryHost.length
        entryHost ≠ [] &&
          (equalsIgnoringCase host entryHost ||
            (entryHost.length < host.length &&
              equalsIgnoringCase (host.drop parentLength) entryHost &&
              host[parentLength - 1]? = some 0x2E))

def matchesNoProxy (host : Bytes) (port : Nat) (noProxyList : Bytes) : Bool :=
  (noProxyList.splitOn 0x2C).any fun entry =>
    matchesEntry host port (trimOptionalWhitespace entry)

def HttpProxyPolicy.proxyTextFor (policy : HttpProxyPolicy) (scheme : Bytes) : Option Bytes :=
  if equalsIgnoringCase scheme (asciiText "http") then some policy.httpProxy
  else if equalsIgnoringCase scheme (asciiText "https") then
    some policy.httpsProxy
  else none

/-- `none` where the target is reached without a proxy. -/
def resolveOutboundProxy (policy : HttpProxyPolicy) (scheme host : Bytes)
    (port : Nat) : Except Bytes (Option HttpProxyRoute) :=
  if matchesNoProxy host port policy.noProxy then .ok none
  else
    match policy.proxyTextFor scheme with
    | none => .ok none
    | some proxyText =>
      if proxyText = [] then .ok none
      else
        match parseProxyUrl proxyText with
        | .error error =>
          .error (error ++ literalText "（地址「" ++ redactProxyCredentials proxyText ++ literalText
              "」来自 HttpProxyPolicy 或 http_proxy/https_proxy 环境值）")
        | .ok route => .ok (some route)

/-! ## What is learned of the credentials -/

def proxyAddress (front userInfo host : Bytes) : Bytes := front ++ userInfo ++ 0x40 :: host

/-- In such an address `userInfo` is what stands between the first `://` and
the last `@`, or in front of the last `@` where there is no `://`. -/
def IsUserInfo (front host userInfo : Bytes) : Prop := 0x40 ∉ host ∧
    ((∃ scheme, cutAt kSchemeSeparator front = some (scheme, [])) ∨
      (front = [] ∧ cutAt kSchemeSeparator (proxyAddress front userInfo host) = none))

def credentialFault (userInfo : Bytes) : Option CredentialFault :=
  if userInfo.any isPathCharacter then some .pathCharacter
  else
    match basicAuthorization userInfo with
    | .error fault => some fault
    | .ok _ => none

/-- What a route says about the way to the proxy. -/
def HttpProxyRoute.endpoint (route : HttpProxyRoute) : Bytes × Nat × Bool :=
  (route.host, route.port, route.isTls)

section Hidden

variable {front host userInfo userInfo' : Bytes}

theorem redactProxyCredentials_address (h : IsUserInfo front host userInfo) :
    redactProxyCredentials (proxyAddress front userInfo host) =
      front ++ asciiText "***" ++ 0x40 :: host := by
  have hlast : cutAtLast 0x40 (proxyAddress front userInfo host) =
      some (front ++ userInfo, host) := cutAtLast_append h.1
  rw [redactProxyCredentials, hlast]
  rcases h.2 with ⟨scheme, hscheme⟩ | ⟨rfl, hnone⟩
  · have hfront : front = scheme ++ kSchemeSeparator ++ [] := cutAt_spec hscheme
    have hlength : front.length = scheme.length + 3 := by
      rw [hfront]
      simp [kSchemeSeparator, asciiText]
    have hcut : cutAt kSchemeSeparator (proxyAddress front userInfo host) =
        some (scheme, [] ++ (userInfo ++ 0x40 :: host)) := by
      rw [proxyAddress, append_assoc]
      exact cutAt_append hscheme _
    rw [hcut]
    dsimp only
    rw [if_pos (by rw [length_append]; omega), ← hlength, proxyAddress,
      append_assoc front userInfo, take_left]
  · rw [hnone]
    rfl

end Hidden

section Address

variable {front host userInfo : Bytes}

theorem trimOptionalWhitespace_mark {mark : UInt8}
    (hmark : isOptionalWhitespace mark = false) (before behind : Bytes) :
    trimOptionalWhitespace (before ++ mark :: behind) = before.dropWhile isOptionalWhitespace ++
        mark :: behind.rdropWhile isOptionalWhitespace := by
  have hdrop : (before ++ mark :: behind).dropWhile isOptionalWhitespace =
      before.dropWhile isOptionalWhitespace ++ mark :: behind := by
    rw [dropWhile_append]
    split
    · next hempty =>
      rw [isEmpty_iff.mp hempty, dropWhile_cons_of_neg (by simp [hmark])]
      rfl
    · rfl
  rw [trimOptionalWhitespace, hdrop, rdropWhile, rdropWhile,
    reverse_append, reverse_cons, append_assoc,
    dropWhile_append]
  split
  · next hempty =>
    rw [isEmpty_iff.mp hempty, singleton_append, dropWhile_cons_of_neg (by simp [hmark])]
    simp
  · simp

theorem dropTrailingSlash_mark {mark : UInt8} (hmark : mark ≠ 0x2F) (before behind : Bytes) :
    dropTrailingSlash (before ++ mark :: behind) = before ++ mark :: dropTrailingSlash behind := by
  unfold dropTrailingSlash
  cases behind with
  | nil => simp [hmark]
  | cons first rest =>
    rw [getLast?_append_of_ne_nil _ (cons_ne_nil _ _), getLast?_cons_cons]
    split
    · rw [dropLast_append_of_ne_nil (cons_ne_nil _ _), dropLast_cons_of_ne_nil (cons_ne_nil _ _)]
    · rfl

theorem readScheme_append {text : Bytes} {cut : Bytes × Bytes}
    (h : cutAt kSchemeSeparator text = some cut) (more : Bytes) :
    readScheme (text ++ more) = (readScheme text).map fun read => (read.1, read.2 ++ more) := by
  rw [readScheme, cutAt_append h, readScheme, h]
  dsimp only
  split
  · rfl
  · split <;> rfl

end Address

/-- A path behind the host is refused like one in the credentials. -/
def addressFault (host : Bytes) (fault : Option CredentialFault) : Option CredentialFault :=
  if host.any isPathCharacter then some .pathCharacter else fault

/-- What an address comes to by its scheme, its host and what is wrong with
its credentials. -/
def proxyVerdict (front host : Bytes) (fault : Option CredentialFault) :
    Except Bytes (Bytes × Nat × Bool) := do
  let (isTls, _) ← readScheme (front.dropWhile isOptionalWhitespace)
  let host := dropTrailingSlash (host.rdropWhile isOptionalWhitespace)
  match addressFault host fault with
  | some fault => .error fault.text
  | none => (proxyRoute isTls [] host).map HttpProxyRoute.endpoint

section Verdict

variable {front host userInfo : Bytes}

theorem percentDecode_cons {first : UInt8} (hfirst : first ≠ 0x25) (rest : Bytes) :
    percentDecode (first :: rest) = (percentDecode rest).map (first :: ·) := by
  rw [percentDecode.eq_def]
  split
  · next heq => cases heq
  · next heq => exact absurd (cons.inj heq).1 hfirst
  · next heq =>
    obtain ⟨rfl, rfl⟩ := cons.inj heq
    rw [if_neg hfirst]

theorem credentialFault_dropWhile (userInfo : Bytes) :
    credentialFault (userInfo.dropWhile isOptionalWhitespace) = credentialFault userInfo := by
  induction userInfo with
  | nil => rfl
  | cons first rest ih =>
    cases hfirst : isOptionalWhitespace first with
    | false => rw [dropWhile_cons_of_neg (by simp [hfirst])]
    | true =>
      have hplain : isPathCharacter first = false ∧ first ≠ 0x25 ∧
          first ≠ 0x3A := by
        simp only [isOptionalWhitespace, Bool.or_eq_true, decide_eq_true_eq] at hfirst
        rcases hfirst with rfl | rfl <;> decide
      obtain ⟨hpath, hescape, hcolon⟩ := hplain
      have htake : (first :: rest).takeWhile (· ≠ 0x3A) =
          first :: rest.takeWhile (· ≠ 0x3A) := by simp [hcolon]
      have hdrop : (first :: rest).dropWhile (· ≠ 0x3A) =
          rest.dropWhile (· ≠ 0x3A) := by simp [hcolon]
      rw [dropWhile_cons_of_pos hfirst, ih, credentialFault,
        credentialFault, basicAuthorization, basicAuthorization,
        any_cons, hpath, Bool.false_or, htake, hdrop,
        percentDecode_cons hescape]
      cases percentDecode (rest.takeWhile (· ≠ 0x3A)) with
      | none => rfl
      | some user =>
        dsimp only [Option.map_some]
        cases percentDecode ((rest.dropWhile (· ≠ 0x3A)).drop 1) <;> rfl

theorem readScheme_address (h : IsUserInfo front host userInfo) :
    ∃ visible, credentialFault visible = credentialFault userInfo ∧
      readScheme (trimOptionalWhitespace (proxyAddress front userInfo host)) =
        (readScheme (front.dropWhile isOptionalWhitespace)).map fun read =>
          (read.1, visible ++ 0x40 :: host.rdropWhile isOptionalWhitespace) := by
  rw [proxyAddress, trimOptionalWhitespace_mark (by decide)]
  rcases h.2 with ⟨scheme, hscheme⟩ | ⟨rfl, hnone⟩
  · refine ⟨userInfo, rfl, ?_⟩
    have hcut : cutAt kSchemeSeparator (front.dropWhile isOptionalWhitespace) =
          some (scheme.dropWhile isOptionalWhitespace, []) :=
      cutAt_dropWhile (fun first hfirst => by cases hfirst; rfl) nofun hscheme
    have hne : (front.dropWhile isOptionalWhitespace).isEmpty = false := by
      rw [cutAt_spec hcut]
      simp [kSchemeSeparator, asciiText]
    rw [dropWhile_append, hne, if_neg Bool.false_ne_true,
      append_assoc, readScheme_append hcut, readScheme, hcut]
    dsimp only
    split
    · rfl
    · split <;> rfl
  · refine ⟨_, credentialFault_dropWhile userInfo, ?_⟩
    have hinfix : cutAt kSchemeSeparator
        (userInfo.dropWhile isOptionalWhitespace ++
          0x40 :: host.rdropWhile isOptionalWhitespace) = none := by
      rw [cutAt_eq_none_iff] at hnone ⊢
      intro hfound
      rw [← trimOptionalWhitespace_mark (by decide)] at hfound
      exact hnone (hfound.trans (( rdropWhile_prefix _ _).isInfix.trans
        (dropWhile_suffix _).isInfix))
    rw [nil_append, readScheme, hinfix]
    rfl

theorem separateCredentials_mark {authority : Bytes} (h : 0x40 ∉ authority) (userInfo : Bytes) :
    (separateCredentials (userInfo ++ 0x40 :: authority)).map Prod.snd =
      match addressFault authority (credentialFault userInfo) with
      | some fault => .error fault.text
      | none => .ok authority := by
  have hplain : isPathCharacter 0x40 = false := by decide
  rw [separateCredentials, cutAtLast_append h, any_append, any_cons,
    hplain, Bool.false_or, addressFault, credentialFault]
  cases userInfo.any isPathCharacter with
  | true => cases authority.any isPathCharacter <;> rfl
  | false =>
    cases authority.any isPathCharacter with
    | true => rfl
    | false =>
      dsimp only
      cases basicAuthorization userInfo <;> rfl

/-- Nothing of the credentials but what is wrong with them is in a
verdict. -/
theorem parseProxyUrl_address (h : IsUserInfo front host userInfo) :
    (parseProxyUrl (proxyAddress front userInfo host)).map HttpProxyRoute.endpoint =
      proxyVerdict front host (credentialFault userInfo) := by
  obtain ⟨visible, hfault, hread⟩ := readScheme_address h
  have hne : trimOptionalWhitespace (proxyAddress front userInfo host) ≠ [] := by
    rw [proxyAddress, trimOptionalWhitespace_mark (by decide)]
    simp
  have hmark : 0x40 ∉ dropTrailingSlash (host.rdropWhile isOptionalWhitespace) := by
    refine fun hmem =>
      h.1 (( rdropWhile_prefix isOptionalWhitespace host).subset ?_)
    unfold dropTrailingSlash at hmem
    split at hmem
    · exact mem_of_mem_dropLast hmem
    · exact hmem
  have hseparate := separateCredentials_mark hmark visible
  unfold parseProxyUrl proxyVerdict
  rw [if_neg hne, hread, ← hfault]
  cases readScheme (front.dropWhile isOptionalWhitespace) with
  | error error => rfl
  | ok read =>
    show Except.map _ ((separateCredentials (dropTrailingSlash _)).bind _) = _
    rw [dropTrailingSlash_mark (by decide)]
    show _ = match addressFault _ _ with | some _ => _ | none => _
    cases hseparated : separateCredentials (visible ++ 0x40 ::
        dropTrailingSlash (host.rdropWhile isOptionalWhitespace)) with
    | error error =>
      rw [hseparated] at hseparate
      split at hseparate
      · injection hseparate with herror
        rw [herror]
        rfl
      · cases hseparate
    | ok separated =>
      rw [hseparated] at hseparate
      split at hseparate
      · cases hseparate
      · injection hseparate with hauthority
        rw [← hauthority]
        show Except.map _ (proxyRoute _ _ _) = _
        unfold proxyRoute
        split <;> rfl

end Verdict

theorem fault_eq_none_of_accepted {front host : Bytes}
    {fault : Option CredentialFault} {endpoint : Bytes × Nat × Bool}
    (h : proxyVerdict front host fault = .ok endpoint) : fault = none := by
  cases fault with
  | none => rfl
  | some fault =>
    have hsome : ∀ host, ∃ worse, addressFault host (some fault) = some worse := by
      intro host
      unfold addressFault
      split <;> exact ⟨_, rfl⟩
    obtain ⟨worse, hworse⟩ := hsome (dropTrailingSlash (host.rdropWhile isOptionalWhitespace))
    unfold proxyVerdict at h
    cases hread : readScheme (front.dropWhile isOptionalWhitespace) with
    | error error =>
      rw [hread] at h
      cases h
    | ok read =>
      simp only [hread, bind, Except.bind, hworse] at h
      cases h

theorem resolveOutboundProxy_address {policy : HttpProxyPolicy} {front host userInfo scheme : Bytes}
    (h : IsUserInfo front host userInfo)
    (hpolicy : policy.proxyTextFor scheme =
      some (proxyAddress front userInfo host)) (target : Bytes) (port : Nat) :
    (resolveOutboundProxy policy scheme target port).map (Option.map HttpProxyRoute.endpoint) =
      if matchesNoProxy target port policy.noProxy then .ok none
      else
        match proxyVerdict front host (credentialFault userInfo) with
        | .error error =>
          .error (error ++ literalText "（地址「" ++
            (front ++ asciiText "***" ++ 0x40 :: host) ++ literalText
              "」来自 HttpProxyPolicy 或 http_proxy/https_proxy 环境值）")
        | .ok endpoint => .ok (some endpoint) := by
  have hne : proxyAddress front userInfo host ≠ [] := by
    simp [proxyAddress]
  rw [← parseProxyUrl_address h, ← redactProxyCredentials_address h, resolveOutboundProxy, hpolicy]
  split
  · rfl
  dsimp only
  rw [if_neg hne]
  cases parseProxyUrl (proxyAddress front userInfo host) <;> rfl

/-- Two proxies that differ in the credentials of their address only are
masked alike and, where both are accepted, reached alike; the texts of their
errors are the same where the same is wrong with the credentials, or nothing
is. -/
theorem proxy_credentials_hidden {front host userInfo userInfo' : Bytes}
    {policy policy' : HttpProxyPolicy} {scheme : Bytes}
    (h : IsUserInfo front host userInfo)
    (h' : IsUserInfo front host userInfo')
    (hpolicy : policy.proxyTextFor scheme = some (proxyAddress front userInfo host))
    (hpolicy' : policy'.proxyTextFor scheme = some (proxyAddress front userInfo' host))
    (hnoProxy : policy.noProxy = policy'.noProxy)
    (target : Bytes) (port : Nat) :
    redactProxyCredentials (proxyAddress front userInfo host) =
        redactProxyCredentials (proxyAddress front userInfo' host) ∧
      (∀ error error', resolveOutboundProxy policy scheme target port = .error error →
        resolveOutboundProxy policy' scheme target port = .error error' →
        credentialFault userInfo = credentialFault userInfo' →
        error = error') ∧
      ∀ route route', resolveOutboundProxy policy scheme target port = .ok (some route) →
        resolveOutboundProxy policy' scheme target port = .ok (some route') →
        route.host = route'.host ∧ route.port = route'.port ∧ route.isTls = route'.isTls := by
  have hverdict := resolveOutboundProxy_address h hpolicy target port
  have hverdict' := resolveOutboundProxy_address h' hpolicy' target port
  rw [← hnoProxy] at hverdict'
  refine ⟨?_, fun error error' herror herror' hfault => ?_, fun route route' hroute hroute' => ?_⟩
  · rw [redactProxyCredentials_address h, redactProxyCredentials_address h']
  · rw [herror, hfault, ← hverdict', herror'] at hverdict
    injection hverdict
  · rw [hroute] at hverdict
    rw [hroute'] at hverdict'
    split at hverdict
    · cases hverdict
    · next hproxied =>
      rw [if_neg hproxied] at hverdict'
      cases hfirst : proxyVerdict front host (credentialFault userInfo) with
      | error error =>
        rw [hfirst] at hverdict
        cases hverdict
      | ok endpoint =>
        cases hsecond : proxyVerdict front host (credentialFault userInfo') with
        | error error =>
          rw [hsecond] at hverdict'
          cases hverdict'
        | ok endpoint' =>
          rw [hfirst] at hverdict
          rw [hsecond] at hverdict'
          rw [fault_eq_none_of_accepted hfirst] at hfirst
          rw [fault_eq_none_of_accepted hsecond, hfirst] at hsecond
          injection hsecond with hsame
          injection hverdict with hroute
          injection hverdict' with hroute'
          have heq : route.endpoint = route'.endpoint :=
            Option.some.inj (hroute.trans ((congrArg some hsame).trans hroute'.symm))
          simp only [HttpProxyRoute.endpoint, Prod.mk.injEq] at heq
          exact heq

/-- Two passwords for one proxy. -/
theorem proxy_credentials_hidden_passwords :
    redactProxyCredentials (asciiText "http://u:p@h:8080") =
      redactProxyCredentials (asciiText "http://u:q://%40@h:8080") :=
  (@proxy_credentials_hidden (asciiText "http://") (asciiText "h:8080")
    (asciiText "u:p") (asciiText "u:q://%40")
    ⟨asciiText "http://u:p@h:8080", [], []⟩
    ⟨asciiText "http://u:q://%40@h:8080", [], []⟩ (asciiText "http")
    ⟨by decide, .inl ⟨asciiText "http", by decide +kernel⟩⟩
    ⟨by decide, .inl ⟨asciiText "http", by decide +kernel⟩⟩
    (by decide +kernel) (by decide +kernel) rfl (asciiText "t") 80).1

/-- The text of the error for credentials of one proxy. -/
def refusalOf (userInfo : Bytes) : Except Bytes (Option HttpProxyRoute) := resolveOutboundProxy
    ⟨proxyAddress (asciiText "http://") userInfo (asciiText "h"), [], []⟩
    (asciiText "http") (asciiText "t") 80

/-- The error names the malformed part, so two addresses that differ in
their credentials only are refused in different words. -/
theorem proxy_error_names_fault : cutAt kSchemeSeparator (asciiText "http://") =
        some (asciiText "http", []) ∧
      refusalOf (asciiText "%zz") = .error (literalText
        "代理地址凭据的用户名含非法的 %XX 转义（地址「http://***@h」来自 HttpProxyPolicy 或 http_proxy/https_proxy 环境值）") ∧
      refusalOf (asciiText "u:%zz") = .error (literalText
        "代理地址凭据的口令含非法的 %XX 转义（地址「http://***@h」来自 HttpProxyPolicy 或 http_proxy/https_proxy 环境值）") ∧
      refusalOf (asciiText "%zz") ≠ refusalOf (asciiText "u:%zz") := by
  decide +kernel

end AsynGyanis.Http
