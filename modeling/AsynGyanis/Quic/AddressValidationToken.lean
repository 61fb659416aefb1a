import AsynGyanis.Core.InetAddress
import AsynGyanis.Library.Reach
import AsynGyanis.Quic.Codec.Frame

/-!
# Address validation tokens (RFC 9000 §8.1)

A token is what the server hands a client in a Retry and recognises in the
next Initial without having kept anything: the second it was issued in, the
client's first destination connection ID, a tag over the client's address
and a tag over all of that. The keys of both tags come from one signing key,
and two generations of signing keys are kept.

`AuthorityRun` is a token authority at work: keys are rotated, tokens are
issued, and a log says which. The MAC is a parameter. What is asked of it is
asked for one presented token at a time, as `MacHolds`: a tag that verifies
was computed by the authority, and the inputs at hand do not collide. Then
what verifies is what was issued, `AuthorityRun.verify_iff`: to the same
address, under a key still kept, and no longer ago than the lifetime as far
as the 32 bits kept of either second can tell.
-/

namespace AsynGyanis.Quic

open Library AsynGyanis.Core

/-! ## Constants -/

def kSha256Length : Nat := 32

def kQuicAddressValidationTokenKind : UInt8 := 0x01

def kQuicAddressValidationTagByteLength : Nat := 16

def kQuicAddressValidationHeaderByteLength : Nat := 6

def kQuicAddressValidationIssuedSecondOffset : Nat := 1

def kQuicAddressValidationIssuedSecondLength : Nat := 4

def kQuicAddressValidationConnectionIdLengthOffset : Nat := 5

def kQuicMaximumConnectionIdByteLength : Nat := 20

def kQuicMinimumSigningKeyByteLength : Nat := 16

def kQuicMaximumKeptKeySetCount : Nat := 2

def textBytes (text : List Char) : Bytes := (String.ofList text).toUTF8.data.toList

def kQuicAddressTagDomain : Bytes := textBytes "asyn-quic-address-validation-address".toList

def kQuicAuthTagDomain : Bytes := textBytes "asyn-quic-address-validation-auth".toList

/-! ## Codec -/

inductive QuicAddressValidationTokenStatus
  | absent
  | malformed
  | integrityFailed
  | addressMismatch
  | expired
  deriving DecidableEq, Repr

structure QuicAddressValidationTokenContent where
  originalDestinationConnectionId : Bytes
  /-- In seconds. -/
  issuedAge : Nat
  deriving DecidableEq, Repr

/-- Nanoseconds since the epoch of the system clock. -/
abbrev SystemTime := Int

/-- The libraries outside: `hmacSha256` is a digest or the message of an
exception. -/
structure TokenEnvironment where
  hmacSha256 : Bytes → Bytes → Except String (Vector UInt8 kSha256Length)
  ipv6Text : Ipv6Text

structure KeySet where
  addressKey : Bytes
  authKey : Bytes
  deriving DecidableEq, Repr

structure QuicAddressValidationTokenCodec where
  keySets : List KeySet
  lifetime : Nat
  deriving DecidableEq, Repr

/-- The whole seconds, truncated towards zero, in 32 bits. -/
def epochSecondsOf (moment : SystemTime) : Nat := (moment.tdiv 1000000000 % 2 ^ 32).toNat

namespace TokenEnvironment

def hmacTagOf (environment : TokenEnvironment) (key data : Bytes) : Except String Bytes := do
  let digest ← environment.hmacSha256 key data
  return digest.toList.take kQuicAddressValidationTagByteLength

def peerIdentityOf (environment : TokenEnvironment) (peerAddress : SocketAddress) : Bytes :=
  textBytes (peerAddress.toString environment.ipv6Text)

def deriveKeySet (environment : TokenEnvironment) (signingKey : Bytes) : Except String KeySet := do
  let addressKey ← environment.hmacSha256 signingKey kQuicAddressTagDomain
  let authKey ← environment.hmacSha256 signingKey kQuicAuthTagDomain
  return ⟨addressKey.toList, authKey.toList⟩

end TokenEnvironment

/-- What is written before the tags. -/
def tokenHeader (originalDestinationConnectionId : Bytes) (issuedAt : SystemTime) : Bytes :=
  kQuicAddressValidationTokenKind ::
    (toBigEndian kQuicAddressValidationIssuedSecondLength (epochSecondsOf issuedAt) ++
      UInt8.ofNat originalDestinationConnectionId.length :: originalDestinationConnectionId)

/-- A token taken apart. -/
structure TokenParts where
  headerPart : Bytes
  addressTag : Bytes
  authTag : Bytes
  issuedSecond : Nat
  originalDestinationConnectionId : Bytes
  deriving DecidableEq, Repr

namespace QuicAddressValidationTokenCodec

/-- The constructor. -/
def create (environment : TokenEnvironment) (signingKey : Bytes)
    (lifetime : Int) : Except String QuicAddressValidationTokenCodec :=
  if signingKey.length < kQuicMinimumSigningKeyByteLength then
    .error s!"地址验证令牌的密钥只有 {signingKey.length} 字节，低于下限 {kQuicMinimumSigningKeyByteLength} 字节：短到这个程度，令牌里的认证码就成了可穷举的东西，地址验证这道防线等于没设（RFC 9000 §8.1.4）"
  else if lifetime ≤ 0 then
    .error s!"地址验证令牌的有效期配成了 {lifetime} 秒：这一项要么不开（配置侧给 0），要么必须是正数——0 或负数的令牌一签出来就过期，等于每笔握手都白跑一趟"
  else
    match environment.deriveKeySet signingKey with
    | .error message => .error message
    | .ok keySet => .ok ⟨[keySet], lifetime.toNat⟩

def rotateSigningKey (environment : TokenEnvironment)
    (codec : QuicAddressValidationTokenCodec) (newSigningKey : Bytes) :
    Except String QuicAddressValidationTokenCodec :=
  if newSigningKey.length < kQuicMinimumSigningKeyByteLength then
    .error s!"轮换用的新密钥只有 {newSigningKey.length} 字节，低于下限 {kQuicMinimumSigningKeyByteLength} 字节：RFC 9000 §8.1.4 的「难猜」要求不随轮换打折"
  else
    match environment.deriveKeySet newSigningKey with
    | .error message => .error message
    | .ok keySet =>
      .ok { codec with
        keySets := (keySet :: codec.keySets).take kQuicMaximumKeptKeySetCount }

/-- The token for a key set; nothing when the MAC fails. -/
def signWith (environment : TokenEnvironment) (keySet : KeySet)
    (peerAddress : SocketAddress) (header : Bytes) : Except String Bytes := do
  let addressTag ← environment.hmacTagOf keySet.addressKey (environment.peerIdentityOf peerAddress)
  let authTag ← environment.hmacTagOf keySet.authKey (header ++ addressTag)
  return header ++ (addressTag ++ authTag)

def issue (environment : TokenEnvironment)
    (codec : QuicAddressValidationTokenCodec) (peerAddress : SocketAddress)
    (originalDestinationConnectionId : Bytes) (issuedAt : SystemTime) :
    Except String Bytes :=
  if originalDestinationConnectionId.length > kQuicMaximumConnectionIdByteLength then
    .error s!"要塞进地址验证令牌的原始目的标识有 {originalDestinationConnectionId.length} 字节，超过 v1 连接标识的 {kQuicMaximumConnectionIdByteLength} 字节上限（RFC 9000 §17.1）：这一格只能取客户端 Initial 报文里的目的标识，不要自己造更长的"
  else
    match codec.keySets with
    | [] => .ok []
    | current :: _ =>
      match signWith environment current peerAddress
        (tokenHeader originalDestinationConnectionId issuedAt) with
      | .ok token => .ok token
      | .error _ => .ok []

/-- The shape of a token, and its parts. -/
def parse (token : Bytes) : Except QuicAddressValidationTokenStatus TokenParts :=
  if token.isEmpty then .error .absent
  else if token.length < kQuicAddressValidationHeaderByteLength ∨
      token.headD 0 ≠ kQuicAddressValidationTokenKind then .error .malformed
  else
    let originalConnectionIdByteCount :=
      (token.getD kQuicAddressValidationConnectionIdLengthOffset 0).toNat
    let headerByteLength := kQuicAddressValidationHeaderByteLength + originalConnectionIdByteCount
    if originalConnectionIdByteCount > kQuicMaximumConnectionIdByteLength ∨ token.length ≠
          headerByteLength + 2 * kQuicAddressValidationTagByteLength then
      .error .malformed
    else
      .ok
        { headerPart := token.take headerByteLength
          addressTag := (token.drop headerByteLength).take kQuicAddressValidationTagByteLength
          authTag := (token.drop (headerByteLength + kQuicAddressValidationTagByteLength)).take
              kQuicAddressValidationTagByteLength
          issuedSecond := ofBigEndian
            ((token.drop kQuicAddressValidationIssuedSecondOffset).take
              kQuicAddressValidationIssuedSecondLength)
          originalDestinationConnectionId :=
            (token.drop kQuicAddressValidationHeaderByteLength).take originalConnectionIdByteCount }

/-- The loop over the keys: the first whose tag agrees decides. A failure of
the second MAC is not caught. -/
def checkKeySets (environment : TokenEnvironment) (parts : TokenParts)
    (peerAddress : SocketAddress) (lifetime : Nat) (now : SystemTime) :
    List KeySet → Except String (Except QuicAddressValidationTokenStatus
      QuicAddressValidationTokenContent)
  | [] => .ok (.error .integrityFailed)
  | keySet :: rest =>
    match environment.hmacTagOf keySet.authKey (parts.headerPart ++ parts.addressTag) with
    | .error _ => .ok (.error .integrityFailed)
    | .ok expectedAuth =>
      if expectedAuth ≠ parts.authTag then
        checkKeySets environment parts peerAddress lifetime now rest
      else
        match environment.hmacTagOf keySet.addressKey (environment.peerIdentityOf peerAddress) with
        | .error message => .error message
        | .ok expectedAddressTag =>
          if expectedAddressTag ≠ parts.addressTag then
            .ok (.error .addressMismatch)
          else
            let nowSecond := epochSecondsOf now
            if parts.issuedSecond > nowSecond ∨ nowSecond - parts.issuedSecond > lifetime then
              .ok (.error .expired)
            else
              .ok (.ok
                { originalDestinationConnectionId := parts.originalDestinationConnectionId
                  issuedAge := nowSecond - parts.issuedSecond })

def verify (environment : TokenEnvironment)
    (codec : QuicAddressValidationTokenCodec) (token : Bytes)
    (peerAddress : SocketAddress) (now : SystemTime) :
    Except String (Except QuicAddressValidationTokenStatus QuicAddressValidationTokenContent) :=
  match parse token with
  | .error status => .ok (.error status)
  | .ok parts =>
    checkKeySets environment parts peerAddress codec.lifetime now codec.keySets

end QuicAddressValidationTokenCodec

open QuicAddressValidationTokenCodec

/-! ## A token authority at work -/

structure IssuedToken where
  peerAddress : SocketAddress
  originalDestinationConnectionId : Bytes
  issuedAt : SystemTime
  keySet : KeySet
  /-- How many rotations there had been. -/
  rotation : Nat
  token : Bytes
  deriving DecidableEq, Repr

/-- The codec, every key set it ever signed with in order, and what it
issued. -/
structure AuthorityRun where
  codec : QuicAddressValidationTokenCodec
  keyHistory : List KeySet
  issued : List IssuedToken := []
  deriving DecidableEq, Repr

inductive AuthorityEvent
  | rotateSigningKey (newSigningKey : Bytes)
  | issue (peerAddress : SocketAddress)
      (originalDestinationConnectionId : Bytes) (issuedAt : SystemTime)

namespace AuthorityRun

/-- A call that throws, or has no token to give, leaves everything alone. -/
def step (environment : TokenEnvironment) (run : AuthorityRun) : AuthorityEvent → AuthorityRun
  | .rotateSigningKey newSigningKey =>
    match run.codec.rotateSigningKey environment newSigningKey with
    | .error _ => run
    | .ok codec =>
      { run with
        codec := codec
        keyHistory := run.keyHistory ++ codec.keySets.take 1 }
  | .issue peerAddress originalDestinationConnectionId issuedAt =>
    match run.codec.issue environment peerAddress originalDestinationConnectionId issuedAt,
      run.codec.keySets with
    | .ok (byte :: rest), keySet :: _ =>
      { run with
        issued := run.issued ++
          [{ peerAddress := peerAddress
             originalDestinationConnectionId := originalDestinationConnectionId
             issuedAt := issuedAt
             keySet := keySet
             rotation := run.keyHistory.length - 1
             token := byte :: rest }] }
    | _, _ => run

def start (codec : QuicAddressValidationTokenCodec) : AuthorityRun where
  codec := codec
  keyHistory := codec.keySets

/-- The runs of an authority made with a key and a lifetime. -/
def Reachable (environment : TokenEnvironment) (signingKey : Bytes)
    (lifetime : Int) (run : AuthorityRun) : Prop :=
  ∃ codec, create environment signingKey lifetime = .ok codec ∧
    Reach (step environment) (fun _ _ => True) (start codec) run

/-- The token's signing key is the current one or the one before it. -/
def Keeps (run : AuthorityRun) (entry : IssuedToken) : Prop :=
  ∃ rotation, run.keyHistory[rotation]? = some entry.keySet ∧ run.keyHistory.length ≤ rotation + 2

end AuthorityRun

/-! ## Layout -/

section Layout

variable {environment : TokenEnvironment} {keySet : KeySet}
  {peerAddress : SocketAddress} {header token addressTag authTag : Bytes}
  {connectionId : Bytes} {issuedAt : SystemTime}

theorem epochSecondsOf_lt (moment : SystemTime) : epochSecondsOf moment < 2 ^ 32 := by
  have hpos := Int.emod_nonneg (moment.tdiv 1000000000) (b := 2 ^ 32) (by decide)
  have hlt := Int.emod_lt_of_pos (moment.tdiv 1000000000) (b := 2 ^ 32) (by decide)
  unfold epochSecondsOf
  omega

theorem length_tokenHeader : (tokenHeader connectionId issuedAt).length =
    kQuicAddressValidationHeaderByteLength + connectionId.length := by
  unfold tokenHeader kQuicAddressValidationHeaderByteLength kQuicAddressValidationIssuedSecondLength
  simp only [List.length_cons, List.length_append, length_toBigEndian]
  omega

theorem hmacTagOf_length {key data tag : Bytes} (h : environment.hmacTagOf key data = .ok tag) :
    tag.length = kQuicAddressValidationTagByteLength := by
  unfold TokenEnvironment.hmacTagOf at h
  rcases hdigest : environment.hmacSha256 key data with _ | digest
  · rw [hdigest] at h
    cases h
  rw [hdigest] at h
  injection h with h
  rw [← h, List.length_take, digest.length_toList]
  rfl

theorem signWith_ok (h : signWith environment keySet peerAddress header = .ok token) :
    ∃ addressTag authTag, environment.hmacTagOf keySet.addressKey
          (environment.peerIdentityOf peerAddress) = .ok addressTag ∧
        environment.hmacTagOf keySet.authKey (header ++ addressTag) =
          .ok authTag ∧ token = header ++ (addressTag ++ authTag) := by
  unfold signWith at h
  rcases haddress : environment.hmacTagOf keySet.addressKey
    (environment.peerIdentityOf peerAddress) with _ | addressTag
  · rw [haddress] at h
    cases h
  rw [haddress] at h
  simp only [bind, Except.bind] at h
  rcases hauth : environment.hmacTagOf keySet.authKey (header ++ addressTag) with _ | authTag
  · rw [hauth] at h
    cases h
  rw [hauth] at h
  injection h with h
  exact ⟨addressTag, authTag, rfl, hauth, h.symm⟩

theorem parse_token (issuedAt : SystemTime)
    (hlength : connectionId.length ≤ kQuicMaximumConnectionIdByteLength)
    (haddress : addressTag.length = kQuicAddressValidationTagByteLength)
    (hauth : authTag.length = kQuicAddressValidationTagByteLength) :
    parse (tokenHeader connectionId issuedAt ++ (addressTag ++ authTag)) = .ok
        { headerPart := tokenHeader connectionId issuedAt
          addressTag := addressTag
          authTag := authTag
          issuedSecond := epochSecondsOf issuedAt
          originalDestinationConnectionId := connectionId } := by
  unfold kQuicMaximumConnectionIdByteLength at hlength
  unfold kQuicAddressValidationTagByteLength at haddress hauth
  obtain ⟨b0, b1, b2, b3, hbytes⟩ : ∃ b0 b1 b2 b3, toBigEndian 4
      (epochSecondsOf issuedAt) = [b0, b1, b2, b3] :=
    ⟨_, _, _, _, rfl⟩
  have hsecond : ofBigEndian [b0, b1, b2, b3] = epochSecondsOf issuedAt := by
    have hlt := epochSecondsOf_lt issuedAt
    rw [← hbytes, ofBigEndian_toBigEndian, Nat.mod_eq_of_lt (by omega)]
  have hcount : (UInt8.ofNat connectionId.length).toNat =
      connectionId.length := by
    rw [UInt8.toNat_ofNat']
    omega
  have htoken : tokenHeader connectionId issuedAt ++ (addressTag ++ authTag) =
      kQuicAddressValidationTokenKind :: b0 :: b1 :: b2 :: b3 ::
        UInt8.ofNat connectionId.length :: (connectionId ++ (addressTag ++ authTag)) := by
    unfold tokenHeader kQuicAddressValidationIssuedSecondLength
    rw [hbytes]
    simp
  have hheader : tokenHeader connectionId issuedAt =
      (tokenHeader connectionId issuedAt ++ (addressTag ++ authTag)).take
        (6 + connectionId.length) :=
    (List.take_left' length_tokenHeader).symm
  have htags : (tokenHeader connectionId issuedAt ++
      (addressTag ++ authTag)).drop (6 + connectionId.length) = addressTag ++ authTag :=
    List.drop_left' length_tokenHeader
  unfold parse kQuicAddressValidationHeaderByteLength kQuicMaximumConnectionIdByteLength
    kQuicAddressValidationTagByteLength
    kQuicAddressValidationConnectionIdLengthOffset
    kQuicAddressValidationIssuedSecondOffset
    kQuicAddressValidationIssuedSecondLength
  have hlong : (tokenHeader connectionId issuedAt ++
      (addressTag ++ authTag)).length = 6 + connectionId.length + 2 * 16 := by
    rw [List.length_append, List.length_append, haddress, hauth, length_tokenHeader]
    rfl
  have hlengthByte : ((tokenHeader connectionId issuedAt ++
      (addressTag ++ authTag)).getD 5 0).toNat = connectionId.length := by
    exact hcount
  have hkind : (tokenHeader connectionId issuedAt ++
      (addressTag ++ authTag)).headD 0 = kQuicAddressValidationTokenKind := by
    rfl
  simp only [hlengthByte, hlong, hkind]
  rw [if_neg (by rw [htoken]; simp), if_neg (by
      rintro (hshort | hother)
      · omega
      · exact hother rfl), if_neg (by
      rintro (hlong | hother)
      · omega
      · exact hother rfl), ← hheader, htags, ← List.drop_drop, htags]
  refine congrArg Except.ok ?_
  refine TokenParts.mk.injEq .. |>.mpr ⟨rfl, ?_, ?_, ?_, ?_⟩
  · exact List.take_left' haddress
  · rw [List.drop_left' haddress, List.take_of_length_le (by omega)]
  · rw [htoken]
    exact hsecond
  · exact List.take_left' rfl

theorem parse_ok {parts : TokenParts} (h : parse token = .ok parts) :
    token = parts.headerPart ++ parts.addressTag ++ parts.authTag ∧
      parts.addressTag.length = kQuicAddressValidationTagByteLength ∧
      parts.authTag.length = kQuicAddressValidationTagByteLength := by
  unfold parse at h
  simp only at h
  split at h
  · cases h
  split at h
  · cases h
  split at h
  · cases h
  rename_i hshape
  injection h with h
  rw [not_or, not_not] at hshape
  obtain ⟨-, hlength⟩ := hshape
  rw [← h]
  refine ⟨?_, ?_, ?_⟩
  · rw [← List.take_add, ← List.take_add, List.take_of_length_le (by omega)]
  · rw [List.length_take, List.length_drop]
    omega
  · rw [List.length_take, List.length_drop]
    omega

end Layout

theorem textBytes_inj {a b : List Char} (h : textBytes a = textBytes b) : a = b := by
  exact String.ofList_injective (String.toByteArray_inj.mp (ByteArray.ext (Array.toList_inj.mp h)))

/-! ## Runs of an authority -/

namespace AuthorityRun

variable {environment : TokenEnvironment} {signingKey : Bytes}
  {lifetime : Int} {run : AuthorityRun}

/-- The codec keeps the last two key sets, and every token in the log is
what signing with its key set gave. -/
structure WellKept (environment : TokenEnvironment) (lifetime : Int)
    (run : AuthorityRun) : Prop where
  keySets : run.codec.keySets = run.keyHistory.reverse.take kQuicMaximumKeptKeySetCount
  lifetime : run.codec.lifetime = lifetime.toNat
  issued : ∀ entry ∈ run.issued, run.keyHistory[entry.rotation]? = some entry.keySet ∧
      entry.originalDestinationConnectionId.length ≤ kQuicMaximumConnectionIdByteLength ∧
      signWith environment entry.keySet entry.peerAddress
          (tokenHeader entry.originalDestinationConnectionId entry.issuedAt) = .ok entry.token

theorem WellKept.step (h : WellKept environment lifetime run) (event : AuthorityEvent) :
    WellKept environment lifetime (run.step environment event) := by
  cases event with
  | rotateSigningKey newSigningKey =>
    unfold AuthorityRun.step
    simp only
    split
    · exact h
    rename_i codec hcodec
    unfold rotateSigningKey at hcodec
    split at hcodec
    · cases hcodec
    split at hcodec
    · cases hcodec
    injection hcodec with hcodec
    rw [← hcodec]
    refine ⟨?_, h.lifetime, fun entry hentry => ?_⟩
    · simp only [kQuicMaximumKeptKeySetCount, List.take_succ_cons,
        List.take_zero, List.reverse_append, List.reverse_cons,
        List.reverse_nil, List.nil_append, List.cons_append]
      rw [h.keySets]
      simp [kQuicMaximumKeptKeySetCount, List.take_take]
    · obtain ⟨hrotation, hrest⟩ := h.issued entry hentry
      exact ⟨List.getElem?_append_left
        (List.getElem?_eq_some_iff.mp hrotation).1 ▸ hrotation, hrest⟩
  | issue peerAddress connectionId issuedAt =>
    unfold AuthorityRun.step
    simp only
    split
    · next byte rest keySet others htoken hkeys =>
      refine ⟨h.keySets, h.lifetime, fun entry hentry => ?_⟩
      rcases List.mem_append.mp hentry with hentry | hentry
      · exact h.issued entry hentry
      rw [List.mem_singleton] at hentry
      subst hentry
      unfold issue at htoken
      split at htoken
      · cases htoken
      rename_i hlength
      rw [hkeys] at htoken
      simp only at htoken
      split at htoken
      · next token hsigned =>
        refine ⟨?_, Nat.le_of_not_gt hlength, htoken ▸ hsigned⟩
        have hlast := congrArg List.head? h.keySets
        rw [hkeys, List.head?_take, if_neg (by decide),
          List.head?_reverse, List.getLast?_eq_getElem?] at hlast
        exact hlast.symm
      · cases htoken
    · exact h

theorem Reachable.wellKept (h : Reachable environment signingKey lifetime run) :
    WellKept environment lifetime run := by
  obtain ⟨codec, hcreate, hreach⟩ := h
  refine hreach.invariant ?_ fun run event hrun _ => hrun.step event
  unfold create at hcreate
  split at hcreate
  · cases hcreate
  split at hcreate
  · cases hcreate
  split at hcreate
  · cases hcreate
  injection hcreate with hcreate
  rw [← hcreate]
  exact ⟨rfl, rfl, fun entry hentry => absurd hentry List.not_mem_nil⟩

theorem WellKept.keeps_iff (h : WellKept environment lifetime run) {entry : IssuedToken} :
    run.Keeps entry ↔ entry.keySet ∈ run.codec.keySets := by
  rw [h.keySets, List.mem_iff_getElem?]
  constructor
  · rintro ⟨rotation, hkey, hlast⟩
    have hlt := (List.getElem?_eq_some_iff.mp hkey).1
    refine ⟨run.keyHistory.length - 1 - rotation, ?_⟩
    rw [List.getElem?_take_of_lt (by unfold kQuicMaximumKeptKeySetCount; omega),
      List.getElem?_reverse (by omega)]
    rw [show run.keyHistory.length - 1 - (run.keyHistory.length - 1 - rotation) = rotation by omega]
    exact hkey
  · rintro ⟨index, hkey⟩
    have hindex := (List.getElem?_eq_some_iff.mp hkey).1
    rw [List.length_take, List.length_reverse] at hindex
    unfold kQuicMaximumKeptKeySetCount at hindex hkey
    rw [List.getElem?_take_of_lt (by omega), List.getElem?_reverse (by omega)] at hkey
    exact ⟨_, hkey, by omega⟩

end AuthorityRun

/-! ## What verifies -/

/-- What is asked of the MAC when a token is presented from an address: it
computes; a tag that agrees under a key the codec holds is one the authority
computed itself; two keys held do not give the token's tag both; and no
address a token was issued to shares its tag with the one at hand. -/
structure MacHolds (environment : TokenEnvironment) (run : AuthorityRun)
    (token : Bytes) (peerAddress : SocketAddress) : Prop where
  computes : ∀ key data, ∃ digest, environment.hmacSha256 key data = .ok digest
  unforgeable : ∀ keySet ∈ run.codec.keySets, ∀ signedPart tag, token = signedPart ++ tag →
    environment.hmacTagOf keySet.authKey signedPart = .ok tag →
    ∃ entry ∈ run.issued, entry.keySet = keySet ∧ ∃ issuedTag,
      issuedTag.length = kQuicAddressValidationTagByteLength ∧ entry.token = signedPart ++ issuedTag
  keysDistinct : ∀ keySet ∈ run.codec.keySets, ∀ other ∈ run.codec.keySets,
    ∀ signedPart tag, token = signedPart ++ tag →
    environment.hmacTagOf keySet.authKey signedPart = .ok tag →
    environment.hmacTagOf other.authKey signedPart = .ok tag → other = keySet
  addressesDistinct : ∀ entry ∈ run.issued, ∀ tag, environment.hmacTagOf entry.keySet.addressKey
      (environment.peerIdentityOf entry.peerAddress) = .ok tag →
    environment.hmacTagOf entry.keySet.addressKey
      (environment.peerIdentityOf peerAddress) = .ok tag →
    environment.peerIdentityOf entry.peerAddress = environment.peerIdentityOf peerAddress

section Verify

variable {environment : TokenEnvironment} {parts : TokenParts}
  {peerAddress : SocketAddress} {lifetime : Nat} {now : SystemTime}
  {content : QuicAddressValidationTokenContent}

/-- Within the lifetime, as far as 32 bits tell. -/
def WithinLifetime (issuedSecond : Nat) (lifetime : Nat) (now : SystemTime) : Prop :=
  issuedSecond ≤ epochSecondsOf now ∧ epochSecondsOf now - issuedSecond ≤ lifetime

theorem hmacTagOf_computes (h : ∀ key data, ∃ digest, environment.hmacSha256 key data = .ok digest)
    (key data : Bytes) : ∃ tag, environment.hmacTagOf key data = .ok tag := by
  obtain ⟨digest, hdigest⟩ := h key data
  unfold TokenEnvironment.hmacTagOf
  rw [hdigest]
  exact ⟨_, rfl⟩

theorem checkKeySets_accepted {keySets : List KeySet}
    (h : checkKeySets environment parts peerAddress lifetime now keySets = .ok (.ok content)) :
    ∃ keySet ∈ keySets, environment.hmacTagOf keySet.authKey
          (parts.headerPart ++ parts.addressTag) = .ok parts.authTag ∧
        environment.hmacTagOf keySet.addressKey
          (environment.peerIdentityOf peerAddress) = .ok parts.addressTag ∧
        WithinLifetime parts.issuedSecond lifetime now ∧
        content = ⟨parts.originalDestinationConnectionId,
          epochSecondsOf now - parts.issuedSecond⟩ := by
  induction keySets with
  | nil => cases h
  | cons keySet rest ih =>
    unfold checkKeySets at h
    rcases hauth : environment.hmacTagOf keySet.authKey
      (parts.headerPart ++ parts.addressTag) with _ | expectedAuth
    · rw [hauth] at h
      cases h
    rw [hauth] at h
    simp only at h
    split at h
    · obtain ⟨found, hfound, hrest⟩ := ih h
      exact ⟨found, List.mem_cons_of_mem _ hfound, hrest⟩
    rename_i hagrees
    rcases haddress : environment.hmacTagOf keySet.addressKey
      (environment.peerIdentityOf peerAddress) with _ | expectedAddress
    · rw [haddress] at h
      cases h
    rw [haddress] at h
    simp only at h
    split at h
    · cases h
    rename_i hsame
    split at h
    · cases h
    injection h with h
    injection h with h
    rw [not_not] at hagrees hsame
    exact ⟨keySet, List.mem_cons_self, by rw [hauth, hagrees],
      by rw [haddress, hsame], ⟨by omega, by omega⟩, h.symm⟩

theorem checkKeySets_accepts {keySets : List KeySet} {keySet : KeySet}
    (hcomputes : ∀ key data, ∃ digest, environment.hmacSha256 key data = .ok digest)
    (hmem : keySet ∈ keySets)
    (hdistinct : ∀ other ∈ keySets, environment.hmacTagOf other.authKey
      (parts.headerPart ++ parts.addressTag) = .ok parts.authTag → other = keySet)
    (hauth : environment.hmacTagOf keySet.authKey
      (parts.headerPart ++ parts.addressTag) = .ok parts.authTag)
    (haddress : environment.hmacTagOf keySet.addressKey
      (environment.peerIdentityOf peerAddress) = .ok parts.addressTag)
    (htime : WithinLifetime parts.issuedSecond lifetime now) :
    checkKeySets environment parts peerAddress lifetime now keySets =
      .ok (.ok ⟨parts.originalDestinationConnectionId,
        epochSecondsOf now - parts.issuedSecond⟩) := by
  induction keySets with
  | nil => cases hmem
  | cons head rest ih =>
    unfold checkKeySets
    obtain ⟨expectedAuth, hhead⟩ := hmacTagOf_computes hcomputes
      head.authKey (parts.headerPart ++ parts.addressTag)
    rw [hhead]
    simp only
    by_cases hagrees : expectedAuth = parts.authTag
    · have hkey : head = keySet := hdistinct head List.mem_cons_self (by rw [hhead, hagrees])
      rw [if_neg (not_not.mpr hagrees), hkey, haddress]
      simp only
      rw [if_neg (not_not.mpr rfl), if_neg (by
        obtain ⟨hpast, hage⟩ := htime
        omega)]
    rw [if_pos hagrees]
    refine ih ?_ fun other hother =>
      hdistinct other (List.mem_cons_of_mem _ hother)
    rcases List.mem_cons.mp hmem with rfl | hmem
    · rw [hauth] at hhead
      injection hhead with hhead
      exact absurd hhead.symm hagrees
    · exact hmem

end Verify

namespace AuthorityRun

variable {environment : TokenEnvironment} {signingKey : Bytes}
  {lifetime : Int} {run : AuthorityRun} {token : Bytes}
  {peerAddress : SocketAddress}

theorem peerIdentityOf_inj {a b : SocketAddress} :
    environment.peerIdentityOf a = environment.peerIdentityOf b ↔
      a.canonicalBytes = b.canonicalBytes := by
  rw [← SocketAddress.toString_inj_iff environment.ipv6Text]
  exact ⟨textBytes_inj, congrArg textBytes⟩

/-- A token is accepted, with this content, exactly if the authority issued
it to the same address, under one of its last two keys, and not too long
ago; no other bytes are. -/
theorem verify_iff (hreach : Reachable environment signingKey lifetime run)
    (hmac : MacHolds environment run token peerAddress) (now : SystemTime)
    (content : QuicAddressValidationTokenContent) :
    run.codec.verify environment token peerAddress now = .ok (.ok content) ↔
      ∃ entry ∈ run.issued, token = entry.token ∧
        content = ⟨entry.originalDestinationConnectionId,
          epochSecondsOf now - epochSecondsOf entry.issuedAt⟩ ∧
        entry.peerAddress.canonicalBytes = peerAddress.canonicalBytes ∧
        run.Keeps entry ∧
        epochSecondsOf entry.issuedAt ≤ epochSecondsOf now ∧
        epochSecondsOf now - epochSecondsOf entry.issuedAt ≤
          lifetime.toNat := by
  have hkept := hreach.wellKept
  unfold verify
  rw [hkept.lifetime]
  constructor
  · intro h
    split at h
    · cases h
    rename_i parts hparse
    obtain ⟨htoken, haddressLength, hauthLength⟩ := parse_ok hparse
    obtain ⟨keySet, hkeySet, hauth, haddress, htime, hcontent⟩ := checkKeySets_accepted h
    obtain ⟨entry, hentry, hkey, issuedTag, hissuedLength, hissued⟩ :=
      hmac.unforgeable keySet hkeySet _ _ htoken hauth
    obtain ⟨-, hlength, hsigned⟩ := hkept.issued entry hentry
    obtain ⟨addressTag, authTag, hissuedAddress, hissuedAuth, hform⟩ := signWith_ok hsigned
    have haddressTag := hmacTagOf_length hissuedAddress
    have hauthTag := hmacTagOf_length hissuedAuth
    -- the same signed part, so the same header and address tag
    have hparts : parts.headerPart ++ parts.addressTag =
        tokenHeader entry.originalDestinationConnectionId entry.issuedAt ++
          addressTag := by
      rw [hissued, ← List.append_assoc] at hform
      exact (List.append_inj' hform (by rw [hissuedLength, hauthTag])).1
    obtain ⟨hheader, htag⟩ := List.append_inj' hparts (by rw [haddressLength, haddressTag])
    have hsame : parts.authTag = authTag := by
      rw [← hkey, hparts, hissuedAuth] at hauth
      injection hauth with hauth
      exact hauth.symm
    have hwhole : token = entry.token := by
      rw [htoken, hform, hparts, hsame, List.append_assoc]
    have hread := parse_token entry.issuedAt hlength haddressTag hauthTag
    rw [← hform, ← hwhole, hparse] at hread
    injection hread with hread
    rw [← hkey, htag] at haddress
    rw [hread] at htime hcontent
    refine ⟨entry, hentry, hwhole, hcontent, ?_, ?_, htime⟩
    · exact peerIdentityOf_inj.mp (hmac.addressesDistinct entry hentry _ hissuedAddress haddress)
    · rw [hkept.keeps_iff, hkey]
      exact hkeySet
  · rintro ⟨entry, hentry, hwhole, hcontent, hsameAddress, hkeeps, htime⟩
    obtain ⟨-, hlength, hsigned⟩ := hkept.issued entry hentry
    obtain ⟨addressTag, authTag, hissuedAddress, hissuedAuth, hform⟩ := signWith_ok hsigned
    have hread := parse_token entry.issuedAt hlength
      (hmacTagOf_length hissuedAddress) (hmacTagOf_length hissuedAuth)
    rw [← hform, ← hwhole] at hread
    rw [hread, hcontent]
    have hmem := hkept.keeps_iff.mp hkeeps
    refine checkKeySets_accepts hmac.computes hmem ?_ hissuedAuth ?_ htime
    · intro other hother hauth
      refine hmac.keysDistinct entry.keySet hmem other hother _ authTag ?_ hissuedAuth hauth
      rw [hwhole, hform, List.append_assoc]
    · rw [← peerIdentityOf_inj.mpr hsameAddress]
      exact hissuedAddress

/-! ### A run with one token -/

/-- HMAC-SHA-256 on the inputs of the runs below. -/
def sampleHmacTable : List (Nat × Nat × Nat) :=
  [(ofBigEndian (List.replicate 32 0xA7), ofBigEndian kQuicAddressTagDomain,
      0xb94059ae71810635c44db862005e8a6799a9144d9365031e84a52987d88f7fd4),
    (ofBigEndian (List.replicate 32 0xA7), ofBigEndian kQuicAuthTagDomain,
      0x21c97a606452526ba7275e3a888fdb35160603e9cc677c187ea9e4f4f5e12147),
    (0xb94059ae71810635c44db862005e8a6799a9144d9365031e84a52987d88f7fd4,
      ofBigEndian (textBytes "127.0.0.1:44333".toList),
      0x46e07b5e19d875b1553a1fec9afaca86b8a807d139c70c8f7db61f7d72a52810),
    (0x21c97a606452526ba7275e3a888fdb35160603e9cc677c187ea9e4f4f5e12147,
      0x01000003e8088394c8f03e51570846e07b5e19d875b1553a1fec9afaca86,
      0x6e2207575d67a9d9ecf588d30a02f6d91f922e0178d2a85f489f38e06e74bb83),
    (0x21c97a606452526ba7275e3a888fdb35160603e9cc677c187ea9e4f4f5e12147,
      0x01ffffffff088394c8f03e51570846e07b5e19d875b1553a1fec9afaca86,
      0x4f3b7bdea25797f2df6c2e3921ad132b46b97da05d2b498a490e40653a447dba)]

def sampleEnvironment : TokenEnvironment where
  hmacSha256 := fun key data =>
    let digest := (sampleHmacTable.find? fun row =>
      row.1 == ofBigEndian key && row.2.1 == ofBigEndian data).map (·.2.2)
    .ok ⟨(toBigEndian kSha256Length (digest.getD 0)).toArray, by simp⟩
  ipv6Text := plainIpv6Text

def sampleAddress : SocketAddress := .ipv4 ⟨#[127, 0, 0, 1], rfl⟩ 44333 (Vector.replicate 8 0)

def sampleConnectionId : Bytes := [0x83, 0x94, 0xc8, 0xf0, 0x3e, 0x51, 0x57, 0x08]

def sampleCodec : QuicAddressValidationTokenCodec where
  keySets :=
    [⟨toBigEndian 32 0xb94059ae71810635c44db862005e8a6799a9144d9365031e84a52987d88f7fd4,
      toBigEndian 32 0x21c97a606452526ba7275e3a888fdb35160603e9cc677c187ea9e4f4f5e12147⟩]
  lifetime := 30

/-- A token issued once, presented where it was issued to while its key is
the only one, asks nothing of the MAC but that it computes. -/
theorem macHolds_single {entry : IssuedToken} (hissued : run.issued = [entry])
    (hkeys : run.codec.keySets = [entry.keySet])
    (hcomputes : ∀ key data, ∃ digest, environment.hmacSha256 key data = .ok digest) :
    MacHolds environment run entry.token entry.peerAddress where
  computes := hcomputes
  unforgeable := fun keySet hkeySet signedPart tag htoken hauth => by
    rw [hkeys, List.mem_singleton] at hkeySet
    exact ⟨entry, by rw [hissued]; exact List.mem_singleton_self entry,
      hkeySet.symm, tag, hmacTagOf_length hauth, htoken⟩
  keysDistinct := fun keySet hkeySet other hother _ _ _ _ _ => by
    rw [hkeys, List.mem_singleton] at hkeySet hother
    rw [hkeySet, hother]
  addressesDistinct := fun other hother tag _ _ => by
    rw [hissued, List.mem_singleton] at hother
    rw [hother]

def secondsToTime (seconds : Nat) : SystemTime := seconds * 1000000000

theorem token_created : QuicAddressValidationTokenCodec.create
    sampleEnvironment (List.replicate 32 0xA7) 30 = .ok sampleCodec := by
  decide +kernel

/-- A token issued in the last second before the 32 bits wrap is refused a
second later, from the same address and under the same key. -/
theorem token_refused_across_wrap :
    ∃ token ∈ (sampleCodec.issue sampleEnvironment sampleAddress
        sampleConnectionId (secondsToTime (2 ^ 32 - 1))).toOption,
      sampleCodec.verify sampleEnvironment token sampleAddress
        (secondsToTime (2 ^ 32)) = .ok (.error .expired) := by
  decide +kernel

/-- The token of second 1000. -/
def sampleRun : AuthorityRun := (start sampleCodec).step sampleEnvironment
    (.issue sampleAddress sampleConnectionId (secondsToTime 1000))

theorem verify_iff_sample : ∃ entry ∈ sampleRun.issued,
      sampleRun.codec.verify sampleEnvironment entry.token sampleAddress
        (secondsToTime 1030) = .ok (.ok ⟨sampleConnectionId, 30⟩) := by
  obtain ⟨entry, hissued⟩ : ∃ entry, sampleRun.issued = [entry] :=
    List.length_eq_one_iff.mp (by decide +kernel)
  have hentry : entry ∈ sampleRun.issued := by
    rw [hissued]
    exact List.mem_singleton_self entry
  have hfields : ∀ entry ∈ sampleRun.issued, entry.peerAddress = sampleAddress ∧
        entry.originalDestinationConnectionId = sampleConnectionId ∧
        entry.issuedAt = secondsToTime 1000 ∧ entry.rotation = 0 ∧
        sampleRun.codec.keySets = [entry.keySet] ∧
        sampleRun.keyHistory = [entry.keySet] := by
    decide +kernel
  obtain ⟨haddress, hid, htime, hrotation, hkeys, hhistory⟩ := hfields entry hentry
  have hreach : Reachable sampleEnvironment (List.replicate 32 0xA7) 30
      sampleRun :=
    ⟨sampleCodec, token_created, .next .start trivial⟩
  refine ⟨entry, hentry, ?_⟩
  rw [← haddress]
  refine (verify_iff hreach (macHolds_single hissued hkeys fun _ _ => ⟨_, rfl⟩) _ _).mpr
    ⟨entry, hentry, rfl, ?_, rfl, ⟨0, ?_, ?_⟩, ?_, ?_⟩
  · rw [hid, htime]
    decide +kernel
  · rw [hhistory]
    rfl
  · rw [hhistory]
    simp
  · rw [htime]
    decide +kernel
  · rw [htime]
    decide +kernel

end AuthorityRun

end AsynGyanis.Quic
