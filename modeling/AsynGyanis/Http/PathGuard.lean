import AsynGyanis.Http.Router

/-!
# The middleware that guards paths

Three middlewares ask for credentials: `opsAccessMiddleware` for one fixed
token on the paths of the operations endpoints, `basicAuthMiddleware` and
`bearerAuthMiddleware` for whatever `verify` accepts, on the paths that the
caller names, or on all of them if it names none. Each compares the text of
the request's path with the entries of its list, one by one and as it is.

A middleware either calls the next one or writes a response of its own; here
it is a function that gives the response in the second case. The response
texts are those of the source.
-/

namespace AsynGyanis.Http

/-! ## Base64 -/

def kBase64Alphabet : Bytes :=
  asciiText "ABCDEFGHIJKLMNOPQRSTUVWXYZabcdefghijklmnopqrstuvwxyz0123456789+/"

def kMaximumBase64PaddingLength : Nat := 2

/-- The loop over the characters before the padding: the bits that are left
over, their number, and the bytes so far. -/
def decodeCharacters : Bytes → Nat → Nat → Bytes → Option Bytes
  | [], accumulator, _, decoded =>
    -- bits of the padding that are set are another spelling of the same bytes
    if accumulator = 0 then some decoded else none
  | character :: rest, accumulator, bitCount, decoded =>
    if !kBase64Alphabet.contains character then none
    else
      let accumulator := accumulator * 64 + kBase64Alphabet.idxOf character
      let bitCount := bitCount + 6
      if 8 ≤ bitCount then
        decodeCharacters rest (accumulator % 2 ^ (bitCount - 8)) (bitCount - 8)
          (decoded ++ [UInt8.ofNat (accumulator / 2 ^ (bitCount - 8) % 256)])
      else decodeCharacters rest accumulator bitCount decoded

/-- The number of padding characters at the end, two at most. -/
def paddingLengthOf (text : Bytes) : Nat := min kMaximumBase64PaddingLength
    (text.reverse.takeWhile (· = 0x3D)).length

def base64Decode (text : Bytes) : Option Bytes :=
  if text = [] then none
  else if text.length % 4 ≠ 0 then none
  else decodeCharacters (text.take (text.length - paddingLengthOf text)) 0 0 []

/-! ## Credentials -/

def HttpRequest.headerFieldCount (request : HttpRequest) (key : Bytes) : Nat :=
  (request.headers.filter fun field => equalsIgnoringCase field.1 key).length

def challenge (value : Bytes) : Bytes × Bytes := (asciiText "www-authenticate", value)

structure OpsAccessOptions where
  bearerToken : Bytes := []
  protectedPaths : List Bytes :=
    [asciiText "/metrics", asciiText "/debug/loops",
      asciiText "/debug/connections", asciiText "/debug/log-level"]

structure BasicAuthOptions where
  realm : Bytes := asciiText "restricted"
  protectedPaths : List Bytes := []
  requireSecureTransport : Bool := true
  verify : Option (Bytes → Bytes → Bool) := none

structure BearerAuthOptions where
  realm : Bytes := asciiText "restricted"
  protectedPaths : List Bytes := []
  requireSecureTransport : Bool := true
  verify : Option (Bytes → Bool) := none

/-- One of the three middlewares, with its options. -/
inductive PathGuard
  | opsAccess (options : OpsAccessOptions)
  | basicAuth (options : BasicAuthOptions)
  | bearerAuth (options : BearerAuthOptions)

namespace PathGuard

def protectedPaths : PathGuard → List Bytes
  | opsAccess options => options.protectedPaths
  | basicAuth options => options.protectedPaths
  | bearerAuth options => options.protectedPaths

end PathGuard

variable {guarded : GuardedRequest}

end AsynGyanis.Http
