import AsynGyanis.Core.InetAddress
import AsynGyanis.Http.HeaderRules

/-!
# The PROXY protocol, reading side

A load balancer puts one header in front of the connection it forwards: a
text line in version 1, a binary block behind a twelve byte signature in
version 2. `parseProxyHeader` reads the one header at the very beginning and
says how many bytes it took.

Addresses become text on the way: version 2 prints the octets and hands the
text to the constructor that version 1 uses for its fields. That constructor
ends in `inet_pton`, which is not part of this code; it is the parameter
`literal`, and the port is put beside what it reads.
-/

namespace AsynGyanis.Net

open Library Core

abbrev Bytes := List UInt8

/-! ## Addresses -/

inductive IpAddress
  | ipv4 (address : Vector UInt8 4)
  | ipv6 (address : Vector UInt8 16) (scopeId : UInt32)
  deriving DecidableEq, Repr

/-- `family() == AF_INET6`. -/
def IpAddress.isIpv6 : IpAddress → Bool
  | .ipv4 _ => false
  | .ipv6 _ _ => true

structure InetAddress where
  ip : IpAddress
  port : UInt16
  deriving DecidableEq, Repr

/-- The default constructor: `0.0.0.0`, port 0. -/
def InetAddress.any : InetAddress := ⟨.ipv4 (Vector.replicate 4 0), 0⟩

def asciiBytes (text : List Char) : Bytes := text.map fun character => UInt8.ofNat character.toNat

/-- `%u.%u.%u.%u` -/
def dottedText (address : Vector UInt8 4) : Bytes :=
  asciiBytes (SocketAddress.dottedDecimal address)

/-- `%x:%x:%x:%x:%x:%x:%x:%x`, two octets a group. -/
def groupedText (address : Vector UInt8 16) : Bytes :=
  asciiBytes (List.intercalate [':'] ((List.range 8).map fun group =>
    Nat.toDigits 16 ((address.toList.getD (2 * group) 0).toNat <<< 8 |||
      (address.toList.getD (2 * group + 1) 0).toNat)))

/-! ## What a header yields -/

structure ProxyTlv where
  type : UInt8
  value : Bytes
  deriving DecidableEq, Repr

structure ProxyEndpoint where
  source : InetAddress
  destination : InetAddress
  hasAddresses : Bool
  tlvs : List ProxyTlv
  deriving DecidableEq, Repr

/-- A proxy stands in front, and that is all that is known. -/
def ProxyEndpoint.anonymous : ProxyEndpoint := ⟨.any, .any, false, []⟩

def kMaximumProxyHeaderV1Bytes : Nat := 108

def kMaximumProxyHeaderV2Bytes : Nat := 1024

def kV2Signature : Bytes := [0x0D, 0x0A, 0x0D, 0x0A, 0x00, 0x0D, 0x0A, 0x51, 0x55, 0x49, 0x54, 0x0A]

/-- `PROXY` and a space. -/
def kV1Prefix : Bytes := [0x50, 0x52, 0x4F, 0x58, 0x59, 0x20]

def kV2VersionCommandOffset : Nat := 12

def kV2FamilyOffset : Nat := 13

def kV2LengthOffset : Nat := 14

def kV2FixedPartBytes : Nat := 16

def kV2FamilyUnspec : Nat := 0

def kV2FamilyIpv4 : Nat := 1

def kV2FamilyIpv6 : Nat := 2

def kV2FamilyUnix : Nat := 3

/-- `TCP4` -/
def kTcp4 : Bytes := [0x54, 0x43, 0x50, 0x34]

/-- `TCP6` -/
def kTcp6 : Bytes := [0x54, 0x43, 0x50, 0x36]

/-- `UNKNOWN` -/
def kUnknown : Bytes := [0x55, 0x4E, 0x4B, 0x4E, 0x4F, 0x57, 0x4E]

def kSpace : UInt8 := 0x20

/-! ## Fields of a block -/

def byteAt (bytes : Bytes) (index : Nat) : Nat := (bytes.getD index 0).toNat

def uint16At (bytes : Bytes) (index : Nat) : Nat :=
  byteAt bytes index <<< 8 ||| byteAt bytes (index + 1)

def octetsAt (bytes : Bytes) (offset count : Nat) : Vector UInt8 count :=
  Vector.ofFn fun index => bytes.getD (offset + index) 0

def parsePortText (text : Bytes) : Option UInt16 :=
  if text.isEmpty || decide (5 < text.length) then none
  else if !text.all Http.isDigit || decide (65535 < Http.decimalValue text) then
    none
  else some (UInt16.ofNat (Http.decimalValue text))

/-- The fields between runs of spaces; `current` is the field the cursor
stands in, empty between two fields. -/
def splitV1FieldsFrom (current : Bytes) : Bytes → List Bytes
  | [] => if current.isEmpty then [] else [current]
  | character :: rest =>
    if character = kSpace then
      if current.isEmpty then splitV1FieldsFrom [] rest
      else current :: splitV1FieldsFrom [] rest
    else splitV1FieldsFrom (current ++ [character]) rest

def splitV1Fields (line : Bytes) : List Bytes := splitV1FieldsFrom [] line

section Parsing

-- `InetAddress::parseStrictLiteral`, without the port
variable (literal : Bytes → Option IpAddress)

def makeAddress (text : Bytes) (port : UInt16) : Option InetAddress :=
  (literal text).map fun ip => ⟨ip, port⟩

def parseV2AddressBlock (block : Bytes) (family : Nat) : Option ProxyEndpoint :=
  if family = kV2FamilyIpv4 then
    if block.length < 12 then none
    else
      match makeAddress literal (dottedText (octetsAt block 0 4)) (UInt16.ofNat (uint16At block 8)),
        makeAddress literal (dottedText (octetsAt block 4 4))
          (UInt16.ofNat (uint16At block 10)) with
      | some source, some destination => some ⟨source, destination, true, []⟩
      | _, _ => none
  else if family = kV2FamilyIpv6 then
    if block.length < 36 then none
    else
      match makeAddress literal (groupedText (octetsAt block 0 16))
          (UInt16.ofNat (uint16At block 32)),
        makeAddress literal (groupedText (octetsAt block 16 16))
          (UInt16.ofNat (uint16At block 34)) with
      | some source, some destination => some ⟨source, destination, true, []⟩
      | _, _ => none
  else if family = kV2FamilyUnspec ∨ family = kV2FamilyUnix then
    some .anonymous
  else none

/-- The loop of `parseV2Tlvs`, on what is left of the block. -/
def parseV2TlvsFrom : Bytes → Option (List ProxyTlv)
  | [] => some []
  | type :: high :: low :: rest =>
    let valueBytes := high.toNat <<< 8 ||| low.toNat
    if rest.length < valueBytes then none
    else (parseV2TlvsFrom (rest.drop valueBytes)).map fun tlvs =>
      ⟨type, rest.take valueBytes⟩ :: tlvs
  | [_] | [_, _] => none
termination_by bytes => bytes.length
decreasing_by simp; omega

def parseV2Tlvs (block : Bytes) (addressBytes : Nat) : Option (List ProxyTlv) :=
  parseV2TlvsFrom (block.drop addressBytes)

/-- Where the TLVs of a family begin. The two families whose layout is not
read have none. -/
def tlvStart (block : Bytes) (family : Nat) : Nat :=
  if family = kV2FamilyIpv4 then 12
  else if family = kV2FamilyIpv6 then 36
  else block.length

def parseV1Line (line : Bytes) : Option ProxyEndpoint :=
  match splitV1Fields line with
  | [single] => if single = kUnknown then some .anonymous else none
  | [protocol, sourceText, destinationText, sourcePortText, destinationPortText] => do
    let sourcePort ← parsePortText sourcePortText
    let destinationPort ← parsePortText destinationPortText
    let source ← makeAddress literal sourceText sourcePort
    let destination ← makeAddress literal destinationText destinationPort
    let sourceIsIpv6 := source.ip.isIpv6
    let destinationIsIpv6 := destination.ip.isIpv6
    if protocol = kTcp4 ∧ (sourceIsIpv6 || destinationIsIpv6) then none
    else if protocol = kTcp6 ∧ (!sourceIsIpv6 || !destinationIsIpv6) then none
    else if protocol ≠ kTcp4 ∧ protocol ≠ kTcp6 then none
    else some ⟨source, destination, true, []⟩
  | _ => none

/-- `find("\r\n")` -/
def findLineEnd : Bytes → Option Nat
  | [] => none
  | character :: rest =>
    if character = 0x0D ∧ rest.head? = some 0x0A then some 0
    else (findLineEnd rest).map (· + 1)

/-- `parseProxyHeader`, a header that carries the signature. -/
def parseV2Header (header : Bytes) : Option ProxyEndpoint × Nat :=
  let version := byteAt header kV2VersionCommandOffset >>> 4
  let command := byteAt header kV2VersionCommandOffset &&& 0x0F
  let family := byteAt header kV2FamilyOffset >>> 4
  let declared := uint16At header kV2LengthOffset
  if version ≠ 2 ∨ header.length < declared + kV2FixedPartBytes ∨
      kMaximumProxyHeaderV2Bytes < declared + kV2FixedPartBytes then
    (none, 0)
  else
    let block := (header.drop kV2FixedPartBytes).take declared
    match parseV2AddressBlock literal block family with
    | none => (none, 0)
    | some endpoint =>
      match parseV2Tlvs block (tlvStart block family) with
      | none => (none, 0)
      | some tlvs =>
        -- LOCAL, and every command nobody has assigned
        let hasAddresses :=
          if command ≠ 1 then false else endpoint.hasAddresses
        (some { endpoint with tlvs, hasAddresses }, kV2FixedPartBytes + declared)

/-- `parseProxyHeader`, everything else. -/
def parseV1Header (header : Bytes) : Option ProxyEndpoint × Nat :=
  match findLineEnd header with
  | none => (none, 0)
  | some lineEnd =>
    if header.take kV1Prefix.length ≠ kV1Prefix then (none, 0)
    else if kMaximumProxyHeaderV1Bytes < lineEnd + 2 then (none, 0)
    else
      match parseV1Line literal ((header.drop kV1Prefix.length).take
        (lineEnd - kV1Prefix.length)) with
      | none => (none, 0)
      | some endpoint => (some endpoint, lineEnd + 2)

def parseProxyHeader (header : Bytes) : Option ProxyEndpoint × Nat :=
  if kV2FixedPartBytes ≤ header.length ∧ header.take kV2Signature.length = kV2Signature then
    parseV2Header literal header
  else parseV1Header literal header

end Parsing

end AsynGyanis.Net
