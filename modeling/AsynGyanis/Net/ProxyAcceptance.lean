import AsynGyanis.Net.ProxyProtocol

/-!
# Which PROXY headers are accepted

The headers below are written the way the protocol's specification writes
them: a version 1 line from its five fields, a version 2 header from its two
option bytes and its block, the block of an address family from two
addresses, two ports and a sequence of TLVs. Reading is then compared with
writing. The three facts that carry the comparison: a line of fields splits
into these fields, the first line end is the one that was written, and a
block is a sequence of TLVs exactly when the loop over it ends well, in
which case it yields that sequence.

Two forms are settled by design differently from the specification. A
version 1 line `PROXY UNKNOWN` is accepted only bare, and a version 2
command nobody has assigned counts as LOCAL. A UNIX block is not looked at.
-/

namespace AsynGyanis.Net

open Library Core Http

/-! ## Numbers as text -/

/-- A port as the specification writes it. -/
def portText (port : UInt16) : Bytes := asciiBytes (SocketAddress.decimal port.toNat)

variable {current tail block : Bytes}

theorem findLineEnd_eq_none {line : Bytes} (h : 0x0D ∉ line) : findLineEnd line = none := by
  induction line with
  | nil => rfl
  | cons character line ih =>
    rw [List.mem_cons, not_or] at h
    rw [findLineEnd, if_neg (fun heq => h.1 heq.1.symm), ih h.2]
    rfl

variable (literal : Bytes → Option IpAddress)

/-- The two addresses of an internet family, as a block writes them. -/
inductive V2Addresses
  | ipv4 (source destination : Vector UInt8 4) (sourcePort destinationPort : UInt16)
  | ipv6 (source destination : Vector UInt8 16) (sourcePort destinationPort : UInt16)
  deriving DecidableEq, Repr

namespace V2Addresses

def family : V2Addresses → Nat
  | .ipv4 .. => kV2FamilyIpv4
  | .ipv6 .. => kV2FamilyIpv6

def bytes : V2Addresses → Bytes
  | .ipv4 source destination sourcePort destinationPort =>
    source.toList ++ (destination.toList ++
      (toBigEndian 2 sourcePort.toNat ++ toBigEndian 2 destinationPort.toNat))
  | .ipv6 source destination sourcePort destinationPort =>
    source.toList ++ (destination.toList ++
      (toBigEndian 2 sourcePort.toNat ++ toBigEndian 2 destinationPort.toNat))

def source : V2Addresses → InetAddress
  | .ipv4 source _ sourcePort _ => ⟨.ipv4 source, sourcePort⟩
  | .ipv6 source _ sourcePort _ => ⟨.ipv6 source 0, sourcePort⟩

def destination : V2Addresses → InetAddress
  | .ipv4 _ destination _ destinationPort =>
    ⟨.ipv4 destination, destinationPort⟩
  | .ipv6 _ destination _ destinationPort =>
    ⟨.ipv6 destination 0, destinationPort⟩

/-- The text of these addresses is read back as these addresses. -/
def ReadExactly (literal : Bytes → Option IpAddress) : V2Addresses → Prop
  | .ipv4 source destination _ _ =>
    literal (dottedText source) = some (.ipv4 source) ∧
      literal (dottedText destination) = some (.ipv4 destination)
  | .ipv6 source destination _ _ =>
    literal (groupedText source) = some (.ipv6 source 0) ∧
      literal (groupedText destination) = some (.ipv6 destination 0)

end V2Addresses

/-- Octets of the addresses and ports of an internet family. -/
def addressBytes (family : Nat) : Nat :=
  if family = kV2FamilyIpv4 then 12 else 36

/-- What the text of an address is made of. -/
def isInetCharacter (character : UInt8) : Bool :=
  isHexadecimalCharacter character || character == 0x3A || character == 0x2E

/-- A field of a line: it has no room for a space or a line end. -/
structure IsField (text : Bytes) : Prop where
  nonempty : text ≠ []
  space_notMem : kSpace ∉ text
  return_notMem : 0x0D ∉ text

theorem isField_of_all {text : Bytes} {permitted : UInt8 → Bool}
    (hspace : permitted kSpace = false) (hreturn : permitted 0x0D = false)
    (hne : text ≠ []) (h : text.all permitted) : IsField text := by
  rw [List.all_eq_true] at h
  refine ⟨hne, fun hmem => ?_, fun hmem => ?_⟩
  · rw [h _ hmem] at hspace
    cases hspace
  · rw [h _ hmem] at hreturn
    cases hreturn

/-- The five fields of a version 1 line, and what its two addresses are. -/
structure V1Line where
  isIpv6 : Bool
  sourceText : Bytes
  destinationText : Bytes
  source : IpAddress
  destination : IpAddress
  sourcePort : UInt16
  destinationPort : UInt16

namespace V1Line

def protocol (line : V1Line) : Bytes := if line.isIpv6 then kTcp6 else kTcp4

/-- Between the prefix and the line end. -/
def text (line : V1Line) : Bytes :=
  line.protocol ++ kSpace :: (line.sourceText ++ kSpace ::
    (line.destinationText ++ kSpace :: (portText line.sourcePort ++
      kSpace :: portText line.destinationPort)))

def bytes (line : V1Line) : Bytes := kV1Prefix ++ (line.text ++ [0x0D, 0x0A])

/-- Both texts are texts of addresses of the declared family. -/
structure ReadExactly (literal : Bytes → Option IpAddress) (line : V1Line) :
    Prop where
  sourceText_ne_nil : line.sourceText ≠ []
  sourceText_inet : line.sourceText.all isInetCharacter = true
  destinationText_ne_nil : line.destinationText ≠ []
  destinationText_inet : line.destinationText.all isInetCharacter = true
  source_read : literal line.sourceText = some line.source
  destination_read : literal line.destinationText = some line.destination
  source_family : line.source.isIpv6 = line.isIpv6
  destination_family : line.destination.isIpv6 = line.isIpv6

variable {literal : Bytes → Option IpAddress} {line : V1Line}

theorem ReadExactly.fields (h : line.ReadExactly literal) :
    IsField line.sourceText ∧ IsField line.destinationText :=
  ⟨isField_of_all (by decide) (by decide) h.sourceText_ne_nil h.sourceText_inet,
    isField_of_all (by decide) (by decide) h.destinationText_ne_nil h.destinationText_inet⟩

end V1Line

end AsynGyanis.Net
