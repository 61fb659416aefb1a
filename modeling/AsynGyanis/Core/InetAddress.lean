import AsynGyanis.Library.BigEndian

/-!
# Socket addresses

A `sockaddr` holds more than the address: padding the kernel may or may not
clear, a flow label. Two forms leave that out. `canonicalBytes` is a fixed
row of bytes, the equality of addresses; `toString` is a text, and the text
is what is hashed when an address is to be told from another. They make the
same distinctions, which is `toString_inj_iff`: the brackets around an IPv6
address, the percent sign before its scope and the colon before the port
stand nowhere else.

The text of a bare IPv6 address is the C library's (`inet_ntop`). All that
is used of it is that it tells addresses apart and keeps to its alphabet.
-/

namespace AsynGyanis.Core

open Library

/-- `inet_ntop` for IPv6. -/
structure Ipv6Text where
  text : Vector UInt8 16 → List Char
  injective : ∀ {a b}, text a = text b → a = b
  percent_notMem : ∀ a, '%' ∉ text a
  bracket_notMem : ∀ a, ']' ∉ text a

def hexDigitValue (c : Char) : Nat :=
  ((List.range 16).find? fun digit => Nat.digitChar digit == c).getD 0

def hexPair (byte : UInt8) : List Char :=
  [Nat.digitChar (byte.toNat / 16), Nat.digitChar (byte.toNat % 16)]

theorem hexPairs_inj {a b : List UInt8} (hlength : a.length = b.length)
    (h : a.flatMap hexPair = b.flatMap hexPair) : a = b := by
  have hvalue : ∀ digit : Fin 16, hexDigitValue (Nat.digitChar digit) = digit := by
    decide
  have hdigit : ∀ {x y : Nat}, x < 16 → y < 16 → Nat.digitChar x = Nat.digitChar y → x = y := by
    intro x y hx hy heq
    have hx' := hvalue ⟨x, hx⟩
    rw [heq] at hx'
    exact hx'.symm.trans (hvalue ⟨y, hy⟩)
  induction a generalizing b with
  | nil => exact (List.eq_nil_of_length_eq_zero hlength.symm).symm
  | cons byte a ih =>
    cases b with
    | nil => cases hlength
    | cons other b =>
      obtain ⟨hhigh, h⟩ := List.cons.inj h
      obtain ⟨hlow, h⟩ := List.cons.inj h
      have hbyte := byte.toNat_lt
      have hother := other.toNat_lt
      have hhigh := hdigit (by omega) (by omega) hhigh
      have hlow := hdigit (by omega) (by omega) hlow
      have heq : byte = other := UInt8.toNat_inj.mp (by omega)
      rw [heq, ih (by simpa using hlength) h]

/-- The sixteen bytes in hexadecimal. -/
def plainIpv6Text : Ipv6Text where
  text := fun address => address.toList.flatMap hexPair
  injective := fun h => Vector.toList_inj.mp (hexPairs_inj (by simp) h)
  percent_notMem := fun a hmem => by
    obtain ⟨byte, -, hc⟩ := List.mem_flatMap.mp hmem
    simp [hexPair] at hc
  bracket_notMem := fun a hmem => by
    obtain ⟨byte, -, hc⟩ := List.mem_flatMap.mp hmem
    simp [hexPair] at hc

inductive SocketAddress
  | ipv4 (address : Vector UInt8 4) (port : UInt16) (padding : Vector UInt8 8)
  | ipv6 (flowInfo : UInt32) (address : Vector UInt8 16) (port : UInt16) (scopeId : UInt32)
  | other (family : UInt16)
  deriving DecidableEq, Repr

namespace SocketAddress

/-- Zeros behind the bytes up to 24. -/
def padCanonical (bytes : List UInt8) : List UInt8 := bytes ++ List.replicate (24 - bytes.length) 0

/-- Family, address and port as they travel, and the scope in the host's
order. -/
def canonicalBytes : SocketAddress → List UInt8
  | .ipv4 address port _ =>
    padCanonical (4 :: (address.toList ++ toBigEndian 2 port.toNat))
  | .ipv6 _ address port scopeId =>
    padCanonical (6 :: (address.toList ++ (toBigEndian 2 port.toNat ++
      (toBigEndian 4 scopeId.toNat).reverse)))
  | .other _ => padCanonical []

def decimal (value : Nat) : List Char := Nat.toDigits 10 value

/-- `inet_ntop` for IPv4. -/
def dottedDecimal (address : Vector UInt8 4) : List Char :=
  decimal address[0].toNat ++ '.' :: (decimal address[1].toNat ++ '.' ::
    (decimal address[2].toNat ++ '.' :: decimal address[3].toNat))

def zoneSuffix (scopeId : UInt32) : List Char :=
  if scopeId = 0 then [] else '%' :: decimal scopeId.toNat

def toString (ipv6Text : Ipv6Text) : SocketAddress → List Char
  | .ipv4 address port _ =>
    dottedDecimal address ++ ':' :: decimal port.toNat
  | .ipv6 _ address port scopeId =>
    '[' :: (ipv6Text.text address ++ zoneSuffix scopeId) ++ ']' :: ':' :: decimal port.toNat
  | .other _ => ':' :: decimal 0

/-! ## Decimal text -/

theorem decimal_inj {a b : Nat} (h : decimal a = decimal b) : a = b := by
  rw [← Nat.ofDigitChars_ten_toDigits (n := a), ← Nat.ofDigitChars_ten_toDigits (n := b)]
  exact congrArg (Nat.ofDigitChars 10 · 0) h

theorem notMem_decimal {c : Char} (h : c.isDigit = false) (value : Nat) : c ∉ decimal value := by
  intro hmem
  rw [Nat.isDigit_of_mem_toDigits (by decide) (by decide) hmem] at h
  cases h

theorem separated_inj {α : Type} {c : α} {x y rest rest' : List α}
    (hx : c ∉ x) (hy : c ∉ y) (h : x ++ c :: rest = y ++ c :: rest') : x = y ∧ rest = rest' := by
  induction x generalizing y with
  | nil =>
    cases y with
    | nil => exact ⟨rfl, (List.cons.inj h).2⟩
    | cons d y =>
      exact absurd (List.cons.inj h).1 (fun hd => hy (hd ▸ List.mem_cons_self))
  | cons d x ih =>
    cases y with
    | nil =>
      exact absurd (List.cons.inj h).1 (fun hd => hx (hd ▸ List.mem_cons_self))
    | cons e y =>
      obtain ⟨hde, hrest⟩ := List.cons.inj h
      obtain ⟨hxy, htail⟩ := ih (fun hm => hx (List.mem_cons_of_mem _ hm))
        (fun hm => hy (List.mem_cons_of_mem _ hm)) hrest
      exact ⟨by rw [hde, hxy], htail⟩

theorem dots_inj {a b : Nat} {rest rest' : List Char}
    (h : decimal a ++ '.' :: rest = decimal b ++ '.' :: rest') : a = b ∧ rest = rest' := by
  obtain ⟨hnumber, hrest⟩ := separated_inj (notMem_decimal (by decide) a)
    (notMem_decimal (by decide) b) h
  exact ⟨decimal_inj hnumber, hrest⟩

theorem notMem_dottedDecimal {c : Char} (hdigit : c.isDigit = false)
    (hdot : c ≠ '.') (address : Vector UInt8 4) : c ∉ dottedDecimal address := by
  unfold dottedDecimal
  simp only [List.mem_append, List.mem_cons, not_or]
  exact ⟨notMem_decimal hdigit _, hdot, notMem_decimal hdigit _, hdot,
    notMem_decimal hdigit _, hdot, notMem_decimal hdigit _⟩

theorem dottedDecimal_inj {a b : Vector UInt8 4}
    (h : dottedDecimal a = dottedDecimal b) : a = b := by
  obtain ⟨h0, h⟩ := dots_inj h
  obtain ⟨h1, h⟩ := dots_inj h
  obtain ⟨h2, h⟩ := dots_inj h
  have h3 := decimal_inj h
  refine Vector.ext fun index hindex => ?_
  have hcases : index = 0 ∨ index = 1 ∨ index = 2 ∨ index = 3 := by omega
  rcases hcases with rfl | rfl | rfl | rfl
  · exact UInt8.toNat_inj.mp h0
  · exact UInt8.toNat_inj.mp h1
  · exact UInt8.toNat_inj.mp h2
  · exact UInt8.toNat_inj.mp h3

theorem zoned_inj (ipv6Text : Ipv6Text) {a b : Vector UInt8 16} {scope scope' : UInt32}
    (h : ipv6Text.text a ++ zoneSuffix scope =
      ipv6Text.text b ++ zoneSuffix scope') : a = b ∧ scope = scope' := by
  have hclean : ∀ {x y rest : List Char}, '%' ∉ x → x ≠ y ++ '%' :: rest := by
    intro x y rest hx heq
    rw [heq] at hx
    exact hx (List.mem_append_right _ List.mem_cons_self)
  have ha := ipv6Text.percent_notMem a
  have hb := ipv6Text.percent_notMem b
  unfold zoneSuffix at h
  split at h
  · next hscope =>
    split at h
    · next hscope' =>
      rw [List.append_nil, List.append_nil] at h
      exact ⟨ipv6Text.injective h, by rw [hscope, hscope']⟩
    · rw [List.append_nil] at h
      exact absurd h (hclean ha)
  · split at h
    · rw [List.append_nil] at h
      exact absurd h.symm (hclean hb)
    obtain ⟨htext, hzone⟩ := separated_inj ha hb h
    exact ⟨ipv6Text.injective htext, UInt32.toNat_inj.mp (decimal_inj hzone)⟩

/-! ## The same distinctions -/

/-- What both forms keep of an address. -/
inductive Endpoint
  | ipv4 (address : Vector UInt8 4) (port : UInt16)
  | ipv6 (address : Vector UInt8 16) (port : UInt16) (scopeId : UInt32)
  | other
  deriving DecidableEq, Repr

def endpoint : SocketAddress → Endpoint
  | .ipv4 address port _ => .ipv4 address port
  | .ipv6 _ address port scopeId => .ipv6 address port scopeId
  | .other _ => .other

theorem port_inj {a b : UInt16} (h : toBigEndian 2 a.toNat = toBigEndian 2 b.toNat) : a = b := by
  have ha := a.toNat_lt
  have hb := b.toNat_lt
  exact UInt16.toNat_inj.mp (toBigEndian_inj (by omega) (by omega) h)

theorem scope_inj {a b : UInt32} (h : (toBigEndian 4 a.toNat).reverse =
    (toBigEndian 4 b.toNat).reverse) : a = b := by
  have ha := a.toNat_lt
  have hb := b.toNat_lt
  exact UInt32.toNat_inj.mp (toBigEndian_inj (by omega) (by omega) (List.reverse_injective h))

theorem canonicalBytes_inj_iff {a b : SocketAddress} :
    a.canonicalBytes = b.canonicalBytes ↔ a.endpoint = b.endpoint := by
  constructor
  · intro h
    cases a with
    | ipv4 address port padding =>
      cases b with
      | ipv4 address' port' padding' =>
        unfold canonicalBytes padCanonical at h
        simp only [List.cons_append, List.cons.injEq, true_and, List.append_assoc] at h
        obtain ⟨haddress, h⟩ := List.append_inj h (by simp)
        obtain ⟨hport, -⟩ := List.append_inj h (by simp)
        exact congrArg₂ Endpoint.ipv4 (Vector.toList_inj.mp haddress) (port_inj hport)
      | ipv6 => exact absurd (List.cons.inj h).1 (by decide)
      | other => exact absurd (List.cons.inj h).1 (by decide)
    | ipv6 flowInfo address port scopeId =>
      cases b with
      | ipv4 => exact absurd (List.cons.inj h).1 (by decide)
      | ipv6 flowInfo' address' port' scopeId' =>
        unfold canonicalBytes padCanonical at h
        simp only [List.cons_append, List.cons.injEq, true_and, List.append_assoc] at h
        obtain ⟨haddress, h⟩ := List.append_inj h (by simp)
        obtain ⟨hport, h⟩ := List.append_inj h (by simp)
        obtain ⟨hscope, -⟩ := List.append_inj h (by simp)
        unfold endpoint
        rw [Vector.toList_inj.mp haddress, port_inj hport, scope_inj hscope]
      | other => exact absurd (List.cons.inj h).1 (by decide)
    | other family =>
      cases b with
      | ipv4 => exact absurd (List.cons.inj h).1 (by decide)
      | ipv6 => exact absurd (List.cons.inj h).1 (by decide)
      | other => rfl
  · intro h
    cases a <;> cases b <;> cases h <;> rfl

theorem toString_eq_iff_endpoint (ipv6Text : Ipv6Text) {a b : SocketAddress} :
    a.toString ipv6Text = b.toString ipv6Text ↔ a.endpoint = b.endpoint := by
  have hcolon : (':' : Char).isDigit = false := by decide
  have hdotted : ∀ address, ':' ∉ dottedDecimal address := notMem_dottedDecimal hcolon (by decide)
  have hbracket : ∀ address, '[' ∉ dottedDecimal address :=
    notMem_dottedDecimal (by decide) (by decide)
  have hclose : ∀ address scopeId, ']' ∉ ipv6Text.text address ++ zoneSuffix scopeId := by
    intro address scopeId
    unfold zoneSuffix
    rw [List.mem_append, not_or]
    refine ⟨ipv6Text.bracket_notMem address, ?_⟩
    split
    · exact List.not_mem_nil
    · rw [List.mem_cons, not_or]
      exact ⟨by decide, notMem_decimal (by decide) _⟩
  -- the first character tells the families apart
  have hfirst : ∀ {address : Vector UInt8 4} {c : Char} {rest rest' : List Char},
      c ∉ dottedDecimal address → dottedDecimal address ++ rest ≠ c :: rest' := by
    intro address c rest rest' hc heq
    unfold dottedDecimal decimal at heq hc
    rcases hhead : Nat.toDigits 10 address[0].toNat with _ | ⟨d, digits⟩
    · exact Nat.toDigits_ne_nil hhead
    rw [hhead] at heq hc
    have hd := (List.cons.inj heq).1
    exact hc (hd ▸ List.mem_cons_self)
  constructor
  · intro h
    cases a with
    | ipv4 address port padding =>
      cases b with
      | ipv4 address' port' padding' =>
        obtain ⟨haddress, hport⟩ := separated_inj (hdotted address) (hdotted address') h
        exact congrArg₂ Endpoint.ipv4 (dottedDecimal_inj haddress)
          (UInt16.toNat_inj.mp (decimal_inj hport))
      | ipv6 => exact absurd h (hfirst (hbracket address))
      | other => exact absurd h (hfirst (hdotted address))
    | ipv6 flowInfo address port scopeId =>
      cases b with
      | ipv4 address' => exact absurd h.symm (hfirst (hbracket address'))
      | ipv6 flowInfo' address' port' scopeId' =>
        obtain ⟨hzoned, hport⟩ := separated_inj (hclose address scopeId)
          (hclose address' scopeId') (List.cons.inj h).2
        obtain ⟨haddress, hscope⟩ := zoned_inj ipv6Text hzoned
        unfold endpoint
        rw [haddress, hscope, UInt16.toNat_inj.mp (decimal_inj (List.cons.inj hport).2)]
      | other => exact absurd (List.cons.inj h).1 (by decide)
    | other family =>
      cases b with
      | ipv4 address' => exact absurd h.symm (hfirst (hdotted address'))
      | ipv6 => exact absurd (List.cons.inj h).1 (by decide)
      | other => rfl
  · intro h
    cases a <;> cases b <;> cases h <;> rfl

theorem toString_inj_iff (ipv6Text : Ipv6Text) {a b : SocketAddress} :
    a.toString ipv6Text = b.toString ipv6Text ↔ a.canonicalBytes = b.canonicalBytes :=
  (toString_eq_iff_endpoint ipv6Text).trans canonicalBytes_inj_iff.symm

end SocketAddress

end AsynGyanis.Core
