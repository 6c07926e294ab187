import GoL2tp.Context.Types

/-!
# Tunnel socket addresses

`newUDPAddressPair` and `newIPAddressPair` turn the configured local and
peer address strings into the `unix.Sockaddr` pair a tunnel is created with
(cmd/kl2tpd/kl2tpd.go:671-786).

Name resolution (`net.ResolveUDPAddr("udp", s)`) is outside the program:
it is a parameter `resolve` returning an IP byte slice and a port, or an
error. `net.IP.To4` and `net.IP.To16` are modelled as the Go library
defines them: a 4-byte slice is IPv4; a 16-byte slice is IPv4 when it is
an IPv4-mapped address (`::ffff:a.b.c.d`) and IPv6 otherwise; any other
length is neither.

With an empty local address both pair functions return the zero-value
sockaddr of the peer's type (`Sockaddr.zero`, the comment at :714-715):
the same family, and for L2TP/IP a `ConnId` of 0, not `ccid`. A local address that is set is
resolved on its own, and its family is never compared with the peer's.

Results: `addressPair_spec` (what a successful call returns, in both
cases of the local address); `addressPair_counterexample` (a mixed-family
pair, and an empty local address whose `ConnId` is 0).
-/
namespace GoL2tp

/-- `*net.UDPAddr`: the resolved IP bytes and port. -/
structure UDPAddr where
  IP : List UInt8
  Port : Nat
  deriving DecidableEq, Repr

/-- The `unix.Sockaddr` variants the tunnel code builds. Port, address bytes
and connection ID as the Go structures hold them. -/
inductive Sockaddr where
  | inet4 (port : Nat) (addr : List UInt8)
  | inet6 (port : Nat) (addr : List UInt8)
  | l2tpip (addr : List UInt8) (connId : UInt32)
  | l2tpip6 (addr : List UInt8) (connId : UInt32)
  deriving DecidableEq, Repr

/-- `net.IP.To4`. -/
def to4 (ip : List UInt8) : Option (List UInt8) :=
  if ip.length = 4 then some ip
  else if ip.length = 16 ∧ ip.take 10 = List.replicate 10 0 ∧ ip.get? 10 = some 255 ∧
      ip.get? 11 = some 255 then some (ip.drop 12)
  else none

/-- `net.IP.To16`. -/
def to16 (ip : List UInt8) : Option (List UInt8) :=
  if ip.length = 4 then some (List.replicate 10 0 ++ [255, 255] ++ ip)
  else if ip.length = 16 then some ip
  else none

/-- `strconv.IsPrint` on Latin-1, exactly its fast path; above U+00FF the
rune is taken as printable. -/
def isPrint (r : Nat) : Bool :=
  if r ≤ 0xFF then (0x20 ≤ r && r ≤ 0x7E) || (0xA1 ≤ r && r ≠ 0xAD) else true

/-- The last `w` lower-case hex digits of `n`, as `strconv` writes them. -/
def lowerHex (w n : Nat) : String :=
  String.mk ((List.range w).reverse.map fun i => Nat.digitChar (n / 16 ^ i % 16))

/-- `strconv`'s `appendEscapedRune` inside the quote character `q` (a code
point): the quote and the backslash escaped, a printable rune as it is,
the C escapes, then `\x`, `\u` or `\U` with hex digits. -/
def escapedRune (q : Nat) (c : Char) : String :=
  if c.toNat = q ∨ c = '\\' then "\\" ++ c.toString
  else if isPrint c.toNat then c.toString
  else match c.toNat with
    | 7 => "\\a"
    | 8 => "\\b"
    | 12 => "\\f"
    | 10 => "\\n"
    | 13 => "\\r"
    | 9 => "\\t"
    | 11 => "\\v"
    | r =>
      if r < 0x20 ∨ r = 0x7F then "\\x" ++ lowerHex 2 r
      else if r < 0x10000 then "\\u" ++ lowerHex 4 r
      else "\\U" ++ lowerHex 8 r

/-- `fmt`'s `%q` of a string: `strconv.Quote`. -/
def quote (s : String) : String := "\"" ++ String.join (s.toList.map (escapedRune 0x22)) ++ "\""

/-- mirrors cmd/kl2tpd/kl2tpd.go:671-699 -/
def newUDPTunnelAddress (resolve : String → Except String UDPAddr) (address : String) :
    Except String Sockaddr :=
  match resolve address with
  | .error e => .error s!"resolve {address}: {e}"
  | .ok u =>
    match to4 u.IP with
    | some b => .ok (.inet4 u.Port b)
    | none =>
      match to16 u.IP with
      | some b => .ok (.inet6 u.Port b)
      | none => .error "unhandled address family"

/-- mirrors cmd/kl2tpd/kl2tpd.go:701-728 -/
def newUDPAddressPair (resolve : String → Except String UDPAddr) (locl remote : String) :
    Except String (Sockaddr × Sockaddr) :=
  match newUDPTunnelAddress resolve remote with
  | .error e => .error s!"remote address {quote remote}: {e}"
  | .ok sap =>
    if locl ≠ "" then
      match newUDPTunnelAddress resolve locl with
      | .error e => .error s!"local address {quote locl}: {e}"
      | .ok sal => .ok (sal, sap)
    else
      match sap with
      | .inet4 _ _ => .ok (.inet4 0 (List.replicate 4 0), sap)
      | .inet6 _ _ => .ok (.inet6 0 (List.replicate 16 0), sap)
      | _ => .error "unhanded address family"

/-- mirrors cmd/kl2tpd/kl2tpd.go:730-758 -/
def newIPTunnelAddress (resolve : String → Except String UDPAddr) (address : String)
    (ccid : ControlConnID) : Except String Sockaddr :=
  match resolve address with
  | .error e => .error s!"resolve {address}: {e}"
  | .ok u =>
    match to4 u.IP with
    | some b => .ok (.l2tpip b ccid)
    | none =>
      match to16 u.IP with
      | some b => .ok (.l2tpip6 b ccid)
      | none => .error "unhandled address family"

/-- mirrors cmd/kl2tpd/kl2tpd.go:760-786 -/
def newIPAddressPair (resolve : String → Except String UDPAddr) (locl : String)
    (ccid : ControlConnID) (remote : String) (pccid : ControlConnID) :
    Except String (Sockaddr × Sockaddr) :=
  match newIPTunnelAddress resolve remote pccid with
  | .error e => .error s!"remote address {quote remote}: {e}"
  | .ok sap =>
    if locl ≠ "" then
      match newIPTunnelAddress resolve locl ccid with
      | .error e => .error s!"local address {quote locl}: {e}"
      | .ok sal => .ok (sal, sap)
    else
      match sap with
      | .l2tpip _ _ => .ok (.l2tpip (List.replicate 4 0) 0, sap)
      | .l2tpip6 _ _ => .ok (.l2tpip6 (List.replicate 16 0) 0, sap)
      | _ => .error "unhanded address family"

/-- The address family of a sockaddr: IPv6 or IPv4. -/
def Sockaddr.isIPv6 : Sockaddr → Bool
  | .inet6 .. | .l2tpip6 .. => true
  | .inet4 .. | .l2tpip .. => false

/-- The `ConnId` of an L2TP/IP sockaddr. -/
def Sockaddr.connId? : Sockaddr → Option UInt32
  | .l2tpip _ c | .l2tpip6 _ c => some c
  | .inet4 .. | .inet6 .. => none

/-- The zero value of a sockaddr's type (`&unix.SockaddrInet4{}` and its
siblings): port, address bytes and `ConnId` all zero. -/
def Sockaddr.zero : Sockaddr → Sockaddr
  | .inet4 .. => .inet4 0 (List.replicate 4 0)
  | .inet6 .. => .inet6 0 (List.replicate 16 0)
  | .l2tpip .. => .l2tpip (List.replicate 4 0) 0
  | .l2tpip6 .. => .l2tpip6 (List.replicate 16 0) 0

@[simp] theorem Sockaddr.zero_isIPv6 (sa : Sockaddr) : sa.zero.isIPv6 = sa.isIPv6 := by
  cases sa <;> rfl

theorem Sockaddr.zero_connId {sa : Sockaddr} {c : UInt32} (h : sa.connId? = some c) :
    sa.zero.connId? = some 0 := by
  cases sa <;> first | rfl | cases h

/-! ## What a successful call returns -/

section Pairs

variable {resolve : String → Except String UDPAddr}

theorem newUDPAddressPair_ok {locl remote : String} {sal sap : Sockaddr}
    (h : newUDPAddressPair resolve locl remote = .ok (sal, sap)) :
    newUDPTunnelAddress resolve remote = .ok sap ∧
    (locl = "" → sal = sap.zero) ∧
    (locl ≠ "" → newUDPTunnelAddress resolve locl = .ok sal) := by
  unfold newUDPAddressPair at h
  split at h
  · cases h
  rename_i sap' hr
  split_ifs at h with hl
  · split at h
    · cases h
    · cases h; exact ⟨hr, fun e => absurd e hl, fun _ => by assumption⟩
  · refine ⟨?_, fun _ => ?_, fun e => absurd (not_not.1 hl) e⟩ <;> split at h <;> cases h <;>
      first | exact hr | rfl

theorem newIPTunnelAddress_connId {address : String} {ccid : ControlConnID} {sa : Sockaddr}
    (h : newIPTunnelAddress resolve address ccid = .ok sa) : sa.connId? = some ccid := by
  unfold newIPTunnelAddress at h
  split at h
  · cases h
  split at h
  · cases h; rfl
  split at h
  · cases h; rfl
  · cases h

theorem newIPAddressPair_ok {locl remote : String} {ccid pccid : ControlConnID} {sal sap : Sockaddr}
    (h : newIPAddressPair resolve locl ccid remote pccid = .ok (sal, sap)) :
    newIPTunnelAddress resolve remote pccid = .ok sap ∧
    (locl = "" → sal = sap.zero) ∧
    (locl ≠ "" → newIPTunnelAddress resolve locl ccid = .ok sal) := by
  unfold newIPAddressPair at h
  split at h
  · cases h
  rename_i sap' hr
  split_ifs at h with hl
  · split at h
    · cases h
    · cases h; exact ⟨hr, fun e => absurd e hl, fun _ => by assumption⟩
  · refine ⟨?_, fun _ => ?_, fun e => absurd (not_not.1 hl) e⟩ <;> split at h <;> cases h <;>
      first | exact hr | rfl

end Pairs

/-- **Tunnel address pairs.** For every resolver and all address strings and
connection IDs, when `newUDPAddressPair` or `newIPAddressPair` succeeds,
the peer sockaddr is the one the remote address resolves to (for L2TP/IP
with `ConnId` `pccid`). With an empty local address the local sockaddr is
the zero value of the peer's type: the peer's family, and for L2TP/IP
`ConnId` 0; with a local address set it is the one that address resolves
to (for L2TP/IP with `ConnId` `ccid`), whatever the peer's family. -/
theorem addressPair_spec (resolve : String → Except String UDPAddr) :
    (∀ locl remote sal sap, newUDPAddressPair resolve locl remote = .ok (sal, sap) →
      newUDPTunnelAddress resolve remote = .ok sap ∧
      (locl = "" → sal = sap.zero ∧ sal.isIPv6 = sap.isIPv6) ∧
      (locl ≠ "" → newUDPTunnelAddress resolve locl = .ok sal)) ∧
    (∀ locl ccid remote pccid sal sap, newIPAddressPair resolve locl ccid remote pccid = .ok (sal, sap) →
      newIPTunnelAddress resolve remote pccid = .ok sap ∧ sap.connId? = some pccid ∧
      (locl = "" → sal = sap.zero ∧ sal.isIPv6 = sap.isIPv6 ∧ sal.connId? = some 0) ∧
      (locl ≠ "" → sal.connId? = some ccid ∧ newIPTunnelAddress resolve locl ccid = .ok sal)) := by
  refine ⟨fun _ _ _ _ h => ?_, fun _ _ _ _ _ _ h => ?_⟩
  · obtain ⟨hr, he, hs⟩ := newUDPAddressPair_ok h
    exact ⟨hr, fun e => ⟨he e, by rw [he e, Sockaddr.zero_isIPv6]⟩, hs⟩
  · obtain ⟨hr, he, hs⟩ := newIPAddressPair_ok h
    have hp := newIPTunnelAddress_connId hr
    exact ⟨hr, hp, fun e => ⟨he e, by rw [he e, Sockaddr.zero_isIPv6], he e ▸ Sockaddr.zero_connId hp⟩,
      fun e => ⟨newIPTunnelAddress_connId (hs e), hs e⟩⟩

/-- `net.ResolveUDPAddr` on two address literals, one IPv4 and one IPv6. -/
def literalResolve (s : String) : Except String UDPAddr :=
  if s = "192.0.2.1:1701" then .ok ⟨[192, 0, 2, 1], 1701⟩
  else if s = "[2001:db8::1]:1701" then .ok ⟨[0x20, 0x01, 0x0d, 0xb8] ++ List.replicate 11 0 ++ [1], 1701⟩
  else .error s!"lookup {s}: no such host"

theorem addressPair_spec_literal :
    newUDPTunnelAddress literalResolve "192.0.2.1:1701" = .ok (.inet4 1701 [192, 0, 2, 1]) ∧
    Sockaddr.inet4 0 [0, 0, 0, 0] = (Sockaddr.inet4 1701 [192, 0, 2, 1]).zero ∧
    newIPTunnelAddress literalResolve "192.0.2.1:1701" 7 = .ok (.l2tpip [192, 0, 2, 1] 7) ∧
    Sockaddr.l2tpip [0, 0, 0, 0] 0 = (Sockaddr.l2tpip [192, 0, 2, 1] 7).zero :=
  have hu := (addressPair_spec literalResolve).1 "" "192.0.2.1:1701" (.inet4 0 [0, 0, 0, 0])
    (.inet4 1701 [192, 0, 2, 1]) rfl
  have hi := (addressPair_spec literalResolve).2 "" 5 "192.0.2.1:1701" 7 (.l2tpip [0, 0, 0, 0] 0)
    (.l2tpip [192, 0, 2, 1] 7) rfl
  ⟨hu.1, (hu.2.1 rfl).1, hi.1, (hi.2.2.1 rfl).1⟩

/-- An IPv4 local address with an IPv6 peer gives an IPv4 and an IPv6
sockaddr; an empty local address for L2TP/IP gives `ConnId` 0, not `ccid`
(5). -/
theorem addressPair_counterexample :
    newUDPAddressPair literalResolve "192.0.2.1:1701" "[2001:db8::1]:1701" =
      .ok (.inet4 1701 [192, 0, 2, 1], .inet6 1701 ([0x20, 0x01, 0x0d, 0xb8] ++ List.replicate 11 0 ++ [1])) ∧
    newIPAddressPair literalResolve "" 5 "192.0.2.1:1701" 7 =
      .ok (.l2tpip [0, 0, 0, 0] 0, .l2tpip [192, 0, 2, 1] 7) :=
  ⟨rfl, rfl⟩

end GoL2tp
