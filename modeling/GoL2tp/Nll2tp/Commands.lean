import GoL2tp.Core.GoMap

/-!
# The nll2tp tunnel commands

`CreateManagedTunnel`, `CreateStaticTunnel` and `DeleteTunnel`
(internal/nll2tp/nll2tp.go:142-263) check their arguments, build the
genetlink attributes of one request and hand it to `execute`; `createTunnel`
(:279-292) wraps the attributes in a `TUNNEL_CREATE` request. The model
stops at that hand-over: a command returns an error and submits nothing,
submits one request, or panics (`Outcome`). What `execute` does with the
request is the connection model (`Nll2tp.Conn`, `Nll2tp.Close`).

`netlink.MarshalAttributes` is taken to succeed: every attribute that
reaches it carries at most 16 bytes. A payload is kept as the value
`nlenc` encodes, not as its native-endian bytes. `CreateSession` and
`DeleteSession` submit nothing and are not modelled.

Results: `tunnelCreateAttr_ok` (the attributes are built exactly for a
config with non-zero IDs, version 2 or 3, UDP or IP encapsulation and, for
L2TPv2, 16-bit IDs over UDP); `createStaticTunnel_submit` (a request is
submitted exactly for such a config, the ports UDP needs, and two IPv4 or two
IPv6 addresses, and it is one `TUNNEL_CREATE` carrying them);
`createStaticTunnel_panic_iff` (the `unexpected address length` panic is
reached exactly when the addresses pass every check but are not 4 or 16
bytes long); `createStaticTunnel_panics`; `createManagedTunnel_submit`.
-/
namespace GoL2tp.Nll2tp

/-- `L2tpProtocolVersion` (nll2tp.go:16). -/
abbrev L2tpProtocolVersion := UInt32

/-- `L2tpTunnelID` (nll2tp.go:21). -/
abbrev L2tpTunnelID := UInt32

def ProtocolVersion2 : L2tpProtocolVersion := 2
def ProtocolVersion3 : L2tpProtocolVersion := 3

/-- Modelled from the spec: `L2tpEncapType`, `L2tpDebugFlags` and the
encapsulation constants are declared outside src/; they are the kernel's
16-bit `L2TP_ENCAPTYPE_UDP`/`L2TP_ENCAPTYPE_IP` and 32-bit debug mask. -/
abbrev L2tpEncapType := UInt16
abbrev L2tpDebugFlags := UInt32
def EncaptypeUdp : L2tpEncapType := 0
def EncaptypeIp : L2tpEncapType := 1

@[simp] theorem ProtocolVersion2_toNat : ProtocolVersion2.toNat = 2 := rfl
@[simp] theorem ProtocolVersion3_toNat : ProtocolVersion3.toNat = 3 := rfl
@[simp] theorem EncaptypeUdp_toNat : EncaptypeUdp.toNat = 0 := rfl
@[simp] theorem EncaptypeIp_toNat : EncaptypeIp.toNat = 1 := rfl

/-- mirrors internal/nll2tp/nll2tp.go:37-49 -/
structure TunnelConfig where
  Tid : L2tpTunnelID
  Ptid : L2tpTunnelID
  Version : L2tpProtocolVersion
  Encap : L2tpEncapType
  DebugFlags : L2tpDebugFlags
  deriving DecidableEq, Repr

/-- Modelled from the spec: the genetlink commands and attribute types are
declared outside src/ (the kernel's `L2TP_CMD_*` and `L2TP_ATTR_*`); only
which one a request carries matters here. -/
inductive Cmd where
  | CmdTunnelCreate
  | CmdTunnelDelete
  deriving DecidableEq, Repr

inductive AttrType where
  | AttrConnId | AttrPeerConnId | AttrProtoVersion | AttrEncapType | AttrDebug | AttrFd
  | AttrIpSaddr | AttrIpDaddr | AttrIp6Saddr | AttrIp6Daddr | AttrUdpSport | AttrUdpDport
  deriving DecidableEq, Repr

/-- A payload: what `nlenc.Uint8Bytes`, `Uint16Bytes` or `Uint32Bytes`
encodes, or a byte slice. -/
inductive AttrData where
  | u8 (v : UInt8)
  | u16 (v : UInt16)
  | u32 (v : UInt32)
  | bytes (b : List UInt8)
  deriving DecidableEq, Repr

/-- `netlink.Attribute`; `attrType` is its `Type`. -/
structure Attribute where
  attrType : AttrType
  Data : AttrData
  deriving DecidableEq, Repr

/-- A genetlink request: the header's command and the attributes marshalled
into its data. -/
structure Request where
  Command : Cmd
  attrs : List Attribute
  deriving DecidableEq, Repr

/-- How a command ends before `execute` answers: an error with no request,
one request handed to `execute`, or a panic. -/
inductive Outcome where
  | error (msg : String)
  | submit (req : Request)
  | panic (msg : String)
  deriving DecidableEq, Repr

/-! ## Building the tunnel attributes -/

/-- The attributes of a checked config. mirrors internal/nll2tp/nll2tp.go:341-362 -/
def tunnelAttrs (config : TunnelConfig) : List Attribute :=
  [⟨.AttrConnId, .u32 config.Tid⟩, ⟨.AttrPeerConnId, .u32 config.Ptid⟩,
    ⟨.AttrProtoVersion, .u8 config.Version.toUInt8⟩, ⟨.AttrEncapType, .u16 config.Encap⟩,
    ⟨.AttrDebug, .u32 config.DebugFlags⟩]

/-- mirrors internal/nll2tp/nll2tp.go:309-363 -/
def tunnelCreateAttr : Option TunnelConfig → Except String (List Attribute)
  | none => .error "invalid nil tunnel config"
  | some config =>
    if config.Tid = 0 then .error "tunnel config must have a non-zero tunnel ID"
    else if config.Ptid = 0 then .error "tunnel config must have a non-zero peer tunnel ID"
    else if config.Version < ProtocolVersion2 ∨ config.Version > ProtocolVersion3 then
      .error ("invalid tunnel protocol version " ++ toString config.Version)
    else if config.Encap ≠ EncaptypeUdp ∧ config.Encap ≠ EncaptypeIp then
      .error "invalid tunnel encap (expect IP or UDP)"
    else if config.Version = ProtocolVersion2 then
      if config.Tid > 65535 then .error "L2TPv2 tunnel ID can\x27t exceed 16-bit limit"
      else if config.Ptid > 65535 then .error "L2TPv2 peer tunnel ID can\x27t exceed 16-bit limit"
      else if config.Encap ≠ EncaptypeUdp then .error "L2TPv2 only supports UDP encapsuation"
      else .ok (tunnelAttrs config)
    else .ok (tunnelAttrs config)

/-- The configs `tunnelCreateAttr` accepts. -/
structure ValidConfig (config : TunnelConfig) : Prop where
  tid : config.Tid ≠ 0
  ptid : config.Ptid ≠ 0
  version : config.Version = ProtocolVersion2 ∨ config.Version = ProtocolVersion3
  encap : config.Encap = EncaptypeUdp ∨ config.Encap = EncaptypeIp
  v2 : config.Version = ProtocolVersion2 →
    config.Tid ≤ 65535 ∧ config.Ptid ≤ 65535 ∧ config.Encap = EncaptypeUdp

theorem validConfig_iff (config : TunnelConfig) :
    ValidConfig config ↔ config.Tid ≠ 0 ∧ config.Ptid ≠ 0 ∧
      (config.Version = ProtocolVersion2 ∨ config.Version = ProtocolVersion3) ∧
      (config.Encap = EncaptypeUdp ∨ config.Encap = EncaptypeIp) ∧
      (config.Version = ProtocolVersion2 →
        config.Tid ≤ 65535 ∧ config.Ptid ≤ 65535 ∧ config.Encap = EncaptypeUdp) :=
  ⟨fun ⟨a, b, c, d, e⟩ => ⟨a, b, c, d, e⟩, fun ⟨a, b, c, d, e⟩ => ⟨a, b, c, d, e⟩⟩

instance validConfigDecidable (config : TunnelConfig) : Decidable (ValidConfig config) :=
  decidable_of_iff _ (validConfig_iff config).symm

theorem u16_eq_iff (a b : UInt16) : a = b ↔ a.toNat = b.toNat := ⟨congrArg _, UInt16.toNat.inj⟩

/-- **The config checks.** `tunnelCreateAttr` builds the attributes exactly
for a valid config, and they are that config's. -/
theorem tunnelCreateAttr_ok (config : TunnelConfig) (attr : List Attribute) :
    tunnelCreateAttr (some config) = .ok attr ↔ ValidConfig config ∧ attr = tunnelAttrs config := by
  have hm : (65535 : UInt32).toNat = 65535 := rfl
  rw [validConfig_iff]
  simp only [tunnelCreateAttr, ite_error_eq_ok]
  rw [ite_eq_iff']
  simp only [ite_error_eq_ok, Except.ok.injEq, ne_eq, u32_eq_iff, u16_eq_iff, gt_iff_lt, u32_lt_iff, u32_le_iff,
    hm, ProtocolVersion2_toNat, ProtocolVersion3_toNat, EncaptypeUdp_toNat, EncaptypeIp_toNat, UInt32.toNat_zero]
  constructor
  · rintro ⟨h1, h2, h3, h4, hv2, hv3⟩
    refine ⟨⟨h1, h2, by omega, by omega, fun hv => ?_⟩, ?_⟩
    · obtain ⟨h5, h6, h7, -⟩ := hv2 hv
      omega
    · by_cases hv : config.Version.toNat = 2
      · exact (hv2 hv).2.2.2.symm
      · exact (hv3 hv).symm
  · rintro ⟨⟨h1, h2, h3, h4, hv2⟩, rfl⟩
    refine ⟨h1, h2, by omega, by omega, fun hv => ?_, fun _ => rfl⟩
    obtain ⟨h5, h6, h7⟩ := hv2 hv
    exact ⟨by omega, by omega, by omega, rfl⟩

theorem tunnelCreateAttr_valid {config : TunnelConfig} (h : ValidConfig config) :
    tunnelCreateAttr (some config) = .ok (tunnelAttrs config) :=
  (tunnelCreateAttr_ok config _).2 ⟨h, rfl⟩

theorem tunnelCreateAttr_invalid {config : TunnelConfig} (h : ¬ValidConfig config) :
    ∃ e, tunnelCreateAttr (some config) = .error e := by
  cases ht : tunnelCreateAttr (some config) with
  | error e => exact ⟨e, rfl⟩
  | ok attr => exact absurd ((tunnelCreateAttr_ok config attr).1 ht).1 h

/-! ## The commands -/

/-- mirrors internal/nll2tp/nll2tp.go:279-292 -/
def createTunnel (attr : List Attribute) : Outcome :=
  .submit ⟨.CmdTunnelCreate, attr⟩

/-- mirrors internal/nll2tp/nll2tp.go:147-161 -/
def createManagedTunnel (fd : Int) (config : Option TunnelConfig) : Outcome :=
  if fd < 0 then .error "managed tunnel needs a valid socket file descriptor"
  else match tunnelCreateAttr config with
    | .error e => .error e
    | .ok attr => createTunnel (attr ++ [⟨.AttrFd, .u32 (UInt32.ofNat fd.toNat)⟩])

/-- The argument checks of a static tunnel. mirrors internal/nll2tp/nll2tp.go:172-189 -/
def staticTunnelChecks (localAddr : List UInt8) (localPort : UInt16) (peerAddr : List UInt8)
    (peerPort : UInt16) (config : TunnelConfig) : Option String :=
  if localAddr.length = 0 then some "unmanaged tunnel needs a valid local address"
  else if peerAddr.length = 0 then some "unmanaged tunnel needs a valid peer address"
  else if localAddr.length ≠ peerAddr.length then
    some "local and peer IP addresses must be of the same address family"
  else if config.Encap = EncaptypeUdp then
    if localPort = 0 then some "unmanaged tunnel needs a valid local port"
    else if peerPort = 0 then some "unmanaged tunnel needs a valid peer port"
    else none
  else none

/-- The address attributes; `none` is the switch's `default`.
mirrors internal/nll2tp/nll2tp.go:196-216 -/
def addrAttrs (localAddr peerAddr : List UInt8) : Option (List Attribute) :=
  match localAddr.length with
  | 4 => some [⟨.AttrIpSaddr, .bytes localAddr⟩, ⟨.AttrIpDaddr, .bytes peerAddr⟩]
  | 16 => some [⟨.AttrIp6Saddr, .bytes localAddr⟩, ⟨.AttrIp6Daddr, .bytes peerAddr⟩]
  | _ => none

/-- mirrors internal/nll2tp/nll2tp.go:167-226 -/
def createStaticTunnel (localAddr : List UInt8) (localPort : UInt16) (peerAddr : List UInt8)
    (peerPort : UInt16) : Option TunnelConfig → Outcome
  | none => .error "invalid nil tunnel config pointer"
  | some config =>
    match staticTunnelChecks localAddr localPort peerAddr peerPort config,
      tunnelCreateAttr (some config) with
    | some e, _ => .error e
    | none, .error e => .error e
    | none, .ok attr =>
      match addrAttrs localAddr peerAddr with
      | none => .panic "unexpected address length"
      | some addr => createTunnel (attr ++ addr ++
          [⟨.AttrUdpSport, .u16 localPort⟩, ⟨.AttrUdpDport, .u16 peerPort⟩])

/-- mirrors internal/nll2tp/nll2tp.go:231-263 -/
def deleteTunnel : Option TunnelConfig → Outcome
  | none => .error "invalid nil tunnel config"
  | some config => .submit ⟨.CmdTunnelDelete, [⟨.AttrConnId, .u32 config.Tid⟩]⟩

/-! ## What `CreateStaticTunnel` submits -/

section Static
variable {localAddr peerAddr : List UInt8} {localPort peerPort : UInt16}

theorem staticTunnelChecks_none {config : TunnelConfig} :
    staticTunnelChecks localAddr localPort peerAddr peerPort config = none ↔
      localAddr.length ≠ 0 ∧ localAddr.length = peerAddr.length ∧
        (config.Encap = EncaptypeUdp → localPort ≠ 0 ∧ peerPort ≠ 0) := by
  simp only [staticTunnelChecks, ite_some_eq_none, ite_eq_right_iff, reduceCtorEq, imp_false, ne_eq, not_not]
  constructor
  · rintro ⟨h0, -, hl, hp⟩
    exact ⟨h0, hl, hp⟩
  · rintro ⟨h0, hl, hp⟩
    exact ⟨h0, hl ▸ h0, hl, hp⟩

theorem addrAttrs_some {addr : List Attribute} :
    addrAttrs localAddr peerAddr = some addr ↔
      (localAddr.length = 4 ∧ addr = [⟨.AttrIpSaddr, .bytes localAddr⟩, ⟨.AttrIpDaddr, .bytes peerAddr⟩]) ∨
      (localAddr.length = 16 ∧ addr = [⟨.AttrIp6Saddr, .bytes localAddr⟩, ⟨.AttrIp6Daddr, .bytes peerAddr⟩]) := by
  unfold addrAttrs
  split <;> simp_all [eq_comm]

theorem addrAttrs_none : addrAttrs localAddr peerAddr = none ↔ localAddr.length ≠ 4 ∧ localAddr.length ≠ 16 := by
  unfold addrAttrs
  split <;> simp_all

/-- A config and addresses that pass every check reach the address switch. -/
theorem createStaticTunnel_checked {config : TunnelConfig}
    (hs : staticTunnelChecks localAddr localPort peerAddr peerPort config = none) (hv : ValidConfig config) :
    createStaticTunnel localAddr localPort peerAddr peerPort (some config) =
      match addrAttrs localAddr peerAddr with
      | none => .panic "unexpected address length"
      | some addr => createTunnel (tunnelAttrs config ++ addr ++
          [⟨.AttrUdpSport, .u16 localPort⟩, ⟨.AttrUdpDport, .u16 peerPort⟩]) := by
  simp only [createStaticTunnel, hs, tunnelCreateAttr_valid hv]

/-- Any other call returns an error. -/
theorem createStaticTunnel_rejected {config : TunnelConfig}
    (h : ¬(staticTunnelChecks localAddr localPort peerAddr peerPort config = none ∧ ValidConfig config)) :
    ∃ e, createStaticTunnel localAddr localPort peerAddr peerPort (some config) = .error e := by
  simp only [createStaticTunnel]
  cases hs : staticTunnelChecks localAddr localPort peerAddr peerPort config with
  | some e => exact ⟨e, rfl⟩
  | none =>
    obtain ⟨e, he⟩ := tunnelCreateAttr_invalid fun hv => h ⟨hs, hv⟩
    exact ⟨e, by rw [he]⟩

/-- **What a static tunnel submits.** `CreateStaticTunnel` submits a request
exactly for a valid config, the ports UDP needs and two IPv4 or two IPv6
addresses, and the request is one `TUNNEL_CREATE` with the config's
attributes, the addresses under their family's attribute types, and the
ports. -/
theorem createStaticTunnel_submit {config : Option TunnelConfig} {req : Request} :
    createStaticTunnel localAddr localPort peerAddr peerPort config = .submit req ↔
      ∃ c, config = some c ∧ ValidConfig c ∧ (c.Encap = EncaptypeUdp → localPort ≠ 0 ∧ peerPort ≠ 0) ∧
        ((localAddr.length = 4 ∧ peerAddr.length = 4 ∧ req = ⟨.CmdTunnelCreate, tunnelAttrs c ++
          [⟨.AttrIpSaddr, .bytes localAddr⟩, ⟨.AttrIpDaddr, .bytes peerAddr⟩,
            ⟨.AttrUdpSport, .u16 localPort⟩, ⟨.AttrUdpDport, .u16 peerPort⟩]⟩) ∨
        (localAddr.length = 16 ∧ peerAddr.length = 16 ∧ req = ⟨.CmdTunnelCreate, tunnelAttrs c ++
          [⟨.AttrIp6Saddr, .bytes localAddr⟩, ⟨.AttrIp6Daddr, .bytes peerAddr⟩,
            ⟨.AttrUdpSport, .u16 localPort⟩, ⟨.AttrUdpDport, .u16 peerPort⟩]⟩)) := by
  rcases config with _ | c
  · simp [createStaticTunnel]
  by_cases h : staticTunnelChecks localAddr localPort peerAddr peerPort c = none ∧ ValidConfig c
  · obtain ⟨hs, hv⟩ := h
    obtain ⟨h0, hl, hp⟩ := staticTunnelChecks_none.1 hs
    rw [createStaticTunnel_checked hs hv]
    cases ha : addrAttrs localAddr peerAddr with
    | none =>
      have := addrAttrs_none.1 ha
      simp only [reduceCtorEq, false_iff]
      rintro ⟨_, ⟨⟩, -, -, ⟨h4, -⟩ | ⟨h16, -⟩⟩ <;> omega
    | some addr =>
      rcases addrAttrs_some.1 ha with ⟨hn, rfl⟩ | ⟨hn, rfl⟩ <;>
        simp [createTunnel, hv, ← hl, hn, @eq_comm _ _ req] <;> exact fun _ => hp
  · obtain ⟨e, he⟩ := createStaticTunnel_rejected h
    rw [he]
    simp only [reduceCtorEq, false_iff]
    rintro ⟨_, ⟨⟩, hv, hp, ⟨h4, h4', -⟩ | ⟨h16, h16', -⟩⟩ <;>
      exact h ⟨staticTunnelChecks_none.2 ⟨by omega, by omega, hp⟩, hv⟩

/-- **When the panic is reached.** `CreateStaticTunnel` panics exactly when
the config is valid, the ports are what UDP needs, and the two addresses are
of one length that is neither 0, 4 nor 16. -/
theorem createStaticTunnel_panic_iff {config : Option TunnelConfig} {msg : String} :
    createStaticTunnel localAddr localPort peerAddr peerPort config = .panic msg ↔
      ∃ c, config = some c ∧ ValidConfig c ∧ (c.Encap = EncaptypeUdp → localPort ≠ 0 ∧ peerPort ≠ 0) ∧
        localAddr.length = peerAddr.length ∧ localAddr.length ∉ [0, 4, 16] ∧
        msg = "unexpected address length" := by
  rcases config with _ | c
  · simp [createStaticTunnel]
  by_cases h : staticTunnelChecks localAddr localPort peerAddr peerPort c = none ∧ ValidConfig c
  · obtain ⟨hs, hv⟩ := h
    obtain ⟨h0, hl, hp⟩ := staticTunnelChecks_none.1 hs
    rw [createStaticTunnel_checked hs hv]
    cases ha : addrAttrs localAddr peerAddr with
    | none =>
      obtain ⟨h4, h16⟩ := addrAttrs_none.1 ha
      simp only [Outcome.panic.injEq, Option.some.injEq, exists_eq_left', @eq_comm _ _ msg]
      exact ⟨fun hm => ⟨hv, hp, hl, by simp [h0, h4, h16], hm⟩, fun h => h.2.2.2.2⟩
    | some addr =>
      have := addrAttrs_some.1 ha
      simp only [createTunnel, reduceCtorEq, false_iff]
      rintro ⟨_, ⟨⟩, -, -, -, hn, -⟩
      simp only [List.mem_cons, List.mem_singleton, not_or] at hn
      omega
  · obtain ⟨e, he⟩ := createStaticTunnel_rejected h
    rw [he]
    simp only [reduceCtorEq, false_iff]
    rintro ⟨_, ⟨⟩, hv, hp, hl, hn, -⟩
    exact h ⟨staticTunnelChecks_none.2 ⟨fun h0 => hn (by simp [h0]), hl, hp⟩, hv⟩

/-- A five-byte address pair, a valid L2TPv3 UDP config and non-zero ports
reach the panic. -/
theorem createStaticTunnel_panics :
    createStaticTunnel [192, 0, 2, 1, 0] 1701 [192, 0, 2, 2, 0] 1701
      (some ⟨1, 1, ProtocolVersion3, EncaptypeUdp, 0⟩) = .panic "unexpected address length" := rfl

end Static

/-- `CreateManagedTunnel` submits a request exactly for a non-negative fd and
a valid config: one `TUNNEL_CREATE` with the config's attributes and the fd. -/
theorem createManagedTunnel_submit {fd : Int} {config : Option TunnelConfig} {req : Request} :
    createManagedTunnel fd config = .submit req ↔ ∃ c, config = some c ∧ 0 ≤ fd ∧ ValidConfig c ∧
      req = ⟨.CmdTunnelCreate, tunnelAttrs c ++ [⟨.AttrFd, .u32 (UInt32.ofNat fd.toNat)⟩]⟩ := by
  unfold createManagedTunnel
  split_ifs with hfd
  · simp only [reduceCtorEq, false_iff]
    rintro ⟨_, -, h, -⟩
    omega
  rcases config with _ | c
  · simp [tunnelCreateAttr]
  by_cases hv : ValidConfig c
  · simp [tunnelCreateAttr_valid hv, createTunnel, hv, @eq_comm _ _ req]
    omega
  · obtain ⟨e, he⟩ := tunnelCreateAttr_invalid hv
    simp [he, hv]

end GoL2tp.Nll2tp

