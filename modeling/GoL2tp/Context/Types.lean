import GoL2tp.Registry.Index

/-!
# The l2tp package's data model

`Context`, its tunnels and their configuration, as
cmd/kl2tpd/kl2tpd.go:133-167 and :810-819 declare them (that file holds
the `l2tp` package's `l2tp.go` after the launcher).

Go's named integer types (`ProtocolVersion`, `EncapType`) are structures
over `Nat`, so that their zero value (what an unset config field holds) is a
value of the type, as in Go. `ControlConnID` is `uint32`. The declarations
of `TunnelConfig` and of the version and encapsulation constants are not in
src/; the fields are those the modelled functions read, and only the
distinctness of the constants matters.

A tunnel is a pointer in Go: it carries an identity `ref` (allocated from
`Context.nextRef`) besides the name and configuration it was created with.
The registry only reads `getName()` and `getCfg().TunnelID`, which no code
changes after creation.
-/
namespace GoL2tp

/-- `ControlConnID`: a tunnel or session ID. -/
abbrev ControlConnID := UInt32

/-- `time.Duration`: nanoseconds. -/
abbrev Duration := Int

def Second : Duration := 1000000000

/-- `ProtocolVersion`. -/
structure ProtocolVersion where
  val : Nat
  deriving DecidableEq, Repr

/-- Modelled from the spec: the constants are declared outside src/; their
values are those of nll2tp.go:28-33. -/
def ProtocolVersion2 : ProtocolVersion := ⟨2⟩
def ProtocolVersion3 : ProtocolVersion := ⟨3⟩

/-- `EncapType`. -/
structure EncapType where
  val : Nat
  deriving DecidableEq, Repr

/-- Modelled from the spec: the constants are declared outside src/; they are
the kernel's `L2TP_ENCAPTYPE_UDP` and `L2TP_ENCAPTYPE_IP`. -/
def EncapTypeUDP : EncapType := ⟨0⟩
def EncapTypeIP : EncapType := ⟨1⟩

/-- `l2tp.TunnelConfig`, the fields the context reads or defaults. -/
structure TunnelConfig where
  Local : String
  Peer : String
  Encap : EncapType
  Version : ProtocolVersion
  TunnelID : ControlConnID
  PeerTunnelID : ControlConnID
  HostName : String
  StopCCNTimeout : Duration
  deriving DecidableEq, Repr

/-- The three tunnel flavours behind the `tunnel` interface. -/
inductive TunnelKind where
  | dynamic | quiescent | static
  deriving DecidableEq, Repr

/-- A tunnel instance: `getName()` is `name`, `getCfg()` is `cfg`. -/
structure Tunnel where
  ref : Nat
  kind : TunnelKind
  name : String
  cfg : TunnelConfig
  deriving DecidableEq, Repr

/-- `t.getCfg().TunnelID`, the key of `tunnelsByID`. -/
def Tunnel.tid (t : Tunnel) : ControlConnID := t.cfg.TunnelID

/-- An `EventHandler` interface value; `==` on it is identity. -/
structure EventHandler where
  id : Nat
  deriving DecidableEq, Repr

/-- `Context`: `tunnels` holds `tunnelsByName` and `tunnelsByID`. The logger,
the locks and the data plane carry no state the modelled code reads. -/
structure Context where
  tunnels : Index Tunnel
  callSerial : UInt32
  eventHandlers : List EventHandler
  nextRef : Nat

/-- `NewContext`, after the data plane is up: empty tables and a call
serial number drawn from the PRNG.
mirrors cmd/kl2tpd/kl2tpd.go:286-306 -/
def newContext (r : UInt32) : Context := ⟨.empty, r, [], 0⟩

end GoL2tp
