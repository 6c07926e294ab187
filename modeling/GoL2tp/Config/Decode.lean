import Mathlib.Algebra.Group.Int
import GoL2tp.Config.Value
import GoL2tp.Context.Types

/-!
# Loading the configuration

`newConfig` and the decoders it uses (src/unnamed/part_000, the `config`
package): `loadTunnels` ranges over the `tunnel` table, `newTunnelConfig`
over each tunnel's table, `loadSessions` over its `session` table and
`newSessionConfig` over each session's table. Every loop body is a
`switch` on the key; a case decodes the value into one field, an unknown
key or a decoding error ends the load.

Every such loop is `rangeM`: the body gets the key, the value and the state
built so far, and returns the new state or the error the function returns.
The iteration orders come from an `Iter`, keyed by the path of the table.
-/
namespace GoL2tp.Config

/-- `PseudowireType`. -/
structure PseudowireType where
  val : Nat
  deriving DecidableEq, Repr

/-- Modelled from the spec: the constants are declared outside src/; they are
the kernel's `L2TP_PWTYPE_PPP` and `L2TP_PWTYPE_ETH`. -/
def PseudowireTypePPP : PseudowireType := ⟨7⟩
def PseudowireTypeEth : PseudowireType := ⟨5⟩

/-- `L2SpecType`. -/
structure L2SpecType where
  val : Nat
  deriving DecidableEq, Repr

/-- Modelled from the spec: the constants are declared outside src/. -/
def L2SpecTypeNone : L2SpecType := ⟨0⟩
def L2SpecTypeDefault : L2SpecType := ⟨1⟩

/-- mirrors src/unnamed/part_000:35-45 -/
structure SessionConfig where
  SessionID : ControlConnID
  PeerSessionID : ControlConnID
  Pseudowire : PseudowireType
  SeqNum : Bool
  ReorderTimeout : Duration
  Cookie : List UInt8
  PeerCookie : List UInt8
  InterfaceName : String
  L2SpecType : L2SpecType
  deriving DecidableEq, Repr

/-- `SessionConfig{}`. -/
def SessionConfig.zero : SessionConfig := ⟨0, 0, ⟨0⟩, false, 0, [], [], "", ⟨0⟩⟩

/-- mirrors src/unnamed/part_000:22-31 -/
structure TunnelConfig where
  Local : String
  Peer : String
  Encap : EncapType
  Version : ProtocolVersion
  TunnelID : ControlConnID
  PeerTunnelID : ControlConnID
  Sessions : GoMap String SessionConfig

/-- `TunnelConfig{Sessions: make(map[string]*SessionConfig)}`. -/
def TunnelConfig.zero : TunnelConfig := ⟨"", "", ⟨0⟩, ⟨0⟩, 0, 0, .empty⟩

/-- The `config` package's `Config` (named apart from this namespace).
mirrors src/unnamed/part_000:12-17 -/
structure LoadedConfig where
  cm : List (String × Value)
  tunnels : GoMap String TunnelConfig

/-! ## Value decoders -/

/-- mirrors src/unnamed/part_000:47-52 -/
def toBool : Value → Except String Bool
  | .bool b => .ok b
  | _ => .error "supplied value could not be parsed as a bool"

/-- mirrors src/unnamed/part_000:54-70 -/
def toUint32 : Value → Except String UInt32
  | .int64 b =>
    if b < 0 ∨ b > 0xffffffff then .error s!"value {hexInt b} out of range" else .ok (UInt32.ofNat b.toNat)
  | .uint64 b =>
    if b < 0 ∨ b > 0xffffffff then .error s!"value {hexNat b} out of range" else .ok (UInt32.ofNat b)
  | v => .error s!"unexpected {v.typeName} value {v.fmt}"

/-- mirrors src/unnamed/part_000:72-77 -/
def toString : Value → Except String String
  | .string s => .ok s
  | _ => .error "supplied value could not be parsed as a string"

/-- Go's `int64` arithmetic: the result modulo 2^64, read as signed. -/
def int64Wrap (x : Int) : Int := (x + 2 ^ 63) % 2 ^ 64 - 2 ^ 63

/-- `time.Millisecond`. -/
def Millisecond : Duration := 1000000

/-- `time.Duration(u) * time.Millisecond`.
mirrors src/unnamed/part_000:79-82 -/
def toDurationMs (v : Value) : Except String Duration :=
  match toUint32 v with
  | .ok u => .ok (int64Wrap (u.toNat * Millisecond))
  | .error e => .error e

/-- The shape of `toVersion`, `toEncapType`, `toPseudowireType` and
`toL2SpecType`: a string that must be one of two names, each naming a value.
(On an error `toL2SpecType` returns `L2SpecTypeNone` where the others return
0; every caller discards the value then.) -/
def toNamed {α : Type} (a b : String) (x y : α) (msg : String) (v : Value) : Except String α :=
  match toString v with
  | .ok s => if s = a then .ok x else if s = b then .ok y else .error msg
  | .error e => .error e

/-- mirrors src/unnamed/part_000:84-96 -/
def toVersion : Value → Except String ProtocolVersion :=
  toNamed "l2tpv2" "l2tpv3" ProtocolVersion2 ProtocolVersion3 "expect \x27l2tpv2\x27 or \x27l2tpv3\x27"

/-- mirrors src/unnamed/part_000:98-110 -/
def toEncapType : Value → Except String EncapType :=
  toNamed "udp" "ip" EncapTypeUDP EncapTypeIP "expect \x27udp\x27 or \x27ip\x27"

/-- mirrors src/unnamed/part_000:112-124 -/
def toPseudowireType : Value → Except String PseudowireType :=
  toNamed "ppp" "eth" PseudowireTypePPP PseudowireTypeEth "expect \x27ppp\x27 or \x27eth\x27"

/-- mirrors src/unnamed/part_000:126-138 -/
def toL2SpecType : Value → Except String L2SpecType :=
  toNamed "none" "default" L2SpecTypeNone L2SpecTypeDefault "expect \x27none\x27 or \x27default\x27"

/-- mirrors src/unnamed/part_000:140-143 -/
def toCCID (v : Value) : Except String ControlConnID := toUint32 v

/-- The loop of `toBytes`, `out` being the bytes so far.
mirrors src/unnamed/part_000:156-173 -/
def toBytesLoop : List Value → List UInt8 → Except String (List UInt8)
  | [], out => .ok out
  | .int64 b :: rest, out =>
    if b < 0 ∨ b > 0xff then .error s!"value {hexInt b} out of range in byte array"
    else toBytesLoop rest (out ++ [UInt8.ofNat b.toNat])
  | .uint64 b :: rest, out =>
    if b < 0 ∨ b > 0xff then .error s!"value {hexNat b} out of range in byte array"
    else toBytesLoop rest (out ++ [UInt8.ofNat b])
  | number :: _, _ => .error s!"unexpected {number.typeName} value {number.fmt} in byte array"

/-- mirrors src/unnamed/part_000:145-175 -/
def toBytes : Value → Except String (List UInt8)
  | .array numbers => toBytesLoop numbers []
  | _ => .error "expected array value"

/-! ## The loaders -/

/-- A `for k, v := range m` whose body returns the new state or an error. -/
def rangeM {σ : Type} (body : String → Value → σ → Except String σ) :
    List (String × Value) → σ → Except String σ
  | [], s => .ok s
  | (k, v) :: rest, s =>
    match body k v s with
    | .error e => .error e
    | .ok s' => rangeM body rest s'

/-- A `switch` case: store the decoded value, or report the key. -/
def processed {α σ : Type} (k : String) (r : Except String α) (set : α → σ) : Except String σ :=
  match r with
  | .ok x => .ok (set x)
  | .error e => .error s!"failed to process {k}: {e}"

/-- The body of `newSessionConfig`'s loop.
mirrors src/unnamed/part_000:181-205 -/
def sessionKey (k : String) (v : Value) (sc : SessionConfig) : Except String SessionConfig :=
  match k with
  | "sid" => processed k (toCCID v) fun x => { sc with SessionID := x }
  | "psid" => processed k (toCCID v) fun x => { sc with PeerSessionID := x }
  | "pseudowire" => processed k (toPseudowireType v) fun x => { sc with Pseudowire := x }
  | "seqnum" => processed k (toBool v) fun x => { sc with SeqNum := x }
  | "reorder_timeout" => processed k (toDurationMs v) fun x => { sc with ReorderTimeout := x }
  | "cookie" => processed k (toBytes v) fun x => { sc with Cookie := x }
  | "peer_cookie" => processed k (toBytes v) fun x => { sc with PeerCookie := x }
  | "interface_name" => processed k (toString v) fun x => { sc with InterfaceName := x }
  | "l2spec_type" => processed k (toL2SpecType v) fun x => { sc with L2SpecType := x }
  | _ => .error s!"unrecognised parameter \x27{k}\x27"

/-- mirrors src/unnamed/part_000:177-208 -/
def newSessionConfig (ord : Iter) (path : List String) (scfg : List (String × Value)) :
    Except String SessionConfig :=
  rangeM sessionKey (ord path scfg) SessionConfig.zero

/-- The body of `loadSessions`' loop.
mirrors src/unnamed/part_000:216-225 -/
def sessionEntry (ord : Iter) (path : List String) (name : String) (got : Value) (t : TunnelConfig) :
    Except String TunnelConfig :=
  match got with
  | .map smap =>
    match newSessionConfig ord (path ++ [name]) smap with
    | .ok scfg => .ok { t with Sessions := t.Sessions.insert name scfg }
    | .error e => .error s!"session {name}: {e}"
  | _ => .error s!"config for session {name} isn\x27t a map"

/-- mirrors src/unnamed/part_000:210-228 -/
def loadSessions (ord : Iter) (path : List String) (v : Value) (t : TunnelConfig) :
    Except String TunnelConfig :=
  match v with
  | .map sessions => rangeM (sessionEntry ord path) (ord path sessions) t
  | _ => .error "session instances must be named, e.g. \x27[tunnel.mytunnel.session.mysession]\x27"

/-- The body of `newTunnelConfig`'s loop; `path` is the tunnel's.
mirrors src/unnamed/part_000:235-256 -/
def tunnelKey (ord : Iter) (path : List String) (k : String) (v : Value) (tc : TunnelConfig) :
    Except String TunnelConfig :=
  match k with
  | "local" => processed k (toString v) fun x => { tc with Local := x }
  | "peer" => processed k (toString v) fun x => { tc with Peer := x }
  | "encap" => processed k (toEncapType v) fun x => { tc with Encap := x }
  | "version" => processed k (toVersion v) fun x => { tc with Version := x }
  | "tid" => processed k (toCCID v) fun x => { tc with TunnelID := x }
  | "ptid" => processed k (toCCID v) fun x => { tc with PeerTunnelID := x }
  | "session" => processed k (loadSessions ord (path ++ ["session"]) v tc) id
  | _ => .error s!"unrecognised parameter \x27{k}\x27"

/-- mirrors src/unnamed/part_000:230-259 -/
def newTunnelConfig (ord : Iter) (path : List String) (tcfg : List (String × Value)) :
    Except String TunnelConfig :=
  rangeM (tunnelKey ord path) (ord path tcfg) TunnelConfig.zero

/-- The body of `loadTunnels`' loop.
mirrors src/unnamed/part_000:276-285 -/
def tunnelEntry (ord : Iter) (name : String) (got : Value) (tunnels : GoMap String TunnelConfig) :
    Except String (GoMap String TunnelConfig) :=
  match got with
  | .map tmap =>
    match newTunnelConfig ord ["tunnel", name] tmap with
    | .ok tcfg => .ok (tunnels.insert name tcfg)
    | .error e => .error s!"tunnel {name}: {e}"
  | _ => .error s!"config for tunnel {name} isn\x27t a map"

/-- mirrors src/unnamed/part_000:261-288 -/
def loadTunnels (ord : Iter) (cm : List (String × Value)) : Except String (GoMap String TunnelConfig) :=
  match GoMap.lookup "tunnel" cm with
  | some (.map tunnels) => rangeM (tunnelEntry ord) (ord ["tunnel"] tunnels) .empty
  | some _ => .error "tunnel instances must be named, e.g. \x27[tunnel.mytunnel]\x27"
  | none => .error "no tunnel table present"

/-- `newConfig`, given `tree.ToMap()`.
mirrors src/unnamed/part_000:290-300 -/
def newConfig (ord : Iter) (cm : List (String × Value)) : Except String LoadedConfig :=
  match loadTunnels ord cm with
  | .ok tunnels => .ok ⟨cm, tunnels⟩
  | .error e => .error s!"failed to parse tunnels: {e}"

end GoL2tp.Config
