import GoL2tp.Context.Types

/-!
# The tunnel registry of a `Context`

`linkTunnel`, `unlinkTunnel`, `findTunnelByName`, `findTunnelByID`
(cmd/kl2tpd/kl2tpd.go:636-662) are the `Index` operations with the tunnel's
name and `TunnelID` as keys. `allocTid` (:623-634) and `allocSid` (:904-915)
are one loop, `allocLoop`, over the ID table they are given: ten draws of
`generateControlConnID` (:797-808), the first one not in use is returned.

The PRNG is `draw : Nat → UInt32`, the outputs of `rand.Uint32()` the call
sees in order; results are stated for every such stream.

Results: `allocLoop_ok` (the ID returned is a draw's ID that is not in
use, so of the version's width by `generateControlConnID_ok`) and
`allocLoop_exhausted` (the loop gives up only after every one of its draws
gave an ID in use). Nothing rejects a draw of 0.
-/
namespace GoL2tp

namespace Context

/-- mirrors cmd/kl2tpd/kl2tpd.go:636-641 -/
def linkTunnel (ctx : Context) (t : Tunnel) : Context :=
  { ctx with tunnels := ctx.tunnels.link Tunnel.name Tunnel.tid t }

/-- mirrors cmd/kl2tpd/kl2tpd.go:643-648 -/
def unlinkTunnel (ctx : Context) (t : Tunnel) : Context :=
  { ctx with tunnels := ctx.tunnels.unlink Tunnel.name Tunnel.tid t }

/-- mirrors cmd/kl2tpd/kl2tpd.go:650-655 -/
def findTunnelByName (ctx : Context) (name : String) : Option Tunnel := ctx.tunnels.byName.get? name

/-- mirrors cmd/kl2tpd/kl2tpd.go:657-662 -/
def findTunnelByID (ctx : Context) (tid : ControlConnID) : Option Tunnel := ctx.tunnels.byID.get? tid

/-- `callSerial++` under `serialLock`, returning the new value.
mirrors cmd/kl2tpd/kl2tpd.go:664-669 -/
def allocCallSerial (ctx : Context) : Context × UInt32 :=
  ({ ctx with callSerial := ctx.callSerial + 1 }, ctx.callSerial + 1)

@[simp] theorem linkTunnel_tunnels (ctx : Context) (t : Tunnel) :
    (ctx.linkTunnel t).tunnels = ctx.tunnels.link Tunnel.name Tunnel.tid t := rfl
@[simp] theorem unlinkTunnel_tunnels (ctx : Context) (t : Tunnel) :
    (ctx.unlinkTunnel t).tunnels = ctx.tunnels.unlink Tunnel.name Tunnel.tid t := rfl

end Context

/-- `ControlConnID(uint16(rand.Uint32()))` for L2TPv2, `ControlConnID(rand.Uint32())`
for L2TPv3, `r` being the draw.
mirrors cmd/kl2tpd/kl2tpd.go:797-808 -/
def generateControlConnID (version : ProtocolVersion) (r : UInt32) : Except String ControlConnID :=
  if version = ProtocolVersion2 then .ok r.toUInt16.toUInt32
  else if version = ProtocolVersion3 then .ok r
  else .error s!"unhandled version {version.val}"

/-- The ID loop shared by `allocTid` and `allocSid`: `n` attempts left, the
next one using draw `i`; `inUse` is the lookup in the ID table, `what` the
word in the generation error.
mirrors cmd/kl2tpd/kl2tpd.go:623-634 and :904-915 -/
def allocLoop (inUse : ControlConnID → Bool) (version : ProtocolVersion) (what : String)
    (draw : Nat → UInt32) : Nat → Nat → Except String ControlConnID
  | 0, _ => .error "ID space exhausted"
  | n + 1, i =>
    match generateControlConnID version (draw i) with
    | .error e => .error s!"failed to generate {what} ID: {e}"
    | .ok id => if inUse id then allocLoop inUse version what draw n (i + 1) else .ok id

/-- mirrors cmd/kl2tpd/kl2tpd.go:623-634 -/
def Context.allocTid (ctx : Context) (version : ProtocolVersion) (draw : Nat → UInt32) :
    Except String ControlConnID :=
  allocLoop (fun id => (ctx.findTunnelByID id).isSome) version "tunnel" draw 10 0

theorem generateControlConnID_ok {version : ProtocolVersion} {r id : UInt32}
    (h : generateControlConnID version r = .ok id) :
    (version = ProtocolVersion2 ∧ id.toNat ≤ 65535) ∨ (version = ProtocolVersion3 ∧ id = r) := by
  unfold generateControlConnID at h
  split_ifs at h with h2 h3
  · cases h
    refine .inl ⟨h2, ?_⟩
    simp [UInt32.toUInt16, UInt16.toUInt32, UInt16.toNat, UInt32.toNat, Nat.toUInt16, Nat.toUInt32]
    omega
  · cases h; exact .inr ⟨h3, rfl⟩

section AllocLoop

variable {inUse : ControlConnID → Bool} {version : ProtocolVersion} {what : String}
  {draw : Nat → UInt32}

/-- What the ID loop returns is a draw's ID for version 2 or 3 that is not in
use. -/
theorem allocLoop_ok {n i : Nat} {id : ControlConnID}
    (h : allocLoop inUse version what draw n i = .ok id) :
    inUse id = false ∧ ∃ j, generateControlConnID version (draw j) = .ok id := by
  induction n generalizing i with
  | zero => cases h
  | succ n ih =>
    simp only [allocLoop] at h
    split at h
    · cases h
    · rename_i id' hg
      split_ifs at h with hu
      · exact ih h
      · cases h; exact ⟨by simpa using hu, i, hg⟩

/-- The ID loop gives up with "ID space exhausted" only when each of its
`n` draws gave an ID that was in use. -/
theorem allocLoop_exhausted {n i : Nat}
    (h : allocLoop inUse version what draw n i = .error "ID space exhausted") :
    ∀ j < n, ∃ id, generateControlConnID version (draw (i + j)) = .ok id ∧ inUse id = true := by
  induction n generalizing i with
  | zero => intro j hj; omega
  | succ n ih =>
    simp only [allocLoop] at h
    split at h
    · have := congrArg (fun s : String => s.data.head?) (Except.error.inj h)
      exact absurd (show some 'f' = some 'I' from this) (by decide)
    · rename_i id hg
      split_ifs at h with hu
      rintro (_ | j) hj
      · exact ⟨id, hg, hu⟩
      · obtain ⟨id', hg', hu'⟩ := ih h j (by omega)
        exact ⟨id', by rwa [show i + (j + 1) = i + 1 + j by omega], hu'⟩

/-- Two draws of 5, an ID in use: the loop gives up, and its second draw
was 5. -/
theorem allocLoop_exhausted_inUse :
    ∃ id, generateControlConnID ProtocolVersion3 5 = .ok id ∧ (id == 5) = true :=
  allocLoop_exhausted
    (rfl : allocLoop (· == 5) ProtocolVersion3 "tunnel" (fun _ => 5) 2 0 = .error "ID space exhausted") 1
    (by decide)

end AllocLoop

end GoL2tp
