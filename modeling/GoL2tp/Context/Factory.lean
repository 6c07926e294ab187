import GoL2tp.Context.Address
import GoL2tp.Context.Registry

/-!
# The tunnel factories

`NewDynamicTunnel`, `NewQuiescentTunnel` and `NewStaticTunnel`
(cmd/kl2tpd/kl2tpd.go:316-564). Each copies the caller's configuration
(`myCfg := *cfg`), refuses a name already in use, checks and defaults the
copy in its own way, makes sure the `TunnelID` is free (allocating one for a
dynamic tunnel without one), and then runs the same tail: the tunnel
addresses for the encapsulation, the flavour's constructor, `linkTunnel`.

Each factory is modelled as its own checking function (`dynamicConfig`,
`quiescentConfig`, `staticConfig`), which returns the configuration passed
on to the constructor, and the shared tail `createTunnel`. Configurations
are values, so the caller's `*cfg` is never written, as in Go where only
the copy is.

What the program does not decide is the call's `Env`: the host name, name
resolution, the PRNG outputs, and the three constructors, which are
declared outside src/ and are taken to succeed or fail without touching
the registry.

Results: `factory_cases` and the three `*Config_ok` lemmas say what each
piece can do; from them, a factory that fails leaves the context as it was
and one that succeeds adds exactly its tunnel under a name and an ID that
were free (`factories_frame`); `factories_config` says which rules the
configuration passed on keeps, and `quiescent_links_unset_version` and
`dynamic_links_unset_version` that an unchecked `Version` gets through.
-/
namespace GoL2tp

/-- What a factory call gets from outside the program. -/
structure Env where
  /-- `os.Hostname()` -/
  hostname : Except String String
  /-- `net.ResolveUDPAddr("udp", ·)` -/
  resolve : String → Except String UDPAddr
  /-- `newDynamicTunnel`, `newQuiescentTunnel`, `newStaticTunnel` -/
  construct : TunnelKind → String → Sockaddr → Sockaddr → TunnelConfig → Except String Unit
  /-- the outputs of `rand.Uint32()` during the call -/
  draw : Nat → UInt32

/-- `fmt`'s `%q` of an integer: `strconv.QuoteRune` of it, a value past
`utf8.MaxRune` or a surrogate being U+FFFD. -/
def quoteRune (n : UInt32) : String :=
  let r := if n.toNat ≤ 0x10FFFF ∧ ¬(0xD800 ≤ n.toNat ∧ n.toNat ≤ 0xDFFF) then n.toNat else 0xFFFD
  "\x27" ++ escapedRune 0x27 (Char.ofNat r) ++ "\x27"

example : quoteRune 7 = "\x27\\a\x27" ∧ quoteRune 42 = "\x27*\x27" ∧ quoteRune 0x9F = "\x27\\u009f\x27" := by
  decide

namespace Context

/-- The TID clash check. mirrors cmd/kl2tpd/kl2tpd.go:459-462 -/
def checkTid (ctx : Context) (myCfg : TunnelConfig) : Except String TunnelConfig :=
  if (ctx.findTunnelByID myCfg.TunnelID).isSome then
    .error s!"already have tunnel with TID {quoteRune myCfg.TunnelID}"
  else .ok myCfg

/-- RFC2661 section 5.7's default StopCCN retransmit timeout when unset.
mirrors cmd/kl2tpd/kl2tpd.go:342-346 -/
def stopCCNDefault (c : TunnelConfig) : TunnelConfig :=
  if c.StopCCNTimeout = 0 then { c with StopCCNTimeout := 31 * Second } else c

/-- Host name and StopCCN timeout defaults of a dynamic tunnel.
mirrors cmd/kl2tpd/kl2tpd.go:333-346 -/
def dynamicDefaults (env : Env) (myCfg : TunnelConfig) : Except String TunnelConfig :=
  if myCfg.HostName = "" then
    match env.hostname with
    | .error e => .error s!"failed to look up host name: {e}"
    | .ok h => .ok (stopCCNDefault { myCfg with HostName := h })
  else .ok (stopCCNDefault myCfg)

/-- The sanity checks of a dynamic tunnel's config.
mirrors cmd/kl2tpd/kl2tpd.go:348-362 -/
def dynamicChecks (myCfg : TunnelConfig) : Option String :=
  if myCfg.Version ≠ ProtocolVersion3 ∧ myCfg.Encap = EncapTypeIP then
    some "IP encapsulation only supported for L2TPv3 tunnels"
  else if myCfg.Version = ProtocolVersion2 ∧ 65535 < myCfg.TunnelID then
    some s!"L2TPv2 connection ID {myCfg.TunnelID} out of range"
  else if myCfg.PeerTunnelID ≠ 0 then
    some "L2TPv2 peer connection ID cannot be specified for dynamic tunnels"
  else if myCfg.Peer = "" then some "must specify peer address for dynamic tunnel"
  else none

/-- The TID of a dynamic tunnel: checked if set, allocated if not.
mirrors cmd/kl2tpd/kl2tpd.go:364-379 -/
def dynamicTid (ctx : Context) (env : Env) (myCfg : TunnelConfig) : Except String TunnelConfig :=
  if myCfg.TunnelID ≠ 0 then ctx.checkTid myCfg
  else
    match ctx.allocTid myCfg.Version env.draw with
    | .error e => .error s!"failed to allocate a TID: {quote e}"
    | .ok tid => .ok { myCfg with TunnelID := tid }

/-- `NewDynamicTunnel` up to the constructor: the config it passes on.
mirrors cmd/kl2tpd/kl2tpd.go:320-379 -/
def dynamicConfig (ctx : Context) (env : Env) (name : String) :
    Option TunnelConfig → Except String TunnelConfig
  | none => .error "invalid nil config"
  | some cfg =>
    if (ctx.findTunnelByName name).isSome then .error s!"already have tunnel {quote name}"
    else
      match dynamicDefaults env cfg with
      | .error e => .error e
      | .ok myCfg =>
        match dynamicChecks myCfg with
        | some e => .error e
        | none => ctx.dynamicTid env myCfg

/-- The ID checks of a quiescent tunnel's config.
mirrors cmd/kl2tpd/kl2tpd.go:440-451 -/
def quiescentIDChecks (myCfg : TunnelConfig) : Option String :=
  if myCfg.Version = ProtocolVersion2 then
    if myCfg.TunnelID = 0 ∨ 65535 < myCfg.TunnelID then
      some s!"L2TPv2 connection ID {myCfg.TunnelID} out of range"
    else if myCfg.PeerTunnelID = 0 ∨ 65535 < myCfg.PeerTunnelID then
      some s!"L2TPv2 peer connection ID {myCfg.PeerTunnelID} out of range"
    else none
  else if myCfg.TunnelID = 0 ∨ myCfg.PeerTunnelID = 0 then
    some s!"L2TPv3 tunnel IDs {myCfg.TunnelID} and {myCfg.PeerTunnelID} must both be > 0"
  else none

/-- The sanity checks of a quiescent tunnel's config.
mirrors cmd/kl2tpd/kl2tpd.go:436-457 -/
def quiescentChecks (myCfg : TunnelConfig) : Option String :=
  if myCfg.Version ≠ ProtocolVersion3 ∧ myCfg.Encap = EncapTypeIP then
    some "IP encapsulation only supported for L2TPv3 tunnels"
  else
    match quiescentIDChecks myCfg with
    | some e => some e
    | none =>
      if myCfg.Local = "" then some "must specify local address for quiescent tunnel"
      else if myCfg.Peer = "" then some "must specify peer address for quiescent tunnel"
      else none

/-- `NewQuiescentTunnel` up to the constructor.
mirrors cmd/kl2tpd/kl2tpd.go:423-462 -/
def quiescentConfig (ctx : Context) (name : String) : Option TunnelConfig → Except String TunnelConfig
  | none => .error "invalid nil config"
  | some cfg =>
    if (ctx.findTunnelByName name).isSome then .error s!"already have tunnel {quote name}"
    else
      match quiescentChecks cfg with
      | some e => .error e
      | none => ctx.checkTid cfg

/-- The sanity checks of a static tunnel's config.
mirrors cmd/kl2tpd/kl2tpd.go:521-534 -/
def staticChecks (myCfg : TunnelConfig) : Option String :=
  if myCfg.Version ≠ ProtocolVersion3 then some "static tunnels can be L2TPv3 only"
  else if myCfg.TunnelID = 0 ∨ myCfg.PeerTunnelID = 0 then
    some s!"L2TPv3 tunnel IDs {myCfg.TunnelID} and {myCfg.PeerTunnelID} must both be > 0"
  else if myCfg.Local = "" then some "must specify local address for static tunnel"
  else if myCfg.Peer = "" then some "must specify peer address for static tunnel"
  else none

/-- `NewStaticTunnel` up to the constructor.
mirrors cmd/kl2tpd/kl2tpd.go:508-539 -/
def staticConfig (ctx : Context) (name : String) : Option TunnelConfig → Except String TunnelConfig
  | none => .error "invalid nil config"
  | some cfg =>
    if (ctx.findTunnelByName name).isSome then .error s!"already have tunnel {quote name}"
    else
      match staticChecks cfg with
      | some e => .error e
      | none => ctx.checkTid cfg

end Context

/-- The encapsulation switch. mirrors cmd/kl2tpd/kl2tpd.go:381-390 -/
def tunnelAddresses (resolve : String → Except String UDPAddr) (myCfg : TunnelConfig) :
    Except String (Sockaddr × Sockaddr) :=
  if myCfg.Encap = EncapTypeUDP then newUDPAddressPair resolve myCfg.Local myCfg.Peer
  else if myCfg.Encap = EncapTypeIP then
    newIPAddressPair resolve myCfg.Local myCfg.TunnelID myCfg.Peer myCfg.PeerTunnelID
  else .error s!"unrecognised encapsulation type {myCfg.Encap.val}"

namespace Context

/-- The shared tail of the factories: addresses, constructor, `linkTunnel`.
The new tunnel object is `nextRef`.
mirrors cmd/kl2tpd/kl2tpd.go:381-403, :464-486, :541-563 -/
def createTunnel (ctx : Context) (env : Env) (kind : TunnelKind) (name : String)
    (myCfg : TunnelConfig) : Context × Except String Tunnel :=
  match tunnelAddresses env.resolve myCfg with
  | .error e => (ctx, .error s!"failed to initialise tunnel addresses: {e}")
  | .ok (sal, sap) =>
    match env.construct kind name sal sap myCfg with
    | .error e => (ctx, .error e)
    | .ok () =>
      let t : Tunnel := ⟨ctx.nextRef, kind, name, myCfg⟩
      ({ ctx.linkTunnel t with nextRef := ctx.nextRef + 1 }, .ok t)

/-- A factory: its checking function, then the shared tail. -/
def factory (ctx : Context) (env : Env) (kind : TunnelKind) (name : String)
    (prepared : Except String TunnelConfig) : Context × Except String Tunnel :=
  match prepared with
  | .error e => (ctx, .error e)
  | .ok myCfg => ctx.createTunnel env kind name myCfg

/-- mirrors cmd/kl2tpd/kl2tpd.go:316-404 -/
def newDynamicTunnel (ctx : Context) (env : Env) (name : String) (cfg : Option TunnelConfig) :
    Context × Except String Tunnel :=
  ctx.factory env .dynamic name (ctx.dynamicConfig env name cfg)

/-- mirrors cmd/kl2tpd/kl2tpd.go:419-487 -/
def newQuiescentTunnel (ctx : Context) (env : Env) (name : String) (cfg : Option TunnelConfig) :
    Context × Except String Tunnel :=
  ctx.factory env .quiescent name (ctx.quiescentConfig name cfg)

/-- mirrors cmd/kl2tpd/kl2tpd.go:504-564 -/
def newStaticTunnel (ctx : Context) (env : Env) (name : String) (cfg : Option TunnelConfig) :
    Context × Except String Tunnel :=
  ctx.factory env .static name (ctx.staticConfig name cfg)

end Context

/-! ## What each piece can do -/

namespace Context

variable {ctx : Context} {env : Env} {name : String} {c c' : TunnelConfig}

theorem checkTid_ok (h : ctx.checkTid c = .ok c') : c' = c ∧ ctx.findTunnelByID c.TunnelID = none := by
  unfold checkTid at h
  split_ifs at h with hf
  cases h; exact ⟨rfl, by simpa using hf⟩

theorem dynamicDefaults_ok (h : dynamicDefaults env c = .ok c') :
    ∃ hn t, c' = { c with HostName := hn, StopCCNTimeout := t } := by
  have hd : ∀ c₀ : TunnelConfig, ∃ t, stopCCNDefault c₀ = { c₀ with StopCCNTimeout := t } :=
    fun c₀ => by unfold stopCCNDefault; split_ifs <;> exact ⟨_, rfl⟩
  unfold dynamicDefaults at h
  split_ifs at h
  · split at h
    · cases h
    · cases h; obtain ⟨t, ht⟩ := hd { c with HostName := _ }; exact ⟨_, t, ht⟩
  · cases h; obtain ⟨t, ht⟩ := hd c; exact ⟨c.HostName, t, ht⟩

theorem dynamicChecks_none (h : dynamicChecks c = none) :
    (c.Encap = EncapTypeIP → c.Version = ProtocolVersion3) ∧
    (c.Version = ProtocolVersion2 → c.TunnelID ≤ 65535) ∧ c.PeerTunnelID = 0 ∧ c.Peer ≠ "" := by
  unfold dynamicChecks at h
  split_ifs at h with h1 h2 h3 h4
  simp only [not_and, not_not, not_lt] at h1 h2 h3
  exact ⟨fun he => not_not.1 (mt h1 (not_not.2 he)), h2, h3, h4⟩

theorem dynamicTid_ok (h : ctx.dynamicTid env c = .ok c') :
    ctx.findTunnelByID c'.TunnelID = none ∧
    ((c.TunnelID ≠ 0 ∧ c' = c) ∨
     (c.TunnelID = 0 ∧ ∃ tid, c' = { c with TunnelID := tid } ∧
      ∃ j, generateControlConnID c.Version (env.draw j) = .ok tid)) := by
  unfold dynamicTid at h
  split_ifs at h with h0
  · obtain ⟨rfl, hf⟩ := checkTid_ok h
    exact ⟨hf, .inl ⟨h0, rfl⟩⟩
  · split at h
    · cases h
    · rename_i tid ha
      cases h
      obtain ⟨hu, hg⟩ := allocLoop_ok ha
      exact ⟨by simpa using hu, .inr ⟨not_not.1 h0, _, rfl, hg⟩⟩

theorem dynamicConfig_ok {cfg : Option TunnelConfig} (h : ctx.dynamicConfig env name cfg = .ok c') :
    ∃ c, cfg = some c ∧ ctx.findTunnelByName name = none ∧ ctx.findTunnelByID c'.TunnelID = none ∧
      (c'.Encap = EncapTypeIP → c'.Version = ProtocolVersion3) ∧
      (c'.Version = ProtocolVersion2 → c'.TunnelID ≤ 65535) ∧ c'.PeerTunnelID = 0 ∧
      c'.Version = c.Version ∧ c'.Local = c.Local ∧ c'.Peer = c.Peer ∧ c'.Encap = c.Encap ∧
      ((c.TunnelID ≠ 0 ∧ c'.TunnelID = c.TunnelID) ∨
       (c.TunnelID = 0 ∧ ∃ j, generateControlConnID c.Version (env.draw j) = .ok c'.TunnelID)) := by
  cases cfg with
  | none => cases h
  | some c =>
    simp only [dynamicConfig] at h
    split_ifs at h with hn
    split at h
    · cases h
    rename_i c₁ hd
    split at h
    · cases h
    rename_i hc
    obtain ⟨hn', t, rfl⟩ := dynamicDefaults_ok hd
    obtain ⟨he, hv, hp, -⟩ := dynamicChecks_none hc
    obtain ⟨hf, (⟨h0, rfl⟩ | ⟨h0, tid, rfl, hg⟩)⟩ := dynamicTid_ok h
    · exact ⟨c, rfl, by simpa using hn, hf, he, hv, hp, rfl, rfl, rfl, rfl, .inl ⟨h0, rfl⟩⟩
    · refine ⟨c, rfl, by simpa using hn, hf, he, ?_, hp, rfl, rfl, rfl, rfl, .inr ⟨h0, hg⟩⟩
      intro h2
      obtain ⟨j, hg⟩ := hg
      rcases generateControlConnID_ok hg with ⟨-, hle⟩ | ⟨h3, -⟩
      · exact (UInt32.le_def.2 (by simpa [BitVec.le_def] using hle))
      · exact absurd (h2.symm.trans h3) (by decide)

theorem quiescentChecks_none (h : quiescentChecks c = none) :
    (c.Encap = EncapTypeIP → c.Version = ProtocolVersion3) ∧
    (c.Version = ProtocolVersion2 → c.TunnelID ≤ 65535 ∧ c.PeerTunnelID ≤ 65535) ∧
    c.TunnelID ≠ 0 ∧ c.PeerTunnelID ≠ 0 ∧ c.Local ≠ "" ∧ c.Peer ≠ "" := by
  unfold quiescentChecks at h
  obtain ⟨h1, h⟩ := ite_some_eq_none.1 h
  cases hid : quiescentIDChecks c with
  | some e => simp [hid] at h
  | none =>
    simp only [hid, ite_some_eq_none, and_true] at h
    unfold quiescentIDChecks at hid
    rw [ite_eq_iff'] at hid
    simp only [ite_some_eq_none, not_or, not_lt, and_true] at hid
    simp only [not_and, not_not] at h1
    obtain ⟨hv2, hv3⟩ := hid
    have hids : c.TunnelID ≠ 0 ∧ c.PeerTunnelID ≠ 0 := by
      by_cases hv : c.Version = ProtocolVersion2
      · exact ⟨(hv2 hv).1.1, (hv2 hv).2.1⟩
      · exact hv3 hv
    exact ⟨fun he => not_not.1 (mt h1 (not_not.2 he)), fun hv => ⟨(hv2 hv).1.2, (hv2 hv).2.2⟩, hids.1, hids.2,
      h.1, h.2⟩

theorem quiescentConfig_ok {cfg : Option TunnelConfig} (h : ctx.quiescentConfig name cfg = .ok c') :
    cfg = some c' ∧ ctx.findTunnelByName name = none ∧ ctx.findTunnelByID c'.TunnelID = none ∧
      quiescentChecks c' = none := by
  cases cfg with
  | none => cases h
  | some c =>
    simp only [quiescentConfig] at h
    split_ifs at h with hn
    split at h
    · cases h
    rename_i hc
    obtain ⟨rfl, hf⟩ := checkTid_ok h
    exact ⟨rfl, by simpa using hn, hf, hc⟩

theorem staticChecks_none (h : staticChecks c = none) :
    c.Version = ProtocolVersion3 ∧ c.TunnelID ≠ 0 ∧ c.PeerTunnelID ≠ 0 ∧ c.Local ≠ "" ∧ c.Peer ≠ "" := by
  unfold staticChecks at h
  split_ifs at h with h1 h2 h3 h4
  simp only [not_not, not_or] at h1 h2
  exact ⟨h1, h2.1, h2.2, h3, h4⟩

theorem staticConfig_ok {cfg : Option TunnelConfig} (h : ctx.staticConfig name cfg = .ok c') :
    cfg = some c' ∧ ctx.findTunnelByName name = none ∧ ctx.findTunnelByID c'.TunnelID = none ∧
      staticChecks c' = none := by
  cases cfg with
  | none => cases h
  | some c =>
    simp only [staticConfig] at h
    split_ifs at h with hn
    split at h
    · cases h
    rename_i hc
    obtain ⟨rfl, hf⟩ := checkTid_ok h
    exact ⟨rfl, by simpa using hn, hf, hc⟩

/-- The name and the ID each factory files its tunnel under were free. -/
theorem dynamicConfig_free {cfg : Option TunnelConfig} (h : ctx.dynamicConfig env name cfg = .ok c') :
    ctx.findTunnelByName name = none ∧ ctx.findTunnelByID c'.TunnelID = none :=
  let ⟨_, _, hn, hi, _⟩ := dynamicConfig_ok h; ⟨hn, hi⟩

theorem quiescentConfig_free {cfg : Option TunnelConfig} (h : ctx.quiescentConfig name cfg = .ok c') :
    ctx.findTunnelByName name = none ∧ ctx.findTunnelByID c'.TunnelID = none :=
  (quiescentConfig_ok h).2.imp_right And.left

theorem staticConfig_free {cfg : Option TunnelConfig} (h : ctx.staticConfig name cfg = .ok c') :
    ctx.findTunnelByName name = none ∧ ctx.findTunnelByID c'.TunnelID = none :=
  (staticConfig_ok h).2.imp_right And.left

/-- Everything a factory can do: fail with the context untouched, or link
the tunnel `nextRef` built from the prepared config. -/
theorem factory_cases (kind : TunnelKind) (p : Except String TunnelConfig) :
    (∃ e, ctx.factory env kind name p = (ctx, .error e)) ∨
    (∃ c, p = .ok c ∧ ctx.factory env kind name p =
      ({ ctx.linkTunnel ⟨ctx.nextRef, kind, name, c⟩ with nextRef := ctx.nextRef + 1 },
        .ok ⟨ctx.nextRef, kind, name, c⟩)) := by
  cases p with
  | error e => exact .inl ⟨e, rfl⟩
  | ok c =>
    simp only [factory, createTunnel]
    split
    · exact .inl ⟨_, rfl⟩
    · split
      · exact .inl ⟨_, rfl⟩
      · exact .inr ⟨c, rfl, rfl⟩

end Context

/-! ## Frame: what a factory call does to the registry -/

/-- On an error the context is as it was; on success the new tunnel is under
its name and its ID, both free before, and every other entry is unchanged. -/
def FactoryFrame (ctx : Context) (name : String) : Context × Except String Tunnel → Prop
  | (ctx', .error _) => ctx' = ctx
  | (ctx', .ok t) =>
    t.name = name ∧ ctx.tunnels.byName.get? name = none ∧ ctx.tunnels.byID.get? t.tid = none ∧
    (∀ n, ctx'.tunnels.byName.get? n = if n = name then some t else ctx.tunnels.byName.get? n) ∧
    (∀ k, ctx'.tunnels.byID.get? k = if k = t.tid then some t else ctx.tunnels.byID.get? k)

namespace Context

theorem factory_frame {ctx : Context} {env : Env} {kind : TunnelKind} {name : String}
    {p : Except String TunnelConfig}
    (hp : ∀ c, p = .ok c → ctx.findTunnelByName name = none ∧ ctx.findTunnelByID c.TunnelID = none) :
    FactoryFrame ctx name (ctx.factory env kind name p) := by
  rcases @factory_cases ctx env name kind p with ⟨e, he⟩ | ⟨c, rfl, he⟩
  · rw [he]; rfl
  · rw [he]
    obtain ⟨hn, hi⟩ := hp c rfl
    exact ⟨rfl, hn, hi, fun n => by simp [Tunnel.tid], fun k => by simp [Tunnel.tid]⟩

/-- **Factories are all-or-nothing.** Each factory, from any registry state,
with any name, configuration and environment, either fails and leaves the
context as it was, or adds exactly its new tunnel under its name and its
`TunnelID`, both of which were free, and changes no other entry. -/
theorem factories_frame (ctx : Context) (env : Env) (name : String) (cfg : Option TunnelConfig) :
    FactoryFrame ctx name (ctx.newDynamicTunnel env name cfg) ∧
    FactoryFrame ctx name (ctx.newQuiescentTunnel env name cfg) ∧
    FactoryFrame ctx name (ctx.newStaticTunnel env name cfg) :=
  ⟨factory_frame fun _ h => dynamicConfig_free h, factory_frame fun _ h => quiescentConfig_free h,
    factory_frame fun _ h => staticConfig_free h⟩

end Context

/-! ## The configuration passed on to the constructors -/

/-- The rules all three factories enforce: IP encapsulation only for L2TPv3,
16-bit tunnel IDs for L2TPv2. -/
def VersionRules (c : TunnelConfig) : Prop :=
  (c.Encap = EncapTypeIP → c.Version = ProtocolVersion3) ∧
  (c.Version = ProtocolVersion2 → c.TunnelID ≤ 65535 ∧ c.PeerTunnelID ≤ 65535)

namespace Context

/-- **What the factories guarantee of a tunnel's configuration.** Every
configuration a factory passes on satisfies `VersionRules`. A dynamic
tunnel's has no peer ID, keeps a configured `TunnelID`, and has version 2
or 3 when its `TunnelID` was allocated; a quiescent or static tunnel's has
both IDs non-zero, and a static tunnel's is L2TPv3. -/
theorem factories_config {ctx : Context} {env : Env} {name : String} {cfg : Option TunnelConfig}
    {c : TunnelConfig} :
    (ctx.dynamicConfig env name cfg = .ok c → VersionRules c ∧ c.PeerTunnelID = 0 ∧
      ∀ c₀, cfg = some c₀ → (c₀.TunnelID ≠ 0 → c.TunnelID = c₀.TunnelID) ∧
        (c₀.TunnelID = 0 → c.Version = ProtocolVersion2 ∨ c.Version = ProtocolVersion3)) ∧
    (ctx.quiescentConfig name cfg = .ok c → VersionRules c ∧ c.TunnelID ≠ 0 ∧ c.PeerTunnelID ≠ 0) ∧
    (ctx.staticConfig name cfg = .ok c →
      VersionRules c ∧ c.Version = ProtocolVersion3 ∧ c.TunnelID ≠ 0 ∧ c.PeerTunnelID ≠ 0) := by
  refine ⟨fun h => ?_, fun h => ?_, fun h => ?_⟩
  · obtain ⟨c₀, rfl, -, -, he, hv, hp, hver, -, -, -, htid⟩ := dynamicConfig_ok h
    refine ⟨⟨he, fun h2 => ⟨hv h2, by simp [hp]⟩⟩, hp, fun c₁ hc => ?_⟩
    cases hc
    rcases htid with ⟨h0, ht⟩ | ⟨h0, j, hg⟩
    · exact ⟨fun _ => ht, fun h0' => absurd h0' h0⟩
    · refine ⟨fun h0' => absurd h0 h0', fun _ => ?_⟩
      rw [hver]
      rcases generateControlConnID_ok hg with ⟨h2, -⟩ | ⟨h3, -⟩
      · exact .inl h2
      · exact .inr h3
  · obtain ⟨-, -, -, hc⟩ := quiescentConfig_ok h
    obtain ⟨he, hv, ht, hp, -⟩ := quiescentChecks_none hc
    exact ⟨⟨he, hv⟩, ht, hp⟩
  · obtain ⟨-, -, -, hc⟩ := staticConfig_ok h
    obtain ⟨hv, ht, hp, -⟩ := staticChecks_none hc
    exact ⟨⟨fun _ => hv, fun h2 => absurd (h2.symm.trans hv) (by decide)⟩, hv, ht, hp⟩

end Context

/-- Loopback addresses everywhere, the constructors succeed, the PRNG draws 7. -/
def loopbackEnv : Env :=
  ⟨.ok "lac", fun _ => .ok ⟨[127, 0, 0, 1], 9000⟩, fun _ _ _ _ _ => .ok (), fun _ => 7⟩

/-- An L2TPv3 UDP configuration with both IDs given. -/
def v3Cfg : TunnelConfig := ⟨"127.0.0.1:9000", "127.0.0.1:9001", EncapTypeUDP, ProtocolVersion3, 42, 90, "lac", 0⟩

/-- `v3Cfg` with no IDs, for a dynamic tunnel, and what `dynamicConfig` makes
of it in `loopbackEnv`. -/
def v3NoIDs : TunnelConfig := { v3Cfg with TunnelID := 0, PeerTunnelID := 0 }
def v3Allocated : TunnelConfig := { v3NoIDs with TunnelID := 7, StopCCNTimeout := 31 * Second }

theorem factories_config_loopback :
    ((newContext 0).dynamicConfig loopbackEnv "t" (some v3NoIDs) = .ok v3Allocated ∧
      VersionRules v3Allocated) ∧
    ((newContext 0).quiescentConfig "t" (some v3Cfg) = .ok v3Cfg ∧ VersionRules v3Cfg) ∧
    ((newContext 0).staticConfig "t" (some v3Cfg) = .ok v3Cfg ∧ VersionRules v3Cfg) :=
  ⟨⟨rfl, ((@Context.factories_config (newContext 0) loopbackEnv "t" (some v3NoIDs) v3Allocated).1 rfl).1⟩,
    ⟨rfl, ((@Context.factories_config (newContext 0) loopbackEnv "t" (some v3Cfg) v3Cfg).2.1 rfl).1⟩,
    ⟨rfl, ((@Context.factories_config (newContext 0) loopbackEnv "t" (some v3Cfg) v3Cfg).2.2 rfl).1⟩⟩

/-- `v3Cfg` with the version left unset, as a config file without a
`version` key yields. -/
def unsetVersionCfg : TunnelConfig := { v3Cfg with Version := ⟨0⟩ }

/-- `NewQuiescentTunnel` does not check the version: a configuration with
version 0 is passed on and its tunnel linked. -/
theorem quiescent_links_unset_version :
    ∃ ctx' t, (newContext 0).newQuiescentTunnel loopbackEnv "t" (some unsetVersionCfg) = (ctx', .ok t) ∧
      t.cfg.Version ≠ ProtocolVersion2 ∧ t.cfg.Version ≠ ProtocolVersion3 :=
  ⟨_, _, rfl, by decide, by decide⟩

/-- `NewDynamicTunnel` with a configured `TunnelID` does not check the
version either: `dynamicTid` keeps the ID and the version-0 configuration
is passed on and its tunnel linked. -/
theorem dynamic_links_unset_version :
    ∃ ctx' t, (newContext 0).newDynamicTunnel loopbackEnv "t" (some { unsetVersionCfg with PeerTunnelID := 0 }) =
        (ctx', .ok t) ∧
      t.cfg.TunnelID = 42 ∧ t.cfg.Version ≠ ProtocolVersion2 ∧ t.cfg.Version ≠ ProtocolVersion3 :=
  ⟨_, _, rfl, rfl, by decide, by decide⟩

end GoL2tp
