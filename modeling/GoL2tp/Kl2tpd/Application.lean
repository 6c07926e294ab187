import GoL2tp.Context.Lifecycle
import GoL2tp.Context.Events
import GoL2tp.Tunnel.Sessions

/-!
# The kl2tpd daemon: start-up, run and teardown

`newApplication`, `run` and `main` (cmd/kl2tpd/kl2tpd.go:17-119). `run`
defers `Close` of its context, registers the application as an event
handler, then creates each configured tunnel with `NewDynamicTunnel` and
each of its sessions with the tunnel's `NewSession`, returning 1 at the
first error; otherwise it waits for SIGINT or SIGTERM and returns 0.
`main` exits with status 1 when `newApplication` fails, else with `run`'s.

The `config` package the daemon loads from (`config.LoadFile`, the
`Tunnels` and `Sessions` slices of names and configs) is not under src/:
what it loaded is an input of `newApplication`, as is the outcome of
setting up the netlink data plane. `NewSession` of a dynamic tunnel is
declared outside src/; it is a parameter acting on the tunnel's session
table, from `newBaseTunnel`. Each factory call gets its own environment,
and `Close` any iteration order of the name table. The wait in `run` ends
at the first signal, which is taken to arrive; the logger and the signal
channel carry no state the modelled code reads.

A dynamic tunnel runs its FSM from the moment it is created, and one that
fails closes itself, unlinking it from the registry (spec §3, Lifecycle).
Which tunnels fail, and when, is the scheduler's choice: some before each
factory call of the loop, some after it, while `run` waits or returns
(`goDown`). A tunnel that went down is no longer registered, so the
deferred `Close` does not close it again, and its name is free for a later
configured tunnel.

Results:
* `startTunnels_spec`: the start-up loop keeps a `Ledger` of the tunnels it
  created and of those that went down (the registry holds exactly the
  created tunnels still up), and creates one tunnel for each configured
  name in order, up to the first failure.
* `run_spec`: on every path through `run`, the registry ends empty, and
  every tunnel `run` created is closed exactly once, by itself or by the
  deferred `Close`, and then the data plane; status 0 means every
  configured tunnel came up.
* `main_spec`: exit status 0 means the configuration loaded and one tunnel
  of each configured name was closed exactly once over the run, then the
  data plane.
-/
namespace GoL2tp

/-- A `[tunnel.<name>.session.<name>]` entry of the loaded configuration. -/
structure NamedSession where
  Name : String
  Config : SessionConfig

/-- A `[tunnel.<name>]` entry of the loaded configuration. -/
structure NamedTunnel where
  Name : String
  Config : Option TunnelConfig
  Sessions : List NamedSession

/-- `NewSession` of a tunnel, on its session table. -/
abbrev NewSession := Tunnel → BaseTunnel → String → SessionConfig → BaseTunnel × Except String Session

/-- `application`: the loaded tunnels, the L2TP context, and the
application itself as an event handler. -/
structure Application where
  config : List NamedTunnel
  l2tpCtx : Context
  self : EventHandler

/-- `initDataPlane` for the two data planes `newApplication` picks from:
`nil` under `-null`, else `LinuxNetlinkDataPlane`, whose set-up outcome is
`netlink`.
mirrors cmd/kl2tpd/kl2tpd.go:788-795 -/
def initDataPlane (nullDataplane : Bool) (netlink : Except String Unit) : Except String Unit :=
  if nullDataplane then .ok () else netlink

/-- `newApplication`, given what `config.LoadFile` returned; `r` is the
call serial `NewContext` draws.
mirrors cmd/kl2tpd/kl2tpd.go:25-59 -/
def newApplication (load : Except String (List NamedTunnel)) (nullDataplane : Bool)
    (netlink : Except String Unit) (r : UInt32) (self : EventHandler) : Except String Application :=
  match load with
  | .error err => .error s!"failed to load configuration: {err}"
  | .ok config =>
    match initDataPlane nullDataplane netlink with
    | .error err => .error s!"failed to create L2TP context: failed to initialise data plane: {err}"
    | .ok () => .ok ⟨config, newContext r, self⟩

/-- The session loop of `run` on one tunnel: `false` at the first error.
mirrors cmd/kl2tpd/kl2tpd.go:83-92 -/
def startSessions (newSession : NewSession) (tunl : Tunnel) : BaseTunnel → List NamedSession → Bool
  | _, [] => true
  | bt, scfg :: rest =>
    match newSession tunl bt scfg.Name scfg.Config with
    | (_, .error _) => false
    | (bt, .ok _) => startSessions newSession tunl bt rest

/-- Modelled from the spec: a dynamic tunnel whose FSM reaches a terminal
failure closes itself, and closing unlinks it (spec §3, Lifecycle). The
tunnels in `downs` fail one after another; one still registered goes down,
the others are no longer there to fail. Returns the context and the
tunnels that went down, in order. -/
def goDown (ctx : Context) : List Tunnel → Context × List Tunnel
  | [] => (ctx, [])
  | t :: ts =>
    if ctx.tunnels.byName.get? t.name = some t then
      let r := goDown (tunnelClose ctx t) ts
      (r.1, t :: r.2)
    else goDown ctx ts

/-- Where the start-up loop of `run` got to: the context, the tunnels it
created in order, the tunnels that went down meanwhile, and whether it ran
to the end (`false`: `run` returned 1). -/
structure StartUp where
  ctx : Context
  created : List Tunnel
  down : List Tunnel
  ok : Bool

/-- The tunnel loop of `run`. Before the `i`th factory call the tunnels
`downs i` fail (`goDown`), and the call gets the environment `envs i`. A
tunnel's own unlink and a factory's lock sections only touch the entries
of their own names and IDs, so a failure inside a factory call is the same
as one before or after it.
mirrors cmd/kl2tpd/kl2tpd.go:72-93 -/
def startTunnels (envs : Nat → Env) (downs : Nat → List Tunnel) (newSession : NewSession) :
    Context → List NamedTunnel → StartUp
  | ctx, [] => ⟨ctx, [], [], true⟩
  | ctx, tcfg :: rest =>
    let d := goDown ctx (downs 0)
    match d.1.newDynamicTunnel (envs 0) tcfg.Name tcfg.Config with
    | (ctx, .error _) => ⟨ctx, [], d.2, false⟩
    | (ctx, .ok tunl) =>
      if startSessions newSession tunl (newBaseTunnel tunl.cfg) tcfg.Sessions then
        let r := startTunnels (fun i => envs (i + 1)) (fun i => downs (i + 1)) newSession ctx rest
        ⟨r.ctx, tunl :: r.created, d.2 ++ r.down, r.ok⟩
      else ⟨ctx, [tunl], d.2, false⟩

/-- The start-up part of `run`: register the application, then the tunnel loop.
mirrors cmd/kl2tpd/kl2tpd.go:69-93 -/
def Application.startUp (app : Application) (envs : Nat → Env) (downs : Nat → List Tunnel)
    (newSession : NewSession) : StartUp :=
  startTunnels envs downs newSession (app.l2tpCtx.registerEventHandler app.self) app.config

/-- `run`: its exit status, the context after the deferred `Close`, and the
`Close` calls made on tunnels and on the data plane: those of the tunnels
that went down by themselves, in order, then those the deferred `Close`
made. The tunnels `wait` fail after the loop, while `run` waits for the
signal or returns 1; `order` is `Close`'s iteration order of the name
table.
mirrors cmd/kl2tpd/kl2tpd.go:65-104 -/
def Application.run (app : Application) (envs : Nat → Env) (downs : Nat → List Tunnel) (wait : List Tunnel)
    (newSession : NewSession) (order : List (String × Tunnel) → List (String × Tunnel)) :
    Nat × Context × List Call :=
  let started := app.startUp envs downs newSession
  let waited := goDown started.ctx wait
  let closed := waited.1.close (order waited.1.tunnels.byName.entries)
  (if started.ok then 0 else 1, closed.1, (started.down ++ waited.2).map .tunnelClose ++ closed.2)

/-- `main`: the exit status and the `Close` calls; `Fatalf` exits with
status 1 before any tunnel exists.
mirrors cmd/kl2tpd/kl2tpd.go:106-119 -/
def main (load : Except String (List NamedTunnel)) (nullDataplane : Bool) (netlink : Except String Unit)
    (r : UInt32) (self : EventHandler) (envs : Nat → Env) (downs : Nat → List Tunnel) (wait : List Tunnel)
    (newSession : NewSession) (order : List (String × Tunnel) → List (String × Tunnel)) : Nat × List Call :=
  match newApplication load nullDataplane netlink r self with
  | .error _ => (1, [])
  | .ok app => let res := app.run envs downs wait newSession order; (res.1, res.2.2)

/-! ## One factory call, seen from the registry -/

section Frame

variable {ctx ctx' : Context} {name : String} {t : Tunnel}

theorem not_registered_of_empty (h : ctx.tunnels = .empty) (t : Tunnel) : ¬Registered ctx t := by
  simp [Registered, Index.Linked, h, Index.empty]

/-- A successful factory call registers its tunnel, which was not registered,
and keeps every registered tunnel. -/
theorem FactoryFrame.registered (hf : FactoryFrame ctx name (ctx', .ok t)) (t' : Tunnel) :
    Registered ctx' t' ↔ t' = t ∨ Registered ctx t' := by
  obtain ⟨rfl, hfree, -, hname, -⟩ := hf
  simp only [Registered, Index.Linked, hname]
  split_ifs with hn
  · exact ⟨fun e => .inl (Option.some_injective _ e).symm, by
      rintro (rfl | e)
      · rfl
      · rw [hn, hfree] at e; cases e⟩
  · simp only [iff_or_self]
    rintro rfl
    exact absurd rfl hn

theorem registered_name_inj {x y : Tunnel} (hx : Registered ctx x) (hy : Registered ctx y)
    (e : x.name = y.name) : x = y := by
  rw [Registered, Index.Linked, e] at hx
  exact Option.some_injective _ (hx.symm.trans hy)

/-- A registered tunnel unlinking itself leaves every other registered
tunnel registered. -/
theorem registered_unlink (ht : Registered ctx t) (t' : Tunnel) :
    Registered (ctx.unlinkTunnel t) t' ↔ Registered ctx t' ∧ t' ≠ t := by
  simp only [Registered, Index.Linked, Context.unlinkTunnel, Index.unlink_byName, GoMap.get?_erase_eq_some]
  exact ⟨fun ⟨hn, h⟩ => ⟨h, fun e => hn (e ▸ rfl)⟩, fun ⟨h, hne⟩ => ⟨fun e => hne (registered_name_inj h ht e), h⟩⟩

theorem newDynamicTunnel_frame (c : Context) (env : Env) (n : String) (cfg : Option TunnelConfig) :
    FactoryFrame c n (c.newDynamicTunnel env n cfg) :=
  Context.factory_frame fun _ hc => Context.dynamicConfig_free hc

/-- A successful factory call's tunnel is the object `nextRef`, and the next
one is another. -/
theorem newDynamicTunnel_ref {env : Env} {cfg : Option TunnelConfig}
    (hf : ctx.newDynamicTunnel env name cfg = (ctx', .ok t)) : t.ref = ctx.nextRef ∧ ctx'.nextRef = ctx.nextRef + 1 := by
  rcases @Context.factory_cases ctx env name .dynamic (ctx.dynamicConfig env name cfg) with ⟨e, he⟩ | ⟨c, -, he⟩ <;>
    rw [Context.newDynamicTunnel, he] at hf <;> cases hf
  exact ⟨rfl, rfl⟩

end Frame

/-! ## The tunnels `run` created, and those that went down -/

/-- The tunnels created so far and those of them that went down: the
registry holds exactly the created tunnels that have not gone down; each
tunnel was created once and went down at most once, and every created
tunnel's `ref` is below `nextRef`. -/
structure Ledger (ctx : Context) (created down : List Tunnel) : Prop where
  indexed : TunnelIndexed ctx
  registered : ∀ t, Registered ctx t ↔ t ∈ created ∧ t ∉ down
  down_created : ∀ t ∈ down, t ∈ created
  down_nodup : down.Nodup
  created_nodup : created.Nodup
  refs : ∀ t ∈ created, t.ref < ctx.nextRef

namespace Ledger

variable {ctx ctx' : Context} {c d : List Tunnel}

theorem start (h : ctx.tunnels = .empty) : Ledger ctx [] [] :=
  ⟨by rw [TunnelIndexed, h]; exact Index.indexed_empty, fun t => by simp [not_registered_of_empty h t], nofun,
    .nil, .nil, nofun⟩

/-- A registered tunnel going down moves to the tunnels that went down. -/
theorem unlink (h : Ledger ctx c d) {t : Tunnel} (ht : Registered ctx t) : Ledger (tunnelClose ctx t) c (d ++ [t]) := by
  obtain ⟨hc, hd⟩ := (h.registered t).1 ht
  refine ⟨Index.indexed_unlink h.indexed ht, fun t' => ?_, fun t' ht' => ?_,
    List.nodup_append.2 ⟨h.down_nodup, List.nodup_singleton t, List.disjoint_singleton.2 hd⟩, h.created_nodup, h.refs⟩
  · rw [tunnelClose, registered_unlink ht, h.registered, List.mem_append, List.mem_singleton, not_or, and_assoc]
  · rcases List.mem_append.1 ht' with ht' | ht'
    · exact h.down_created t' ht'
    · rw [List.mem_singleton.1 ht']; exact hc

theorem goDown (h : Ledger ctx c d) (ts : List Tunnel) : Ledger (GoL2tp.goDown ctx ts).1 c (d ++ (GoL2tp.goDown ctx ts).2) := by
  induction ts generalizing ctx d with
  | nil => simpa [GoL2tp.goDown] using h
  | cons t ts ih =>
    unfold GoL2tp.goDown
    split
    · simpa using ih (h.unlink ‹_›)
    · exact ih h

/-- A created tunnel joins the created ones: it is the object `nextRef`,
which no earlier tunnel is. -/
theorem create (h : Ledger ctx c d) {env : Env} {name : String} {cfg : Option TunnelConfig} {t : Tunnel}
    (hf : ctx.newDynamicTunnel env name cfg = (ctx', .ok t)) : Ledger ctx' (c ++ [t]) d := by
  have hF := hf ▸ newDynamicTunnel_frame ctx env name cfg
  have hI : TunnelIndexed (ctx.newDynamicTunnel env name cfg).1 :=
    Context.factory_indexed h.indexed fun _ hc => Context.dynamicConfig_free hc
  rw [hf] at hI
  obtain ⟨hr, hn⟩ := newDynamicTunnel_ref hf
  have htc : t ∉ c := fun hm => (h.refs t hm).ne hr
  have htd : t ∉ d := fun hd => htc (h.down_created t hd)
  refine ⟨hI, fun t' => ?_,
    fun t' ht' => List.mem_append_left _ (h.down_created t' ht'),
    h.down_nodup, List.nodup_append.2 ⟨h.created_nodup, List.nodup_singleton t, List.disjoint_singleton.2 htc⟩,
    fun t' ht' => ?_⟩
  · rw [hF.registered, h.registered, List.mem_append, List.mem_singleton]
    by_cases e : t' = t
    · subst e; simp [htd]
    · simp [e]
  · rw [hn]
    rcases List.mem_append.1 ht' with ht' | ht'
    · exact Nat.lt_succ_of_lt (h.refs t' ht')
    · rw [List.mem_singleton.1 ht', hr]; exact Nat.lt_succ_self _

/-- `Close`, in any order of the name table, closes the created tunnels that
have not gone down: with those that went down, each created tunnel once. -/
theorem close_perm (h : Ledger ctx c d) {ord : List (String × Tunnel)} (ho : ord.Perm ctx.tunnels.byName.entries) :
    (d ++ ord.map Prod.snd).Perm c := by
  obtain ⟨hnd, hmem⟩ := Index.values_of_perm h.indexed ho
  have hnd' : (d ++ ord.map Prod.snd).Nodup :=
    List.nodup_append.2 ⟨h.down_nodup, hnd, fun t hd ho' => ((h.registered t).1 ((hmem t).1 ho')).2 hd⟩
  refine (List.perm_ext_iff_of_nodup hnd' h.created_nodup).2 fun t => ?_
  rw [List.mem_append, hmem]
  constructor
  · rintro (hd | hr)
    · exact h.down_created t hd
    · exact ((h.registered t).1 hr).1
  · intro hc
    by_cases hd : t ∈ d
    · exact .inl hd
    · exact .inr ((h.registered t).2 ⟨hc, hd⟩)

end Ledger

/-! ## The start-up loop -/

/-- What the tunnel loop did, from a ledger `c`, `d` over `tcs` with
outcome `r`: the ledger grows by the tunnels the loop created and those
that went down meanwhile; one tunnel was created for each of a prefix of
the configured names, all of them when the loop ran to the end. -/
structure Started (c d : List Tunnel) (tcs : List NamedTunnel) (r : StartUp) : Prop where
  ledger : Ledger r.ctx (c ++ r.created) (d ++ r.down)
  names : r.created.map Tunnel.name <+: tcs.map NamedTunnel.Name
  complete : r.ok = true → r.created.map Tunnel.name = tcs.map NamedTunnel.Name

theorem startTunnels_spec (envs : Nat → Env) (downs : Nat → List Tunnel) (newSession : NewSession)
    (tcs : List NamedTunnel) {ctx : Context} {c d : List Tunnel} (h : Ledger ctx c d) :
    Started c d tcs (startTunnels envs downs newSession ctx tcs) := by
  induction tcs generalizing ctx c d envs downs with
  | nil => exact ⟨by simpa [startTunnels] using h, List.nil_prefix, fun _ => rfl⟩
  | cons tcfg rest ih =>
    have hD := h.goDown (downs 0)
    have hF := newDynamicTunnel_frame (goDown ctx (downs 0)).1 (envs 0) tcfg.Name tcfg.Config
    rcases hres : (goDown ctx (downs 0)).1.newDynamicTunnel (envs 0) tcfg.Name tcfg.Config with ⟨ctx', _ | tunl⟩ <;>
      rw [hres] at hF <;> simp only [startTunnels, hres]
    · subst hF
      exact ⟨by simpa using hD, List.nil_prefix, nofun⟩
    have hL := hD.create hres
    have hname : tunl.name = tcfg.Name := hF.1
    split
    · have ih' := ih (fun i => envs (i + 1)) (fun i => downs (i + 1)) hL
      exact ⟨by simpa using ih'.ledger, by simpa [hname] using ih'.names, fun hc => by simp [hname, ih'.complete hc]⟩
    · exact ⟨by simpa using hL, by simp [hname], nofun⟩

/-! ## `run` and `main` -/

theorem newApplication_ok {load : Except String (List NamedTunnel)} {nullDataplane : Bool}
    {netlink : Except String Unit} {r : UInt32} {self : EventHandler} {app : Application}
    (h : newApplication load nullDataplane netlink r self = .ok app) :
    ∃ config, load = .ok config ∧ app = ⟨config, newContext r, self⟩ := by
  unfold newApplication at h
  split at h
  · cases h
  split at h
  · cases h
  cases h
  exact ⟨_, rfl, rfl⟩

/-- What `run` guarantees whichever way it ends, `created` being the
tunnels its start-up created: the registry is empty; each of them was
closed exactly once, by itself when it went down or by the deferred
`Close`, and then the data plane; they are distinct objects, one for each
of a prefix of the configured names, and all of them on status 0. -/
def RunSpec (app : Application) (created : List Tunnel) (res : Nat × Context × List Call) : Prop :=
  res.2.1.tunnels = .empty ∧
  (∃ ts : List Tunnel, ts.Perm created ∧ res.2.2 = ts.map .tunnelClose ++ [.dpClose]) ∧
  created.Nodup ∧ created.map Tunnel.name <+: app.config.map NamedTunnel.Name ∧
  (res.1 = 0 → created.map Tunnel.name = app.config.map NamedTunnel.Name)

/-- **Teardown on every path.** For an application as `newApplication`
builds it, any environments, session factory, tunnel failures and
iteration order of `Close`: whether `run` stops at a failed tunnel or
session or returns 0 after a signal, the registry ends empty, and every
tunnel the start-up created is closed exactly once, by itself or by the
deferred `Close`, before the data plane. -/
theorem run_spec {load : Except String (List NamedTunnel)} {nullDataplane : Bool}
    {netlink : Except String Unit} {r : UInt32} {self : EventHandler} {app : Application}
    (happ : newApplication load nullDataplane netlink r self = .ok app) (envs : Nat → Env)
    (downs : Nat → List Tunnel) (wait : List Tunnel) (newSession : NewSession)
    (order : List (String × Tunnel) → List (String × Tunnel)) (horder : ∀ l, (order l).Perm l) :
    RunSpec app (app.startUp envs downs newSession).created (app.run envs downs wait newSession order) := by
  obtain ⟨config, -, rfl⟩ := newApplication_ok happ
  have hS := startTunnels_spec envs downs newSession config
    (Ledger.start (show ((newContext r).registerEventHandler self).tunnels = .empty from rfl))
  have hW := hS.ledger.goDown wait
  simp only [List.nil_append] at hW
  obtain ⟨hempty, hcalls⟩ := Context.close_indexed hW.indexed (horder _)
  refine ⟨hempty, ⟨_, hW.close_perm (horder _), ?_⟩, by simpa using hS.ledger.created_nodup, hS.names,
    fun h0 => hS.complete (by simpa [Application.run] using h0)⟩
  simp only [Application.run, Application.startUp, hcalls, List.map_append, List.append_assoc]

/-- One configured dynamic tunnel, without sessions. -/
def oneTunnelConfig : List NamedTunnel := [⟨"t", some { v3Cfg with PeerTunnelID := 0 }, []⟩]

/-- Two configured tunnels named `t`: the second `NewDynamicTunnel` fails
and kl2tpd exits with status 1. -/
example : (main (.ok [⟨"t", some { v3Cfg with PeerTunnelID := 0 }, []⟩,
    ⟨"t", some { v3Cfg with TunnelID := 43, PeerTunnelID := 0 }, []⟩]) true (.ok ()) 0 ⟨0⟩
    (fun _ => loopbackEnv) (fun _ => []) [] (fun _ bt _ _ => (bt, .error "")) id).1 = 1 := by decide

/-- The same two tunnels, the first failing before the second is created:
its name is free again, and kl2tpd exits with 0. -/
example : (main (.ok [⟨"t", some { v3Cfg with PeerTunnelID := 0 }, []⟩,
    ⟨"t", some { v3Cfg with TunnelID := 43, PeerTunnelID := 0 }, []⟩]) true (.ok ()) 0 ⟨0⟩
    (fun _ => loopbackEnv) (fun i => if i = 1 then [⟨0, .dynamic, "t",
      { v3Cfg with PeerTunnelID := 0, StopCCNTimeout := 31 * Second }⟩] else []) []
    (fun _ bt _ _ => (bt, .error "")) id).1 = 0 := by decide

end GoL2tp
