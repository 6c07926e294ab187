import GoL2tp.Core.Lts
import GoL2tp.Context.Factory

/-!
# The registry over whole runs, and `Context.Close`

The calls that change a context's tunnel tables, run one at a time: the
three factories (any name, configuration and environment), `unlinkTunnel`
of a registered tunnel (what a tunnel does when it goes down), and `Close`
(cmd/kl2tpd/kl2tpd.go:604-621) in any iteration order of `tunnelsByName`.

`Close` collects and deletes every tunnel under the lock, then closes each
collected tunnel and finally the data plane. The tunnels' own `Close` is
declared outside src/; per the spec a closed tunnel unlinks itself
(`tunnelClose`). The calls made on tunnels and on the data plane are
returned as a list of `Call`s, in order.

Results:
* `registry_consistent`: in every reachable state the two tables index one
  set of tunnels (`Index.Indexed`); hence names and IDs are unique among
  registered tunnels, each lookup returns exactly the registered tunnel with
  that key, and unlinking a tunnel frees its name and ID.
* `close_spec`: from every reachable state and in every iteration order,
  `Close` closes each registered tunnel exactly once and no other, leaves
  both tables empty, and closes the data plane once, last.
-/
namespace GoL2tp

/-- A call `Close` makes outside the registry. -/
inductive Call where
  | tunnelClose (t : Tunnel)
  | dpClose
  deriving DecidableEq, Repr

/-- Modelled from the spec: `Close` of the three tunnel flavours is declared
outside src/; a tunnel being closed unlinks itself from its context
(spec §3, Lifecycle). -/
def tunnelClose (ctx : Context) (t : Tunnel) : Context := ctx.unlinkTunnel t

/-- `t` is registered: it is the tunnel filed under its name. -/
def Registered (ctx : Context) (t : Tunnel) : Prop := Index.Linked Tunnel.name ctx.tunnels t

namespace Context

/-- `Close`, ranging over `tunnelsByName` in the order `ord`.
mirrors cmd/kl2tpd/kl2tpd.go:604-621 -/
def close (ctx : Context) (ord : List (String × Tunnel)) : Context × List Call :=
  let d := ctx.tunnels.drain Tunnel.tid ord
  (d.2.foldl tunnelClose { ctx with tunnels := d.1 }, d.2.map .tunnelClose ++ [.dpClose])

end Context

/-- One call on a context, run to completion. -/
inductive Op where
  | newDynamicTunnel (env : Env) (name : String) (cfg : Option TunnelConfig)
  | newQuiescentTunnel (env : Env) (name : String) (cfg : Option TunnelConfig)
  | newStaticTunnel (env : Env) (name : String) (cfg : Option TunnelConfig)
  | unlinkTunnel (t : Tunnel)
  | close (ord : List (String × Tunnel))

/-- The effect of one call; `unlinkTunnel` is only made on a registered
tunnel, and `Close` ranges over the whole name table. -/
def Op.step (ctx : Context) : Op → Context → Prop
  | .newDynamicTunnel env name cfg, ctx' => ctx' = (ctx.newDynamicTunnel env name cfg).1
  | .newQuiescentTunnel env name cfg, ctx' => ctx' = (ctx.newQuiescentTunnel env name cfg).1
  | .newStaticTunnel env name cfg, ctx' => ctx' = (ctx.newStaticTunnel env name cfg).1
  | .unlinkTunnel t, ctx' => Registered ctx t ∧ ctx' = ctx.unlinkTunnel t
  | .close ord, ctx' => ord.Perm ctx.tunnels.byName.entries ∧ ctx' = (ctx.close ord).1

/-- Contexts under sequential calls, from `NewContext` with any call serial. -/
def sequential : LTS Context Op := ⟨fun ctx => ∃ r, ctx = newContext r, fun s a s' => a.step s s'⟩

theorem sequential_init (r : UInt32) : sequential.Reachable (newContext r) := .init ⟨r, rfl⟩

/-! ## The invariant -/

abbrev TunnelIndexed (ctx : Context) : Prop := Index.Indexed Tunnel.name Tunnel.tid ctx.tunnels

namespace Context

theorem factory_indexed {ctx : Context} {env : Env} {kind : TunnelKind} {name : String}
    {p : Except String TunnelConfig} (h : TunnelIndexed ctx)
    (hp : ∀ c, p = .ok c → ctx.findTunnelByName name = none ∧ ctx.findTunnelByID c.TunnelID = none) :
    TunnelIndexed (ctx.factory env kind name p).1 := by
  rcases @factory_cases ctx env name kind p with ⟨e, he⟩ | ⟨c, rfl, he⟩
  · rw [he]; exact h
  · rw [he]
    obtain ⟨hn, hi⟩ := hp c rfl
    exact Index.indexed_link h hn hi

theorem foldl_tunnelClose_empty (ts : List Tunnel) (ctx : Context) (h : ctx.tunnels = .empty) :
    (ts.foldl tunnelClose ctx).tunnels = .empty := by
  induction ts generalizing ctx with
  | nil => exact h
  | cons t ts ih =>
    apply ih
    simp only [tunnelClose, unlinkTunnel_tunnels, h]
    exact Index.ext (GoMap.eq_empty fun _ => by simp [Index.empty])
      (GoMap.eq_empty fun _ => by simp [Index.empty])

/-- From an indexed context, `Close` in any order of the name table empties
both tables and closes the collected tunnels, then the data plane. -/
theorem close_indexed {ctx : Context} (h : TunnelIndexed ctx) {ord : List (String × Tunnel)}
    (ho : ord.Perm ctx.tunnels.byName.entries) :
    (ctx.close ord).1.tunnels = .empty ∧
    (ctx.close ord).2 = (ord.map Prod.snd).map Call.tunnelClose ++ [Call.dpClose] := by
  obtain ⟨h1, h2⟩ := Index.drain_indexed h ho
  exact ⟨foldl_tunnelClose_empty _ _ h1, by simp only [close, h2]⟩

end Context

theorem sequential_indexed : sequential.Inductive TunnelIndexed where
  init := by rintro _ ⟨r, rfl⟩; exact Index.indexed_empty
  step := by
    intro ctx op ctx' h hs
    cases op with
    | newDynamicTunnel env name cfg =>
      rw [hs]
      exact Context.factory_indexed h fun _ hc => Context.dynamicConfig_free hc
    | newQuiescentTunnel env name cfg =>
      rw [hs]
      exact Context.factory_indexed h fun _ hc => Context.quiescentConfig_free hc
    | newStaticTunnel env name cfg =>
      rw [hs]
      exact Context.factory_indexed h fun _ hc => Context.staticConfig_free hc
    | unlinkTunnel t =>
      obtain ⟨ht, rfl⟩ := hs
      exact Index.indexed_unlink h ht
    | close ord =>
      obtain ⟨ho, rfl⟩ := hs
      rw [TunnelIndexed, (Context.close_indexed h ho).1]
      exact Index.indexed_empty

/-! ## Consistency of the registry -/

/-- The registry's two tables index one set of tunnels; names and IDs are
unique among registered tunnels; each lookup returns exactly the registered
tunnel with that key; unlinking a registered tunnel frees its name and ID. -/
def RegistryConsistent (ctx : Context) : Prop :=
  (∀ n t, ctx.tunnels.byName.get? n = some t ↔ t.name = n ∧ ctx.tunnels.byID.get? t.tid = some t) ∧
  (∀ k t, ctx.tunnels.byID.get? k = some t ↔ t.tid = k ∧ ctx.tunnels.byName.get? t.name = some t) ∧
  (∀ t₁ t₂, Registered ctx t₁ → Registered ctx t₂ → t₁.name = t₂.name ∨ t₁.tid = t₂.tid → t₁ = t₂) ∧
  (∀ n t, ctx.findTunnelByName n = some t ↔ Registered ctx t ∧ t.name = n) ∧
  (∀ k t, ctx.findTunnelByID k = some t ↔ Registered ctx t ∧ t.tid = k) ∧
  (∀ t, Registered ctx t → sequential.Reachable (ctx.unlinkTunnel t) ∧
    (ctx.unlinkTunnel t).findTunnelByName t.name = none ∧
    (ctx.unlinkTunnel t).findTunnelByID t.tid = none)

/-- **Registry consistency.** In every context reachable by sequential
factory calls, unlinks and closes, `tunnelsByName` and `tunnelsByID` index
the same set of tunnels, with the consequences `RegistryConsistent` lists. -/
theorem registry_consistent {ctx : Context} (h : sequential.Reachable ctx) : RegistryConsistent ctx := by
  have hI : TunnelIndexed ctx := sequential_indexed.reachable h
  refine ⟨hI.byName_iff, hI.byID_iff, fun t₁ t₂ h₁ h₂ he => ?_, fun n t => ?_, fun k t => ?_,
    fun t ht => ⟨h.next (.unlinkTunnel t) ⟨ht, rfl⟩, by simp [Context.findTunnelByName], by simp [Context.findTunnelByID]⟩⟩
  · have h₁' : ctx.tunnels.byName.get? t₁.name = some t₁ := h₁
    have h₂' : ctx.tunnels.byName.get? t₂.name = some t₂ := h₂
    rcases he with he | he
    · rw [he, h₂'] at h₁'; exact (Option.some.inj h₁').symm
    · have := hI.byID_of_linked h₁
      rw [he, hI.byID_of_linked h₂] at this; exact (Option.some.inj this).symm
  · constructor
    · intro hf
      have hn := hI.byName_key n t hf
      exact ⟨show ctx.tunnels.byName.get? t.name = some t by rw [hn]; exact hf, hn⟩
    · rintro ⟨ht, rfl⟩; exact ht
  · simp only [Context.findTunnelByID, hI.byID_iff]
    exact ⟨fun ⟨hk, ht⟩ => ⟨ht, hk⟩, fun ⟨ht, hk⟩ => ⟨hk, ht⟩⟩

/-- The context after one static tunnel is created in `loopbackEnv`. -/
def oneTunnel : Context := ((newContext 0).newStaticTunnel loopbackEnv "t" (some v3Cfg)).1

theorem oneTunnel_reachable : sequential.Reachable oneTunnel :=
  (sequential_init 0).next (.newStaticTunnel loopbackEnv "t" (some v3Cfg)) rfl

theorem registry_consistent_oneTunnel : sequential.Reachable oneTunnel ∧ RegistryConsistent oneTunnel :=
  ⟨oneTunnel_reachable, registry_consistent oneTunnel_reachable⟩

/-! ## `Close` -/

/-- `Close` in iteration order `ord` empties both tables, closes each
registered tunnel exactly once and no other, and the data plane once, last. -/
def CloseSpec (ctx : Context) (ord : List (String × Tunnel)) : Prop :=
  (ctx.close ord).1.tunnels = .empty ∧
  ∃ ts : List Tunnel, ts.Nodup ∧ (∀ t, t ∈ ts ↔ Registered ctx t) ∧
    (ctx.close ord).2 = ts.map Call.tunnelClose ++ [Call.dpClose]

/-- **Closing a context.** From every context reachable by sequential calls,
and whatever order the runtime ranges over `tunnelsByName` in, `Close`
calls `Close` once on each registered tunnel and on no other, leaves both
tables empty, and calls the data plane's `Close` once, after every tunnel's. -/
theorem close_spec {ctx : Context} (h : sequential.Reachable ctx) {ord : List (String × Tunnel)}
    (ho : ord.Perm ctx.tunnels.byName.entries) : CloseSpec ctx ord := by
  have hI : TunnelIndexed ctx := sequential_indexed.reachable h
  obtain ⟨h1, h2⟩ := Context.close_indexed hI ho
  obtain ⟨hnd, hmem⟩ := Index.values_of_perm hI ho
  exact ⟨h1, _, hnd, hmem, h2⟩

theorem close_spec_oneTunnel :
    sequential.Reachable oneTunnel ∧ oneTunnel.tunnels.byName.entries.Perm oneTunnel.tunnels.byName.entries ∧
      CloseSpec oneTunnel oneTunnel.tunnels.byName.entries :=
  ⟨oneTunnel_reachable, .refl _, close_spec oneTunnel_reachable (.refl _)⟩

end GoL2tp
