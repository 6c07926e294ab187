import GoL2tp.Context.Concurrent

/-!
# Every registered tunnel passed its flavour's checks, under every interleaving

The three factories check a tunnel's configuration in two kinds of
sections. The sanity checks (`dynamicChecks`, `quiescentChecks`,
`staticChecks`, cmd/kl2tpd/kl2tpd.go:348-362, :436-457, :521-534) read only
the goroutine's own copy `myCfg`; the name and TID checks read the tables,
under a lock released before `linkTunnel` (:366-368), which is the race of
`check_link_race`. This module shows the race stops at the table checks:
whatever goroutines run on a context and however their lock sections
interleave, every tunnel in either table passed the sanity checks of its own
flavour, on the configuration it was linked with. For a dynamic tunnel that
configuration carries the allocated `TunnelID`, which `generateControlConnID`
keeps within 16 bits for L2TPv2 (`dynamicChecks_alloc`).

A goroutine that has passed its sanity checks carries them to its link
(`FactoryPc.Rules`); the invariant `SysRules` is that, for every goroutine,
together with the checks of every tunnel in the tables. Linking adds a
checked tunnel; unlinking, `Close`'s drain and the tunnels' own `Close`
only remove.

Results: `factories_reject_v2_range` (one factory call: an L2TPv2
configuration with an ID beyond 16 bits is refused, the context untouched);
`tables_checked` (in every reachable state of goroutines that start fresh,
every tunnel in `tunnelsByName` or `tunnelsByID` passed its flavour's
checks, and so keeps the version rules).
-/
namespace GoL2tp

namespace Context

/-- The sanity checks of a flavour's factory. -/
def flavourChecks : TunnelKind → TunnelConfig → Option String
  | .dynamic => dynamicChecks
  | .quiescent => quiescentChecks
  | .static => staticChecks

/-- Allocating a `TunnelID` keeps a dynamic tunnel's checks passed: an
L2TPv2 ID is the low 16 bits of the draw. -/
theorem dynamicChecks_alloc {c : TunnelConfig} {r id : UInt32} (hc : dynamicChecks c = none)
    (hg : generateControlConnID c.Version r = .ok id) : dynamicChecks { c with TunnelID := id } = none := by
  have hid : c.Version = ProtocolVersion2 → ¬65535 < id := fun h2 => by
    rcases generateControlConnID_ok hg with ⟨-, hle⟩ | ⟨h3, -⟩
    · rw [u32_lt_iff]; simpa using hle
    · exact absurd (h2.symm.trans h3) (by decide)
  unfold dynamicChecks at hc ⊢
  simp only [ite_some_eq_none] at hc ⊢
  exact ⟨hc.1, fun h => hid h.1 h.2, hc.2.2⟩

/-- A configuration past its flavour's checks keeps the version rules. -/
theorem flavourChecks_versionRules {kind : TunnelKind} {c : TunnelConfig} (h : flavourChecks kind c = none) :
    VersionRules c := by
  cases kind with
  | dynamic =>
    obtain ⟨he, hv, hp, -⟩ := dynamicChecks_none h
    exact ⟨he, fun h2 => ⟨hv h2, by simp [hp]⟩⟩
  | quiescent =>
    obtain ⟨he, hv, -⟩ := quiescentChecks_none h
    exact ⟨he, hv⟩
  | static =>
    obtain ⟨hv, -⟩ := staticChecks_none h
    exact ⟨fun _ => hv, fun h2 => absurd (h2.symm.trans hv) (by decide)⟩

/-- A prepared configuration that never comes: the factory fails and leaves
the context as it was. -/
theorem factory_error {ctx : Context} {env : Env} {kind : TunnelKind} {name : String}
    {p : Except String TunnelConfig} (h : ∀ c, p ≠ .ok c) : ∃ e, ctx.factory env kind name p = (ctx, .error e) :=
  (factory_cases kind p).resolve_right fun ⟨c, hc, _⟩ => h c hc

/-- **An L2TPv2 ID out of range is refused.** From any context, with any name
and environment, each factory given an L2TPv2 configuration whose `TunnelID`
or `PeerTunnelID` does not fit in 16 bits fails and leaves the context as it
was: no tunnel is linked. -/
theorem factories_reject_v2_range {ctx : Context} {env : Env} {name : String} {c : TunnelConfig}
    (hv : c.Version = ProtocolVersion2) (hr : 65535 < c.TunnelID ∨ 65535 < c.PeerTunnelID) :
    (∃ e, ctx.newDynamicTunnel env name (some c) = (ctx, .error e)) ∧
    (∃ e, ctx.newQuiescentTunnel env name (some c) = (ctx, .error e)) ∧
    (∃ e, ctx.newStaticTunnel env name (some c) = (ctx, .error e)) := by
  have bad : ∀ kind (c' : TunnelConfig), c'.Version = c.Version → c'.TunnelID = c.TunnelID →
      c'.PeerTunnelID = c.PeerTunnelID → flavourChecks kind c' ≠ none := fun kind c' h1 h2 h3 hc => by
    have := (flavourChecks_versionRules hc).2 (h1.trans hv)
    rw [h2, h3, u32_le_iff, u32_le_iff] at this
    rw [u32_lt_iff, u32_lt_iff] at hr
    omega
  refine ⟨factory_error fun c' h => ?_, factory_error fun c' h => ?_, factory_error fun c' h => ?_⟩
  · simp only [dynamicConfig] at h
    split_ifs at h
    split at h
    · cases h
    rename_i myCfg hd
    obtain ⟨hn, t, rfl⟩ := dynamicDefaults_ok hd
    split at h
    · cases h
    rename_i hc
    exact bad .dynamic _ rfl rfl rfl hc
  · obtain ⟨hc, -, -, hch⟩ := quiescentConfig_ok h
    cases hc
    exact bad .quiescent c rfl rfl rfl hch
  · obtain ⟨hc, -, -, hch⟩ := staticConfig_ok h
    cases hc
    exact bad .static c rfl rfl rfl hch

/-- An L2TPv2 configuration with `TunnelID` 70000. -/
theorem factories_reject_v2_tid70000 :
    (∃ e, (newContext 0).newDynamicTunnel loopbackEnv "t"
      (some { v3Cfg with Version := ProtocolVersion2, TunnelID := 70000 }) = (newContext 0, .error e)) ∧
    (∃ e, (newContext 0).newQuiescentTunnel loopbackEnv "t"
      (some { v3Cfg with Version := ProtocolVersion2, TunnelID := 70000 }) = (newContext 0, .error e)) ∧
    (∃ e, (newContext 0).newStaticTunnel loopbackEnv "t"
      (some { v3Cfg with Version := ProtocolVersion2, TunnelID := 70000 }) = (newContext 0, .error e)) :=
  factories_reject_v2_range rfl (.inl (by decide))

end Context

/-! ## The tables -/

/-- Every tunnel in either table passed its flavour's checks. -/
structure TablesChecked (ctx : Context) : Prop where
  byName : ∀ n t, ctx.tunnels.byName.get? n = some t → Context.flavourChecks t.kind t.cfg = none
  byID : ∀ k t, ctx.tunnels.byID.get? k = some t → Context.flavourChecks t.kind t.cfg = none

namespace TablesChecked

variable {ctx : Context}

theorem linkTunnel (h : TablesChecked ctx) {t : Tunnel} (ht : Context.flavourChecks t.kind t.cfg = none) :
    TablesChecked (ctx.linkTunnel t) :=
  ⟨GoMap.forall_insert h.byName ht _, GoMap.forall_insert h.byID ht _⟩

theorem unlinkTunnel (h : TablesChecked ctx) (t : Tunnel) : TablesChecked (ctx.unlinkTunnel t) :=
  ⟨GoMap.forall_erase h.byName _, GoMap.forall_erase h.byID _⟩

theorem drain (h : TablesChecked ctx) (ord : List (String × Tunnel)) :
    TablesChecked { ctx with tunnels := (ctx.tunnels.drain Tunnel.tid ord).1 } where
  byName n x hx := by
    simp only [Index.drain_byName] at hx
    split_ifs at hx
    exact h.byName n x hx
  byID k x hx := by
    simp only [Index.drain_byID] at hx
    split_ifs at hx
    exact h.byID k x hx

theorem createTunnel (h : TablesChecked ctx) (env : Env) {kind : TunnelKind} (name : String) {c : TunnelConfig}
    (hc : Context.flavourChecks kind c = none) : TablesChecked (ctx.createTunnel env kind name c).1 := by
  rw [show ctx.createTunnel env kind name c = ctx.factory env kind name (.ok c) from rfl]
  rcases @Context.factory_cases ctx env name kind (.ok c) with ⟨e, he⟩ | ⟨c', hc', he⟩
  · rw [he]; exact h
  · cases hc'
    rw [he]
    exact ⟨(h.linkTunnel hc).byName, (h.linkTunnel hc).byID⟩

theorem closerStep (h : TablesChecked ctx) {ord : List (String × Tunnel)} {pc pc' : CloserPc}
    {calls : List Call} {ctx' : Context} (hs : ctx.closerStep ord pc = some (ctx', pc', calls)) :
    TablesChecked ctx' := by
  unfold Context.closerStep at hs
  split at hs
  · split_ifs at hs; cases hs; exact h.drain ord
  · cases hs; exact h.unlinkTunnel _
  · cases hs; exact h
  · cases hs

end TablesChecked

/-! ## The goroutines -/

/-- What a factory goroutine carries to its next section: a configuration
past its flavour's checks, or, before an allocation attempt, a dynamic
tunnel's configuration past its checks. -/
def FactoryPc.Rules (kind : TunnelKind) : FactoryPc → Prop
  | .tidCheck c => Context.flavourChecks kind c = none
  | .alloc c _ _ => kind = .dynamic ∧ Context.dynamicChecks c = none
  | .link c => Context.flavourChecks kind c = none
  | .start _ => True
  | .done _ => True

def Thread.Rules : Thread → Prop
  | .factory kind _ _ pc => pc.Rules kind
  | _ => True

/-- The goroutine has not run: a factory before its name check, `Close`
before its loop, a tunnel not yet closed. -/
def Thread.fresh : Thread → Bool
  | .factory _ _ _ (.start _) => true
  | .closer .start => true
  | .closeTunnel _ false => true
  | _ => false

theorem Thread.rules_of_fresh {th : Thread} (h : th.fresh = true) : th.Rules := by
  rcases th with ⟨_, _, _, _ | _ | _ | _ | _⟩ | _ | _ <;> trivial

/-- Whatever the configuration, a factory leaves its sanity checks with them
passed, or returns. -/
theorem afterNameCheck_rules (env : Env) (kind : TunnelKind) (cfg : TunnelConfig) :
    (afterNameCheck env kind cfg).Rules kind := by
  cases kind with
  | dynamic =>
    simp only [afterNameCheck]
    split
    · trivial
    · split
      · trivial
      · split_ifs
        · assumption
        · exact ⟨rfl, ‹_›⟩
  | quiescent =>
    simp only [afterNameCheck]
    split
    · trivial
    · assumption
  | static =>
    simp only [afterNameCheck]
    split
    · trivial
    · assumption

/-- One section of a factory keeps its rules and the tables' checks. -/
theorem FactoryPc.Rules.factoryStep {ctx ctx' : Context} {env : Env} {kind : TunnelKind} {name : String}
    {pc pc' : FactoryPc} (hp : pc.Rules kind) (ht : TablesChecked ctx)
    (hs : ctx.factoryStep env kind name pc = some (ctx', pc')) : pc'.Rules kind ∧ TablesChecked ctx' := by
  cases pc with
  | start cfg =>
    cases cfg with
    | none => cases hs; exact ⟨trivial, ht⟩
    | some cfg =>
      simp only [Context.factoryStep] at hs
      split_ifs at hs <;> cases hs
      · exact ⟨trivial, ht⟩
      · exact ⟨afterNameCheck_rules env kind cfg, ht⟩
  | tidCheck c =>
    simp only [Context.factoryStep] at hs
    split at hs <;> cases hs
    · exact ⟨trivial, ht⟩
    · rename_i c' hc
      obtain ⟨rfl, -⟩ := Context.checkTid_ok hc
      exact ⟨hp, ht⟩
  | alloc c left i =>
    obtain ⟨rfl, hc⟩ := hp
    cases left with
    | zero => cases hs; exact ⟨trivial, ht⟩
    | succ n =>
      simp only [Context.factoryStep] at hs
      split at hs
      · cases hs; exact ⟨trivial, ht⟩
      · rename_i id hg
        split_ifs at hs <;> cases hs
        · exact ⟨⟨rfl, hc⟩, ht⟩
        · exact ⟨Context.dynamicChecks_alloc hc hg, ht⟩
  | link c =>
    cases hs
    exact ⟨trivial, ht.createTunnel env name hp⟩
  | done r => cases hs

/-! ## Every interleaving -/

/-- The tables are checked, and every goroutine carries its rules. -/
structure SysRules (s : Sys) : Prop where
  tables : TablesChecked s.ctx
  threads : ∀ th ∈ s.threads, th.Rules

theorem SysRules.step {s s' : Sys} {a : Sched} (h : SysRules s) (hs : s.run a = some s') : SysRules s' := by
  unfold Sys.run at hs
  split at hs
  · cases hs
  rename_i th hth
  obtain ⟨r, hr, rfl⟩ := Option.map_eq_some'.1 hs
  have hr' : r.2.1.Rules ∧ TablesChecked r.1 := by
    have hthr := h.threads th (List.get?_mem hth)
    cases th with
    | factory kind env name pc =>
      obtain ⟨r', hr', rfl⟩ := Option.map_eq_some'.1 hr
      exact FactoryPc.Rules.factoryStep hthr h.tables hr'
    | closer pc =>
      obtain ⟨r', hr', rfl⟩ := Option.map_eq_some'.1 hr
      exact ⟨trivial, h.tables.closerStep hr'⟩
    | closeTunnel t closed =>
      cases closed
      · cases hr; exact ⟨trivial, h.tables.unlinkTunnel t⟩
      · cases hr
  exact ⟨hr'.2, fun th' hm => (List.mem_or_eq_of_mem_set hm).elim (h.threads th') fun e => e ▸ hr'.1⟩

theorem sysRules_inductive {threads : List Thread} (hf : ∀ th ∈ threads, th.fresh = true) :
    (concurrent threads).Inductive SysRules where
  init _ := fun ⟨_, hr⟩ => hr ▸ ⟨⟨fun _ _ h => by simp [newContext, Index.empty] at h,
    fun _ _ h => by simp [newContext, Index.empty] at h⟩, fun th hm => Thread.rules_of_fresh (hf th hm)⟩
  step _ _ _ h hs := h.step hs

/-- **No interleaving registers an unchecked tunnel.** Whatever goroutines
start on a fresh context, and however their lock sections interleave, every
tunnel in `tunnelsByName` or `tunnelsByID` passed its own flavour's sanity
checks on the configuration it was linked with, and so keeps the version
rules. -/
theorem tables_checked {threads : List Thread} (hf : ∀ th ∈ threads, th.fresh = true) {s : Sys}
    (h : (concurrent threads).Reachable s) {t : Tunnel}
    (ht : (∃ n, s.ctx.tunnels.byName.get? n = some t) ∨ ∃ k, s.ctx.tunnels.byID.get? k = some t) :
    Context.flavourChecks t.kind t.cfg = none ∧ VersionRules t.cfg := by
  have hI := ((sysRules_inductive hf).reachable h).tables
  have hc : Context.flavourChecks t.kind t.cfg = none := by
    rcases ht with ⟨n, hn⟩ | ⟨k, hk⟩
    · exact hI.byName n t hn
    · exact hI.byID k t hk
  exact ⟨hc, Context.flavourChecks_versionRules hc⟩

/-- After the check-then-link race of `twoStatic`, the tunnel left only in
`tunnelsByID` passed the static checks. -/
theorem tables_checked_twoStatic :
    Context.flavourChecks tunnelA.kind tunnelA.cfg = none ∧ VersionRules tunnelA.cfg :=
  tables_checked (by decide)
    (@Sys.runAll_reachable twoStatic _ _ [⟨0, []⟩, ⟨1, []⟩, ⟨0, []⟩, ⟨1, []⟩, ⟨0, []⟩, ⟨1, []⟩]
      (.init ⟨0, rfl⟩) rfl)
    (.inr ⟨tunnelA.tid, by decide⟩)

end GoL2tp
