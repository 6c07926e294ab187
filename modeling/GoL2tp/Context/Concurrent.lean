import GoL2tp.Context.Lifecycle

/-!
# Concurrent calls on one context

The tunnel tables are guarded by `tlock`, and every registry function takes
it for itself: `findTunnelByName`, `findTunnelByID` (once per attempt inside
`allocTid`), `linkTunnel` and `unlinkTunnel` are one lock section each. A
factory's name check, its TID check and its `linkTunnel` are therefore three
sections, with the lock released in between (the TODO at
cmd/kl2tpd/kl2tpd.go:366-368). `Close` collects and deletes every tunnel in
one section, then calls each collected tunnel's `Close` after releasing the
lock, then closes the data plane (:604-621).

A goroutine is a `Thread` with its program counter. A state of the system
(`Sys`) is the context, the goroutines, and the calls made so far on tunnels
and on the data plane. A step runs one lock section of one goroutine,
together with the work that goroutine does alone before its next section;
the scheduler (`Sched`) picks the goroutine, and for `Close` the order of the
range over `tunnelsByName`.

Results:
* `factory_alone`, `closer_alone`: a goroutine whose sections run back to
  back computes what the sequential model computes (`Context.newTunnel`,
  `Context.close`), so the two models agree on every run without
  interleaving.
* `check_link_race`: two `NewStaticTunnel` calls for one name, interleaved
  between their checks and their links, reach a state where `tunnelsByID`
  holds a tunnel that `tunnelsByName` does not, beside a second tunnel of the
  same name.
* `close_races`: a factory that passed its checks before `Close` collected
  the tunnels links its tunnel after `Close` has returned, and the tunnel is
  never closed; and a tunnel linked while `Close` is closing the tunnels it
  collected, under the name and ID of one of them, is removed from the
  tables by that tunnel's `unlinkTunnel` without ever being closed.
-/
namespace GoL2tp

/-- Where a factory goroutine is: before its name check; past its checks,
before its TID check or its `allocTid` attempt `attempt` with `left`
attempts left; before `linkTunnel`; returned. -/
inductive FactoryPc where
  | start (cfg : Option TunnelConfig)
  | tidCheck (myCfg : TunnelConfig)
  | alloc (myCfg : TunnelConfig) (left attempt : Nat)
  | link (myCfg : TunnelConfig)
  | done (r : Except String Tunnel)

/-- Where `Close` is: before its locked loop; closing the collected tunnels
still to close; returned. -/
inductive CloserPc where
  | start
  | closing (todo : List Tunnel)
  | done
  deriving DecidableEq

/-- A goroutine calling into the context: a factory, `Close`, or a tunnel
being closed by its user (`closed` once its `unlinkTunnel` has run). -/
inductive Thread where
  | factory (kind : TunnelKind) (env : Env) (name : String) (pc : FactoryPc)
  | closer (pc : CloserPc)
  | closeTunnel (t : Tunnel) (closed : Bool)

/-! ## One lock section -/

/-- The checks a flavour makes after its name check; none reads the tables.
mirrors cmd/kl2tpd/kl2tpd.go:333-379, :436-457, :521-534 -/
def afterNameCheck (env : Env) : TunnelKind → TunnelConfig → FactoryPc
  | .dynamic, cfg =>
    match Context.dynamicDefaults env cfg with
    | .error e => .done (.error e)
    | .ok myCfg =>
      match Context.dynamicChecks myCfg with
      | some e => .done (.error e)
      | none => if myCfg.TunnelID ≠ 0 then .tidCheck myCfg else .alloc myCfg 10 0
  | .quiescent, cfg =>
    match Context.quiescentChecks cfg with
    | some e => .done (.error e)
    | none => .tidCheck cfg
  | .static, cfg =>
    match Context.staticChecks cfg with
    | some e => .done (.error e)
    | none => .tidCheck cfg

/-- `NewDynamicTunnel`'s error for an `allocTid` error `e`. -/
def allocFailed (e : String) : String := s!"failed to allocate a TID: {quote e}"

namespace Context

/-- One lock section of a factory, and what it does before the next.
mirrors cmd/kl2tpd/kl2tpd.go:320-403, :423-486, :508-563, with `allocTid`
(:623-634) one attempt a section -/
def factoryStep (ctx : Context) (env : Env) (kind : TunnelKind) (name : String) :
    FactoryPc → Option (Context × FactoryPc)
  | .start none => some (ctx, .done (.error "invalid nil config"))
  | .start (some cfg) =>
    if (ctx.findTunnelByName name).isSome then some (ctx, .done (.error s!"already have tunnel {quote name}"))
    else some (ctx, afterNameCheck env kind cfg)
  | .tidCheck myCfg =>
    match ctx.checkTid myCfg with
    | .error e => some (ctx, .done (.error e))
    | .ok c => some (ctx, .link c)
  | .alloc _ 0 _ => some (ctx, .done (.error (allocFailed "ID space exhausted")))
  | .alloc myCfg (n + 1) i =>
    match generateControlConnID myCfg.Version (env.draw i) with
    | .error e => some (ctx, .done (.error (allocFailed s!"failed to generate tunnel ID: {e}")))
    | .ok id =>
      if (ctx.findTunnelByID id).isSome then some (ctx, .alloc myCfg n (i + 1))
      else some (ctx, .link { myCfg with TunnelID := id })
  | .link myCfg =>
    let r := ctx.createTunnel env kind name myCfg
    some (r.1, .done r.2)
  | .done _ => none

/-- One section of `Close`: the locked loop collecting and deleting every
tunnel in the order `ord`, then one collected tunnel's `Close`, then the
data plane's. mirrors cmd/kl2tpd/kl2tpd.go:604-621 -/
def closerStep (ctx : Context) (ord : List (String × Tunnel)) : CloserPc → Option (Context × CloserPc × List Call)
  | .start =>
    if ord.Perm ctx.tunnels.byName.entries then
      let d := ctx.tunnels.drain Tunnel.tid ord
      some ({ ctx with tunnels := d.1 }, .closing d.2, [])
    else none
  | .closing (t :: ts) => some (tunnelClose ctx t, .closing ts, [.tunnelClose t])
  | .closing [] => some (ctx, .done, [.dpClose])
  | .done => none

end Context

/-- The next section of a goroutine, if it has one. -/
def Thread.step (ctx : Context) (ord : List (String × Tunnel)) : Thread → Option (Context × Thread × List Call)
  | .factory kind env name pc =>
    (ctx.factoryStep env kind name pc).map fun r => (r.1, .factory kind env name r.2, [])
  | .closer pc => (ctx.closerStep ord pc).map fun r => (r.1, .closer r.2.1, r.2.2)
  | .closeTunnel t false => some (tunnelClose ctx t, .closeTunnel t true, [.tunnelClose t])
  | .closeTunnel _ true => none

/-- The context, its goroutines, and the calls made on tunnels and on the
data plane so far. -/
structure Sys where
  ctx : Context
  threads : List Thread
  calls : List Call

/-- The scheduler's choice: the goroutine to run, and the order a `range`
over `tunnelsByName` takes if that goroutine is entering `Close`'s loop. -/
structure Sched where
  thread : Nat
  ord : List (String × Tunnel)

def Sys.run (s : Sys) (a : Sched) : Option Sys :=
  match s.threads.get? a.thread with
  | none => none
  | some th => (th.step s.ctx a.ord).map fun r => ⟨r.1, s.threads.set a.thread r.2.1, s.calls ++ r.2.2⟩

/-- The goroutines `threads` on a context fresh from `NewContext`. -/
def concurrent (threads : List Thread) : LTS Sys Sched :=
  ⟨fun s => ∃ r, s = ⟨newContext r, threads, []⟩, fun s a s' => s.run a = some s'⟩

/-! ## Without interleaving: the sequential model -/

namespace Context

/-- The sequential factory of a flavour. -/
def newTunnel (ctx : Context) (env : Env) (kind : TunnelKind) (name : String) (cfg : Option TunnelConfig) :
    Context × Except String Tunnel :=
  match kind with
  | .dynamic => ctx.newDynamicTunnel env name cfg
  | .quiescent => ctx.newQuiescentTunnel env name cfg
  | .static => ctx.newStaticTunnel env name cfg

/-- A factory goroutine running up to `n` sections back to back. -/
def runFactory (ctx : Context) (env : Env) (kind : TunnelKind) (name : String) :
    Nat → FactoryPc → Context × FactoryPc
  | 0, pc => (ctx, pc)
  | n + 1, pc =>
    match ctx.factoryStep env kind name pc with
    | none => (ctx, pc)
    | some r => r.1.runFactory env kind name n r.2

variable {env : Env} {kind : TunnelKind} {name : String}

/-- The end of a factory's run, as the sequential `factory` returns it. -/
def finished (r : Context × Except String Tunnel) : Context × FactoryPc := (r.1, .done r.2)

theorem runFactory_done (ctx : Context) (n : Nat) (r : Except String Tunnel) :
    ctx.runFactory env kind name n (.done r) = (ctx, .done r) := by
  cases n <;> rfl

theorem runFactory_link (ctx : Context) (m : Nat) (c : TunnelConfig) :
    ctx.runFactory env kind name (m + 1) (.link c) = finished (ctx.factory env kind name (.ok c)) := by
  simp only [runFactory, factoryStep, runFactory_done]; rfl

theorem runFactory_start (ctx : Context) (m : Nat) (cfg : TunnelConfig) :
    ctx.runFactory env kind name (m + 1) (.start (some cfg)) =
      if (ctx.findTunnelByName name).isSome then (ctx, .done (.error s!"already have tunnel {quote name}"))
      else ctx.runFactory env kind name m (afterNameCheck env kind cfg) := by
  simp only [runFactory, factoryStep]
  split_ifs <;> simp only [runFactory_done]

theorem runFactory_tidCheck (ctx : Context) (m : Nat) (c : TunnelConfig) :
    ctx.runFactory env kind name (m + 2) (.tidCheck c) = finished (ctx.factory env kind name (ctx.checkTid c)) := by
  simp only [runFactory, factoryStep]
  cases ctx.checkTid c with
  | error e => simp only [runFactory_done]; rfl
  | ok c' => exact runFactory_link ctx m c'

/-- The attempts of `allocTid`, one section each, are the loop `allocLoop`. -/
theorem runFactory_alloc (ctx : Context) (c : TunnelConfig) (n i m : Nat) :
    ctx.runFactory env kind name (n + m + 2) (.alloc c n i) =
      finished (ctx.factory env kind name
        (match allocLoop (fun id => (ctx.findTunnelByID id).isSome) c.Version "tunnel" env.draw n i with
         | .error e => .error (allocFailed e)
         | .ok tid => .ok { c with TunnelID := tid })) := by
  induction n generalizing i with
  | zero => simp only [runFactory, factoryStep, runFactory_done]; rfl
  | succ n ih =>
    rw [show n + 1 + m + 2 = (n + m + 2) + 1 by omega]
    simp only [runFactory, factoryStep, allocLoop]
    cases generateControlConnID c.Version (env.draw i) with
    | error e => simp only [runFactory_done]; rfl
    | ok id =>
      by_cases hu : (ctx.findTunnelByID id).isSome
      · simp only [hu, if_true]; exact ih (i + 1)
      · simp only [hu, if_false, Bool.false_eq_true, runFactory_done]; rfl

/-- **Run alone, a factory goroutine is the sequential factory.** Thirteen
sections (name check, ten `allocTid` attempts, the exhaustion or the TID
check, the link) suffice for every flavour, and from any context. -/
theorem factory_alone (ctx : Context) (cfg : Option TunnelConfig) :
    ctx.runFactory env kind name 13 (.start cfg) = finished (ctx.newTunnel env kind name cfg) := by
  cases cfg with
  | none => cases kind <;> rfl
  | some cfg =>
    rw [runFactory_start ctx 12 cfg]
    split_ifs with hn
    · cases kind <;> simp [newTunnel, newDynamicTunnel, newQuiescentTunnel, newStaticTunnel,
        dynamicConfig, quiescentConfig, staticConfig, hn] <;> rfl
    · cases kind with
      | dynamic =>
        simp only [afterNameCheck, newTunnel, newDynamicTunnel, dynamicConfig, if_neg hn]
        cases dynamicDefaults env cfg with
        | error e => exact runFactory_done ctx 12 _
        | ok myCfg =>
          simp only
          cases dynamicChecks myCfg with
          | some e => exact runFactory_done ctx 12 _
          | none =>
            simp only [dynamicTid]
            split_ifs
            · exact runFactory_tidCheck ctx 10 myCfg
            · exact runFactory_alloc ctx myCfg 10 0 0
      | quiescent =>
        simp only [afterNameCheck, newTunnel, newQuiescentTunnel, quiescentConfig, if_neg hn]
        cases quiescentChecks cfg with
        | some e => exact runFactory_done ctx 12 _
        | none => exact runFactory_tidCheck ctx 10 cfg
      | static =>
        simp only [afterNameCheck, newTunnel, newStaticTunnel, staticConfig, if_neg hn]
        cases staticChecks cfg with
        | some e => exact runFactory_done ctx 12 _
        | none => exact runFactory_tidCheck ctx 10 cfg

/-- `Close` running up to `n` sections back to back, with the calls it makes. -/
def runCloser (ctx : Context) (ord : List (String × Tunnel)) : Nat → CloserPc → Context × CloserPc × List Call
  | 0, pc => (ctx, pc, [])
  | n + 1, pc =>
    match ctx.closerStep ord pc with
    | none => (ctx, pc, [])
    | some r =>
      let rest := r.1.runCloser ord n r.2.1
      (rest.1, rest.2.1, r.2.2 ++ rest.2.2)

theorem runCloser_closing (ctx : Context) (ord : List (String × Tunnel)) (ts : List Tunnel) :
    ctx.runCloser ord (ts.length + 1) (.closing ts) =
      (ts.foldl tunnelClose ctx, .done, ts.map .tunnelClose ++ [.dpClose]) := by
  induction ts generalizing ctx with
  | nil => rfl
  | cons t ts ih =>
    rw [List.length_cons, runCloser]
    simp only [closerStep]
    rw [ih]; rfl

/-- **Run alone, `Close` is the sequential `Close`**: given the order of its
range, it returns the context and makes the calls `Context.close` does. -/
theorem closer_alone (ctx : Context) (ord : List (String × Tunnel)) (ho : ord.Perm ctx.tunnels.byName.entries) :
    ctx.runCloser ord (ord.length + 2) .start = ((ctx.close ord).1, .done, (ctx.close ord).2) := by
  have hl : (ctx.tunnels.drain Tunnel.tid ord).2.length = ord.length := by
    rw [Index.drain_snd, List.length_map]
  rw [runCloser]
  simp only [closerStep]
  rw [if_pos ho]
  simp only
  rw [← hl, runCloser_closing]; rfl

/-- `Close` alone on the context holding one static tunnel: three sections. -/
theorem closer_alone_oneTunnel :
    oneTunnel.runCloser [("t", ⟨0, .static, "t", v3Cfg⟩)] 3 .start =
      ((oneTunnel.close [("t", ⟨0, .static, "t", v3Cfg⟩)]).1, .done,
        (oneTunnel.close [("t", ⟨0, .static, "t", v3Cfg⟩)]).2) :=
  closer_alone oneTunnel [("t", ⟨0, .static, "t", v3Cfg⟩)] (by decide)

end Context

/-! ## The races -/

/-- A schedule run from `s`, one step after the other. -/
def Sys.runAll : Sys → List Sched → Option Sys
  | s, [] => some s
  | s, a :: as => (s.run a).bind fun s' => s'.runAll as

theorem Sys.runAll_reachable {threads : List Thread} {s s' : Sys} {as : List Sched}
    (hs : (concurrent threads).Reachable s) (h : s.runAll as = some s') : (concurrent threads).Reachable s' := by
  induction as generalizing s with
  | nil => cases h; exact hs
  | cons a as ih =>
    obtain ⟨s₁, h₁, h₂⟩ := Option.bind_eq_some.1 h
    exact ih (hs.next a h₁) h₂

/-- The tables of an `Indexed` registry cannot file a tunnel under its ID
and another under its name. -/
theorem not_indexed_of_split {ctx : Context} {a b : Tunnel} (ha : ctx.tunnels.byID.get? a.tid = some a)
    (hb : ctx.tunnels.byName.get? a.name = some b) (hab : a ≠ b) : ¬TunnelIndexed ctx :=
  fun hi => hab (Option.some.inj (((hi.same a).2 ha).symm.trans hb))


/-- Two `NewStaticTunnel` calls for the name `t`, with `TunnelID`s 42 and 43. -/
def twoStatic : List Thread :=
  [.factory .static loopbackEnv "t" (.start (some v3Cfg)),
   .factory .static loopbackEnv "t" (.start (some { v3Cfg with TunnelID := 43 }))]

/-- The tunnels the two calls create. -/
def tunnelA : Tunnel := ⟨0, .static, "t", v3Cfg⟩
def tunnelB : Tunnel := ⟨1, .static, "t", { v3Cfg with TunnelID := 43 }⟩

/-- **The check-then-link race.** Both calls pass their name checks and
their TID checks before either links: afterwards `tunnelsByID` holds the
first tunnel, which `tunnelsByName` no longer indexes, and the second
tunnel of the same name; the tables no longer index one set of tunnels. -/
theorem check_link_race :
    ∃ s, (concurrent twoStatic).Reachable s ∧
      s.ctx.tunnels.byID.get? tunnelA.tid = some tunnelA ∧
      s.ctx.tunnels.byID.get? tunnelB.tid = some tunnelB ∧
      s.ctx.tunnels.byName.get? tunnelA.name = some tunnelB ∧
      tunnelA.name = tunnelB.name ∧ tunnelA ≠ tunnelB ∧ ¬TunnelIndexed s.ctx := by
  refine ⟨_, @Sys.runAll_reachable twoStatic _ _
    [⟨0, []⟩, ⟨1, []⟩, ⟨0, []⟩, ⟨1, []⟩, ⟨0, []⟩, ⟨1, []⟩] (.init ⟨0, rfl⟩) rfl, ?_⟩
  have ha : tunnelA ≠ tunnelB := by decide
  refine ⟨by decide, by decide, by decide, rfl, ha, not_indexed_of_split (by decide) (by decide) ha⟩

/-- `Close` beside a `NewStaticTunnel` call for `t`. -/
def closeAndCreate : List Thread :=
  [.closer .start, .factory .static loopbackEnv "t" (.start (some v3Cfg))]

/-- A `NewStaticTunnel` call for `t`, then `Close` beside a second call for
`t` with the same configuration. -/
def closeAndReuse : List Thread :=
  [.factory .static loopbackEnv "t" (.start (some v3Cfg)), .closer .start,
   .factory .static loopbackEnv "t" (.start (some v3Cfg))]

/-- The tunnel the second call of `closeAndReuse` creates. -/
def tunnelA' : Tunnel := ⟨1, .static, "t", v3Cfg⟩

/-- **`Close` races with the factories.** A factory that passed its checks
before `Close` collected the tunnels links its tunnel after `Close` has
returned: the registry then holds a tunnel that was never closed. And a
tunnel linked, under the name and `TunnelID` of a collected tunnel, while
`Close` is closing the collected tunnels, loses both its entries to that
tunnel's `unlinkTunnel`; when `Close` returns it has never been closed. -/
theorem close_races :
    (∃ s, (concurrent closeAndCreate).Reachable s ∧ s.threads.get? 0 = some (.closer .done) ∧
      s.ctx.tunnels.byName.get? "t" = some tunnelA ∧ Call.tunnelClose tunnelA ∉ s.calls) ∧
    (∃ s s' s'', (concurrent closeAndReuse).Reachable s ∧
      (concurrent closeAndReuse).step s ⟨1, []⟩ s' ∧ (concurrent closeAndReuse).step s' ⟨1, []⟩ s'' ∧
      s.threads.get? 1 = some (.closer (.closing [tunnelA])) ∧
      s.ctx.tunnels.byName.get? "t" = some tunnelA' ∧ s.ctx.tunnels.byID.get? tunnelA'.tid = some tunnelA' ∧
      s'.ctx.tunnels.byName.get? "t" = none ∧ s'.ctx.tunnels.byID.get? tunnelA'.tid = none ∧
      s''.threads.get? 1 = some (.closer .done) ∧ tunnelA' ≠ tunnelA ∧ Call.tunnelClose tunnelA' ∉ s''.calls) := by
  refine ⟨⟨_, @Sys.runAll_reachable closeAndCreate _ _
    [⟨1, []⟩, ⟨1, []⟩, ⟨0, []⟩, ⟨0, []⟩, ⟨1, []⟩] (.init ⟨0, rfl⟩) rfl, rfl, by decide, by decide⟩, ?_⟩
  exact ⟨_, _, _, @Sys.runAll_reachable closeAndReuse _ _
    [⟨0, []⟩, ⟨0, []⟩, ⟨0, []⟩, ⟨1, [("t", tunnelA)]⟩, ⟨2, []⟩, ⟨2, []⟩, ⟨2, []⟩] (.init ⟨0, rfl⟩) rfl,
    rfl, rfl, rfl, by decide, by decide, by decide, by decide, rfl, by decide, by decide⟩

end GoL2tp
