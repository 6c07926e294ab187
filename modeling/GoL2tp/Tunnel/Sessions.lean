import GoL2tp.Core.Lts
import GoL2tp.Context.Registry

/-!
# A tunnel's sessions

`baseTunnel` keeps its sessions in `sessionsByName` and `sessionsByID`
(cmd/kl2tpd/kl2tpd.go:810-915): `linkSession`, `unlinkSession`,
`findSessionByName`, `findSessionByID` are the `Index` operations with the
session's name and `SessionID` as keys; `allSessions` ranges over the name
table; `closeAllSessions` collects and deletes every session under the
lock, then calls `kill` on each; `allocSid` is the shared ID loop over the
session ID table.

The session factories (`NewSession` of each tunnel flavour) are declared
outside src/. What src/ gives them for a new session is `findSessionByName`
for its name and `allocSid` (or `findSessionByID`) for its ID, and the
spec has session names and IDs unique within a tunnel (spec §3), so
`linkSession` is taken with both keys free. `kill` is also declared outside
src/; per the spec a killed session is destroyed with its tunnel without
running its FSM; it is recorded as a call, and may unlink itself.

Results: `sessions_indexed` (the two tables index one set of sessions in
every reachable state) and `sessions_spec` (from every reachable state and
in every iteration order, `allSessions` returns each linked session once,
and `closeAllSessions` kills each linked session once and no other and
leaves both tables empty); `allocators_return_zero` (a draw of 0 is handed
out as a tunnel or session ID).
-/
namespace GoL2tp

/-- `l2tp.SessionConfig`, the field the tunnel reads. -/
structure SessionConfig where
  SessionID : ControlConnID
  deriving DecidableEq, Repr

/-- A session instance: `getName()` is `name`, `getCfg()` is `cfg`. -/
structure Session where
  ref : Nat
  name : String
  cfg : SessionConfig
  deriving DecidableEq, Repr

/-- `s.getCfg().SessionID`, the key of `sessionsByID`. -/
def Session.sid (s : Session) : ControlConnID := s.cfg.SessionID

/-- `baseTunnel`: its config (for `allocSid`) and its session tables. -/
structure BaseTunnel where
  cfg : TunnelConfig
  sessions : Index Session

/-- mirrors cmd/kl2tpd/kl2tpd.go:821-830 -/
def newBaseTunnel (config : TunnelConfig) : BaseTunnel := ⟨config, .empty⟩

namespace BaseTunnel

/-- mirrors cmd/kl2tpd/kl2tpd.go:848-853 -/
def linkSession (bt : BaseTunnel) (s : Session) : BaseTunnel :=
  { bt with sessions := bt.sessions.link Session.name Session.sid s }

/-- mirrors cmd/kl2tpd/kl2tpd.go:855-860 -/
def unlinkSession (bt : BaseTunnel) (s : Session) : BaseTunnel :=
  { bt with sessions := bt.sessions.unlink Session.name Session.sid s }

/-- mirrors cmd/kl2tpd/kl2tpd.go:862-867 -/
def findSessionByName (bt : BaseTunnel) (name : String) : Option Session :=
  bt.sessions.byName.get? name

/-- mirrors cmd/kl2tpd/kl2tpd.go:869-874 -/
def findSessionByID (bt : BaseTunnel) (id : ControlConnID) : Option Session :=
  bt.sessions.byID.get? id

/-- `allSessions`, ranging over `sessionsByName` in the order `ord`.
mirrors cmd/kl2tpd/kl2tpd.go:876-883 -/
def allSessions (_bt : BaseTunnel) (ord : List (String × Session)) : List Session := ord.map Prod.snd

/-- Modelled from the spec: `kill` is declared outside src/; a killed session
is destroyed with its tunnel (spec §3 Invariants) and may unlink itself. -/
def killSession (bt : BaseTunnel) (s : Session) : BaseTunnel := bt.unlinkSession s

/-- `closeAllSessions`, ranging over `sessionsByName` in the order `ord`;
the second component lists the sessions `kill` is called on, in order.
mirrors cmd/kl2tpd/kl2tpd.go:885-902 -/
def closeAllSessions (bt : BaseTunnel) (ord : List (String × Session)) : BaseTunnel × List Session :=
  let d := bt.sessions.drain Session.sid ord
  (d.2.foldl killSession { bt with sessions := d.1 }, d.2)

/-- mirrors cmd/kl2tpd/kl2tpd.go:904-915 -/
def allocSid (bt : BaseTunnel) (draw : Nat → UInt32) : Except String ControlConnID :=
  allocLoop (fun id => (bt.findSessionByID id).isSome) bt.cfg.Version "session" draw 10 0

@[simp] theorem linkSession_sessions (bt : BaseTunnel) (s : Session) :
    (bt.linkSession s).sessions = bt.sessions.link Session.name Session.sid s := rfl
@[simp] theorem unlinkSession_sessions (bt : BaseTunnel) (s : Session) :
    (bt.unlinkSession s).sessions = bt.sessions.unlink Session.name Session.sid s := rfl

end BaseTunnel

/-- One call on a tunnel's session table. -/
inductive SessionOp where
  | linkSession (s : Session)
  | unlinkSession (s : Session)
  | allSessions (ord : List (String × Session))
  | closeAllSessions (ord : List (String × Session))

/-- `linkSession` with a name and ID not linked (as the session factories
check), `unlinkSession` of a linked session, and the two ranges over the
whole name table. -/
def SessionOp.step (bt : BaseTunnel) : SessionOp → BaseTunnel → Prop
  | .linkSession s, bt' =>
    bt.findSessionByName s.name = none ∧ bt.findSessionByID s.sid = none ∧ bt' = bt.linkSession s
  | .unlinkSession s, bt' => Index.Linked Session.name bt.sessions s ∧ bt' = bt.unlinkSession s
  | .allSessions ord, bt' => ord.Perm bt.sessions.byName.entries ∧ bt' = bt
  | .closeAllSessions ord, bt' => ord.Perm bt.sessions.byName.entries ∧ bt' = (bt.closeAllSessions ord).1

/-- A tunnel's session table from `newBaseTunnel` (both tables empty). -/
def sessionTable : LTS BaseTunnel SessionOp :=
  ⟨fun bt => bt.sessions = .empty, fun s a s' => a.step s s'⟩

abbrev SessionIndexed (bt : BaseTunnel) : Prop := Index.Indexed Session.name Session.sid bt.sessions

namespace BaseTunnel

theorem foldl_killSession_empty (ss : List Session) (bt : BaseTunnel) (h : bt.sessions = .empty) :
    (ss.foldl killSession bt).sessions = .empty := by
  induction ss generalizing bt with
  | nil => exact h
  | cons s ss ih =>
    apply ih
    simp only [killSession, unlinkSession_sessions, h]
    exact Index.ext (GoMap.eq_empty fun _ => by simp [Index.empty])
      (GoMap.eq_empty fun _ => by simp [Index.empty])

theorem closeAllSessions_indexed {bt : BaseTunnel} (h : SessionIndexed bt)
    {ord : List (String × Session)} (ho : ord.Perm bt.sessions.byName.entries) :
    (bt.closeAllSessions ord).1.sessions = .empty ∧ (bt.closeAllSessions ord).2 = ord.map Prod.snd := by
  obtain ⟨h1, h2⟩ := Index.drain_indexed h ho
  exact ⟨foldl_killSession_empty _ _ h1, h2⟩

end BaseTunnel

theorem sessionTable_indexed : sessionTable.Inductive SessionIndexed where
  init := by intro bt h; rw [SessionIndexed, h]; exact Index.indexed_empty
  step := by
    intro bt op bt' h hs
    cases op with
    | linkSession s =>
      obtain ⟨hn, hi, rfl⟩ := hs
      exact Index.indexed_link h hn hi
    | unlinkSession s =>
      obtain ⟨hs, rfl⟩ := hs
      exact Index.indexed_unlink h hs
    | allSessions ord => obtain ⟨-, rfl⟩ := hs; exact h
    | closeAllSessions ord =>
      obtain ⟨ho, rfl⟩ := hs
      rw [SessionIndexed, (BaseTunnel.closeAllSessions_indexed h ho).1]
      exact Index.indexed_empty

/-- What a tunnel's session table guarantees: the two tables index one set;
`allSessions` returns each linked session once; `closeAllSessions` kills
each linked session once and no other and leaves both tables empty. -/
def SessionsSpec (bt : BaseTunnel) : Prop :=
  SessionIndexed bt ∧
  ∀ ord : List (String × Session), ord.Perm bt.sessions.byName.entries →
    (bt.allSessions ord).Nodup ∧ (∀ s, s ∈ bt.allSessions ord ↔ Index.Linked Session.name bt.sessions s) ∧
    (bt.closeAllSessions ord).2 = bt.allSessions ord ∧ (bt.closeAllSessions ord).1.sessions = .empty

/-- **The session table.** In every state reachable by links of free names
and IDs, unlinks of linked sessions, `allSessions` and `closeAllSessions`,
the two tables index one set of sessions, `allSessions` (in any iteration
order) returns each linked session exactly once, and `closeAllSessions`
kills each linked session exactly once and no other and empties both
tables. -/
theorem sessions_spec {bt : BaseTunnel} (h : sessionTable.Reachable bt) : SessionsSpec bt := by
  have hI : SessionIndexed bt := sessionTable_indexed.reachable h
  refine ⟨hI, fun ord ho => ?_⟩
  obtain ⟨hnd, hmem⟩ := Index.values_of_perm hI ho
  obtain ⟨h1, h2⟩ := BaseTunnel.closeAllSessions_indexed hI ho
  exact ⟨hnd, hmem, h2, h1⟩

/-- An L2TPv3 tunnel with one session `s` (ID 5) linked. -/
def oneSession : BaseTunnel :=
  BaseTunnel.linkSession ⟨⟨"", "", EncapTypeUDP, ProtocolVersion3, 1, 1, "", 0⟩, .empty⟩ ⟨0, "s", ⟨5⟩⟩

theorem sessions_spec_oneSession : sessionTable.Reachable oneSession ∧ SessionsSpec oneSession :=
  have h : sessionTable.Reachable oneSession :=
    (show sessionTable.Reachable ⟨⟨"", "", EncapTypeUDP, ProtocolVersion3, 1, 1, "", 0⟩, .empty⟩ from
      .init rfl).next (.linkSession ⟨0, "s", ⟨5⟩⟩) ⟨rfl, rfl, rfl⟩
  ⟨h, sessions_spec h⟩

/-! ## ID allocation -/

/-- On empty tables, from any call serial and tunnel configuration, a draw
of 0 (for L2TPv2, any draw whose low 16 bits are 0, such as 0x10000) comes
back from `allocTid` and `allocSid` as the ID 0, which the quiescent and
static factories reject as out of range. -/
theorem allocators_return_zero (r : UInt32) (cfg : TunnelConfig) :
    (newContext r).allocTid ProtocolVersion3 (fun _ => 0) = .ok 0 ∧
    (newContext r).allocTid ProtocolVersion2 (fun _ => 0x10000) = .ok 0 ∧
    (newBaseTunnel { cfg with Version := ProtocolVersion3 }).allocSid (fun _ => 0) = .ok 0 :=
  ⟨rfl, rfl, rfl⟩

end GoL2tp
