import GoL2tp.Nll2tp.Conn
import GoL2tp.Nll2tp.Commands

/-!
# Closing the nll2tp connection

`Close` (internal/nll2tp/nll2tp.go:136-140) closes `reqChan`, waits for
`runConn` to return (`wg.Wait`) and closes the netlink socket. `runConn`'s
`range` loop (:365-374) ends when its receive finds `reqChan` closed. A send
on a closed channel panics, so an `execute` (:294-307) that has not sent its
request when `reqChan` is closed panics when it sends, whether it was
already blocked in the send or starts later. Nothing closes `rspChan`, so the
`netlink connection closed` branch of `execute` is never taken: the model
has no step that closes `rspChan`, and a waiting call only ever receives an
answer.

The model runs the connection's steps (`connStep`, `Nll2tp.Conn`) next to
`Close` and `runConn`'s exit. A send is a connection step only while
`reqChan` is open; after it is closed, a call that has not sent panics
(`sendClosed`), and a panic ends the program: no step follows it.

Results: `closeInv_reachable` (the connection invariant holds in every
reachable state, so every call that returned got the answer to its own
request); `close_answered` (once `Close` has returned, `runConn` has
returned and every request it accepted was answered to its own call);
`close_send_panics` (a call that has not sent when `Close` closes `reqChan`
panics).
-/
namespace GoL2tp.Nll2tp

variable {Req Rsp : Type}

/-- Where `Close` is: not called, waiting for `runConn` after closing
`reqChan`, or returned. -/
inductive ClosePc where
  | start
  | waiting
  | done
  deriving DecidableEq, Repr

structure CloseSt (Req Rsp : Type) where
  conn : ConnSt Req Rsp
  /-- `reqChan` is not closed -/
  reqOpen : Bool
  /-- `runConn` has returned (`wg.Done`) -/
  runExited : Bool
  closer : ClosePc
  /-- the call whose send on the closed `reqChan` panicked -/
  panicked : Option Nat

def ConnLbl.sends : ConnLbl Rsp → Bool
  | .send _ => true
  | _ => false

inductive CloseLbl (Rsp : Type) where
  /-- a step of the connection; a send needs `reqChan` open -/
  | conn (a : ConnLbl Rsp)
  /-- call `i` sends on the closed `reqChan` -/
  | sendClosed (i : Nat)
  /-- `Close`: `close(c.reqChan)` -/
  | closeReq
  /-- `runConn`'s `range` finds `reqChan` closed and returns -/
  | exit
  /-- `Close`: `wg.Wait()` returns, `c.c.Close()` -/
  | closeSocket

/-- mirrors internal/nll2tp/nll2tp.go:136-140, :294-307 and :365-374 -/
def closeStep (s : CloseSt Req Rsp) (a : CloseLbl Rsp) : Option (CloseSt Req Rsp) :=
  if s.panicked.isSome then none else
  match a with
  | .conn b =>
    if b.sends && !s.reqOpen then none else (connStep s.conn b).map fun c => { s with conn := c }
  | .sendClosed i =>
    match s.conn.reqs[i]?, s.conn.pc i, s.reqOpen with
    | some _, .start, false => some { s with panicked := some i }
    | _, _, _ => none
  | .closeReq =>
    match s.closer, s.reqOpen with
    | .start, true => some { s with reqOpen := false, closer := .waiting }
    | _, _ => none
  | .exit =>
    match s.conn.run, s.reqOpen, s.runExited with
    | .recv, false, false => some { s with runExited := true }
    | _, _, _ => none
  | .closeSocket =>
    match s.closer, s.runExited with
    | .waiting, true => some { s with closer := .done }
    | _, _ => none

/-- The calls `reqs` and one `Close`, none started; `reqChan` open. -/
def connClose (reqs : List Req) : LTS (CloseSt Req Rsp) (CloseLbl Rsp) :=
  ⟨fun s => s = ⟨⟨reqs, fun _ => .start, .recv, []⟩, true, false, .start, none⟩,
    fun s a s' => closeStep s a = some s'⟩

/-! ## What a step can do -/

theorem closeStep_cases {s s' : CloseSt Req Rsp} {a : CloseLbl Rsp} (h : closeStep s a = some s') :
    s.panicked = none ∧
    ((∃ b c, a = .conn b ∧ (b.sends = true → s.reqOpen = true) ∧ connStep s.conn b = some c ∧
        s' = { s with conn := c }) ∨
      (∃ i, a = .sendClosed i ∧ i < s.conn.reqs.length ∧ s.conn.pc i = .start ∧ s.reqOpen = false ∧
        s' = { s with panicked := some i }) ∨
      (a = .closeReq ∧ s.closer = .start ∧ s.reqOpen = true ∧
        s' = { s with reqOpen := false, closer := .waiting }) ∨
      (a = .exit ∧ s.conn.run = .recv ∧ s.reqOpen = false ∧ s.runExited = false ∧
        s' = { s with runExited := true }) ∨
      (a = .closeSocket ∧ s.closer = .waiting ∧ s.runExited = true ∧ s' = { s with closer := .done })) := by
  unfold closeStep at h
  split_ifs at h with hp
  refine ⟨Option.not_isSome_iff_eq_none.1 hp, ?_⟩
  cases a with
  | conn b =>
    dsimp only at h
    split_ifs at h with hs
    obtain ⟨c, hc, rfl⟩ := Option.map_eq_some'.1 h
    exact .inl ⟨b, c, rfl, fun hb => by simpa [hb] using hs, hc, rfl⟩
  | sendClosed i =>
    dsimp only at h
    split at h <;> simp only [Option.some.injEq, reduceCtorEq] at h
    exact .inr (.inl ⟨i, rfl, (List.getElem?_eq_some_iff.1 ‹_›).1, ‹_›, ‹_›, h.symm⟩)
  | closeReq =>
    dsimp only at h
    split at h <;> simp only [Option.some.injEq, reduceCtorEq] at h
    exact .inr (.inr (.inl ⟨rfl, ‹_›, ‹_›, h.symm⟩))
  | exit =>
    dsimp only at h
    split at h <;> simp only [Option.some.injEq, reduceCtorEq] at h
    exact .inr (.inr (.inr (.inl ⟨rfl, ‹_›, ‹_›, ‹_›, h.symm⟩)))
  | closeSocket =>
    dsimp only at h
    split at h <;> simp only [Option.some.injEq, reduceCtorEq] at h
    exact .inr (.inr (.inr (.inr ⟨rfl, ‹_›, ‹_›, h.symm⟩)))

/-- Once `runConn` is receiving, only a send moves the connection. -/
theorem connStep_recv_sends {c c' : ConnSt Req Rsp} {b : ConnLbl Rsp} (hr : c.run = .recv)
    (h : connStep c b = some c') : b.sends = true := by
  rcases connStep_cases h with ⟨i, _, rfl, _⟩ | ⟨_, _, _, _, he, _⟩ | ⟨_, _, _, _, _, he, _⟩
  · rfl
  all_goals rw [hr] at he; cases he

/-! ## The invariant -/

/-- The connection invariant; `Close` has started exactly when `reqChan` is
closed; `runConn` returns only from a receive on the closed `reqChan`;
`Close` returns only after `runConn`; a panicking call had not sent. -/
structure CloseInv (reqs : List Req) (s : CloseSt Req Rsp) : Prop where
  conn : ConnInv s.conn
  reqs : s.conn.reqs = reqs
  closer : s.closer = .start ↔ s.reqOpen = true
  exited : s.runExited = true → s.reqOpen = false ∧ s.conn.run = .recv
  done : s.closer = .done → s.runExited = true
  panicked : ∀ i, s.panicked = some i → s.reqOpen = false ∧ s.conn.pc i = .start

theorem closeInv_inductive (reqs : List Req) : (@connClose Req Rsp reqs).Inductive (CloseInv reqs) where
  init := by
    rintro _ rfl
    exact ⟨connInv_init reqs, rfl, by simp, by simp, by simp, by simp⟩
  step := by
    intro s a s' h hs
    obtain ⟨hp, ⟨b, c, -, hb, hc, rfl⟩ | ⟨i, -, -, hi, ho, rfl⟩ | ⟨-, hcl, ho, rfl⟩ |
      ⟨-, hr, ho, -, rfl⟩ | ⟨-, hcl, hx, rfl⟩⟩ := closeStep_cases hs
    · refine ⟨(conn_inv reqs).step _ _ _ h.conn hc, (conn_reqs reqs).step _ _ _ h.reqs hc, h.closer,
        fun hx => ?_, h.done, by simp [hp]⟩
      obtain ⟨ho, hr⟩ := h.exited hx
      simp [ho, connStep_recv_sends hr hc] at hb
    · exact ⟨h.conn, h.reqs, h.closer, h.exited, h.done, fun _ hj => by cases Option.some.inj hj; exact ⟨ho, hi⟩⟩
    · exact ⟨h.conn, h.reqs, by simp, fun hx => absurd (h.exited hx).1 (by simp [ho]), by simp,
        by simp [hp]⟩
    · exact ⟨h.conn, h.reqs, h.closer, fun _ => ⟨ho, hr⟩, fun _ => rfl, by simp [hp]⟩
    · exact ⟨h.conn, h.reqs, by simpa [hcl] using h.closer, h.exited, fun _ => hx, by simp [hp]⟩

theorem closeInv_reachable {reqs : List Req} {s : CloseSt Req Rsp} (h : (connClose reqs).Reachable s) :
    CloseInv reqs s :=
  (closeInv_inductive reqs).reachable h

/-! ## What `Close` guarantees, and what it does not -/

/-- **Close waits for every accepted request.** Once `Close` has returned,
`runConn` has returned and no call is waiting, and every call that sent its
request was answered, by what `runConn` obtained for that request. -/
theorem close_answered {reqs : List Req} {s : CloseSt Req Rsp} (h : (connClose reqs).Reachable s)
    (hd : s.closer = .done) :
    s.runExited = true ∧ (∀ i, s.conn.pc i ≠ .waiting) ∧
      ∀ i, s.conn.pc i ≠ .start → ∃ req rsp, reqs[i]? = some req ∧ (i, req, rsp) ∈ s.conn.log ∧
        s.conn.pc i = .done rsp := by
  have hI := closeInv_reachable h
  have hx := hI.done hd
  have hr : s.conn.run = .recv := (hI.exited hx).2
  have hw : ∀ i, s.conn.pc i ≠ .waiting := fun i hw => by
    simpa [hr, RunPc.owner] using (hI.conn.waiting i).1 hw
  refine ⟨hx, hw, fun i hs => ?_⟩
  cases hp : s.conn.pc i with
  | start => exact absurd hp hs
  | waiting => exact absurd hp (hw i)
  | done rsp =>
    obtain ⟨req, hq, hm⟩ := hI.conn.done i rsp hp
    exact ⟨req, rsp, hI.reqs ▸ hq, hm, rfl⟩

/-- One call answered, then `Close` returns. -/
theorem close_answered_oneCall :
    ∃ s : CloseSt Unit Unit, (connClose [()]).Reachable s ∧ s.closer = .done ∧
      s.runExited = true ∧ (∀ i, s.conn.pc i ≠ .waiting) ∧
      ∀ i, s.conn.pc i ≠ .start → ∃ req rsp, [()][i]? = some req ∧ (i, req, rsp) ∈ s.conn.log ∧
        s.conn.pc i = .done rsp :=
  have h : (connClose [()] : LTS (CloseSt Unit Unit) (CloseLbl Unit)).Reachable _ :=
    LTS.Reachable.runSteps (fun _ _ _ h => h) (.init rfl)
      (rfl : LTS.runSteps closeStep ⟨⟨[()], fun _ => .start, .recv, []⟩, true, false, .start, none⟩
        [.conn (.send 0), .conn (.execute ()), .conn (.recv 0), .closeReq, .exit, .closeSocket] = some _)
  ⟨_, h, rfl, close_answered h rfl⟩

/-- Two `DeleteTunnel` requests. -/
def twoDeletes : List Request :=
  [⟨.CmdTunnelDelete, [⟨.AttrConnId, .u32 1⟩]⟩, ⟨.CmdTunnelDelete, [⟨.AttrConnId, .u32 2⟩]⟩]

/-- Call 0 is answered; `Close` closes `reqChan` while call 1 has not sent
its request; call 1's send panics. -/
theorem close_send_panics :
    ∃ s, (connClose twoDeletes : LTS (CloseSt Request Unit) (CloseLbl Unit)).Reachable s ∧
      s.conn.pc 0 = .done () ∧ s.closer = .waiting ∧ s.panicked = some 1 :=
  ⟨_, LTS.Reachable.runSteps (fun _ _ _ h => h) (.init rfl)
    (rfl : LTS.runSteps closeStep ⟨⟨twoDeletes, fun _ => .start, .recv, []⟩, true, false, .start, none⟩
      [.conn (.send 0), .conn (.execute ()), .conn (.recv 0), .closeReq, .sendClosed 1] = some _),
    rfl, rfl, rfl⟩

end GoL2tp.Nll2tp
