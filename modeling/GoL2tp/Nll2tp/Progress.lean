import GoL2tp.Nll2tp.Close
import Mathlib.Data.Finset.Card

/-!
# Progress of the nll2tp connection

An `execute` call (internal/nll2tp/nll2tp.go:294-307) blocks twice, in its
send on `reqChan` and in its receive on `rspChan`, and `Close` (:136-140)
blocks in `wg.Wait` until `runConn` (:365-374) returns. Whether every call
and `Close` return is therefore a property of all interleavings: no
schedule may go on forever, and none may stop with a goroutine blocked.

A call takes three steps (its send, the kernel's answer, its receive), so
what the connection has left is three steps for each call that has not
sent, and what `runConn` has left of the call it holds (`ConnSt.left`).
Every step lowers this by exactly one (`connStep_left`). With `Close`
(`CloseSt.left`) there are four more: `close(reqChan)`, `runConn`'s
return, `Close`'s return, and one panic, after which nothing moves.

Results: `conn_terminates` (every interleaving of `n` calls stops within
`3 n` steps; one that can go no further has taken exactly `3 n`, and every
call returned the answer to its own request); `execute_exactly_once` (at
every point of every interleaving no request has run twice and every
returned call has its own answer, and one that can go no further has run
each request exactly once and answered every call); `connClose_terminates`
(with a `Close`, within `3 n + 4` steps, and an interleaving that can go no
further has either panicked or has `Close` returned, `runConn` returned and
every call answered); `close_completes` (once `Close` has closed `reqChan`,
unless a call panicked, some schedule of at most four steps in which no
call has to act ends with `Close` returned).
-/
namespace GoL2tp.Nll2tp

variable {Req Rsp : Type}

/-! ## Steps left -/

def CallerPc.isStart : CallerPc Rsp → Bool
  | .start => true
  | _ => false

@[simp] theorem CallerPc.isStart_iff {p : CallerPc Rsp} : p.isStart = true ↔ p = .start := by
  cases p <;> simp [CallerPc.isStart]

/-- The steps `runConn` has left of the call it holds. -/
def RunPc.left : RunPc Req Rsp → Nat
  | .recv => 0
  | .exec _ _ => 2
  | .reply _ _ => 1

/-- The calls that have not sent their request. -/
def ConnSt.unsent (s : ConnSt Req Rsp) : Finset Nat :=
  (Finset.range s.reqs.length).filter fun i => (s.pc i).isStart

/-- The steps the connection has left. -/
def ConnSt.left (s : ConnSt Req Rsp) : Nat :=
  3 * s.unsent.card + s.run.left

/-- A call that moves to a state other than `start` leaves the unsent calls. -/
theorem unsent_update (s : ConnSt Req Rsp) (i : Nat) (p : CallerPc Rsp) (hp : p.isStart = false)
    (r : RunPc Req Rsp) (l : List (Nat × Req × Rsp)) :
    (⟨s.reqs, Function.update s.pc i p, r, l⟩ : ConnSt Req Rsp).unsent = s.unsent.erase i := by
  ext j
  by_cases hj : j = i
  · subst hj; simp [ConnSt.unsent, hp]
  · simp [ConnSt.unsent, Function.update_noteq hj, hj]

theorem connInit_left (reqs : List Req) :
    (⟨reqs, fun _ => .start, .recv, []⟩ : ConnSt Req Rsp).left = 3 * reqs.length := by
  simp [ConnSt.left, ConnSt.unsent, CallerPc.isStart, RunPc.left]

/-- Every step of the connection takes exactly one of the steps left. -/
theorem connStep_left {s s' : ConnSt Req Rsp} {a : ConnLbl Rsp} (h : connStep s a = some s') :
    s.left = s'.left + 1 := by
  rcases connStep_cases h with ⟨i, req, -, hr, hp, hrun, rfl⟩ | ⟨rsp, i, req, -, hrun, rfl⟩ |
    ⟨i, j, rsp, -, hw, hrun, rfl⟩
  · have hi : i ∈ s.unsent := by
      simp [ConnSt.unsent, hp, CallerPc.isStart, (List.getElem?_eq_some_iff.1 hr).1]
    have hc := Finset.card_erase_add_one hi
    rw [ConnSt.left, ConnSt.left, unsent_update s i .waiting rfl, hrun]
    simp only [RunPc.left]
    omega
  · simp [ConnSt.left, ConnSt.unsent, hrun, RunPc.left]
  · have hi : i ∉ s.unsent := by simp [ConnSt.unsent, hw, CallerPc.isStart]
    rw [ConnSt.left, ConnSt.left, unsent_update s i (.done rsp) rfl, Finset.erase_eq_of_not_mem hi, hrun]
    rfl

theorem conn_run_left {reqs : List Req} {s s' : ConnSt Req Rsp} {as : List (ConnLbl Rsp)}
    (h : (conn reqs).Run s as s') : s.left = s'.left + as.length := by
  induction h with
  | nil => rfl
  | cons hs _ ih => rw [connStep_left hs, ih, List.length_cons]; omega

/-! ## States in which nothing can move -/

section
variable {s : ConnSt Req Rsp} (hI : ConnInv s)
include hI

/-- When `runConn` cannot move, it is receiving: holding a request it can
always run it, and holding an answer its call is waiting for it. -/
theorem ConnInv.run_recv [Inhabited Rsp] (hs : ∀ b, b.sends = false → connStep s b = none) :
    s.run = .recv := by
  cases hr : s.run with
  | recv => rfl
  | exec i req => simpa [connStep, hr] using hs (.execute default) rfl
  | reply i rsp =>
    have hw : s.pc i = .waiting := (hI.waiting i).2 (by simp [hr, RunPc.owner])
    simpa [connStep, hr, hw] using hs (.recv i) rfl

/-- With `runConn` receiving and every call started, nothing is left, and
every call has returned the answer obtained for its own request. -/
theorem ConnInv.all_answered (hrun : s.run = .recv) (hstart : ∀ i < s.reqs.length, s.pc i ≠ .start) :
    s.left = 0 ∧ ∀ i < s.reqs.length,
      ∃ req rsp, s.reqs[i]? = some req ∧ s.pc i = .done rsp ∧ (i, req, rsp) ∈ s.log := by
  have h0 : s.unsent = ∅ := Finset.filter_eq_empty_iff.2 fun i hi hp =>
    hstart i (Finset.mem_range.1 hi) (CallerPc.isStart_iff.1 hp)
  refine ⟨by simp [ConnSt.left, h0, hrun, RunPc.left], fun i hi => ?_⟩
  cases hp : s.pc i with
  | start => exact absurd hp (hstart i hi)
  | waiting => simpa [hrun, RunPc.owner] using (hI.waiting i).1 hp
  | done rsp =>
    obtain ⟨req, hr, hm⟩ := hI.done i rsp hp
    exact ⟨req, rsp, hr, rfl, hm⟩

end

/-- A reachable state in which nothing can move has nothing left, and every
call has returned the answer obtained for its own request. -/
theorem conn_stuck [Inhabited Rsp] {reqs : List Req} {s : ConnSt Req Rsp} (hR : (conn reqs).Reachable s)
    (hs : (conn reqs).Stuck s) :
    s.left = 0 ∧ ∀ i < reqs.length, ∃ req rsp, reqs[i]? = some req ∧ s.pc i = .done rsp ∧ (i, req, rsp) ∈ s.log := by
  have hI := (conn_inv reqs).reachable hR
  obtain rfl : s.reqs = reqs := (conn_reqs reqs).reachable hR
  have hn : ∀ a, connStep s a = none := fun a => Option.eq_none_iff_forall_not_mem.2 (hs a)
  have hrun := hI.run_recv fun b _ => hn b
  exact hI.all_answered hrun fun i hi hp => by
    simpa [connStep, hp, hrun, List.getElem?_eq_getElem hi] using hn (.send i)

/-- **The connection terminates.** Every interleaving of `n` calls with
`runConn` stops within `3 n` steps, and one that can go no further has
taken exactly `3 n` steps and has every call returned, with the answer
obtained for its own request. -/
theorem conn_terminates [Inhabited Rsp] {reqs : List Req} {as : List (ConnLbl Rsp)} {s : ConnSt Req Rsp}
    (h : (conn reqs).Run ⟨reqs, fun _ => .start, .recv, []⟩ as s) :
    as.length ≤ 3 * reqs.length ∧
      ((∀ a s', ¬(conn reqs).step s a s') → as.length = 3 * reqs.length ∧
        ∀ i < reqs.length, ∃ req rsp, reqs[i]? = some req ∧ s.pc i = .done rsp ∧ (i, req, rsp) ∈ s.log) := by
  have hl := conn_run_left h
  rw [connInit_left] at hl
  refine ⟨by omega, fun hs => ?_⟩
  obtain ⟨hz, hans⟩ := conn_stuck (h.reachable (.init rfl)) hs
  exact ⟨by omega, hans⟩

/-- Two calls run to the end, in six steps. -/
theorem conn_terminates_twoCalls :
    [ConnLbl.send 0, .execute 7, .recv 0, .send 1, .execute 8, .recv 1].length ≤ 3 * [1, 2].length :=
  (conn_terminates (LTS.Run.runSteps (fun _ _ _ h => h)
    (rfl : LTS.runSteps connStep (⟨[1, 2], fun _ => .start, .recv, []⟩ : ConnSt Nat Nat)
      [.send 0, .execute 7, .recv 0, .send 1, .execute 8, .recv 1] = some _))).1

/-! ## Each request exactly once -/

/-- Every call has been served: the log holds each call once and no other
(each request was run exactly once), and each call returned the answer
obtained for its own request. -/
def AllServed (reqs : List Req) (s : ConnSt Req Rsp) : Prop :=
  (s.log.map Prod.fst).Perm (List.range reqs.length) ∧
  ∀ i < reqs.length, ∃ req rsp, reqs[i]? = some req ∧ s.pc i = .done rsp ∧ (i, req, rsp) ∈ s.log

/-- **Each request is run exactly once, and each call gets its own
answer.** For any number `n` of concurrent `execute` calls and any
interleaving of their channel operations with `runConn`'s: at every point
no request has been run twice and every call that returned got the answer
`runConn` obtained for its own request; no interleaving goes on beyond
`3 n` steps; and one that can go no further has run each call's request
exactly once and has every call returned with the answer obtained for it. -/
theorem execute_exactly_once [Inhabited Rsp] {reqs : List Req} {as : List (ConnLbl Rsp)} {s : ConnSt Req Rsp}
    (h : (conn reqs).Run ⟨reqs, fun _ => .start, .recv, []⟩ as s) :
    ExactlyOnce reqs s ∧ as.length ≤ 3 * reqs.length ∧ ((conn reqs).Stuck s → AllServed reqs s) := by
  have hR := h.reachable (.init rfl)
  have hE := conn_exactlyOnce hR
  have hl := conn_run_left h
  rw [connInit_left] at hl
  refine ⟨hE, by omega, fun hs => ?_⟩
  have hans := (conn_stuck hR hs).2
  refine ⟨(List.perm_ext_iff_of_nodup hE.1 (List.nodup_range _)).2 fun i => ?_, hans⟩
  simp only [List.mem_range, List.mem_map]
  constructor
  · rintro ⟨⟨i, req, rsp⟩, hm, rfl⟩
    exact (List.getElem?_eq_some_iff.1 (hE.2.1 _ _ _ hm)).1
  · intro hi
    obtain ⟨req, rsp, -, -, hm⟩ := hans i hi
    exact ⟨_, hm, rfl⟩

/-- Two calls served one after the other, in six steps. -/
theorem execute_exactly_once_twoCalls :
    ∃ s : ConnSt Nat Nat, (conn [1, 2]).Run ⟨[1, 2], fun _ => .start, .recv, []⟩
        [.send 0, .execute 7, .recv 0, .send 1, .execute 8, .recv 1] s ∧
      ExactlyOnce [1, 2] s ∧ [ConnLbl.send 0, .execute 7, .recv 0, .send 1, .execute 8, .recv 1].length ≤
        3 * [1, 2].length ∧ ((conn [1, 2]).Stuck s → AllServed [1, 2] s) :=
  have h := LTS.Run.runSteps (fun _ _ _ h => h)
    (rfl : LTS.runSteps connStep (⟨[1, 2], fun _ => .start, .recv, []⟩ : ConnSt Nat Nat)
      [.send 0, .execute 7, .recv 0, .send 1, .execute 8, .recv 1] = some _)
  ⟨_, h, execute_exactly_once h⟩

/-! ## With `Close` -/

/-- The steps `Close` has left before it returns. -/
def ClosePc.left : ClosePc → Nat
  | .start => 1
  | .waiting => 1
  | .done => 0

/-- What is left: the connection's steps, `close(reqChan)`, `runConn`'s
return, `Close`'s return, and a panic. -/
def CloseSt.left (s : CloseSt Req Rsp) : Nat :=
  s.conn.left + s.reqOpen.toNat + (!s.runExited).toNat + s.closer.left + s.panicked.isNone.toNat

theorem closeInit_left (reqs : List Req) :
    (⟨⟨reqs, fun _ => .start, .recv, []⟩, true, false, .start, none⟩ : CloseSt Req Rsp).left =
      3 * reqs.length + 4 := by
  simp only [CloseSt.left, connInit_left, ClosePc.left]
  rfl

/-- Every step of the close protocol takes exactly one of the steps left. -/
theorem closeStep_left {s s' : CloseSt Req Rsp} {a : CloseLbl Rsp} (h : closeStep s a = some s') :
    s.left = s'.left + 1 := by
  obtain ⟨hp, ⟨b, c, -, -, hc, rfl⟩ | ⟨i, -, -, -, -, rfl⟩ | ⟨-, hcl, ho, rfl⟩ |
    ⟨-, -, -, hx, rfl⟩ | ⟨-, hcl, -, rfl⟩⟩ := closeStep_cases h
  · simp only [CloseSt.left, connStep_left hc]; omega
  · simp [CloseSt.left, hp]
  · simp [CloseSt.left, hcl, ho, ClosePc.left]; omega
  · simp [CloseSt.left, hx]; omega
  · simp [CloseSt.left, hcl, ClosePc.left]; omega

theorem close_run_left {reqs : List Req} {s s' : CloseSt Req Rsp} {as : List (CloseLbl Rsp)}
    (h : (connClose reqs).Run s as s') : s.left = s'.left + as.length := by
  induction h with
  | nil => rfl
  | cons hs _ ih => rw [closeStep_left hs, ih, List.length_cons]; omega

/-- A state with no panic in which nothing can move has `Close` returned,
`runConn` returned, and every call started. -/
theorem CloseInv.stuck [Inhabited Rsp] {reqs : List Req} {s : CloseSt Req Rsp} (hI : CloseInv reqs s)
    (hp : s.panicked = none) (hs : ∀ a, closeStep s a = none) :
    s.closer = .done ∧ s.runExited = true ∧ s.conn.run = .recv ∧
      ∀ i < s.conn.reqs.length, s.conn.pc i ≠ .start := by
  have hrun : s.conn.run = .recv := hI.conn.run_recv fun b hb => by
    simpa [closeStep, hp, hb] using hs (.conn b)
  have ho : s.reqOpen = false := by
    cases ho : s.reqOpen
    · rfl
    · simpa [closeStep, hp, hI.closer.2 ho, ho] using hs .closeReq
  have hx : s.runExited = true := by
    cases hx : s.runExited
    · simpa [closeStep, hp, hrun, ho, hx] using hs .exit
    · rfl
  refine ⟨?_, hx, hrun, fun i hi hpc => ?_⟩
  · cases hc : s.closer
    · simp [hI.closer.1 hc] at ho
    · simpa [closeStep, hp, hc, hx] using hs .closeSocket
    · rfl
  · simpa [closeStep, hp, List.getElem?_eq_getElem hi, hpc, ho] using hs (.sendClosed i)

/-- **Closing terminates.** Every interleaving of `n` calls with `runConn`
and one `Close` stops within `3 n + 4` steps. One that can go no further
has either panicked, or has taken exactly `3 n + 3` steps and has `Close`
returned, `runConn` returned and every call returned with the answer
obtained for its own request. -/
theorem connClose_terminates [Inhabited Rsp] {reqs : List Req} {as : List (CloseLbl Rsp)}
    {s : CloseSt Req Rsp}
    (h : (connClose reqs).Run ⟨⟨reqs, fun _ => .start, .recv, []⟩, true, false, .start, none⟩ as s) :
    as.length ≤ 3 * reqs.length + 4 ∧
      ((∀ a s', ¬(connClose reqs).step s a s') → s.panicked = none →
        as.length = 3 * reqs.length + 3 ∧ s.closer = .done ∧ s.runExited = true ∧
        ∀ i < reqs.length, ∃ req rsp, reqs[i]? = some req ∧ s.conn.pc i = .done rsp ∧
          (i, req, rsp) ∈ s.conn.log) := by
  have hl := close_run_left h
  rw [closeInit_left] at hl
  refine ⟨by omega, fun hs hp => ?_⟩
  have hI := closeInv_reachable (h.reachable (.init rfl))
  obtain ⟨hd, hx, hrun, hstart⟩ := hI.stuck hp fun a => Option.eq_none_iff_forall_not_mem.2 (hs a)
  obtain ⟨hz, hans⟩ := hI.conn.all_answered hrun hstart
  have ho : s.reqOpen = false := (hI.exited hx).1
  refine ⟨?_, hd, hx, hI.reqs ▸ hans⟩
  simp [CloseSt.left, hz, ho, hx, hd, hp, ClosePc.left] at hl
  omega

/-- One call, then `Close`: seven steps, within the bound. -/
theorem connClose_terminates_oneCall :
    [CloseLbl.conn (.send 0), .conn (.execute ()), .conn (.recv 0), .closeReq, .exit, .closeSocket].length ≤
      3 * [()].length + 4 :=
  (connClose_terminates (LTS.Run.runSteps (fun _ _ _ h => h)
    (rfl : LTS.runSteps closeStep
      (⟨⟨[()], fun _ => .start, .recv, []⟩, true, false, .start, none⟩ : CloseSt Unit Unit)
      [.conn (.send 0), .conn (.execute ()), .conn (.recv 0), .closeReq, .exit, .closeSocket] = some _))).1

/-! ## `Close` needs no caller -/

/-- The steps in which a call sends its request. -/
def CloseLbl.sends : CloseLbl Rsp → Bool
  | .conn b => b.sends
  | .sendClosed _ => true
  | _ => false

section
variable {s : CloseSt Req Rsp} (hp : s.panicked = none)
include hp

theorem closeStep_conn {b : ConnLbl Rsp} {c : ConnSt Req Rsp} (hc : connStep s.conn b = some c)
    (hb : b.sends = false) : closeStep s (.conn b) = some { s with conn := c } := by
  simp [closeStep, hp, hb, hc]

theorem closeStep_exit (hr : s.conn.run = .recv) (ho : s.reqOpen = false) (hx : s.runExited = false) :
    closeStep s .exit = some { s with runExited := true } := by
  simp [closeStep, hp, hr, ho, hx]

theorem closeStep_closeSocket (hc : s.closer = .waiting) (hx : s.runExited = true) :
    closeStep s .closeSocket = some { s with closer := .done } := by
  simp [closeStep, hp, hc, hx]

end

section
variable {reqs : List Req} {s : CloseSt Req Rsp} (h : (connClose reqs).Reachable s)
  (hc : s.closer = .waiting) (hp : s.panicked = none)
include h hc hp

/-- With `runConn` receiving, it returns, then `Close` does. -/
theorem close_finish_recv (hrun : s.conn.run = .recv) :
    ∃ as s', (connClose reqs).Run s as s' ∧ as.length ≤ 2 ∧ (∀ a ∈ as, a.sends = false) ∧
      s'.closer = .done := by
  have ho : s.reqOpen = false := by simpa [hc] using (closeInv_reachable h).closer
  cases hx : s.runExited
  · exact ⟨[.exit, .closeSocket], _, .cons (closeStep_exit hp hrun ho hx) (.cons (closeStep_closeSocket hp hc rfl) .nil),
      by simp, by simp [CloseLbl.sends], rfl⟩
  · exact ⟨[.closeSocket], _, .cons (closeStep_closeSocket hp hc hx) .nil, by simp, by simp [CloseLbl.sends], rfl⟩

/-- With `runConn` holding an answer, its call receives it; then as above. -/
theorem close_finish_reply {i : Nat} {rsp : Rsp} (hrun : s.conn.run = .reply i rsp) :
    ∃ as s', (connClose reqs).Run s as s' ∧ as.length ≤ 3 ∧ (∀ a ∈ as, a.sends = false) ∧
      s'.closer = .done := by
  have hw : s.conn.pc i = .waiting := ((closeInv_reachable h).conn.waiting i).2 (by simp [hrun, RunPc.owner])
  have hst := closeStep_conn hp (connStep_recv hw hrun) rfl
  obtain ⟨as, s', hr, hl, hs, hd⟩ := close_finish_recv (h.next _ hst) hc hp rfl
  exact ⟨.conn (.recv i) :: as, s', .cons hst hr, by simp [hl], List.forall_mem_cons.2 ⟨rfl, hs⟩, hd⟩

end

/-- **`Close` needs no caller.** From every reachable state in which
`Close` has closed `reqChan` and no call has panicked, there is a schedule
of at most four steps, of `runConn`, the waiting call's receive and `Close`
itself, none of them a call sending its request, after which `Close` has
returned. -/
theorem close_completes [Inhabited Rsp] {reqs : List Req} {s : CloseSt Req Rsp}
    (h : (connClose reqs).Reachable s) (hc : s.closer ≠ .start) (hp : s.panicked = none) :
    ∃ as s', (connClose reqs).Run s as s' ∧ as.length ≤ 4 ∧ (∀ a ∈ as, a.sends = false) ∧
      s'.closer = .done := by
  cases hcl : s.closer with
  | start => exact absurd hcl hc
  | done => exact ⟨[], s, .nil, by simp, by simp, hcl⟩
  | waiting =>
    cases hrun : s.conn.run with
    | recv =>
      obtain ⟨as, s', hr, hl, hs, hd⟩ := close_finish_recv h hcl hp hrun
      exact ⟨as, s', hr, by omega, hs, hd⟩
    | reply i rsp =>
      obtain ⟨as, s', hr, hl, hs, hd⟩ := close_finish_reply h hcl hp hrun
      exact ⟨as, s', hr, by omega, hs, hd⟩
    | exec i req =>
      have hst := closeStep_conn hp (connStep_execute hrun default) rfl
      obtain ⟨as, s', hr, hl, hs, hd⟩ := close_finish_reply (h.next _ hst) hcl hp rfl
      exact ⟨_ :: as, s', .cons hst hr, by simp [hl], List.forall_mem_cons.2 ⟨rfl, hs⟩, hd⟩

/-- `Close` called while call 0 is held by `runConn` and call 1 has not sent:
`Close` returns in four steps, with call 1 never sending. -/
theorem close_completes_busy :
    ∃ as s', (connClose [(), ()] : LTS (CloseSt Unit Unit) (CloseLbl Unit)).Run
      ⟨⟨[(), ()], Function.update (fun _ => .start) 0 .waiting, .exec 0 (), []⟩, false, false, .waiting, none⟩
      as s' ∧ as.length ≤ 4 ∧ (∀ a ∈ as, a.sends = false) ∧ s'.closer = .done :=
  close_completes (LTS.Reachable.runSteps (fun _ _ _ h => h) (.init rfl)
    (rfl : LTS.runSteps closeStep ⟨⟨[(), ()], fun _ => .start, .recv, []⟩, true, false, .start, none⟩
      [.conn (.send 0), .closeReq] = some _)) (by decide) rfl

end GoL2tp.Nll2tp
