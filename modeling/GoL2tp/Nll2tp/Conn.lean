import GoL2tp.Core.Lts
import Mathlib.Data.List.Nodup

/-!
# The nll2tp connection: one goroutine serving many callers

`Dial` starts `runConn`, which ranges over the unbuffered `reqChan`, runs
each request on the netlink socket and sends the answer on the unbuffered
`rspChan` (internal/nll2tp/nll2tp.go:110-133, :365-374). A caller of
`execute` (:294-307) sends its request on `reqChan`, then receives from
`rspChan`. Nothing in a response says whose it is: it goes to whichever
goroutine is receiving on `rspChan`.

The model has any number of `execute` calls, call `i` with request
`reqs[i]`; a call is `start` (about to send), `waiting` (sent, receiving)
or `done rsp`. `runConn` is receiving (`recv`), holding call `i`'s request
(`exec`), or holding the answer (`reply`); the index `i` is ghost state
(Go's request pointer), which the `recv` step does not consult. An
unbuffered channel operation is one step in which sender and receiver both
move. The kernel's answer is any value (`execute rsp`), recorded with the
call it was obtained for in the ghost `log`. `Close` is not modelled here
(no call is made after it).

Results: `conn_inv` (in every reachable state exactly `runConn`'s current
call is waiting, and every answer in the log is for that call's own
request); `conn_exactlyOnce` (no request is run twice, every finished call
returns the answer `runConn` obtained for its own request, and every
submitted request has been run or is the one `runConn` runs next);
`execute_completes` (a waiting call finishes after at most two steps of
`runConn`). `Nll2tp.Progress` adds that every interleaving stops, and that
one which stops has run each request exactly once.
-/
namespace GoL2tp.Nll2tp

variable {Req Rsp : Type}

/-- Where an `execute` call is. -/
inductive CallerPc (Rsp : Type) where
  | start
  | waiting
  | done (rsp : Rsp)

/-- Where `runConn` is; `i` is the call whose request it holds. -/
inductive RunPc (Req Rsp : Type) where
  | recv
  | exec (i : Nat) (req : Req)
  | reply (i : Nat) (rsp : Rsp)

/-- The call `runConn` is serving. -/
def RunPc.owner : RunPc Req Rsp → Option Nat
  | .recv => none
  | .exec i _ => some i
  | .reply i _ => some i

structure ConnSt (Req Rsp : Type) where
  reqs : List Req
  pc : Nat → CallerPc Rsp
  run : RunPc Req Rsp
  /-- ghost: every `c.c.Execute`, with the call its request came from -/
  log : List (Nat × Req × Rsp)

inductive ConnLbl (Rsp : Type) where
  /-- call `i` sends on `reqChan`, `runConn` receives -/
  | send (i : Nat)
  /-- `runConn` runs its request; the kernel answers `rsp` -/
  | execute (rsp : Rsp)
  /-- `runConn` sends on `rspChan`, call `i` receives -/
  | recv (i : Nat)

/-- mirrors internal/nll2tp/nll2tp.go:294-307 and :365-374 -/
def connStep (s : ConnSt Req Rsp) : ConnLbl Rsp → Option (ConnSt Req Rsp)
  | .send i =>
    match s.reqs[i]?, s.pc i, s.run with
    | some req, .start, .recv => some { s with pc := Function.update s.pc i .waiting, run := .exec i req }
    | _, _, _ => none
  | .execute rsp =>
    match s.run with
    | .exec i req => some { s with run := .reply i rsp, log := s.log ++ [(i, req, rsp)] }
    | _ => none
  | .recv i =>
    match s.pc i, s.run with
    | .waiting, .reply _ rsp => some { s with pc := Function.update s.pc i (.done rsp), run := .recv }
    | _, _ => none

/-- The calls `reqs`, none started, `runConn` receiving. -/
def conn (reqs : List Req) : LTS (ConnSt Req Rsp) (ConnLbl Rsp) :=
  ⟨fun s => s = ⟨reqs, fun _ => .start, .recv, []⟩, fun s a s' => connStep s a = some s'⟩

/-! ## What a step can do -/

theorem connStep_cases {s s' : ConnSt Req Rsp} {a : ConnLbl Rsp} (h : connStep s a = some s') :
    (∃ i req, a = .send i ∧ s.reqs[i]? = some req ∧ s.pc i = .start ∧ s.run = .recv ∧
      s' = { s with pc := Function.update s.pc i .waiting, run := .exec i req }) ∨
    (∃ rsp i req, a = .execute rsp ∧ s.run = .exec i req ∧
      s' = { s with run := .reply i rsp, log := s.log ++ [(i, req, rsp)] }) ∨
    (∃ i j rsp, a = .recv i ∧ s.pc i = .waiting ∧ s.run = .reply j rsp ∧
      s' = { s with pc := Function.update s.pc i (.done rsp), run := .recv }) := by
  cases a with
  | send i =>
    simp only [connStep] at h
    split at h <;> simp only [Option.some.injEq, reduceCtorEq] at h
    exact .inl ⟨i, _, rfl, ‹_›, ‹_›, ‹_›, h.symm⟩
  | execute rsp =>
    simp only [connStep] at h
    split at h <;> simp only [Option.some.injEq, reduceCtorEq] at h
    exact .inr (.inl ⟨rsp, _, _, rfl, ‹_›, h.symm⟩)
  | recv i =>
    simp only [connStep] at h
    split at h <;> simp only [Option.some.injEq, reduceCtorEq] at h
    exact .inr (.inr ⟨i, _, _, rfl, ‹_›, ‹_›, h.symm⟩)

theorem connStep_execute {c : ConnSt Req Rsp} {i : Nat} {req : Req} (hr : c.run = .exec i req) (rsp : Rsp) :
    connStep c (.execute rsp) = some { c with run := .reply i rsp, log := c.log ++ [(i, req, rsp)] } := by
  simp only [connStep, hr]

theorem connStep_recv {c : ConnSt Req Rsp} {i j : Nat} {rsp : Rsp} (hw : c.pc i = .waiting)
    (hr : c.run = .reply j rsp) :
    connStep c (.recv i) = some { c with pc := Function.update c.pc i (.done rsp), run := .recv } := by
  simp only [connStep, hw, hr]

/-! ## The invariant -/

/-- Exactly the call `runConn` serves is waiting; `runConn` holds that call's
request, or the answer it logged for it; every logged answer is for the
logged call's own request and was delivered to it unless it is the one
`runConn` holds; every finished call got a logged answer for its request;
no call is logged twice. -/
structure ConnInv (s : ConnSt Req Rsp) : Prop where
  waiting : ∀ i, s.pc i = .waiting ↔ s.run.owner = some i
  exec : ∀ i req, s.run = .exec i req → s.reqs[i]? = some req
  reply : ∀ i rsp, s.run = .reply i rsp → ∃ req, s.reqs[i]? = some req ∧ (i, req, rsp) ∈ s.log
  log : ∀ i req rsp, (i, req, rsp) ∈ s.log →
    s.reqs[i]? = some req ∧ (s.pc i = .done rsp ∨ s.run = .reply i rsp)
  done : ∀ i rsp, s.pc i = .done rsp → ∃ req, s.reqs[i]? = some req ∧ (i, req, rsp) ∈ s.log
  nodup : (s.log.map Prod.fst).Nodup

theorem connInv_init (reqs : List Req) : ConnInv (⟨reqs, fun _ => .start, .recv, []⟩ : ConnSt Req Rsp) :=
  ⟨fun _ => by simp [RunPc.owner], by simp, by simp, by simp, by simp, by simp⟩

section
variable {s : ConnSt Req Rsp} (h : ConnInv s)
include h

theorem ConnInv.send {i : Nat} {req : Req} (hr : s.reqs[i]? = some req) (hp : s.pc i = .start)
    (hrun : s.run = .recv) :
    ConnInv { s with pc := Function.update s.pc i .waiting, run := .exec i req } := by
  have hnw : ∀ j, s.pc j ≠ .waiting := fun j hj => by simpa [hrun, RunPc.owner] using (h.waiting j).1 hj
  have hlog : ∀ j req' rsp, (j, req', rsp) ∈ s.log → s.reqs[j]? = some req' ∧ s.pc j = .done rsp :=
    fun j req' rsp hm => by simpa [hrun] using h.log j req' rsp hm
  refine ⟨fun j => ?_, fun j req' he => ?_, fun _ _ he => (by cases he), fun j req' rsp hm => ?_,
    fun j rsp hd => ?_, h.nodup⟩
  · by_cases hj : j = i
    · subst hj; simp [RunPc.owner]
    · simp [Function.update_noteq hj, RunPc.owner, hnw j, Ne.symm hj]
  · cases he; exact hr
  · obtain ⟨hq, hd⟩ := hlog j req' rsp hm
    have hji : j ≠ i := fun e => by rw [e, hp] at hd; cases hd
    exact ⟨hq, .inl (by simp [Function.update_noteq hji, hd])⟩
  · have hji : j ≠ i := fun e => by subst e; simp at hd
    exact h.done j rsp (by simpa [Function.update_noteq hji] using hd)

theorem ConnInv.execute {i : Nat} {req : Req} (rsp : Rsp) (hrun : s.run = .exec i req) :
    ConnInv { s with run := .reply i rsp, log := s.log ++ [(i, req, rsp)] } := by
  have hw : s.pc i = .waiting := (h.waiting i).2 (by simp [hrun, RunPc.owner])
  refine ⟨fun j => by simpa [hrun, RunPc.owner] using h.waiting j, fun _ _ he => (by cases he),
    fun j rsp' he => ?_, fun j req' rsp' hm => ?_, fun j rsp' hd => ?_, ?_⟩
  · cases he; exact ⟨req, h.exec i req hrun, by simp⟩
  · rcases List.mem_append.1 hm with hm | hm
    · obtain ⟨hq, hd | hr⟩ := h.log j req' rsp' hm
      · exact ⟨hq, .inl hd⟩
      · rw [hrun] at hr; cases hr
    · simp only [List.mem_singleton, Prod.mk.injEq] at hm
      obtain ⟨rfl, rfl, rfl⟩ := hm
      exact ⟨h.exec j req' hrun, .inr rfl⟩
  · obtain ⟨req', hq, hm⟩ := h.done j rsp' hd
    exact ⟨req', hq, List.mem_append_left _ hm⟩
  · rw [List.map_append, List.nodup_append]
    refine ⟨h.nodup, List.nodup_singleton _, fun a ha hb => ?_⟩
    simp only [List.map_cons, List.map_nil, List.mem_singleton] at hb
    subst hb
    obtain ⟨⟨j, req', rsp'⟩, hm, rfl⟩ := List.mem_map.1 ha
    obtain ⟨-, hd | hr⟩ := h.log j req' rsp' hm
    · rw [hw] at hd; cases hd
    · rw [hrun] at hr; cases hr

theorem ConnInv.recv {i j : Nat} {rsp : Rsp} (hw : s.pc i = .waiting) (hrun : s.run = .reply j rsp) :
    ConnInv { s with pc := Function.update s.pc i (.done rsp), run := .recv } := by
  have hij : i = j := (by simpa [hrun, RunPc.owner] using (h.waiting i).1 hw : j = i).symm
  subst hij
  refine ⟨fun k => ?_, fun _ _ he => (by cases he), fun _ _ he => (by cases he), fun k req rsp' hm => ?_,
    fun k rsp' hd => ?_, h.nodup⟩
  · by_cases hk : k = i
    · subst hk; simp [RunPc.owner]
    · simp only [Function.update_noteq hk, RunPc.owner, reduceCtorEq, iff_false]
      intro hk'
      exact hk (by simpa [hrun, RunPc.owner] using (h.waiting k).1 hk' : i = k).symm
  · obtain ⟨hq, hd | hr⟩ := h.log k req rsp' hm
    · have hki : k ≠ i := fun e => by rw [e, hw] at hd; cases hd
      exact ⟨hq, .inl (by simp [Function.update_noteq hki, hd])⟩
    · rw [hrun] at hr; cases hr
      exact ⟨hq, .inl (by simp)⟩
  · by_cases hk : k = i
    · subst hk
      simp only [Function.update_same, CallerPc.done.injEq] at hd
      subst hd
      exact h.reply k rsp hrun
    · exact h.done k rsp' (by simpa [Function.update_noteq hk] using hd)

end

theorem conn_inv (reqs : List Req) : (@conn Req Rsp reqs).Inductive ConnInv where
  init := by rintro _ rfl; exact connInv_init reqs
  step := by
    intro s a s' h hs
    rcases connStep_cases hs with ⟨i, req, -, hr, hp, hrun, rfl⟩ | ⟨rsp, i, req, -, hrun, rfl⟩ |
      ⟨i, j, rsp, -, hw, hrun, rfl⟩
    · exact h.send hr hp hrun
    · exact h.execute rsp hrun
    · exact h.recv hw hrun

theorem conn_reqs (reqs : List Req) : (@conn Req Rsp reqs).Inductive (fun s => s.reqs = reqs) where
  init := by rintro _ rfl; rfl
  step := by
    intro s a s' h hs
    rcases connStep_cases hs with ⟨_, _, -, -, -, -, rfl⟩ | ⟨_, _, _, -, -, rfl⟩ | ⟨_, _, _, -, -, -, rfl⟩ <;>
      exact h

/-- The requests `runConn` ran, each with the answer it obtained, call by
call: no call is run twice; each run request is its call's own; each
finished call returned the answer obtained for its own request; each
submitted request has been run or is the one `runConn` holds. -/
def ExactlyOnce (reqs : List Req) (s : ConnSt Req Rsp) : Prop :=
  (s.log.map Prod.fst).Nodup ∧
  (∀ i req rsp, (i, req, rsp) ∈ s.log → reqs[i]? = some req) ∧
  (∀ i rsp, s.pc i = .done rsp → ∃ req, reqs[i]? = some req ∧ (i, req, rsp) ∈ s.log) ∧
  (∀ i, s.pc i ≠ .start → i ∈ s.log.map Prod.fst ∨ ∃ req, reqs[i]? = some req ∧ s.run = .exec i req)

/-- Response routing, at every point of every interleaving: every request
is run at most once, every call that returns gets exactly the answer
`runConn` obtained for that call's own request, and every request sent has
been run or is being run. -/
theorem conn_exactlyOnce {reqs : List Req} {s : ConnSt Req Rsp} (h : (conn reqs).Reachable s) :
    ExactlyOnce reqs s := by
  have hI := (conn_inv reqs).reachable h
  have hr : s.reqs = reqs := (conn_reqs reqs).reachable h
  subst hr
  refine ⟨hI.nodup, fun i req rsp hm => (hI.log i req rsp hm).1, hI.done, fun i hs => ?_⟩
  cases hp : s.pc i with
  | start => exact absurd hp hs
  | done rsp =>
    obtain ⟨req, -, hm⟩ := hI.done i rsp hp
    exact .inl (List.mem_map.2 ⟨_, hm, rfl⟩)
  | waiting =>
    have ho := (hI.waiting i).1 hp
    cases hrun : s.run with
    | recv => simp [hrun, RunPc.owner] at ho
    | exec j req =>
      simp only [hrun, RunPc.owner, Option.some.injEq] at ho
      subst ho
      exact .inr ⟨req, hI.exec j req hrun, rfl⟩
    | reply j rsp =>
      simp only [hrun, RunPc.owner, Option.some.injEq] at ho
      subst ho
      obtain ⟨req, -, hm⟩ := hI.reply j rsp hrun
      exact .inl (List.mem_map.2 ⟨_, hm, rfl⟩)

/-- Two calls; the first has sent its request. -/
def twoCalls : ConnSt Nat Nat := ⟨[1, 2], Function.update (fun _ => .start) 0 .waiting, .exec 0 1, []⟩

/-- **A waiting call finishes.** `runConn` holds the call's request, and
after it runs it (whatever the kernel answers) and sends the answer, the
call is done; or it already holds the answer, and one send finishes it. -/
theorem execute_completes {reqs : List Req} {s : ConnSt Req Rsp} (h : (conn reqs).Reachable s) {i : Nat}
    (hw : s.pc i = .waiting) :
    (∃ req, s.run = .exec i req ∧ ∀ rsp, ∃ s', (conn reqs).Run s [.execute rsp, .recv i] s' ∧
      s'.pc i = .done rsp) ∨
    (∃ rsp, s.run = .reply i rsp ∧ ∃ s', (conn reqs).Run s [.recv i] s' ∧ s'.pc i = .done rsp) := by
  have ho := ((conn_inv reqs).reachable h).waiting i |>.1 hw
  cases hrun : s.run with
  | recv => simp [hrun, RunPc.owner] at ho
  | exec j req =>
    simp only [hrun, RunPc.owner, Option.some.injEq] at ho
    subst ho
    exact .inl ⟨req, rfl, fun rsp => ⟨_, .cons (connStep_execute hrun rsp) (.cons (connStep_recv hw rfl) .nil),
      by simp⟩⟩
  | reply j rsp =>
    simp only [hrun, RunPc.owner, Option.some.injEq] at ho
    subst ho
    exact .inr ⟨rsp, rfl, _, .cons (connStep_recv hw hrun) .nil, by simp⟩

/-- The first of two calls, waiting while `runConn` holds its request. -/
theorem execute_completes_twoCalls :
    (∃ req, twoCalls.run = .exec 0 req ∧ ∀ rsp, ∃ s', (conn [1, 2]).Run twoCalls [.execute rsp, .recv 0] s' ∧
      s'.pc 0 = .done rsp) ∨
    (∃ rsp, twoCalls.run = .reply 0 rsp ∧ ∃ s', (conn [1, 2]).Run twoCalls [.recv 0] s' ∧ s'.pc 0 = .done rsp) :=
  execute_completes
    ((show (conn [1, 2]).Reachable ⟨[1, 2], fun _ => .start, .recv, []⟩ from .init rfl).next (.send 0) rfl) rfl

end GoL2tp.Nll2tp
