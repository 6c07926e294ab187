import GoL2tp.Core.Lts
import GoL2tp.Context.Registry

/-!
# Call serial numbers under concurrent callers

`allocCallSerial` (cmd/kl2tpd/kl2tpd.go:664-669) takes `serialLock`, runs
`callSerial++`, evaluates its return value `callSerial`, and releases the
lock in its deferred `Unlock`. `NewContext` starts the counter at a draw of
`rand.Uint32()` (:286-306); nothing else writes it.

Any number of calls run at once. Call `i` is `idle` (before `Lock`),
`locked`, `bumped` (after `callSerial++`), `read v` (its return value
evaluated) or `returned v` (after the deferred `Unlock`); a step is one of
these statements of one call, and `Lock` waits while another call holds
the lock. The ghost list `order` records the calls in the order they took
the lock.

Results:
* `serial_inv`: in every reachable state the `j`-th call to take the lock
  has returned `r + j + 1` (modulo 2^32), except the one still holding it.
* `serialRun_nodup`, `serialRun_sorted_iff`: the first `k ≤ 2^32` of these
  values are pairwise distinct, and strictly increasing exactly when the
  counter does not pass from 2^32 - 1 to 0 between two of them.
* `callSerial_spec` assembles the two.
* `callSerial_returns`: the lock is never held for ever; from every
  reachable state a call that has not taken it can return, after a
  schedule of at most seven statements, with the value of the next call to
  take the lock.
-/
namespace GoL2tp

/-! ## The values -/

/-- The value the `j`-th call to take the lock returns, from a counter
started at `r`. -/
def serialVal (r : UInt32) (j : Nat) : UInt32 := r + UInt32.ofNat (j + 1)

/-- The values of the first `k` calls, in the order they take the lock. -/
def serialRun (r : UInt32) (k : Nat) : List UInt32 := (List.range k).map (serialVal r)

theorem serialVal_toNat (r : UInt32) (j : Nat) : (serialVal r j).toNat = (r.toNat + j + 1) % 2 ^ 32 := by
  rw [serialVal, u32_toNat_add, u32_toNat_ofNat, Nat.add_mod_mod, Nat.add_assoc]

theorem serialVal_succ (r : UInt32) (n : Nat) : r + UInt32.ofNat n + 1 = serialVal r n := by
  apply UInt32.toNat.inj
  rw [serialVal_toNat, u32_toNat_add, u32_toNat_add, u32_toNat_ofNat]
  simp only [Nat.add_mod_mod, Nat.mod_add_mod]
  rfl

theorem serialVal_inj {r : UInt32} {j j' : Nat} (hj : j < 2 ^ 32) (hj' : j' < 2 ^ 32)
    (h : serialVal r j = serialVal r j') : j = j' := by
  have := congrArg UInt32.toNat h
  rw [serialVal_toNat, serialVal_toNat] at this
  omega

theorem serialRun_pairwise_iff (R : UInt32 → UInt32 → Prop) (r : UInt32) (k : Nat) :
    (serialRun r k).Pairwise R ↔ ∀ i j, i < j → j < k → R (serialVal r i) (serialVal r j) := by
  simp only [serialRun, List.pairwise_map, List.pairwise_iff_getElem, List.length_range,
    List.getElem_range, List.length_map, List.getElem_map]
  exact ⟨fun h i j hij hj => h i j (by omega) hj hij, fun h i j _ hj hij => h i j hij hj⟩

/-- The first `2^32` values are pairwise distinct. -/
theorem serialRun_nodup (r : UInt32) {k : Nat} (hk : k ≤ 2 ^ 32) : (serialRun r k).Nodup :=
  (serialRun_pairwise_iff _ r k).2 fun _ _ hij hj e => absurd (serialVal_inj (by omega) (by omega) e) hij.ne

/-- The first `k ≤ 2^32` values increase strictly exactly when the counter
does not wrap between two of them: it stays below 2^32 (`r + k < 2^32`),
or it wraps before the first (`r = 2^32 - 1`). -/
theorem serialRun_sorted_iff (r : UInt32) {k : Nat} (hk : k ≤ 2 ^ 32) :
    (serialRun r k).Sorted (· < ·) ↔ r.toNat + k < 2 ^ 32 ∨ r = 0xFFFFFFFF := by
  have hr : r.toNat < 2 ^ 32 := r.toNat_lt_size
  have hmax : r = 0xFFFFFFFF ↔ r.toNat = 2 ^ 32 - 1 :=
    ⟨fun e => by subst e; rfl, fun e => UInt32.toNat.inj (by rw [e]; rfl)⟩
  rw [List.Sorted, serialRun_pairwise_iff, hmax]
  simp only [u32_lt_iff, serialVal_toNat]
  constructor
  · intro h
    by_contra hc
    have := h (2 ^ 32 - 2 - r.toNat) (2 ^ 32 - 1 - r.toNat) (by omega) (by omega)
    omega
  · rintro h i j hij hj
    omega

/-! ## Concurrent calls -/

/-- Where one `allocCallSerial` call is. -/
inductive SerialPc where
  | idle
  | locked
  | bumped
  | read (v : UInt32)
  | returned (v : UInt32)
  deriving DecidableEq

/-- The counter, the call holding `serialLock`, where each call is, and
(ghost) the calls in the order they took the lock. -/
structure SerialSt where
  callSerial : UInt32
  holder : Option Nat
  pc : Nat → SerialPc
  order : List Nat

/-- One statement of call `i`. -/
inductive SerialLbl where
  | lock (i : Nat)
  | bump (i : Nat)
  | read (i : Nat)
  | unlock (i : Nat)

/-- mirrors cmd/kl2tpd/kl2tpd.go:664-669 -/
def serialStep (s : SerialSt) : SerialLbl → Option SerialSt
  | .lock i =>
    if s.pc i = .idle ∧ s.holder = none then
      some { s with holder := some i, pc := Function.update s.pc i .locked, order := s.order ++ [i] }
    else none
  | .bump i =>
    if s.pc i = .locked then
      some { s with callSerial := s.callSerial + 1, pc := Function.update s.pc i .bumped }
    else none
  | .read i =>
    if s.pc i = .bumped then some { s with pc := Function.update s.pc i (.read s.callSerial) } else none
  | .unlock i =>
    match s.pc i with
    | .read v => some { s with holder := none, pc := Function.update s.pc i (.returned v) }
    | _ => none

/-- Calls on one context whose counter `NewContext` started at `r`. -/
def serialCalls (r : UInt32) : LTS SerialSt SerialLbl :=
  ⟨fun s => s = ⟨r, none, fun _ => .idle, []⟩, fun s a s' => serialStep s a = some s'⟩

theorem serialStep_cases {s s' : SerialSt} {a : SerialLbl} (h : serialStep s a = some s') :
    (∃ i, a = .lock i ∧ s.pc i = .idle ∧ s.holder = none ∧
      s' = { s with holder := some i, pc := Function.update s.pc i .locked, order := s.order ++ [i] }) ∨
    (∃ i, a = .bump i ∧ s.pc i = .locked ∧
      s' = { s with callSerial := s.callSerial + 1, pc := Function.update s.pc i .bumped }) ∨
    (∃ i, a = .read i ∧ s.pc i = .bumped ∧
      s' = { s with pc := Function.update s.pc i (.read s.callSerial) }) ∨
    (∃ i v, a = .unlock i ∧ s.pc i = .read v ∧
      s' = { s with holder := none, pc := Function.update s.pc i (.returned v) }) := by
  cases a with
  | lock i =>
    simp only [serialStep] at h
    split_ifs at h with hc
    cases h; exact .inl ⟨i, rfl, hc.1, hc.2, rfl⟩
  | bump i =>
    simp only [serialStep] at h
    split_ifs at h with hc
    cases h; exact .inr (.inl ⟨i, rfl, hc, rfl⟩)
  | read i =>
    simp only [serialStep] at h
    split_ifs at h with hc
    cases h; exact .inr (.inr (.inl ⟨i, rfl, hc, rfl⟩))
  | unlock i =>
    simp only [serialStep] at h
    split at h <;> simp only [Option.some.injEq, reduceCtorEq] at h
    exact .inr (.inr (.inr ⟨i, _, rfl, ‹_›, h.symm⟩))

/-! ## The invariant -/

/-- Call `h` holds the lock after `n` calls before it, at `p`: not yet
incremented (the counter at `r + n`), or incremented (at `r + n + 1`), or
with that value read. -/
def Holding (r : UInt32) (c : UInt32) (n : Nat) (p : SerialPc) : Prop :=
  p = .locked ∧ c = r + UInt32.ofNat n ∨ p = .bumped ∧ c = serialVal r n ∨
    p = .read (serialVal r n) ∧ c = serialVal r n

/-- The calls that took the lock are distinct, and each has returned its
value except the last, which holds the lock; the others are idle; a free
lock leaves the counter at `r` plus the number of calls. -/
structure SerialInv (r : UInt32) (s : SerialSt) : Prop where
  nodup : s.order.Nodup
  idle : ∀ i, i ∉ s.order → s.pc i = .idle
  done : ∀ j (hj : j < s.order.length),
    s.holder = some s.order[j] ∨ s.pc s.order[j] = .returned (serialVal r j)
  held : ∀ h, s.holder = some h → ∃ pre, s.order = pre ++ [h] ∧ Holding r s.callSerial pre.length (s.pc h)
  free : s.holder = none → s.callSerial = r + UInt32.ofNat s.order.length

namespace SerialInv

variable {r : UInt32} {s : SerialSt} {i : Nat}

theorem init (r : UInt32) : SerialInv r ⟨r, none, fun _ => .idle, []⟩ :=
  ⟨List.nodup_nil, fun _ _ => rfl, nofun, nofun, fun _ =>
    UInt32.toNat.inj (by rw [u32_toNat_add, u32_toNat_ofNat]; exact (Nat.mod_eq_of_lt r.toNat_lt_size).symm)⟩

/-- A call that is neither idle nor returned holds the lock. -/
theorem holder_of_busy (hI : SerialInv r s) (hp : s.pc i ≠ .idle) (hr : ∀ v, s.pc i ≠ .returned v) :
    s.holder = some i := by
  have hm : i ∈ s.order := by_contra fun hm => hp (hI.idle i hm)
  obtain ⟨j, hj, rfl⟩ := List.getElem_of_mem hm
  exact (hI.done j hj).resolve_right (hr _)

theorem lock (hI : SerialInv r s) (hp : s.pc i = .idle) (hh : s.holder = none) :
    SerialInv r { s with holder := some i, pc := Function.update s.pc i .locked, order := s.order ++ [i] } := by
  have hi : i ∉ s.order := fun hm => by
    obtain ⟨j, hj, rfl⟩ := List.getElem_of_mem hm
    rcases hI.done j hj with h | h
    · rw [hh] at h; cases h
    · rw [hp] at h; cases h
  constructor <;> dsimp only
  · exact List.nodup_append.2 ⟨hI.nodup, List.nodup_singleton i, fun a ha hb => hi (List.mem_singleton.1 hb ▸ ha)⟩
  · intro i' hi'
    simp only [List.mem_append, List.mem_singleton, not_or] at hi'
    rw [Function.update_noteq hi'.2, hI.idle i' hi'.1]
  · intro j hj
    simp only [List.length_append, List.length_singleton] at hj
    rcases Nat.lt_or_ge j s.order.length with hlt | hge
    · have e1 : (s.order ++ [i])[j] = s.order[j] := List.getElem_append_left hlt
      rw [e1, Function.update_noteq fun (e : s.order[j] = i) => hi (e ▸ List.getElem_mem hlt)]
      exact .inr ((hI.done j hlt).resolve_left (by rw [hh]; exact nofun))
    · exact .inl (by rw [List.getElem_concat_length _ _ _ (by omega)])
  · rintro h ⟨⟩
    exact ⟨s.order, rfl, .inl ⟨Function.update_same _ _ _, hI.free hh⟩⟩
  · exact nofun

/-- `callSerial++` and the read of the return value: the holder moves on,
nothing else changes but the counter. -/
theorem frame (hI : SerialInv r s) (hh : s.holder = some i) {c : UInt32} {p : SerialPc}
    (hH : ∀ pre, s.order = pre ++ [i] → Holding r s.callSerial pre.length (s.pc i) →
      Holding r c pre.length p) :
    SerialInv r { s with callSerial := c, pc := Function.update s.pc i p } := by
  obtain ⟨pre, ho, hP⟩ := hI.held i hh
  have him : i ∈ s.order := ho ▸ List.mem_append_right _ (List.mem_singleton_self _)
  constructor <;> dsimp only
  · exact hI.nodup
  · intro i' hi'
    rw [Function.update_noteq (fun (e : i' = i) => hi' (e ▸ him)), hI.idle i' hi']
  · intro j hj
    by_cases e : s.order[j] = i
    · exact .inl (e ▸ hh)
    · rw [Function.update_noteq e]; exact hI.done j hj
  · intro h e
    obtain rfl : i = h := Option.some_injective _ (hh.symm.trans e)
    exact ⟨pre, ho, by simpa only [Function.update_same] using hH pre ho hP⟩
  · intro e; rw [hh] at e; cases e

theorem unlock (hI : SerialInv r s) {v : UInt32} (hp : s.pc i = .read v) :
    SerialInv r { s with holder := none, pc := Function.update s.pc i (.returned v) } := by
  have hh := hI.holder_of_busy (by rw [hp]; exact nofun) (by rw [hp]; exact fun _ => nofun)
  obtain ⟨pre, ho, hP⟩ := hI.held i hh
  have hv : v = serialVal r pre.length ∧ s.callSerial = serialVal r pre.length := by
    rcases hP with ⟨h, -⟩ | ⟨h, -⟩ | ⟨h, hc⟩ <;> rw [hp] at h <;> cases h
    exact ⟨rfl, hc⟩
  have him : i ∈ s.order := ho ▸ List.mem_append_right _ (List.mem_singleton_self _)
  constructor <;> dsimp only
  · exact hI.nodup
  · intro i' hi'
    rw [Function.update_noteq (fun (e : i' = i) => hi' (e ▸ him)), hI.idle i' hi']
  · intro j hj
    refine .inr ?_
    by_cases e : s.order[j] = i
    · have hlen : pre.length < s.order.length := by rw [ho]; simp
      have hlast : s.order[pre.length] = i :=
        (List.getElem_of_eq ho hlen).trans (List.getElem_concat_length _ _ _ rfl _)
      have hj' : j = pre.length := (hI.nodup.getElem_inj_iff).1 (e.trans hlast.symm)
      rw [e, Function.update_same, hv.1, hj']
    · rw [Function.update_noteq e]
      exact (hI.done j hj).resolve_left fun h => e (Option.some_injective _ (hh.symm.trans h)).symm
  · exact nofun
  · intro _
    simp only [hv.2, ho, List.length_append, List.length_singleton]
    rfl

end SerialInv

theorem serial_inductive (r : UInt32) : (serialCalls r).Inductive (SerialInv r) where
  init := by rintro _ rfl; exact SerialInv.init r
  step := by
    intro s a s' hI hs
    rcases serialStep_cases hs with ⟨i, -, hp, hh, rfl⟩ | ⟨i, -, hp, rfl⟩ | ⟨i, -, hp, rfl⟩ | ⟨i, v, -, hp, rfl⟩
    · exact hI.lock hp hh
    · refine hI.frame (hI.holder_of_busy (by rw [hp]; exact nofun) (by rw [hp]; exact fun _ => nofun)) ?_
      rintro pre - (⟨-, hc⟩ | ⟨h, -⟩ | ⟨h, -⟩)
      · exact .inr (.inl ⟨rfl, by rw [hc, serialVal_succ]⟩)
      all_goals rw [hp] at h; cases h
    · refine hI.frame (hI.holder_of_busy (by rw [hp]; exact nofun) (by rw [hp]; exact fun _ => nofun)) ?_
      rintro pre - (⟨h, -⟩ | ⟨-, hc⟩ | ⟨h, -⟩)
      · rw [hp] at h; cases h
      · exact .inr (.inr ⟨by rw [hc], hc⟩)
      · rw [hp] at h; cases h
    · exact hI.unlock hp

theorem serial_inv {r : UInt32} {s : SerialSt} (h : (serialCalls r).Reachable s) : SerialInv r s :=
  (serial_inductive r).reachable h

/-- **Call serial numbers.** For every initial counter `r` and every
interleaving of concurrent `allocCallSerial` calls, the `j`-th call to take
`serialLock` returns `r + j + 1` modulo 2^32 (each call that took the lock
has returned, but the one holding it); the values of the first `k ≤ 2^32`
calls are pairwise distinct, and strictly increasing exactly when
`r + k < 2^32` or `r = 2^32 - 1`. -/
theorem callSerial_spec (r : UInt32) {s : SerialSt} (h : (serialCalls r).Reachable s) :
    (∀ j (hj : j < s.order.length),
      s.holder = some s.order[j] ∨ s.pc s.order[j] = .returned (serialVal r j)) ∧
    ∀ k ≤ 2 ^ 32, (serialRun r k).Nodup ∧
      ((serialRun r k).Sorted (· < ·) ↔ r.toNat + k < 2 ^ 32 ∨ r = 0xFFFFFFFF) :=
  ⟨(serial_inv h).done, fun _ hk => ⟨serialRun_nodup r hk, serialRun_sorted_iff r hk⟩⟩

/-- Two calls, one after the other, from a counter at 2^32 - 1. -/
theorem serial_twoCalls : ∃ s, (serialCalls 0xFFFFFFFF).Reachable s ∧ s.order = [0, 1] ∧
    s.holder = none ∧ s.pc 0 = .returned 0 ∧ s.pc 1 = .returned 1 :=
  ⟨_, LTS.Reachable.runSteps (fun _ _ _ h => h) (.init rfl)
    (rfl : LTS.runSteps serialStep ⟨0xFFFFFFFF, none, fun _ => .idle, []⟩
      [.lock 0, .bump 0, .read 0, .unlock 0, .lock 1, .bump 1, .read 1, .unlock 1] = some _),
    rfl, rfl, rfl, rfl⟩

theorem callSerial_spec_twoCalls : ∃ s, (serialCalls 0xFFFFFFFF).Reachable s ∧ s.order = [0, 1] ∧
    ∀ j (hj : j < s.order.length),
      s.holder = some s.order[j] ∨ s.pc s.order[j] = .returned (serialVal 0xFFFFFFFF j) :=
  let ⟨s, hs, ho, _⟩ := serial_twoCalls
  ⟨s, hs, ho, (callSerial_spec 0xFFFFFFFF hs).1⟩

/-- From a counter at 2^32 - 1 two calls return 0 and then 1: strictly
increasing, though `r + 2 ≥ 2^32`. -/
theorem callSerial_counterexample : ∃ s, (serialCalls 0xFFFFFFFF).Reachable s ∧ s.order = [0, 1] ∧
    s.pc 0 = .returned 0 ∧ s.pc 1 = .returned 1 ∧ (0 : UInt32) < 1 ∧
    ¬(0xFFFFFFFF : UInt32).toNat + 2 < 2 ^ 32 :=
  let ⟨s, hs, ho, _, h0, h1⟩ := serial_twoCalls
  ⟨s, hs, ho, h0, h1, by decide, by decide⟩

/-- A call that takes a free lock runs its four statements and returns the
counter plus one. -/
theorem serialStep_free (c : UInt32) (pc : Nat → SerialPc) (order : List Nat) {i : Nat}
    (hi : pc i = .idle) :
    LTS.runSteps serialStep ⟨c, none, pc, order⟩ [.lock i, .bump i, .read i, .unlock i] =
      some ⟨c + 1, none, Function.update pc i (.returned (c + 1)), order ++ [i]⟩ := by
  simp [LTS.runSteps, serialStep, hi, Function.update_idem]

/-! ## The lock is always released -/

/-- The holder of `serialLock` finishes its call in at most three statements
of its own (the deferred `Unlock` is always reached); then the lock is free
and no other call has moved. -/
theorem serial_release {r : UInt32} {s : SerialSt} (h : (serialCalls r).Reachable s) {j : Nat}
    (hh : s.holder = some j) :
    ∃ as c v, as.length ≤ 3 ∧
      (serialCalls r).Run s as ⟨c, none, Function.update s.pc j (.returned v), s.order⟩ := by
  obtain ⟨pre, -, hP⟩ := (serial_inv h).held j hh
  have run : ∀ {as : List SerialLbl} {s' : SerialSt}, LTS.runSteps serialStep s as = some s' →
      (serialCalls r).Run s as s' := LTS.Run.runSteps fun _ _ _ h => h
  rcases hP with ⟨hp, -⟩ | ⟨hp, -⟩ | ⟨hp, -⟩
  · exact ⟨[.bump j, .read j, .unlock j], s.callSerial + 1, s.callSerial + 1, by simp,
      run (by simp [LTS.runSteps, serialStep, hp, Function.update_idem])⟩
  · exact ⟨[.read j, .unlock j], s.callSerial, s.callSerial, by simp,
      run (by simp [LTS.runSteps, serialStep, hp, Function.update_idem])⟩
  · exact ⟨[.unlock j], s.callSerial, serialVal r pre.length, by simp, run (by simp [LTS.runSteps, serialStep, hp])⟩

/-- **`serialLock` is never held for ever.** From every reachable state, an
`allocCallSerial` call that has not taken the lock can return: some
schedule of at most seven statements, those the holder has left and its
own four, none of another call, ends with it returned, with the value of
the next call to take the lock. -/
theorem callSerial_returns {r : UInt32} {s : SerialSt} (h : (serialCalls r).Reachable s) {i : Nat}
    (hi : s.pc i = .idle) :
    ∃ as s', (serialCalls r).Run s as s' ∧ as.length ≤ 7 ∧ s'.holder = none ∧
      s'.pc i = .returned (serialVal r s.order.length) := by
  obtain ⟨as, c, pc, hl, hr, hpc⟩ : ∃ as c pc, as.length ≤ 3 ∧
      (serialCalls r).Run s as ⟨c, none, pc, s.order⟩ ∧ pc i = .idle := by
    cases hh : s.holder with
    | none => exact ⟨[], s.callSerial, s.pc, by simp, by rw [← hh]; exact .nil, hi⟩
    | some j =>
      have hij : i ≠ j := fun e => by
        obtain ⟨pre, -, hP⟩ := (serial_inv h).held j hh
        rcases hP with ⟨hp, -⟩ | ⟨hp, -⟩ | ⟨hp, -⟩ <;> rw [← e, hi] at hp <;> cases hp
      obtain ⟨as, c, v, hl, hr⟩ := serial_release h hh
      exact ⟨as, c, _, hl, hr, by rw [Function.update_noteq hij, hi]⟩
  have hc : c = r + UInt32.ofNat s.order.length := (serial_inv (hr.reachable h)).free rfl
  refine ⟨as ++ [.lock i, .bump i, .read i, .unlock i], _,
    hr.append (LTS.Run.runSteps (fun _ _ _ h => h) (serialStep_free c pc s.order hpc)),
    by simp; omega, rfl, ?_⟩
  dsimp only
  rw [Function.update_same, hc, serialVal_succ]

/-- From the start, call 3 returns the first value, `r + 1`. -/
theorem callSerial_returns_first :
    ∃ as s', (serialCalls 7).Run ⟨7, none, fun _ => .idle, []⟩ as s' ∧ as.length ≤ 7 ∧ s'.holder = none ∧
      s'.pc 3 = .returned (serialVal 7 ([] : List Nat).length) :=
  callSerial_returns (.init rfl) rfl

end GoL2tp
