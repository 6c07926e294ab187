import Mathlib.Logic.Basic

/-!
# Labelled transition systems

Every stateful part of go-l2tp is modelled as a labelled transition
system: the `Context` registry under sequential calls, a tunnel's session
table, the nll2tp request/response handshake, and the interleaved lock
sections of concurrent tunnel factories. A label is one call (or one lock
section of one goroutine); `step s a s'` says the call can move `s` to `s'`.

`Reachable` is the least set of states containing the initial ones and
closed under `step`. An `Inductive` predicate holds initially and is kept
by every step, so it holds in every reachable state (`Inductive.reachable`).
A `Run` is a finite sequence of steps; one that ends in a `Stuck` state is
maximal.
-/
namespace GoL2tp

structure LTS (σ α : Type) where
  init : σ → Prop
  step : σ → α → σ → Prop

namespace LTS

variable {σ α : Type} (m : LTS σ α)

inductive Reachable : σ → Prop
  | init {s} : m.init s → Reachable s
  | step {s a s'} : Reachable s → m.step s a s' → Reachable s'

/-- A predicate that holds initially and is kept by every step. -/
structure Inductive (P : σ → Prop) : Prop where
  init : ∀ s, m.init s → P s
  step : ∀ s a s', P s → m.step s a s' → P s'

theorem Inductive.reachable {m : LTS σ α} {P : σ → Prop} (h : m.Inductive P) {s : σ}
    (hs : m.Reachable s) : P s := by
  induction hs with
  | init hi => exact h.init _ hi
  | step _ hst ih => exact h.step _ _ _ ih hst

/-- `Reachable.step` with the label given. -/
theorem Reachable.next {m : LTS σ α} {s s' : σ} (a : α) (h : m.Reachable s) (hs : m.step s a s') :
    m.Reachable s' := .step h hs

/-- No step leaves `s`: a run that reaches it can go no further. -/
def Stuck (s : σ) : Prop := ∀ a s', ¬m.step s a s'

/-- A state reached from an initial one by a list of steps. -/
inductive Run : σ → List α → σ → Prop
  | nil {s} : Run s [] s
  | cons {s a s' as s''} : m.step s a s' → Run s' as s'' → Run s (a :: as) s''

theorem Run.reachable {m : LTS σ α} {s s' : σ} {as : List α} (hr : m.Run s as s')
    (hs : m.Reachable s) : m.Reachable s' := by
  induction hr with
  | nil => exact hs
  | cons hst _ ih => exact ih (.step hs hst)

theorem Run.append {m : LTS σ α} {s s' s'' : σ} {as bs : List α} (h₁ : m.Run s as s')
    (h₂ : m.Run s' bs s'') : m.Run s (as ++ bs) s'' := by
  induction h₁ with
  | nil => exact h₂
  | cons hst _ ih => exact .cons hst (ih h₂)

/-- The labels `as` taken one after another by a partial step function. -/
def runSteps (step : σ → α → Option σ) : σ → List α → Option σ
  | s, [] => some s
  | s, a :: as => (step s a).bind fun s' => runSteps step s' as

/-- A state that a partial step function reaches from a reachable one is
reachable, when the function's steps are steps of `m`. -/
theorem Reachable.runSteps {m : LTS σ α} {step : σ → α → Option σ}
    (hm : ∀ s a s', step s a = some s' → m.step s a s') {as : List α} :
    ∀ {s s' : σ}, m.Reachable s → LTS.runSteps step s as = some s' → m.Reachable s' := by
  induction as with
  | nil => intro s s' hs h; cases h; exact hs
  | cons a as ih =>
    intro s s' hs h
    simp only [LTS.runSteps, Option.bind_eq_some] at h
    obtain ⟨s₁, h₁, h₂⟩ := h
    exact ih (hs.next a (hm _ _ _ h₁)) h₂

/-- The steps a partial step function takes are a run of `m`, when its
steps are steps of `m`. -/
theorem Run.runSteps {m : LTS σ α} {step : σ → α → Option σ}
    (hm : ∀ s a s', step s a = some s' → m.step s a s') {as : List α} :
    ∀ {s s' : σ}, LTS.runSteps step s as = some s' → m.Run s as s' := by
  induction as with
  | nil => intro s s' h; cases h; exact .nil
  | cons a as ih =>
    intro s s' h
    simp only [LTS.runSteps, Option.bind_eq_some] at h
    obtain ⟨s₁, h₁, h₂⟩ := h
    exact .cons (hm _ _ _ h₁) (ih h₂)

end LTS

end GoL2tp
