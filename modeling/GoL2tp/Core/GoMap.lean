import Mathlib.Data.List.Sort
import Mathlib.Data.List.Lex
import Mathlib.Data.Char
import Mathlib.Algebra.Group.Nat.Basic

/-!
# Go maps

A Go `map[K]V` is a finite partial function: what a program can observe of
it is `m[k]` (and `len`). It is modelled by its entries kept strictly
sorted by key, so that the representation is canonical: two maps with the
same contents are equal (`GoMap.ext`), whatever order the program filled
them in. That is what makes "the decoded configuration does not depend on
the iteration order" an equation.

`for k, v := range m` visits every entry once in an order the runtime
chooses afresh on every loop. A loop over `m` is therefore modelled as a
loop over any list `ord` with `ord.Perm m.entries`, and every result about
such a loop is stated for all such `ord`.

`ControlConnID` keys are `UInt32`; Mathlib has no order instance on it, so
one is given here from the core `≤`/`<` (no second `<` is introduced).
The `u32_*` lemmas read 32-bit sums, comparisons and equalities on `toNat`,
where `omega` decides them. A chain of Go checks that each return early is
read as a conjunction of failed conditions (`ite_some_eq_none`,
`ite_error_eq_ok`), not split branch by branch.
Name keys are strings, ordered by their characters (`stringOrder`): the
lexicographic order Mathlib's `String` order also is, but decided by a
structural comparison of the character lists, so that `decide` and `rfl`
can run a registry on concrete names (Mathlib's runs a well-founded loop
over string iterators, which the kernel does not unfold).
-/
namespace GoL2tp

instance uint32Order : LinearOrder UInt32 where
  le_refl := UInt32.le_refl
  le_trans := fun _ _ _ => UInt32.le_trans
  le_antisymm := fun _ _ h1 h2 => UInt32.eq_of_toBitVec_eq (BitVec.le_antisymm h1 h2)
  le_total := UInt32.le_total
  lt_iff_le_not_le := fun a b =>
    ⟨fun h => ⟨(UInt32.le_total a b).resolve_right (UInt32.not_le.2 h), UInt32.not_le.2 h⟩,
      fun h => UInt32.not_le.1 h.2⟩
  decidableLE := inferInstance

theorem u32_toNat_add (a b : UInt32) : (a + b).toNat = (a.toNat + b.toNat) % 2 ^ 32 := by
  simp [UInt32.add_def, UInt32.toNat, BitVec.toNat_add]

theorem u32_toNat_ofNat (n : Nat) : (UInt32.ofNat n).toNat = n % 2 ^ 32 := by
  simp [UInt32.toNat, UInt32.ofNat, BitVec.toNat_ofNat]

theorem u32_lt_iff (a b : UInt32) : a < b ↔ a.toNat < b.toNat := by
  simp [UInt32.lt_def, BitVec.lt_def, UInt32.toNat]

theorem u32_le_iff (a b : UInt32) : a ≤ b ↔ a.toNat ≤ b.toNat := by
  simp [UInt32.le_def, BitVec.le_def, UInt32.toNat]

theorem u32_eq_iff (a b : UInt32) : a = b ↔ a.toNat = b.toNat := ⟨congrArg _, UInt32.toNat.inj⟩

/-- A check that returns an error message passes on a `nil` result. -/
theorem ite_some_eq_none {α : Type} {p : Prop} [Decidable p] {a : α} {x : Option α} :
    (if p then some a else x) = none ↔ ¬p ∧ x = none := by
  by_cases hp : p <;> simp [hp]

/-- A check that returns an error passes on success. -/
theorem ite_error_eq_ok {α ε : Type} {p : Prop} [Decidable p] {e : ε} {x : Except ε α} {a : α} :
    (if p then .error e else x) = .ok a ↔ ¬p ∧ x = .ok a := by
  by_cases hp : p <;> simp [hp]

instance (priority := 2000) stringOrder : LinearOrder String :=
  LinearOrder.lift' String.data fun ⟨_⟩ ⟨_⟩ h => congrArg String.mk h

/-- `map[K]V`: entries strictly sorted by key. -/
structure GoMap (K V : Type) [LinearOrder K] where
  entries : List (K × V)
  sorted : entries.Pairwise (fun p q => p.1 < q.1)

namespace GoMap

variable {K V : Type} [LinearOrder K]

instance decEq [DecidableEq V] : DecidableEq (GoMap K V) := fun a b =>
  decidable_of_iff (a.entries = b.entries) (by cases a; cases b; simp)

/-- `make(map[K]V)`. -/
def empty : GoMap K V := ⟨[], .nil⟩

/-- `m[k]` with its `ok`: the first entry under `k`. -/
def lookup (k : K) : List (K × V) → Option V
  | [] => none
  | (k', v) :: t => if k' = k then some v else lookup k t

/-- `v, ok := m[k]`. -/
def get? (m : GoMap K V) (k : K) : Option V := lookup k m.entries

/-- Sorted insertion, replacing an entry under the same key. -/
def insertList (k : K) (v : V) : List (K × V) → List (K × V)
  | [] => [(k, v)]
  | (k', v') :: t =>
    if k < k' then (k, v) :: (k', v') :: t
    else if k = k' then (k, v) :: t
    else (k', v') :: insertList k v t

theorem mem_insertList {k : K} {v : V} {l : List (K × V)} {p : K × V}
    (hp : p ∈ insertList k v l) : p = (k, v) ∨ p ∈ l := by
  induction l with
  | nil => simpa [insertList] using hp
  | cons q t ih =>
    obtain ⟨k', v'⟩ := q
    simp only [insertList] at hp
    split_ifs at hp
    · exact List.mem_cons.1 hp
    · exact (List.mem_cons.1 hp).imp_right (List.mem_cons_of_mem _)
    · rcases List.mem_cons.1 hp with rfl | hp
      · exact .inr (List.mem_cons_self _ _)
      · exact (ih hp).imp_right (List.mem_cons_of_mem _)

theorem insertList_sorted (k : K) (v : V) (l : List (K × V))
    (h : l.Pairwise (fun p q => p.1 < q.1)) :
    (insertList k v l).Pairwise (fun p q => p.1 < q.1) := by
  induction l with
  | nil => simp [insertList]
  | cons q t ih =>
    obtain ⟨k', v'⟩ := q
    rw [List.pairwise_cons] at h
    simp only [insertList]
    split_ifs with hlt heq
    · refine List.Pairwise.cons (fun p hp => ?_) (h.2.cons h.1)
      rcases List.mem_cons.1 hp with rfl | hp
      · exact hlt
      · exact hlt.trans (h.1 p hp)
    · subst heq; exact h.2.cons h.1
    · refine List.Pairwise.cons (fun p hp => ?_) (ih h.2)
      rcases mem_insertList hp with rfl | hp
      · exact lt_of_le_of_ne (not_lt.1 hlt) (Ne.symm heq)
      · exact h.1 p hp

/-- `m[k] = v`. -/
def insert (m : GoMap K V) (k : K) (v : V) : GoMap K V :=
  ⟨insertList k v m.entries, insertList_sorted k v _ m.sorted⟩

/-- `delete(m, k)`. -/
def erase (m : GoMap K V) (k : K) : GoMap K V :=
  ⟨m.entries.filter (fun p => p.1 ≠ k), m.sorted.sublist (List.filter_sublist _)⟩

theorem lookup_insertList (k k' : K) (v : V) (l : List (K × V)) :
    lookup k' (insertList k v l) = if k = k' then some v else lookup k' l := by
  induction l with
  | nil => simp [insertList, lookup]
  | cons q t ih =>
    obtain ⟨k₀, v₀⟩ := q
    by_cases h1 : k < k₀
    · by_cases h : k = k'
      · subst h; simp [insertList, lookup, h1]
      · simp [insertList, lookup, h1, h]
    · by_cases h2 : k = k₀
      · subst h2; by_cases h : k = k' <;> simp [insertList, lookup, h]
      · have hne : k₀ ≠ k := fun e => h2 e.symm
        by_cases h : k = k'
        · subst h; simp [insertList, lookup, h1, h2, hne, ih]
        · simp [insertList, lookup, h1, h2, ih, h]

theorem lookup_filter (k k' : K) (l : List (K × V)) :
    lookup k' (l.filter (fun p => p.1 ≠ k)) = if k' = k then none else lookup k' l := by
  induction l with
  | nil => simp [lookup]
  | cons q t ih =>
    obtain ⟨k₀, v₀⟩ := q
    by_cases h : k₀ = k <;> by_cases h' : k₀ = k' <;> simp_all [lookup, List.filter_cons]

@[simp] theorem get?_empty (k : K) : (empty : GoMap K V).get? k = none := rfl

@[simp] theorem get?_insert (m : GoMap K V) (k k' : K) (v : V) :
    (m.insert k v).get? k' = if k' = k then some v else m.get? k' := by
  simp only [get?, insert, lookup_insertList, eq_comm]

@[simp] theorem get?_erase (m : GoMap K V) (k k' : K) :
    (m.erase k).get? k' = if k' = k then none else m.get? k' := lookup_filter k k' _

theorem get?_insert_eq_some {m : GoMap K V} {k k' : K} {v w : V} (h : v ≠ w) :
    (m.insert k v).get? k' = some w ↔ k' ≠ k ∧ m.get? k' = some w := by
  by_cases hk : k' = k <;> simp [hk, h]

theorem get?_erase_eq_some {m : GoMap K V} {k k' : K} {w : V} :
    (m.erase k).get? k' = some w ↔ k' ≠ k ∧ m.get? k' = some w := by
  by_cases hk : k' = k <;> simp [hk]

/-- A map that files each value under the key `f` gives it keeps doing so
when a value is inserted under its own key. -/
theorem keyed_insert {f : V → K} {m : GoMap K V} (h : ∀ k v, m.get? k = some v → f v = k) (v : V) :
    ∀ k w, (m.insert (f v) v).get? k = some w → f w = k := fun k w hw => by
  simp only [get?_insert] at hw
  split_ifs at hw with hk
  · cases hw; exact hk.symm
  · exact h k w hw

theorem keyed_erase {f : V → K} {m : GoMap K V} (h : ∀ k v, m.get? k = some v → f v = k) (k₀ : K) :
    ∀ k w, (m.erase k₀).get? k = some w → f w = k := fun k w hw => by
  simp only [get?_erase] at hw
  split_ifs at hw
  exact h k w hw

/-- A property of every value in a map survives inserting a value that has
it, and erasing. -/
theorem forall_insert {P : V → Prop} {m : GoMap K V} (h : ∀ k v, m.get? k = some v → P v) {v : V}
    (hv : P v) (k₀ : K) : ∀ k w, (m.insert k₀ v).get? k = some w → P w := fun k w hw => by
  simp only [get?_insert] at hw
  split_ifs at hw
  · cases hw; exact hv
  · exact h k w hw

theorem forall_erase {P : V → Prop} {m : GoMap K V} (h : ∀ k v, m.get? k = some v → P v) (k₀ : K) :
    ∀ k w, (m.erase k₀).get? k = some w → P w := fun k w hw => by
  simp only [get?_erase] at hw
  split_ifs at hw
  exact h k w hw

theorem lookup_eq_none {k : K} {l : List (K × V)} (hk : k ∉ l.map Prod.fst) : lookup k l = none := by
  induction l with
  | nil => rfl
  | cons q t ih =>
    simp only [List.map_cons, List.mem_cons, not_or] at hk
    simp [lookup, Ne.symm hk.1, ih hk.2]

/-- Over distinct keys, `lookup` finds exactly the entries. -/
theorem lookup_iff_mem {l : List (K × V)} (hnd : (l.map Prod.fst).Nodup) {k : K} {v : V} :
    lookup k l = some v ↔ (k, v) ∈ l := by
  induction l with
  | nil => simp [lookup]
  | cons q t ih =>
    obtain ⟨k₀, v₀⟩ := q
    rw [List.map_cons, List.nodup_cons] at hnd
    by_cases h : k₀ = k
    · subst h
      have hnot : (k₀, v) ∉ t := fun hm => hnd.1 (List.mem_map.2 ⟨_, hm, rfl⟩)
      simp [lookup, hnot, eq_comm]
    · simp [lookup, h, Ne.symm h, ih hnd.2]

theorem lookup_perm {l l' : List (K × V)} (h : l.Perm l') (hnd : (l.map Prod.fst).Nodup) (k : K) :
    lookup k l = lookup k l' :=
  Option.ext fun v => by
    simp only [Option.mem_def]
    rw [lookup_iff_mem hnd, lookup_iff_mem ((h.map Prod.fst).nodup_iff.1 hnd), h.mem_iff]

/-- An entry appended under a new key only answers for that key. -/
theorem lookup_append_singleton {k : K} {l : List (K × V)} (hk : k ∉ l.map Prod.fst) (v : V) (k' : K) :
    lookup k' (l ++ [(k, v)]) = if k = k' then some v else lookup k' l := by
  induction l with
  | nil => simp [lookup]
  | cons q t ih =>
    obtain ⟨k₀, v₀⟩ := q
    simp only [List.map_cons, List.mem_cons, not_or] at hk
    by_cases h : k₀ = k'
    · subst h; simp [lookup, hk.1]
    · simp [lookup, h, ih hk.2]

theorem lookup_of_sorted {l : List (K × V)} (hl : l.Pairwise (fun p q => p.1 < q.1))
    {k : K} {v : V} : lookup k l = some v ↔ (k, v) ∈ l :=
  lookup_iff_mem (List.pairwise_map.2 (hl.imp ne_of_lt))

theorem mem_entries {m : GoMap K V} {k : K} {v : V} : (k, v) ∈ m.entries ↔ m.get? k = some v :=
  (lookup_of_sorted m.sorted).symm

theorem nodup_keys (m : GoMap K V) : (m.entries.map Prod.fst).Nodup :=
  List.pairwise_map.2 (m.sorted.imp ne_of_lt)

instance fstLtAntisymm : IsAntisymm (K × V) (fun p q => p.1 < q.1) :=
  ⟨fun _ _ h1 h2 => absurd (h1.trans h2) (lt_irrefl _)⟩

/-- Two maps with the same contents are equal. -/
@[ext] theorem ext {m₁ m₂ : GoMap K V} (h : ∀ k, m₁.get? k = m₂.get? k) : m₁ = m₂ := by
  obtain ⟨e₁, s₁⟩ := m₁
  obtain ⟨e₂, s₂⟩ := m₂
  have hnd : ∀ {e : List (K × V)}, e.Pairwise (fun p q => p.1 < q.1) → e.Nodup :=
    fun hs => hs.imp fun h => ne_of_apply_ne Prod.fst (ne_of_lt h)
  have hperm : e₁.Perm e₂ := (List.perm_ext_iff_of_nodup (hnd s₁) (hnd s₂)).2 fun ⟨k, v⟩ => by
    rw [← lookup_of_sorted s₁, ← lookup_of_sorted s₂, show lookup k e₁ = lookup k e₂ from h k]
  simp only [mk.injEq]
  exact List.eq_of_perm_of_sorted hperm s₁ s₂

/-- `m[k] = v` for a key already present with `v` changes nothing. -/
theorem insert_get? {m : GoMap K V} {k : K} {v : V} (h : m.get? k = some v) : m.insert k v = m := by
  ext k'; by_cases hk : k' = k <;> simp [hk, h]

theorem erase_of_get?_none {m : GoMap K V} {k : K} (h : m.get? k = none) : m.erase k = m := by
  ext k'; by_cases hk : k' = k <;> simp [hk, h]

/-- A map none of whose keys is live is empty. -/
theorem eq_empty {m : GoMap K V} (h : ∀ k, m.get? k = none) : m = empty := by
  ext k; simp [h]

/-- The map of a list's entries, inserted in list order. -/
def ofList (l : List (K × V)) : GoMap K V := l.foldl (fun m p => m.insert p.1 p.2) empty

theorem get?_foldl_insert {l : List (K × V)} (hnd : (l.map Prod.fst).Nodup) (m : GoMap K V) (k : K) :
    (l.foldl (fun m p => m.insert p.1 p.2) m).get? k = (lookup k l).or (m.get? k) := by
  induction l generalizing m with
  | nil => rfl
  | cons q t ih =>
    rw [List.map_cons, List.nodup_cons] at hnd
    rw [List.foldl_cons, ih hnd.2]
    by_cases h : q.1 = k
    · subst h; simp [lookup, lookup_eq_none hnd.1]
    · simp [lookup, h, Ne.symm h]

@[simp] theorem get?_ofList {l : List (K × V)} (hnd : (l.map Prod.fst).Nodup) (k : K) :
    (ofList l).get? k = lookup k l := by
  simp [ofList, get?_foldl_insert hnd]

theorem ofList_append_singleton (l : List (K × V)) (k : K) (v : V) :
    ofList (l ++ [(k, v)]) = (ofList l).insert k v := by
  simp [ofList, List.foldl_append]

/-- Inserting the same distinct-keyed entries in any order builds the same map. -/
theorem ofList_perm {l l' : List (K × V)} (h : l.Perm l') (hnd : (l.map Prod.fst).Nodup) :
    ofList l = ofList l' := by
  ext k
  rw [get?_ofList hnd, get?_ofList ((h.map Prod.fst).nodup_iff.1 hnd), lookup_perm h hnd]

end GoMap

end GoL2tp
