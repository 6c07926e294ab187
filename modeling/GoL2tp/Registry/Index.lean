import GoL2tp.Core.GoMap

/-!
# Two indexes of one set: the name and ID tables

`Context` keeps its tunnels in `tunnelsByName map[string]tunnel` and
`tunnelsByID map[ControlConnID]tunnel`; `baseTunnel` keeps its sessions in
`sessionsByName` and `sessionsByID`. The code around the two pairs is the
same up to the key functions (`getName()`, `getCfg().TunnelID` or
`getCfg().SessionID`), so it is modelled once here, over any element type
with a `name` and an `id`:

* `link` (`linkTunnel`, `linkSession`): write both entries;
* `unlink` (`unlinkTunnel`, `unlinkSession`): delete both keys;
* `drain` (the locked loop of `Context.Close` and of `closeAllSessions`):
  range over the name table, collect each element, delete its name and its
  ID;
* `values` (`allSessions`): range over the name table, collect each element.

`Indexed` says the two tables index the same set: an element is under a
name iff that is its name and it is under its ID in the other table, and
symmetrically. Results: `Indexed` holds of `empty`, is kept by `link` of an
element whose name and ID are both free (`indexed_link`) and by `unlink` of
a linked element (`indexed_unlink`); from an `Indexed` state, `drain` in any
iteration order returns each linked element exactly once and leaves both
tables empty (`drain_indexed`).
-/
namespace GoL2tp

/-- The name table and the ID table. -/
@[ext] structure Index (α : Type) where
  byName : GoMap String α
  byID : GoMap UInt32 α

namespace Index

variable {α : Type} (name : α → String) (id : α → UInt32)

def empty : Index α := ⟨.empty, .empty⟩

/-- `byName[x.getName()] = x; byID[x.id] = x`. -/
def link (r : Index α) (x : α) : Index α :=
  ⟨r.byName.insert (name x) x, r.byID.insert (id x) x⟩

/-- `delete(byName, x.getName()); delete(byID, x.id)`. -/
def unlink (r : Index α) (x : α) : Index α :=
  ⟨r.byName.erase (name x), r.byID.erase (id x)⟩

/-- The body of the locked loop of `Close`/`closeAllSessions`, run over the
name table's entries in the iteration order `ord`: collect each element,
delete its name and its ID. -/
def drain : Index α → List (String × α) → Index α × List α
  | r, [] => (r, [])
  | r, (n, x) :: rest =>
    let d := drain ⟨r.byName.erase n, r.byID.erase (id x)⟩ rest
    (d.1, x :: d.2)

/-- `x` is linked: it is the element filed under its own name. -/
def Linked (r : Index α) (x : α) : Prop := r.byName.get? (name x) = some x

/-- The two tables index the same set of elements: every entry is filed
under its element's own key, and an element is under its name iff it is
under its ID. -/
structure Indexed (r : Index α) : Prop where
  byName_key : ∀ n x, r.byName.get? n = some x → name x = n
  byID_key : ∀ k x, r.byID.get? k = some x → id x = k
  same : ∀ x, r.byName.get? (name x) = some x ↔ r.byID.get? (id x) = some x

variable {name id}

@[simp] theorem link_byName (r : Index α) (x : α) :
    (r.link name id x).byName = r.byName.insert (name x) x := rfl
@[simp] theorem link_byID (r : Index α) (x : α) :
    (r.link name id x).byID = r.byID.insert (id x) x := rfl
@[simp] theorem unlink_byName (r : Index α) (x : α) :
    (r.unlink name id x).byName = r.byName.erase (name x) := rfl
@[simp] theorem unlink_byID (r : Index α) (x : α) :
    (r.unlink name id x).byID = r.byID.erase (id x) := rfl

theorem indexed_empty : Indexed name id (empty : Index α) := ⟨by simp [empty], by simp [empty], by simp [empty]⟩

section
variable {r : Index α} (h : Indexed name id r)
include h

/-- `byName[n] = x` iff `x.getName() = n` and `byID[x.id] = x`. -/
theorem Indexed.byName_iff (n : String) (x : α) :
    r.byName.get? n = some x ↔ name x = n ∧ r.byID.get? (id x) = some x :=
  ⟨fun hx => ⟨h.byName_key n x hx, (h.same x).1 (h.byName_key n x hx ▸ hx)⟩,
    fun ⟨hn, hx⟩ => hn ▸ (h.same x).2 hx⟩

/-- `byID[k] = x` iff `x.id = k` and `byName[x.getName()] = x`. -/
theorem Indexed.byID_iff (k : UInt32) (x : α) :
    r.byID.get? k = some x ↔ id x = k ∧ r.byName.get? (name x) = some x :=
  ⟨fun hx => ⟨h.byID_key k x hx, (h.same x).2 (h.byID_key k x hx ▸ hx)⟩,
    fun ⟨hk, hx⟩ => hk ▸ (h.same x).1 hx⟩

theorem Indexed.byID_of_linked {x : α} (hx : Linked name r x) : r.byID.get? (id x) = some x :=
  (h.same x).1 hx

theorem Indexed.linked_of_byID {k : UInt32} {x : α} (hx : r.byID.get? k = some x) : Linked name r x :=
  ((h.byID_iff k x).1 hx).2

/-- Linking an element whose name and ID are both free keeps the tables
indexing one set. -/
theorem indexed_link {x : α} (hn : r.byName.get? (name x) = none) (hi : r.byID.get? (id x) = none) :
    Indexed name id (r.link name id x) := by
  refine ⟨GoMap.keyed_insert h.byName_key x, GoMap.keyed_insert h.byID_key x, fun y => ?_⟩
  by_cases hyx : y = x
  · subst hyx; simp
  · have hfree : r.byID.get? (id y) = some y → name y ≠ name x ∧ id y ≠ id x := fun hy =>
      ⟨fun e => by simp [← e, (h.same y).2 hy] at hn, fun e => by simp [← e, hy] at hi⟩
    simp only [link_byName, link_byID, GoMap.get?_insert_eq_some (Ne.symm hyx), h.same y]
    exact ⟨fun ⟨_, hy⟩ => ⟨(hfree hy).2, hy⟩, fun ⟨_, hy⟩ => ⟨(hfree hy).1, hy⟩⟩

/-- Unlinking a linked element keeps the tables indexing one set. -/
theorem indexed_unlink {x : α} (hx : Linked name r x) : Indexed name id (r.unlink name id x) := by
  have hxn : r.byName.get? (name x) = some x := hx
  have hxi : r.byID.get? (id x) = some x := (h.same x).1 hx
  refine ⟨GoMap.keyed_erase h.byName_key _, GoMap.keyed_erase h.byID_key _, fun y => ?_⟩
  simp only [unlink_byName, unlink_byID, GoMap.get?_erase_eq_some, h.same y]
  have hname : r.byID.get? (id y) = some y → name y = name x → y = x := fun hy e => by
    have hyn := (h.same y).2 hy; rw [e, hxn] at hyn; exact (Option.some.inj hyn).symm
  have hid : r.byID.get? (id y) = some y → id y = id x → y = x := fun hy e => by
    rw [e, hxi] at hy; exact (Option.some.inj hy).symm
  exact ⟨fun ⟨hn, hy⟩ => ⟨fun e => hn (congrArg name (hid hy e)), hy⟩,
    fun ⟨hi, hy⟩ => ⟨fun e => hi (congrArg id (hname hy e)), hy⟩⟩

/-- A range over the name table, in any iteration order, yields the linked
elements, each once. -/
theorem values_of_perm {ord : List (String × α)} (ho : ord.Perm r.byName.entries) :
    (ord.map Prod.snd).Nodup ∧ ∀ x, x ∈ ord.map Prod.snd ↔ Linked name r x := by
  have key : ∀ p ∈ ord, name p.2 = p.1 := fun ⟨n, x⟩ hp =>
    h.byName_key n x (GoMap.mem_entries.1 (ho.subset hp))
  refine ⟨(ho.nodup_iff.2 (GoMap.nodup_keys _).of_map).map_on fun a ha b hb e => ?_, fun x => ?_⟩
  · exact Prod.ext (by rw [← key a ha, ← key b hb, e]) e
  · simp only [List.mem_map]
    constructor
    · rintro ⟨⟨n, y⟩, hp, rfl⟩
      have hn : name y = n := key _ hp
      show r.byName.get? (name y) = some y
      rw [hn]; exact GoMap.mem_entries.1 (ho.subset hp)
    · intro hx
      exact ⟨(name x, x), ho.symm.subset (GoMap.mem_entries.2 hx), rfl⟩

end

theorem drain_snd (r : Index α) (ord : List (String × α)) : (drain id r ord).2 = ord.map Prod.snd := by
  induction ord generalizing r with
  | nil => rfl
  | cons p rest ih => obtain ⟨n, x⟩ := p; simp [drain, ih]

theorem drain_byName (r : Index α) (ord : List (String × α)) (n : String) :
    (drain id r ord).1.byName.get? n = if n ∈ ord.map Prod.fst then none else r.byName.get? n := by
  induction ord generalizing r with
  | nil => simp [drain]
  | cons p rest ih =>
    obtain ⟨n', x⟩ := p
    simp only [drain, ih, GoMap.get?_erase, List.map_cons, List.mem_cons]
    by_cases h1 : n = n'
    · simp [h1]
    · simp only [h1, false_or, if_false]

theorem drain_byID (r : Index α) (ord : List (String × α)) (k : UInt32) :
    (drain id r ord).1.byID.get? k = if k ∈ ord.map (id ∘ Prod.snd) then none else r.byID.get? k := by
  induction ord generalizing r with
  | nil => simp [drain]
  | cons p rest ih =>
    obtain ⟨n', x⟩ := p
    simp only [drain, ih, GoMap.get?_erase, List.map_cons, List.mem_cons, Function.comp]
    by_cases h1 : k = id x
    · simp [h1]
    · simp only [h1, false_or, if_false]

/-- The locked loop of `Close`/`closeAllSessions`, from an indexed state and
in any iteration order: both tables end empty and the collected list is the
name table's elements in that order. -/
theorem drain_indexed {r : Index α} (h : Indexed name id r) {ord : List (String × α)}
    (ho : ord.Perm r.byName.entries) : (drain id r ord).1 = empty ∧ (drain id r ord).2 = ord.map Prod.snd := by
  refine ⟨Index.ext (GoMap.eq_empty fun n => ?_) (GoMap.eq_empty fun k => ?_), drain_snd r ord⟩
  · rw [drain_byName]
    split_ifs with hn
    · rfl
    · cases hx : r.byName.get? n with
      | none => rfl
      | some x => exact absurd (List.mem_map.2 ⟨(n, x), ho.symm.subset (GoMap.mem_entries.2 hx), rfl⟩) hn
  · rw [drain_byID]
    split_ifs with hk
    · rfl
    · cases hx : r.byID.get? k with
      | none => rfl
      | some x =>
        have hl : Linked name r x := h.linked_of_byID hx
        refine absurd (List.mem_map.2 ⟨(name x, x), ho.symm.subset (GoMap.mem_entries.2 hl), ?_⟩) hk
        exact h.byID_key k x hx

end Index

end GoL2tp
