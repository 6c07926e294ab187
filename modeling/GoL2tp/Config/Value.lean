import GoL2tp.Core.GoMap

/-!
# The TOML tree

`newConfig` reads the tree `toml.Tree.ToMap()` returns: nested
`map[string]interface{}` whose leaves are go-toml's value types. A number
is an `int64` or a `uint64`; an array is `[]interface{}` and may mix types;
values of the types no decoder accepts (floats, dates, ...) are `other`,
with their Go type name and the text `%v` prints for them.

A table is the list of its entries, and it is a Go map: its keys are
distinct (`GoMaps`, for every table of the tree). The order in which a
`range` visits a table's entries is the runtime's choice, made afresh for
every loop: it is an `Iter`, given the path of keys that leads to the table
and its entries, returning any permutation of them (`Iter.OK`). Each table
the loader ranges over has its own path, so an `Iter` can pick every
combination of orders.

`Value.typeName` and `Value.fmt` are `fmt`'s `%T` and `%v` (map keys in
entry order).
-/
namespace GoL2tp.Config

inductive Value where
  | string (s : String)
  | int64 (i : Int)
  | uint64 (n : Nat)
  | bool (b : Bool)
  | other (typeName text : String)
  | array (vs : List Value)
  | map (kvs : List (String × Value))

/-- `%T`. -/
def Value.typeName : Value → String
  | .string _ => "string"
  | .int64 _ => "int64"
  | .uint64 _ => "uint64"
  | .bool _ => "bool"
  | .other t _ => t
  | .array _ => "[]interface {}"
  | .map _ => "map[string]interface {}"

mutual
/-- `%v`. -/
def Value.fmt : Value → String
  | .string s => s
  | .int64 i => toString i
  | .uint64 n => toString n
  | .bool b => toString b
  | .other _ s => s
  | .array vs => "[" ++ fmtList vs ++ "]"
  | .map kvs => "map[" ++ fmtEntries kvs ++ "]"
def fmtList : List Value → String
  | [] => ""
  | [v] => v.fmt
  | v :: vs => v.fmt ++ " " ++ fmtList vs
def fmtEntries : List (String × Value) → String
  | [] => ""
  | [(k, v)] => k ++ ":" ++ v.fmt
  | (k, v) :: kvs => k ++ ":" ++ v.fmt ++ " " ++ fmtEntries kvs
end

/-- `%x` of a non-negative integer. -/
def hexNat (n : Nat) : String := String.mk (Nat.toDigits 16 n)

/-- `%x` of an integer. -/
def hexInt (i : Int) : String := if i < 0 then "-" ++ hexNat i.natAbs else hexNat i.natAbs

/-- Every table of the tree is a Go map: its keys are distinct. -/
inductive GoMaps : Value → Prop
  | string (s : String) : GoMaps (.string s)
  | int64 (i : Int) : GoMaps (.int64 i)
  | uint64 (n : Nat) : GoMaps (.uint64 n)
  | bool (b : Bool) : GoMaps (.bool b)
  | other (t s : String) : GoMaps (.other t s)
  | array (vs : List Value) : (∀ v ∈ vs, GoMaps v) → GoMaps (.array vs)
  | map (kvs : List (String × Value)) :
      (kvs.map Prod.fst).Nodup → (∀ p ∈ kvs, GoMaps p.2) → GoMaps (.map kvs)

/-- The runtime's iteration orders: for the table at a key path, the order a
`range` over it visits the entries in. -/
def Iter := List String → List (String × Value) → List (String × Value)

/-- Every order visits each entry once. -/
def Iter.OK (ord : Iter) : Prop := ∀ p l, (ord p l).Perm l

/-- The entries in the order they are listed. -/
def Iter.listed : Iter := fun _ l => l

theorem Iter.listed_ok : Iter.listed.OK := fun _ _ => .refl _

/-- Every table's entries in reverse. -/
def Iter.reversed : Iter := fun _ l => l.reverse

theorem Iter.reversed_ok : Iter.reversed.OK := fun _ l => List.reverse_perm l

end GoL2tp.Config
