import SeedMg24.Foundation.Json
import Mathlib.Data.Char
import Mathlib.Data.List.Lex
import Mathlib.Data.List.Sort

/-!
# JSON values in Python

What `json.loads` makes of a JSON text is a Python value: a dictionary has each of its keys once, with
the last value that is written for it.  The canonical form of a value has the members of its objects
so, in the order of their keys; two values are equal in Python if their canonical forms agree up to
the types of numbers.
-/

set_option autoImplicit false

namespace Foundation

namespace Json

variable {α : Type}

/-- The members of which no other one with the key comes later. -/
def lastMembers : List (Text × α) → List (Text × α)
  | [] => []
  | (key, value) :: members =>
    if key ∈ members.map Prod.fst then lastMembers members
    else (key, value) :: lastMembers members

/-- The members of a dictionary, by their keys. -/
def sortedMembers (members : List (Text × α)) : List (Text × α) :=
  (lastMembers members).insertionSort fun a b => a.1 ≤ b.1

mutual

/-- The canonical form of a value. -/
def canonical : Json → Json
  | .arr items => .arr (canonicalItems items)
  | .obj members => .obj (sortedMembers (canonicalMembers members))
  | j => j

def canonicalItems : List Json → List Json
  | [] => []
  | j :: items => canonical j :: canonicalItems items

def canonicalMembers : List (Text × Json) → List (Text × Json)
  | [] => []
  | (key, j) :: members => (key, canonical j) :: canonicalMembers members

end

/-- The number a value stands for. -/
def numeric : Json → Option ℚ
  | .bool b => some (if b then 1 else 0)
  | .int z => some z
  | .float (.finite q) => some q
  | _ => none

mutual

/-- Whether canonical forms are of equal values. -/
def agrees : Json → Json → Bool
  | .null, .null => true
  | .str s, .str t => s = t
  | .float (.infinite a), .float (.infinite b) => a = b
  | .arr items, .arr others => agreesItems items others
  | .obj members, .obj others => agreesMembers members others
  | j, k => j.numeric.isSome && j.numeric = k.numeric

def agreesItems : List Json → List Json → Bool
  | [], [] => true
  | j :: items, k :: others => agrees j k && agreesItems items others
  | _, _ => false

def agreesMembers : List (Text × Json) → List (Text × Json) → Bool
  | [], [] => true
  | (key, j) :: members, (other, k) :: others =>
    key = other && agrees j k && agreesMembers members others
  | _, _ => false

end

/-- `==` of two values: a number that is no number is not even equal to itself. -/
def same (j k : Json) : Bool := agrees j.canonical k.canonical

/-- The value of `get`, which is `None` where there is no such key. -/
def get (j : Json) (key : Text) : Json := (j.get? key).getD .null

/-- Whether a value counts as true. -/
def countsAsTrue : Json → Bool
  | .null => false
  | .bool b => b
  | .int z => z ≠ 0
  | .float x => x ≠ .finite 0
  | .str s => !s.isEmpty
  | .arr items => !items.isEmpty
  | .obj members => !members.isEmpty

/-- Equal to a text is only that text. -/
theorem same_str {j : Json} {s : Text} : same j (.str s) = true ↔ j = .str s := by
  unfold same
  cases j with
  | float x => cases x <;> simp [canonical, agrees, numeric]
  | _ => simp [canonical, agrees, numeric]

/-- Equal to `None` is only `None`. -/
theorem same_null {j : Json} : same j .null = true ↔ j = .null := by
  unfold same
  cases j with
  | float x => cases x <;> simp [canonical, agrees, numeric]
  | _ => simp [canonical, agrees, numeric]

example : same (.obj [("a".toList, .int 1), ("b".toList, .null), ("a".toList, .bool true)])
    (.obj [("b".toList, .null), ("a".toList, .float (.finite 1))]) = true := by decide +kernel

end Json

end Foundation
