import ContentQuery.Decimal.Double
import ContentQuery.OrderedMap

namespace ContentQuery

inductive Number where
  | int (value : Int)
  | real (value : Double)
  deriving Repr, DecidableEq

-- Object fields keep their order. A reader never yields a field name twice.
inductive Json where
  | null
  | bool (value : Bool)
  | num (value : Number)
  | str (text : String)
  | arr (items : List Json)
  | obj (fields : List (String × Json))
  deriving Repr

namespace Json

mutual

def decEq : (a b : Json) → Decidable (a = b)
  | .null, b => match b with
    | .null => isTrue rfl
    | .bool _ | .num _ | .str _ | .arr _ | .obj _ => isFalse nofun
  | .bool x, b => match b with
    | .bool y => decidable_of_iff (x = y) (by simp)
    | .null | .num _ | .str _ | .arr _ | .obj _ => isFalse nofun
  | .num x, b => match b with
    | .num y => decidable_of_iff (x = y) (by simp)
    | .null | .bool _ | .str _ | .arr _ | .obj _ => isFalse nofun
  | .str x, b => match b with
    | .str y => decidable_of_iff (x = y) (by simp)
    | .null | .bool _ | .num _ | .arr _ | .obj _ => isFalse nofun
  | .arr x, b => match b with
    | .arr y =>
      let _ := decEqItems x y
      decidable_of_iff (x = y) (by simp)
    | .null | .bool _ | .num _ | .str _ | .obj _ => isFalse nofun
  | .obj x, b => match b with
    | .obj y =>
      let _ := decEqFields x y
      decidable_of_iff (x = y) (by simp)
    | .null | .bool _ | .num _ | .str _ | .arr _ => isFalse nofun

def decEqItems : (a b : List Json) → Decidable (a = b)
  | [], [] => isTrue rfl
  | [], _ :: _ | _ :: _, [] => isFalse nofun
  | x :: xs, y :: ys =>
    let _ := decEq x y
    let _ := decEqItems xs ys
    decidable_of_iff (x = y ∧ xs = ys) (by simp)

def decEqFields : (a b : List (String × Json)) → Decidable (a = b)
  | [], [] => isTrue rfl
  | [], _ :: _ | _ :: _, [] => isFalse nofun
  | (n, x) :: xs, (m, y) :: ys =>
    let _ := decEq x y
    let _ := decEqFields xs ys
    decidable_of_iff (n = m ∧ x = y ∧ xs = ys) (by simp [and_assoc])

end

instance : DecidableEq Json := decEq

instance : Inhabited Json := ⟨null⟩

def int (value : Int) : Json := .num (.int value)

def isNull : Json → Bool
  | .null => true
  | _ => false

def string? : Json → Option String
  | .str text => some text
  | _ => none

def leastSigned : Int := -9223372036854775808
def greatestSigned : Int := 9223372036854775807
def greatestUnsigned : Int := 18446744073709551615

def signed? : Json → Option Int
  | .num (.int value) => if leastSigned ≤ value ∧ value ≤ greatestSigned then some value else none
  | _ => none

def unsigned? : Json → Option Nat
  | .num (.int value) => if 0 ≤ value ∧ value ≤ greatestUnsigned then some value.toNat else none
  | _ => none

end Json
end ContentQuery
