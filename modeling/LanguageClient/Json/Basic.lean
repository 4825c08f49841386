import LanguageClient.Table
import LanguageClient.Json.Double

/-!
JSON values. A number is a whole number of at most 64 bits, signed or unsigned, or else a double.
The members of an object are a `Table`, in ascending key order in every object that is built with
`Json.ofMembers` or read from a text.
-/
namespace LanguageClient

namespace Json

structure Whole where
  val : Int
  lower : -0x8000000000000000 ≤ val
  upper : val < 0x10000000000000000
  deriving DecidableEq, Repr

namespace Whole

def ofUInt64 (n : UInt64) : Whole :=
  ⟨n.toNat, by have := n.toNat_lt; omega, by have := n.toNat_lt; omega⟩

def ofUInt32 (n : UInt32) : Whole :=
  ⟨n.toNat, by have := n.toNat_lt; omega, by have := n.toNat_lt; omega⟩

def ofInt32 (n : Int32) : Whole :=
  ⟨n.toInt, by have := n.le_toInt; omega, by have := n.toInt_lt; omega⟩

def ofNat (n : Nat) : Whole := ofUInt64 (UInt64.ofNat (min n 0xFFFFFFFFFFFFFFFF))

def ofInt? (n : Int) : Option Whole :=
  if h : -0x8000000000000000 ≤ n ∧ n < 0x10000000000000000 then some ⟨n, h.1, h.2⟩ else none

end Whole

inductive Number where
  | whole (n : Whole)
  | double (x : Double)
  deriving DecidableEq, Repr

end Json

inductive Json where
  | null
  | bool (b : Bool)
  | number (n : Json.Number)
  | string (s : String)
  | array (items : List Json)
  | object (members : List (String × Json))
  deriving Inhabited, Repr

namespace Json

mutual

def decEq : (a b : Json) → Decidable (a = b)
  | .null, b => match b with
    | .null => .isTrue rfl
    | .bool _ | .number _ | .string _ | .array _ | .object _ => .isFalse (by simp)
  | .bool x, b => match b with
    | .bool y => if h : x = y then .isTrue (by simp [h]) else .isFalse (by simp [h])
    | .null | .number _ | .string _ | .array _ | .object _ => .isFalse (by simp)
  | .number x, b => match b with
    | .number y => if h : x = y then .isTrue (by simp [h]) else .isFalse (by simp [h])
    | .null | .bool _ | .string _ | .array _ | .object _ => .isFalse (by simp)
  | .string x, b => match b with
    | .string y => if h : x = y then .isTrue (by simp [h]) else .isFalse (by simp [h])
    | .null | .bool _ | .number _ | .array _ | .object _ => .isFalse (by simp)
  | .array x, b => match b with
    | .array y => match decEqItems x y with
      | .isTrue h => .isTrue (by simp [h])
      | .isFalse h => .isFalse (by simp [h])
    | .null | .bool _ | .number _ | .string _ | .object _ => .isFalse (by simp)
  | .object x, b => match b with
    | .object y => match decEqMembers x y with
      | .isTrue h => .isTrue (by simp [h])
      | .isFalse h => .isFalse (by simp [h])
    | .null | .bool _ | .number _ | .string _ | .array _ => .isFalse (by simp)
termination_by structural a => a

def decEqItems : (a b : List Json) → Decidable (a = b)
  | [], [] => .isTrue rfl
  | [], _ :: _ => .isFalse (by simp)
  | _ :: _, [] => .isFalse (by simp)
  | a :: r, b :: s => match decEq a b, decEqItems r s with
    | .isTrue h, .isTrue k => .isTrue (by simp [h, k])
    | .isFalse h, _ => .isFalse (by simp [h])
    | _, .isFalse k => .isFalse (by simp [k])
termination_by structural a => a

def decEqMembers : (a b : List (String × Json)) → Decidable (a = b)
  | [], [] => .isTrue rfl
  | [], _ :: _ => .isFalse (by simp)
  | _ :: _, [] => .isFalse (by simp)
  | (k, a) :: r, (l, b) :: s =>
    if e : k = l then
      match decEq a b, decEqMembers r s with
      | .isTrue h, .isTrue k => .isTrue (by simp [h, k, e])
      | .isFalse h, _ => .isFalse (by simp [h])
      | _, .isFalse k => .isFalse (by simp [k])
    else .isFalse (by simp [e])
termination_by structural a => a

end

instance : DecidableEq Json := decEq

def ofMembers (members : List (String × Json)) : Json := .object (Table.ofList members)

def get? : Json → String → Option Json
  | .object members, key => Table.get? members key
  | _, _ => none

def whole (n : Whole) : Json := .number (.whole n)

def ofNat (n : Nat) : Json := whole (.ofNat n)

def ofOption {α : Type} (encode : α → Json) : Option α → Json
  | none => .null
  | some a => encode a

def memberIfSome {α : Type} (key : String) (encode : α → Json) : Option α → List (String × Json)
  | none => []
  | some a => [(key, encode a)]

def asString? : Json → Option String
  | .string s => some s
  | _ => none

def asArray? : Json → Option (List Json)
  | .array items => some items
  | _ => none

def asNat? : Json → Option Nat
  | .number (.whole n) => if 0 ≤ n.val then some n.val.toNat else none
  | _ => none

end Json

end LanguageClient
