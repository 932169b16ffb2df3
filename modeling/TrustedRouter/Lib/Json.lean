import TrustedRouter.Lib.Str

/-!
# `TrustedRouter.Lib.Json`: `serde_json` values

`Value` is `serde_json::Value`. An object's `Map` is kept as its members in ascending key
order, one member a name, which is what a `BTreeMap` iterates. `Map.insert` is the only
way code adds a member, and `Map.insert_get` and `Map.insert_get_of_ne` say what a lookup
sees afterwards.

A `Number` is a `u64`, a negative `i64`, or a finite `f64`, which stands here as its bits.
`asI64` and `asU64` are the two integer readings. A float is never an integer to them.

`Raw` is what the parser of `serde_json` emits before a visitor decides what to keep: an
object there is the list of its members as they stand in the text, repeated names and
all. `Raw.toValue` is the ordinary visitor, which lets a later member replace an earlier
one. A stricter visitor is a different fold over the same tree. `Raw.NoRepeats` says that
no object of the tree repeats a name, with one equivalence for arrays and one for objects.
`Reader` is the parser itself, a parameter: it reads one value off the front of the input
and returns the rest.
-/

set_option autoImplicit false

namespace Serde

open Rust (Bytes)

/-- `serde_json::Number`. -/
inductive Number where
  | posInt (n : UInt64)
  | negInt (n : Int64)
  | float (bits : UInt64)
  deriving DecidableEq, Repr

namespace Number

/-- `Number::as_i64`: every integer in the range of `i64`. -/
def asI64 : Number → Option Int
  | .posInt n => if n.toNat < 2 ^ 63 then some n.toNat else none
  | .negInt n => some n.toInt
  | .float _ => none

/-- `Number::as_u64`: a negative integer and a float are not one. -/
def asU64 : Number → Option Nat
  | .posInt n => some n.toNat
  | .negInt _ => none
  | .float _ => none

/-- `PartialEq` of two numbers. Floats compare as floats, so the two zeros are equal. -/
def eq : Number → Number → Bool
  | .posInt a, .posInt b => a == b
  | .negInt a, .negInt b => a == b
  | .float a, .float b => a == b || (a <<< 1 == 0 && b <<< 1 == 0)
  | _, _ => false

end Number

/-- `serde_json::Value`. -/
inductive Value where
  | null
  | bool (b : Bool)
  | number (n : Number)
  | string (s : String)
  | array (values : List Value)
  | object (members : List (String × Value))

/-- `serde_json::Map<String, Value>`. -/
abbrev Map := List (String × Value)

namespace Map

/-- `Map::get`. -/
def get (m : Map) (name : String) : Option Value :=
  match m with
  | [] => none
  | (key, value) :: rest => if key = name then some value else get rest name

/-- `Map::contains_key`. -/
def containsKey (m : Map) (name : String) : Bool := (get m name).isSome

/-- `Map::insert`: the members stay in ascending key order, and an equal name keeps one
member, the new one. -/
def insert (m : Map) (name : String) (value : Value) : Map :=
  match m with
  | [] => [(name, value)]
  | (key, old) :: rest =>
      if name = key then (name, value) :: rest
      else if name < key then (name, value) :: (key, old) :: rest
      else (key, old) :: insert rest name value

/-- A lookup sees what was inserted last. The induction is on the members, and the three cases are
those of `insert`: an equal name, a larger one, a smaller one. -/
theorem insert_get (m : Map) (name : String) (value : Value) :
    get (insert m name value) name = some value := by
  induction m with
  | nil => simp [insert, get]
  | cons member rest ih =>
      obtain ⟨key, old⟩ := member
      simp only [insert]
      split
      · simp [get]
      · rename_i hne
        split
        · simp [get]
        · simp [get, Ne.symm hne, ih]

/-- A lookup of another name is not changed by an insertion. -/
theorem insert_get_of_ne (m : Map) {name other : String} (value : Value)
    (h : other ≠ name) : get (insert m name value) other = get m other := by
  induction m with
  | nil => simp [insert, get, Ne.symm h]
  | cons member rest ih =>
      obtain ⟨key, old⟩ := member
      simp only [insert]
      split
      · rename_i heq
        subst heq
        simp [get, Ne.symm h]
      · split
        · simp [get, Ne.symm h]
        · simp [get, ih]

end Map

namespace Value

/-- `Value::as_object`. -/
def asObject : Value → Option Map
  | .object m => some m
  | _ => none

/-- `Value::as_array`. -/
def asArray : Value → Option (List Value)
  | .array values => some values
  | _ => none

/-- `Value::as_str`. -/
def asStr : Value → Option String
  | .string s => some s
  | _ => none

/-- `Value::as_bool`. -/
def asBool : Value → Option Bool
  | .bool b => some b
  | _ => none

/-- `Value::as_i64`. -/
def asI64 : Value → Option Int
  | .number n => n.asI64
  | _ => none

/-- `Value::as_u64`. -/
def asU64 : Value → Option Nat
  | .number n => n.asU64
  | _ => none

/-- `Value::is_object`. -/
def isObject (v : Value) : Bool := v.asObject.isSome

/-- `Value::is_string`. -/
def isString (v : Value) : Bool := v.asStr.isSome

/-- `Value::get` with a name: a member of an object, and nothing of any other value. -/
def get (v : Value) (name : String) : Option Value := v.asObject.bind (Map.get · name)

/-- `serde_json`'s `parse_index`: a decimal index with no sign and no leading zero. -/
def parseIndex (token : String) : Option Nat :=
  match token.toList with
  | [] => none
  | '0' :: _ :: _ => none
  | digits =>
      if digits.all Char.isDigit then
        some (digits.foldl (fun acc c => 10 * acc + (c.toNat - 48)) 0)
      else none

/-- `Value::pointer`, on the reference tokens between the slashes. -/
def pointer : Value → List String → Option Value
  | v, [] => some v
  | .object m, token :: rest =>
      match Map.get m token with
      | some v => pointer v rest
      | none => none
  | .array values, token :: rest =>
      match (parseIndex token).bind (values[·]?) with
      | some v => pointer v rest
      | none => none
  | _, _ :: _ => none

mutual

/-- `PartialEq` of two values. -/
def eq : Value → Value → Bool
  | .null, .null => true
  | .bool a, .bool b => a == b
  | .number a, .number b => a.eq b
  | .string a, .string b => a == b
  | .array a, .array b => eqList a b
  | .object a, .object b => eqMembers a b
  | _, _ => false

/-- Element by element. -/
def eqList : List Value → List Value → Bool
  | [], [] => true
  | a :: as, b :: bs => eq a b && eqList as bs
  | _, _ => false

/-- Member by member: both maps list their members in the same order. -/
def eqMembers : List (String × Value) → List (String × Value) → Bool
  | [], [] => true
  | (k, a) :: as, (l, b) :: bs => k == l && eq a b && eqMembers as bs
  | _, _ => false

end

mutual

/-- Equality of values is reflexive, a float being compared by its bits first. As a number a NaN
would not equal itself, but a `Number` cannot be one. -/
theorem eq_self : ∀ v : Value, v.eq v = true
  | .null => rfl
  | .bool b => by simp [eq]
  | .number n => by cases n <;> simp [eq, Number.eq]
  | .string s => by simp [eq]
  | .array values => by rw [eq, eqList_self values]
  | .object members => by rw [eq, eqMembers_self members]

/-- The same for the elements of an array. -/
theorem eqList_self : ∀ values : List Value, eqList values values = true
  | [] => by rw [eqList]
  | value :: values => by rw [eqList, eq_self value, eqList_self values, Bool.and_self]

/-- The same for the members of an object. -/
theorem eqMembers_self : ∀ members : List (String × Value), eqMembers members members = true
  | [] => by rw [eqMembers]
  | (name, value) :: members => by
      rw [eqMembers, eq_self value, eqMembers_self members, beq_self_eq_true, Bool.and_self,
        Bool.and_self]

end

/-- `as_object` reads objects and nothing else. -/
theorem asObject_eq_some {v : Value} {m : Map} : v.asObject = some m ↔ v = .object m := by
  cases v <;> simp [asObject]

/-- `as_str` reads strings and nothing else: a number is not converted. -/
theorem asStr_eq_some {v : Value} {s : String} : v.asStr = some s ↔ v = .string s := by
  cases v <;> simp [asStr]

/-- `as_bool` reads booleans and nothing else. -/
theorem asBool_eq_some {v : Value} {b : Bool} : v.asBool = some b ↔ v = .bool b := by
  cases v <;> simp [asBool]

end Value

/-- The events of the parser, as a tree. A member list is in text order. -/
inductive Raw where
  | null
  | bool (b : Bool)
  | number (n : Number)
  | string (s : String)
  | array (values : List Raw)
  | object (members : List (String × Raw))

mutual

/-- The ordinary visitor of `Value`: a later member of the same name replaces the earlier
one. -/
def Raw.toValue : Raw → Value
  | .null => .null
  | .bool b => .bool b
  | .number n => .number n
  | .string s => .string s
  | .array values => .array (Raw.toValues values)
  | .object members => .object (Raw.toMap members [])

@[inherit_doc Raw.toValue]
def Raw.toValues : List Raw → List Value
  | [] => []
  | v :: vs => v.toValue :: Raw.toValues vs

@[inherit_doc Raw.toValue]
def Raw.toMap : List (String × Raw) → Map → Map
  | [], acc => acc
  | (name, v) :: rest, acc => Raw.toMap rest (acc.insert name v.toValue)

end

/-! ## Repeated names -/

namespace Raw

/-- The node `x` stands somewhere in a tree, at any depth of arrays and objects. -/
inductive Inside (x : Raw) : Raw → Prop where
  | here : Inside x x
  | element {values : List Raw} {v : Raw} :
      v ∈ values → Inside x v → Inside x (.array values)
  | member {members : List (String × Raw)} {m : String × Raw} :
      m ∈ members → Inside x m.2 → Inside x (.object members)

/-- No object of the tree, however deep, has two members of one name. -/
def NoRepeats (raw : Raw) : Prop :=
  ∀ members, Inside (.object members) raw → (members.map Prod.fst).Nodup

/-- An array repeats no name when none of its elements does. -/
theorem noRepeats_array {values : List Raw} :
    NoRepeats (.array values) ↔ ∀ v ∈ values, NoRepeats v := by
  constructor
  · intro h v hv members hinside
    exact h members (.element hv hinside)
  · intro h members hinside
    cases hinside with
    | element hv hinside => exact h _ hv members hinside

/-- An object repeats no name when its own names differ and none of its members repeats one. -/
theorem noRepeats_object {members : List (String × Raw)} :
    NoRepeats (.object members) ↔
      (members.map Prod.fst).Nodup ∧ ∀ m ∈ members, NoRepeats m.2 := by
  constructor
  · intro h
    exact ⟨h members .here, fun m hm below hinside => h below (.member hm hinside)⟩
  · rintro ⟨hnodup, h⟩ below hinside
    cases hinside with
    | here => exact hnodup
    | member hm hinside => exact h _ hm below hinside

end Raw

/-- The parser: one value off the front of the input and the bytes after it, or the
parser's message. -/
abbrev Reader := Bytes → Except String (Raw × Bytes)

/-- JSON whitespace, the only bytes `Deserializer::end` skips. -/
def isJsonWhitespace (b : UInt8) : Bool := b == 32 || b == 10 || b == 9 || b == 13

/-- `Deserializer::end`: nothing but whitespace is left. -/
def atEnd (rest : Bytes) : Except String Unit :=
  if rest.all isJsonWhitespace then .ok () else .error "trailing characters"

/-- `serde_json::from_slice::<Value>`. -/
def fromSlice (read : Reader) (data : Bytes) : Except String Value := do
  let (raw, rest) ← read data
  atEnd rest
  pure raw.toValue

end Serde
