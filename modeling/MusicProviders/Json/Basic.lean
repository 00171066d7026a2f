import MusicProviders.Number.Shortest

/-! # JSON values

The vendors answer in JSON and the command interface speaks it, so dynamic JSON
values are part of the domain.

* `JsonNumber` — a number as a reader keeps it: an unsigned 64-bit integer, a
  negative 64-bit integer, or a double for everything else.
* `Json` — null, booleans, numbers, strings, arrays and objects; an object keeps its
  members sorted by key with each key once (`Json.mkObject` builds one).
* Accessors in the vendors' style: `get?`, `asString?`, `asBool?`, `asU64?`, `asI64?`,
  `asF64?`, each `none` when the value has another shape.
* `JsonNumber.text` — the decimal text of a number, integers exactly and doubles in
  their shortest form.
-/

namespace MusicProviders

/-- A JSON number as read: integers that fit 64 bits stay exact, the rest are doubles. -/
inductive JsonNumber
  /-- A non-negative integer below `2 ^ 64`. -/
  | unsigned (n : Nat)
  /-- A negative integer not below `-2 ^ 63`. -/
  | negative (n : Int)
  /-- Any other number, as the nearest double. -/
  | float (x : Binary64)
deriving DecidableEq, Repr, Inhabited

/-- A JSON value. -/
inductive Json
  | null
  | bool (b : Bool)
  | number (n : JsonNumber)
  | string (s : String)
  | array (items : List Json)
  | object (fields : List (String × Json))
deriving Repr, Inhabited

namespace Json

/-! ## Equality

The deriving handler does not reach through the nested lists of `Json`, so equality is
decided by comparing two values member by member. -/

mutual

/-- Whether two JSON values are equal, compared member by member. -/
def beq : Json → Json → Bool
  | .null, .null => true
  | .bool a, .bool b => a == b
  | .number a, .number b => a == b
  | .string a, .string b => a == b
  | .array as, .array bs => beqItems as bs
  | .object as, .object bs => beqMembers as bs
  | _, _ => false
termination_by structural a => a

/-- Whether two lists of JSON values are equal, item by item. -/
def beqItems : List Json → List Json → Bool
  | [], [] => true
  | a :: as, b :: bs => beq a b && beqItems as bs
  | _, _ => false
termination_by structural as => as

/-- Whether two lists of object members are equal, key and value by key and value. -/
def beqMembers : List (String × Json) → List (String × Json) → Bool
  | [], [] => true
  | (k, a) :: as, (l, b) :: bs => k == l && beq a b && beqMembers as bs
  | _, _ => false
termination_by structural as => as

end

/-- `beq` and its companions decide equality, proved along the recursion of `beq`: equal
constructors compare their payloads, and different ones are neither equal nor `beq`. -/
theorem beq_decides :
    (∀ a b : Json, beq a b = true ↔ a = b) ∧
      (∀ as bs : List (String × Json), beqMembers as bs = true ↔ as = bs) ∧
      ∀ as bs : List Json, beqItems as bs = true ↔ as = bs := by
  apply beq.mutual_induct (fun a b => beq a b = true ↔ a = b)
    (fun as bs => beqMembers as bs = true ↔ as = bs) (fun as bs => beqItems as bs = true ↔ as = bs)
  -- two values of one constructor
  · exact ⟨fun _ => rfl, fun _ => rfl⟩
  · intro a b
    show (a == b) = true ↔ _
    rw [beq_iff_eq, Json.bool.injEq]
  · intro a b
    show (a == b) = true ↔ _
    rw [beq_iff_eq, Json.number.injEq]
  · intro a b
    show (a == b) = true ↔ _
    rw [beq_iff_eq, Json.string.injEq]
  · intro as bs items
    show beqItems as bs = true ↔ _
    rw [items, Json.array.injEq]
  · intro as bs members
    show beqMembers as bs = true ↔ _
    rw [members, Json.object.injEq]
  -- two values of different constructors
  · intro t x notNull notBool notNumber notString notArray notObject
    cases t <;> cases x <;> simp_all [beq]
  -- lists of items
  · exact ⟨fun _ => rfl, fun _ => rfl⟩
  · intro a as b bs item items
    show (beq a b && beqItems as bs) = true ↔ _
    rw [Bool.and_eq_true, item, items, List.cons.injEq]
  · intro t x notNil notCons
    rcases t with _ | ⟨a, as⟩ <;> rcases x with _ | ⟨b, bs⟩
    · exact (notNil rfl rfl).elim
    · exact iff_of_false Bool.false_ne_true (List.cons_ne_nil b bs).symm
    · exact iff_of_false Bool.false_ne_true (List.cons_ne_nil a as)
    · exact (notCons a as b bs rfl rfl).elim
  -- lists of members
  · exact ⟨fun _ => rfl, fun _ => rfl⟩
  · intro k a as l b bs value members
    show (k == l && beq a b && beqMembers as bs) = true ↔ _
    rw [Bool.and_eq_true, Bool.and_eq_true, beq_iff_eq, value, members, List.cons.injEq,
      Prod.mk.injEq]
  · intro t x notNil notCons
    rcases t with _ | ⟨⟨k, a⟩, as⟩ <;> rcases x with _ | ⟨⟨l, b⟩, bs⟩
    · exact (notNil rfl rfl).elim
    · exact iff_of_false Bool.false_ne_true (List.cons_ne_nil _ bs).symm
    · exact iff_of_false Bool.false_ne_true (List.cons_ne_nil _ as)
    · exact (notCons k a as l b bs rfl rfl).elim

theorem beq_iff (a b : Json) : beq a b = true ↔ a = b :=
  beq_decides.1 a b

instance : DecidableEq Json := fun a b => decidable_of_iff _ (beq_iff a b)

end Json

namespace JsonNumber

/-- The largest unsigned 64-bit integer. -/
def u64Max : Nat := Nat.pow 2 64 - 1

/-- The signed 64-bit range. -/
def i64Min : Int := -Int.pow 2 63
def i64Max : Int := Int.pow 2 63 - 1

/-- The number for an integer: exact when it fits 64 bits, a double otherwise. -/
def ofInt (n : Int) : JsonNumber :=
  if 0 ≤ n ∧ n ≤ u64Max then .unsigned n.toNat
  else if i64Min ≤ n ∧ n < 0 then .negative n
  else .float (Binary64.ofInt n)

/-- The value as an unsigned 64-bit integer, when it is one. -/
def asU64? : JsonNumber → Option Nat
  | .unsigned n => some n
  | _ => none

/-- The value as a signed 64-bit integer, when it is one. -/
def asI64? : JsonNumber → Option Int
  | .unsigned n => if n ≤ Nat.pow 2 63 - 1 then some n else none
  | .negative n => some n
  | .float _ => none

/-- The value as a double; integers are converted to the nearest double. -/
def asF64 : JsonNumber → Binary64
  | .unsigned n => Binary64.ofInt n
  | .negative n => Binary64.ofInt n
  | .float x => x

/-- The decimal text of a number. -/
def text : JsonNumber → String
  | .unsigned n => toString n
  | .negative n => toString n
  | .float x => x.render .json

end JsonNumber

namespace Json

/-- Insert a member into a key-sorted member list, replacing a member of the same key. -/
def insertField (k : String) (v : Json) : List (String × Json) → List (String × Json)
  | [] => [(k, v)]
  | (k', v') :: rest =>
    if k = k' then (k, v) :: rest
    else if k < k' then (k, v) :: (k', v') :: rest
    else (k', v') :: insertField k v rest

/-- An object from members in any order; a later member wins over an earlier one of the
same key. -/
def mkObject (fields : List (String × Json)) : Json :=
  .object (fields.foldl (fun acc (k, v) => insertField k v acc) [])

/-- The member of an object under a key. -/
def get? (v : Json) (key : String) : Option Json :=
  match v with
  | .object fields => fields.lookup key
  | _ => none

/-- The text of a string value. -/
def asString? : Json → Option String
  | .string s => some s
  | _ => none

/-- The truth value of a boolean. -/
def asBool? : Json → Option Bool
  | .bool b => some b
  | _ => none

/-- An unsigned 64-bit integer value. -/
def asU64? : Json → Option Nat
  | .number n => n.asU64?
  | _ => none

/-- A signed 64-bit integer value. -/
def asI64? : Json → Option Int
  | .number n => n.asI64?
  | _ => none

/-- A number as a double. -/
def asF64? : Json → Option Binary64
  | .number n => some n.asF64
  | _ => none

/-- The items of an array. -/
def asArray? : Json → Option (List Json)
  | .array items => some items
  | _ => none

/-- The members of an object. -/
def asObject? : Json → Option (List (String × Json))
  | .object fields => some fields
  | _ => none

/-- Whether the value is `null`. -/
def isNull : Json → Bool
  | .null => true
  | _ => false

/-- An unsigned integer value. -/
def nat (n : Nat) : Json := .number (.ofInt n)

/-- A signed integer value. -/
def int (n : Int) : Json := .number (.ofInt n)

/-- A string value, or `null` for `none`. -/
def optString : Option String → Json
  | some s => .string s
  | none => .null

/-- An unsigned integer value, or `null` for `none`. -/
def optNat : Option Nat → Json
  | some n => .nat n
  | none => .null

end Json

end MusicProviders
