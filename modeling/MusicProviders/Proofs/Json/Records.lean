import MusicProviders.Json.Decode
import Mathlib

/-! # Reading records back from objects

A record is written as an object whose members are kept sorted by key (`Json.mkObject`)
and read by `Decoder.record`, which first checks every member against its field and every
required field for a member, and only then builds the value. When the checks pass, reading
the record is building it from the members:

* `Json.lookup_mkObject` — the object built from members of distinct keys holds, under
  every key, the member given for it.
* `Decoder.recordAs_object`, `Decoder.record_mkObject` — a record read from an object
  whose members pass their fields' checks, and which has every required field, is built
  from the members.
* `Decoder.Fields.ofMembers` — the fields of such a record; its `simp` lemmas turn each
  accessor into the lookup of its member, so that `simp` evaluates a record's fields one
  by one.
* The primitive decoders on the values the encoders give them: strings, booleans,
  unsigned integers in range, optional values and lists (`Decoder.list_map`).
-/

namespace MusicProviders

namespace Json

theorem lookup_insertField_self (k : String) (v : Json) :
    ∀ fs : List (String × Json), (insertField k v fs).lookup k = some v
  | [] => by simp [insertField]
  | (k', v') :: rest => by
    unfold insertField
    split_ifs with same less
    · simp [List.lookup]
    · simp [List.lookup]
    · simp [List.lookup, beq_false_of_ne same, lookup_insertField_self k v rest]

theorem lookup_insertField_ne {k k' : String} (ne : k' ≠ k) (v : Json) :
    ∀ fs : List (String × Json), (insertField k v fs).lookup k' = fs.lookup k'
  | [] => by simp [insertField, List.lookup, beq_false_of_ne ne]
  | (k'', v') :: rest => by
    unfold insertField
    split_ifs with same less
    · subst same
      simp [List.lookup, beq_false_of_ne ne]
    · simp [List.lookup, beq_false_of_ne ne]
    · simp only [List.lookup, lookup_insertField_ne ne v rest]

theorem mem_insertField {k : String} {v : Json} {p : String × Json} :
    ∀ {fs : List (String × Json)}, p ∈ insertField k v fs → p = (k, v) ∨ p ∈ fs
  | [], mem => by simpa [insertField] using mem
  | (k', v') :: rest, mem => by
    unfold insertField at mem
    split_ifs at mem with same less
    · rcases List.mem_cons.mp mem with new | old
      · exact .inl new
      · exact .inr (List.mem_cons_of_mem _ old)
    · exact List.mem_cons.mp mem
    · rcases List.mem_cons.mp mem with here | there
      · exact .inr (here ▸ List.mem_cons_self)
      · rcases mem_insertField there with new | old
        · exact .inl new
        · exact .inr (List.mem_cons_of_mem _ old)

theorem lookup_of_not_mem {k : String} :
    ∀ {fs : List (String × Json)}, k ∉ fs.map Prod.fst → fs.lookup k = none
  | [], _ => rfl
  | (k', v') :: rest, absent => by
    rw [List.map_cons, List.mem_cons, not_or] at absent
    simp [List.lookup, beq_false_of_ne absent.1, lookup_of_not_mem absent.2]

theorem lookup_of_mem {k : String} {v : Json} :
    ∀ {fs : List (String × Json)}, (fs.map Prod.fst).Nodup → (k, v) ∈ fs → fs.lookup k = some v
  | [], _, mem => by cases mem
  | (k', v') :: rest, distinct, mem => by
    rw [List.map_cons, List.nodup_cons] at distinct
    rcases List.mem_cons.mp mem with here | there
    · cases here
      simp [List.lookup]
    · have other : k ≠ k' := by
        rintro rfl
        exact distinct.1 (List.mem_map.mpr ⟨(k, v), there, rfl⟩)
      simp [List.lookup, beq_false_of_ne other, lookup_of_mem distinct.2 there]

theorem any_key_of_lookup {k : String} {v : Json} :
    ∀ {fs : List (String × Json)}, fs.lookup k = some v → fs.any (·.1 == k) = true
  | [], found => by simp [List.lookup] at found
  | (k', v') :: rest, found => by
    by_cases same : k = k'
    · subst same
      simp
    · simp only [List.lookup, beq_false_of_ne same] at found
      simp [any_key_of_lookup found]

theorem mkObject_fields (fields : List (String × Json)) :
    mkObject fields = .object (fields.foldl (fun acc kv => insertField kv.1 kv.2 acc) []) :=
  rfl

theorem mem_foldl_insertField {p : String × Json} :
    ∀ (fields acc : List (String × Json)),
      p ∈ fields.foldl (fun acc kv => insertField kv.1 kv.2 acc) acc → p ∈ acc ∨ p ∈ fields
  | [], acc, mem => .inl mem
  | kv :: rest, acc, mem => by
    rcases mem_foldl_insertField rest _ mem with inserted | later
    · rcases mem_insertField inserted with new | old
      · exact .inr (by simp [new])
      · exact .inl old
    · exact .inr (List.mem_cons_of_mem _ later)

theorem lookup_foldl_insertField :
    ∀ (fields : List (String × Json)), (fields.map Prod.fst).Nodup →
      ∀ (acc : List (String × Json)) (k : String),
        (fields.foldl (fun acc kv => insertField kv.1 kv.2 acc) acc).lookup k =
          (fields.lookup k).or (acc.lookup k)
  | [], _, acc, k => by simp [List.lookup]
  | (k₀, v₀) :: rest, distinct, acc, k => by
    rw [List.map_cons, List.nodup_cons] at distinct
    rw [List.foldl_cons, lookup_foldl_insertField rest distinct.2]
    -- the member inserted first survives the later insertions, which are of other keys
    by_cases same : k = k₀
    · subst same
      have absent : rest.lookup k = none := lookup_of_not_mem distinct.1
      simp [List.lookup, absent, lookup_insertField_self]
    · simp [List.lookup, beq_false_of_ne same, lookup_insertField_ne same]

/-- The object built from members of distinct keys holds each member under its key. -/
theorem lookup_mkObject {members : List (String × Json)} (distinct : (members.map Prod.fst).Nodup)
    (k : String) :
    (members.foldl (fun acc kv => insertField kv.1 kv.2 acc) []).lookup k = members.lookup k := by
  rw [lookup_foldl_insertField members distinct [] k]
  cases members.lookup k <;> rfl

theorem nat_of_le {n : Nat} (fits : n ≤ JsonNumber.u64Max) : nat n = .number (.unsigned n) := by
  have bounded : (0 : Int) ≤ n ∧ (n : Int) ≤ JsonNumber.u64Max := ⟨by omega, by omega⟩
  simp [nat, JsonNumber.ofInt, bounded]

end Json

namespace Decoder

namespace Fields

/-- The fields of a record given as the members of an object. -/
def ofMembers (members : List (String × Json)) : Fields := ⟨fun k => members.lookup k⟩

variable {α : Type} (members : List (String × Json)) (name : String) (d : Decoder α)

@[simp] theorem req_members :
    (ofMembers members).req name d =
      (members.lookup name).elim (.error (.missingField name)) d := by
  simp only [req, ofMembers]
  cases members.lookup name <;> rfl

@[simp] theorem opt_members :
    (ofMembers members).opt name d = (members.lookup name).elim (.ok none) (option d) := by
  simp only [opt, ofMembers]
  cases members.lookup name <;> rfl

@[simp] theorem dflt_members (fallback : α) :
    (ofMembers members).dflt name d fallback = (members.lookup name).elim (.ok fallback) d := by
  simp only [dflt, ofMembers]
  cases members.lookup name <;> rfl

end Fields

/-! ## The primitive decoders on encoded values -/

@[simp] theorem ok_bind {α β : Type} (a : α) (f : α → Except DecodeError β) :
    (Except.ok a >>= f) = f a := rfl

@[simp] theorem elim_ok_some {α : Type} (o : Option α) :
    o.elim (.ok none) (fun a => .ok (some a) : α → Except DecodeError (Option α)) = .ok o := by
  cases o <;> rfl

/-- A list member left out when empty reads back as the list it stands for. -/
@[simp] theorem elim_ifEmpty {α : Type} {as : List α} {v : Json} {d : Decoder (List α)}
    (reads : d v = .ok as) : (if as = [] then none else some v).elim (.ok []) d = .ok as := by
  by_cases empty : as = [] <;> simp [empty, reads]

@[simp] theorem option_string {α : Type} (d : Decoder α) (s : String) :
    option d (.string s) = some <$> d (.string s) := rfl

@[simp] theorem option_bool {α : Type} (d : Decoder α) (b : Bool) :
    option d (.bool b) = some <$> d (.bool b) := rfl

@[simp] theorem option_nat {α : Type} (d : Decoder α) (n : Nat) :
    option d (Json.nat n) = some <$> d (Json.nat n) := rfl

theorem option_mkObject_ok {α : Type} {d : Decoder α} {members : List (String × Json)} {a : α}
    (reads : d (Json.mkObject members) = .ok a) :
    option d (Json.mkObject members) = .ok (some a) := by
  show some <$> d (Json.mkObject members) = _
  rw [reads]
  rfl

@[simp] theorem string_string (s : String) : string (.string s) = .ok s := rfl

@[simp] theorem bool_bool (b : Bool) : bool (.bool b) = .ok b := rfl

theorem unsignedUpTo_nat {limit n : Nat} (name : String) (below : n ≤ limit)
    (fits : limit ≤ JsonNumber.u64Max) : unsignedUpTo limit name (Json.nat n) = .ok n := by
  rw [Json.nat_of_le (by omega), unsignedUpTo, if_pos below]

theorem u64_nat {n : Nat} (fits : n < 2 ^ 64) : u64 (Json.nat n) = .ok n :=
  unsignedUpTo_nat "u64" (by rw [Nat.pow_eq]; omega) (by simp [JsonNumber.u64Max, Nat.pow_eq])

theorem u32_nat {n : Nat} (fits : n < 2 ^ 32) : u32 (Json.nat n) = .ok n :=
  unsignedUpTo_nat "u32" (by rw [Nat.pow_eq]; omega) (by simp [JsonNumber.u64Max, Nat.pow_eq])

theorem u8_nat {n : Nat} (fits : n < 2 ^ 8) : u8 (Json.nat n) = .ok n :=
  unsignedUpTo_nat "u8" (by omega) (by simp [JsonNumber.u64Max])

/-- A list read from the forms of its items: each item reads back as its image. -/
theorem list_map {α β : Type} (d : Decoder α) (enc : β → Json) (f : β → α) :
    ∀ (bs : List β), (∀ b ∈ bs, d (enc b) = .ok (f b)) →
      list d (.array (bs.map enc)) = .ok (bs.map f)
  | [], _ => rfl
  | b :: bs, decodes => by
    have rest := list_map d enc f bs fun c mem => decodes c (List.mem_cons_of_mem b mem)
    simp only [list, List.map_cons, List.mapM_cons, decodes b List.mem_cons_self] at rest ⊢
    rw [rest]
    rfl

theorem list_map_self {α : Type} (d : Decoder α) (enc : α → Json) (as : List α)
    (decodes : ∀ a ∈ as, d (enc a) = .ok a) : list d (.array (as.map enc)) = .ok as := by
  simpa using list_map d enc id as decodes

/-- A list read from the forms of its items, each of which reads back as a value related
to it: the list read is related item by item. -/
theorem list_map_exists {α β : Type} (d : Decoder α) (enc : β → Json) (R : β → α → Prop) :
    ∀ (bs : List β), (∀ b ∈ bs, ∃ a, R b a ∧ d (enc b) = .ok a) →
      ∃ as, List.Forall₂ R bs as ∧ list d (.array (bs.map enc)) = .ok as
  | [], _ => ⟨[], .nil, rfl⟩
  | b :: bs, decodes => by
    obtain ⟨a, related, first⟩ := decodes b List.mem_cons_self
    obtain ⟨as, relatedRest, rest⟩ :=
      list_map_exists d enc R bs fun c mem => decodes c (List.mem_cons_of_mem b mem)
    refine ⟨a :: as, .cons related relatedRest, ?_⟩
    simp only [list, List.map_cons, List.mapM_cons, first] at rest ⊢
    rw [rest]
    rfl

/-! ## Records -/

/-- The members pass their checks exactly when every member of a field passes the field's
check and every required field has a member. -/
theorem memberError_eq_none_iff {fields : List Field} {members : List (String × Json)} :
    memberError fields members = none ↔
      (∀ m ∈ members, ∀ f, fields.find? (·.name == m.1) = some f → f.check m.2 = none) ∧
      (∀ f ∈ fields, f.presence = .required → members.any (·.1 == f.name) = true) := by
  have checks : (members.findSome? fun m =>
      (fields.find? (·.name == m.1)).bind fun f => f.check m.2) = none ↔
      ∀ m ∈ members, ∀ f, fields.find? (·.name == m.1) = some f → f.check m.2 = none := by
    simp only [List.findSome?_eq_none_iff, Option.bind_eq_none_iff]
  unfold memberError
  split
  next e failed =>
    refine ⟨nofun, fun ⟨checked, _⟩ => ?_⟩
    rw [checks.2 checked] at failed
    cases failed
  next passed =>
    rw [and_iff_right (checks.1 passed)]
    simp only [Option.map_eq_none_iff, List.find?_eq_none, Bool.and_eq_true, beq_iff_eq,
      Bool.not_eq_true', not_and, Bool.not_eq_false]

theorem memberError_eq_none {fields : List Field} {members : List (String × Json)}
    (checked : ∀ m ∈ members, ∀ f, fields.find? (·.name == m.1) = some f → f.check m.2 = none)
    (present : ∀ f ∈ fields, f.presence = .required → members.any (·.1 == f.name) = true) :
    memberError fields members = none :=
  memberError_eq_none_iff.2 ⟨checked, present⟩

/-- Among members of distinct keys, the member a field finds is the one under its name. -/
theorem memberChecks_of_fields {fields : List Field} {members : List (String × Json)}
    (distinct : (members.map Prod.fst).Nodup)
    (checked : ∀ f ∈ fields, ∀ v, members.lookup f.name = some v → f.check v = none) :
    ∀ m ∈ members, ∀ f, fields.find? (·.name == m.1) = some f → f.check m.2 = none := by
  intro m mem f found
  have named : f.name = m.1 := by simpa using List.find?_some found
  exact checked f (List.mem_of_find?_eq_some found) m.2 (named ▸ Json.lookup_of_mem distinct mem)

/-- A record read from an object: when every field's member passes the field's check and
every required field has a member, the record is built from the members. -/
theorem recordAs_object {α : Type} (what surplus : String) (fields : List Field)
    (build : Fields → Except DecodeError α) {members : List (String × Json)}
    (distinct : (members.map Prod.fst).Nodup)
    (checked : ∀ f ∈ fields, ∀ v, members.lookup f.name = some v → f.check v = none)
    (present : ∀ f ∈ fields, f.presence = .required → ∃ v, members.lookup f.name = some v) :
    recordAs what surplus fields build (.object members) = build (Fields.ofMembers members) := by
  rw [recordAs, memberError_eq_none (memberChecks_of_fields distinct checked)]
  · rfl
  · intro f mem required
    obtain ⟨v, found⟩ := present f mem required
    exact Json.any_key_of_lookup found

/-- The same for the object built from members given in any order. -/
theorem record_mkObject {α : Type} (name : String) (fields : List Field)
    (build : Fields → Except DecodeError α) {members : List (String × Json)}
    (distinct : (members.map Prod.fst).Nodup)
    (checked : ∀ f ∈ fields, ∀ v, members.lookup f.name = some v → f.check v = none)
    (present : ∀ f ∈ fields, f.presence = .required → ∃ v, members.lookup f.name = some v) :
    record name fields build (Json.mkObject members) = build (Fields.ofMembers members) := by
  rw [Json.mkObject_fields, record, recordAs, memberError_eq_none]
  · simp only [Json.lookup_mkObject distinct]
    rfl
  · intro m mem
    rcases Json.mem_foldl_insertField members [] mem with none | member
    · cases none
    · exact memberChecks_of_fields distinct checked m member
  · intro f mem required
    obtain ⟨v, found⟩ := present f mem required
    rw [← Json.lookup_mkObject distinct] at found
    exact Json.any_key_of_lookup found

end Decoder

end MusicProviders
