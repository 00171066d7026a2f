import MusicProviders.Proofs.Json.Records

/-! # The shapes records are read from

A record is read from JSON in one of two shapes: an object whose members name its fields,
or an array holding its fields in declaration order. The shapes are said here on their
own, from the declared type of each field, apart from the checks the decoders run:

* `Json.IsI64`, `Json.IsU64`, `Json.IsString`, `Json.IsBool`, `Json.IsArrayOf` — the values
  of the declared field types.
* `Declared` — a declared record field; `Declared.Conforms` — the values of a record's
  declared shape: an object whose members of declared fields have their types and which
  has every required field (other members are ignored), or an array of the fields in order
  that leaves out only trailing fields with defaults.
* `Decoder.Accepts d P` — the decoder `d` reads exactly the values satisfying `P`; the
  primitive decoders accept exactly the values of their types.
* `Decoder.recordAs_accepts` — a record decoder whose field checks realize a declaration,
  and whose value is built whenever the checks pass, accepts exactly the declared shape.
-/

namespace MusicProviders

namespace Json

/-- An integer within the signed 64-bit range (a negative number always is). -/
def IsI64 : Json → Prop
  | .number (.unsigned n) => n ≤ JsonNumber.i64Max.toNat
  | .number (.negative _) => True
  | _ => False

/-- An integer within the unsigned 64-bit range. -/
def IsU64 : Json → Prop
  | .number (.unsigned n) => n ≤ Nat.pow 2 64 - 1
  | _ => False

def IsString : Json → Prop
  | .string _ => True
  | _ => False

def IsBool : Json → Prop
  | .bool _ => True
  | _ => False

/-- An array whose items all satisfy `P`. -/
def IsArrayOf (P : Json → Prop) : Json → Prop
  | .array items => ∀ x ∈ items, P x
  | _ => False

end Json

/-- A field of a record's declared shape: its name, whether it may be absent, and the
values of its declared type. -/
structure Declared where
  name : String
  presence : Decoder.Presence
  admits : Json → Prop

namespace Declared

/-- An optional field: absent, `null`, or a value of its type. -/
def opt (name : String) (P : Json → Prop) : Declared := ⟨name, .optional, fun v => v = .null ∨ P v⟩

/-- A field with a default: absent, or a value of its type. -/
def dflt (name : String) (P : Json → Prop) : Declared := ⟨name, .defaulted, P⟩

/-- The members of an object have the declared shape: the members of each declared field
have its type, and each required field has a member. Other members are ignored. -/
def MembersConform (decl : List Declared) (members : List (String × Json)) : Prop :=
  ∀ f ∈ decl, (∀ v, (f.name, v) ∈ members → f.admits v) ∧
    (f.presence = .required → ∃ v, (f.name, v) ∈ members)

/-- The item at a field's position fits the field: it has the field's type, or it is
missing and the field has a default. -/
def ItemFits (f : Declared) : Option Json → Prop
  | some v => f.admits v
  | none => f.presence = .defaulted

/-- The items of an array have the declared shape: there are no more items than fields,
and the item at each field's position fits it, so that only trailing fields with defaults
are left out. -/
def ItemsConform (decl : List Declared) (items : List Json) : Prop :=
  items.length ≤ decl.length ∧ ∀ i (h : i < decl.length), decl[i].ItemFits items[i]?

/-- A value of a record's declared shape: an object or an array of its fields. -/
def Conforms (decl : List Declared) : Json → Prop
  | .object members => MembersConform decl members
  | .array items => ItemsConform decl items
  | _ => False

end Declared

namespace Decoder

/-- `f` reads exactly the values satisfying `P`. -/
def Accepts {ε α : Type} (f : Json → Except ε α) (P : Json → Prop) : Prop :=
  ∀ v, (∃ a, f v = .ok a) ↔ P v

/-! ## The primitive decoders -/

theorem accepts_i64 : Accepts i64 Json.IsI64 := by
  intro v
  rcases v with _ | _ | (n | n | x) | _ | _ | _
  case number.unsigned =>
    by_cases fits : n ≤ JsonNumber.i64Max.toNat <;> simp [i64, Json.IsI64, fits]
  all_goals simp [i64, mismatch, Json.IsI64]

theorem accepts_unsignedUpTo (limit : Nat) (name : String) :
    Accepts (unsignedUpTo limit name) fun v => ∃ n, v = .number (.unsigned n) ∧ n ≤ limit := by
  intro v
  rcases v with _ | _ | (n | n | x) | _ | _ | _
  case number.unsigned =>
    by_cases fits : n ≤ limit <;> simp [unsignedUpTo, fits]
  all_goals simp [unsignedUpTo, mismatch]

theorem accepts_u64 : Accepts u64 Json.IsU64 := by
  intro v
  rw [u64, accepts_unsignedUpTo]
  rcases v with _ | _ | (n | n | x) | _ | _ | _ <;> simp [Json.IsU64]

theorem accepts_string : Accepts string Json.IsString := by
  intro v
  cases v <;> simp [string, mismatch, Json.IsString]

theorem accepts_bool : Accepts bool Json.IsBool := by
  intro v
  cases v <;> simp [bool, mismatch, Json.IsBool]

theorem accepts_value : Accepts value fun _ => True := fun v => by simp [value]

theorem mapM_ok_iff {α : Type} (d : Decoder α) :
    ∀ items : List Json, (∃ as, items.mapM d = .ok as) ↔ ∀ x ∈ items, ∃ a, d x = .ok a
  | [] => ⟨fun _ _ mem => (nomatch mem), fun _ => ⟨[], rfl⟩⟩
  | x :: rest => by
    rw [List.mapM_cons, List.forall_mem_cons, ← mapM_ok_iff d rest]
    -- the list is read when its head is and then its rest is
    cases d x with
    | error e => exact ⟨fun ⟨_, failed⟩ => (nomatch failed), fun ⟨⟨_, found⟩, _⟩ => nomatch found⟩
    | ok a =>
      cases rest.mapM d with
      | error e => exact ⟨fun ⟨_, failed⟩ => (nomatch failed), fun ⟨_, _, found⟩ => nomatch found⟩
      | ok as => exact ⟨fun _ => ⟨⟨a, rfl⟩, ⟨as, rfl⟩⟩, fun _ => ⟨a :: as, rfl⟩⟩

theorem accepts_list {α : Type} {d : Decoder α} {P : Json → Prop} (items : Accepts d P) :
    Accepts (list d) (Json.IsArrayOf P) := by
  intro v
  cases v
  case array xs =>
    rw [list, mapM_ok_iff]
    exact forall₂_congr fun x _ => items x
  all_goals simp [list, mismatch, Json.IsArrayOf]

theorem check_eq_none_iff {α : Type} (d : Decoder α) (v : Json) :
    check d v = none ↔ ∃ a, d v = .ok a := by
  unfold check
  cases d v <;> simp

theorem option_of_ne_null {α : Type} (d : Decoder α) {v : Json} (present : v ≠ .null) :
    option d v = some <$> d v := by
  cases v
  case null => exact absurd rfl present
  all_goals rfl

theorem accepts_option {α : Type} {d : Decoder α} {P : Json → Prop} (reads : Accepts d P) :
    Accepts (option d) fun v => v = .null ∨ P v := by
  intro v
  by_cases isNull : v = .null
  · subst isNull
    simp [option]
  · rw [option_of_ne_null d isNull]
    simp only [isNull, false_or, ← reads v]
    cases d v <;> simp [Functor.map, Except.map]

theorem accepts_mapError {ε ε' α : Type} {f : Json → Except ε α} {P : Json → Prop}
    (reads : Accepts f P) (rename : ε → ε') : Accepts (fun v => (f v).mapError rename) P := by
  intro v
  rw [← reads v]
  dsimp only
  cases f v <;> simp [Except.mapError]

theorem error_of_mapError {ε ε' α : Type} {x : Except ε α} {rename : ε → ε'} {e : ε'}
    (failed : x.mapError rename = .error e) : ∃ e₀, e = rename e₀ := by
  cases x with
  | error e₀ => exact ⟨e₀, (Except.error.inj failed).symm⟩
  | ok a => cases failed

/-! ## Record fields -/

/-- A decoder's field reads exactly its declared field: the same name and presence, and a
check that passes on exactly the values of the declared type. -/
def Field.Realizes (f : Field) (d : Declared) : Prop :=
  f.name = d.name ∧ f.presence = d.presence ∧ ∀ v, f.check v = none ↔ d.admits v

theorem Field.Realizes.opt {α : Type} {name : String} {d : Decoder α} {P : Json → Prop}
    (reads : Accepts d P) : (Field.opt name d).Realizes (Declared.opt name P) :=
  ⟨rfl, rfl, fun v => (check_eq_none_iff _ v).trans (accepts_option reads v)⟩

theorem Field.Realizes.dflt {α : Type} {name : String} {d : Decoder α} {P : Json → Prop}
    (reads : Accepts d P) : (Field.dflt name d).Realizes (Declared.dflt name P) :=
  ⟨rfl, rfl, fun v => (check_eq_none_iff _ v).trans (reads v)⟩

/-- The fields of a record once its checks have passed: a value looked up under a field's
name passes that field's check. -/
def Fields.Sound (fields : List Field) (r : Fields) : Prop :=
  ∀ f ∈ fields, ∀ v, r.lookup f.name = some v → f.check v = none

/-- What an optional field reads as, `none` when it does not read. -/
def Fields.optValue {α : Type} (r : Fields) (name : String) (d : Decoder α) : Option α :=
  match r.opt name d with
  | .ok a => a
  | .error _ => none

/-- What a field with a default reads as, the default when it does not read. -/
def Fields.dfltValue {α : Type} (r : Fields) (name : String) (d : Decoder α) (fallback : α) : α :=
  match r.dflt name d fallback with
  | .ok a => a
  | .error _ => fallback

section Sound

variable {fields : List Field} {r : Fields} (sound : Fields.Sound fields r) {α : Type}
  {name : String} {d : Decoder α}
include sound

theorem Fields.Sound.opt_eq (mem : Field.opt name d ∈ fields) :
    r.opt name d = .ok (r.optValue name d) := by
  unfold Fields.optValue Fields.opt
  cases found : r.lookup name with
  | none => rfl
  | some v =>
    obtain ⟨a, reads⟩ := (check_eq_none_iff _ v).1 (sound _ mem v found)
    simp only [reads]

theorem Fields.Sound.dflt_eq (mem : Field.dflt name d ∈ fields) (fallback : α) :
    r.dflt name d fallback = .ok (r.dfltValue name d fallback) := by
  unfold Fields.dfltValue Fields.dflt
  cases found : r.lookup name with
  | none => rfl
  | some v =>
    obtain ⟨a, reads⟩ := (check_eq_none_iff _ v).1 (sound _ mem v found)
    simp only [reads]

end Sound

/-! ## Checking the members of an object -/

theorem forall_mem_iff_of_forall₂ {β γ : Type} {R : β → γ → Prop} {P : β → Prop} {Q : γ → Prop}
    (same : ∀ b c, R b c → (P b ↔ Q c)) :
    ∀ {bs : List β} {cs : List γ}, List.Forall₂ R bs cs → ((∀ b ∈ bs, P b) ↔ ∀ c ∈ cs, Q c)
  | _, _, .nil => by simp
  | _, _, .cons related rest => by
    rw [List.forall_mem_cons, List.forall_mem_cons, same _ _ related,
      forall_mem_iff_of_forall₂ same rest]

/-- Among fields of distinct names, the field found by a name is the one with that name. -/
theorem find?_name_eq_some_iff {fields : List Field} (distinct : (fields.map Field.name).Nodup)
    {key : String} {f : Field} : fields.find? (·.name == key) = some f ↔ f ∈ fields ∧ f.name = key := by
  constructor
  · intro found
    exact ⟨List.mem_of_find?_eq_some found, by simpa using List.find?_some found⟩
  · rintro ⟨mem, rfl⟩
    cases found : fields.find? (·.name == f.name) with
    | none =>
      rw [List.find?_eq_none] at found
      exact absurd (beq_self_eq_true f.name) (found f mem)
    | some f' =>
      have named : f'.name = f.name := by simpa using List.find?_some found
      rw [List.inj_on_of_nodup_map distinct (List.mem_of_find?_eq_some found) mem named]

theorem any_key_iff {members : List (String × Json)} {key : String} :
    members.any (·.1 == key) = true ↔ ∃ v, (key, v) ∈ members := by
  simp only [List.any_eq_true, beq_iff_eq]
  exact ⟨fun ⟨⟨k, v⟩, mem, named⟩ => ⟨v, named ▸ mem⟩, fun ⟨v, mem⟩ => ⟨_, mem, rfl⟩⟩

theorem memberError_eq_none_iff_conform {fields : List Field} {decl : List Declared}
    (realizes : List.Forall₂ Field.Realizes fields decl) (distinct : (fields.map Field.name).Nodup)
    {members : List (String × Json)} :
    memberError fields members = none ↔ Declared.MembersConform decl members := by
  -- a member is checked by the field of its name, so the checks can be read field by field
  have byField : (∀ m ∈ members, ∀ f, fields.find? (·.name == m.1) = some f → f.check m.2 = none) ↔
      ∀ f ∈ fields, ∀ v, (f.name, v) ∈ members → f.check v = none := by
    simp only [find?_name_eq_some_iff distinct]
    exact ⟨fun checked f mem v member => checked _ member f ⟨mem, rfl⟩,
      fun checked m member f ⟨mem, named⟩ => checked f mem m.2 (named ▸ member)⟩
  rw [memberError_eq_none_iff, byField, ← forall₂_and, Declared.MembersConform]
  refine forall_mem_iff_of_forall₂ (fun f d realized => ?_) realizes
  obtain ⟨named, presence, checks⟩ := realized
  rw [named, presence, any_key_iff]
  simp only [checks]

/-! ## Checking the items of an array -/

/-- What the check of an array item says about the field at its position: the item passes
the field's check, or there is no item and the field has a default. -/
def ItemPasses (f : Field) : Option Json → Prop
  | some v => f.check v = none
  | none => f.presence = .defaulted

/-- The items of an array pass their checks exactly when there are no more items than
fields and the item at each field's position passes for that field. -/
theorem elementError_eq_none_iff {expected surplus : String} {fields : List Field}
    {items : List Json} :
    elementError expected surplus fields items = none ↔
      items.length ≤ fields.length ∧ ∀ i (h : i < fields.length), ItemPasses fields[i] items[i]? := by
  -- the positions are the fields numbered from zero
  have numbered : fields.zip (List.range fields.length) = fields.zipIdx := by
    rw [List.zipIdx_eq_zip_range', List.range_eq_range']
  have atPosition : ∀ (f : Field) (i : Nat), (match items[i]? with
      | some v => f.check v
      | none => if f.presence == .defaulted then none else some (.invalidLength i expected)) = none ↔
      ItemPasses f items[i]? := by
    intro f i
    cases items[i]? <;> simp [ItemPasses]
  have positions : ∀ g : Field × Nat → Option DecodeError,
      (fields.zip (List.range fields.length)).findSome? g = none ↔
        ∀ i (h : i < fields.length), g (fields[i], i) = none := by
    intro g
    rw [numbered, List.findSome?_eq_none_iff]
    constructor
    · intro passes i h
      exact passes (fields[i], i) (List.mem_zipIdx_iff_getElem?.2 (by simp))
    · rintro passes ⟨f, i⟩ mem
      have found : fields[i]? = some f := List.mem_zipIdx_iff_getElem?.1 mem
      obtain ⟨h, rfl⟩ := List.getElem?_eq_some_iff.1 found
      exact passes i h
  unfold elementError
  dsimp only
  split
  next e failed =>
    refine ⟨nofun, fun ⟨_, passes⟩ => ?_⟩
    rw [(positions _).2 ?_] at failed
    · cases failed
    · intro i h
      exact (atPosition _ _).2 (passes i h)
  next passed =>
    have checked := (positions _).1 passed
    rw [and_iff_left fun i h => (atPosition _ _).1 (checked i h)]
    simp

theorem itemPasses_iff {f : Field} {d : Declared} (realized : f.Realizes d) (item : Option Json) :
    ItemPasses f item ↔ d.ItemFits item := by
  obtain ⟨_, presence, checks⟩ := realized
  cases item <;> simp [ItemPasses, Declared.ItemFits, presence, checks]

theorem elementError_eq_none_iff_conform {expected surplus : String} {fields : List Field}
    {decl : List Declared} (realizes : List.Forall₂ Field.Realizes fields decl) {items : List Json} :
    elementError expected surplus fields items = none ↔ Declared.ItemsConform decl items := by
  obtain ⟨lengths, related⟩ := List.forall₂_iff_get.1 realizes
  rw [elementError_eq_none_iff, Declared.ItemsConform]
  constructor
  · rintro ⟨fewer, passes⟩
    refine ⟨lengths ▸ fewer, fun i h => ?_⟩
    have inFields : i < fields.length := lengths ▸ h
    exact (itemPasses_iff (related i inFields h) _).1 (passes i inFields)
  · rintro ⟨fewer, fit⟩
    refine ⟨lengths ▸ fewer, fun i h => ?_⟩
    have inDecl : i < decl.length := lengths ▸ h
    exact (itemPasses_iff (related i h inDecl) _).2 (fit i inDecl)

/-! ## Records -/

/-- Once the members of an object pass their checks, a value looked up under a field's
name passes that field's check. -/
theorem sound_of_memberError {fields : List Field} (distinct : (fields.map Field.name).Nodup)
    {members : List (String × Json)} (passed : memberError fields members = none) :
    Fields.Sound fields ⟨fun name => List.lookup name members⟩ := by
  intro f mem v found
  obtain ⟨_, _, rfl, _⟩ := List.lookup_eq_some_iff.1 found
  exact (memberError_eq_none_iff.1 passed).1 (f.name, v) (by simp) f
    ((find?_name_eq_some_iff distinct).2 ⟨mem, rfl⟩)

/-- Once the items of an array pass their checks, a value looked up under a field's name,
the item at the field's position, passes that field's check. -/
theorem sound_of_elementError {expected surplus : String} {fields : List Field}
    (distinct : (fields.map Field.name).Nodup) {items : List Json}
    (passed : elementError expected surplus fields items = none) :
    Fields.Sound fields (positional fields items) := by
  intro f mem v found
  obtain ⟨⟨f', v'⟩, hit, rfl⟩ := Option.map_eq_some_iff.1 found
  have named : f'.name = f.name := by simpa using List.find?_some hit
  obtain ⟨i, atPosition⟩ := List.mem_iff_getElem?.1 (List.mem_of_find?_eq_some hit)
  obtain ⟨fieldAt, itemAt⟩ := List.getElem?_zip_eq_some.1 atPosition
  -- the pair found is the field itself, since no other field has its name
  obtain rfl : f' = f :=
    List.inj_on_of_nodup_map distinct (List.mem_of_getElem? fieldAt) mem named
  obtain ⟨h, rfl⟩ := List.getElem?_eq_some_iff.1 fieldAt
  have passes := (elementError_eq_none_iff.1 passed).2 i h
  rw [itemAt] at passes
  exact passes

/-- A record decoder whose fields realize a declaration, over fields of distinct names, and
whose value is built whenever the fields' checks pass, reads exactly the values of the
declared shape. -/
theorem recordAs_accepts {α : Type} {what surplus : String} {fields : List Field}
    {decl : List Declared} {build : Fields → Except DecodeError α}
    (realizes : List.Forall₂ Field.Realizes fields decl) (distinct : (fields.map Field.name).Nodup)
    (total : ∀ r, Fields.Sound fields r → ∃ a, build r = .ok a) :
    Accepts (recordAs what surplus fields build) (Declared.Conforms decl) := by
  intro v
  cases v
  case object members =>
    rw [Declared.Conforms, ← memberError_eq_none_iff_conform realizes distinct, recordAs]
    cases passed : memberError fields members with
    | some e => simp
    | none => simpa using total _ (sound_of_memberError distinct passed)
  case array items =>
    rw [Declared.Conforms, ← elementError_eq_none_iff_conform realizes, recordAs]
    cases passed : elementError (recordLength what fields.length) surplus fields items with
    | some e => simp
    | none => simpa using total _ (sound_of_elementError distinct passed)
  all_goals simp [recordAs, mismatch, Declared.Conforms]

end Decoder

end MusicProviders
