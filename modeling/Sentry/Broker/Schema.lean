import Sentry.Domain.Models

/-!
# The schema check of the broker tools

`_validate_schema_value` of `app/broker/base.py`: the check of the arguments of a broker tool
against the JSON Schema that was discovered for it. `Schema.satisfies` is what JSON Schema
says of the same keywords. The check is sound exactly where the keywords it passes over hold
by themselves.
-/
namespace Sentry

open Support

/-! ### Values -/

/-- A JSON-like value of the program: a document whose numbers may also be Decimals. A tuple
is the list of its items, and the keys of an object are distinct. -/
inductive JsonLike where
  | null
  | bool (b : Bool)
  | int (n : ℤ)
  | float (q : ℚ)
  | infinity (negative : Bool)
  | nan
  | decimal (d : Decimal)
  | str (s : String)
  | arr (items : List JsonLike)
  | obj (members : List (String × JsonLike))

namespace JsonLike

def isBool : JsonLike → Bool
  | .bool _ => true
  | _ => false

def isDecimal : JsonLike → Bool
  | .decimal _ => true
  | _ => false

def isNan : JsonLike → Bool
  | .nan => true
  | _ => false

/-- The number a value is in JSON. -/
def number? : JsonLike → Option ℚ
  | .int n => some n
  | .float q => some q
  | .decimal d => some d.val
  | _ => none

/-- The number a value is in Python, where a boolean is an integer. -/
def numeric? : JsonLike → Option ℚ
  | .bool b => some (if b then 1 else 0)
  | value => value.number?

/-- Numbers of a kind that are the same one. -/
def sameNumber (as_ : JsonLike → Option ℚ) (a b : JsonLike) : Bool :=
  match as_ a, as_ b with
  | some p, some q => p == q
  | _, _ => false

mutual

/-- `==`. Numbers of all types compare by their value, and a NaN equals nothing. -/
def eq : JsonLike → JsonLike → Bool
  | .null, .null => true
  | .infinity a, .infinity b => a == b
  | .str a, .str b => a == b
  | .arr xs, .arr ys => eqItems xs ys
  | .obj xs, .obj ys => xs.length == ys.length && eqMembers xs ys
  | a, b => sameNumber numeric? a b

def eqItems : List JsonLike → List JsonLike → Bool
  | [], [] => true
  | x :: xs, y :: ys => eq x y && eqItems xs ys
  | _, _ => false

def eqMembers : List (String × JsonLike) → List (String × JsonLike) → Bool
  | [], _ => true
  | (key, x) :: xs, ys => (ys.lookup key).any (eq x) && eqMembers xs ys

end

mutual

/-- Equality of JSON Schema: a boolean is no number. -/
def same : JsonLike → JsonLike → Bool
  | .null, .null => true
  | .bool a, .bool b => a == b
  | .infinity a, .infinity b => a == b
  | .str a, .str b => a == b
  | .arr xs, .arr ys => sameItems xs ys
  | .obj xs, .obj ys => xs.length == ys.length && sameMembers xs ys
  | a, b => sameNumber number? a b

def sameItems : List JsonLike → List JsonLike → Bool
  | [], [] => true
  | x :: xs, y :: ys => same x y && sameItems xs ys
  | _, _ => false

def sameMembers : List (String × JsonLike) → List (String × JsonLike) → Bool
  | [], _ => true
  | (key, x) :: xs, ys => (ys.lookup key).any (same x) && sameMembers xs ys

end

/-- By whether a value is an object, an array or neither. -/
def byShape {α : Type} (value : JsonLike) (object : List (String × JsonLike) → α)
    (array : List JsonLike → α) (leaf : α) : α :=
  match value with
  | .obj members => object members
  | .arr elements => array elements
  | _ => leaf

/-- `value < bound`, for a value that is an `int` or a `float`. -/
def lt : JsonLike → ℚ → Bool
  | .int n, bound => decide ((n : ℚ) < bound)
  | .float q, bound => decide (q < bound)
  | .infinity negative, _ => negative
  | _, _ => false

/-- `value > bound`. -/
def gt : JsonLike → ℚ → Bool
  | .int n, bound => decide (bound < n)
  | .float q, bound => decide (bound < q)
  | .infinity negative, _ => !negative
  | _, _ => false

end JsonLike

/-! ### Schemas -/

inductive JsonType where
  | object | array | string | integer | number | boolean | null
  deriving DecidableEq

def JsonType.name : JsonType → String
  | .object => "object"
  | .array => "array"
  | .string => "string"
  | .integer => "integer"
  | .number => "number"
  | .boolean => "boolean"
  | .null => "null"

/-- The value of `type`. -/
inductive TypeKeyword where
  | single (type : JsonType)
  | union (types : List JsonType)

/-- The keywords of a schema that hold no schemas; `additionalProperties` is whether other
keys are allowed. -/
structure Assertions where
  const : Option JsonLike := none
  enum : Option (List JsonLike) := none
  type : Option TypeKeyword := none
  required : List String := []
  additionalProperties : Bool := true
  minimum : Option ℚ := none
  maximum : Option ℚ := none
  minLength : Option Nat := none
  maxLength : Option Nat := none

/-- A schema of the keywords that are checked. -/
structure Schema where
  assertions : Assertions := {}
  properties : List (String × Schema) := []
  items : Option Schema := none
  oneOf : Option (List Schema) := none
  anyOf : Option (List Schema) := none

namespace Schema

/-! ### The check -/

section Check

-- `repr`, by which the error texts show values
variable (repr : JsonLike → String)

def checkConst (a : Assertions) (value : JsonLike) (path : String) : Except Exc Unit :=
  match a.const with
  | some expected =>
    if value.eq expected then .ok ()
    else .error (.valueError (path ++ " must equal " ++ repr expected))
  | none => .ok ()

def checkEnum (a : Assertions) (value : JsonLike) (path : String) : Except Exc Unit :=
  match a.enum with
  | some allowed =>
    if allowed.any value.eq then .ok ()
    else .error (.valueError (path ++ " is not one of the allowed values"))
  | none => .ok ()

/-- `isinstance(value, type_checks[expected])`. -/
def isInstance : JsonType → JsonLike → Bool
  | .object, .obj _ | .array, .arr _ | .string, .str _ | .boolean, .bool _ | .null, .null => true
  | .integer, .int _ | .integer, .bool _ => true
  | .number, .int _ | .number, .bool _ | .number, .float _ | .number, .infinity _
  | .number, .nan => true
  | _, _ => false

def checkType (expected : Option JsonType) (value : JsonLike) (path : String) : Except Exc Unit :=
  match expected with
  | none => .ok ()
  | some expected =>
    if (expected = .integer ∨ expected = .number) ∧ value.isBool then
      .error (.typeError (path ++ " must be " ++ expected.name))
    else if !isInstance expected value && !(expected == .number && value.isDecimal) then
      .error (.typeError (path ++ " must be " ++ expected.name))
    else .ok ()

def hasKey (members : List (String × JsonLike)) (key : String) : Bool :=
  members.any fun entry => entry.1 == key

def checkRequired (a : Assertions) (members : List (String × JsonLike)) (path : String) :
    Except Exc Unit :=
  a.required.forM fun key =>
    if hasKey members key then .ok ()
    else .error (.valueError (path ++ "." ++ key ++ " is required"))

/-- The keys of an object that no property is named after. -/
def extras (properties : List (String × Schema)) (members : List (String × JsonLike)) :
    List String :=
  (members.map Prod.fst).filter fun key => (properties.lookup key).isNone

def checkExtras (a : Assertions) (properties : List (String × Schema))
    (members : List (String × JsonLike)) (path : String) : Except Exc Unit :=
  let unexpected := extras properties members
  if !a.additionalProperties && !unexpected.isEmpty then
    .error (.valueError (path ++ " contains unexpected keys: " ++
      repr (.arr ((unexpected.mergeSort fun x y => decide (x ≤ y)).map .str))))
  else .ok ()

/-- The bounds apply to `int` and `float` only. -/
def checkBounds (a : Assertions) (value : JsonLike) (path : String) : Except Exc Unit :=
  if a.minimum.any value.lt then .error (.valueError (path ++ " is less than minimum"))
  else if a.maximum.any value.gt then .error (.valueError (path ++ " exceeds maximum"))
  else .ok ()

def checkLength (a : Assertions) (value : JsonLike) (path : String) : Except Exc Unit :=
  match value with
  | .str text =>
    if a.minLength.any (text.length < ·) then
      .error (.valueError (path ++ " is shorter than minLength"))
    else if a.maxLength.any (· < text.length) then
      .error (.valueError (path ++ " is longer than maxLength"))
    else .ok ()
  | _ => .ok ()

/-- Whether a check passed. -/
def accepted (check : Except Exc Unit) : Bool :=
  match check with
  | .ok _ => true
  | .error _ => false

/-- What follows the alternatives, for one expected type; `children` is the check of the
members or elements. -/
def checkAgainst (a : Assertions) (value : JsonLike) (path : String) (children : Except Exc Unit)
    (expected : Option JsonType) : Except Exc Unit := do
  checkType expected value path
  children
  checkBounds a value path
  checkLength a value path

/-- A list of types is tried candidate by candidate. The source validates the schema again with
the candidate in place of the list, which repeats nothing but what follows the alternatives. -/
def checkTyped (a : Assertions) (value : JsonLike) (path : String) (children : Except Exc Unit) :
    Except Exc Unit :=
  match a.type with
  | some (.union candidates) =>
    if candidates.any fun candidate =>
        accepted (checkAgainst a value path children (some candidate)) then .ok ()
    else .error (.typeError (path ++ " has an invalid type"))
  | some (.single expected) => checkAgainst a value path children (some expected)
  | none => checkAgainst a value path children none

/-- The alternatives of `oneOf`, or else of `anyOf`, given which of them accept; where there are
any, they end the check. -/
def checkAlternatives (oneOf anyOf : Option (List Bool)) (path : String) (rest : Except Exc Unit) :
    Except Exc Unit :=
  match oneOf.filter (!·.isEmpty) <|> anyOf with
  | some outcomes =>
    if outcomes.all (!·) then .error (.valueError (path ++ " did not match any allowed schema"))
    else .ok ()
  | none => rest

mutual

/-- `_validate_schema_value`. An empty schema asserts nothing. Every exception here is a
`TypeError` or a `ValueError`, so that an alternative that raises is one that failed. -/
def validateSchemaValue : Schema → JsonLike → String → Except Exc Unit
  | ⟨a, properties, items, oneOf, anyOf⟩, value, path => do
    checkConst repr a value path
    checkEnum a value path
    checkAlternatives (outcomes? oneOf value path) (outcomes? anyOf value path) path
      (checkTyped a value path
        (value.byShape
          (fun members => do
            checkRequired a members path
            checkExtras repr a properties members path
            members.forM fun entry =>
              validateProperty properties entry.1 entry.2 (path ++ "." ++ entry.1))
          (fun elements => elements.zipIdx.forM fun entry =>
            validateItem items entry.1 (path ++ "[" ++ toString entry.2 ++ "]"))
          (.ok ())))

/-- Which alternatives of a list accept the value, if there is a list. -/
def outcomes? : Option (List Schema) → JsonLike → String → Option (List Bool)
  | none, _, _ => none
  | some alternatives, value, path => some (outcomes alternatives value path)

def outcomes : List Schema → JsonLike → String → List Bool
  | [], _, _ => []
  | schema :: rest, value, path =>
    accepted (validateSchemaValue schema value path) :: outcomes rest value path

/-- The schema of a property against its value. -/
def validateProperty : List (String × Schema) → String → JsonLike → String → Except Exc Unit
  | [], _, _, _ => .ok ()
  | (name, schema) :: rest, key, value, path =>
    if key == name then validateSchemaValue schema value path
    else validateProperty rest key value path

/-- The schema of the elements, if there is one, against an element. -/
def validateItem : Option Schema → JsonLike → String → Except Exc Unit
  | none, _, _ => .ok ()
  | some schema, value, path => validateSchemaValue schema value path

end

end Check

/-! ### What JSON Schema says -/

/-- The types of JSON Schema: a number without a fractional part is an integer. -/
def isType : JsonType → JsonLike → Bool
  | .object, .obj _ | .array, .arr _ | .string, .str _ | .boolean, .bool _ | .null, .null => true
  | .integer, value => value.number?.any fun q => q.isInt
  | .number, .infinity _ | .number, .nan => true
  | .number, value => value.number?.isSome
  | _, _ => false

def typeHolds (a : Assertions) (value : JsonLike) : Bool :=
  match a.type with
  | none => true
  | some (.single type) => isType type value
  | some (.union types) => types.any fun type => isType type value

def constHolds (a : Assertions) (value : JsonLike) : Bool := a.const.all value.same

def enumHolds (a : Assertions) (value : JsonLike) : Bool :=
  a.enum.all fun allowed => allowed.any value.same

/-- A number is at least a bound; other values have none. -/
def atLeast (bound : ℚ) : JsonLike → Bool
  | .infinity negative => !negative
  | .nan => false
  | value => value.number?.all fun q => decide (bound ≤ q)

def atMost (bound : ℚ) : JsonLike → Bool
  | .infinity negative => negative
  | .nan => false
  | value => value.number?.all fun q => decide (q ≤ bound)

def boundsHold (a : Assertions) (value : JsonLike) : Bool :=
  a.minimum.all (atLeast · value) && a.maximum.all (atMost · value)

def lengthHolds (a : Assertions) (value : JsonLike) : Bool :=
  match value with
  | .str text => a.minLength.all (· ≤ text.length) && a.maxLength.all (text.length ≤ ·)
  | _ => true

def keysHold (a : Assertions) (properties : List (String × Schema))
    (members : List (String × JsonLike)) : Bool :=
  a.required.all (hasKey members) &&
    (a.additionalProperties || (extras properties members).isEmpty)

mutual

/-- A value satisfies every keyword of a schema. -/
def satisfies : Schema → JsonLike → Bool
  | ⟨a, properties, items, oneOf, anyOf⟩, value =>
    constHolds a value && enumHolds a value && typeHolds a value && boundsHold a value &&
      lengthHolds a value &&
      value.byShape
        (fun members => keysHold a properties members &&
          members.all fun entry => satisfiesProperty properties entry.1 entry.2)
        (fun elements => elements.all (satisfiesItem items)) true &&
      (satisfied? oneOf value).all (· == 1) && (satisfied? anyOf value).all (1 ≤ ·)

/-- How many alternatives of a list a value satisfies, if there is a list. -/
def satisfied? : Option (List Schema) → JsonLike → Option ℕ
  | none, _ => none
  | some alternatives, value => some (satisfied alternatives value)

def satisfied : List Schema → JsonLike → ℕ
  | [], _ => 0
  | schema :: rest, value => (satisfies schema value).toNat + satisfied rest value

def satisfiesProperty : List (String × Schema) → String → JsonLike → Bool
  | [], _, _ => true
  | (name, schema) :: rest, key, value =>
    if key == name then satisfies schema value else satisfiesProperty rest key value

def satisfiesItem : Option Schema → JsonLike → Bool
  | none, _ => true
  | some schema, value => satisfies schema value

end

/-! ### What the check passes over -/

/-- The check of a schema passed; `repr` and the path only enter its messages. -/
def accepts (schema : Schema) (value : JsonLike) : Bool :=
  accepted (validateSchemaValue (fun _ => "") schema value "")

/-- The bounds are passed over for a Decimal, and a NaN is below and above none of them. -/
def unboundedHolds (a : Assertions) (value : JsonLike) : Bool :=
  !(value.isDecimal || value.isNan) || boundsHold a value

/-- What stands beside the alternatives of a schema, which the check ends with. -/
def siblingsHold (a : Assertions) (properties : List (String × Schema)) (items : Option Schema)
    (value : JsonLike) : Bool :=
  typeHolds a value && boundsHold a value && lengthHolds a value &&
    value.byShape
      (fun members => keysHold a properties members &&
        members.all fun entry => satisfiesProperty properties entry.1 entry.2)
      (fun elements => elements.all (satisfiesItem items)) true

mutual

/-- The keywords that the check passes over hold. Equality with a constant is not that of
JSON where a boolean meets a number. Beside alternatives nothing but the constants is looked
at, and of the alternatives only that one of them accepts: `anyOf` not at all beside `oneOf`. -/
def heeds : Schema → JsonLike → Bool
  | ⟨a, properties, items, oneOf, anyOf⟩, value =>
    constHolds a value && enumHolds a value &&
      if oneOf.any (!·.isEmpty) then
        siblingsHold a properties items value &&
          (heeded? oneOf value).all (· == 1) && (satisfied? anyOf value).all (1 ≤ ·)
      else if anyOf.isSome then
        oneOf.isNone && siblingsHold a properties items value && (heeded? anyOf value).all (1 ≤ ·)
      else
        oneOf.isNone && unboundedHolds a value &&
          value.byShape (fun members => members.all fun entry => heedsProperty properties entry.1 entry.2)
            (fun elements => elements.all (heedsItem items)) true

/-- How many alternatives of a list hold, if there is a list of which one accepts. -/
def heeded? : Option (List Schema) → JsonLike → Option ℕ
  | none, _ => none
  | some alternatives, value => heeded alternatives value

/-- An alternative that accepts holds where it heeds, another by itself. -/
def heeded : List Schema → JsonLike → Option ℕ
  | [], _ => none
  | schema :: rest, value =>
    if accepts schema value then
      some ((heeds schema value).toNat + (heeded rest value).getD (satisfied rest value))
    else (heeded rest value).map ((satisfies schema value).toNat + ·)

def heedsProperty : List (String × Schema) → String → JsonLike → Bool
  | [], _, _ => true
  | (name, schema) :: rest, key, value =>
    if key == name then heeds schema value else heedsProperty rest key value

def heedsItem : Option Schema → JsonLike → Bool
  | none, _ => true
  | some schema, value => heeds schema value

end

/-! ### Where the check is sound -/

section Soundness

variable {repr : JsonLike → String} {a : Assertions} {value : JsonLike} {path : String}

theorem accepted_iff {check : Except Exc Unit} : accepted check = true ↔ check = .ok () := by
  cases check <;> simp [accepted]

theorem checkType_ok {expected : Option JsonType} (ok : checkType expected value path = .ok ()) :
    expected.all (isType · value) = true := by
  cases expected with
  | none => rfl
  | some expected =>
    cases expected <;> cases value <;>
      simp_all [checkType, isInstance, isType, JsonLike.isBool, JsonLike.isDecimal, JsonLike.number?,
        Rat.isInt]

theorem checkLength_ok (ok : checkLength a value path = .ok ()) : lengthHolds a value = true := by
  cases value with
  | str text =>
    simp only [checkLength] at ok
    split at ok
    · cases ok
    · split at ok
      · cases ok
      · simp only [lengthHolds]
        cases low : a.minLength <;> cases high : a.maxLength <;> simp_all
  | _ => rfl

/-- A bound that was looked at holds. -/
theorem checkBounds_ok (ok : checkBounds a value path = .ok ()) :
    boundsHold a value = unboundedHolds a value := by
  simp only [checkBounds] at ok
  split at ok
  · cases ok
  · split at ok
    · cases ok
    · cases value with
      | decimal d => simp [unboundedHolds, JsonLike.isDecimal]
      | nan => simp [unboundedHolds, JsonLike.isNan]
      | _ =>
        cases low : a.minimum <;> cases high : a.maximum <;>
          simp_all [unboundedHolds, boundsHold, JsonLike.isDecimal, JsonLike.isNan, atLeast, atMost,
            JsonLike.number?, JsonLike.lt, JsonLike.gt]

/-- The keywords that stand beside the type were checked, whichever type it was that passed. -/
theorem checkAgainst_ok {children : Except Exc Unit} {expected : Option JsonType}
    (ok : checkAgainst a value path children expected = .ok ()) :
    expected.all (isType · value) = true ∧ children = .ok () ∧
      boundsHold a value = unboundedHolds a value ∧ lengthHolds a value = true := by
  obtain ⟨⟨⟩, typed, ok⟩ := bind_ok ok
  obtain ⟨⟨⟩, went, ok⟩ := bind_ok ok
  obtain ⟨⟨⟩, bounded, measured⟩ := bind_ok ok
  exact ⟨checkType_ok typed, went, checkBounds_ok bounded, checkLength_ok measured⟩

theorem checkTyped_ok {children : Except Exc Unit}
    (ok : checkTyped a value path children = .ok ()) :
    typeHolds a value = true ∧ children = .ok () ∧
      boundsHold a value = unboundedHolds a value ∧ lengthHolds a value = true := by
  unfold checkTyped at ok
  unfold typeHolds
  split at ok
  next candidates union =>
    simp only [union]
    split at ok
    next passed =>
      obtain ⟨candidate, member, candidateOk⟩ := List.any_eq_true.mp passed
      obtain ⟨typed, rest⟩ := checkAgainst_ok (accepted_iff.mp candidateOk)
      exact ⟨List.any_eq_true.mpr ⟨candidate, member, typed⟩, rest⟩
    · cases ok
  next expected single =>
    simp only [single]
    exact checkAgainst_ok ok
  next absent =>
    simp only [absent]
    exact ⟨trivial, (checkAgainst_ok ok).2⟩

theorem keys_ok {properties : List (String × Schema)} {members : List (String × JsonLike)}
    (required : checkRequired a members path = .ok ())
    (closed : checkExtras repr a properties members path = .ok ()) :
    keysHold a properties members = true := by
  have present : ∀ key ∈ a.required, hasKey members key = true := by
    intro key member
    have passed := forM_each required key member
    by_contra missing
    simp [missing] at passed
  have known : (a.additionalProperties || (extras properties members).isEmpty) = true := by
    by_contra unexpected
    simp_all [checkExtras]
  simp only [keysHold, known, Bool.and_true, List.all_eq_true]
  exact present

/-- The schemas a schema holds. -/
def Below (child : Schema) : Schema → Prop
  | ⟨_, properties, items, oneOf, anyOf⟩ =>
    (∃ name, (name, child) ∈ properties) ∨ items = some child ∨
      (∃ alternatives ∈ oneOf, child ∈ alternatives) ∨ ∃ alternatives ∈ anyOf, child ∈ alternatives

theorem Below.sizeOf_lt {child s : Schema} (below : child.Below s) : sizeOf child < sizeOf s := by
  obtain ⟨a, properties, items, oneOf, anyOf⟩ := s
  rcases below with ⟨name, member⟩ | rfl | ⟨alternatives, rfl, member⟩ | ⟨alternatives, rfl, member⟩
  · have smaller := List.sizeOf_lt_of_mem member
    simp only [Prod.mk.sizeOf_spec] at smaller
    simp only [Schema.mk.sizeOf_spec]
    omega
  · simp only [Schema.mk.sizeOf_spec, Option.some.sizeOf_spec]
    omega
  all_goals
    have smaller := List.sizeOf_lt_of_mem member
    simp only [Schema.mk.sizeOf_spec, Option.some.sizeOf_spec]
    omega

/-- Induction over the schemas a schema holds. -/
theorem below_induction {P : Schema → Prop}
    (step : ∀ s : Schema, (∀ child, child.Below s → P child) → P s) (s : Schema) : P s :=
  step s fun child _ => below_induction step child
termination_by sizeOf s
decreasing_by exact Below.sizeOf_lt ‹_›

/-! ### Acceptance has no path -/

@[simp] theorem accepted_bind {check : Except Exc Unit} {next : Unit → Except Exc Unit} :
    accepted (check >>= next) = (accepted check && accepted (next ())) := by
  cases check <;> rfl

@[simp] theorem accepted_forM {α : Type} {l : List α} {check : α → Except Exc Unit} :
    accepted (l.forM check) = l.all fun x => accepted (check x) := by
  induction l with
  | nil => rfl
  | cons x rest ih =>
    change accepted (check x >>= fun _ => rest.forM check) = _
    rw [accepted_bind, ih, List.all_cons]

theorem accepted_checkConst (repr repr' : JsonLike → String) (path' : String) :
    accepted (checkConst repr a value path) = accepted (checkConst repr' a value path') := by
  unfold checkConst
  split
  · split <;> rfl
  · rfl

theorem accepted_checkEnum (path' : String) :
    accepted (checkEnum a value path) = accepted (checkEnum a value path') := by
  unfold checkEnum
  split
  · split <;> rfl
  · rfl

theorem accepted_checkType {expected : Option JsonType} (path' : String) :
    accepted (checkType expected value path) = accepted (checkType expected value path') := by
  unfold checkType
  split
  · rfl
  · split
    · rfl
    · split <;> rfl

theorem accepted_checkRequired {members : List (String × JsonLike)} (path' : String) :
    accepted (checkRequired a members path) = accepted (checkRequired a members path') := by
  unfold checkRequired
  simp only [accepted_forM]
  congr 1
  funext key
  split <;> rfl

theorem accepted_checkExtras (repr repr' : JsonLike → String)
    {properties : List (String × Schema)} {members : List (String × JsonLike)} (path' : String) :
    accepted (checkExtras repr a properties members path) =
      accepted (checkExtras repr' a properties members path') := by
  unfold checkExtras
  dsimp only
  split <;> rfl

theorem accepted_checkBounds (path' : String) :
    accepted (checkBounds a value path) = accepted (checkBounds a value path') := by
  unfold checkBounds
  split
  · rfl
  · split <;> rfl

theorem accepted_checkLength (path' : String) :
    accepted (checkLength a value path) = accepted (checkLength a value path') := by
  unfold checkLength
  split
  · split
    · rfl
    · split <;> rfl
  · rfl

theorem accepted_checkTyped {children children' : Except Exc Unit} (path' : String)
    (alike : accepted children = accepted children') :
    accepted (checkTyped a value path children) =
      accepted (checkTyped a value path' children') := by
  have against : ∀ expected, accepted (checkAgainst a value path children expected) =
      accepted (checkAgainst a value path' children' expected) := by
    intro expected
    simp only [checkAgainst, accepted_bind]
    rw [accepted_checkType path', alike, accepted_checkBounds path', accepted_checkLength path']
  unfold checkTyped
  split
  · simp only [against]
    split <;> rfl
  · exact against _
  · exact against _

theorem accepted_checkAlternatives {oneOf anyOf : Option (List Bool)}
    {rest rest' : Except Exc Unit} (path' : String) (alike : accepted rest = accepted rest') :
    accepted (checkAlternatives oneOf anyOf path rest) =
      accepted (checkAlternatives oneOf anyOf path' rest') := by
  unfold checkAlternatives
  split
  · split <;> rfl
  · exact alike

/-- The check of a value ends as `accepts` says, whatever the path and `repr`. -/
def Pathless (schema : Schema) : Prop :=
  ∀ repr value path, accepted (validateSchemaValue repr schema value path) = schema.accepts value

theorem accepted_property (repr repr' : JsonLike → String) {properties : List (String × Schema)}
    (pathless : ∀ entry ∈ properties, Pathless entry.2) (key : String) (path' : String) :
    accepted (validateProperty repr properties key value path) =
      accepted (validateProperty repr' properties key value path') := by
  induction properties with
  | nil => rfl
  | cons entry rest ih =>
    simp only [validateProperty]
    split
    · rw [pathless entry List.mem_cons_self repr, pathless entry List.mem_cons_self repr']
    · exact ih fun other member => pathless other (List.mem_cons_of_mem _ member)

theorem accepted_item (repr repr' : JsonLike → String) {items : Option Schema}
    (pathless : ∀ child ∈ items, Pathless child) (path' : String) :
    accepted (validateItem repr items value path) =
      accepted (validateItem repr' items value path') := by
  cases items with
  | none => rfl
  | some schema =>
    simp only [validateItem]
    rw [pathless schema rfl repr, pathless schema rfl repr']

theorem outcomes_eq {alternatives : List Schema}
    (pathless : ∀ alternative ∈ alternatives, Pathless alternative) :
    outcomes repr alternatives value path = alternatives.map (accepts · value) := by
  induction alternatives with
  | nil => rfl
  | cons schema rest ih =>
    rw [outcomes, pathless schema List.mem_cons_self,
      ih fun other member => pathless other (List.mem_cons_of_mem _ member), List.map_cons]

theorem outcomes?_eq {list : Option (List Schema)}
    (pathless : ∀ alternatives ∈ list, ∀ alternative ∈ alternatives, Pathless alternative) :
    outcomes? repr list value path = list.map fun alternatives => alternatives.map (accepts · value) := by
  cases list with
  | none => rfl
  | some alternatives => simp [outcomes?, outcomes_eq (pathless alternatives rfl)]

theorem accepted_byShape {object : List (String × JsonLike) → Except Exc Unit}
    {array : List JsonLike → Except Exc Unit} {leaf : Except Exc Unit} :
    accepted (value.byShape object array leaf) =
      value.byShape (fun members => accepted (object members))
        (fun elements => accepted (array elements)) (accepted leaf) := by
  cases value <;> rfl

theorem pathless (schema : Schema) : Pathless schema := by
  induction schema using below_induction with
  | step schema below =>
    obtain ⟨a, properties, items, oneOf, anyOf⟩ := schema
    intro repr value path
    have properties_pathless : ∀ entry ∈ properties, Pathless entry.2 := fun entry member =>
      below entry.2 (.inl ⟨entry.1, member⟩)
    have items_pathless : ∀ child ∈ items, Pathless child := fun child held =>
      below child (.inr (.inl held))
    have oneOf_pathless : ∀ alternatives ∈ oneOf, ∀ child ∈ alternatives, Pathless child :=
      fun alternatives held child member =>
        below child (.inr (.inr (.inl ⟨alternatives, held, member⟩)))
    have anyOf_pathless : ∀ alternatives ∈ anyOf, ∀ child ∈ alternatives, Pathless child :=
      fun alternatives held child member =>
        below child (.inr (.inr (.inr ⟨alternatives, held, member⟩)))
    rw [accepts, validateSchemaValue, validateSchemaValue]
    simp only [accepted_bind, outcomes?_eq oneOf_pathless, outcomes?_eq anyOf_pathless]
    rw [accepted_checkConst repr (fun _ => "") "", accepted_checkEnum ""]
    refine congrArg _ (congrArg _ (accepted_checkAlternatives "" (accepted_checkTyped "" ?_)))
    simp only [accepted_byShape, accepted_bind, accepted_forM]
    congr 1
    · funext members
      rw [accepted_checkRequired "", accepted_checkExtras repr (fun _ => "") ""]
      congr 3
      funext entry
      exact accepted_property _ _ properties_pathless entry.1 _
    · funext elements
      congr 1
      funext entry
      exact accepted_item _ _ items_pathless _

/-- A check of a value that was passed tells whether the value satisfies the schema. -/
def Sound (repr : JsonLike → String) (schema : Schema) : Prop :=
  ∀ value path, validateSchemaValue repr schema value path = .ok () →
    schema.satisfies value = schema.heeds value

theorem property_sound {properties : List (String × Schema)} {key : String}
    (each : ∀ entry ∈ properties, Sound repr entry.2)
    (ok : validateProperty repr properties key value path = .ok ()) :
    satisfiesProperty properties key value = heedsProperty properties key value := by
  induction properties with
  | nil => simp [satisfiesProperty, heedsProperty]
  | cons entry rest ih =>
    obtain ⟨name, schema⟩ := entry
    simp only [validateProperty] at ok
    simp only [satisfiesProperty, heedsProperty]
    split at ok
    next same =>
      simp only [same, if_true]
      exact each (name, schema) List.mem_cons_self value path ok
    next other =>
      simp only [other, if_false, Bool.false_eq_true]
      exact ih (fun entry member => each entry (List.mem_cons_of_mem _ member)) ok

theorem item_sound {items : Option Schema} (each : ∀ child ∈ items, Sound repr child)
    (ok : validateItem repr items value path = .ok ()) :
    satisfiesItem items value = heedsItem items value := by
  cases items with
  | none => simp [satisfiesItem, heedsItem]
  | some schema =>
    simp only [validateItem] at ok
    simp only [satisfiesItem, heedsItem]
    exact each schema rfl value path ok

/-- An alternative that accepts holds where it heeds. -/
theorem Sound.of_accepts {schema : Schema} (sound : Sound repr schema)
    (accepts : schema.accepts value = true) : schema.satisfies value = schema.heeds value :=
  sound value "" (accepted_iff.mp ((pathless schema repr value "").trans accepts))

/-- Once an alternative accepts, the reading counts those that hold. -/
theorem heeded_eq {alternatives : List Schema}
    (sound : ∀ alternative ∈ alternatives, Sound repr alternative) :
    heeded alternatives value =
      if alternatives.any (accepts · value) then some (satisfied alternatives value) else none := by
  induction alternatives with
  | nil => rfl
  | cons schema rest ih =>
    have rest_eq := ih fun other member => sound other (List.mem_cons_of_mem _ member)
    rw [heeded, rest_eq, satisfied, List.any_cons]
    cases taken : schema.accepts value with
    | true =>
      rw [(sound schema List.mem_cons_self).of_accepts taken]
      simp only [if_true, Bool.true_or]
      split <;> rfl
    | false =>
      simp only [Bool.false_eq_true, if_false, Bool.false_or]
      split <;> rfl

theorem heeded?_eq {alternatives : List Schema}
    (sound : ∀ alternative ∈ alternatives, Sound repr alternative)
    (taken : alternatives.any (accepts · value) = true) :
    heeded? (some alternatives) value = satisfied? (some alternatives) value := by
  simp [heeded?, satisfied?, heeded_eq sound, taken]

/-- A `oneOf` that is not empty decides: one of its alternatives accepted. -/
theorem oneOf_accepts {alternatives : List Schema} {anyOf : Option (List Bool)}
    {rest : Except Exc Unit} (decides : alternatives.isEmpty = false)
    (ok : checkAlternatives (outcomes? repr (some alternatives) value path) anyOf path rest =
      .ok ()) : alternatives.any (accepts · value) = true := by
  rw [outcomes?_eq fun _ _ alternative _ => pathless alternative] at ok
  by_contra rejected
  simp_all [checkAlternatives, Option.filter]

/-- Otherwise `anyOf` decides. -/
theorem anyOf_accepts {oneOf : Option (List Schema)} {alternatives : List Schema}
    {rest : Except Exc Unit} (open_ : oneOf.any (!·.isEmpty) = false)
    (ok : checkAlternatives (outcomes? repr oneOf value path)
      (outcomes? repr (some alternatives) value path) path rest = .ok ()) :
    alternatives.any (accepts · value) = true := by
  rw [outcomes?_eq fun _ _ alternative _ => pathless alternative,
    outcomes?_eq fun _ _ alternative _ => pathless alternative] at ok
  by_contra rejected
  cases oneOf <;> simp_all [checkAlternatives, Option.filter]

theorem outcomes_isEmpty {alternatives : List Schema} :
    (outcomes repr alternatives value path).isEmpty = alternatives.isEmpty := by
  cases alternatives <;> simp [outcomes]

/-- Without alternatives the check goes on. -/
theorem checkAlternatives_alone {oneOf : Option (List Schema)} {rest : Except Exc Unit}
    (alone : oneOf.any (!·.isEmpty) = false) :
    checkAlternatives (outcomes? repr oneOf value path) (outcomes? repr none value path) path rest =
      rest := by
  cases oneOf with
  | none => rfl
  | some alternatives =>
    simp_all [outcomes?, checkAlternatives, outcomes_isEmpty, Option.filter]

/-- The members or elements of a value that was checked: the keys are in order, and the rest is
up to the schemas below. -/
theorem children_sound {properties : List (String × Schema)} {items : Option Schema}
    (properties_sound : ∀ entry ∈ properties, Sound repr entry.2)
    (items_sound : ∀ child ∈ items, Sound repr child)
    (ok : value.byShape
      (fun members => do
        checkRequired a members path
        checkExtras repr a properties members path
        members.forM fun entry =>
          validateProperty repr properties entry.1 entry.2 (path ++ "." ++ entry.1))
      (fun elements => elements.zipIdx.forM fun entry =>
        validateItem repr items entry.1 (path ++ "[" ++ toString entry.2 ++ "]"))
      (.ok ()) = .ok ()) :
    value.byShape
        (fun members => keysHold a properties members &&
          members.all fun entry => satisfiesProperty properties entry.1 entry.2)
        (fun elements => elements.all (satisfiesItem items)) true =
      value.byShape (fun members => members.all fun entry => heedsProperty properties entry.1 entry.2)
        (fun elements => elements.all (heedsItem items)) true := by
  cases value with
  | obj members =>
    -- required and closed keys were checked before any member
    obtain ⟨⟨⟩, required, ok⟩ := bind_ok ok
    obtain ⟨⟨⟩, closed, each⟩ := bind_ok ok
    simp only [JsonLike.byShape, keys_ok required closed, Bool.true_and]
    rw [Bool.eq_iff_iff, List.all_eq_true, List.all_eq_true]
    refine forall₂_congr fun entry member => ?_
    rw [property_sound properties_sound (forM_each each entry member)]
  | arr elements =>
    simp only [JsonLike.byShape] at ok ⊢
    rw [Bool.eq_iff_iff, List.all_eq_true, List.all_eq_true]
    refine forall₂_congr fun element member => ?_
    -- the source numbers the elements in its paths, the reading does not
    obtain ⟨index, found⟩ := List.getElem?_of_mem member
    have checked := forM_each ok (element, index) (List.mk_mem_zipIdx_iff_getElem?.mpr found)
    rw [item_sound items_sound checked]
  | _ => rfl

/-- What JSON Schema says of a schema: its constants, what stands beside the alternatives, and
these. -/
theorem satisfies_eq {properties : List (String × Schema)} {items : Option Schema}
    {oneOf anyOf : Option (List Schema)} :
    satisfies ⟨a, properties, items, oneOf, anyOf⟩ value =
      (constHolds a value && enumHolds a value && (siblingsHold a properties items value &&
        (satisfied? oneOf value).all (· == 1) && (satisfied? anyOf value).all (1 ≤ ·))) := by
  simp only [satisfies, siblingsHold, Bool.and_assoc]

/-- A check that was passed is sound exactly where what it passes over holds. -/
theorem satisfies_eq_heeds (schema : Schema) : Sound repr schema := by
  induction schema using below_induction with
  | step schema below =>
    obtain ⟨a, properties, items, oneOf, anyOf⟩ := schema
    intro value path ok
    rw [validateSchemaValue] at ok
    obtain ⟨⟨⟩, -, ok⟩ := bind_ok ok
    obtain ⟨⟨⟩, -, ok⟩ := bind_ok ok
    rw [satisfies_eq, heeds]
    cases decides : oneOf.any (!·.isEmpty) with
    | true =>
      obtain ⟨alternatives, rfl⟩ : ∃ alternatives, oneOf = some alternatives := by
        cases oneOf with
        | none => cases decides
        | some alternatives => exact ⟨alternatives, rfl⟩
      have sound : ∀ alternative ∈ alternatives, Sound repr alternative := fun child member =>
        below child (.inr (.inr (.inl ⟨alternatives, rfl, member⟩)))
      have taken := oneOf_accepts (by simpa using decides) ok
      rw [if_pos rfl, heeded?_eq sound taken]
    | false =>
      -- an empty `oneOf` is passed over, and no value satisfies it
      have none_holds : (satisfied? oneOf value).all (· == 1) = oneOf.isNone := by
        cases oneOf with
        | none => rfl
        | some alternatives =>
          have empty : alternatives = [] := by simpa using decides
          simp [empty, satisfied?, satisfied]
      rw [if_neg (by simp), none_holds]
      cases anyOf with
      | some alternatives =>
        have sound : ∀ alternative ∈ alternatives, Sound repr alternative := fun child member =>
          below child (.inr (.inr (.inr ⟨alternatives, rfl, member⟩)))
        have taken := anyOf_accepts decides ok
        rw [if_pos Option.isSome_some, heeded?_eq sound taken, Bool.and_comm (siblingsHold _ _ _ _)]
      | none =>
        rw [checkAlternatives_alone decides] at ok
        obtain ⟨typed, went, bounds, length⟩ := checkTyped_ok ok
        have properties_sound : ∀ entry ∈ properties, Sound repr entry.2 := fun entry member =>
          below entry.2 (.inl ⟨entry.1, member⟩)
        have items_sound : ∀ child ∈ items, Sound repr child := fun child held =>
          below child (.inr (.inl held))
        rw [siblingsHold, children_sound properties_sound items_sound went, typed, bounds, length]
        cases oneOf <;> simp [satisfied?]

end Soundness

/-- An accepted value satisfies its schema exactly where the keywords that were passed over
hold. -/
theorem validated_satisfies_iff (repr : JsonLike → String) (schema : Schema) (value : JsonLike)
    (path : String) (ok : validateSchemaValue repr schema value path = .ok ()) :
    schema.satisfies value = true ↔ schema.heeds value = true := by
  rw [satisfies_eq_heeds schema value path ok]

/-- A price that must not be negative, and a name. -/
def priceSchema : Schema :=
  { assertions := { type := some (.single .object), required := ["price"] }
    properties :=
      [("price", { assertions := { type := some (.single .number), minimum := some 0 } }),
        ("name", { anyOf := some [{ assertions := { type := some (.single .string) } },
          { assertions := { type := some (.single .null) } }] })] }

theorem validated_satisfies_price :
    priceSchema.satisfies (.obj [("price", .int 2), ("name", .null)]) = true ↔
      priceSchema.heeds (.obj [("price", .int 2), ("name", .null)]) = true :=
  validated_satisfies_iff (fun _ => "") priceSchema _ "$" (by decide)

/-- A Decimal below the minimum is accepted. -/
theorem accepted_not_satisfied :
    ¬ ∀ (schema : Schema) (value : JsonLike) (path : String),
      validateSchemaValue (fun _ => "") schema value path = .ok () →
        schema.satisfies value = true := by
  intro sound
  have satisfied := sound priceSchema (.obj [("price", .decimal ⟨-1, 0⟩)]) "$" rfl
  norm_num [priceSchema, satisfies, satisfiesProperty, boundsHold, atLeast, JsonLike.byShape,
    JsonLike.number?, Decimal.val] at satisfied

end Schema

end Sentry
