import Sentry.Broker.RobinhoodMcp
import Sentry.Broker.Schema
import Sentry.Ledger.Solvency

/-!
# Arguments and commands

`CapabilityDescriptor.validate` and `validate_command_for_capability` of `app/broker/base.py`:
the last comparison of the arguments that are transmitted with the command that was audited.
A field of an order may be named by several aliases, of which the first is compared, each field
through a coercion of its own.
-/
namespace Sentry

open Support RobinhoodMcp

/-! ### Schemas as documents -/

mutual

/-- A document as a value. -/
def Json.asLike : Json → JsonLike
  | .null => .null
  | .bool b => .bool b
  | .int n => .int n
  | .number q => .float q
  | .infinity negative => .infinity negative
  | .nan => .nan
  | .str s => .str s
  | .arr items => .arr (Json.itemsAsLike items)
  | .obj members => .obj (Json.membersAsLike members)

def Json.itemsAsLike : List Json → List JsonLike
  | [] => []
  | item :: rest => item.asLike :: Json.itemsAsLike rest

def Json.membersAsLike : List (String × Json) → List (String × JsonLike)
  | [] => []
  | (key, value) :: rest => (key, value.asLike) :: Json.membersAsLike rest

end

def Json.items? : Json → Option (List Json)
  | .arr items => some items
  | _ => none

def Json.finite? : Json → Option ℚ
  | .int n => some n
  | .number q => some q
  | _ => none

def Json.size? : Json → Option Nat
  | .int n => if 0 ≤ n then some n.toNat else none
  | _ => none

def JsonType.ofName? (name : String) : Option JsonType :=
  [JsonType.object, .array, .string, .integer, .number, .boolean, .null].find? fun type =>
    type.name == name

def TypeKeyword.ofJson? : Json → Option TypeKeyword
  | .str name => (JsonType.ofName? name).map .single
  | .arr names => (names.mapM fun name : Json => name.text?.bind JsonType.ofName?).map .union
  | _ => none

/-- A keyword that may be left out; where it is there, its value must be of its kind. -/
def Json.keyword? {α : Type} (schema : Json) (name : String) (read : Json → Option α) :
    Option (Option α) :=
  match schema.member name with
  | none => some none
  | some value => (read value).map some

def Assertions.ofJson? (schema : Json) : Option Assertions := do
  let const ← schema.keyword? "const" fun value => some value.asLike
  let enum ← schema.keyword? "enum" fun value => value.items?.map (·.map Json.asLike)
  let type ← schema.keyword? "type" TypeKeyword.ofJson?
  let required ← schema.keyword? "required" fun value => value.items?.bind (·.mapM Json.text?)
  let minimum ← schema.keyword? "minimum" Json.finite?
  let maximum ← schema.keyword? "maximum" Json.finite?
  let minLength ← schema.keyword? "minLength" Json.size?
  let maxLength ← schema.keyword? "maxLength" Json.size?
  some
    { const, enum, type, minimum, maximum, minLength, maxLength
      required := required.getD []
      -- `schema.get("additionalProperties") is False`
      additionalProperties := !(schema.member "additionalProperties").any fun
        | .bool false => true
        | _ => false }

mutual

/-- A document read as a schema of the keywords that are checked, if it is one. -/
def Schema.ofJson? : Json → Option Schema
  | .obj members => do
    let assertions ← Assertions.ofJson? (.obj members)
    let schema ← Schema.ofMembers? members
    some { schema with assertions }
  | _ => none

/-- The keywords that hold schemas. -/
def Schema.ofMembers? : List (String × Json) → Option Schema
  | [] => some {}
  | ("properties", .obj members) :: rest => do
    let properties ← Schema.ofProperties? members
    let schema ← Schema.ofMembers? rest
    some { schema with properties }
  | ("items", value) :: rest => do
    let items ← Schema.ofJson? value
    let schema ← Schema.ofMembers? rest
    some { schema with items := some items }
  | ("oneOf", .arr values) :: rest => do
    let alternatives ← Schema.ofItems? values
    let schema ← Schema.ofMembers? rest
    some { schema with oneOf := some alternatives }
  | ("anyOf", .arr values) :: rest => do
    let alternatives ← Schema.ofItems? values
    let schema ← Schema.ofMembers? rest
    some { schema with anyOf := some alternatives }
  | ("properties", _) :: _ | ("oneOf", _) :: _ | ("anyOf", _) :: _ => none
  | _ :: rest => Schema.ofMembers? rest

def Schema.ofProperties? : List (String × Json) → Option (List (String × Schema))
  | [] => some []
  | (name, value) :: rest => do
    let schema ← Schema.ofJson? value
    let others ← Schema.ofProperties? rest
    some ((name, schema) :: others)

def Schema.ofItems? : List Json → Option (List Schema)
  | [] => some []
  | value :: rest => do
    let schema ← Schema.ofJson? value
    let others ← Schema.ofItems? rest
    some (schema :: others)

end

/-! ### Validating a command -/

/-- The conversions by which arguments are compared. `unread` is what becomes of the check
against a document that is no schema, which Python reads as far as it gets. -/
structure Coercions extends Builtins where
  lower : String → String
  reprLike : JsonLike → String
  unread : Json → Json → Except Exc Unit

namespace Coercions

variable (py : Coercions)

/-- The refusal of `int` for a value of some type. -/
def notANumber (type : String) : Failure :=
  .typeError ("int() argument must be a string, a bytes-like object or a real number, not '" ++
    type ++ "'")

/-- `int(value)`: a number is truncated, a boolean counts, a text is parsed. -/
def coerceInt : Json → Except Failure ℤ
  | .int n => .ok n
  | .number q => .ok (if q < 0 then ⌈q⌉ else ⌊q⌋)
  | .bool b => .ok (if b then 1 else 0)
  | .str text => py.int (.str text)
  | .infinity _ => .error (.other "OverflowError: cannot convert float infinity to integer")
  | .nan => .error (.valueError "cannot convert float NaN to integer")
  | .null => .error (notANumber "NoneType")
  | .arr _ => .error (notANumber "list")
  | .obj _ => .error (notANumber "dict")

end Coercions

/-- `CapabilityDescriptor.validate`: the arguments are returned as they were checked. -/
def CapabilityDescriptor.validate (py : Coercions) (descriptor : CapabilityDescriptor)
    (arguments : Json) : Except Exc Json := do
  match Schema.ofJson? descriptor.inputSchema with
  | some schema => schema.validateSchemaValue py.reprLike arguments.asLike "$"
  | none => py.unread descriptor.inputSchema arguments
  pure arguments

/-- `_first_argument`. -/
def firstArgument : Json → List String → Option Json := RobinhoodMcp.first

/-- The fields of an order that arguments may repeat. -/
inductive OrderField where
  | instrument | quantity | limitPrice | side
  deriving DecidableEq

def OrderField.aliases : OrderField → List String
  | .instrument => ["instrument_id", "option_instrument_id", "option_id", "instrument"]
  | .quantity => ["quantity", "qty"]
  | .limitPrice => ["limit_price", "price"]
  | .side => ["side"]

/-- The names of the side of a command. -/
def allowedSides (command : BrokerCommandIntent) : List String :=
  [command.side.value, if command.side = .buyToOpen then "buy" else "sell"]

/-- The comparison of the value of a field with the command. -/
def OrderField.check (py : Coercions) (command : BrokerCommandIntent) (value : Json) :
    OrderField → Except Exc Unit
  | .instrument =>
    if py.str value ≠ command.instrumentId then
      .error (.safetyCritical "validated arguments contain a different instrument")
    else .ok ()
  | .quantity =>
    match py.coerceInt value with
    | .error failure => .error failure.exc
    | .ok count =>
      if count ≠ command.quantity then
        .error (.safetyCritical "validated arguments contain a different quantity")
      else .ok ()
  | .limitPrice =>
    match py.decimal (py.str value) with
    | .invalidOperation =>
      .error (.safetyCritical "validated arguments contain an invalid limit price")
    | .special => .error (.safetyCritical "validated arguments contain a different limit price")
    | .finite price =>
      if price ≠ command.limitPrice.val then
        .error (.safetyCritical "validated arguments contain a different limit price")
      else .ok ()
  | .side =>
    if py.lower (py.str value) ∉ allowedSides command then
      .error (.safetyCritical "validated arguments contain a different order side")
    else .ok ()

/-- The first alias of a field that has a value is compared. -/
def OrderField.checkFirst (py : Coercions) (command : BrokerCommandIntent) (arguments : Json)
    (field : OrderField) : Except Exc Unit :=
  match firstArgument arguments field.aliases with
  | none => .ok ()
  | some value => field.check py command value

/-- `validate_command_for_capability`. -/
def validateCommandForCapability (py : Coercions) (command : BrokerCommandIntent)
    (capabilities : BrokerCapabilities) : Except Exc Json := do
  match capabilities.descriptorForAction command.action with
  | none => .error (.safetyCritical ("required capability missing: " ++ command.action.value))
  | some descriptor =>
    if command.capabilityName ≠ descriptor.toolName then
      .error (.safetyCritical "command tool name does not match discovered capability")
    else if command.capabilitySchemaVersion ≠ descriptor.schemaVersion then
      .error (.safetyCritical "command schema version does not match discovery")
    else if command.capabilitySchemaHash ≠ descriptor.schemaHash then
      .error (.safetyCritical "command schema hash does not match discovery")
    else do
      let validated ← descriptor.validate py command.validatedArguments
      OrderField.instrument.checkFirst py command validated
      OrderField.quantity.checkFirst py command validated
      OrderField.limitPrice.checkFirst py command validated
      OrderField.side.checkFirst py command validated
      pure validated

/-! ### What the arguments say -/

/-- The values that the arguments give a field, in the order of its aliases. A null says
nothing. -/
def OrderField.values (arguments : Json) (field : OrderField) : List Json :=
  field.aliases.filterMap fun key => (arguments.member key).filter fun value => !value.isNull

/-- The number of contracts a value denotes exactly. -/
def exactQuantity (py : Coercions) : Json → Option ℚ
  | .int n => some n
  | .number q => some q
  | .str text => (py.int (.str text)).toOption.map fun n => (n : ℚ)
  | _ => none

/-- A value says of a field exactly what the command says. -/
def OrderField.agrees (py : Coercions) (command : BrokerCommandIntent) (value : Json) :
    OrderField → Prop
  | .instrument => py.str value = command.instrumentId
  | .quantity => exactQuantity py value = some (command.quantity : ℚ)
  | .limitPrice => py.decimal (py.str value) = .finite command.limitPrice.val
  | .side => py.lower (py.str value) ∈ allowedSides command

/-- A quantity that loses nothing by `int`: no boolean, and no fraction of a contract. -/
def Whole : Json → Prop
  | .bool _ => False
  | .number q => q.isInt = true
  | _ => True

section Exactness

variable {py : Coercions} {command : BrokerCommandIntent} {value : Json}

theorem exactQuantity_iff {count : ℤ} (read : py.coerceInt value = .ok count) :
    exactQuantity py value = some (count : ℚ) ↔ Whole value := by
  cases value with
  | int n => simp_all [Coercions.coerceInt, exactQuantity, Whole]
  | number q =>
    simp only [Coercions.coerceInt, Except.ok.injEq] at read
    simp only [exactQuantity, Whole, Option.some.injEq]
    constructor
    · rintro rfl
      exact rfl
    · intro whole
      obtain ⟨n, rfl⟩ : ∃ n : ℤ, q = n := ⟨q.num, (Rat.den_eq_one_iff q).mp (by simpa [Rat.isInt] using whole) |>.symm⟩
      simp_all
  | str text => simp_all [Coercions.coerceInt, exactQuantity, Whole, Except.toOption]
  | bool b => simp [exactQuantity, Whole]
  | _ => simp_all [Coercions.coerceInt]

/-- A value that was compared says what the command says, a quantity if nothing was lost. -/
theorem says_iff_of_check {field : OrderField} (ok : field.check py command value = .ok ()) :
    field.agrees py command value ↔ (field = .quantity → Whole value) := by
  cases field with
  | quantity =>
    simp only [OrderField.check] at ok
    split at ok
    · cases ok
    next count read =>
      split at ok
      · cases ok
      next same =>
        rw [not_not] at same
        simp only [OrderField.agrees, ← same, exactQuantity_iff read, forall_const]
  | instrument => simp_all [OrderField.check, OrderField.agrees]
  | limitPrice =>
    simp only [OrderField.check] at ok
    simp only [OrderField.agrees]
    split at ok <;> simp_all
  | side => simp_all [OrderField.check, OrderField.agrees]

theorem firstArgument_eq_head? (arguments : Json) (field : OrderField) :
    firstArgument arguments field.aliases = (field.values arguments).head? :=
  List.head?_filterMap.symm

theorem head_says_iff {field : OrderField} {arguments : Json}
    (ok : field.checkFirst py command arguments = .ok ()) :
    (∀ value ∈ field.values arguments, field.agrees py command value) ↔
      (field = .quantity → ∀ value ∈ (field.values arguments).head?, Whole value) ∧
        ∀ value ∈ (field.values arguments).tail, field.agrees py command value := by
  unfold OrderField.checkFirst at ok
  rw [firstArgument_eq_head?] at ok
  cases values : field.values arguments with
  | nil => simp
  | cons first rest =>
    rw [values] at ok
    simp only [List.forall_mem_cons, List.head?_cons, List.tail_cons, Option.mem_def,
      Option.some.injEq, forall_eq']
    rw [says_iff_of_check ok]

/-- A command that was accepted had every field compared. -/
theorem checked_of_validated {capabilities : BrokerCapabilities} {validated : Json}
    (ok : validateCommandForCapability py command capabilities = .ok validated)
    (field : OrderField) : field.checkFirst py command validated = .ok () := by
  unfold validateCommandForCapability at ok
  split at ok
  · cases ok
  · split_ifs at ok
    obtain ⟨arguments, -, ok⟩ := bind_ok ok
    obtain ⟨⟨⟩, instrument, ok⟩ := bind_ok ok
    obtain ⟨⟨⟩, quantity, ok⟩ := bind_ok ok
    obtain ⟨⟨⟩, price, ok⟩ := bind_ok ok
    obtain ⟨⟨⟩, side, ok⟩ := bind_ok ok
    cases ok
    cases field with
    | instrument => exact instrument
    | quantity => exact quantity
    | limitPrice => exact price
    | side => exact side

end Exactness

/-- The arguments of an accepted command say exactly what the command says if and only if the
quantity that was compared is whole and no further alias of a field says anything else. -/
theorem validated_says_iff (py : Coercions) (command : BrokerCommandIntent)
    (capabilities : BrokerCapabilities) (validated : Json)
    (ok : validateCommandForCapability py command capabilities = .ok validated) :
    (∀ field : OrderField, ∀ value ∈ field.values validated, field.agrees py command value) ↔
      (∀ value ∈ (OrderField.quantity.values validated).head?, Whole value) ∧
        ∀ field : OrderField, ∀ value ∈ (field.values validated).tail,
          field.agrees py command value := by
  have checked := checked_of_validated ok
  constructor
  · intro exact_
    refine ⟨((head_says_iff (checked .quantity)).mp (exact_ .quantity)).1 rfl, fun field => ?_⟩
    exact ((head_says_iff (checked field)).mp (exact_ field)).2
  · rintro ⟨whole, later⟩ field
    refine (head_says_iff (checked field)).mpr ⟨?_, later field⟩
    rintro rfl
    exact whole

/-! ### A sample capability -/

namespace CommandSample

def py : Coercions where
  str := fun
    | .str text => text
    | _ => ""
  repr := fun _ => ""
  strip := id
  upper := id
  int := fun
    | .str "2" => .ok 2
    | _ => .error (.valueError "invalid literal for int()")
  decimal := fun text => if text = "1.5" ∨ text = "1.50" then .finite (3 / 2) else .invalidOperation
  loads := fun _ => .decodeError
  lower := id
  reprLike := fun _ => ""
  unread := fun _ _ => .ok ()

/-- A catalogue with a loose schema, as a broker may publish it. -/
def capabilities : BrokerCapabilities where
  descriptors :=
    [{ capability := "place_option_order"
       toolName := "place_option_order"
       schemaVersion := "v1"
       schemaHash := "schema"
       sideEffectFree := false
       inputSchema := .obj [("type", .str "object")] }]

def command (arguments : List (String × Json)) : BrokerCommandIntent :=
  { ShadowLedger.sampleCommand 11 .placeOptionOrder .buyToOpen 2 ⟨150, -2⟩ with
    validatedArguments := .obj arguments }

/-- Every field under its aliases, with the same values. -/
def repeated : List (String × Json) :=
  [("instrument_id", .str "spy-put"), ("option_id", .str "spy-put"), ("quantity", .int 2),
    ("qty", .str "2"), ("limit_price", .str "1.50"), ("price", .str "1.5"), ("side", .str "buy")]

theorem repeated_values (field : OrderField) : field.values (.obj repeated) =
    match field with
    | .instrument => [.str "spy-put", .str "spy-put"]
    | .quantity => [.int 2, .str "2"]
    | .limitPrice => [.str "1.50", .str "1.5"]
    | .side => [.str "buy"] := by
  cases field <;> rfl

theorem price_val : (⟨150, -2⟩ : Decimal).val = 3 / 2 := by norm_num [Decimal.val]

theorem repeated_later (field : OrderField) :
    ∀ value ∈ (field.values (.obj repeated)).tail, field.agrees py (command repeated) value := by
  rw [repeated_values]
  cases field with
  | limitPrice => simp [OrderField.agrees, py, command, ShadowLedger.sampleCommand, price_val]
  | quantity => simp [OrderField.agrees, exactQuantity, Except.toOption, py, command,
      ShadowLedger.sampleCommand]
  | _ => simp [OrderField.agrees, py, command, ShadowLedger.sampleCommand]

theorem repeated_validated :
    validateCommandForCapability py (command repeated) capabilities = .ok (.obj repeated) := by
  have price : OrderField.limitPrice.checkFirst py (command repeated) (.obj repeated) = .ok () := by
    rw [OrderField.checkFirst, firstArgument_eq_head?, repeated_values]
    simp [OrderField.check, py, command, ShadowLedger.sampleCommand, price_val]
  -- the other fields are compared by evaluation
  have others : validateCommandForCapability py (command repeated) capabilities =
      OrderField.limitPrice.checkFirst py (command repeated) (.obj repeated) >>= fun _ =>
        .ok (.obj repeated) := rfl
  rw [others, price]
  rfl

theorem validated_says_sample :
    validateCommandForCapability py (command repeated) capabilities = .ok (.obj repeated) ∧
      ∀ field : OrderField, ∀ value ∈ field.values (.obj repeated),
        field.agrees py (command repeated) value := by
  refine ⟨repeated_validated, (validated_says_iff py _ capabilities _ repeated_validated).mpr
    ⟨?_, repeated_later⟩⟩
  simp [repeated_values, Whole]

/-- A second alias may name another quantity. -/
theorem second_quantity_accepted :
    ¬ ∀ (command : BrokerCommandIntent) (capabilities : BrokerCapabilities) (validated : Json),
      validateCommandForCapability py command capabilities = .ok validated →
        ∀ field : OrderField, ∀ value ∈ field.values validated, field.agrees py command value := by
  intro exact_
  have said := exact_ (command [("quantity", .int 2), ("qty", .int 5)]) capabilities _ rfl .quantity
    (.int 5) (.tail _ (.head _))
  norm_num [OrderField.agrees, exactQuantity, command, ShadowLedger.sampleCommand] at said

end CommandSample

end Sentry
