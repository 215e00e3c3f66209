import Sentry.Broker.RobinhoodMcp
import Sentry.Support.Concurrent

/-!
# The read-only facade

`RobinhoodReadOnlyMcpClient` of `app/broker/robinhood_mcp.py`: how the tools of a server
are discovered and which of them the client calls. The server decides what it lists, so a
listing is any value a client library can return. What is made of a tool's result after
the call, the account adapter and the schema check are parameters.
-/
namespace Sentry

open Support Coroutine RobinhoodMcp

/-! ### What a server lists -/

/-- A value of the client library: a parsed document, a sequence or mapping that holds such
values, or an object with attributes and what `model_dump(by_alias=True)` makes of it, where
its class has that method. -/
inductive Value where
  | json (document : Json)
  | list (items : List Value)
  | mapping (members : List (String × Value))
  | object (attributes : List (String × Value)) (dump : Option Value)

namespace Value

/-- A key of a mapping. -/
def lookup (name : String) (members : List (String × Value)) : Option Value :=
  (members.reverse.find? fun entry => entry.1 == name).map Prod.snd

/-- The value as a mapping, if it is one. -/
def members? : Value → Option (List (String × Value))
  | .json (.obj members) => some (members.map fun entry => (entry.1, .json entry.2))
  | .mapping members => some members
  | _ => none

/-- The value as a sequence, if it is one and not a text. -/
def items? : Value → Option (List Value)
  | .json (.arr items) => some (items.map .json)
  | .list items => some items
  | _ => none

def getattr (name : String) : Value → Option Value
  | .object attributes _ => lookup name attributes
  | _ => none

def isNull : Value → Bool
  | .json document => document.isNull
  | _ => false

/-- `bool(value)`. -/
def truthy : Value → Bool
  | .json document => document.truthy
  | .list items => !items.isEmpty
  | .mapping members => !members.isEmpty
  | .object _ _ => true

/-- `repr(type(value))`. -/
def typeRepr : Value → String
  | .json .null => "<class 'NoneType'>"
  | .json (.bool _) => "<class 'bool'>"
  | .json (.int _) => "<class 'int'>"
  | .json (.number _) | .json (.infinity _) | .json .nan => "<class 'float'>"
  | .json (.str _) => "<class 'str'>"
  | .json (.arr _) | .list _ => "<class 'list'>"
  | .json (.obj _) | .mapping _ => "<class 'dict'>"
  | .object _ _ => "<class 'object'>"

end Value

/-- `_object_mapping`. -/
def objectMapping (value : Value) : Except Exc (List (String × Value)) :=
  match value.members? with
  | some members => .ok members
  | none =>
    match value with
    | .object attributes dump =>
      match dump.bind Value.members? with
      | some members => .ok members
      | none => .ok (attributes.filter fun entry => entry.1.front? != some '_')
    | other => .error (.dataInvalid ("expected object-like MCP value, got " ++ other.typeRepr))

structure McpToolDefinition where
  name : String
  description : String := ""
  inputSchema : Value
  annotations : List (String × Value)
  schemaVersion : String

/-- Whether an annotation declares a tool destructive. -/
def destructive (annotations : List (String × Value)) : Bool :=
  (Value.lookup "destructiveHint" annotations).any Value.truthy

/-- The conversions the client uses. -/
structure McpConversions extends Builtins where
  text : Value → String
  sha256Json : Value → Except Failure String

section Listing

variable (py : McpConversions)

/-- `sha256_json`, as part of a larger computation. -/
def McpConversions.digest (value : Value) : Except Exc String :=
  match py.sha256Json value with
  | .ok digest => .ok digest
  | .error failure => .error failure.exc

/-- The value under a key, unless it is missing or false. -/
def given (name : String) (mapping : List (String × Value)) : Option Value :=
  (Value.lookup name mapping).filter Value.truthy

/-- The name of a listed tool. -/
def toolName (names : List String) (mapping : List (String × Value)) : Except Exc String :=
  match Value.lookup "name" mapping with
  | some (.json (.str name)) =>
    if name = "" then .error (.dataInvalid "MCP tool definition is missing its name")
    else if names.contains name then .error (.dataInvalid "MCP tool listing contains duplicate names")
    else .ok name
  | _ => .error (.dataInvalid "MCP tool definition is missing its name")

def toolSchema (name : String) (mapping : List (String × Value)) : Except Exc Value :=
  let schema := (Value.lookup "inputSchema" mapping).getD
    ((Value.lookup "input_schema" mapping).getD (.mapping []))
  match schema.members? with
  | some members => .ok (.mapping members)
  | none => .error (.dataInvalid ("MCP tool " ++ name ++ " has a non-object input schema"))

def toolSchemaVersion (schema : Value) (mapping : List (String × Value)) : Except Exc String := do
  let metadata := ((Value.lookup "_meta" mapping).getD
    ((Value.lookup "meta" mapping).getD (.mapping [])))
  let meta_ ← objectMapping (if metadata.truthy then metadata else .mapping [])
  match given "schemaVersion" mapping <|> given "schema_version" mapping <|>
      given "schemaVersion" meta_ <|> given "version" meta_ with
  | some version => pure (py.text version)
  | none =>
    let digest ← py.digest schema
    pure ("mcp-schema-" ++ String.ofList (digest.toList.take 16))

/-- One entry of a listing, after the entries with these names. -/
def normalizeTool (names : List String) (item : Value) : Except Exc McpToolDefinition := do
  let mapping ← objectMapping item
  let name ← toolName names mapping
  let schema ← toolSchema name mapping
  let annotations ← objectMapping ((given "annotations" mapping).getD (.mapping []))
  let schemaVersion ← toolSchemaVersion py schema mapping
  pure
    { name
      description := (given "description" mapping).elim "" py.text
      inputSchema := schema
      annotations
      schemaVersion }

def normalizeTools (names : List String) : List Value → Except Exc (List McpToolDefinition)
  | [] => .ok []
  | item :: rest => do
    let tool ← normalizeTool py names item
    let tools ← normalizeTools (tool.name :: names) rest
    pure (tool :: tools)

/-- Where a listing continues, if it does. -/
def nextCursor (raw : Value) : Option Value :=
  match raw.members? with
  | some members => ["nextCursor", "next_cursor"].findSome? fun key =>
      (Value.lookup key members).filter fun value => !value.isNull
  | none =>
    (raw.getattr "next_cursor" <|> raw.getattr "nextCursor").filter fun value => !value.isNull

/-- The entries of a listing. -/
def toolSequence (raw : Value) : Except Exc (List Value) :=
  if (nextCursor raw).isSome then
    .error (.dataInvalid "MCP transport must exhaust tool-list pagination before discovery")
  else
    let tools := (raw.getattr "tools" <|> raw.members?.bind (Value.lookup "tools")).getD raw
    match tools.items? with
    | some items => .ok items
    | none => .error (.dataInvalid "MCP list_tools response does not contain a tool sequence")

/-- `_normalize_tool_list`. -/
def normalizeToolList (raw : Value) : Except Exc (List McpToolDefinition) := do
  let items ← toolSequence raw
  normalizeTools py [] items

end Listing

/-! ### Capabilities -/

inductive Capability where
  | getAccountState
  | getPositions
  | getOrders
  | reviewOptionOrder
  | placeOptionOrder
  | cancelOptionOrder
  | getAccounts
  | getPortfolio
  deriving DecidableEq

namespace Capability

def value : Capability → String
  | .getAccountState => "get_account_state"
  | .getPositions => "get_positions"
  | .getOrders => "get_orders"
  | .reviewOptionOrder => "review_option_order"
  | .placeOptionOrder => "place_option_order"
  | .cancelOptionOrder => "cancel_option_order"
  | .getAccounts => "get_accounts"
  | .getPortfolio => "get_portfolio"

/-- `_TOOL_ALIASES | _ACCOUNT_TOOLS`. -/
def aliases : Capability → List String
  | .getAccountState =>
    ["get_account_state", "get_account", "get_account_details", "get_account_profile"]
  | .getPositions => ["get_option_positions", "get_positions", "list_option_positions"]
  | .getOrders => ["get_option_orders", "get_orders", "list_option_orders"]
  | .reviewOptionOrder => ["review_option_order"]
  | .placeOptionOrder => ["place_option_order"]
  | .cancelOptionOrder => ["cancel_option_order"]
  | .getAccounts => ["get_accounts"]
  | .getPortfolio => ["get_portfolio"]

/-- The capabilities in the order in which they are looked for. -/
def all : List Capability :=
  [.getAccountState, .getPositions, .getOrders, .reviewOptionOrder, .placeOptionOrder,
    .cancelOptionOrder, .getAccounts, .getPortfolio]

/-- `_ACCOUNT_TOOLS`. -/
def isAccountTool : Capability → Bool
  | .getAccounts | .getPortfolio => true
  | _ => false

/-- `_READ_CAPABILITIES`. -/
def isRead : Capability → Bool
  | .getAccountState | .getPositions | .getOrders | .getAccounts | .getPortfolio => true
  | _ => false

end Capability

/-- The tools of the write capabilities. -/
def writeToolNames : List String :=
  Capability.placeOptionOrder.aliases ++ Capability.cancelOptionOrder.aliases

structure DiscoveredDescriptor where
  capability : Capability
  toolName : String
  schemaVersion : String
  schemaHash : String
  sideEffectFree : Bool
  inputSchema : Value
  available : Bool := true
  annotations : List (String × Value)

structure DiscoveredCapabilities where
  discoveredAt : Time
  descriptors : List DiscoveredDescriptor
  accountState : Bool
  positions : Bool
  orders : Bool
  reviewOptionOrders : Bool
  placeOptionOrders : Bool
  cancelOptionOrders : Bool
  reconcile : Bool := true
  externalWritesEnabled : Bool := false
  executionReady : Bool
  issues : List String

/-- `descriptor_for`. -/
def DiscoveredCapabilities.descriptorFor (c : DiscoveredCapabilities) (capability : Capability) :
    Option DiscoveredDescriptor :=
  c.descriptors.find? fun descriptor => descriptor.capability == capability && descriptor.available

structure SelectedAgenticAccount where
  accountFingerprint : String
  agenticAllowed : Bool
  requestContext : Value

/-- `RobinhoodAccountResponseAdapter`. A selection of another type than the expected one is
`none`. -/
structure AccountResponseAdapter where
  expectedAccountFingerprint : String
  selectAccount : ToolResult → Except Exc (Option SelectedAgenticAccount)
  portfolioArguments : SelectedAgenticAccount → Value → Except Exc Value
  normalizePortfolio : SelectedAgenticAccount → ToolResult → Except Exc ToolResult

/-- What the client makes of the results of its calls. -/
structure ResponseReaders where
  account : ToolResult → Time → Except Exc AccountSnapshot
  positions : ToolResult → Time → Except Exc (List Position)
  orders : ToolResult → Time → Except Exc (List BrokerOrder)
  review : ToolResult → TradeProposal → Time → Except Exc BrokerReview
  selectionHash : SelectedAgenticAccount → Except Exc String
  proposalArguments : TradeProposal → Value → Except Exc Value
  validateCommand : BrokerCommandIntent → DiscoveredCapabilities → Except Exc Value

structure RobinhoodReadOnlyMcpClient where
  py : McpConversions
  validate : Value → Value → Except Exc Value
  readers : ResponseReaders
  safeReviewTools : List String := ["review_option_order"]
  expectedSchemaHashes : Dict String String := .empty
  accountResponseAdapter : Option AccountResponseAdapter := none

/-- What a discovery has gathered so far. -/
structure Discovery where
  selected : List Capability := []
  descriptors : List DiscoveredDescriptor := []
  issues : List String := []

namespace RobinhoodReadOnlyMcpClient

variable (client : RobinhoodReadOnlyMcpClient)

/-- Whether a tool found for a capability may be called without effects. -/
def sideEffectFree (capability : Capability) (tool : McpToolDefinition) : Bool :=
  if capability = .reviewOptionOrder then
    client.safeReviewTools.contains tool.name && !destructive tool.annotations
  else capability.isRead && !destructive tool.annotations

/-- What the client holds against a tool it found. -/
def complaints (capability : Capability) (tool : McpToolDefinition) (schemaHash : String) :
    List String :=
  let expected := client.expectedSchemaHashes.get? capability.value <|>
    client.expectedSchemaHashes.get? tool.name
  (if capability.isRead && !client.sideEffectFree capability tool then
    ["read capability declares destructive effects: " ++ capability.value] else []) ++
  (if capability = .reviewOptionOrder && !client.sideEffectFree capability tool then
    ["review_option_order is not verified side-effect-free"] else []) ++
  if expected.any fun hash => hash != schemaHash then
    ["schema drift detected for " ++ capability.value] else []

/-- The loop of `discover_capabilities` at one capability. -/
def discover (flow : Bool) (tools : List McpToolDefinition) (found : Discovery)
    (capability : Capability) : Except Exc Discovery :=
  if capability = .getAccountState ∧ flow then .ok found
  else match capability.aliases.findSome? fun name => tools.find? fun tool => tool.name == name with
    | none =>
      if !capability.isAccountTool || flow then
        .ok { found with
          issues := found.issues ++ ["required Robinhood capability missing: " ++ capability.value] }
      else .ok found
    | some tool => do
      let schemaHash ← client.py.digest tool.inputSchema
      pure
        { selected := found.selected ++ [capability]
          descriptors := found.descriptors ++
            [{ capability
               toolName := tool.name
               schemaVersion := tool.schemaVersion
               schemaHash
               sideEffectFree := client.sideEffectFree capability tool
               inputSchema := tool.inputSchema
               annotations := tool.annotations }]
          issues := found.issues ++ client.complaints capability tool schemaHash }

/-- Whether the account is read through a selection, and what stands against it. -/
def accountReady (flow : Bool) (found : Discovery) : Bool × List String :=
  if flow then
    match client.accountResponseAdapter with
    | none => (false, ["get_accounts/get_portfolio require an explicit selected-account adapter"])
    | some adapter =>
      if adapter.expectedAccountFingerprint = "" then
        (false, ["selected-account adapter has no expected account fingerprint"])
      else ([.getAccounts, .getPortfolio].all found.selected.contains, [])
  else (found.selected.contains .getAccountState, [])

/-- The capabilities that a finished discovery amounts to. -/
def capabilitiesOf (flow : Bool) (found : Discovery) (now : Time) : DiscoveredCapabilities :=
  let ready := client.accountReady flow found
  let issues := found.issues ++ ready.2
  { discoveredAt := now
    descriptors := found.descriptors
    accountState := ready.1
    positions := found.selected.contains .getPositions
    orders := found.selected.contains .getOrders
    reviewOptionOrders := found.selected.contains .reviewOptionOrder &&
      (found.descriptors.find? fun d => d.capability == .reviewOptionOrder).any (·.sideEffectFree)
    placeOptionOrders := found.selected.contains .placeOptionOrder
    cancelOptionOrders := found.selected.contains .cancelOptionOrder
    executionReady := ready.1 && [.getPositions, .getOrders, .reviewOptionOrder, .placeOptionOrder,
      .cancelOptionOrder].all found.selected.contains && issues.isEmpty
    issues }

end RobinhoodReadOnlyMcpClient

/-! ### The client at work -/

inductive ReadOp where
  | listTools
  | callTool (name : String) (arguments : Value)

abbrev ReadAns : ReadOp → Type
  | .listTools => Value
  | .callTool _ _ => ToolResult

/-- What the client keeps, the clock, and the listings the transport has answered so far. -/
structure ReadState where
  now : Time
  capabilities : Option DiscoveredCapabilities := none
  usesSelectedAccountFlow : Bool := false
  selectedAccountHash : Option String := none
  listed : List Value := []

abbrev ReadProgram (α : Type) := Coroutine ReadState Exc ReadAns α

/-- `except (PermissionError, AuthenticationError)`. -/
def Exc.isAuthentication : Exc → Bool
  | .unlisted text => text == "PermissionError" || text == "AuthenticationError"
  | _ => false

namespace RobinhoodReadOnlyMcpClient

variable (client : RobinhoodReadOnlyMcpClient)

/-- `discover_capabilities`. -/
def discoverCapabilities : ReadProgram DiscoveredCapabilities := do
  let raw ← call ReadOp.listTools
  let tools ← lift (normalizeToolList client.py raw)
  let flow := client.accountResponseAdapter.isSome ||
    tools.any fun tool => tool.name == "get_accounts" || tool.name == "get_portfolio"
  change fun g => { g with usesSelectedAccountFlow := flow }
  let found ← lift (Capability.all.foldlM (client.discover flow tools) {})
  let now ← peek fun g => g.now
  change fun g => { g with capabilities := some (client.capabilitiesOf flow found now) }
  pure (client.capabilitiesOf flow found now)

/-- `get_capabilities`. -/
def getCapabilities : ReadProgram DiscoveredCapabilities := do
  let known ← peek fun g => g.capabilities
  match known with
  | some capabilities => pure capabilities
  | none => client.discoverCapabilities

/-- The exceptions of the transport, as the client passes them on. -/
def callFailed (capability : Capability) (e : Exc) : ReadProgram ToolResult :=
  if e.isAuthentication then
    raise (.authenticationRequired "Robinhood MCP authentication is required")
  else if e.isOSError then
    raise (.transient ("Robinhood MCP " ++ capability.value ++ " failed transiently"))
  else raise e

/-- The call itself, once the tool was found to be allowed. -/
def invoke (descriptor : DiscoveredDescriptor) (arguments : Value) : ReadProgram ToolResult := do
  let validated ← lift (client.validate descriptor.inputSchema arguments)
  let result ← call (ReadOp.callTool descriptor.toolName validated)
  lift (rejectErrorResult result)
  pure result

/-- `_call_allowed`. -/
def callAllowed (capability : Capability) (arguments : Value) : ReadProgram ToolResult := do
  raiseIf (!capability.isRead && capability != .reviewOptionOrder)
    (.safetyCritical ("MCP capability is not read/review allowlisted: " ++ capability.value))
  let capabilities ← client.getCapabilities
  match capabilities.descriptorFor capability with
  | none =>
    raise (.safetyCritical ("MCP capability is unavailable or unsafe: " ++ capability.value))
  | some descriptor =>
    raiseIf (!descriptor.sideEffectFree)
      (.safetyCritical ("MCP capability is unavailable or unsafe: " ++ capability.value))
    raiseIf (capability == .reviewOptionOrder && !client.safeReviewTools.contains descriptor.toolName)
      (.safetyCritical "MCP review tool is outside the explicit allowlist")
    raiseIf (writeToolNames.contains descriptor.toolName)
      (.safetyCritical "write tool reached read-only MCP facade")
    attempt (client.invoke descriptor arguments) (callFailed capability)

/-- Whether a selection is the account the adapter expects. -/
def selects (adapter : AccountResponseAdapter) (selection : SelectedAgenticAccount) : Bool :=
  selection.agenticAllowed && selection.accountFingerprint == adapter.expectedAccountFingerprint

/-- The portfolio of the selected account. -/
def getPortfolio (adapter : AccountResponseAdapter) (selection : SelectedAgenticAccount)
    (selectionHash : String) : ReadProgram AccountSnapshot := do
  let capabilities ← client.getCapabilities
  match capabilities.descriptorFor .getPortfolio with
  | none => raise (.safetyCritical "selected-account portfolio capability is unavailable")
  | some descriptor =>
    let arguments ← lift (adapter.portfolioArguments selection descriptor.inputSchema)
    let portfolio ← client.callAllowed .getPortfolio arguments
    let payload ← lift (extractPayload client.py.toBuiltins portfolio)
    let normalized ← lift (adapter.normalizePortfolio selection payload)
    let now ← peek fun g => g.now
    let snapshot ← lift (client.readers.account normalized now)
    raiseIf (snapshot.accountFingerprint != some selection.accountFingerprint)
      (.safetyCritical "portfolio response belongs to a different account")
    change fun g => { g with selectedAccountHash := some selectionHash }
    pure snapshot

/-- The account behind the selection of an adapter. -/
def getSelectedAccount (adapter : AccountResponseAdapter) : ReadProgram AccountSnapshot := do
  let accounts ← client.callAllowed .getAccounts (.mapping [])
  let payload ← lift (extractPayload client.py.toBuiltins accounts)
  let selected ← lift (adapter.selectAccount payload)
  match selected.filter (selects adapter) with
  | none => raise (.safetyCritical "selected account is not the expected Agentic account")
  | some selection =>
    let selectionHash ← lift (client.readers.selectionHash selection)
    let known ← peek fun g => g.selectedAccountHash
    raiseIf (known.any fun hash => hash != selectionHash)
      (.safetyCritical "selected Agentic account changed during this session")
    client.getPortfolio adapter selection selectionHash

/-- `get_account_state`. -/
def getAccountState : ReadProgram AccountSnapshot := do
  let _ ← client.getCapabilities
  let flow ← peek fun g => g.usesSelectedAccountFlow
  if flow then
    match client.accountResponseAdapter with
    | none => raise (.safetyCritical "an explicit selected-account response adapter is required")
    | some adapter => client.getSelectedAccount adapter
  else do
    let payload ← client.callAllowed .getAccountState (.mapping [])
    let now ← peek fun g => g.now
    lift (client.readers.account payload now)

/-- `get_positions`. -/
def getPositions : ReadProgram (List Position) := do
  let payload ← client.callAllowed .getPositions (.mapping [])
  let now ← peek fun g => g.now
  lift (client.readers.positions payload now)

/-- `get_orders`. -/
def getOrders : ReadProgram (List BrokerOrder) := do
  let payload ← client.callAllowed .getOrders (.mapping [])
  let now ← peek fun g => g.now
  lift (client.readers.orders payload now)

/-- `review_option_order`. -/
def reviewOptionOrder (proposal : TradeProposal) : ReadProgram BrokerReview := do
  let capabilities ← client.getCapabilities
  match (capabilities.descriptorFor .reviewOptionOrder).filter (·.sideEffectFree) with
  | none => raise (.safetyCritical "Robinhood review is not verified side-effect-free")
  | some descriptor =>
    let arguments ← lift (client.readers.proposalArguments proposal descriptor.inputSchema)
    let validated ← lift (client.validate descriptor.inputSchema arguments)
    let payload ← client.callAllowed .reviewOptionOrder validated
    let now ← peek fun g => g.now
    lift (client.readers.review payload proposal now)

/-- `validate_command`. -/
def validateCommand (command : BrokerCommandIntent) : ReadProgram Value := do
  let capabilities ← client.getCapabilities
  lift (client.readers.validateCommand command capabilities)

end RobinhoodReadOnlyMcpClient

/-- A call of a public method. -/
inductive ReadCall where
  | getCapabilities
  | discoverCapabilities
  | getAccountState
  | getPositions
  | getOrders
  | reviewOptionOrder (proposal : TradeProposal)
  | validateCommand (command : BrokerCommandIntent)

inductive ReadReply where
  | capabilities (value : DiscoveredCapabilities)
  | account (value : AccountSnapshot)
  | positions (value : List Position)
  | orders (value : List BrokerOrder)
  | review (value : BrokerReview)
  | arguments (value : Value)

abbrev ReadCrew := Crew ReadState Exc ReadAns ReadReply ReadCall

namespace RobinhoodReadOnlyMcpClient

variable (client : RobinhoodReadOnlyMcpClient)

def serve : ReadCall → ReadProgram ReadReply
  | .getCapabilities => client.getCapabilities >>= fun value => pure (.capabilities value)
  | .discoverCapabilities => client.discoverCapabilities >>= fun value => pure (.capabilities value)
  | .getAccountState => client.getAccountState >>= fun value => pure (.account value)
  | .getPositions => client.getPositions >>= fun value => pure (.positions value)
  | .getOrders => client.getOrders >>= fun value => pure (.orders value)
  | .reviewOptionOrder proposal =>
    client.reviewOptionOrder proposal >>= fun value => pure (.review value)
  | .validateCommand command =>
    client.validateCommand command >>= fun value => pure (.arguments value)

/-- Any calls of the client at any time, over a transport that lists and answers what it likes.
The listings it has answered are kept. -/
def facade : Concurrent ReadState Exc ReadAns ReadReply ReadCall where
  body := client.serve
  performs := fun op g r g' =>
    match op, r with
    | .listTools, .ok raw => g' = { g with listed := g.listed ++ [raw] }
    | _, _ => g' = g
  event := fun g g' => ∃ now, g' = { g with now }

end RobinhoodReadOnlyMcpClient

/-! ### What may be called -/

/-- A listing has an entry of this name whose annotations declare no destructive effects. -/
def Lists (raw : Value) (name : String) : Prop :=
  ∃ items mapping annotations, toolSequence raw = .ok items ∧
    (∃ item ∈ items, objectMapping item = .ok mapping) ∧
    Value.lookup "name" mapping = some (.json (.str name)) ∧
    objectMapping ((given "annotations" mapping).getD (.mapping [])) = .ok annotations ∧
    destructive annotations = false

/-- The names under which the tools of the read capabilities are declared. -/
def readAliases : List String := (Capability.all.filter Capability.isRead).flatMap Capability.aliases

/-- A tool the client may call: a declared read tool, or a review tool that is allowed for
reviews, and listed as not destructive; in no case a tool that writes. -/
structure Confined (client : RobinhoodReadOnlyMcpClient) (name : String) (listed : List Value) :
    Prop where
  declared : name ∈ readAliases ∨
    name ∈ Capability.reviewOptionOrder.aliases ∧ name ∈ client.safeReviewTools
  listed : ∃ raw ∈ listed, Lists raw name
  reads : name ∉ writeToolNames

/-- The same of an operation. -/
def ReadOp.Allowed (client : RobinhoodReadOnlyMcpClient) (listed : List Value) : ReadOp → Prop
  | .listTools => True
  | .callTool name _ => Confined client name listed

/-- What makes a discovered descriptor trustworthy. -/
def Vouched (descriptors : List DiscoveredDescriptor) (raw : Value) : Prop :=
  ∀ d ∈ descriptors, d.toolName ∈ d.capability.aliases ∧ (d.sideEffectFree = true → Lists raw d.toolName)

section Discovering

variable {py : McpConversions}

theorem toolName_ok {names : List String} {mapping : List (String × Value)} {name : String}
    (named : toolName names mapping = .ok name) :
    Value.lookup "name" mapping = some (.json (.str name)) := by
  unfold toolName at named
  split at named
  next found =>
    split at named
    · cases named
    · split at named
      · cases named
      · cases named
        exact found
  · cases named

theorem normalizeTool_ok {names : List String} {item : Value} {tool : McpToolDefinition}
    (normalized : normalizeTool py names item = .ok tool) :
    ∃ mapping, objectMapping item = .ok mapping ∧
      Value.lookup "name" mapping = some (.json (.str tool.name)) ∧
      objectMapping ((given "annotations" mapping).getD (.mapping [])) = .ok tool.annotations := by
  obtain ⟨mapping, mapped, rest⟩ := bind_ok normalized
  obtain ⟨name, named, rest⟩ := bind_ok rest
  obtain ⟨schema, -, rest⟩ := bind_ok rest
  obtain ⟨annotations, annotated, rest⟩ := bind_ok rest
  obtain ⟨version, -, rest⟩ := bind_ok rest
  cases rest
  exact ⟨mapping, mapped, toolName_ok named, annotated⟩

/-- Every tool of a normalized listing comes from one of its entries. -/
theorem normalizeTools_mem {names : List String} {items : List Value}
    {tools : List McpToolDefinition} (normalized : normalizeTools py names items = .ok tools)
    {tool : McpToolDefinition} (member : tool ∈ tools) :
    ∃ item ∈ items, ∃ names, normalizeTool py names item = .ok tool := by
  induction items generalizing names tools with
  | nil =>
    cases normalized
    cases member
  | cons item rest ih =>
    obtain ⟨head, here, later⟩ := bind_ok normalized
    obtain ⟨others, there, joined⟩ := bind_ok later
    cases joined
    rcases List.mem_cons.mp member with rfl | behind
    · exact ⟨item, List.mem_cons_self, names, here⟩
    · obtain ⟨source, inside, names', made⟩ := ih there behind
      exact ⟨source, List.mem_cons_of_mem _ inside, names', made⟩

theorem lists_of_mem {raw : Value} {tools : List McpToolDefinition} {tool : McpToolDefinition}
    (normalized : normalizeToolList py raw = .ok tools) (member : tool ∈ tools)
    (harmless : destructive tool.annotations = false) : Lists raw tool.name := by
  obtain ⟨items, sequence, normalized⟩ := bind_ok normalized
  obtain ⟨item, inside, names, made⟩ := normalizeTools_mem normalized member
  obtain ⟨mapping, mapped, named, annotated⟩ := normalizeTool_ok made
  exact ⟨items, mapping, tool.annotations, sequence, ⟨item, inside, mapped⟩, named, annotated, harmless⟩

variable {client : RobinhoodReadOnlyMcpClient}

open RobinhoodReadOnlyMcpClient

theorem sideEffectFree_harmless {capability : Capability} {tool : McpToolDefinition}
    (free : client.sideEffectFree capability tool = true) :
    destructive tool.annotations = false := by
  unfold sideEffectFree at free
  split at free <;> simpa using (Bool.and_eq_true_iff.mp free).2

/-- One turn of the loop adds at most one descriptor, of a tool found under an alias. -/
theorem discover_vouched {flow : Bool} {raw : Value} {tools : List McpToolDefinition}
    (normalized : normalizeToolList client.py raw = .ok tools) {found found' : Discovery}
    {capability : Capability} (turn : client.discover flow tools found capability = .ok found')
    (before : Vouched found.descriptors raw) : Vouched found'.descriptors raw := by
  unfold discover at turn
  split at turn
  · cases turn
    exact before
  · split at turn
    · split at turn
      · cases turn
        exact before
      · cases turn
        exact before
    next tool chosen =>
      obtain ⟨schemaHash, -, made⟩ := bind_ok turn
      cases made
      obtain ⟨name, alias_, named⟩ := List.exists_of_findSome?_eq_some chosen
      have same : tool.name = name := by simpa using List.find?_some named
      intro d member
      rcases List.mem_append.mp member with old | new
      · exact before d old
      · obtain rfl := List.mem_singleton.mp new
        refine ⟨same ▸ alias_, fun free => ?_⟩
        exact lists_of_mem normalized (List.mem_of_find?_eq_some named) (sideEffectFree_harmless free)

theorem discovery_vouched {flow : Bool} {raw : Value} {tools : List McpToolDefinition}
    (normalized : normalizeToolList client.py raw = .ok tools) {capabilities : List Capability}
    {found found' : Discovery}
    (loop : capabilities.foldlM (client.discover flow tools) found = .ok found')
    (before : Vouched found.descriptors raw) : Vouched found'.descriptors raw := by
  induction capabilities generalizing found with
  | nil =>
    cases loop
    exact before
  | cons capability rest ih =>
    obtain ⟨next, turn, loop⟩ := bind_ok loop
    exact ih loop (discover_vouched normalized turn before)

end Discovering

/-! ### Every run -/

namespace RobinhoodReadOnlyMcpClient

/-- Capabilities that were discovered from one of these listings. -/
def Grounded (capabilities : DiscoveredCapabilities) (listed : List Value) : Prop :=
  ∃ raw ∈ listed, Vouched capabilities.descriptors raw

/-- Every call is a lane of its own. What is known of the client is grounded in what was
listed, and listings are only ever added. -/
def callLanes (client : RobinhoodReadOnlyMcpClient) :
    Concurrent.Discipline ReadState Exc ReadAns ReadReply ReadCall ℕ where
  lane := fun i _ => i
  I := fun g => ∀ capabilities, g.capabilities = some capabilities → Grounded capabilities g.listed
  G := fun g g' => g.listed ⊆ g'.listed
  R := fun _ g g' => g.listed ⊆ g'.listed
  issue := fun _ h op g => (∀ item ∈ h, item.op.Allowed client g.listed) ∧ op.Allowed client g.listed
  free := fun _ h g => ∀ item ∈ h, item.op.Allowed client g.listed
  post := fun _ _ _ _ => True

section Lanes

variable {client : RobinhoodReadOnlyMcpClient} {i : ℕ} {h : List (Done Exc ReadAns)}
  {g g' : ReadState} {α β : Type}

theorem Grounded.mono {capabilities : DiscoveredCapabilities} {listed listed' : List Value}
    (grounded : Grounded capabilities listed) (more : listed ⊆ listed') :
    Grounded capabilities listed' := by
  obtain ⟨raw, member, vouched⟩ := grounded
  exact ⟨raw, more member, vouched⟩

theorem allowed_mono {op : ReadOp} {listed listed' : List Value}
    (allowed : op.Allowed client listed) (more : listed ⊆ listed') : op.Allowed client listed' := by
  cases op with
  | listTools => trivial
  | callTool name arguments =>
    obtain ⟨declared, ⟨raw, member, lists⟩, reads⟩ := allowed
    exact ⟨declared, ⟨raw, more member, lists⟩, reads⟩

/-- Everything a lane has asked for so far was allowed, and the invariant holds. -/
structure Sound (client : RobinhoodReadOnlyMcpClient) (h : List (Done Exc ReadAns)) (g : ReadState) :
    Prop where
  grounded : client.callLanes.I g
  allowed : ∀ item ∈ h, item.op.Allowed client g.listed

theorem performs_listed {op : ReadOp} {r : Except Exc (ReadAns op)}
    (performed : client.facade.performs op g r g') : g.listed ⊆ g'.listed := by
  cases op with
  | listTools =>
    cases r with
    | ok raw =>
      rw [show g' = { g with listed := g.listed ++ [raw] } from performed]
      exact List.subset_append_left _ _
    | error e =>
      rw [show g' = g from performed]
      exact fun _ member => member
  | callTool name arguments =>
    rw [show g' = g from performed]
    exact fun _ member => member

theorem performs_grounded {op : ReadOp} {r : Except Exc (ReadAns op)}
    (performed : client.facade.performs op g r g') (before : client.callLanes.I g) :
    client.callLanes.I g' := by
  intro capabilities known
  have same : g'.capabilities = g.capabilities := by
    cases op with
    | listTools => cases r <;> cases performed <;> rfl
    | callTool name arguments =>
      rw [show g' = g from performed]
  exact (before capabilities (same ▸ known)).mono (performs_listed performed)

theorem Sound.awaited {op : ReadOp} {r : Except Exc (ReadAns op)} (sound : Sound client h g)
    (allowed : op.Allowed client g.listed)
    (relied : client.facade.Relied client.callLanes.I (client.callLanes.R i) op g r g') :
    Sound client (h ++ [⟨op, r⟩]) g' := by
  have more : g.listed ⊆ g'.listed := by
    cases relied with
    | performed before _ performed after _ =>
      exact fun _ member => after (performs_listed performed (before member))
    | interrupted _ moved _ => exact moved
    | cutOff _ before _ performed after _ =>
      exact fun _ member => after (performs_listed performed (before member))
  have then_ : client.callLanes.I g' := by
    cases relied with
    | performed _ _ _ _ then_ => exact then_
    | interrupted _ _ then_ => exact then_
    | cutOff _ _ _ _ _ then_ => exact then_
  refine ⟨then_, fun item member => ?_⟩
  rcases List.mem_append.mp member with old | new
  · exact allowed_mono (sound.allowed item old) more
  · obtain rfl := List.mem_singleton.mp new
    exact allowed_mono allowed more

/-- An answered listing is among the listings. -/
theorem listed_of_relied {raw : Value}
    (relied : client.facade.Relied client.callLanes.I (client.callLanes.R i) .listTools g (.ok raw) g') :
    raw ∈ g'.listed := by
  cases relied with
  | performed before _ performed after _ =>
    cases performed
    exact after (List.mem_append_right _ List.mem_cons_self)

theorem sat_discoverCapabilities {Q : Post ReadState Exc ReadAns DiscoveredCapabilities}
    (sound : Sound client h g) (failed : ∀ h g e, Sound client h g → Q h g (.error e))
    (found : ∀ h g capabilities, Sound client h g → Grounded capabilities g.listed →
      Q h g (.ok capabilities)) :
    Sat (client.facade.spec client.callLanes i) Q client.discoverCapabilities h g := by
  have listing : ReadOp.listTools.Allowed client g.listed := trivial
  refine Sat.call_bind ⟨sound.grounded, sound.allowed, listing⟩
    (fun e g' relied => failed _ _ _ (sound.awaited listing relied)) fun raw g' relied => ?_
  have sound' := sound.awaited listing relied
  refine Sat.lift_bind (fun e _ => failed _ _ _ sound') fun tools normalized => ?_
  refine Sat.change_bind (Sat.lift_bind (fun e _ => failed _ _ _ ?_) fun discovery loop => ?_)
  · exact ⟨sound'.grounded, sound'.allowed⟩
  · refine Sat.peek_bind (Sat.change_bind ?_)
    have grounded : Grounded (client.capabilitiesOf
        (client.accountResponseAdapter.isSome || tools.any fun tool =>
          tool.name == "get_accounts" || tool.name == "get_portfolio") discovery g'.now) g'.listed :=
      ⟨raw, listed_of_relied relied, discovery_vouched normalized loop nofun⟩
    refine found _ _ _ ⟨?_, sound'.allowed⟩ grounded
    intro capabilities known
    cases known
    exact grounded

theorem sat_getCapabilities {f : DiscoveredCapabilities → ReadProgram α}
    {Q : Post ReadState Exc ReadAns α} (sound : Sound client h g)
    (failed : ∀ h g e, Sound client h g → Q h g (.error e))
    (rest : ∀ h g capabilities, Sound client h g → Grounded capabilities g.listed →
      Sat (client.facade.spec client.callLanes i) Q (f capabilities) h g) :
    Sat (client.facade.spec client.callLanes i) Q (client.getCapabilities >>= f) h g := by
  rw [sat_bind]
  unfold getCapabilities
  apply Sat.peek_bind
  split
  next capabilities known =>
    exact rest _ _ _ sound (sound.grounded capabilities known)
  · exact sat_discoverCapabilities sound failed rest

theorem descriptorFor_mem {capabilities : DiscoveredCapabilities} {capability : Capability}
    {descriptor : DiscoveredDescriptor}
    (found : capabilities.descriptorFor capability = some descriptor) :
    descriptor ∈ capabilities.descriptors ∧ descriptor.capability = capability := by
  refine ⟨List.mem_of_find?_eq_some found, ?_⟩
  have matches_ := List.find?_some found
  simp only [Bool.and_eq_true, beq_iff_eq] at matches_
  exact matches_.1

theorem mem_readAliases {capability : Capability} {name : String} (reads : capability.isRead = true)
    (alias_ : name ∈ capability.aliases) : name ∈ readAliases := by
  refine List.mem_flatMap.mpr ⟨capability, List.mem_filter.mpr ⟨?_, reads⟩, alias_⟩
  cases capability <;> decide

/-- The tool behind a descriptor that passes the checks of `_call_allowed` is confined. -/
theorem confined_of_descriptor {capabilities : DiscoveredCapabilities} {capability : Capability}
    {descriptor : DiscoveredDescriptor} {listed : List Value}
    (grounded : Grounded capabilities listed)
    (allowlisted : (!capability.isRead && capability != .reviewOptionOrder) = false)
    (found : capabilities.descriptorFor capability = some descriptor)
    (free : descriptor.sideEffectFree = true)
    (safe : (capability == .reviewOptionOrder &&
      !client.safeReviewTools.contains descriptor.toolName) = false)
    (reads : writeToolNames.contains descriptor.toolName = false) :
    Confined client descriptor.toolName listed := by
  obtain ⟨raw, member, vouched⟩ := grounded
  obtain ⟨described, same⟩ := descriptorFor_mem found
  obtain ⟨alias_, lists⟩ := vouched descriptor described
  rw [same] at alias_
  refine ⟨?_, ⟨raw, member, lists free⟩, ?_⟩
  · by_cases review : capability = .reviewOptionOrder
    · subst review
      exact Or.inr ⟨alias_, by simpa using safe⟩
    · refine Or.inl (mem_readAliases ?_ alias_)
      simpa [review] using allowlisted
  · intro write
    rw [List.contains_iff_mem.mpr write] at reads
    cases reads

theorem sat_callAllowed {capability : Capability} {arguments : Value}
    {f : ToolResult → ReadProgram α} {Q : Post ReadState Exc ReadAns α} (sound : Sound client h g)
    (failed : ∀ h g e, Sound client h g → Q h g (.error e))
    (rest : ∀ h g result, Sound client h g →
      Sat (client.facade.spec client.callLanes i) Q (f result) h g) :
    Sat (client.facade.spec client.callLanes i) Q (client.callAllowed capability arguments >>= f) h g := by
  rw [sat_bind]
  refine Sat.raiseIf_bind (fun _ => failed _ _ _ sound) fun allowlisted => ?_
  refine sat_getCapabilities sound failed fun h g capabilities sound grounded => ?_
  split
  · exact failed _ _ _ sound
  next descriptor found =>
    refine Sat.raiseIf_bind (fun _ => failed _ _ _ sound) fun free => ?_
    refine Sat.raiseIf_bind (fun _ => failed _ _ _ sound) fun safe => ?_
    refine Sat.raiseIf_bind (fun _ => failed _ _ _ sound) fun reads => ?_
    have confined := confined_of_descriptor grounded allowlisted found (by simpa using free) safe reads
    have handled : ∀ h g e, Sound client h g →
        Sat (client.facade.spec client.callLanes i) 
          (Post.before (client.facade.spec client.callLanes i) Q f) (callFailed capability e) h g := by
      intro h g e sound
      unfold callFailed
      split
      · exact failed _ _ _ sound
      · split
        · exact failed _ _ _ sound
        · exact failed _ _ _ sound
    rw [sat_attempt]
    refine Sat.lift_bind (fun e _ => handled _ _ _ sound) fun validated _ => ?_
    have calling : (ReadOp.callTool descriptor.toolName validated).Allowed client g.listed := confined
    refine Sat.call_bind ⟨sound.grounded, sound.allowed, calling⟩ (fun e g' relied => ?_)
      fun result g' relied => ?_
    · exact handled _ _ _ (sound.awaited calling relied)
    · have sound' := sound.awaited calling relied
      refine Sat.lift_bind (fun e _ => handled _ _ _ sound') fun _ _ => rest _ _ _ sound'

theorem sat_getPortfolio {adapter : AccountResponseAdapter} {selection : SelectedAgenticAccount}
    {selectionHash : String} {Q : Post ReadState Exc ReadAns AccountSnapshot}
    (sound : Sound client h g) (ended : ∀ h g r, Sound client h g → Q h g r) :
    Sat (client.facade.spec client.callLanes i) Q
      (client.getPortfolio adapter selection selectionHash) h g := by
  refine sat_getCapabilities sound (fun _ _ _ => ended _ _ _) fun h g capabilities sound _ => ?_
  split
  · exact ended _ _ _ sound
  · refine Sat.lift_bind (fun _ _ => ended _ _ _ sound) fun arguments _ => ?_
    refine sat_callAllowed sound (fun _ _ _ => ended _ _ _) fun h g portfolio sound => ?_
    refine Sat.lift_bind (fun _ _ => ended _ _ _ sound) fun payload _ => ?_
    refine Sat.lift_bind (fun _ _ => ended _ _ _ sound) fun normalized _ => Sat.peek_bind ?_
    refine Sat.lift_bind (fun _ _ => ended _ _ _ sound) fun snapshot _ => ?_
    refine Sat.raiseIf_bind (fun _ => ended _ _ _ sound) fun _ => Sat.change_bind ?_
    exact ended _ _ _ ⟨sound.grounded, sound.allowed⟩

theorem sat_getSelectedAccount {adapter : AccountResponseAdapter}
    {Q : Post ReadState Exc ReadAns AccountSnapshot} (sound : Sound client h g)
    (ended : ∀ h g r, Sound client h g → Q h g r) :
    Sat (client.facade.spec client.callLanes i) Q (client.getSelectedAccount adapter) h g := by
  refine sat_callAllowed sound (fun _ _ _ => ended _ _ _) fun h g accounts sound => ?_
  refine Sat.lift_bind (fun _ _ => ended _ _ _ sound) fun payload _ => ?_
  refine Sat.lift_bind (fun _ _ => ended _ _ _ sound) fun selected _ => ?_
  split
  · exact ended _ _ _ sound
  · refine Sat.lift_bind (fun _ _ => ended _ _ _ sound) fun selectionHash _ => Sat.peek_bind ?_
    refine Sat.raiseIf_bind (fun _ => ended _ _ _ sound) fun _ => ?_
    exact sat_getPortfolio sound ended

theorem sat_getAccountState {Q : Post ReadState Exc ReadAns AccountSnapshot}
    (sound : Sound client h g) (ended : ∀ h g r, Sound client h g → Q h g r) :
    Sat (client.facade.spec client.callLanes i) Q client.getAccountState h g := by
  refine sat_getCapabilities sound (fun _ _ _ => ended _ _ _) fun h g _ sound _ => Sat.peek_bind ?_
  split
  · split
    · exact ended _ _ _ sound
    · exact sat_getSelectedAccount sound ended
  · refine sat_callAllowed sound (fun _ _ _ => ended _ _ _) fun h g payload sound => Sat.peek_bind ?_
    exact (sat_lift _).mpr (ended _ _ _ sound)

theorem sat_reviewOptionOrder {proposal : TradeProposal} {Q : Post ReadState Exc ReadAns BrokerReview}
    (sound : Sound client h g) (ended : ∀ h g r, Sound client h g → Q h g r) :
    Sat (client.facade.spec client.callLanes i) Q (client.reviewOptionOrder proposal) h g := by
  refine sat_getCapabilities sound (fun _ _ _ => ended _ _ _) fun h g capabilities sound _ => ?_
  split
  · exact ended _ _ _ sound
  · refine Sat.lift_bind (fun _ _ => ended _ _ _ sound) fun arguments _ => ?_
    refine Sat.lift_bind (fun _ _ => ended _ _ _ sound) fun validated _ => ?_
    refine sat_callAllowed sound (fun _ _ _ => ended _ _ _) fun h g payload sound => Sat.peek_bind ?_
    exact (sat_lift _).mpr (ended _ _ _ sound)

theorem sat_serve (c : ReadCall) {Q : Post ReadState Exc ReadAns ReadReply}
    (sound : Sound client h g) (ended : ∀ h g r, Sound client h g → Q h g r) :
    Sat (client.facade.spec client.callLanes i) Q (client.serve c) h g := by
  -- the reply is wrapped at the end, which asks for nothing
  have wrapped : ∀ {α : Type} {wrap : α → ReadReply} h g (r : Except Exc α), Sound client h g →
      Post.before (client.facade.spec client.callLanes i) Q
        (fun a => (pure (wrap a) : ReadProgram ReadReply)) h g r := by
    intro α wrap h g r sound
    cases r with
    | ok a => exact ended _ _ _ sound
    | error e => exact ended _ _ _ sound
  cases c with
  | getCapabilities =>
    exact sat_getCapabilities sound (fun _ _ _ => ended _ _ _) fun h g _ sound _ => ended _ _ _ sound
  | discoverCapabilities =>
    exact (sat_bind _ _ _).mpr (sat_discoverCapabilities sound (fun _ _ _ => wrapped _ _ _)
      fun _ _ _ sound _ => wrapped _ _ _ sound)
  | getAccountState => exact (sat_bind _ _ _).mpr (sat_getAccountState sound wrapped)
  | getPositions =>
    refine (sat_bind _ _ _).mpr (sat_callAllowed sound (fun _ _ _ => wrapped _ _ _) ?_)
    exact fun h g payload sound => Sat.peek_bind ((sat_lift _).mpr (wrapped _ _ _ sound))
  | getOrders =>
    refine (sat_bind _ _ _).mpr (sat_callAllowed sound (fun _ _ _ => wrapped _ _ _) ?_)
    exact fun h g payload sound => Sat.peek_bind ((sat_lift _).mpr (wrapped _ _ _ sound))
  | reviewOptionOrder proposal => exact (sat_bind _ _ _).mpr (sat_reviewOptionOrder sound wrapped)
  | validateCommand command =>
    refine (sat_bind _ _ _).mpr (sat_getCapabilities sound (fun _ _ _ => wrapped _ _ _) ?_)
    exact fun h g capabilities sound _ => (sat_lift _).mpr (wrapped _ _ _ sound)

end Lanes

/-! The client itself never touches the record of listings. -/

section Updates

variable {client : RobinhoodReadOnlyMcpClient} {J : List Value → Prop} {α : Type}

theorem keeps_discoverCapabilities : Keeps (fun g => J g.listed) client.discoverCapabilities := by
  refine (keeps_call _).bind fun raw => (keeps_lift _).bind fun tools =>
    (keeps_change fun _ kept => kept).bind fun _ => (keeps_lift _).bind fun found =>
      (keeps_peek _).bind fun now => ?_
  exact (keeps_change fun _ kept => kept).bind fun _ => keeps_pure _

theorem keeps_getCapabilities : Keeps (fun g => J g.listed) client.getCapabilities := by
  refine (keeps_peek _).bind fun known => ?_
  split
  · exact keeps_pure _
  · exact keeps_discoverCapabilities

theorem keeps_callAllowed (capability : Capability) (arguments : Value) :
    Keeps (fun g => J g.listed) (client.callAllowed capability arguments) := by
  refine (keeps_raiseIf _ _).bind fun _ => keeps_getCapabilities.bind fun capabilities => ?_
  split
  · exact keeps_raise _
  · refine (keeps_raiseIf _ _).bind fun _ => (keeps_raiseIf _ _).bind fun _ =>
      (keeps_raiseIf _ _).bind fun _ => Keeps.attempt ?_ fun e => ?_
    · exact (keeps_lift _).bind fun _ => (keeps_call _).bind fun _ =>
        (keeps_lift _).bind fun _ => keeps_pure _
    · unfold callFailed
      split
      · exact keeps_raise _
      · split
        · exact keeps_raise _
        · exact keeps_raise _

theorem keeps_getAccountState : Keeps (fun g => J g.listed) client.getAccountState := by
  refine keeps_getCapabilities.bind fun _ => (keeps_peek _).bind fun flow => ?_
  split
  · split
    · exact keeps_raise _
    · refine (keeps_callAllowed _ _).bind fun accounts => (keeps_lift _).bind fun payload =>
        (keeps_lift _).bind fun selected => ?_
      split
      · exact keeps_raise _
      · refine (keeps_lift _).bind fun _ => (keeps_peek _).bind fun _ =>
          (keeps_raiseIf _ _).bind fun _ => keeps_getCapabilities.bind fun capabilities => ?_
        split
        · exact keeps_raise _
        · refine (keeps_lift _).bind fun _ => (keeps_callAllowed _ _).bind fun _ =>
            (keeps_lift _).bind fun _ => (keeps_lift _).bind fun _ => (keeps_peek _).bind fun _ =>
              (keeps_lift _).bind fun _ => (keeps_raiseIf _ _).bind fun _ => ?_
          exact (keeps_change fun _ kept => kept).bind fun _ => keeps_pure _
  · exact (keeps_callAllowed _ _).bind fun _ => (keeps_peek _).bind fun _ => keeps_lift _

theorem keeps_reviewOptionOrder (proposal : TradeProposal) :
    Keeps (fun g => J g.listed) (client.reviewOptionOrder proposal) := by
  refine keeps_getCapabilities.bind fun capabilities => ?_
  split
  · exact keeps_raise _
  · exact (keeps_lift _).bind fun _ => (keeps_lift _).bind fun _ =>
      (keeps_callAllowed _ _).bind fun _ => (keeps_peek _).bind fun _ => keeps_lift _

theorem keeps_serve (c : ReadCall) : Keeps (fun g => J g.listed) (client.serve c) := by
  cases c with
  | getCapabilities => exact keeps_getCapabilities.bind fun _ => keeps_pure _
  | discoverCapabilities => exact keeps_discoverCapabilities.bind fun _ => keeps_pure _
  | getAccountState => exact keeps_getAccountState.bind fun _ => keeps_pure _
  | getPositions =>
    exact ((keeps_callAllowed _ _).bind fun _ => (keeps_peek _).bind fun _ => keeps_lift _).bind
      fun _ => keeps_pure _
  | getOrders =>
    exact ((keeps_callAllowed _ _).bind fun _ => (keeps_peek _).bind fun _ => keeps_lift _).bind
      fun _ => keeps_pure _
  | reviewOptionOrder proposal => exact (keeps_reviewOptionOrder proposal).bind fun _ => keeps_pure _
  | validateCommand command =>
    exact (keeps_getCapabilities.bind fun _ => keeps_lift _).bind fun _ => keeps_pure _

end Updates

theorem callLanes_sound (client : RobinhoodReadOnlyMcpClient) :
    client.facade.Sound client.callLanes where
  G_refl := fun g => List.Subset.refl g.listed
  G_trans := fun first second => List.Subset.trans first second
  R_refl := fun _ g => List.Subset.refl g.listed
  R_trans := fun first second => List.Subset.trans first second
  event := by
    rintro g g' ⟨now, rfl⟩ invariant
    exact ⟨invariant, List.Subset.refl _, fun _ => List.Subset.refl _⟩
  perform := fun _ invariant performed =>
    ⟨performs_grounded performed invariant, performs_listed performed,
      fun _ _ => performs_listed performed⟩
  moves := fun c g => keeps_serve (J := fun listed => g.listed ⊆ listed) c
  spares := fun i c κ _ g => keeps_serve (J := fun listed => g.listed ⊆ listed) c
  issue_stable := fun issue more =>
    ⟨fun item member => allowed_mono (issue.1 item member) more, allowed_mono issue.2 more⟩
  free_stable := fun free more item member => allowed_mono (free item member) more
  post_stable := fun _ _ => trivial
  admitted := by
    intro i c s vacant _ _
    refine Or.inl fun j m found same => ?_
    obtain rfl : j = i := same
    cases vacant.symm.trans found
  sat := fun {i c h g} invariant free => sat_serve c ⟨invariant, free⟩ fun h g r sound =>
    ⟨sound.grounded, sound.allowed, trivial⟩

/-- Whatever the server lists, whatever the account adapter does and however calls interleave,
every tool the client calls is a declared read tool or an allowed review tool, was listed as
not destructive, and is none that places or cancels. -/
theorem calls_confined (client : RobinhoodReadOnlyMcpClient) {now : Time} {s : ReadCrew}
    (run : client.facade.Reachable { now } s) (x : Asked ReadOp ReadCall) (member : x ∈ s.asked) :
    x.op.Allowed client s.state.listed := by
  have initially : client.callLanes.I { now } := by
    intro capabilities known
    cases known
  have consistent := run.consistent (callLanes_sound client) initially fun _ => by
    intro item member
    cases member
  have logged : x.op ∈ Concurrent.askedIn client.callLanes x.index s :=
    List.mem_map_of_mem (List.mem_filter.mpr ⟨member, decide_eq_true rfl⟩)
  cases consistent.lanes x.index with
  | busy i m h found mine alone log poised =>
    obtain ⟨g₀, ⟨earlier, last⟩, more⟩ := poised.asked
    rw [log] at logged
    rcases List.mem_append.mp logged with old | new
    · obtain ⟨item, inside, same⟩ := List.mem_map.mp old
      exact same ▸ allowed_mono (earlier item inside) more
    · rw [List.mem_singleton.mp new]
      exact allowed_mono last more
  | quiet h clear log free =>
    rw [log] at logged
    obtain ⟨item, inside, same⟩ := List.mem_map.mp logged
    exact same ▸ free item inside

end RobinhoodReadOnlyMcpClient

/-! ### A sample server -/

namespace ReadSample

def client : RobinhoodReadOnlyMcpClient where
  py :=
    { str := fun _ => ""
      repr := fun _ => ""
      strip := id
      upper := id
      int := fun _ => .error (.typeError "")
      decimal := fun _ => .invalidOperation
      loads := fun _ => .decodeError
      text := fun _ => ""
      sha256Json := fun _ => .ok "digest" }
  validate := fun _ arguments => .ok arguments
  readers :=
    { account := fun _ _ => .error (.dataInvalid "")
      positions := fun _ _ => .ok []
      orders := fun _ _ => .ok []
      review := fun _ _ _ => .error (.dataInvalid "")
      selectionHash := fun _ => .ok ""
      proposalArguments := fun _ schema => .ok schema
      validateCommand := fun _ _ => .ok (.mapping []) }

/-- A listing with a read tool, and a tool that places orders. -/
def listing : Value :=
  .json (.obj [("tools", .arr
    [.obj [("name", .str "get_positions"), ("annotations", .obj [("destructiveHint", .bool false)])],
     .obj [("name", .str "place_option_order")]])])

def handler : (op : ReadOp) → ReadState → Except Exc (ReadAns op) × ReadState
  | .listTools, g => (.ok listing, { g with listed := g.listed ++ [listing] })
  | .callTool _ _, g => (.error .timeout, g)

/-- The positions are asked for, and the server is listed first. -/
def run : ReadCrew :=
  ((Crew.idle { now := 0 }).start 0 .getPositions (client.serve .getPositions)).turn handler 0

theorem handler_conforms (op : ReadOp) (g : ReadState) :
    client.facade.performs op g (handler op g).1 (handler op g).2 := by
  cases op <;> rfl

theorem reachable_run : client.facade.Reachable { now := 0 } run := by
  have started : client.facade.Reachable { now := 0 }
      ((Crew.idle { now := 0 }).start 0 .getPositions (client.serve .getPositions)) :=
    Concurrent.Reachable.start (W := client.facade) .refl 0 .getPositions trivial
  exact started.turn handler_conforms 0

def calledTool (x : Asked ReadOp ReadCall) : String :=
  match x.op with
  | .callTool name _ => name
  | .listTools => ""

theorem called_run : run.asked.map calledTool = ["", "get_positions"] := by decide +kernel

end ReadSample

/-- The positions are read with a listed tool. -/
theorem calls_confined_positions :
    ∃ x ∈ ReadSample.run.asked, ReadSample.calledTool x = "get_positions" ∧
      x.op.Allowed ReadSample.client ReadSample.run.state.listed := by
  have called : "get_positions" ∈ ReadSample.run.asked.map ReadSample.calledTool := by
    rw [ReadSample.called_run]
    simp
  obtain ⟨x, member, named⟩ := List.mem_map.mp called
  exact ⟨x, member, named, RobinhoodReadOnlyMcpClient.calls_confined ReadSample.client
    ReadSample.reachable_run x member⟩

end Sentry
