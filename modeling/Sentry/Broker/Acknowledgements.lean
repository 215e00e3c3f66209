import Sentry.Broker.AdapterWrites
import Sentry.Support.Attempts

/-!
# What the live adapter knows of an order

An acknowledgement replaces what was known of an order by what its payload says, and a
cancellation marks its target as being written before anybody has allowed it. Stated here is what
of the earlier knowledge is kept, and exactly when.
-/
namespace Sentry

open Support Coroutine RobinhoodMcp

namespace RobinhoodMcp

/-! ### Acknowledgements -/

/-- The identifier a payload gives to an order, if it names one. -/
def namedId (data : Json) : Option Json := first data ["broker_order_id", "order_id", "id"]

/-- Whether a payload gives an average price. -/
def givesAverage (data : Json) : Bool :=
  match first data ["average_fill_price", "average_price"] with
  | none => false
  | some (.str "") => false
  | some _ => true

/-- The filled quantity that a payload reports, if it reports one. -/
def reportedFill (py : Builtins) (data : Json) : Option ℤ :=
  (first data ["filled_quantity", "cumulative_quantity"]).bind fun value => (py.int value).toOption

/-- What was known of an order is still known, and the order is within its bounds. -/
structure KeepsKnowledge (data : Json) (fallback parsed : BrokerOrder) : Prop where
  filled : fallback.filledQuantity ≤ parsed.filledQuantity
  brokerOrderId : namedId data = none → parsed.brokerOrderId = fallback.brokerOrderId
  average : givesAverage data = false → parsed.averageFillPrice = fallback.averageFillPrice
  nonneg : 0 ≤ parsed.filledQuantity
  bounded : parsed.filledQuantity ≤ parsed.quantity

/-- A payload that repeats what is known of an order. A filled quantity that is left out is
read as none. -/
structure Repeats (py : Builtins) (data : Json) (fallback : BrokerOrder) : Prop where
  brokerOrderId : fallback.brokerOrderId = none ∨ namedId data ≠ none
  average : fallback.averageFillPrice = none ∨ givesAverage data = true
  filled : fallback.filledQuantity ≤ (reportedFill py data).getD 0
  nonneg : 0 ≤ (reportedFill py data).getD 0
  bounded : (reportedFill py data).getD 0 ≤ fallback.quantity

section Reading

variable {py : Builtins} {data : Json}

theorem intFrom_eq_reportedFill {filled : ℤ}
    (read : intFrom py data ["filled_quantity", "cumulative_quantity"] 0 = .ok filled) :
    filled = (reportedFill py data).getD 0 := by
  simp only [intFrom] at read
  simp only [reportedFill]
  split at read
  next missing =>
    cases read
    simp [missing]
  next value given =>
    split at read
    next n converted =>
      cases read
      simp [given, converted, Except.toOption]
    · cases read
    · cases read

theorem averageFrom_eq_none {average : Option ℚ} (read : averageFrom py data = .ok average) :
    givesAverage data = false ↔ average = none := by
  cases given : first data ["average_fill_price", "average_price"] with
  | none =>
    simp only [averageFrom, given] at read
    cases read
    simp [givesAverage, given]
  | some value =>
    by_cases blank : value = .str ""
    · simp only [averageFrom, given, blank] at read
      cases read
      simp [givesAverage, given, blank]
    · have gives : givesAverage data = true := by
        simp [givesAverage, given]
      have reads : averageFrom py data = (toDecimal py value).map some := by
        simp [averageFrom, given]
      rw [reads] at read
      cases price : toDecimal py value with
      | error e =>
        rw [price] at read
        cases read
      | ok q =>
        rw [price] at read
        cases read
        simp [gives]

end Reading

/-- What an accepted acknowledgement says, field by field. -/
theorem readAck_ok {py : Builtins} {raw : ToolResult} {data : Json} {ack : Acknowledgement}
    (unwrapped : unwrapMapping py raw ["order", "option_order"] = .ok data)
    (read : readAck py raw = .ok ack) :
    ack.brokerOrderId = (namedId data).map py.str ∧
      ack.filledQuantity = (reportedFill py data).getD 0 ∧
      (givesAverage data = false ↔ ack.averageFillPrice = none) := by
  obtain ⟨data', unwrapped', read⟩ := bind_ok read
  rw [unwrapped] at unwrapped'
  cases unwrapped'
  obtain ⟨state, -, read⟩ := bind_ok read
  obtain ⟨filled, filledRead, read⟩ := bind_ok read
  obtain ⟨average, averageRead, read⟩ := bind_ok read
  cases read
  exact ⟨rfl, intFrom_eq_reportedFill filledRead, averageFrom_eq_none averageRead⟩

/-- An accepted acknowledgement keeps what was known of its order if and only if its payload
repeats it. -/
theorem parseOrderAck_keeps_iff (py : Builtins) (raw : ToolResult) (fallback parsed : BrokerOrder)
    (data : Json) (unwrapped : unwrapMapping py raw ["order", "option_order"] = .ok data)
    (ok : parseOrderAck py raw fallback = .ok parsed) :
    KeepsKnowledge data fallback parsed ↔ Repeats py data fallback := by
  obtain ⟨ack, read, rfl⟩ : ∃ ack, readAck py raw = .ok ack ∧ ack.applyTo fallback = parsed := by
    cases read : readAck py raw with
    | error e => simp [parseOrderAck, read, Except.map] at ok
    | ok ack => exact ⟨ack, rfl, by simpa [parseOrderAck, read, Except.map] using ok⟩
  obtain ⟨idRead, filledRead, averageRead⟩ := readAck_ok unwrapped read
  constructor
  · intro keeps
    have kept := keeps.filled
    have nonneg := keeps.nonneg
    have bounded := keeps.bounded
    simp only [Acknowledgement.applyTo, filledRead] at kept nonneg bounded
    refine ⟨?_, ?_, kept, nonneg, bounded⟩
    · by_cases named : namedId data = none
      · -- without a name the identifier is erased
        have same := keeps.brokerOrderId named
        simp only [Acknowledgement.applyTo, idRead, named, Option.map_none] at same
        exact .inl same.symm
      · exact .inr named
    · cases given : givesAverage data with
      | true => exact .inr rfl
      | false =>
        have same := keeps.average given
        simp only [Acknowledgement.applyTo, averageRead.mp given] at same
        exact .inl same.symm
  · intro repeats
    refine ⟨?_, ?_, ?_, ?_, ?_⟩
    · simpa only [Acknowledgement.applyTo, filledRead] using repeats.filled
    · intro unnamed
      have unknown := repeats.brokerOrderId.resolve_right (not_not.mpr unnamed)
      simp [Acknowledgement.applyTo, idRead, unnamed, unknown]
    · intro absent
      have unknown : fallback.averageFillPrice = none := by
        rcases repeats.average with none_ | given
        · exact none_
        · rw [absent] at given
          cases given
      simp [Acknowledgement.applyTo, averageRead.mp absent, unknown]
    · simpa only [Acknowledgement.applyTo, filledRead] using repeats.nonneg
    · simpa only [Acknowledgement.applyTo, filledRead] using repeats.bounded

end RobinhoodMcp

/-! ### A sample acknowledgement -/

namespace AckSample

/-- The order of a placement that the broker has not answered yet. -/
def pending : BrokerOrder :=
  WriteSample.broker.localOrder (WriteSample.command .placeOptionOrder) WriteSample.contract 10

/-- The same order, filled at the broker before its cancellation got there. -/
def known : BrokerOrder :=
  { pending with
    brokerOrderId := some "rh-1", filledQuantity := 1, averageFillPrice := some 1 }

/-- A payload without a state, a name or numbers. -/
def bare : ToolResult := .json (.obj [("message", .str "received")])

/-- Built-ins that read the figures of the next payload. -/
def py : Builtins :=
  { WriteSample.broker.py with
    int := fun
      | .int n => .ok n
      | _ => .error (.typeError "")
    decimal := fun text => if text = "1.00" then .finite 1 else .invalidOperation }

/-- A payload that repeats what is known of the order. -/
def repeating : Json :=
  .obj [("state", .str "PENDING"), ("order_id", .str "rh-1"), ("filled_quantity", .int 1),
    ("average_price", .str "1.00")]

theorem repeating_repeats : Repeats py repeating known where
  brokerOrderId := .inr (by simp [namedId, repeating, first, Json.member, Json.isNull])
  average := .inr rfl
  filled := le_refl 1
  nonneg := by decide
  bounded := by decide

end AckSample

open AckSample in
theorem parseOrderAck_keeps_iff_known :
    ∃ parsed, parseOrderAck py (.json repeating) known = .ok parsed ∧
      KeepsKnowledge repeating known parsed ∧ parsed.state = .open_ :=
  ⟨_, rfl, (parseOrderAck_keeps_iff py (.json repeating) known _ repeating rfl rfl).mpr repeating_repeats, rfl⟩

/-- The acknowledgement of a cancellation that says nothing of the order erases its identifier,
its fills and their price. -/
theorem bare_acknowledgement_erases :
    ¬ ∀ (raw : ToolResult) (fallback parsed : BrokerOrder) (data : Json),
      unwrapMapping WriteSample.broker.py raw ["order", "option_order"] = .ok data →
        parseOrderAck WriteSample.broker.py raw fallback = .ok parsed →
          KeepsKnowledge data fallback parsed := by
  intro keeps
  have kept := keeps AckSample.bare AckSample.known _ _ rfl rfl
  exact absurd kept.filled (by decide)

namespace RobinhoodState

/-! ### Refused cancellations -/

/-- The broker's own identifiers among remote orders. -/
def brokerIds (remote : List BrokerOrder) : List String :=
  (remote.filterMap BrokerOrder.brokerOrderId).filter (· ≠ "")

/-- Whether the broker lists the order under the identifier it is known by. -/
def listed (remote : List BrokerOrder) (order : BrokerOrder) : Bool :=
  order.brokerOrderId.any fun id => (brokerIds remote).contains id

/-- `get_orders`: the orders of the broker, and those of the adapter whose outcome is open. -/
def getOrders (remote : List BrokerOrder) (b : RobinhoodState) : List BrokerOrder :=
  remote ++ b.localOrders.values.filter fun order =>
    !listed remote order && (order.state == .submitting || order.state == .submissionUnknown)

end RobinhoodState

namespace RobinhoodMcpBroker

variable (broker : RobinhoodMcpBroker)

/-- While a call waits, nothing but the call itself changes the registers of the adapter. -/
def undisturbed (op : Op) (g : Ambient RobinhoodState) (_ : Except Exc (Ans op))
    (g' : Ambient RobinhoodState) : Prop := g'.broker = g.broker

/-- The authorizer did not let the command through. -/
def Refuses (command : BrokerCommandIntent) (answer : Except Exc FirewallDecision) : Prop :=
  ∀ decision, answer = .ok decision → validateAuthorization decision command = .ok () →
    decision.disposition ≠ .authorizedLive

/-- The order a cancellation is about: a local one, or else one that the broker listed. -/
def Target (b : RobinhoodState) (h : History) (ref : OrderRef) (target : BrokerOrder) : Prop :=
  findLocalOrder ref b = some target ∨
    findLocalOrder ref b = none ∧
      ∃ remote, ⟨.getOrders, .ok remote⟩ ∈ h ∧ remote.find? (refersTo ref) = some target

/-- The adapter holds and lists the target as it did before. -/
def Unchanged (target : BrokerOrder) (b b' : RobinhoodState) : Prop :=
  b'.localOrders.get? target.orderId = b.localOrders.get? target.orderId ∧
    ∀ remote, (b'.getOrders remote).filter (fun order => order.orderId == target.orderId) =
      (b.getOrders remote).filter fun order => order.orderId == target.orderId

section Refusal

variable {broker} {command : BrokerCommandIntent} {ref : OrderRef} {h : History}
  {g : Ambient RobinhoodState} {α : Type}

abbrev alone : Spec (Ambient RobinhoodState) Exc Ans := ⟨fun _ _ _ => True, undisturbed⟩

/-- The operations that precede the look-up of the target. -/
def Preliminary : Op → Prop
  | .validateCommand _ | .recordCommand _ => True
  | _ => False

/-- Nothing was asked but preliminary operations, and the records of orders are as they were. -/
structure Prepared (orders : Dict UUID BrokerOrder) (h : History) (g : Ambient RobinhoodState) :
    Prop where
  quiet : ∀ item ∈ h, Preliminary item.op
  orders : g.broker.localOrders = orders

/-- If the authorizer was asked and refused, the target is now marked as being submitted. -/
def Marked (command : BrokerCommandIntent) (ref : OrderRef) (b : RobinhoodState) (h : History)
    (g : Ambient RobinhoodState) : Prop :=
  ∀ answer target, ⟨.authorize command, answer⟩ ∈ h → Refuses command answer →
    Target b h ref target →
      g.broker.localOrders = b.localOrders.set target.orderId (target.withState .submitting)

theorem Prepared.marked {b : RobinhoodState} {orders : Dict UUID BrokerOrder}
    (prepared : Prepared orders h g) : Marked command ref b h g :=
  fun _ _ asked => (prepared.quiet _ asked).elim

theorem Prepared.snoc {orders : Dict UUID BrokerOrder} (prepared : Prepared orders h g) {op : Op}
    {r : Except Exc (Ans op)} (preliminary : Preliminary op) {g' : Ambient RobinhoodState}
    (same : g'.broker = g.broker) : Prepared orders (h ++ [⟨op, r⟩]) g' where
  quiet := by
    intro item member
    rcases List.mem_append.mp member with old | new
    · exact prepared.quiet item old
    · rw [List.mem_singleton] at new
      exact new ▸ preliminary
  orders := by rw [same, prepared.orders]

/-- Recording the command touches no order. -/
theorem sat_recordBrokerCommandIntent {Q : Post (Ambient RobinhoodState) Exc Ans Unit}
    {orders : Dict UUID BrokerOrder} (prepared : Prepared orders h g)
    (ended : ∀ h' g' r, Prepared orders h' g' → Q h' g' r) :
    Sat alone Q (broker.recordBrokerCommandIntent command) h g := by
  have recorded : ∀ h' g', Prepared orders h' g' →
      Q h' (g'.adapt (RobinhoodState.record command)) (.ok ()) := by
    intro h' g' prepared'
    exact ended _ _ _ ⟨prepared'.quiet, prepared'.orders⟩
  have recording : Preliminary (.recordCommand command) := trivial
  unfold recordBrokerCommandIntent
  apply Sat.peek_bind
  apply Sat.lift_bind
  · intro e _
    exact ended _ _ _ prepared
  intro known _
  split
  · exact ended _ _ _ prepared
  · split
    · apply Sat.call_bind trivial
      · intro e g' same
        exact ended _ _ _ (prepared.snoc recording same)
      · intro _ g' same
        exact recorded _ _ (prepared.snoc recording same)
    · exact recorded _ _ prepared

/-- The authorizer is asked once the target is marked; a refusal ends the call as it is. -/
theorem sat_cancelAuthorized {b : RobinhoodState} {validated : Json} {target : BrokerOrder}
    (orders : g.broker.localOrders = b.localOrders)
    (unasked : ∀ answer, ⟨.authorize command, answer⟩ ∉ h)
    (only : ∀ rest other, (∀ item ∈ rest, ∀ remote, item ≠ ⟨.getOrders, remote⟩) →
      Target b (h ++ rest) ref other → other = target) :
    Sat alone (fun h' g' _ => Marked command ref b h' g')
      (broker.cancelAuthorized command validated target) h g := by
  -- what holds once the authorizer has answered
  have refused : ∀ (answer : Except Exc FirewallDecision) (rest : History) (g' : Ambient RobinhoodState),
      (∀ item ∈ rest, ∀ other, item ≠ ⟨.authorize command, other⟩) →
      (∀ item ∈ rest, ∀ remote, item ≠ ⟨.getOrders, remote⟩) →
      (Refuses command answer → g'.broker.localOrders =
        b.localOrders.set target.orderId (target.withState .submitting)) →
      Marked command ref b (h ++ ⟨.authorize command, answer⟩ :: rest) g' := by
    intro answer rest g' silent unlisted left answer' other asked refusal about
    have same : other = target := by
      refine only (⟨.authorize command, answer⟩ :: rest) other ?_ about
      intro item member remote
      rcases List.mem_cons.mp member with rfl | later
      · rintro ⟨⟩
      · exact unlisted item later remote
    subst same
    rcases List.mem_append.mp asked with old | new
    · exact absurd old (unasked answer')
    · rcases List.mem_cons.mp new with now | later
      · cases now
        exact left refusal
      · exact absurd rfl (silent _ later answer')
  unfold cancelAuthorized
  apply Sat.change_bind
  apply Sat.change_bind
  apply Sat.call_bind trivial
  · intro e g' same
    apply refused (.error e) [] g' (by simp) (by simp)
    intro _
    rw [same]
    simp [Ambient.adapt, RobinhoodState.keep, RobinhoodState.claim, orders, BrokerOrder.withState]
  intro authorization g' same
  have left : g'.broker.localOrders =
      b.localOrders.set target.orderId (target.withState .submitting) := by
    rw [same]
    simp [Ambient.adapt, RobinhoodState.keep, RobinhoodState.claim, orders, BrokerOrder.withState]
  apply Sat.lift_bind
  · intro e _
    exact refused (.ok authorization) [] g' (by simp) (by simp) fun _ => left
  intro _ valid
  split
  next denied => exact refused (.ok authorization) [] g' (by simp) (by simp) fun _ => left
  next granted =>
    -- the write itself asks for nothing but the transport, and no refusal precedes it
    have allowed : ¬ Refuses command (.ok authorization) := fun refusal =>
      granted (refusal authorization rfl valid)
    have written : ∀ (rest : History) (g' : Ambient RobinhoodState),
        (∀ item ∈ rest, item.op.isWrite = true) →
        Marked command ref b ((h ++ [⟨.authorize command, .ok authorization⟩]) ++ rest) g' := by
      intro rest g' writes
      rw [List.append_assoc]
      refine refused (.ok authorization) rest g' ?_ ?_ fun refusal => absurd refusal allowed
      · rintro item member other rfl
        exact absurd (writes _ member) (by simp [Op.isWrite])
      · rintro item member remote rfl
        exact absurd (writes _ member) (by simp [Op.isWrite])
    have emits : Emits (fun op => op.isWrite = true) (fun _ => True)
        (broker.write "broker may have received cancellation; reconciliation is mandatory" command
          validated (target.withState .submitting)) := by
      unfold write
      refine Emits.bind (Emits.attempt (emits_call rfl) fun e => ?_) fun raw _ => ?_
      · unfold writeFailed
        split
        · exact (emits_change _).bind fun _ _ => emits_raise _
        · exact emits_raise _
      · exact (emits_lift _).bind fun parsed _ => (emits_change _).bind fun _ _ => emits_done _
    apply emits.sat
    · exact fun _ _ _ _ _ => trivial
    · exact fun rest g' _ writes => written rest g' writes
    · exact fun rest g' _ writes _ => written rest g' writes

/-- Whatever becomes of a cancellation, a refusal leaves its target marked. -/
theorem sat_cancelOptionOrder_marked (b : RobinhoodState) (same : g.broker = b) :
    Sat alone (fun h' g' _ => Marked command ref b h' g') (broker.cancelOptionOrder command ref)
      [] g := by
  have start : Prepared b.localOrders [] g := ⟨by simp, by rw [same]⟩
  have validating : Preliminary (.validateCommand command) := trivial
  -- before the authorizer is asked nothing is refused
  unfold cancelOptionOrder
  apply Sat.raiseIf_bind
  · exact fun _ => start.marked
  intro _
  apply Sat.raiseIf_bind
  · exact fun _ => start.marked
  intro _
  apply Sat.peek_bind
  apply Sat.lift_bind
  · exact fun _ _ => start.marked
  intro duplicate _
  split
  · apply Sat.raiseIf_bind
    · exact fun _ => start.marked
    · exact fun _ => start.marked
  apply Sat.call_bind trivial
  · intro e g₁ same₁
    exact (start.snoc validating same₁).marked
  intro validated g₁ same₁
  have prepared₁ := start.snoc (r := .ok validated) validating same₁
  apply Sat.lift_bind
  · exact fun _ _ => prepared₁.marked
  intro _ _
  rw [sat_bind]
  apply sat_recordBrokerCommandIntent prepared₁
  intro h₂ g₂ r prepared₂
  cases r with
  | error e => exact prepared₂.marked
  | ok _ =>
    have unlisted : ∀ remote, ⟨.getOrders, remote⟩ ∉ h₂ := fun _ asked => prepared₂.quiet _ asked
    have unasked : ∀ answer, ⟨.authorize command, answer⟩ ∉ h₂ :=
      fun _ asked => prepared₂.quiet _ asked
    change Sat _ _ (cancelTarget ref >>= _) h₂ g₂
    rw [sat_bind]
    unfold cancelTarget
    apply Sat.peek_bind
    have known : findLocalOrder ref g₂.broker = findLocalOrder ref b := by
      simp only [findLocalOrder, prepared₂.orders]
    rw [known]
    cases found : findLocalOrder ref b with
    | some order =>
      -- a local order is the target, whatever list the broker would give
      apply sat_cancelAuthorized prepared₂.orders unasked
      intro rest other _ about
      rcases about with local_ | ⟨missing, -⟩
      · exact (Option.some.inj (found.symm.trans local_)).symm
      · rw [found] at missing
        cases missing
    | none =>
      apply Sat.call_bind trivial
      · intro e g₃ same₃ answer target asked
        rcases List.mem_append.mp asked with old | new
        · exact absurd old (unasked answer)
        · simp at new
      intro remote g₃ same₃
      have unasked₃ : ∀ answer, ⟨.authorize command, answer⟩ ∉
          h₂ ++ [⟨.getOrders, Except.ok remote⟩] := by
        intro answer asked
        rcases List.mem_append.mp asked with old | new
        · exact unasked answer old
        · simp at new
      split
      next order there =>
        apply sat_cancelAuthorized (by rw [same₃, prepared₂.orders]) unasked₃
        intro rest other silent about
        rcases about with local_ | ⟨-, remote', asked, there'⟩
        · rw [found] at local_
          cases local_
        · -- the list that was searched is the only one that was read
          rw [List.append_assoc] at asked
          rcases List.mem_append.mp asked with old | later
          · exact absurd old (unlisted _)
          · rcases List.mem_append.mp later with now | after
            · cases List.mem_singleton.mp now
              exact Option.some.inj (there'.symm.trans there)
            · exact absurd rfl (silent _ after (.ok remote'))
      · intro answer target asked
        exact absurd asked (unasked₃ answer)

end Refusal

/-- A cancellation that the authorizer refuses changes nothing if and only if the adapter held
its target as being submitted before. -/
theorem refused_cancellation_unchanged_iff {command : BrokerCommandIntent} {ref : OrderRef}
    {g g' : Ambient RobinhoodState} {h : History} {r : Except Exc BrokerOrder}
    (passes : Passes undisturbed (broker.cancelOptionOrder command ref) g h (lift r) g')
    {answer : Except Exc FirewallDecision} (asked : ⟨.authorize command, answer⟩ ∈ h)
    (refused : Refuses command answer) {target : BrokerOrder}
    (about : Target g.broker h ref target) :
    Unchanged target g.broker g'.broker ↔
      g.broker.localOrders.get? target.orderId = some (target.withState .submitting) := by
  have marked : Marked command ref g.broker h g' :=
    (sat_lift r).mp ((sat_cancelOptionOrder_marked g.broker rfl).passes passes)
  have left := marked answer target asked refused about
  constructor
  · rintro ⟨kept, -⟩
    rw [left, Dict.get?_set_self] at kept
    exact kept.symm
  · intro stale
    have same : g'.broker.localOrders = g.broker.localOrders := by
      rw [left, Dict.set_of_get? stale]
    refine ⟨by rw [same], fun remote => ?_⟩
    simp only [RobinhoodState.getOrders, same]

end RobinhoodMcpBroker

/-! ### A sample refusal -/

namespace RefusalSample

open RobinhoodMcpBroker

/-- An authorizer that blocks every command. -/
def handler (op : Op) (g : Ambient RobinhoodState) :
    Except Exc (Ans op) × Ambient RobinhoodState :=
  match op with
  | .authorize command =>
    (.ok ⟨20, command.commandIntentId, .live, .blockedPolicy, "", false, fun _ => rfl⟩, g)
  | op => WriteSample.handler op g

theorem handler_conforms (op : Op) (g : Ambient RobinhoodState) :
    undisturbed op g (handler op g).1 (handler op g).2 := by
  cases op <;> rfl

/-- The cancellation of the open order that the adapter keeps. -/
def cancellation : Program RobinhoodState BrokerOrder :=
  WriteSample.broker.cancelOptionOrder (WriteSample.command .cancelOptionOrder) (.uuid ⟨7⟩)

def final : Ambient RobinhoodState := (run handler cancellation WriteSample.surroundings).2

def target : BrokerOrder :=
  (WriteSample.broker.localOrder (WriteSample.command .placeOptionOrder) WriteSample.contract 10).withState
    .open_

def decision : FirewallDecision :=
  ⟨20, ⟨1⟩, .live, .blockedPolicy, "", false, fun _ => rfl⟩

theorem passes : Passes undisturbed cancellation WriteSample.surroundings
    (trace handler cancellation WriteSample.surroundings)
    (lift (run handler cancellation WriteSample.surroundings).1) final :=
  passes_trace handler handler_conforms cancellation WriteSample.surroundings

theorem asked : (⟨.authorize (WriteSample.command .cancelOptionOrder), .ok decision⟩ : Done Exc Ans) ∈
    trace handler cancellation WriteSample.surroundings :=
  .tail _ (.tail _ (.head _))

theorem refused : Refuses (WriteSample.command .cancelOptionOrder) (.ok decision) := by
  rintro _ ⟨⟩ _
  decide

end RefusalSample

theorem refused_cancellation_unchanged_iff_open :
    RobinhoodMcpBroker.Unchanged RefusalSample.target WriteSample.surroundings.broker
        RefusalSample.final.broker ↔
      WriteSample.surroundings.broker.localOrders.get? RefusalSample.target.orderId =
        some (RefusalSample.target.withState .submitting) :=
  RobinhoodMcpBroker.refused_cancellation_unchanged_iff WriteSample.broker RefusalSample.passes
    RefusalSample.asked RefusalSample.refused (Or.inl rfl)

/-- A blocked cancellation of an open order leaves it as one that is being submitted. -/
theorem refused_cancellation_marks :
    ¬ RobinhoodMcpBroker.Unchanged RefusalSample.target WriteSample.surroundings.broker
      RefusalSample.final.broker := by
  rintro ⟨kept, -⟩
  have states := congrArg (Option.map BrokerOrder.state) kept
  revert states
  decide

end Sentry
