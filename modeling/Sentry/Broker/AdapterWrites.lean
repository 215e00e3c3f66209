import Sentry.Broker.RobinhoodMcp
import Sentry.Support.Concurrent

/-!
# How often the live adapter writes

Placements and cancellations of one `RobinhoodMcpBroker` that interleave at their awaits.
A call looks up its idempotency key when it starts and registers it only after its command
was validated, recorded and, for a cancellation, looked up; from then on a call with the
same key declines. What is counted is how often the write transport is asked for.
-/
namespace Sentry

open Support Coroutine RobinhoodMcp

/-- A call of the adapter that may write. -/
inductive WriteCall where
  | place (command : BrokerCommandIntent) (contract : OptionContract)
  | cancel (command : BrokerCommandIntent) (ref : OrderRef)

def WriteCall.command : WriteCall → BrokerCommandIntent
  | .place command _ | .cancel command _ => command

/-- The idempotency key a call carries. -/
def WriteCall.key (c : WriteCall) : String := c.command.idempotencyKey

/-- Whether an operation is an invocation of the write transport. -/
def Op.isWrite : Op → Bool
  | .callTool _ _ => true
  | _ => false

abbrev WriteCrew := Crew (Ambient RobinhoodState) Exc Ans BrokerOrder WriteCall

/-- Whether the adapter has registered a write under a key. -/
def RobinhoodState.registered (key : String) (b : RobinhoodState) : Bool :=
  (b.writeResults.get? key).isSome

/-- How often the write transport was asked for under a key. -/
def writesUnder (key : String) (s : WriteCrew) : ℕ :=
  s.asked.countP fun x => x.call.key == key && x.op.isWrite

namespace RobinhoodMcpBroker

variable (broker : RobinhoodMcpBroker)

def serve : WriteCall → Program RobinhoodState BrokerOrder
  | .place command contract => broker.placeOptionOrder command contract
  | .cancel command ref => broker.cancelOptionOrder command ref

/-- Any calls at any time. The collaborators answer or fail as they like, and nothing but the
adapter itself changes its registers. -/
def writers : Concurrent (Ambient RobinhoodState) Exc Ans BrokerOrder WriteCall where
  body := broker.serve
  performs := fun _ g _ g' => g'.broker = g.broker
  event := fun g g' => g'.broker = g.broker

/-- The same, where a call whose key is not registered is made only while no other call with
that key is under way. -/
def orderlyWriters : Concurrent (Ambient RobinhoodState) Exc Ans BrokerOrder WriteCall :=
  { broker.writers with
    admits := fun c s => s.state.broker.registered c.key = true ∨
      ∀ i m, s.members i = some m → m.call.key ≠ c.key }

/-! ### What the adapter changes -/

section Updates

variable {J : Ambient RobinhoodState → Prop} {broker} {command : BrokerCommandIntent}

theorem keeps_recordBrokerCommandIntent
    (record : ∀ g command, J g → J (g.adapt (RobinhoodState.record command))) :
    Keeps J (broker.recordBrokerCommandIntent command) := by
  refine (keeps_peek _).bind fun state => (keeps_lift _).bind fun recorded => ?_
  split
  · exact keeps_pure _
  · split
    · exact (keeps_call _).bind fun _ => keeps_change fun g => record g command
    · exact keeps_change fun g => record g command

theorem keeps_write (keep : ∀ g order, J g → J (g.adapt (RobinhoodState.keep order)))
    {unknown : String} {validated : Json} {local_ : BrokerOrder} :
    Keeps J (broker.write unknown command validated local_) := by
  refine Keeps.bind (Keeps.attempt (keeps_call _) fun e => ?_) fun raw => ?_
  · unfold writeFailed
    split
    · exact (keeps_change fun g => keep g _).bind fun _ => keeps_raise _
    · exact keeps_raise _
  · refine (keeps_lift _).bind fun parsed => ?_
    exact (keeps_change fun g => keep g parsed).bind fun _ => keeps_pure _

/-- A call records its command, keeps orders and registers its own key, and changes nothing
else. -/
theorem keeps_serve (c : WriteCall)
    (record : ∀ g command, J g → J (g.adapt (RobinhoodState.record command)))
    (keep : ∀ g order, J g → J (g.adapt (RobinhoodState.keep order)))
    (claim : ∀ g id, J g → J (g.adapt (RobinhoodState.claim c.key id))) :
    Keeps J (broker.serve c) := by
  cases c with
  | place command contract =>
    refine (keeps_raiseIf _ _).bind fun _ => (keeps_raiseIf _ _).bind fun _ =>
      (keeps_raiseIf _ _).bind fun _ => (keeps_peek _).bind fun state =>
        (keeps_lift _).bind fun duplicate => ?_
    split
    · exact (keeps_raiseIf _ _).bind fun _ => keeps_pure _
    · refine (keeps_call _).bind fun validated => Keeps.bind (keeps_recordBrokerCommandIntent record)
        fun _ => (keeps_peek _).bind fun now => ?_
      refine (keeps_change fun g => keep g _).bind fun _ =>
        (keeps_change fun g => claim g _).bind fun _ => (keeps_call _).bind fun authorization =>
          (keeps_lift _).bind fun _ => ?_
      split
      · exact (keeps_change fun g => keep g _).bind fun _ => keeps_pure _
      · exact keeps_write keep
  | cancel command ref =>
    refine (keeps_raiseIf _ _).bind fun _ => (keeps_raiseIf _ _).bind fun _ =>
      (keeps_peek _).bind fun state => (keeps_lift _).bind fun duplicate => ?_
    split
    · exact (keeps_raiseIf _ _).bind fun _ => keeps_pure _
    · refine (keeps_call _).bind fun validated => (keeps_lift _).bind fun _ =>
        Keeps.bind (keeps_recordBrokerCommandIntent record) fun _ => Keeps.bind ?_ fun target => ?_
      · refine (keeps_peek _).bind fun state => ?_
        split
        · exact keeps_pure _
        · refine (keeps_call _).bind fun orders => ?_
          split
          · exact keeps_pure _
          · exact keeps_raise _
      · refine (keeps_change fun g => keep g _).bind fun _ =>
          (keeps_change fun g => claim g _).bind fun _ => (keeps_call _).bind fun authorization =>
            (keeps_lift _).bind fun _ => ?_
        split
        · exact keeps_pure _
        · exact keeps_write keep

end Updates

/-! ### One key at a time -/

/-- How often a history has asked for the write transport. -/
def writesIn (h : History) : ℕ := (Done.ops h).countP Op.isWrite

theorem writesIn_snoc (h : History) (item : Done Exc Ans) :
    writesIn (h ++ [item]) = writesIn h + item.op.isWrite.toNat := by
  cases write : item.op.isWrite <;> simp [writesIn, List.countP_append, write]

theorem writesIn_append {h rest : History} (silent : ∀ item ∈ rest, item.op.isWrite = false) :
    writesIn (h ++ rest) = writesIn h := by
  simp only [writesIn, Done.ops_append, List.countP_append, Nat.add_eq_left, List.countP_eq_zero]
  intro op member
  obtain ⟨item, there, rfl⟩ := List.mem_map.mp member
  simp [silent item there]

/-- The calls with one key form a lane. They write at most once in all, and a write leaves its
key registered. -/
def keyLanes : Concurrent.Discipline (Ambient RobinhoodState) Exc Ans BrokerOrder WriteCall String where
  lane := fun _ c => c.key
  I := fun _ => True
  G := fun _ _ => True
  R := fun key g g' => g'.broker.registered key = g.broker.registered key
  issue := fun _ h op _ => writesIn h + op.isWrite.toNat ≤ 1
  free := fun key h g => writesIn h = 0 ∨ writesIn h ≤ 1 ∧ g.broker.registered key = true
  post := fun _ _ _ _ => True

section Lanes

variable {broker} {key : String} {h : History} {g g' : Ambient RobinhoodState} {α : Type}

/-- Awaiting a collaborator leaves the key as it was. -/
theorem registered_of_relied {op : Op} {r : Except Exc (Ans op)}
    (relied : broker.orderlyWriters.Relied keyLanes.I (keyLanes.R key) op g r g') :
    g'.broker.registered key = g.broker.registered key := by
  have same : ∀ {a b : Ambient RobinhoodState}, b.broker = a.broker →
      b.broker.registered key = a.broker.registered key := fun equal => by rw [equal]
  cases relied with
  | performed before _ performed after _ => exact after.trans ((same performed).trans before)
  | interrupted _ moved _ => exact moved
  | cutOff _ before _ performed after _ => exact after.trans ((same performed).trans before)

theorem registered_claim (g : Ambient RobinhoodState) (key : String) (id : UUID) :
    (g.adapt (RobinhoodState.claim key id)).broker.registered key = true := by
  simp [Ambient.adapt, RobinhoodState.claim, RobinhoodState.registered]

theorem registered_claim_of_ne {key other : String} (ne : key ≠ other) (g : Ambient RobinhoodState)
    (id : UUID) :
    (g.adapt (RobinhoodState.claim other id)).broker.registered key = g.broker.registered key := by
  unfold RobinhoodState.registered
  exact congrArg Option.isSome (Dict.get?_set_of_ne _ _ ne.symm)

/-- Once its key is registered, a call writes at most once. -/
theorem sat_write {unknown : String} {command : BrokerCommandIntent} {validated : Json}
    {local_ : BrokerOrder} {Q : Post (Ambient RobinhoodState) Exc Ans BrokerOrder}
    (unsent : writesIn h = 0) (registered : g.broker.registered key = true)
    (ended : ∀ h g r, writesIn h ≤ 1 → g.broker.registered key = true → Q h g r) :
    Sat (broker.orderlyWriters.spec keyLanes key) Q
      (broker.write unknown command validated local_) h g := by
  rw [write, sat_bind, sat_attempt]
  refine (sat_call _ _).mpr ⟨?_, fun raw g' relied => ?_⟩
  · refine ⟨trivial, ?_⟩
    change writesIn h + 1 ≤ 1
    omega
  have sent : writesIn (h ++ [⟨.callTool command.capabilityName validated, raw⟩]) ≤ 1 := by
    rw [writesIn_snoc]
    change writesIn h + 1 ≤ 1
    omega
  have still := (registered_of_relied relied).trans registered
  cases raw with
  | error e =>
    change Sat _ _ (writeFailed unknown local_ e) _ _
    unfold writeFailed
    split
    · exact Sat.change_bind (ended _ _ _ sent still)
    · exact ended _ _ _ sent still
  | ok result =>
    refine Sat.lift_bind (fun _ _ => ended _ _ _ sent still) fun parsed _ => ?_
    exact ended _ _ _ sent still

/-- From the registration on: the authorizer is asked, then the transport. -/
theorem sat_authorized {command : BrokerCommandIntent} {f : FirewallDecision → Program RobinhoodState α}
    {Q : Post (Ambient RobinhoodState) Exc Ans α} (unsent : writesIn h = 0)
    (registered : g.broker.registered key = true)
    (ended : ∀ h g r, writesIn h ≤ 1 → g.broker.registered key = true → Q h g r)
    (rest : ∀ h g authorization, writesIn h = 0 → g.broker.registered key = true →
      Sat (broker.orderlyWriters.spec keyLanes key) Q (f authorization) h g) :
    Sat (broker.orderlyWriters.spec keyLanes key) Q (ask (.authorize command) >>= fun authorization =>
      lift (validateAuthorization authorization command) >>= fun _ => f authorization) h g := by
  have asked : ∀ r, writesIn (h ++ [⟨.authorize command, r⟩]) = 0 := fun r => by
    rw [writesIn_snoc]
    exact unsent
  refine Sat.call_bind ?_ (fun e g' relied => ?_) fun authorization g' relied => ?_
  · refine ⟨trivial, ?_⟩
    change writesIn h + 0 ≤ 1
    omega
  · exact ended _ _ _ (by rw [asked]; omega) ((registered_of_relied relied).trans registered)
  · have still := (registered_of_relied relied).trans registered
    refine Sat.lift_bind (fun _ _ => ?_) fun _ _ => rest _ _ _ (asked _) still
    exact ended _ _ _ (by rw [asked]; omega) still

/-- What a call does before it registers its key is no write, and nothing needs to be known of
the adapter afterwards. -/
theorem sat_preparing {p : Program RobinhoodState α} {f : α → Program RobinhoodState BrokerOrder}
    {returns : α → Prop} {Q : Post (Ambient RobinhoodState) Exc Ans BrokerOrder}
    (unsent : writesIn h = 0) (emits : Emits (fun op => op.isWrite = false) returns p)
    (raised : ∀ h g r, writesIn h = 0 → Q h g r)
    (rest : ∀ h g a, writesIn h = 0 → Sat (broker.orderlyWriters.spec keyLanes key) Q (f a) h g) :
    Sat (broker.orderlyWriters.spec keyLanes key) Q (p >>= f) h g := by
  rw [sat_bind]
  refine emits.sat (fun rest op g silent allowed => ?_) (fun rest g e silent => ?_)
    fun rest' g a silent _ => ?_
  · refine ⟨trivial, ?_⟩
    change writesIn (h ++ rest) + op.isWrite.toNat ≤ 1
    rw [writesIn_append silent, unsent, allowed]
    decide
  · exact raised _ _ _ ((writesIn_append silent).trans unsent)
  · exact rest _ _ _ ((writesIn_append silent).trans unsent)

theorem emits_recordBrokerCommandIntent {command : BrokerCommandIntent} :
    Emits (fun op => op.isWrite = false) (fun _ => True)
      (broker.recordBrokerCommandIntent command) := by
  refine (emits_peek _).bind fun state _ => (emits_lift _).bind fun recorded _ => ?_
  split
  · exact emits_done _
  · split
    · have asked : Emits (fun op => op.isWrite = false) (fun _ => True)
          (ask (.recordCommand command) : Program RobinhoodState Unit) := emits_call rfl
      exact asked.bind fun _ _ => emits_change _
    · exact emits_change _

theorem emits_cancelTarget (ref : OrderRef) :
    Emits (fun op => op.isWrite = false) (fun _ => True) (cancelTarget ref) := by
  refine (emits_peek _).bind fun state _ => ?_
  split
  · exact emits_done _
  · refine Emits.bind (emits_call rfl) fun orders _ => ?_
    split
    · exact emits_done _
    · exact emits_raise _

theorem existingWriteResult_none {command : BrokerCommandIntent} {b : RobinhoodState}
    (none_ : b.existingWriteResult command = .ok none) :
    b.registered command.idempotencyKey = false := by
  unfold RobinhoodState.existingWriteResult at none_
  unfold RobinhoodState.registered
  split at none_
  next missing => rw [missing]; rfl
  · dsimp only at none_
    split at none_
    · cases none_
    · split at none_ <;> cases none_

/-- A call looks its key up when it starts: it declines where the key is registered, and goes
on otherwise with nothing written yet. -/
theorem sat_serve {c : WriteCall} {Q : Post (Ambient RobinhoodState) Exc Ans BrokerOrder}
    (free : keyLanes.free c.key h g) (ended : ∀ h g r, keyLanes.free c.key h g → Q h g r) :
    Sat (broker.orderlyWriters.spec keyLanes c.key) Q (broker.serve c) h g := by
  have unsent : ∀ h g r, writesIn h = 0 → Q h g r := fun h g r none_ => ended h g r (Or.inl none_)
  have claimed : ∀ h g r, writesIn h ≤ 1 → g.broker.registered c.key = true → Q h g r :=
    fun h g r few registered => ended h g r (Or.inr ⟨few, registered⟩)
  have fresh : g.broker.existingWriteResult c.command = .ok none → writesIn h = 0 := fun missing =>
    free.resolve_right fun held => by
      have absent : g.broker.registered c.key = false := existingWriteResult_none missing
      rw [held.2] at absent
      cases absent
  cases c with
  | place command contract =>
    change Sat _ _ (broker.placeOptionOrder command contract) _ _
    unfold placeOptionOrder
    refine Sat.raiseIf_bind (fun _ => ended _ _ _ free) fun _ => ?_
    refine Sat.raiseIf_bind (fun _ => ended _ _ _ free) fun _ => ?_
    refine Sat.raiseIf_bind (fun _ => ended _ _ _ free) fun _ => ?_
    apply Sat.peek_bind
    refine Sat.lift_bind (fun _ _ => ended _ _ _ free) fun duplicate found => ?_
    split
    · exact Sat.raiseIf_bind (fun _ => ended _ _ _ free) fun _ => ended _ _ _ free
    refine sat_preparing (fresh found) (emits_call rfl) unsent fun h g validated none_ => ?_
    refine sat_preparing none_ emits_recordBrokerCommandIntent unsent fun h g _ none_ => ?_
    refine Sat.peek_bind (Sat.change_bind (Sat.change_bind ?_))
    refine sat_authorized none_ (registered_claim _ _ _) claimed fun h g authorization none_ held => ?_
    split
    · exact Sat.change_bind (claimed _ _ _ (by omega) held)
    · exact sat_write none_ held claimed
  | cancel command ref =>
    change Sat _ _ (broker.cancelOptionOrder command ref) _ _
    unfold cancelOptionOrder
    refine Sat.raiseIf_bind (fun _ => ended _ _ _ free) fun _ => ?_
    refine Sat.raiseIf_bind (fun _ => ended _ _ _ free) fun _ => ?_
    apply Sat.peek_bind
    refine Sat.lift_bind (fun _ _ => ended _ _ _ free) fun duplicate found => ?_
    split
    · exact Sat.raiseIf_bind (fun _ => ended _ _ _ free) fun _ => ended _ _ _ free
    refine sat_preparing (fresh found) (emits_call rfl) unsent fun h g validated none_ => ?_
    refine Sat.lift_bind (fun _ _ => unsent _ _ _ none_) fun _ _ => ?_
    refine sat_preparing none_ emits_recordBrokerCommandIntent unsent fun h g _ none_ => ?_
    refine sat_preparing none_ (emits_cancelTarget ref) unsent fun h g target none_ => ?_
    refine Sat.change_bind (Sat.change_bind ?_)
    refine sat_authorized none_ (registered_claim _ _ _) claimed fun h g authorization none_ held => ?_
    split
    · exact claimed _ _ _ (by omega) held
    · exact sat_write none_ held claimed

/-- A program that ends before it asks for anything and changes nothing. -/
def Declines (p : Program RobinhoodState BrokerOrder) (g : Ambient RobinhoodState) : Prop :=
  ∃ r, p.settle g = .finished g r

theorem Declines.raiseIf {c : Bool} {e : Exc} {f : Unit → Program RobinhoodState BrokerOrder}
    (rest : Declines (f ()) g) : Declines (raiseIf c e >>= f) g := by
  cases c with
  | true => exact ⟨_, rfl⟩
  | false => exact rest

/-- With its key registered, a call ends before it awaits anything. -/
theorem serve_declines (c : WriteCall) (registered : g.broker.registered c.key = true) :
    Declines (broker.serve c) g := by
  have found : g.broker.existingWriteResult c.command ≠ .ok none := fun missing => by
    have absent : g.broker.registered c.key = false := existingWriteResult_none missing
    rw [registered] at absent
    cases absent
  cases c with
  | place command contract =>
    refine .raiseIf (.raiseIf (.raiseIf ?_))
    change Declines (lift (g.broker.existingWriteResult command) >>= _) g
    cases result : g.broker.existingWriteResult command with
    | error e => exact ⟨_, rfl⟩
    | ok duplicate =>
      cases duplicate with
      | none => exact absurd result found
      | some order => exact .raiseIf ⟨_, rfl⟩
  | cancel command ref =>
    refine .raiseIf (.raiseIf ?_)
    change Declines (lift (g.broker.existingWriteResult command) >>= _) g
    cases result : g.broker.existingWriteResult command with
    | error e => exact ⟨_, rfl⟩
    | ok duplicate =>
      cases duplicate with
      | none => exact absurd result found
      | some order => exact .raiseIf ⟨_, rfl⟩

theorem keyLanes_sound : broker.orderlyWriters.Sound keyLanes where
  G_refl := fun _ => trivial
  G_trans := fun _ _ => trivial
  R_refl := fun _ _ => rfl
  R_trans := fun first second => second.trans first
  event := fun {g g'} moved _ => ⟨trivial, trivial, fun key =>
    congrArg (RobinhoodState.registered key) moved⟩
  perform := fun _ _ performed => ⟨trivial, trivial, fun key _ =>
    congrArg (RobinhoodState.registered key) performed⟩
  moves := fun c g => keeps_true _
  spares := fun i c key other g => keeps_serve c (fun _ _ kept => kept) (fun _ _ kept => kept)
    fun g' id kept => (registered_claim_of_ne other g' id).trans kept
  issue_stable := fun issue _ => issue
  free_stable := fun {key h g g'} free moved => by
    refine free.imp_right fun held => ⟨held.1, ?_⟩
    rw [moved]
    exact held.2
  post_stable := fun _ _ => trivial
  admitted := fun {i c s} _ admitted _ => by
    rcases admitted with registered | clear
    · have declined : Declines (broker.serve c) s.state := serve_declines c registered
      obtain ⟨r, ended⟩ := declined
      exact Or.inr ⟨r, ended, trivial⟩
    · exact Or.inl clear
  sat := fun {i c h g} _ free => sat_serve free fun _ _ _ free => ⟨trivial, free, trivial⟩

end Lanes

theorem writesUnder_eq (key : String) (s : WriteCrew) :
    writesUnder key s = (Concurrent.askedIn keyLanes key s).countP Op.isWrite := by
  unfold writesUnder Concurrent.askedIn
  rw [List.countP_map, List.countP_filter]
  refine List.countP_congr fun x _ => ?_
  simp only [keyLanes, Function.comp_apply, Bool.and_eq_true, beq_iff_eq]
  exact ⟨fun ⟨mine, write⟩ => ⟨write, decide_eq_true mine⟩,
    fun ⟨write, mine⟩ => ⟨of_decide_eq_true mine, write⟩⟩

/-- In every run in which a call with an unregistered key is made only while no other call with
that key is under way, the write transport is asked for at most once under each key. -/
theorem writes_at_most_once {g : Ambient RobinhoodState} {s : WriteCrew}
    (run : broker.orderlyWriters.Reachable g s) (key : String) : writesUnder key s ≤ 1 := by
  have consistent := run.consistent keyLanes_sound trivial fun _ => Or.inl rfl
  rw [writesUnder_eq]
  cases consistent.lanes key with
  | busy i m h found mine alone log poised =>
    obtain ⟨g₀, issue, -⟩ := poised.asked
    have counted := writesIn_snoc h ⟨m.op, .error .cancelled⟩
    rw [log]
    simp only [writesIn, Done.ops_append, Done.ops_singleton] at counted
    rw [counted]
    exact issue
  | quiet h clear log free =>
    rw [log]
    rcases free with none_ | ⟨few, -⟩
    · exact le_of_eq_of_le none_ (by omega)
    · exact few

end RobinhoodMcpBroker

/-! ### Two calls with one key -/

namespace WriteSample

open RobinhoodMcpBroker

def broker : RobinhoodMcpBroker where
  hashing := { sha256Json := fun _ => "digest", uuid5 := fun _ _ => ⟨7⟩, fillSeed := String.length }
  py :=
    { str := fun value => match value with
        | .str text => text
        | _ => ""
      repr := fun _ => ""
      strip := id
      upper := id
      int := fun _ => .error (.typeError "")
      decimal := fun _ => .invalidOperation
      loads := fun _ => .decodeError }

def contract : OptionContract where
  instrumentId := "spy-put"
  symbol := "SPY"
  optionType := .put
  strike := 500
  expiration := 900
  instrumentId_ne := spy_put_named
  strike_pos := amount_pos (nat_lit 500)
  multiplier_pos := count_pos (nat_lit 100)

def command (action : BrokerAction) : BrokerCommandIntent where
  createdAt := 20
  commandIntentId := ⟨1⟩
  orderIntentId := ⟨2⟩
  environment := .live
  namespace_ := "live"
  action := action
  capabilityName := action.value
  capabilitySchemaVersion := "1"
  capabilitySchemaHash := "schema"
  instrumentId := "spy-put"
  side := .buyToOpen
  quantity := 1
  limitPrice := ⟨1, 0⟩
  validatedArguments := .obj []
  proposalId := ⟨3⟩
  riskDecisionId := ⟨4⟩
  approvalId := none
  quoteSnapshotId := ⟨5⟩
  brokerObservedAccountSnapshotId := none
  effectiveAccountSnapshotId := ⟨6⟩
  policyVersion := "1"
  orderFingerprint := "order"
  idempotencyKey := "key"
  quantity_pos := count_pos (nat_lit 1)
  limitPrice_pos := Decimal.val_pos (nat_lit 1) (nat_lit 0)

/-- An adapter that keeps one open order. -/
def surroundings : Ambient RobinhoodState where
  tradingMode := .auto
  killSwitchActive := false
  healthy := true
  now := 20
  safety := { window := 0, state := .normal, reason := "all deterministic health gates passed" }
  interruptedWriteIntents := []
  broker := RobinhoodState.keep
    ((broker.localOrder (command .placeOptionOrder) contract 10).withState .open_) {}

def placement : WriteCall := .place (command .placeOptionOrder) contract

def cancellation : WriteCall := .cancel (command .cancelOptionOrder) (.uuid ⟨7⟩)

/-- Collaborators that let a write through. -/
def answers : (op : Op) → Except Exc (Ans op)
  | .validateCommand _ => .ok (.obj [])
  | .recordCommand _ => .ok ()
  | .authorize command =>
    .ok ⟨20, command.commandIntentId, .live, .authorizedLive, "", false, fun _ => rfl⟩
  | .callTool _ _ => .ok (.json (.obj [("id", .str "rh-1")]))
  | _ => .error .timeout

def handler (op : Op) (g : Ambient RobinhoodState) : Except Exc (Ans op) × Ambient RobinhoodState :=
  (answers op, g)

theorem handler_conforms (op : Op) (g : Ambient RobinhoodState) :
    (handler op g).2.broker = g.broker := rfl

/-- Make the same call twice, and let the two take turns in an order. -/
def run (c : WriteCall) (order : List ℕ) : WriteCrew :=
  order.foldl (fun s i => s.turn handler i)
    (((Crew.idle surroundings).start 0 c (broker.serve c)).start 1 c (broker.serve c))

theorem reachable_run (c : WriteCall) (order : List ℕ) :
    broker.writers.Reachable surroundings (run c order) := by
  unfold run
  have started : broker.writers.Reachable surroundings
      (((Crew.idle surroundings).start 0 c (broker.serve c)).start 1 c (broker.serve c)) :=
    (Concurrent.Reachable.start (W := broker.writers) .refl 0 c trivial).start 1 c trivial
  generalize ((Crew.idle surroundings).start 0 c (broker.serve c)).start 1 c (broker.serve c) = s
    at started
  induction order generalizing s with
  | nil => exact started
  | cons i order ih =>
    have taken : broker.writers.Reachable surroundings (s.turn handler i) :=
      started.turn handler_conforms i
    exact ih _ taken

/-- A call that has come to its transport, having registered its key. -/
def sent (c : WriteCall) : WriteCrew :=
  (Crew.turn handler 0)^[3] ((Crew.idle surroundings).start 0 c (broker.serve c))

/-- The same call is made again. -/
def resent (c : WriteCall) : WriteCrew := (sent c).start 1 c (broker.serve c)

theorem reachable_sent (c : WriteCall) : broker.orderlyWriters.Reachable surroundings (sent c) := by
  have vacant : ∀ i m, (Crew.idle surroundings : WriteCrew).members i = some m → m.call.key ≠ c.key := by
    intro i m held
    cases held
  have started : broker.orderlyWriters.Reachable surroundings
      ((Crew.idle surroundings).start 0 c (broker.serve c)) :=
    Concurrent.Reachable.start (W := broker.orderlyWriters) .refl 0 c (Or.inr vacant)
  exact started.turns handler_conforms 0 3

theorem reachable_resent (c : WriteCall) (registered : (sent c).state.broker.registered c.key = true) :
    broker.orderlyWriters.Reachable surroundings (resent c) :=
  (reachable_sent c).start 1 c (Or.inl registered)

end WriteSample

/-- A placement that waits for its transport while it is made again. -/
theorem writes_at_most_once_repeated :
    writesUnder "key" (WriteSample.resent WriteSample.placement) = 1 ∧
      writesUnder "key" (WriteSample.resent WriteSample.placement) ≤ 1 :=
  ⟨by decide +kernel, RobinhoodMcpBroker.writes_at_most_once WriteSample.broker
    (WriteSample.reachable_resent WriteSample.placement (by decide +kernel)) "key"⟩

/-- A placement is made twice with one command, and so is a cancellation. Both calls pass the
look-up and both wait for the recorder; then each of them is authorized and asks for the
transport. -/
theorem writes_repeated :
    (WriteSample.broker.writers.Reachable WriteSample.surroundings
        (WriteSample.run WriteSample.placement [0, 1, 0, 0, 1, 1]) ∧
      writesUnder "key" (WriteSample.run WriteSample.placement [0, 1, 0, 0, 1, 1]) = 2) ∧
    WriteSample.broker.writers.Reachable WriteSample.surroundings
        (WriteSample.run WriteSample.cancellation [0, 1, 0, 0, 1, 1]) ∧
      writesUnder "key" (WriteSample.run WriteSample.cancellation [0, 1, 0, 0, 1, 1]) = 2 := by
  refine ⟨⟨WriteSample.reachable_run _ _, ?_⟩, WriteSample.reachable_run _ _, ?_⟩
  · decide +kernel
  · decide +kernel

end Sentry
