import Sentry.Broker.RobinhoodMcp
import Sentry.Execution.Guarantees

/-!
# Live writes that fail

Executions over the live adapter, with every answer of every collaborator possible. A
placement that ends in an exception after the write transport was called leaves the
outcome of the order open; the module says exactly which answers of the transport and of
the journal then leave the safety controller halted, and which do not.
-/
namespace Sentry

open Support Coroutine RobinhoodMcp

/-- A call of `execute` on a live service whose broker is the live adapter. -/
structure LiveExecution extends Execution RobinhoodState where
  live : svc.environment = .live

/-- What may happen to the surroundings of a live execution while it waits. -/
abbrev Surroundings :=
  (op : Op) → Ambient RobinhoodState → Except Exc (Ans op) → Ambient RobinhoodState → Prop

/-- Live executions whose collaborators may answer anything. -/
def liveServices (broker : RobinhoodMcpBroker) (rely : Surroundings) :
    World (Ambient RobinhoodState) Exc Ans ExecutionResult LiveExecution Unit where
  body x := x.svc.executeWith broker.placeOptionOrder x.proposal x.approval x.draws
  origin x := x.origin
  performs _ _ _ _ := True
  rely := rely

abbrev LiveSystem := System (Ambient RobinhoodState) Exc Ans ExecutionResult LiveExecution Unit

/-- Nobody lifts a halt while an execution waits. -/
def KeepsHalts (rely : Surroundings) : Prop :=
  ∀ op g r g', rely op g r g' → g.safety.state = .halted → g'.safety.state = .halted

/-- Nobody else touches the safety controller while an execution waits. -/
def LeavesSafety (rely : Surroundings) : Prop :=
  ∀ op g r g', rely op g r g' → g'.safety = g.safety

/-! ### The answers that decide -/

def Op.isTool : Op → Bool
  | .callTool _ _ => true
  | _ => false

/-- The answer of the write transport, and which of the later operations have failed. -/
def transported : History → Option (Except Exc ToolResult × List (Option Exc))
  | [] => none
  | ⟨.callTool _ _, answer⟩ :: rest => some (answer, rest.map fun item => raised item.answer)
  | _ :: rest => transported rest

/-- How the two writes of the journal may go for an order in a state: a cancellation of
either is classified, and otherwise both succeed and the state may follow SUBMITTING. -/
def JournalCloses (state : OrderState) (failures : List (Option Exc)) : Prop :=
  failures[0]? = some (some .cancelled) ∨
    failures[0]? = some none ∧ OrderStateMachine.canTransition .submitting state = true ∧
      (failures[1]? = some none ∨ failures[1]? = some (some .cancelled))

/-- The answers after which an execution cannot end in an exception without a halt. -/
def FailsClosed (py : Builtins) : Except Exc ToolResult → List (Option Exc) → Prop
  | .error e, _ => e.isOSError = true ∨ e.isUnknownSubmission = true ∨ e = .cancelled
  | .ok raw, failures => ∃ ack, readAck py raw = .ok ack ∧ JournalCloses ack.state failures

/-- An execution that ends in an exception ends halted. -/
def ExitsClosed (g : Ambient RobinhoodState) (r : Except Exc ExecutionResult) : Prop :=
  ∀ e, r = .error e → g.safety.state = .halted

/-- What is claimed of the end of a live execution. -/
def closedEnd (py : Builtins) (rely : Surroundings) :
    Post (Ambient RobinhoodState) Exc Ans ExecutionResult := fun h g r =>
  ∀ transport failures, transported h = some (transport, failures) →
    (FailsClosed py transport failures → ExitsClosed g r) ∧
      (LeavesSafety rely → ExitsClosed g r → FailsClosed py transport failures)

/-! ### Histories without a write -/

/-- The write transport has not been called. -/
def Silent (h : History) : Prop := ∀ item ∈ h, item.op.isTool = false

theorem Silent.append {h h' : History} (first : Silent h) (second : Silent h') :
    Silent (h ++ h') := by
  intro item member
  rcases List.mem_append.mp member with left | right
  · exact first item left
  · exact second item right

theorem Silent.snoc {h : History} (silent : Silent h) (item : Done Exc Ans)
    (last : item.op.isTool = false) : Silent (h ++ [item]) := by
  apply silent.append
  intro other member
  rw [List.mem_singleton] at member
  exact member ▸ last

theorem Unplaced.silent {h : History} (unplaced : Unplaced h) : Silent h := by
  intro item member
  have local_ := unplaced.op (Done.mem_ops member)
  cases op : item.op <;> rw [op] at local_ <;> first | rfl | cases local_

theorem transported_append {h : History} (silent : Silent h) (rest : History) :
    transported (h ++ rest) = transported rest := by
  induction h with
  | nil => rfl
  | cons item h ih =>
    have later : Silent h := fun other member => silent other (List.mem_cons_of_mem item member)
    have first := silent item (List.mem_cons_self ..)
    obtain ⟨op, answer⟩ := item
    cases op <;> first | exact ih later | cases first

theorem transported_silent {h : History} (silent : Silent h) : transported h = none := by
  have end_ := transported_append silent []
  rwa [List.append_nil] at end_

/-- Nothing is claimed of an execution that has not called the transport. -/
theorem closedEnd_silent {py : Builtins} {rely : Surroundings} {h : History}
    (silent : Silent h) (g : Ambient RobinhoodState) (r : Except Exc ExecutionResult) :
    closedEnd py rely h g r := by
  intro transport failures sent
  rw [transported_silent silent] at sent
  cases sent

theorem transported_sent {h : History} (silent : Silent h) (name : String) (arguments : Json)
    (transport : Except Exc ToolResult) (rest : History) :
    transported (h ++ [⟨.callTool name arguments, transport⟩] ++ rest) =
      some (transport, rest.map fun item => raised item.answer) := by
  rw [List.append_assoc, transported_append silent]
  rfl

/-! ### The adapter -/

section Adapter

variable {broker : RobinhoodMcpBroker} {rely : Surroundings} {h : History}
  {g : Ambient RobinhoodState}

def liveSpec (rely : Surroundings) : Spec (Ambient RobinhoodState) Exc Ans where
  issue _ _ _ := True
  rely := rely

/-- Left to the execution alone, the controller is not halted. -/
def Alive (rely : Surroundings) (g : Ambient RobinhoodState) : Prop :=
  LeavesSafety rely → g.safety.state ≠ .halted

theorem Alive.moved {op : Op} {r : Except Exc (Ans op)} {g' : Ambient RobinhoodState}
    (alive : Alive rely g) (moved : rely op g r g') : Alive rely g' := by
  intro leaves
  rw [leaves op g r g' moved]
  exact alive leaves

theorem Alive.adapt (alive : Alive rely g) (f : RobinhoodState → RobinhoodState) :
    Alive rely (g.adapt f) := alive

/-- What the adapter makes of an answer of its transport. -/
inductive Wired (py : Builtins) (intentId : UUID) :
    Except Exc ToolResult → Except Exc BrokerOrder → Prop where
  | caught {e e' : Exc} (closes : FailsClosed py (.error e) []) (caught : ¬ Escapes e') :
      Wired py intentId (.error e) (.error e')
  | passed {e : Exc} (fails : ¬ FailsClosed py (.error e) []) (escapes : Escapes e) :
      Wired py intentId (.error e) (.error e)
  | unread {raw : ToolResult} {e : Exc} (unread : readAck py raw = .error e) (escapes : Escapes e) :
      Wired py intentId (.ok raw) (.error e)
  | acknowledged {raw : ToolResult} {ack : Acknowledgement} {order : BrokerOrder}
      (read : readAck py raw = .ok ack) (own : order.intentId = intentId)
      (live : order.environment = .live) (state : order.state = ack.state) :
      Wired py intentId (.ok raw) (.ok order)

/-- An exception of the transport comes out of the adapter as an unknown submission if it
is one of the operating system, and as it is otherwise. -/
theorem sat_transportFailed {local_ : BrokerOrder} {e : Exc} {intentId : UUID}
    {Q : Post (Ambient RobinhoodState) Exc Ans ToolResult} (alive : Alive rely g)
    (failed : ∀ g e', Alive rely g → Wired broker.py intentId (.error e) (.error e') →
      Q h g (.error e')) :
    Sat (liveSpec rely) Q (RobinhoodMcpBroker.transportFailed local_ e) h g := by
  unfold RobinhoodMcpBroker.transportFailed RobinhoodMcpBroker.writeFailed
  split
  next operatingSystem =>
    apply Sat.change_bind
    refine failed _ _ alive (.caught (Or.inl operatingSystem) ?_)
    exact fun escapes => by cases escapes.2
  next other =>
    refine failed _ _ alive ?_
    by_cases escapes : Escapes e
    · refine .passed ?_ escapes
      rintro (operatingSystem | unknown | cancelled)
      · exact other operatingSystem
      · rw [escapes.2] at unknown
        cases unknown
      · exact escapes.1 cancelled
    · refine .caught (Or.inr ?_) escapes
      by_cases cancelled : e = .cancelled
      · exact Or.inr cancelled
      · exact Or.inl (by simpa [Escapes, cancelled] using escapes)

theorem sat_transmit {command : BrokerCommandIntent} {validated : Json} {local_ : BrokerOrder}
    {Q : Post (Ambient RobinhoodState) Exc Ans BrokerOrder} (alive : Alive rely g)
    (live : local_.environment = .live)
    (wired : ∀ g transport r, Alive rely g → Wired broker.py local_.intentId transport r →
      Q (h ++ [⟨.callTool command.capabilityName validated, transport⟩]) g r) :
    Sat (liveSpec rely) Q (broker.transmit command validated local_) h g := by
  rw [RobinhoodMcpBroker.transmit, RobinhoodMcpBroker.write, sat_bind, sat_attempt]
  refine (sat_call _ _).mpr ⟨trivial, fun transport g' moved => ?_⟩
  have alive' := alive.moved moved
  cases transport with
  | error e => exact sat_transportFailed alive' fun g e' alive outcome => wired g _ _ alive outcome
  | ok raw =>
    change Sat _ _ (lift (parseOrderAck broker.py raw local_) >>= _) _ _
    have raises := readAck_raises broker.py raw
    unfold parseOrderAck
    cases read : readAck broker.py raw with
    | error e =>
      rw [read] at raises
      exact wired _ _ _ alive' (.unread read raises)
    | ok ack => exact wired _ _ _ alive' (.acknowledged read rfl live rfl)

theorem sat_recordBrokerCommandIntent {command : BrokerCommandIntent}
    {Q : Post (Ambient RobinhoodState) Exc Ans Unit} (silent : Silent h) (alive : Alive rely g)
    (ended : ∀ h g r, Silent h → Alive rely g → Q h g r) :
    Sat (liveSpec rely) Q (broker.recordBrokerCommandIntent command) h g := by
  apply Sat.peek_bind
  refine Sat.lift_bind (fun _ _ => ended _ _ _ silent alive) fun recorded _ => ?_
  split
  · exact ended _ _ _ silent alive
  · split
    · refine Sat.call_bind trivial (fun _ _ moved => ?_) fun _ g' moved => ?_
      · exact ended _ _ _ (silent.snoc _ rfl) (alive.moved moved)
      · exact ended _ _ _ (silent.snoc _ rfl) ((alive.moved moved).adapt _)
    · exact ended _ _ _ silent (alive.adapt _)

/-- A placement calls the transport once, as the last thing it asks for, or not at all. -/
theorem sat_placeOptionOrder {command : BrokerCommandIntent} {contract : OptionContract}
    {Q : Post (Ambient RobinhoodState) Exc Ans BrokerOrder} (silent : Silent h)
    (alive : Alive rely g) (unsent : ∀ h g r, Silent h → Q h g r)
    (wired : ∀ h g name arguments transport r, Silent h → Alive rely g →
      Wired broker.py command.orderIntentId transport r →
      Q (h ++ [⟨.callTool name arguments, transport⟩]) g r) :
    Sat (liveSpec rely) Q (broker.placeOptionOrder command contract) h g := by
  unfold RobinhoodMcpBroker.placeOptionOrder
  refine Sat.raiseIf_bind (fun _ => unsent _ _ _ silent) fun _ => ?_
  refine Sat.raiseIf_bind (fun _ => unsent _ _ _ silent) fun _ => ?_
  refine Sat.raiseIf_bind (fun _ => unsent _ _ _ silent) fun _ => ?_
  apply Sat.peek_bind
  refine Sat.lift_bind (fun _ _ => unsent _ _ _ silent) fun duplicate _ => ?_
  split
  · exact Sat.raiseIf_bind (fun _ => unsent _ _ _ silent) fun _ => unsent _ _ _ silent
  refine Sat.call_bind trivial (fun _ _ _ => unsent _ _ _ (silent.snoc _ rfl))
    fun validated g₁ moved => ?_
  rw [sat_bind]
  refine sat_recordBrokerCommandIntent (silent.snoc _ rfl) (alive.moved moved) ?_
  intro h g r silent alive
  cases r with
  | error e => exact unsent _ _ _ silent
  | ok _ =>
    apply Sat.peek_bind
    refine Sat.change_bind (Sat.change_bind ?_)
    refine Sat.call_bind trivial (fun _ _ _ => unsent _ _ _ (silent.snoc _ rfl))
      fun authorization g₂ moved => ?_
    have silent' := silent.snoc ⟨.authorize command, .ok authorization⟩ rfl
    have alive' := ((alive.adapt _).adapt _).moved moved
    refine Sat.lift_bind (fun _ _ => unsent _ _ _ silent') fun _ _ => ?_
    split
    · exact unsent _ _ _ silent'
    · exact sat_transmit alive' rfl fun g transport r alive outcome =>
        wired _ g _ _ transport r silent' alive outcome

end Adapter

/-! ### The service -/

section Service

variable {py : Builtins} {rely : Surroundings} {h : History} {g : Ambient RobinhoodState}
  {transport : Except Exc ToolResult} {failures : List (Option Exc)}

theorem closedEnd_halted (sent : transported h = some (transport, failures))
    (closes : FailsClosed py transport failures) (halted : g.safety.state = .halted)
    (r : Except Exc ExecutionResult) : closedEnd py rely h g r := by
  intro transport' failures' sent'
  obtain ⟨rfl, rfl⟩ := Prod.mk.inj (Option.some.inj (sent.symm.trans sent'))
  exact ⟨fun _ _ _ => halted, fun _ _ => closes⟩

theorem closedEnd_returned (sent : transported h = some (transport, failures))
    (closes : FailsClosed py transport failures) (result : ExecutionResult) :
    closedEnd py rely h g (.ok result) := by
  intro transport' failures' sent'
  obtain ⟨rfl, rfl⟩ := Prod.mk.inj (Option.some.inj (sent.symm.trans sent'))
  exact ⟨fun _ _ failed => (nomatch failed), fun _ _ => closes⟩

theorem closedEnd_open (sent : transported h = some (transport, failures))
    (fails : ¬ FailsClosed py transport failures) (alive : Alive rely g) (e : Exc) :
    closedEnd py rely h g (.error e) := by
  intro transport' failures' sent'
  obtain ⟨rfl, rfl⟩ := Prod.mk.inj (Option.some.inj (sent.symm.trans sent'))
  exact ⟨fun closes => absurd closes fails, fun leaves closed => absurd (closed e rfl) (alive leaves)⟩

/-- An interrupted write is halted before anything is awaited, and stays so. -/
theorem sat_recordInterruptedWrite {pending : BrokerOrder} {action : String}
    {observed : Option BrokerOrder} {Q : Post (Ambient RobinhoodState) Exc Ans Unit}
    (keeps : KeepsHalts rely)
    (ended : ∀ rest g r, g.safety.state = .halted → Q (h ++ rest) g r) :
    Sat (liveSpec rely) Q (ExecutionService.recordInterruptedWrite pending action observed) h g := by
  refine Sat.change_bind (Sat.change_bind ?_)
  apply Keeps.sat (I := fun g => g.safety.state = .halted)
  · apply Keeps.attempt
    · exact (keeps_call _).bind fun _ => ExecutionService.keeps_transition
    · intro e
      split
      · exact keeps_change fun _ _ => rfl
      · exact keeps_raise e
  · exact fun _ _ _ => trivial
  · exact keeps
  · exact ended
  · rfl

/-- It is never swallowed. -/
theorem sat_recordInterruptedWrite_raise {α : Type} {pending : BrokerOrder} {action : String}
    {observed : Option BrokerOrder} {e : Exc} {Q : Post (Ambient RobinhoodState) Exc Ans α}
    (keeps : KeepsHalts rely)
    (ended : ∀ rest g e, g.safety.state = .halted → Q (h ++ rest) g (.error e)) :
    Sat (liveSpec rely) Q
      (ExecutionService.recordInterruptedWrite pending action observed >>= fun _ => raise e) h g := by
  rw [sat_bind]
  refine sat_recordInterruptedWrite keeps fun rest g r halted => ?_
  cases r with
  | ok _ => exact ended rest g e halted
  | error e' => exact ended rest g e' halted

variable {svc : ExecutionService} {pending : BrokerOrder}

/-- An exception that is not caught passes through the service as it is. -/
theorem sat_classifyFailure_escapes {Q : Post (Ambient RobinhoodState) Exc Ans BrokerOrder}
    {e : Exc} (escapes : Escapes e) (raised : Q h g (.error e)) :
    Sat (liveSpec rely) Q (svc.classifyFailure pending e) h g := by
  unfold ExecutionService.classifyFailure
  rw [if_neg escapes.1, if_neg (by simp [escapes.2])]
  exact raised

/-- One that is caught halts a live service. -/
theorem sat_classifyFailure_caught {Q : Post (Ambient RobinhoodState) Exc Ans BrokerOrder} {e : Exc}
    (live : svc.environment = .live) (keeps : KeepsHalts rely) (caught : ¬ Escapes e)
    (ended : ∀ rest g e, g.safety.state = .halted → Q (h ++ rest) g (.error e)) :
    Sat (liveSpec rely) Q (svc.classifyFailure pending e) h g := by
  unfold ExecutionService.classifyFailure
  by_cases cancelled : e = .cancelled
  · rw [if_pos cancelled]
    exact sat_recordInterruptedWrite_raise keeps ended
  · have unknown : e.isUnknownSubmission = true := by simpa [Escapes, cancelled] using caught
    rw [if_neg cancelled, if_pos unknown, if_neg (not_not.mpr live)]
    -- the halt comes first, so whatever happens to the two writes it stays
    apply Sat.change_bind
    refine Sat.call_bind trivial (fun e g' moved => ?_) fun _ g' moved => ?_
    · exact ended _ g' e (keeps _ _ _ _ moved rfl)
    · rw [sat_bind]
      apply Keeps.sat (I := fun g => g.safety.state = .halted) ExecutionService.keeps_transition
      · exact fun _ _ _ => trivial
      · exact keeps
      · intro rest g r halted
        rw [List.append_assoc]
        cases r with
        | ok _ => exact ended _ g _ halted
        | error e' => exact ended _ g e' halted
      · exact keeps _ _ _ _ moved rfl

/-- What the journal of an acknowledged order comes to. -/
theorem sat_journal {order : BrokerOrder} {action reason : String}
    {Q : Post (Ambient RobinhoodState) Exc Ans Unit} (keeps : KeepsHalts rely) (alive : Alive rely g)
    (halted : ∀ rest g e, JournalCloses order.state (rest.map fun item => raised item.answer) →
      g.safety.state = .halted → Q (h ++ rest) g (.error e))
    (kept : ∀ rest g, JournalCloses order.state (rest.map fun item => raised item.answer) →
      Q (h ++ rest) g (.ok ()))
    (escaped : ∀ rest g e, ¬ JournalCloses order.state (rest.map fun item => raised item.answer) →
      Alive rely g → Q (h ++ rest) g (.error e)) :
    Sat (liveSpec rely) Q (ExecutionService.journal pending order action reason) h g := by
  rw [ExecutionService.journal, sat_attempt]
  refine Sat.call_bind trivial (fun e g' moved => ?_) fun _ g' moved => ?_
  · -- the order could not be saved
    change Sat _ _ (ite _ _ _) _ _
    split
    next cancelled =>
      refine sat_recordInterruptedWrite_raise keeps fun rest g e' stopped => ?_
      rw [List.append_assoc]
      exact halted _ g e' (Or.inl (by simp [raised, cancelled])) stopped
    next other =>
      refine escaped _ g' e ?_ (alive.moved moved)
      rintro (cut | ⟨saved, -⟩)
      · simp [raised, other] at cut
      · simp [raised] at saved
  · rw [ExecutionService.transition]
    by_cases legal : OrderStateMachine.canTransition .submitting order.state = true
    · -- both writes are made
      refine Sat.lift_bind (fun e illegal => ?_) fun _ _ => Sat.peek_bind ?_
      · simp [OrderStateMachine.transition, legal] at illegal
      · refine (sat_call _ _).mpr ⟨trivial, fun r g'' moved' => ?_⟩
        rw [List.append_assoc]
        cases r with
        | ok _ => exact kept _ g'' (Or.inr ⟨rfl, legal, Or.inl rfl⟩)
        | error e =>
          change Sat _ _ (ite _ _ _) _ _
          split
          next cancelled =>
            refine sat_recordInterruptedWrite_raise keeps fun rest g e' stopped => ?_
            rw [List.append_assoc]
            exact halted _ g e' (Or.inr ⟨rfl, legal, Or.inr (by simp [raised, cancelled])⟩) stopped
          next other =>
            refine escaped _ g'' e ?_ ((alive.moved moved).moved moved')
            rintro (cut | ⟨-, -, saved | cut⟩)
            · simp [raised] at cut
            · simp [raised] at saved
            · simp [raised, other] at cut
    · -- the state may not follow SUBMITTING
      refine Sat.lift_bind (fun e illegal => ?_) fun state allowed => ?_
      · change Sat _ _ (ite _ _ _) _ _
        rw [if_neg ?_]
        · refine escaped _ g' e ?_ (alive.moved moved)
          rintro (cut | ⟨-, allowed, -⟩)
          · simp [raised] at cut
          · exact legal allowed
        · rintro rfl
          simp [OrderStateMachine.transition, legal] at illegal
      · simp [OrderStateMachine.transition, legal] at allowed

/-- A live execution that has called the transport ends as `closedEnd` says. -/
theorem sat_submit {broker : RobinhoodMcpBroker} {p : TradeProposal}
    {prepared : ExecutionService.Prepared} (live : svc.environment = .live)
    (keeps : KeepsHalts rely) (silent : Silent h) (alive : Alive rely g)
    (own : prepared.command.orderIntentId = prepared.intent.intentId) :
    Sat (liveSpec rely) (closedEnd broker.py rely)
      (svc.submit broker.placeOptionOrder p prepared pending) h g := by
  rw [ExecutionService.submit, sat_bind, sat_attempt]
  apply sat_placeOptionOrder silent alive
  · -- without a write there is nothing to show
    intro h g r silent
    cases r with
    | error e =>
      have unwritten : Emits (fun op : Op => op.isTool = false) (fun _ => False)
          (svc.classifyFailure pending e : Program RobinhoodState BrokerOrder) :=
        ExecutionService.emits_classifyFailure (fun _ => rfl) rfl
      refine unwritten.sat (fun _ _ _ _ _ => trivial) ?_ ?_
      · exact fun rest g e all => closedEnd_silent (silent.append all) g _
      · exact fun _ _ _ _ never => never.elim
    | ok order =>
      have unwritten : Emits (fun op : Op => op.isTool = false) (fun _ => True)
          (ExecutionService.journal pending order "placement" "broker order state observed" :
            Program RobinhoodState Unit) :=
        ExecutionService.emits_journal (fun _ => rfl) rfl rfl
      refine Emits.sat (Emits.bind (ExecutionService.emits_correlate _ order) fun _ _ =>
        unwritten.bind fun _ _ => emits_done _) (fun _ _ _ _ _ => trivial) ?_ ?_
      · exact fun rest g e all => closedEnd_silent (silent.append all) g _
      · exact fun rest g a all _ => closedEnd_silent (silent.append all) g _
  · intro h g name arguments transport r silent alive wired
    have sent := transported_sent silent name arguments transport
    cases wired with
    | caught closes caught =>
      refine sat_classifyFailure_caught live keeps caught fun rest g e halted => ?_
      exact closedEnd_halted (sent rest) closes halted _
    | passed fails escapes =>
      refine sat_classifyFailure_escapes escapes ?_
      exact closedEnd_open (by simpa using sent []) fails alive _
    | unread unread escapes =>
      refine sat_classifyFailure_escapes escapes ?_
      refine closedEnd_open (by simpa using sent []) ?_ alive _
      rintro ⟨ack, read, -⟩
      rw [unread] at read
      cases read
    | @acknowledged raw ack order read same environment state =>
      change Sat _ _ (svc.correlate _ order >>= _) _ _
      rw [ExecutionService.correlate, if_neg]
      · apply Sat.pure_bind
        rw [sat_bind]
        apply sat_journal keeps alive
        · intro rest g e closes halted
          exact closedEnd_halted (sent rest) ⟨ack, read, state ▸ closes⟩ halted _
        · intro rest g closes
          exact closedEnd_returned (sent rest) ⟨ack, read, state ▸ closes⟩ _
        · intro rest g e fails alive
          refine closedEnd_open (sent rest) ?_ alive _
          rintro ⟨ack', read', closes⟩
          rw [read] at read'
          cases read'
          exact fails (state ▸ closes)
      · rw [same, own, environment, live]
        simp

end Service

/-! ### Every run -/

theorem liveExecution_sat (broker : RobinhoodMcpBroker) {rely : Surroundings}
    (keeps : KeepsHalts rely) (x : LiveExecution) :
    Sat (liveSpec rely) (closedEnd broker.py rely)
      (x.svc.executeWith broker.placeOptionOrder x.proposal x.approval x.draws) [] x.origin := by
  have tracks : ExecutionService.Tracks (liveSpec rely) fun _ _ => True :=
    ⟨fun _ => trivial, fun _ _ _ => trivial⟩
  refine ExecutionService.sat_executeWith (fun _ _ _ _ => trivial) (fun _ _ _ _ _ _ => trivial)
    tracks ?_ ?_
  · exact fun h g e unplaced => closedEnd_silent unplaced.silent g _
  · intro y pendingTime recordTime g _ _ cleared
    refine sat_submit x.live keeps ?_ ?_ rfl
    · have unplaced : Unplaced (y.written x.svc x.proposal x.approval pendingTime recordTime) := rfl
      exact unplaced.silent
    · -- the last gates have just seen that the controller is not halted
      intro _ halted
      cases side : x.proposal.side with
      | buyToOpen =>
        have entry := cleared.passed.entry side
        rw [halted] at entry
        cases entry
      | sellToClose => exact cleared.passed.exit side halted

theorem liveRun_consistent {broker : RobinhoodMcpBroker} {rely : Surroundings} {s : LiveSystem}
    (keeps : KeepsHalts rely) (run : Reachable (liveServices broker rely) () s) :
    Consistent (fun _ => liveSpec rely) (fun _ => closedEnd broker.py rely) (fun _ _ => True) s :=
  run.consistent ⟨liveExecution_sat broker keeps, fun _ _ _ _ _ moved => moved⟩
    ⟨fun _ => trivial, fun _ _ => trivial, trivial⟩

/-- A live execution that ends in an exception after its transport was called ends halted
whenever the answers fail closed. Where it alone moves the controller, it does so only then. -/
theorem live_failure_halted_iff (broker : RobinhoodMcpBroker) (rely : Surroundings)
    (keeps : KeepsHalts rely) (s : LiveSystem) (run : Reachable (liveServices broker rely) () s)
    (i : ℕ) (x : LiveExecution) (h : History) (g : Ambient RobinhoodState)
    (r : Except Exc ExecutionResult) (found : s.tasks i = some ⟨x, h, .finished g r⟩)
    (transport : Except Exc ToolResult) (failures : List (Option Exc))
    (sent : transported h = some (transport, failures)) :
    (FailsClosed broker.py transport failures → ExitsClosed g r) ∧
      (LeavesSafety rely → (ExitsClosed g r ↔ FailsClosed broker.py transport failures)) := by
  have ended : closedEnd broker.py rely h g r := (liveRun_consistent keeps run).status found
  obtain ⟨closed, exact_⟩ := ended transport failures sent
  exact ⟨closed, fun leaves => ⟨exact_ leaves, closed⟩⟩

/-! ### A sample placement -/

namespace LiveSample

/-- Conversions that suffice for an acknowledgement without a state or numbers. -/
def py : Builtins where
  str := fun value => match value with
    | .str text => text
    | _ => ""
  repr := fun _ => ""
  strip := id
  upper := id
  int := fun _ => .error (.typeError "")
  decimal := fun _ => .invalidOperation
  loads := fun _ => .decodeError

def broker : RobinhoodMcpBroker := { hashing := Sample.hashing, py }

def service : ExecutionService where
  hashing := Sample.hashing
  risk := { Sample.engine with liveCapitalCeiling := some 1000, ceiling_pos := by simp }
  environment := .live
  namespace_ := "live"
  validate := fun _ arguments => .ok arguments

def surroundings : Ambient RobinhoodState where
  tradingMode := .auto
  killSwitchActive := false
  healthy := true
  now := 20
  safety := { window := 0, state := .normal, reason := "all deterministic health gates passed" }
  interruptedWriteIntents := []
  broker := {}

def execution : LiveExecution where
  svc := service
  proposal := { Sample.proposal 3 with environment := .live, namespace_ := "live" }
  approval := none
  draws := ⟨⟨100⟩, ⟨101⟩, ⟨102⟩⟩
  origin := surroundings
  live := rfl

/-- An acknowledgement that names the order and says nothing of its state. -/
def stateless : ToolResult := .json (.obj [("id", .str "rh-1")])

def account : AccountSnapshot :=
  { Sample.account with
    environment := .live, accountKind := .brokerObserved, isAuthenticated := true }

/-- Collaborators that let the placement through to the transport. -/
def answers (transport : Except Exc ToolResult) : (op : Op) → Except Exc (Ans op)
  | .getEffectiveExecutionAccountState | .getObservedBrokerAccountState => .ok account
  | .reconcile => .ok
      { environment := .live
        reconciledAt := 20
        successful := true
        observedAccount := account
        effectiveAccount := account
        positionCount := 0
        openOrderCount := 0 }
  | .reviewOptionOrder p => .ok ⟨20, ⟨9⟩, .live, p.proposalId, true, [], none, true⟩
  | .authorize command =>
    .ok ⟨20, command.commandIntentId, .live, .authorizedLive, "", false, fun _ => rfl⟩
  | .callTool _ _ => transport
  | op => Sample.answers op

/-- Nothing changes while the execution waits. -/
def still : Surroundings := fun _ g _ g' => g' = g

def run (transport : Except Exc ToolResult) (turns : ℕ) : LiveSystem :=
  (System.turn (fun op d => (answers transport op, d)) id 0)^[turns]
    ((System.idle ()).put 0
      ⟨execution, [], ((liveServices broker still).body execution).settle surroundings⟩)

theorem reachable_run (transport : Except Exc ToolResult) (turns : ℕ) :
    Reachable (liveServices broker still) () (run transport turns) :=
  (Reachable.start Relation.ReflTransGen.refl 0 execution rfl).turns (fun _ _ => trivial)
    (fun _ _ _ => rfl) 0 turns

theorem keepsHalts_still : KeepsHalts still := by
  intro op g r g' moved halted
  rw [show g' = g from moved]
  exact halted

/-- The execution has ended in an exception, in a safety state, after an answer. -/
def endsIn (e : Exc) (state : RuntimeSafetyState) (transport : Except Exc ToolResult → Bool)
    (s : LiveSystem) : Bool :=
  match s.tasks 0 with
  | some ⟨_, h, .finished g (.error e')⟩ =>
    (e' == e && g.safety.state == state) && (transported h).any fun sent => transport sent.1
  | _ => false

theorem of_endsIn {e : Exc} {state : RuntimeSafetyState} {transport : Except Exc ToolResult → Bool}
    {s : LiveSystem} (ends : endsIn e state transport s = true) :
    ∃ x h g answer failures, s.tasks 0 = some ⟨x, h, .finished g (.error e)⟩ ∧
      transported h = some (answer, failures) ∧ transport answer = true ∧ g.safety.state = state := by
  unfold endsIn at ends
  split at ends
  next x h g e' found =>
    obtain ⟨same, any⟩ := Bool.and_eq_true_iff.mp ends
    obtain ⟨⟨answer, failures⟩, sent, passes⟩ := (Option.any_eq_true ..).mp any
    simp only [Bool.and_eq_true, beq_iff_eq] at same
    rw [same.1] at found
    exact ⟨x, h, g, answer, failures, found, sent, passes, same.2⟩
  · cases ends

def isStateless : Except Exc ToolResult → Bool
  | .ok (.json (.obj [("id", .str "rh-1")])) => true
  | _ => false

theorem eq_of_isStateless {transport : Except Exc ToolResult} (same : isStateless transport = true) :
    transport = .ok stateless := by
  unfold isStateless at same
  split at same
  · rfl
  · cases same

def isTimeout : Except Exc ToolResult → Bool
  | .error .timeout => true
  | _ => false

theorem eq_of_isTimeout {transport : Except Exc ToolResult} (same : isTimeout transport = true) :
    transport = .error .timeout := by
  unfold isTimeout at same
  split at same
  · rfl
  · cases same

/-- Both runs, evaluated together. -/
theorem runs_ended :
    endsIn (.invalidOrderTransition "invalid order transition SUBMITTING->SUBMITTING") .normal
        isStateless (run (.ok stateless) 22) = true ∧
      endsIn
        (.submissionUnknown "broker write outcome is unknown; do not retry before reconciliation")
        .halted isTimeout (run (.error .timeout) 23) = true := by
  decide +kernel

theorem run_stateless :
    endsIn (.invalidOrderTransition "invalid order transition SUBMITTING->SUBMITTING") .normal
      isStateless (run (.ok stateless) 22) = true :=
  runs_ended.1

theorem run_timeout :
    endsIn (.submissionUnknown "broker write outcome is unknown; do not retry before reconciliation")
      .halted isTimeout (run (.error .timeout) 23) = true :=
  runs_ended.2

end LiveSample

/-- A transport that times out leaves the controller halted. -/
theorem live_failure_halted_iff_timeout :
    ∃ x h g e failures, (LiveSample.run (.error .timeout) 23).tasks 0 =
        some ⟨x, h, .finished g (.error e)⟩ ∧
      transported h = some (.error .timeout, failures) ∧ ExitsClosed g (.error e) := by
  obtain ⟨x, h, g, answer, failures, found, sent, timeout, -⟩ :=
    LiveSample.of_endsIn LiveSample.run_timeout
  rw [LiveSample.eq_of_isTimeout timeout] at sent
  exact ⟨x, h, g, _, failures, found, sent,
    (live_failure_halted_iff LiveSample.broker LiveSample.still LiveSample.keepsHalts_still _
      (LiveSample.reachable_run _ _) 0 x h g _ found _ _ sent).1 (Or.inl rfl)⟩

/-- The broker acknowledges an order without saying its state. The order is saved, the
state machine refuses SUBMITTING after SUBMITTING, and the execution ends in that exception
with the controller at NORMAL. -/
theorem live_failure_unhalted :
    Reachable (liveServices LiveSample.broker LiveSample.still) ()
        (LiveSample.run (.ok (.json (.obj [("id", .str "rh-1")]))) 22) ∧
      ∃ x h g failures, (LiveSample.run (.ok (.json (.obj [("id", .str "rh-1")]))) 22).tasks 0 =
          some ⟨x, h, .finished g (.error (.invalidOrderTransition
            "invalid order transition SUBMITTING->SUBMITTING"))⟩ ∧
        transported h = some (.ok (.json (.obj [("id", .str "rh-1")])), failures) ∧
        g.safety.state = .normal ∧ ¬ ExitsClosed g (.error (.invalidOrderTransition
          "invalid order transition SUBMITTING->SUBMITTING")) := by
  -- under its name, so that the run is not evaluated again
  have named : ToolResult.json (.obj [("id", .str "rh-1")]) = LiveSample.stateless := rfl
  rw [named]
  refine ⟨LiveSample.reachable_run _ _, ?_⟩
  obtain ⟨x, h, g, answer, failures, found, sent, acknowledged, normal⟩ :=
    LiveSample.of_endsIn LiveSample.run_stateless
  rw [LiveSample.eq_of_isStateless acknowledged] at sent
  refine ⟨x, h, g, failures, found, sent, normal, fun closed => ?_⟩
  have halted := closed _ rfl
  rw [normal] at halted
  cases halted

end Sentry
