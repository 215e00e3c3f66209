import Sentry.Execution.BrokerUpdates
import Sentry.Support.Concurrent

/-!
# The transition journal

What `list_transitions` of `app/execution/postgres_store.py` returns of the transitions that
the calls of `_transition` in `app/execution/service.py` have had recorded. Calls of any number
of service instances and broker updates run at once, with working storage under them. A digest
of the whole record is the key of its row, so the rows are the first occurrences of what was
recorded, in that order.
-/
namespace Sentry

open Support Coroutine

/-! ### Broker updates, await by await -/

/-- What the service awaits. A broker update writes fills and positions, too. -/
inductive UpdateOp where
  | service (op : Op)
  | saveFill (f : JournalledFill)
  | replacePositions (positions : List Position)

abbrev UpdateAns : UpdateOp → Type
  | .service op => Ans op
  | .saveFill _ | .replacePositions _ => Unit

abbrev UpdateProgram (B α : Type) := Coroutine (Ambient B) Exc UpdateAns α

abbrev UpdateOp.ask {B : Type} (op : UpdateOp) : UpdateProgram B (UpdateAns op) := call op

namespace ExecutionService

variable {B : Type} (svc : ExecutionService)

/-- The transition of an update that moves its order. -/
def observeUpdate (u : BrokerUpdate) (local_ : BrokerOrder) : UpdateProgram B Unit :=
  if u.changes local_ then
    embed UpdateOp.service (transition u.order.intentId local_.state u.order.state
      "broker fill/order update observed" u.reconciliationEvidence)
  else pure ()

/-- The checks of an update against the durable order. -/
def checkUpdate (u : BrokerUpdate) (durable : Option BrokerOrder) : Except Exc BrokerOrder :=
  match durable with
  | none => .error (.executionDenied "broker update has no matching durable local order")
  | some local_ =>
    if u.order.environment ≠ svc.environment then
      .error (.executionDenied "broker update environment does not match startup binding")
    else if u.order.orderId ≠ local_.orderId ∨ u.order.contract ≠ local_.contract ∨
        u.order.side ≠ local_.side ∨ u.order.quantity ≠ local_.quantity then
      .error (.executionDenied "broker update does not match the durable exact order")
    else if u.order.filledQuantity < local_.filledQuantity then
      .error (.executionDenied "broker update would decrease filled quantity")
    else if u.fills.any fun f => f.fill.orderId ≠ u.order.orderId then
      .error (.executionDenied "fill does not belong to the updated exact order")
    else if u.positions.any fun position => position.environment ≠ svc.environment then
      .error (.executionDenied "position snapshot environment does not match startup binding")
    else .ok local_

/-- `record_broker_update` as a program of its awaits. -/
def recordUpdate (u : BrokerUpdate) : UpdateProgram B Unit := do
  let durable ← UpdateOp.ask (.service (.getOrder u.order.intentId))
  let local_ ← lift (svc.checkUpdate u durable)
  observeUpdate u local_
  UpdateOp.ask (.service (.saveOrder u.order))
  u.fills.forM fun f => UpdateOp.ask (.saveFill f)
  UpdateOp.ask (.replacePositions u.positions)

end ExecutionService

/-! ### Working storage -/

/-- The tables, and the transitions whose `_transition` the storage has accepted, in the order
in which it did. -/
structure AuditedTables where
  tables : Tables
  calls : List StateTransitionRecord

namespace AuditedTables

/-- The calls for one intent. -/
def callsFor (b : AuditedTables) (intentId : UUID) : List StateTransitionRecord :=
  b.calls.filter fun record => record.intentId == intentId

/-- A write of the store, which is made or refused. -/
def write (w : Write Tables Exc) (b : AuditedTables) : Except Exc Unit × AuditedTables :=
  match w b.tables with
  | .ok t => (.ok (), { b with tables := t })
  | .error e => (.error e, b)

def record (record : StateTransitionRecord) (b : AuditedTables) :
    Except Exc Unit × AuditedTables :=
  match PostgresExecutionStore.recordTransition record b.tables with
  | .ok t => (.ok (), ⟨t, b.calls ++ [record]⟩)
  | .error e => (.error e, b)

variable (binding : ExecutionEnvironment)

/-- What an operation does when the storage works. The other collaborators answer as they
like. -/
def performs :
    (op : UpdateOp) → AuditedTables → Except Exc (UpdateAns op) → AuditedTables → Prop
  | .service (.recordTransition r), b, answer, b' => (answer, b') = b.record r
  | .service (.saveOrder order), b, answer, b' =>
    (answer, b') = b.write (PostgresExecutionStore.writeOrder binding order)
  | .saveFill f, b, answer, b' => (answer, b') = b.write (PostgresExecutionStore.writeFill f)
  | .replacePositions positions, b, answer, b' =>
    (answer, b') = b.write (PostgresExecutionStore.replacePositions binding positions)
  | .service op, b, answer, b' => Sentry.performs op b.tables.rows answer b'.tables.rows ∧
      b' = { b with tables := { b.tables with rows := b'.tables.rows } }

end AuditedTables

/-! ### Runs -/

inductive JournalCall where
  | execute (svc : ExecutionService) (p : TradeProposal) (approval : Option ExactApproval)
      (draws : Draws)
  | cancelOrder (svc : ExecutionService) (target : BrokerOrder) (limitPrice : Decimal)
      (written : limitPrice.val = target.limitPrice)
  | reconcileSubmission (svc : ExecutionService) (intentId : UUID)
  | recordBrokerUpdate (svc : ExecutionService) (u : BrokerUpdate)

inductive JournalResult where
  | executed (result : ExecutionResult)
  | canceled (result : CancellationResult)
  | reconciled (result : SubmissionReconciliation)
  | updated

def JournalCall.body {B : Type} : JournalCall → UpdateProgram B JournalResult
  | .execute svc p approval draws => do
    let result ← embed UpdateOp.service (svc.execute p approval draws)
    pure (.executed result)
  | .cancelOrder svc target limitPrice written => do
    let result ← embed UpdateOp.service (svc.cancelOrder target limitPrice written)
    pure (.canceled result)
  | .reconcileSubmission svc intentId => do
    let result ← embed UpdateOp.service (svc.reconcileSubmission intentId)
    pure (.reconciled result)
  | .recordBrokerUpdate svc u => do
    svc.recordUpdate u
    pure .updated

abbrev JournalCrew := Crew (Ambient AuditedTables) Exc UpdateAns JournalResult JournalCall

/-- The calls over one store. Whatever is not its business may change at any time: the clock
may stand still, and a call may be cancelled wherever it waits. -/
def journalling (binding : ExecutionEnvironment) :
    Concurrent (Ambient AuditedTables) Exc UpdateAns JournalResult JournalCall where
  body := JournalCall.body
  performs op g answer g' :=
    AuditedTables.performs binding op g.broker answer g'.broker ∧
      g' = { g with broker := g'.broker }
  event g g' := g'.broker = g.broker

/-! ### An update by itself -/

/-- How the storage answers what an update awaits. -/
def AuditedTables.answer (binding : ExecutionEnvironment) :
    (op : UpdateOp) → Ambient AuditedTables → Except Exc (UpdateAns op) × Ambient AuditedTables
  | .service (.getOrder id), g => (.ok (g.broker.tables.rows.getOrder id), g)
  | .service (.recordTransition r), g =>
    ((g.broker.record r).1, g.adapt fun b => (b.record r).2)
  | .service (.saveOrder order), g =>
    ((g.broker.write (PostgresExecutionStore.writeOrder binding order)).1,
      g.adapt fun b => (b.write (PostgresExecutionStore.writeOrder binding order)).2)
  | .saveFill f, g =>
    ((g.broker.write (PostgresExecutionStore.writeFill f)).1,
      g.adapt fun b => (b.write (PostgresExecutionStore.writeFill f)).2)
  | .replacePositions positions, g =>
    ((g.broker.write (PostgresExecutionStore.replacePositions binding positions)).1,
      g.adapt fun b => (b.write (PostgresExecutionStore.replacePositions binding positions)).2)
  | .service _, g => (.error (.unlisted "not asked for"), g)

theorem AuditedTables.answer_performs (binding : ExecutionEnvironment) (op : UpdateOp)
    (g : Ambient AuditedTables) :
    (journalling binding).performs op g (AuditedTables.answer binding op g).1
      (AuditedTables.answer binding op g).2 := by
  cases op with
  | saveFill f => exact ⟨rfl, rfl⟩
  | replacePositions positions => exact ⟨rfl, rfl⟩
  | service op =>
    cases op with
    | recordTransition r => exact ⟨rfl, rfl⟩
    | saveOrder order => exact ⟨rfl, rfl⟩
    | getOrder id => exact ⟨⟨⟨rfl, fun _ same => (Except.ok.inj same).symm⟩, rfl⟩, rfl⟩
    | _ => exact ⟨⟨performs_refused _ _ _, rfl⟩, rfl⟩

namespace ExecutionService

open PostgresExecutionStore

variable {binding : ExecutionEnvironment} {now : Time} {p q : UpdateProgram AuditedTables Unit}
  {ws vs : List (Write Tables Exc)}

/-- At a clock reading, the program makes the writes. -/
def Does (binding : ExecutionEnvironment) (now : Time) (p : UpdateProgram AuditedTables Unit)
    (ws : List (Write Tables Exc)) : Prop :=
  ∀ g, g.now = now →
    (run (AuditedTables.answer binding) p g).1 = (Write.perform ws g.broker.tables).1 ∧
      (run (AuditedTables.answer binding) p g).2.broker.tables =
        (Write.perform ws g.broker.tables).2 ∧
      (run (AuditedTables.answer binding) p g).2.now = now

theorem does_pure : Does binding now (pure ()) [] := fun _ clock => ⟨rfl, rfl, clock⟩

theorem Does.bind (first : Does binding now p ws) (rest : Does binding now q vs) :
    Does binding now (p >>= fun _ => q) (ws ++ vs) := by
  intro g clock
  obtain ⟨outcome, tables, later⟩ := first g clock
  rw [run_bind, Write.perform_append]
  revert outcome tables later
  generalize run (AuditedTables.answer binding) p g = left
  generalize Write.perform ws g.broker.tables = right
  obtain ⟨r, g'⟩ := left
  obtain ⟨r', t⟩ := right
  rintro rfl rfl later
  cases r with
  | error e => exact ⟨rfl, rfl, later⟩
  | ok _ => exact rest g' later

theorem write_eq_perform (w : Write Tables Exc) (b : AuditedTables) :
    (b.write w).1 = (Write.perform [w] b.tables).1 ∧
      (b.write w).2.tables = (Write.perform [w] b.tables).2 := by
  unfold AuditedTables.write
  cases went : w b.tables with
  | error e => simp [Write.perform_cons_error went]
  | ok t => simp [Write.perform_cons_ok went]

theorem does_saveOrder (order : BrokerOrder) :
    Does binding now (UpdateOp.ask (.service (.saveOrder order))) [writeOrder binding order] := by
  intro g clock
  rw [run_call]
  obtain ⟨outcome, tables⟩ := write_eq_perform (writeOrder binding order) g.broker
  exact ⟨outcome, tables, clock⟩

theorem does_saveFills (fills : List JournalledFill) :
    Does binding now (fills.forM fun f => UpdateOp.ask (.saveFill f)) (fills.map writeFill) := by
  induction fills with
  | nil => exact does_pure
  | cons f rest ih =>
    have first : Does binding now (UpdateOp.ask (.saveFill f)) [writeFill f] := by
      intro g clock
      rw [run_call]
      obtain ⟨outcome, tables⟩ := write_eq_perform (writeFill f) g.broker
      exact ⟨outcome, tables, clock⟩
    exact first.bind ih

theorem does_replacePositions (positions : List Position) :
    Does binding now (UpdateOp.ask (.replacePositions positions))
      [replacePositions binding positions] := by
  intro g clock
  rw [run_call]
  obtain ⟨outcome, tables⟩ := write_eq_perform (replacePositions binding positions) g.broker
  exact ⟨outcome, tables, clock⟩

theorem writeTransition_eq {record : StateTransitionRecord} {t : Tables}
    {x : Except Exc OrderState} (asked : OrderStateMachine.transition record.previous
      record.current record.reconciliationEvidence = x) :
    writeTransition record t = x >>= fun _ => recordTransition record t := by
  rw [writeTransition, asked]

theorem run_transition (binding : ExecutionEnvironment) (g : Ambient AuditedTables)
    (record : StateTransitionRecord) (clock : record.recordedAt = g.now) :
    run (AuditedTables.answer binding) (embed UpdateOp.service (transition record.intentId
      record.previous record.current record.reason record.reconciliationEvidence)) g =
      match OrderStateMachine.transition record.previous record.current
        record.reconciliationEvidence with
      | .error e => (.error e, g)
      | .ok _ => AuditedTables.answer binding (.service (.recordTransition record)) g := by
  rw [transition]
  cases OrderStateMachine.transition record.previous record.current
      record.reconciliationEvidence with
  | error e => rfl
  | ok state =>
    change run (AuditedTables.answer binding)
      (embed UpdateOp.service (call (.recordTransition _))) g = _
    rw [embed_call, run_call]
    dsimp only
    rw [← clock]

theorem does_observeUpdate (u : BrokerUpdate) (local_ : BrokerOrder) :
    Does binding now (observeUpdate u local_)
      (if u.changes local_ then [writeTransition (u.transition now local_)] else []) := by
  unfold observeUpdate
  by_cases moved : u.changes local_ = true
  · rw [if_pos moved, if_pos moved]
    rintro g rfl
    have ran := run_transition binding g (u.transition g.now local_) rfl
    change run (AuditedTables.answer binding) (embed UpdateOp.service (transition u.order.intentId
      local_.state u.order.state "broker fill/order update observed" u.reconciliationEvidence)) g =
        _ at ran
    rw [ran]
    cases legal : OrderStateMachine.transition (u.transition g.now local_).previous
        (u.transition g.now local_).current (u.transition g.now local_).reconciliationEvidence with
    | error e =>
      rw [Write.perform_cons_error (writeTransition_eq legal)]
      exact ⟨rfl, rfl, rfl⟩
    | ok state =>
      simp only [AuditedTables.answer, AuditedTables.record, Ambient.adapt]
      cases went : recordTransition (u.transition g.now local_) g.broker.tables with
      | error e => simp [Write.perform_cons_error ((writeTransition_eq legal).trans went)]
      | ok t => simp [Write.perform_cons_ok ((writeTransition_eq legal).trans went)]
  · rw [if_neg moved, if_neg moved]
    exact does_pure

/-- By itself an update makes the writes of `recordBrokerUpdate`, up to the same refusal. -/
theorem run_recordUpdate (svc : ExecutionService) (binding : ExecutionEnvironment)
    (u : BrokerUpdate) (g : Ambient AuditedTables) :
    (run (AuditedTables.answer binding) (svc.recordUpdate u) g).1 =
        (svc.recordBrokerUpdate binding g.now u g.broker.tables).1 ∧
      (run (AuditedTables.answer binding) (svc.recordUpdate u) g).2.broker.tables =
        (svc.recordBrokerUpdate binding g.now u g.broker.tables).2 := by
  have checked : svc.admitUpdate u g.broker.tables =
      svc.checkUpdate u (g.broker.tables.rows.getOrder u.order.intentId) := rfl
  rw [recordUpdate, run_bind, run_call, recordBrokerUpdate, checked]
  simp only [AuditedTables.answer]
  rw [run_bind, run_lift]
  cases svc.checkUpdate u (g.broker.tables.rows.getOrder u.order.intentId) with
  | error e => exact ⟨rfl, rfl⟩
  | ok local_ =>
    have stored : Does binding g.now _ _ := (does_saveFills u.fills).bind
      (does_replacePositions u.positions)
    obtain ⟨outcome, tables, -⟩ :=
      ((does_observeUpdate u local_).bind ((does_saveOrder u.order).bind stored)) g rfl
    dsimp only
    rw [updateWrites, List.append_assoc]
    exact ⟨outcome, tables⟩

end ExecutionService

namespace PostgresExecutionStore

/-- `list_transitions`: the rows of the intent, newest first. -/
def listTransitions (intentId : UUID) (t : Tables) : Except Exc (List StateTransitionRecord) :=
  let rows := t.transitions.reverse.filter fun record => record.intentId == intentId
  if 100000 < rows.length then
    .error (.safetyCritical "execution audit scan bound exceeded; reconciliation required")
  else .ok rows

end PostgresExecutionStore

/-! ### What each operation does to the journal -/

namespace PostgresExecutionStore

variable {binding : ExecutionEnvironment} {t t' : Tables}

theorem recordTransition_ok {record : StateTransitionRecord}
    (went : recordTransition record t = .ok t') :
    t'.transitions =
      if record ∈ t.transitions then t.transitions else t.transitions ++ [record] := by
  unfold recordTransition at went
  split at went
  · cases went
  split at went
  · cases went
  split at went
  next again =>
    cases went
    rw [if_pos again]
  next new =>
    cases went
    rw [if_neg new]

/-- The other writes leave the transitions alone. -/
def SparesTransitions (w : Write Tables Exc) : Prop :=
  ∀ t t', w t = .ok t' → t'.transitions = t.transitions

theorem writeOrder_spares (order : BrokerOrder) : SparesTransitions (writeOrder binding order) := by
  intro t t' went
  unfold writeOrder at went
  split at went
  · cases went
  cases saved : saveOrder order t.rows with
  | error e =>
    rw [saved] at went
    cases went
  | ok rows =>
    rw [saved] at went
    cases went
    rfl

theorem writeFill_spares (f : JournalledFill) : SparesTransitions (writeFill f) := by
  intro t t' went
  rw [writeFill_frame went]

theorem replacePositions_spares (positions : List Position) :
    SparesTransitions (replacePositions binding positions) := by
  intro t t' went
  rw [replacePositions_frame went]

end PostgresExecutionStore

namespace AuditedTables

open PostgresExecutionStore

variable {binding : ExecutionEnvironment} {b b' : AuditedTables}

/-- The journal holds what was recorded, each record once, where it came first. -/
structure Kept (b : AuditedTables) : Prop where
  distinct : b.tables.transitions.Nodup
  ordered : b.tables.transitions.Sublist b.calls
  complete : ∀ record ∈ b.calls, record ∈ b.tables.transitions

theorem Kept.record (kept : b.Kept) (r : StateTransitionRecord) : (b.record r).2.Kept := by
  unfold AuditedTables.record
  split
  next t went =>
    have transitions := recordTransition_ok went
    by_cases again : r ∈ b.tables.transitions
    · rw [if_pos again] at transitions
      constructor
      · exact transitions ▸ kept.distinct
      · exact transitions ▸ kept.ordered.trans (List.sublist_append_left _ _)
      · intro record member
        rw [transitions]
        rcases List.mem_append.mp member with old | new
        · exact kept.complete record old
        · exact List.mem_singleton.mp new ▸ again
    · rw [if_neg again] at transitions
      constructor
      · rw [transitions]
        exact kept.distinct.append (List.nodup_singleton r) (by simpa using again)
      · rw [transitions]
        exact kept.ordered.append (List.Sublist.refl [r])
      · intro record member
        rw [transitions]
        rcases List.mem_append.mp member with old | new
        · exact List.mem_append_left _ (kept.complete record old)
        · exact List.mem_append_right _ new
  · exact kept

theorem Kept.of_transitions (kept : b.Kept) (calls : b'.calls = b.calls)
    (same : b'.tables.transitions = b.tables.transitions) : b'.Kept := by
  constructor
  · exact same ▸ kept.distinct
  · exact calls ▸ same ▸ kept.ordered
  · exact calls ▸ same ▸ kept.complete

theorem Kept.write (kept : b.Kept) {w : Write Tables Exc} (spares : SparesTransitions w) :
    (b.write w).2.Kept := by
  unfold AuditedTables.write
  split
  next t went => exact kept.of_transitions rfl (spares _ _ went)
  · exact kept

theorem Kept.performs (kept : b.Kept) {op : UpdateOp} {answer : Except Exc (UpdateAns op)}
    (performed : AuditedTables.performs binding op b answer b') : b'.Kept := by
  have rows : ∀ {op : Op} {answer : Except Exc (Ans op)},
      (Sentry.performs op b.tables.rows answer b'.tables.rows ∧
        b' = { b with tables := { b.tables with rows := b'.tables.rows } }) → b'.Kept := by
    intro op answer performed
    rw [performed.2]
    exact kept.of_transitions rfl rfl
  cases op with
  | saveFill f =>
    have moved : b' = (b.write (writeFill f)).2 := congrArg Prod.snd performed
    exact moved ▸ kept.write (writeFill_spares f)
  | replacePositions positions =>
    have moved : b' = (b.write (replacePositions binding positions)).2 :=
      congrArg Prod.snd performed
    exact moved ▸ kept.write (replacePositions_spares positions)
  | service op =>
    cases op with
    | recordTransition record =>
      have moved : b' = (b.record record).2 := congrArg Prod.snd performed
      exact moved ▸ kept.record record
    | saveOrder order =>
      have moved : b' = (b.write (writeOrder binding order)).2 := congrArg Prod.snd performed
      exact moved ▸ kept.write (writeOrder_spares order)
    | _ => exact rows performed

end AuditedTables

/-! ### Every run -/

section Keeping

variable {B : Type} {I : Ambient B → Prop}

theorem keeps_observeUpdate (u : BrokerUpdate) (local_ : BrokerOrder) :
    Keeps I (ExecutionService.observeUpdate u local_ : UpdateProgram B Unit) := by
  unfold ExecutionService.observeUpdate
  split
  · exact Keeps.embed UpdateOp.service ExecutionService.keeps_transition
  · exact keeps_pure ()

theorem keeps_saveFills (fills : List JournalledFill) :
    Keeps I (fills.forM fun f => UpdateOp.ask (.saveFill f) : UpdateProgram B Unit) := by
  induction fills with
  | nil => exact keeps_pure ()
  | cons f rest ih => exact (keeps_call _).bind fun _ => ih

theorem keeps_recordUpdate (svc : ExecutionService) (u : BrokerUpdate) :
    Keeps I (svc.recordUpdate u : UpdateProgram B Unit) := by
  refine (keeps_call _).bind fun durable => (keeps_lift _).bind fun local_ => ?_
  refine (keeps_observeUpdate u local_).bind fun _ => (keeps_call _).bind fun _ => ?_
  exact (keeps_saveFills _).bind fun _ => keeps_call _

/-- A call changes what stops trading and its latch, and leaves the rest to what it awaits. -/
theorem JournalCall.keeps_body (spared : Spared I) (c : JournalCall) :
    Keeps I (c.body : UpdateProgram B JournalResult) := by
  cases c with
  | execute svc p approval draws =>
    exact Keeps.bind (Keeps.embed UpdateOp.service (ExecutionService.keeps_execute spared))
      fun _ => keeps_pure _
  | cancelOrder svc target limitPrice written =>
    exact Keeps.bind (Keeps.embed UpdateOp.service (ExecutionService.keeps_cancelOrder spared))
      fun _ => keeps_pure _
  | reconcileSubmission svc intentId =>
    exact Keeps.bind (Keeps.embed UpdateOp.service ExecutionService.keeps_reconcileSubmission)
      fun _ => keeps_pure _
  | recordBrokerUpdate svc u => exact (keeps_recordUpdate svc u).bind fun _ => keeps_pure _

end Keeping

/-- A store on which every transition that was recorded so far is in its journal once. -/
structure AuditedTables.Begun (b : AuditedTables) : Prop where
  calls : b.calls = b.tables.transitions
  distinct : b.tables.transitions.Nodup

theorem AuditedTables.Begun.kept {b : AuditedTables} (begun : b.Begun) : b.Kept where
  distinct := begun.distinct
  ordered := begun.calls ▸ List.Sublist.refl _
  complete := by
    intro record member
    exact begun.calls ▸ member

section Runs

variable {binding : ExecutionEnvironment} {g : Ambient AuditedTables}
  {s : JournalCrew}

theorem kept_reachable (begun : g.broker.Begun) (run : (journalling binding).Reachable g s) :
    s.state.broker.Kept := by
  have spared : Spared fun g : Ambient AuditedTables => g.broker.Kept :=
    ⟨fun _ _ kept => kept, fun _ _ kept => kept⟩
  refine run.holds (I := fun g => g.broker.Kept) ?_ ?_ (JournalCall.keeps_body spared) begun.kept
  · intro g g' moved kept
    exact moved ▸ kept
  · intro op g answer g' performed kept
    exact kept.performs performed.1

/-- Two lists with the same elements, one of them a part of the other and without repetition. -/
theorem eq_iff_nodup_of_sublist {α : Type} {l l' : List α} (distinct : l.Nodup)
    (sublist : l.Sublist l') (complete : ∀ a ∈ l', a ∈ l) : l = l' ↔ l'.Nodup := by
  constructor
  · rintro rfl
    exact distinct
  · intro distinct'
    apply sublist.eq_of_length_le
    exact (List.subperm_of_subset distinct' complete).length_le

/-- What `list_transitions` returns of an intent, oldest first, are the transitions recorded
for it, without those that repeat an earlier one. So it is all of them if and only if no two of
them have the same states, reason, evidence and clock reading. -/
theorem list_transitions_eq_iff (binding : ExecutionEnvironment) (begun : g.broker.Begun)
    (run : (journalling binding).Reachable g s) (intentId : UUID)
    {shown : List StateTransitionRecord}
    (listed : PostgresExecutionStore.listTransitions intentId s.state.broker.tables = .ok shown) :
    shown.reverse.Sublist (s.state.broker.callsFor intentId) ∧
      (∀ record ∈ s.state.broker.callsFor intentId, record ∈ shown) ∧
      (shown.reverse = s.state.broker.callsFor intentId ↔
        (s.state.broker.callsFor intentId).Nodup) := by
  have kept := kept_reachable begun run
  have rows : shown.reverse =
      s.state.broker.tables.transitions.filter fun record => record.intentId == intentId := by
    unfold PostgresExecutionStore.listTransitions at listed
    dsimp only at listed
    split at listed
    · cases listed
    · cases listed
      rw [List.filter_reverse, List.reverse_reverse]
  have sublist : shown.reverse.Sublist (s.state.broker.callsFor intentId) := by
    rw [rows]
    exact kept.ordered.filter _
  have complete : ∀ record ∈ s.state.broker.callsFor intentId, record ∈ shown.reverse := by
    intro record member
    obtain ⟨called, own⟩ := List.mem_filter.mp member
    rw [rows]
    exact List.mem_filter.mpr ⟨kept.complete record called, own⟩
  have distinct : shown.reverse.Nodup := rows ▸ kept.distinct.filter _
  refine ⟨sublist, fun record member => ?_, eq_iff_nodup_of_sublist distinct sublist complete⟩
  exact List.mem_reverse.mp (complete record member)

end Runs

/-! ### Two fills at one clock reading -/

namespace TransitionSample

open Sample

theorem four_contracts : (0 : ℤ) < 4 := by decide

/-- An order for four contracts, of which `filled` are filled. -/
def partialOrder (filled : ℤ) : BrokerOrder :=
  { openOrder with
    state := .partial_, quantity := 4, filledQuantity := filled, quantity_pos := four_contracts }

/-- Its journal so far. -/
def earlier : List StateTransitionRecord :=
  [{ intentId := placed.intentId, previous := .intentPersisted, current := .submitting,
     reason := "durable command ready", recordedAt := 10 },
    { intentId := placed.intentId, previous := .submitting, current := .partial_,
      reason := "broker order state observed", recordedAt := 10 }]

def books : AuditedTables where
  tables :=
    { rows := { orderIntents := [placed], orders := [partialOrder 1] }, transitions := earlier }
  calls := earlier

theorem begun : books.Begun := ⟨rfl, by decide⟩

def ambient : Ambient AuditedTables where
  tradingMode := .auto
  killSwitchActive := false
  healthy := true
  now := 20
  safety := surroundings.safety
  interruptedWriteIntents := []
  broker := books

def update (filled : ℤ) : JournalCall :=
  .recordBrokerUpdate service { order := partialOrder filled }

/-- An update from its start to its end. -/
def observe (i : ℕ) (filled : ℤ) (s : JournalCrew) : JournalCrew :=
  (Crew.turn (AuditedTables.answer .demo) i)^[4] (s.start i (update filled) (update filled).body)

/-- Two more contracts are filled, one after the other, while the clock stands at 20. -/
def fills : JournalCrew :=
  observe 1 3 (observe 0 2 (.idle ambient))

theorem reachable_fills :
    (journalling .demo).Reachable ambient fills := by
  have one : ∀ {s}, (journalling .demo).Reachable ambient s →
      ∀ i filled, (journalling .demo).Reachable ambient
        (observe i filled s) := by
    intro s reached i filled
    exact Concurrent.Reachable.turns (reached.start i (update filled) trivial)
      (AuditedTables.answer_performs .demo) i 4
  exact one (one .refl 0 2) 1 3

/-- The transition of each of the two. -/
def filling : StateTransitionRecord where
  intentId := placed.intentId
  previous := .partial_
  current := .partial_
  reason := "broker fill/order update observed"
  recordedAt := 20

theorem calls_fills :
    fills.state.broker.callsFor placed.intentId = earlier ++ [filling, filling] := by
  decide +kernel

theorem listed_fills :
    PostgresExecutionStore.listTransitions placed.intentId fills.state.broker.tables =
      .ok (earlier ++ [filling]).reverse := by
  decide +kernel

end TransitionSample

/-- The second of the two repeats the first, and is missing from what is listed. -/
theorem list_transitions_eq_iff_fills :
    ((TransitionSample.earlier ++ [TransitionSample.filling]).reverse.reverse.Sublist
        (TransitionSample.fills.state.broker.callsFor Sample.placed.intentId)) ∧
      (∀ record ∈ TransitionSample.fills.state.broker.callsFor Sample.placed.intentId,
        record ∈ (TransitionSample.earlier ++ [TransitionSample.filling]).reverse) ∧
      ((TransitionSample.earlier ++ [TransitionSample.filling]).reverse.reverse =
          TransitionSample.fills.state.broker.callsFor Sample.placed.intentId ↔
        (TransitionSample.fills.state.broker.callsFor Sample.placed.intentId).Nodup) :=
  list_transitions_eq_iff .demo TransitionSample.begun TransitionSample.reachable_fills
    Sample.placed.intentId TransitionSample.listed_fills

/-- Of two fills that are observed at one clock reading, the journal keeps one transition. -/
theorem list_transitions_merged :
    ¬ ∀ (binding : ExecutionEnvironment) (g : Ambient AuditedTables) (s : JournalCrew),
      g.broker.Begun → (journalling binding).Reachable g s →
      ∀ intentId shown,
        PostgresExecutionStore.listTransitions intentId s.state.broker.tables = .ok shown →
        shown.reverse = s.state.broker.callsFor intentId := by
  intro complete
  have same := complete .demo _ _ TransitionSample.begun TransitionSample.reachable_fills
    Sample.placed.intentId _ TransitionSample.listed_fills
  rw [TransitionSample.calls_fills] at same
  have lengths := congrArg List.length same
  simp at lengths

end Sentry
