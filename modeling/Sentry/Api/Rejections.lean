import Sentry.Api.Proposals
import Sentry.Execution.Guarantees

/-!
# Whether a rejection is final

Approvals, rejections and dispatches of either runtime interleave at every await, while the
trading mode, the view and the clock move as they like. A rejection row is obeyed by every
dispatch that starts later as long as no approval row is appended on top of it; an approval
that was under way when its proposal was rejected does exactly that.
-/
namespace Sentry

open Support Coroutine Relation AuditRow

namespace ApprovalDesk

/-- A rejection row of the proposal has been appended. -/
def RejectedIn (id : UUID) (rows : List (AuditRow ExactApproval)) : Prop :=
  ∃ row ∈ rows, row.payload.proposalId = id ∧ row.payload.rejected = true

/-- After a rejection row of a proposal there are only rejection rows of it. -/
def RejectionsStand (rows : List (AuditRow ExactApproval)) : Prop :=
  rows.Pairwise fun a b => a.payload.proposalId = b.payload.proposalId →
    a.payload.rejected = true → b.payload.rejected = true

def ofProposal (id : UUID) (a : ExactApproval) : Bool := a.proposalId == id

theorem findPayload_rejected {id : UUID} {rows : List (AuditRow ExactApproval)}
    (stand : RejectionsStand rows) (rejected : RejectedIn id rows) :
    ∃ row, findPayload (ofProposal id) rows = some row ∧ row.payload.rejected = true := by
  induction rows using List.reverseRecOn with
  | nil =>
    obtain ⟨row, member, -⟩ := rejected
    cases member
  | append_singleton rows last ih =>
    rw [RejectionsStand, List.pairwise_append] at stand
    rw [findPayload_append]
    obtain ⟨row, member, about, refused⟩ := rejected
    by_cases same : last.payload.proposalId = id
    · refine ⟨last, by simp [ofProposal, same], ?_⟩
      rcases List.mem_append.mp member with earlier | new
      · exact stand.2.2 row earlier last (by simp) (about.trans same.symm) refused
      · cases List.mem_singleton.mp new
        exact refused
    · have earlier : row ∈ rows := by
        rcases List.mem_append.mp member with earlier | new
        · exact earlier
        · cases List.mem_singleton.mp new
          exact absurd about same
      simp only [ofProposal, beq_iff_eq, same, if_false]
      exact ih stand.1 ⟨row, earlier, about, refused⟩

/-! ### The world -/

inductive Request where
  | approve (proposalId : UUID) (request : ApprovalRequest) (draws : ApprovalDraws)
  | reject (proposalId : UUID) (draws : ApprovalDraws)
  | dispatchOffline
  | dispatchShadow

def Request.body (H : Hashing) : Request → DeskProgram Unit
  | .approve proposalId request draws => approveProposal H proposalId request draws
  | .reject proposalId draws => rejectProposal H proposalId draws
  | .dispatchOffline => dispatchProposalsOffline H
  | .dispatchShadow => dispatchProposalsShadow H

/-- The guard of the repository, and the append. -/
def appendApproval (a : ExactApproval) (g : ApprovalDesk) : Except DeskExc Unit × ApprovalDesk :=
  if a.environment ≠ g.view.binding.environment then
    (.error (.raised (.safetyCritical "cross-environment persistence attempt")), g)
  else if a.namespace_ ≠ g.view.binding.idempotencyNamespace then
    (.error (.raised (.safetyCritical "cross-namespace persistence attempt")), g)
  else (.ok (), { g with approvals := AuditRow.append a g.approvals })

/-- Storage works; the execution service and the store of intents answer as they like. An
execution saves no approval but the one it was given, which is in the table already. -/
def performs : (op : DeskOp) → ApprovalDesk → Except DeskExc (DeskAns op) → ApprovalDesk → Prop
  | .append (.approval a), g, r, g' => (r, g') = g.appendApproval a
  | .append (.auditEvent _ _), g, r, g' => r = .ok () ∧ g' = g
  | .findApproval id, g, r, g' => r = .ok (findPayload (ofProposal id) g.approvals) ∧ g' = g
  | .listProposals limit before, g, r, g' =>
    r = .ok (listPayloads (fun _ => true) limit before g.tradeProposals) ∧ g' = g
  | .findIntentByFingerprint _, g, _, g' => g' = g
  | .execute _ _, g, _, g' => g'.approvals = g.approvals
  | .syncExecutionJournal, g, _, g' => g'.approvals = g.approvals
  | .refreshViewFromLedger, g, _, g' => g'.approvals = g.approvals

def world (H : Hashing) : Concurrent ApprovalDesk DeskExc DeskAns Unit Request where
  body := Request.body H
  performs := performs
  event g g' := g'.approvals = g.approvals

/-- No approval row is appended for a proposal that has a rejection row. -/
def Unopposed (g g' : ApprovalDesk) : Prop :=
  ∀ row, g'.approvals = g.approvals ++ [row] → row.payload.rejected = false →
    ¬ RejectedIn row.payload.proposalId g.approvals

/-- The world of the runs all of whose steps keep to that. -/
def unopposed (H : Hashing) : Concurrent ApprovalDesk DeskExc DeskAns Unit Request :=
  { world H with performs := fun op g r g' => performs op g r g' ∧ Unopposed g g' }

/-! ### What every step does -/

def Kept (g g' : ApprovalDesk) : Prop :=
  ∀ id, RejectedIn id g.approvals → RejectedIn id g'.approvals

theorem kept_of_same {g g' : ApprovalDesk} (same : g'.approvals = g.approvals) : Kept g g' := by
  intro id rejected
  rwa [same]

/-- An operation leaves the table alone, or it is the append of a row. -/
theorem performs_approvals {op : DeskOp} {g g' : ApprovalDesk} {r : Except DeskExc (DeskAns op)}
    (performed : performs op g r g') : g'.approvals = g.approvals ∨
      ∃ a, op = .append (.approval a) ∧ g'.approvals = AuditRow.append a g.approvals := by
  cases op with
  | append record =>
    cases record with
    | approval a =>
      change (r, g') = g.appendApproval a at performed
      unfold appendApproval at performed
      split at performed
      · cases performed
        exact Or.inl rfl
      · split at performed
        · cases performed
          exact Or.inl rfl
        · cases performed
          exact Or.inr ⟨a, rfl, rfl⟩
    | auditEvent => exact Or.inl (by rw [performed.2])
  | findApproval => exact Or.inl (by rw [performed.2])
  | listProposals => exact Or.inl (by rw [performed.2])
  | findIntentByFingerprint =>
    cases performed
    exact Or.inl rfl
  | execute => exact Or.inl performed
  | syncExecutionJournal => exact Or.inl performed
  | refreshViewFromLedger => exact Or.inl performed

theorem unopposed_performs {op : DeskOp} {g g' : ApprovalDesk} {r : Except DeskExc (DeskAns op)}
    (performed : performs op g r g') (unopposed : Unopposed g g')
    (stand : RejectionsStand g.approvals) : RejectionsStand g'.approvals ∧ Kept g g' := by
  rcases performs_approvals performed with same | ⟨added, -, grown⟩
  · exact ⟨same ▸ stand, kept_of_same same⟩
  · unfold AuditRow.append at grown
    constructor
    · rw [RejectionsStand, grown, List.pairwise_append]
      refine ⟨stand, List.pairwise_singleton _ _, ?_⟩
      intro a earlier b new about refused
      cases List.mem_singleton.mp new
      by_contra accepted
      exact unopposed _ grown (by simpa using accepted) ⟨a, earlier, about, refused⟩
    · rintro id ⟨a, earlier, about, refused⟩
      exact ⟨a, by simp [grown, earlier], about, refused⟩

/-! ### What the handlers do by themselves -/

section Handlers

variable {J : ApprovalDesk → Prop} {H : Hashing}
  (frame : ∀ {g g' : ApprovalDesk}, g'.approvals = g.approvals → J g → J g')

include frame

theorem keeps_elsewhere {f : ApprovalDesk → ApprovalDesk}
    (same : ∀ g, (f g).approvals = g.approvals) : Keeps J (change f : DeskProgram Unit) :=
  keeps_change fun g holds => frame (same g) holds

omit frame in
theorem keeps_audit (action result : String) : Keeps J (audit action result) :=
  (keeps_peek _).bind fun _ => keeps_call _

theorem keeps_consider (p : TradeProposal) : Keeps J (consider H p) := by
  apply (keeps_call _).bind
  intro row
  apply (keeps_call _).bind
  intro existing
  dsimp only
  split
  · exact (keeps_elsewhere frame (pop_approvals _)).bind fun _ => keeps_pure _
  · apply (keeps_elsewhere frame (offer_approvals _)).bind
    intro _
    apply (keeps_peek _).bind
    intro g
    split
    · exact keeps_pure _
    split
    · exact keeps_pure _
    split
    · exact keeps_pure _
    · exact keeps_pure _

theorem keeps_carryOutOffline (p : TradeProposal) (approval : Option ExactApproval) :
    Keeps J (carryOutOffline p approval) := by
  apply Keeps.bind
  · apply Keeps.attempt
    · exact (keeps_call _).bind fun _ => keeps_pure _
    · intro e
      split
      · exact keeps_pure _
      · exact (keeps_peek _).bind fun _ => (keeps_call _).bind fun _ => keeps_pure _
      · exact keeps_raise _
  · intro executed
    split
    · exact keeps_elsewhere frame (pop_approvals _)
    · exact keeps_pure _

theorem keeps_dispatchOffline (p : TradeProposal) : Keeps J (dispatchOffline H p) := by
  apply (keeps_peek _).bind
  intro complete
  split
  · exact keeps_pure _
  apply (keeps_consider frame p).bind
  intro considered
  cases considered with
  | none => exact keeps_pure _
  | some approval => exact keeps_carryOutOffline frame p approval

theorem keeps_carryOutShadow (p : TradeProposal) (approval : Option ExactApproval) :
    Keeps J (carryOutShadow p approval) := by
  apply Keeps.bind
  · apply Keeps.attempt
    · exact (keeps_call _).bind fun _ => (keeps_call _).bind fun _ => keeps_pure _
    · intro e
      split
      · exact keeps_pure _
      · apply (keeps_elsewhere frame stopAfterReview_approvals).bind
        intro _
        exact (keeps_peek _).bind fun _ => (keeps_call _).bind fun _ => keeps_pure _
      · exact keeps_raise _
  · intro executed
    split
    · exact (keeps_elsewhere frame (pop_approvals _)).bind fun _ => keeps_call _
    · exact keeps_pure _

theorem keeps_dispatchShadow (p : TradeProposal) : Keeps J (dispatchShadow H p) := by
  apply (keeps_consider frame p).bind
  intro considered
  cases considered with
  | none => exact keeps_pure _
  | some approval => exact keeps_carryOutShadow frame p approval

omit frame in
theorem keeps_dispatchPages {dispatch : TradeProposal → DeskProgram Unit} {exceeded : String}
    (each : ∀ p, Keeps J (dispatch p)) (pages : ℕ) (cursor : Option ℕ) :
    Keeps J (dispatchPages dispatch exceeded pages cursor) := by
  induction pages generalizing cursor with
  | zero => exact keeps_raise _
  | succ pages ih =>
    apply (keeps_call _).bind
    intro rows
    apply Keeps.bind
    · induction rows with
      | nil => exact keeps_pure _
      | cons row rest rows_ih => exact (each row.payload).bind fun _ => rows_ih
    · intro _
      split
      · exact keeps_pure _
      · exact ih _

theorem keeps_body (c : Request) : Keeps J (c.body H) := by
  cases c with
  | approve proposalId request draws =>
    apply (keeps_peek _).bind
    intro g
    split
    · exact keeps_raise _
    · exact (keeps_raiseIf _ _).bind fun _ => (keeps_raiseIf _ _).bind fun _ =>
        (keeps_call _).bind fun _ => keeps_audit _ _
  | reject proposalId draws =>
    apply (keeps_peek _).bind
    intro g
    split
    · exact keeps_raise _
    · exact (keeps_call _).bind fun _ => (keeps_audit _ _).bind fun _ =>
        keeps_elsewhere frame (pop_approvals _)
  | dispatchOffline =>
    apply (keeps_dispatchPages (keeps_dispatchOffline frame) _ _).attempt
    exact fun e => (keeps_elsewhere frame markUnhealthy_approvals).bind fun _ => keeps_raise e
  | dispatchShadow => exact keeps_dispatchPages (keeps_dispatchShadow frame) _ _

end Handlers

/-! ### What a dispatch asks for -/

/-- An execution is asked for only if its proposal was not rejected at the start. -/
def Permitted (since : ApprovalDesk) : DeskOp → Prop
  | .execute p _ => ¬ RejectedIn p.proposalId since.approvals
  | _ => True

def protocol : Protocol ApprovalDesk DeskExc DeskAns Unit Request where
  I g := RejectionsStand g.approvals
  R _ := Kept
  issue _ since _ op _ := Permitted since op

/-- What holds all along a call that started in a state. -/
structure Since (since g : ApprovalDesk) : Prop where
  stand : RejectionsStand g.approvals
  kept : Kept since g

section Dispatch

variable {H : Hashing} {c : Request} {since g g' : ApprovalDesk} {h : List (Done DeskExc DeskAns)}

theorem Since.frame (now : Since since g) (same : g'.approvals = g.approvals) : Since since g' :=
  ⟨same ▸ now.stand, fun id rejected => same ▸ now.kept id rejected⟩

theorem Since.relied {op : DeskOp} {r : Except DeskExc (DeskAns op)}
    (moved : (unopposed H).Relied protocol.I (protocol.R c) op g r g') (now : Since since g) :
    Since since g' := by
  have step : ∀ {m m' r}, Kept g m → RejectionsStand m.approvals →
      (unopposed H).performs op m r m' → Kept m' g' → Kept since g' := by
    intro m m' r before holds performed after id rejected
    exact after id ((unopposed_performs performed.1 performed.2 holds).2 id
      (before id (now.kept id rejected)))
  cases moved with
  | performed before holds performed after then_ => exact ⟨then_, step before holds performed after⟩
  | interrupted raised moved then_ =>
    exact ⟨then_, fun id rejected => moved id (now.kept id rejected)⟩
  | cutOff raised before holds performed after then_ =>
    exact ⟨then_, step before holds performed after⟩

/-- The approval that was found was the newest, so the proposal had not been rejected. -/
theorem unrejected_of_found {id : UUID} {row : Option (AuditRow ExactApproval)}
    (moved : (unopposed H).Relied protocol.I (protocol.R c) (.findApproval id) g (.ok row) g')
    (now : Since since g) (accepted : row.any (fun row => row.payload.rejected) = false) :
    ¬ RejectedIn id since.approvals := by
  intro rejected
  cases moved with
  | performed before holds performed after then_ =>
    obtain ⟨newest, found, refused⟩ :=
      findPayload_rejected holds (before id (now.kept id rejected))
    cases performed.1.1
    rw [found] at accepted
    simp [refused] at accepted

abbrev during (H : Hashing) (c : Request) (since : ApprovalDesk) : Spec ApprovalDesk DeskExc DeskAns :=
  protocol.spec (unopposed H) c since

/-- Before an execution the newest approval row was read, and it was no rejection. -/
theorem sat_consider (p : TradeProposal) (now : Since since g) :
    Sat (during H c since) (fun _ g' r => Since since g' ∧
      ∀ approval, r = .ok (some approval) → ¬ RejectedIn p.proposalId since.approvals)
      (consider H p) h g := by
  apply Sat.call_bind
  · exact ⟨now.stand, trivial⟩
  · exact fun e g₁ moved => ⟨now.relied moved, nofun⟩
  intro row g₁ moved₁
  have now₁ := now.relied moved₁
  apply Sat.call_bind
  · exact ⟨now₁.stand, trivial⟩
  · exact fun e g₂ moved => ⟨now₁.relied moved, nofun⟩
  intro existing g₂ moved₂
  have now₂ := now₁.relied moved₂
  dsimp only
  split
  · exact ⟨now₂.frame rfl, nofun⟩
  next open_ =>
    have accepted : row.any (fun row => row.payload.rejected) = false := by
      simp only [Bool.or_eq_true, not_or, Bool.not_eq_true, Option.any_map] at open_
      exact open_.2
    have unrejected := unrejected_of_found moved₁ now accepted
    apply Sat.change_bind
    apply Sat.peek_bind
    have now₃ : Since since (g₂.offer p) := now₂.frame rfl
    -- every way on ends in the same state
    repeat' split
    all_goals exact ⟨now₃, fun _ _ => unrejected⟩

/-- Asking only for what is permitted, and leaving the rejections alone. -/
theorem sat_permitted {α : Type} {returns : α → Prop} {p : DeskProgram α}
    (emits : Emits (Permitted since) returns p) (keeps : Keeps (Since since) p)
    (now : Since since g) : Sat (during H c since) (fun _ g' _ => Since since g') p h g := by
  apply emits.sat_kept keeps
  · exact fun h op g permitted now => ⟨now.stand, permitted⟩
  · exact fun op g r g' moved now => now.relied moved
  · exact fun _ _ _ now => now
  · exact fun _ _ _ now _ => now
  · exact now

theorem emits_carryOutOffline {p : TradeProposal} (approval : Option ExactApproval)
    (unrejected : ¬ RejectedIn p.proposalId since.approvals) :
    Emits (Permitted since) (fun _ => True) (carryOutOffline p approval) := by
  have executing : Permitted since (.execute p approval) := unrejected
  apply Emits.bind
  · apply Emits.attempt
    · exact (emits_call executing).bind fun _ _ => emits_done true
    · intro e
      split
      · exact emits_done true
      · exact (emits_peek _).bind fun _ _ => (emits_call trivial).bind fun _ _ => emits_done false
      · exact emits_raise _
  · intro executed _
    split
    · exact emits_change _
    · exact emits_done ()

theorem emits_carryOutShadow {p : TradeProposal} (approval : Option ExactApproval)
    (unrejected : ¬ RejectedIn p.proposalId since.approvals) :
    Emits (Permitted since) (fun _ => True) (carryOutShadow p approval) := by
  have executing : Permitted since (.execute p approval) := unrejected
  apply Emits.bind
  · apply Emits.attempt
    · exact (emits_call executing).bind fun _ _ =>
        (emits_call trivial).bind fun _ _ => emits_done true
    · intro e
      split
      · exact emits_done true
      · exact (emits_change _).bind fun _ _ => (emits_peek _).bind fun _ _ =>
          (emits_call trivial).bind fun _ _ => emits_done false
      · exact emits_raise _
  · intro executed _
    split
    · exact (emits_change _).bind fun _ _ => emits_call trivial
    · exact emits_done ()

/-- What both runtimes do with one row. -/
theorem sat_considered {p : TradeProposal} {carryOut : Option ExactApproval → DeskProgram Unit}
    (emits : ∀ approval, ¬ RejectedIn p.proposalId since.approvals →
      Emits (Permitted since) (fun _ => True) (carryOut approval))
    (keeps : ∀ approval, Keeps (Since since) (carryOut approval)) (now : Since since g) :
    Sat (during H c since) (fun _ g' _ => Since since g') (do
      match ← consider H p with
      | none => pure ()
      | some approval => carryOut approval) h g := by
  rw [sat_bind]
  apply (sat_consider p now).mono
  rintro h g₁ (e | _ | approval) ⟨now₁, unrejected⟩
  · exact now₁
  · exact now₁
  · exact sat_permitted (emits approval (unrejected approval rfl)) (keeps approval) now₁

theorem sat_dispatchOffline (p : TradeProposal) (now : Since since g) :
    Sat (during H c since) (fun _ g' _ => Since since g') (dispatchOffline H p) h g := by
  apply Sat.peek_bind
  split
  · exact now
  · exact sat_considered emits_carryOutOffline
      (keeps_carryOutOffline (fun same now => now.frame same) p) now

theorem sat_dispatchShadow (p : TradeProposal) (now : Since since g) :
    Sat (during H c since) (fun _ g' _ => Since since g') (dispatchShadow H p) h g :=
  sat_considered emits_carryOutShadow (keeps_carryOutShadow (fun same now => now.frame same) p) now

theorem sat_dispatchPages {dispatch : TradeProposal → DeskProgram Unit} {exceeded : String}
    (each : ∀ p h g, Since since g →
      Sat (during H c since) (fun _ g' _ => Since since g') (dispatch p) h g)
    (pages : ℕ) (cursor : Option ℕ) (now : Since since g) :
    Sat (during H c since) (fun _ g' _ => Since since g')
      (dispatchPages dispatch exceeded pages cursor) h g := by
  induction pages generalizing cursor h g with
  | zero => exact now
  | succ pages ih =>
    apply Sat.call_bind
    · exact ⟨now.stand, trivial⟩
    · exact fun e g₁ moved => now.relied moved
    intro rows g₁ moved
    have now₁ := now.relied moved
    rw [sat_bind]
    have all : ∀ (rest : List (AuditRow TradeProposal)) h g, Since since g →
        Sat (during H c since) (fun _ g' _ => Since since g')
          (rest.forM fun row => dispatch row.payload) h g := by
      intro rest
      induction rest with
      | nil => exact fun _ _ now => now
      | cons row rest rest_ih =>
        intro h g now
        change Sat _ _ (dispatch row.payload >>= fun _ => rest.forM fun row =>
          dispatch row.payload) h g
        rw [sat_bind]
        apply (each row.payload h g now).mono
        rintro h g (e | ⟨⟩) now
        · exact now
        · exact rest_ih h g now
    apply (all rows _ g₁ now₁).mono
    rintro h g (e | ⟨⟩) now
    · exact now
    · change Sat _ _ (ite _ _ _) h g
      split
      · exact now
      · exact ih _ now

theorem emits_audit (action result : String) :
    Emits (Permitted since) (fun _ => True) (audit action result) :=
  (emits_peek _).bind fun _ _ => emits_call trivial

theorem emits_approve (proposalId : UUID) (request : ApprovalRequest) (draws : ApprovalDraws) :
    Emits (Permitted since) (fun _ => True) (approveProposal H proposalId request draws) := by
  apply (emits_peek _).bind
  intro g _
  split
  · exact emits_raise _
  · exact (emits_raiseIf _ _).bind fun _ _ => (emits_raiseIf _ _).bind fun _ _ =>
      (emits_call trivial).bind fun _ _ => emits_audit _ _

theorem emits_reject (proposalId : UUID) (draws : ApprovalDraws) :
    Emits (Permitted since) (fun _ => True) (rejectProposal H proposalId draws) := by
  apply (emits_peek _).bind
  intro g _
  split
  · exact emits_raise _
  · exact (emits_call trivial).bind fun _ _ => (emits_audit _ _).bind fun _ _ => emits_change _

theorem sat_body (now : Since since g) :
    Sat (during H c since) (fun _ g' _ => Since since g') (c.body H) h g := by
  have frame : ∀ {g g' : ApprovalDesk}, g'.approvals = g.approvals → Since since g →
      Since since g' := fun same now => now.frame same
  cases c with
  | approve proposalId request draws =>
    exact sat_permitted (emits_approve proposalId request draws) (keeps_body frame _) now
  | reject proposalId draws =>
    exact sat_permitted (emits_reject proposalId draws) (keeps_body frame _) now
  | dispatchOffline =>
    rw [Request.body, dispatchProposalsOffline, sat_attempt]
    apply (sat_dispatchPages (fun p _ _ => sat_dispatchOffline p) 200 none now).mono
    rintro h g (e | ⟨⟩) now
    · exact now.frame rfl
    · exact now
  | dispatchShadow => exact sat_dispatchPages (fun p _ _ => sat_dispatchShadow p) 200 none now

end Dispatch

/-! ### Every run -/

theorem sound (H : Hashing) : protocol.Sound (unopposed H) where
  R_refl _ g id rejected := rejected
  R_trans first second id rejected := second id (first id rejected)
  event := by
    intro g g' moved stand
    have same : g'.approvals = g.approvals := moved
    refine ⟨?_, fun _ => kept_of_same same⟩
    change RejectionsStand g'.approvals
    rw [same]
    exact stand
  perform := by
    intro c since h op g₀ g r g' _ _ stand performed
    obtain ⟨then_, kept⟩ := unopposed_performs performed.1 performed.2 stand
    exact ⟨then_, fun _ _ => kept⟩
  spares c _ _ _ :=
    keeps_body (fun same kept id rejected => kept_of_same same id (kept id rejected)) c
  admitted _ := ⟨fun _ _ _ => ⟨trivial, trivial⟩, fun _ _ => trivial⟩
  post_stable _ _ := trivial
  sat := by
    intro c s _ stand
    apply (sat_body ⟨stand, fun _ rejected => rejected⟩).mono
    exact fun h g r now => ⟨now.stand, trivial⟩

/-- Where no approval row is appended on top of a rejection row, no call that starts after a
proposal was rejected asks for its execution. -/
theorem rejection_final {H : Hashing} {g : ApprovalDesk}
    {s : Crew ApprovalDesk DeskExc DeskAns Unit Request} (initially : RejectionsStand g.approvals)
    (run : (unopposed H).Reachable g s) {i : ℕ} {m : Member ApprovalDesk DeskExc DeskAns Unit Request}
    (found : s.members i = some m) {p : TradeProposal} {approval : Option ExactApproval}
    (asks : m.op = .execute p approval) : ¬ RejectedIn p.proposalId m.since.approvals := by
  have consistent := (sound H).consistent initially run
  obtain ⟨⟨h, g₀, permitted, -⟩, -⟩ := consistent.poised i m found
  rw [asks] at permitted
  exact permitted

end ApprovalDesk

namespace ApprovalSample

open Sample ApprovalDesk

/-- The repository works, no intent was made yet, and executions go through. -/
def handler (op : DeskOp) (g : ApprovalDesk) : Except DeskExc (DeskAns op) × ApprovalDesk :=
  match op with
  | .append (.approval a) => g.appendApproval a
  | .append (.auditEvent _ _) => (.ok (), g)
  | .findApproval id => (.ok (findPayload (ofProposal id) g.approvals), g)
  | .listProposals limit before =>
    (.ok (listPayloads (fun _ => true) limit before g.tradeProposals), g)
  | .findIntentByFingerprint _ => (.ok none, g)
  | .execute _ _ => (.ok (), g)
  | .syncExecutionJournal => (.ok (), g)
  | .refreshViewFromLedger => (.ok (), g)

theorem performs_handler (op : DeskOp) (g : ApprovalDesk) :
    ApprovalDesk.performs op g (handler op g).1 (handler op g).2 := by
  cases op with
  | append record => cases record <;> simp [ApprovalDesk.performs, handler]
  | _ => simp [ApprovalDesk.performs, handler]

/-- Two proposals wait in APPROVAL mode. -/
def desk : ApprovalDesk where
  view :=
    { binding := ⟨.demo, "demo"⟩
      tradingMode := .approval
      safety := Sample.surroundings.safety
      reconciled := true
      executionServiceHealthy := true
      proposals := (Dict.empty.set ⟨1⟩ (proposal 1)).set ⟨2⟩ (proposal 2) }
  now := 20
  tradeProposals := AuditRow.append (proposal 2) (AuditRow.append (proposal 1) [])

def approveFirst : Request := .approve ⟨1⟩ { maximumLimitPrice := 2 } ⟨⟨11⟩, 20, 20⟩

def rejectFirst : Request := .reject ⟨1⟩ ⟨⟨12⟩, 20, 20⟩

/-- An approval waits for its append while the rejection of the same proposal runs to its
end; then a dispatch starts. -/
def overridden : Crew ApprovalDesk DeskExc DeskAns Unit Request :=
  let asked := (Crew.idle desk).start 0 approveFirst (approveFirst.body hashing)
  let rejected := (Crew.turn handler 1)^[2] (asked.start 1 rejectFirst (rejectFirst.body hashing))
  let approved := (Crew.turn handler 0)^[2] rejected
  (Crew.turn handler 2)^[5]
    (approved.start 2 .dispatchOffline (Request.body hashing .dispatchOffline))

/-- The mode is AUTO. -/
def automatic : ApprovalDesk := { desk with view := { desk.view with tradingMode := .auto } }

def rejectSecond : Request := .reject ⟨2⟩ ⟨⟨12⟩, 20, 20⟩

/-- The second proposal is rejected before a dispatch starts. -/
def obeyed : Crew ApprovalDesk DeskExc DeskAns Unit Request :=
  let rejected := (Crew.turn handler 0)^[2]
    ((Crew.idle automatic).start 0 rejectSecond (rejectSecond.body hashing))
  (Crew.turn handler 1)^[5]
    (rejected.start 1 .dispatchShadow (Request.body hashing .dispatchShadow))

def approves : DeskOp → Bool
  | .append (.approval a) => !a.rejected
  | _ => false

theorem unopposed_turns {g : ApprovalDesk} {s : Crew ApprovalDesk DeskExc DeskAns Unit Request}
    (run : (unopposed hashing).Reachable g s) (i n : ℕ)
    (plain : ∀ k < n, (((Crew.turn handler i)^[k] s).members i).all
      (fun m => !approves m.op) = true) :
    (unopposed hashing).Reachable g ((Crew.turn handler i)^[n] s) := by
  apply run.turns_of
  intro k less m found
  have plain := plain k less
  generalize (Crew.turn handler i)^[k] s = s' at found plain ⊢
  have performed := performs_handler m.op s'.state
  refine ⟨performed, ?_⟩
  intro row grown accepted
  exfalso
  rcases performs_approvals performed with same | ⟨a, appends, longer⟩
  · have shorter := congrArg List.length (grown.symm.trans same)
    simp at shorter
  · rw [found, Option.all_some, appends] at plain
    rw [longer, AuditRow.append, List.append_cancel_left_eq, List.singleton_inj] at grown
    cases grown
    have refused : a.rejected = true := by simpa [approves] using plain
    cases accepted.symm.trans refused

def executed : DeskOp → Option TradeProposal
  | .execute p _ => some p
  | _ => none

theorem executed_spec {op : DeskOp} {p : TradeProposal} (executes : executed op = some p) :
    ∃ approval, op = .execute p approval := by
  cases op with
  | execute p approval =>
    cases executes
    exact ⟨approval, rfl⟩
  | _ => cases executes

instance (id : UUID) (rows : List (AuditRow ExactApproval)) : Decidable (RejectedIn id rows) :=
  inferInstanceAs (Decidable (∃ row ∈ rows, _ ∧ _))

theorem overridden_reachable : (world hashing).Reachable desk overridden := by
  have asked : (world hashing).Reachable desk
      ((Crew.idle desk).start 0 approveFirst (approveFirst.body hashing)) :=
    Concurrent.Reachable.start .refl 0 approveFirst trivial
  have rejected := (asked.start 1 rejectFirst trivial).turns performs_handler 1 2
  have approved := rejected.turns performs_handler 0 2
  exact (approved.start 2 .dispatchOffline trivial).turns performs_handler 2 5

theorem obeyed_reachable : (unopposed hashing).Reachable automatic obeyed := by
  have asked : (unopposed hashing).Reachable automatic
      ((Crew.idle automatic).start 0 rejectSecond (rejectSecond.body hashing)) :=
    Concurrent.Reachable.start .refl 0 rejectSecond trivial
  have rejected := unopposed_turns asked 0 2 (by decide +kernel)
  exact unopposed_turns (rejected.start 1 .dispatchShadow trivial) 1 5 (by decide +kernel)

end ApprovalSample

open ApprovalSample ApprovalDesk in
/-- The second proposal was rejected, and the dispatch comes to execute the first one. -/
theorem rejection_final_obeyed :
    ∃ m p approval, obeyed.members 1 = some m ∧ m.op = .execute p approval ∧
      RejectedIn ⟨2⟩ m.since.approvals ∧ ¬ RejectedIn p.proposalId m.since.approvals := by
  have asking : (obeyed.members 1).any (fun m => (executed m.op).isSome &&
      decide (RejectedIn ⟨2⟩ m.since.approvals)) = true := by decide +kernel
  cases found : obeyed.members 1 with
  | none =>
    rw [found] at asking
    cases asking
  | some m =>
    simp only [found, Option.any_some, Bool.and_eq_true, decide_eq_true_eq] at asking
    obtain ⟨p, executes⟩ := Option.isSome_iff_exists.mp asking.1
    obtain ⟨approval, asks⟩ := executed_spec executes
    have none_yet : RejectionsStand automatic.approvals := List.Pairwise.nil
    exact ⟨m, p, approval, rfl, asks, asking.2,
      rejection_final none_yet obeyed_reachable found asks⟩

open ApprovalSample ApprovalDesk in
/-- An approval that was in flight lands after the rejection, and the next dispatch executes
the rejected proposal. -/
theorem rejection_overridden :
    ¬ ∀ {g : ApprovalDesk} {s : Crew ApprovalDesk DeskExc DeskAns Unit Request},
      g.approvals = [] → (world Sample.hashing).Reachable g s →
      ∀ {i : ℕ} {m : Member ApprovalDesk DeskExc DeskAns Unit Request}, s.members i = some m →
      ∀ {p : TradeProposal} {approval : Option ExactApproval}, m.op = .execute p approval →
        ¬ RejectedIn p.proposalId m.since.approvals := by
  intro final
  have asking : (overridden.members 2).any (fun m => (executed m.op).any fun p =>
      decide (RejectedIn p.proposalId m.since.approvals)) = true := by decide +kernel
  cases found : overridden.members 2 with
  | none =>
    rw [found] at asking
    cases asking
  | some m =>
    rw [found, Option.any_some, Option.any_eq_true] at asking
    obtain ⟨p, executes, rejected⟩ := asking
    obtain ⟨approval, asks⟩ := executed_spec executes
    exact final rfl overridden_reachable found asks (of_decide_eq_true rejected)

end Sentry
