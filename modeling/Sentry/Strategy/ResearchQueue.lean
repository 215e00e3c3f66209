import Sentry.Strategy.ResearchJournal

/-!
# The market research queue, tick after tick

What one tick keeps, from any state that earlier ticks left and with calls that fail at any point,
committed or not, and what follows for every moment of any number of ticks: no event is left out or
researched twice, and no checkpoint is ahead of a stored outcome.
-/
namespace Sentry

open Support Coroutine AuditRow ResearchStore

namespace LiveMarketResearchQueue

variable {queue : LiveMarketResearchQueue} {foreign : String → Bool} {g g' : ResearchStore}
  {P : ResearchStore → Prop} {position : ℕ}

/-! ### Calls -/

abbrev spec (queue : LiveMarketResearchQueue) (foreign : String → Bool) :
    Spec ResearchStore Exc ResearchAns :=
  (queue.service foreign).spec (queue.Safe foreign)

/-- What an exception leaves. -/
abbrev Failed (queue : LiveMarketResearchQueue) (foreign : String → Bool) (_ : Exc)
    (g : ResearchStore) : Prop :=
  queue.Safe foreign g

/-- Safe, and kept while others write. -/
structure Steady (queue : LiveMarketResearchQueue) (foreign : String → Bool)
    (P : ResearchStore → Prop) : Prop where
  safe : ∀ g, P g → queue.Safe foreign g
  others : ∀ g g', queue.Others foreign g g' → P g → P g'

theorem steady_safe : queue.Steady foreign (queue.Safe foreign) :=
  ⟨fun _ => id, fun _ _ moved safe => moved.safe safe⟩

section Asking

variable {op : ResearchOp}

theorem request_triple {Q : ResearchAns op → ResearchStore → Prop}
    (steady : queue.Steady foreign P)
    (commits : ∀ g g', P g → queue.Commits op g g' → queue.Safe foreign g')
    (answers : ∀ g a g', P g → queue.Answers op g a → queue.Commits op g g' → Q a g') :
    Triple (queue.spec foreign) (queue.Failed foreign) P (request op) Q :=
  Service.call steady.safe steady.others (fun g _ now => steady.safe g now)
    (fun g g' _ now committed => commits g g' now committed) answers

/-- A call that changes nothing. -/
theorem read_triple (idle : ∀ g g', queue.Commits op g g' → g' = g)
    (steady : queue.Steady foreign P) :
    Triple (queue.spec foreign) (queue.Failed foreign) P (request op)
      fun a g => queue.Answers op g a ∧ P g :=
  Service.read idle steady.safe steady.others fun g _ now => steady.safe g now

end Asking

/-! ### Checks -/

theorem guard_triple (steady : queue.Steady foreign P) :
    Triple (queue.spec foreign) (queue.Failed foreign) P queue.guard fun _ => P := by
  unfold guard
  refine Triple.peek fun market => ?_
  cases queue.guardFailure market with
  | some e => exact Triple.raise fun g now => steady.safe g now.1
  | none => exact Triple.pure fun g now => now.1

theorem event_triple (steady : queue.Steady foreign P) (row : Stored Payload) :
    Triple (queue.spec foreign) (queue.Failed foreign) P (queue.event row) fun event g =>
      (∃ draw, queue.readEvent draw row = .ok event) ∧ P g := by
  unfold event
  refine Triple.peek fun draw => Triple.lift ?_ ?_
  · exact fun _ _ g now => steady.safe g now.1
  · exact fun event read g now => ⟨⟨draw, read⟩, now.1⟩

theorem verifyObservation_triple (steady : queue.Steady foreign P) (row : Stored Observation)
    (event : SentinelEvent) (now : Time) (option : Bool) (surveillance content : String) :
    Triple (queue.spec foreign) (queue.Failed foreign) P
      (queue.verifyObservation row event now option surveillance content) fun _ g =>
        event.eventId = queue.hashing.uuid5 NAMESPACE_URL event.deduplicationKey ∧ P g := by
  unfold verifyObservation
  refine Triple.raiseIf (fun _ => steady.safe) fun _ => ?_
  refine Triple.raiseIf (fun _ => steady.safe) fun _ => ?_
  refine Triple.raiseIf (fun _ => steady.safe) fun _ => ?_
  refine Triple.raiseIf (fun _ => steady.safe) fun observed => ?_
  simp only [LiveMarketResearchQueue.observed, Bool.not_eq_eq_eq_not, Bool.not_false,
    Bool.and_eq_true, beq_iff_eq] at observed
  cases row.payload.event with
  | none => exact Triple.raise steady.safe
  | some known =>
    -- of all that was compared, only the identifier of the event is needed below
    refine Triple.raiseIf (fun _ => steady.safe) fun _ => ?_
    exact Triple.pure fun g now => ⟨observed.1.2, now⟩

theorem verifySnapshot_triple (steady : queue.Steady foreign P) (event : SentinelEvent)
    (now : Time) :
    Triple (queue.spec foreign) (queue.Failed foreign) P (queue.verifySnapshot event now)
      fun _ g => event.eventId = queue.hashing.uuid5 NAMESPACE_URL event.deduplicationKey ∧ P g := by
  unfold verifySnapshot
  cases observationIdentity event.deduplicationKey with
  | none => exact Triple.raise steady.safe
  | some groups =>
    refine Triple.bind (read_triple (fun _ _ same => same) steady) fun found => ?_
    cases found with
    | none => exact Triple.raise fun g now => steady.safe g now.2
    | some row =>
      refine Triple.strengthen ?_ fun g now => now.2
      exact verifyObservation_triple steady row.payload event now _ groups.1 groups.2

/-! ### The checkpoint -/

/-- The position of the newest checkpoint. -/
def Newest (queue : LiveMarketResearchQueue) (position : ℕ) (g : ResearchStore) : Prop :=
  position = ((queue.cursors g).getLast?.map ResearchCursor.eventSequence).getD 0

theorem steady_newest :
    queue.Steady foreign fun g => queue.Safe foreign g ∧ queue.Newest position g where
  safe _ now := now.1
  others g g' moved now := by
    refine ⟨moved.safe now.1, ?_⟩
    unfold Newest
    rw [moved.later.cursors]
    exact now.2

/-- The turn of a row stays its turn, whatever others store after it. -/
theorem steady_next {row : AuditRow (Stored Payload)} :
    queue.Steady foreign fun g => queue.Safe foreign g ∧ queue.Next row g where
  safe _ now := now.1
  others _ _ moved now := ⟨moved.safe now.1, moved.later.next now.1.increasing now.2⟩

theorem findCursor_newest {found : Option (AuditRow (Stored ResearchCursor))}
    (answer : queue.Answers .findCursor g found) :
    queue.Newest ((found.map fun row => row.payload.payload.eventSequence).getD 0) g := by
  unfold Newest cursors
  rw [List.getLast?_map, ← findPayload_eq_getLast?,
    ← show found = findPayload queue.mine g.systemRuns from answer]
  cases found <;> rfl

theorem cursor_triple (now : Time) :
    Triple (queue.spec foreign) (queue.Failed foreign) (queue.Safe foreign) (queue.cursor now)
      fun position g => queue.Safe foreign g ∧ queue.Newest position g := by
  unfold cursor
  refine Triple.bind (read_triple (fun _ _ same => same) steady_safe) fun found => ?_
  refine Triple.strengthen (P := fun g => queue.Safe foreign g ∧
    queue.Newest ((found.map fun row => row.payload.payload.eventSequence).getD 0) g) ?_
    fun g answered => ⟨answered.2, findCursor_newest answered.1⟩
  cases found with
  -- no checkpoint yet: the scan starts at zero, before every row
  | none => exact Triple.pure fun g now => now
  | some row =>
    simp only [Option.map_some, Option.getD_some]
    cases queue.cursorFailure row.payload now with
    | some e => exact Triple.raise fun g now => now.1
    | none =>
      refine Triple.bind (read_triple (fun _ _ same => same) steady_newest) fun eventRow => ?_
      refine Triple.strengthen ?_ fun g now => now.2
      cases eventRow with
      | none => exact Triple.raise fun g now => now.1
      | some eventRow =>
        refine Triple.raiseIf (fun _ g now => now.1) fun _ => ?_
        refine Triple.bind (event_triple steady_newest _) fun event => ?_
        refine Triple.strengthen ?_ fun g now => now.2
        refine Triple.raiseIf (fun _ g now => now.1) fun _ => ?_
        exact Triple.pure fun g now => now

/-! ### The scan -/

theorem Newest.bound (newest : queue.Newest position g) (safe : queue.Safe foreign g) :
    (∀ cursor ∈ queue.cursors g, cursor.eventSequence ≤ position) ∧
      (position ≠ 0 → ∃ cursor ∈ queue.cursors g, cursor.eventSequence = position) := by
  unfold Newest at newest
  have forward := safe.forward
  cases last : (queue.cursors g).getLast? with
  | none =>
    rw [List.getLast?_eq_none_iff.mp last] at newest ⊢
    exact ⟨fun cursor member => (nomatch member), fun some_ => absurd newest some_⟩
  | some newestCursor =>
    rw [last] at newest
    obtain ⟨earlier, split⟩ := List.getLast?_eq_some_iff.mp last
    rw [split] at forward ⊢
    constructor
    · intro cursor member
      rcases List.mem_append.mp member with old | only
      · have less := (List.pairwise_append.mp forward).2.2 cursor old newestCursor (by simp)
        exact (less.trans_eq newest.symm).le
      · cases List.mem_singleton.mp only
        exact newest.ge
    · exact fun _ => ⟨newestCursor, by simp, newest.symm⟩

theorem checkRows_ok {rows : List (AuditRow (Stored Payload))} {sequences : List ℕ}
    (checked : queue.checkRows rows sequences = .ok ()) {row : AuditRow (Stored Payload)}
    (member : row ∈ rows) : row.appendSequence ≠ 0 := by
  induction rows generalizing sequences with
  | nil => cases member
  | cons first rest ih =>
    unfold checkRows at checked
    split at checked
    · cases checked
    · split at checked
      · cases checked
      next fits =>
        rcases List.mem_cons.mp member with rfl | later
        · exact fun zero => fits (.inl zero)
        · exact ih checked later

theorem oldest_spec {rows : List (AuditRow (Stored Payload))} {row : AuditRow (Stored Payload)}
    (found : oldest rows = some row) :
    row ∈ rows ∧ ∀ other ∈ rows, row.appendSequence ≤ other.appendSequence := by
  induction rows generalizing row with
  | nil => cases found
  | cons first rest ih =>
    unfold oldest at found
    cases among : oldest rest with
    | none =>
      have empty : rest = [] := by
        cases rest with
        | nil => rfl
        | cons second more =>
          unfold oldest at among
          split at among <;> cases among
      rw [among] at found
      cases found
      simp [empty]
    | some least =>
      obtain ⟨member, lower⟩ := ih among
      rw [among] at found
      simp only [Option.some.injEq] at found
      by_cases le : first.appendSequence ≤ least.appendSequence
      · rw [if_pos le] at found
        cases found
        refine ⟨List.mem_cons_self, fun other there => ?_⟩
        rcases List.mem_cons.mp there with rfl | later
        · exact le_rfl
        · exact le.trans (lower other later)
      · rw [if_neg le] at found
        cases found
        refine ⟨List.mem_cons_of_mem _ member, fun other there => ?_⟩
        rcases List.mem_cons.mp there with rfl | later
        · omega
        · exact lower other later

/-- A page that passes its checks shows all that is after the checkpoint. -/
theorem next_ok {rows : List (AuditRow (Stored Payload))} {row : AuditRow (Stored Payload)}
    (found : queue.next rows position = .ok (some row)) :
    (∀ row ∈ rows, row.appendSequence ≠ 0) ∧
      (rows.length = queue.maximumRecords → minSequence rows ≤ position) ∧
      row ∈ rows ∧ position < row.appendSequence ∧ ofTypes row.payload = true ∧
      ∀ other ∈ rows, position < other.appendSequence → ofTypes other.payload = true →
        row.appendSequence ≤ other.appendSequence := by
  unfold next at found
  split at found
  · cases found
  · split at found
    · cases found
    next checked =>
      split at found
      · cases found
      next reaches =>
        unfold pending at found
        simp only at found
        split at found
        · obtain ⟨member, least⟩ := oldest_spec (Except.ok.inj found)
          simp only [List.mem_filter, decide_eq_true_eq] at member least
          refine ⟨fun row => checkRows_ok checked, fun full => ?_, member.1.1, member.1.2, member.2,
            fun other there later type => least other ⟨⟨there, later⟩, type⟩⟩
          by_contra short
          exact reaches ⟨full, not_le.mp short⟩
        · cases found

theorem next_spec {rows : List (AuditRow (Stored Payload))} {row : AuditRow (Stored Payload)}
    (answer : queue.Answers .listEvents g rows) (safe : queue.Safe foreign g)
    (newest : queue.Newest position g) (found : queue.next rows position = .ok (some row)) :
    queue.Next row g := by
  obtain ⟨positive, reaches, member, later, type, least⟩ := next_ok found
  obtain ⟨bound, last⟩ := newest.bound safe
  have listed : rows = listPayloads queue.scans queue.maximumRecords none g.sentinelEvents := answer
  obtain ⟨stored, -, scanned⟩ := mem_listPayloads (listed ▸ member)
  -- what is after the checkpoint is on the page, and so is whatever has the number zero
  have shown {other : AuditRow (Stored Payload)} (there : other ∈ g.sentinelEvents)
      (queued : queue.Queued other.payload) (new : position ≤ other.appendSequence) :
      other ∈ rows := by
    have open_ : precedes none other = true := rfl
    rcases page_covers safe.increasing there open_ queued.1 with on | ⟨full, older⟩
    · exact listed ▸ on
    · rw [← listed] at full older
      obtain ⟨newer, onPage, min⟩ := (minSequence_spec (List.ne_nil_of_mem member)).1
      have below := older newer onPage
      have reached := reaches full
      omega
  refine ⟨stored, ⟨scanned, type⟩, fun earlier there queued less => ?_, fun cursor passed => ?_⟩
  · rcases Nat.lt_or_ge position earlier.appendSequence with after | upTo
    -- after the checkpoint the page shows it, and the chosen row is the oldest shown
    · have behind := least earlier (shown there queued after.le) after queued.2
      omega
    -- up to the checkpoint it is done, unless there is none: then its number would be zero
    · have some_ : position ≠ 0 := by
        rintro rfl
        have zero := Nat.le_zero.mp upTo
        exact positive earlier (shown there queued (Nat.zero_le _)) zero
      obtain ⟨cursor, passed, same⟩ := last some_
      exact safe.whole earlier there queued cursor passed (upTo.trans_eq same.symm)
  · exact (bound cursor passed).trans_lt later

/-! ### An attempt -/

/-- No attempt was made at the event. -/
def Untried (queue : LiveMarketResearchQueue) (event : SentinelEvent) (g : ResearchStore) : Prop :=
  ∀ done ∈ g.processed, queue.researcher.eventKey done ≠ queue.researcher.eventKey event

/-- There is a record of the event. -/
def Begun (queue : LiveMarketResearchQueue) (event : SentinelEvent) (g : ResearchStore) : Prop :=
  queue.researcher.runs (queue.researcher.eventKey event) g ≠ []

/-- It is the turn of a row, and the records of its event are these, if others write none. -/
structure Trying (queue : LiveMarketResearchQueue) (foreign : String → Bool)
    (row : AuditRow (Stored Payload)) (event : SentinelEvent) (records : List CandidateRun)
    (g : ResearchStore) : Prop where
  safe : queue.Safe foreign g
  next : queue.Next row g
  records : foreign (queue.researcher.eventKey event) = false →
    queue.researcher.runs (queue.researcher.eventKey event) g = records

section Research

variable {row : AuditRow (Stored Payload)} {event : SentinelEvent} {records : List CandidateRun}

theorem Trying.moved (trying : queue.Trying foreign row event records g)
    (moved : queue.Others foreign g g') : queue.Trying foreign row event records g' where
  safe := moved.safe trying.safe
  next := moved.later.next trying.safe.increasing trying.next
  records own := by
    rw [moved.runs_eq own]
    exact trying.records own

/-- `Trying` with a condition on what was researched. -/
theorem steady_trying {frame : List SentinelEvent → Prop} :
    queue.Steady foreign fun g =>
      queue.Trying foreign row event records g ∧ frame g.processed where
  safe _ now := now.1.safe
  others g g' moved now := by
    refine ⟨now.1.moved moved, ?_⟩
    rw [moved.processed]
    exact now.2

/-- A record that goes on with the attempt. -/
theorem outcome_triple (row : AuditRow (Stored Payload)) (records : List CandidateRun)
    (frame : List SentinelEvent → Prop) {status : RunStatus} {reason : String}
    {proposal : Option TradeProposal}
    (goesOn : ∀ run : CandidateRun, run.status = status → run.proposal = proposal →
      OneAttempt (records ++ [run])) :
    Triple (queue.spec foreign) (queue.Failed foreign)
      (fun g => queue.Trying foreign row event records g ∧ frame g.processed)
      (queue.researcher.outcome event status reason proposal) fun _ g =>
        ∃ run : CandidateRun, run.status = status ∧ run.proposal = proposal ∧
          queue.Trying foreign row event (records ++ [run]) g ∧ queue.Begun event g ∧
          frame g.processed := by
  unfold CandidateResearchWorker.outcome
  refine Triple.peek fun now => Triple.peek fun market => ?_
  refine Triple.strengthen ?_ fun g now => now.1.1
  have safe (g g' : ResearchStore) (trying : queue.Trying foreign row event records g)
      (commits : queue.Commits (.appendRun
        (queue.researcher.run event status reason proposal now market)) g g') :
      queue.Safe foreign g' := by
    refine trying.safe.record commits fun own => ?_
    change OneAttempt (queue.researcher.runs (queue.researcher.eventKey event) g ++ _)
    rw [trying.records own]
    exact goesOn _ rfl rfl
  -- the record may be kept although its call failed, and what is left then is safe too
  refine request_triple steady_trying (fun g g' now commits => safe g g' now.1 commits) ?_
  rintro g ⟨⟩ g' ⟨trying, holds⟩ - commits
  have later := later_appended commits
  obtain ⟨new, -⟩ := runs_appended commits
  refine ⟨queue.researcher.run event status reason proposal now market, rfl, rfl, ?_, ?_,
    later.processed.symm ▸ holds⟩
  · refine ⟨safe g g' trying commits, later.next trying.safe.increasing trying.next, fun own => ?_⟩
    rw [← trying.records own]
    exact new
  · have some_ : queue.researcher.runs (queue.researcher.eventKey event) g' ≠ [] :=
      new ▸ List.append_ne_nil_of_right_ne_nil _ (List.cons_ne_nil _ _)
    exact some_

/-- The event is researched now, whatever comes of it. -/
theorem attempted_triple (reads : queue.Reads row.payload event) :
    Triple (queue.spec foreign) (queue.Failed foreign)
      (fun g => queue.Trying foreign row event records g ∧ queue.Begun event g ∧
        queue.Untried event g)
      (CandidateResearchWorker.attempted event) fun _ => queue.Trying foreign row event records := by
  unfold CandidateResearchWorker.attempted
  have steady : queue.Steady foreign (queue.Trying foreign row event records) :=
    ⟨fun _ => Trying.safe, fun _ _ moved trying => trying.moved moved⟩
  -- it counts as researched from here on, also when the attempt fails or is cancelled
  refine Triple.seq (I := queue.Trying foreign row event records) (Triple.change ?_) fun _ => ?_
  · rintro g ⟨trying, begun, untried⟩
    have next := trying.next
    exact ⟨trying.safe.process next reads untried begun,
      ⟨next.stored, next.queued, next.before, next.fresh⟩, trying.records⟩
  refine Triple.attempt (H := fun _ => queue.Trying foreign row event records) ?_ fun e => ?_
  · refine Service.call steady.safe steady.others (fun _ _ => id) ?_ ?_
    · rintro g g' e trying rfl
      exact trying
    · rintro g a g' trying - rfl
      exact trying
  · split
    · exact Triple.pure fun _ => id
    · split
      · exact Triple.pure fun _ => id
      · exact Triple.raise steady.safe

/-- Nothing is recorded, so that nothing was researched. -/
theorem Safe.untried (safe : queue.Safe foreign g)
    (answer : queue.Answers (.findRun (queue.researcher.eventKey event)) g none) :
    queue.Untried event g ∧ queue.researcher.runs (queue.researcher.eventKey event) g = [] := by
  have none_ : queue.researcher.runs (queue.researcher.eventKey event) g = [] := by
    have empty : (matching (queue.researcher.keepsUnder (queue.researcher.eventKey event))
        g.candidateRuns).getLast? = none := by
      rw [← findPayload_eq_getLast?]
      exact answer.symm
    unfold CandidateResearchWorker.runs
    rw [List.getLast?_eq_none_iff.mp empty, List.map_nil]
  refine ⟨fun done processed same => safe.recorded done processed ?_, none_⟩
  rw [same]
  exact none_

theorem findRun_newest {found : AuditRow (Stored CandidateRun)}
    (answer : queue.Answers (.findRun (queue.researcher.eventKey event)) g (some found)) :
    (queue.researcher.runs (queue.researcher.eventKey event) g).getLast? =
      some found.payload.payload := by
  have newest : findPayload (queue.researcher.keepsUnder (queue.researcher.eventKey event))
      g.candidateRuns = some found := answer.symm
  unfold CandidateResearchWorker.runs
  rw [List.getLast?_map, ← findPayload_eq_getLast?, newest]
  rfl

theorem onEvent_triple (reads : queue.Reads row.payload event) :
    Triple (queue.spec foreign) (queue.Failed foreign)
      (fun g => queue.Safe foreign g ∧ queue.Next row g) (queue.researcher.onEvent event)
      fun _ g => queue.Safe foreign g ∧ queue.Next row g := by
  unfold CandidateResearchWorker.onEvent
  refine Triple.bind (read_triple (fun _ _ same => same) steady_next) fun found => ?_
  cases found with
  | some existing =>
    refine Triple.raiseIf (fun _ g now => now.2.1) fun _ => ?_
    split
    next begun =>
      -- an attempt that was interrupted is over, and is not made again
      refine Triple.seq (I := fun g => queue.Safe foreign g ∧ queue.Next row g) ?_ fun _ =>
        Triple.pure fun _ => id
      refine Triple.consequence (outcome_triple row [existing.payload.payload] (fun _ => True) ?_) ?_ ?_
      · intro run closed none_
        refine .ended begun (by simp [closed]) (by simp [closed, none_])
      · rintro g ⟨answer, safe, next⟩
        refine ⟨⟨safe, next, fun own => ?_⟩, trivial⟩
        exact ((safe.attempted _ own).of_started (findRun_newest answer) begun).1
      · rintro _ g ⟨_, -, -, trying, -⟩
        exact ⟨trying.safe, trying.next⟩
    next => exact Triple.pure fun g now => now.2
  | none =>
    -- the frame carries over the first write that no attempt was made at this event
    refine Triple.bind (Triple.strengthen (outcome_triple row [] (fun processed => ∀ done ∈ processed,
      queue.researcher.eventKey done ≠ queue.researcher.eventKey event) ?_) ?_) fun _ => ?_
    · exact fun run begun none_ => .started begun none_
    · rintro g ⟨answer, safe, next⟩
      obtain ⟨untried, none_⟩ := safe.untried answer
      exact ⟨⟨safe, next, fun _ => none_⟩, untried⟩
    · refine Triple.of_exists fun first => ?_
      refine Triple.strengthen (P := fun g => (first.status = .started) ∧
        queue.Trying foreign row event [first] g ∧ queue.Begun event g ∧ queue.Untried event g) ?_
        fun g ⟨begun, _, trying, known, untried⟩ => ⟨begun, trying, known, untried⟩
      refine Triple.assuming fun begun => ?_
      -- what the attempt gives decides the status of the second record
      refine Triple.bind (attempted_triple reads) fun ⟨proposal, reason⟩ => ?_
      refine Triple.seq (I := fun g => queue.Safe foreign g ∧ queue.Next row g) ?_ fun _ =>
        Triple.pure fun _ => id
      refine Triple.consequence (outcome_triple row [first] (fun _ => True) ?_) ?_ ?_
      · intro run closed same
        refine .ended begun ?_ ?_
        · cases proposal <;> simp [closed]
        · cases proposal <;> simp [closed, same]
      · exact fun g trying => ⟨trying, trivial⟩
      · rintro _ g ⟨_, -, -, trying, -⟩
        exact ⟨trying.safe, trying.next⟩

/-! ### The outcome -/

/-- A proposal that the records of the event tell of. -/
def Proposed (queue : LiveMarketResearchQueue) (event : SentinelEvent) (proposal : TradeProposal)
    (g : ResearchStore) : Prop :=
  (∃ run ∈ queue.researcher.runs (queue.researcher.eventKey event) g,
    run.status = .proposed ∧ run.proposal = some proposal) ∧
    proposal.environment = queue.binding.environment ∧
    proposal.namespace_ = queue.binding.idempotencyNamespace

theorem Proposed.later {proposal : TradeProposal} (later : queue.Later g g')
    (proposed : queue.Proposed event proposal g) : queue.Proposed event proposal g' := by
  obtain ⟨⟨run, member, outcome⟩, bound⟩ := proposed
  exact ⟨⟨run, (later.runs _).subset member, outcome⟩, bound⟩

theorem verifyResearchResult_triple (steady : queue.Steady foreign P)
    (proposal : Option TradeProposal) :
    Triple (queue.spec foreign) (queue.Failed foreign) P (queue.verifyResearchResult event proposal)
      fun _ g => P g ∧ queue.Finished event g ∧
        ∀ shown, proposal = some shown → queue.Proposed event shown g := by
  unfold verifyResearchResult
  refine Triple.bind (read_triple (fun _ _ same => same) steady) fun found => ?_
  cases found with
  | none => exact Triple.raise fun g now => steady.safe g now.2
  | some row =>
    refine Triple.peek fun now => ?_
    refine Triple.raiseIf (fun _ g now => steady.safe g now.1.2) fun terminal => ?_
    simp only [ne_eq, decide_eq_false_iff_not, not_or, not_not, not_lt] at terminal
    obtain ⟨hash, status, saved, -⟩ := terminal
    have closed : row.payload.payload.status ≠ .started := by
      rw [status]
      cases proposal <;> simp
    refine Triple.raiseIf (fun _ g now => steady.safe g now.1.2) fun bound => ?_
    refine Triple.pure fun g ⟨⟨answer, holds⟩, _⟩ => ⟨holds, ?_, fun shown same => ?_⟩
    · exact ⟨_, List.mem_of_getLast? (findRun_newest answer), closed, hash⟩
    · rw [same] at bound status saved
      simp only [Option.any_some, ne_eq, decide_eq_false_iff_not, not_or, not_not, not_lt] at bound
      exact ⟨⟨_, List.mem_of_getLast? (findRun_newest answer), status, saved⟩, bound.1, bound.2.1⟩

/-- A proposal is recorded for an event that has its checkpoint. -/
def Published (queue : LiveMarketResearchQueue) (proposal : TradeProposal) (g : ResearchStore) :
    Prop :=
  ∃ event, (∃ cursor ∈ queue.cursors g, cursor.eventId = event.eventId) ∧
    queue.Proposed event proposal g

theorem Published.later {proposal : TradeProposal} (later : queue.Later g g')
    (published : queue.Published proposal g) : queue.Published proposal g' := by
  obtain ⟨event, passed, proposed⟩ := published
  exact ⟨event, later.cursors.symm ▸ passed, proposed.later later⟩

theorem research_triple (reads : queue.Reads row.payload event) :
    Triple (queue.spec foreign) (queue.Failed foreign)
      (fun g => queue.Safe foreign g ∧ queue.Next row g) (queue.research row event)
      fun proposal g => queue.Safe foreign g ∧
        ∀ shown, proposal = some shown → queue.Published shown g := by
  unfold research
  refine Triple.bind (onEvent_triple reads) fun proposal => ?_
  refine Triple.seq (guard_triple steady_next) fun _ => ?_
  refine Triple.seq (verifyResearchResult_triple steady_next proposal) fun _ => ?_
  refine Triple.peek fun now => ?_
  refine Triple.strengthen ?_ fun g now => now.1
  have done : queue.Steady foreign fun g => (queue.Safe foreign g ∧ queue.Next row g) ∧
      queue.Finished event g ∧ ∀ shown, proposal = some shown → queue.Proposed event shown g := by
    refine ⟨fun _ now => now.1.1, fun g g' moved ⟨now, finished, proposed⟩ => ?_⟩
    exact ⟨steady_next.others g g' moved now, moved.later.finished finished,
      fun shown same => (proposed shown same).later moved.later⟩
  refine Triple.seq (I := fun g => queue.Safe foreign g ∧
    ∀ shown, proposal = some shown → queue.Published shown g) (request_triple done ?_ ?_) fun _ =>
      Triple.pure fun _ => id
  -- the checkpoint may be kept although its call failed; its outcome is stored by then
  · rintro g g' ⟨⟨safe, next⟩, finished, -⟩ commits
    exact safe.advance next reads finished commits
  · rintro g - g' ⟨⟨safe, next⟩, finished, proposed⟩ - commits
    refine ⟨safe.advance next reads finished commits, fun shown same => ?_⟩
    have grown := cursors_appended rfl commits
    obtain ⟨rows, -, rfl⟩ := commits
    exact ⟨event, ⟨queue.checkpoint row event now, by simp [grown], rfl⟩, proposed shown same⟩

end Research

/-! ### A tick -/

theorem scanned_triple :
    Triple (queue.spec foreign) (queue.Failed foreign) (queue.Safe foreign) queue.scanned
      fun proposal g => queue.Safe foreign g ∧
        ∀ shown, proposal = some shown → queue.Published shown g := by
  unfold scanned
  refine Triple.seq (guard_triple steady_safe) fun _ => ?_
  refine Triple.peek fun now => ?_
  refine Triple.bind (Triple.strengthen (cursor_triple now) fun g now => now.1) fun position => ?_
  refine Triple.bind (read_triple (fun _ _ same => same) steady_newest) fun rows => ?_
  cases found : queue.next rows position with
  | error e => exact Triple.raise fun g now => now.2.1
  | ok next =>
    cases next with
    | none => exact Triple.pure fun g now => ⟨now.2.1, fun _ none_ => nomatch none_⟩
    | some row =>
      refine Triple.strengthen (P := fun g => queue.Safe foreign g ∧ queue.Next row g) ?_
        fun g ⟨answer, safe, newest⟩ => ⟨safe, next_spec answer safe newest found⟩
      change Triple _ _ _ (queue.event row.payload >>= _) _
      refine Triple.bind (event_triple steady_next row.payload) fun event => ?_
      refine Triple.assuming fun read => ?_
      split
      · exact Triple.pure fun g now => ⟨now.1, fun _ none_ => nomatch none_⟩
      · refine Triple.bind (verifySnapshot_triple steady_next event now) fun _ => ?_
        exact Triple.assuming fun named => research_triple ⟨read, named⟩

theorem tick_triple :
    Triple (queue.spec foreign) (queue.Failed foreign) (queue.Safe foreign) queue.tick
      fun proposal g => queue.Safe foreign g ∧
        ∀ shown, proposal = some shown → queue.Published shown g := by
  unfold tick
  refine Triple.attempt scanned_triple fun e => Triple.peek fun expired => ?_
  split
  · exact Triple.raise fun g now => now.1
  · exact Triple.raise fun g now => now.1

/-! ### Any number of ticks -/

/-- Nothing was researched by this queue; the log may hold events already. -/
structure Fresh (queue : LiveMarketResearchQueue) (foreign : String → Bool) (g : ResearchStore) :
    Prop where
  increasing : Increasing g.sentinelEvents
  cursors : queue.cursors g = []
  processed : g.processed = []
  runs : ∀ key, foreign key = false → queue.researcher.runs key g = []

theorem Fresh.safe (fresh : queue.Fresh foreign g) : queue.Safe foreign g where
  increasing := fresh.increasing
  forward := by simp [fresh.cursors]
  finished := by simp [fresh.cursors]
  whole := by simp [fresh.cursors]
  inOrder := by
    refine ⟨[], ?_, by simp, List.Pairwise.nil, by simp⟩
    rw [fresh.processed]
    exact .nil
  recorded := by simp [fresh.processed]
  once := by simp [fresh.processed]
  attempted key own := by
    rw [fresh.runs key own]
    exact .untried

/-- What the tables say at every moment: checkpoints move forward, over one event after another,
and not before its outcome is stored; events are researched in the order of the log, each once at
most, and none before all that come earlier are done; an attempt has one outcome. -/
structure Journal (queue : LiveMarketResearchQueue) (foreign : String → Bool) (g : ResearchStore) :
    Prop where
  forward : (queue.cursors g).Pairwise fun a b => a.eventSequence < b.eventSequence
  finished : ∀ cursor ∈ queue.cursors g, ∃ row ∈ g.sentinelEvents,
    row.appendSequence = cursor.eventSequence ∧ queue.Queued row.payload ∧
      ∃ event, queue.Reads row.payload event ∧ cursor.eventId = event.eventId ∧
        queue.Finished event g
  whole : ∀ row ∈ g.sentinelEvents, queue.Queued row.payload → ∀ cursor ∈ queue.cursors g,
    row.appendSequence ≤ cursor.eventSequence → queue.Covered row.appendSequence g
  inOrder : ∃ rows, queue.Taken rows g
  once : (g.processed.map SentinelEvent.eventId).Nodup
  attempted : ∀ key, foreign key = false → OneAttempt (queue.researcher.runs key g)

theorem Safe.journal (safe : queue.Safe foreign g) : queue.Journal foreign g where
  forward := safe.forward
  finished := safe.finished
  whole := safe.whole
  inOrder := safe.inOrder
  once := by
    have keys : g.processed.map queue.researcher.eventKey =
        (g.processed.map SentinelEvent.eventId).map fun id =>
          queue.binding.idempotencyNamespace ++ ":" ++ id.str := by
      rw [List.map_map]
      rfl
    exact List.Nodup.of_map _ (keys ▸ safe.once)
  attempted := safe.attempted

/-- At every moment of any number of ticks, with calls that fail before or after they are committed,
the journal is in order. A proposal that a tick returned is recorded, for this environment, as the
outcome of an event that has its checkpoint. -/
theorem research_journal {g₀ : ResearchStore} (fresh : queue.Fresh foreign g₀)
    {h : List (Done Exc ResearchAns)} {waiting : Option ResearchOp}
    {rs : List (Except Exc (Option TradeProposal))} {g : ResearchStore}
    (moment : Moment (queue.rely foreign) (queue.Others foreign) queue.tick g₀ h waiting rs g) :
    queue.Journal foreign g ∧ (waiting = none → ∀ proposal,
      rs.getLast? = some (.ok (some proposal)) → queue.Published proposal g) := by
  have each : Triple (queue.spec foreign) (queue.Failed foreign) (queue.Safe foreign) queue.tick
      fun proposal g => queue.Safe foreign g ∧
        ∀ shown, proposal = some shown → queue.Published shown g := tick_triple
  -- a tick starts from whatever the ticks before it left, returned or raised
  have sound := moment.sound (Triple.attempts fresh.safe (fun safe moved => moved.safe safe)
    (fun published moved shown same => (published shown same).later moved.later) each)
  cases waiting with
  | none => exact ⟨sound.1.journal, fun _ proposal last => sound.2 _ last proposal rfl⟩
  | some op => exact ⟨Safe.journal sound, fun none_ => nomatch none_⟩

end LiveMarketResearchQueue
namespace ResearchSample
open LiveMarketResearchQueue

def digest (digit : Char) : String := String.ofList (List.replicate 64 digit)

/-- The digests tell a stream from other documents, and the identifiers a digest from another. -/
def hashing : Hashing where
  sha256Json
    | .str "equity:ZETA" => digest '1'
    | _ => digest '0'
  uuid5 _ name := ⟨(name.toList.map Char.toNat).sum⟩
  fillSeed := String.length

theorem single_ne_nil : ∀ c : Char, [c.toUpper] ≠ [] := by simp

def python : MarketRuntime where
  uuid
    | .str text => UUID.ofText text
    | _ => none
  decimal _ := none
  integer
    | .int n => some n
    | _ => none
  datetime
    | .int n => some (.aware n)
    | _ => none
  date _ := none
  str _ := ""
  uppercase c := [c.toUpper]
  isoformat := toString
  uppercase_ne := single_ne_nil

theorem some_records : 0 < 1000 := by decide
theorem records_bounded : 1000 ≤ 1000 := le_rfl
theorem named : "demo" ≠ "" := by decide
theorem instrument : "call" ≠ "" := by decide

def queue : LiveMarketResearchQueue where
  researcher := { hashing, isoformat := toString, binding := ⟨.demo, some .brokerShadow, false, "demo"⟩ }
  py := python
  isSpace := Char.isWhitespace
  isUuid _ := true
  content quote := .str quote.stream
  identity := "feed"
  capabilityVersion := "1"
  maximumRecords := 1000
  maximumRecords_pos := some_records
  maximumRecords_le := records_bounded
  demo := rfl
  shadow := rfl
  noWrites := rfl
  named := named

theorem equity_market : (101 : ℚ) ≠ 0 → (99 : ℚ) ≤ 101 := fun _ => by norm_num

/-- The key of an observation with a content. -/
def observationKey (content : String) : String := "live-read:" ++ digest '0' ++ ":" ++ content

def equity (symbol content : String) : EquityQuote where
  snapshotId := hashing.uuid5 NAMESPACE_URL (observationKey content)
  symbol
  bid := 99
  ask := 101
  last := 100
  volume := 5
  metadata := ⟨"feed", "1", 0, 0, none⟩
  valid_market := equity_market

def details : Payload :=
  [("data_mode", .str "LIVE_READ"), ("worker_version", .str "live-read-surveillance-v1"),
    ("quote_kind", .str "equity"), ("provider", .str "feed"), ("capability_version", .str "1"),
    ("baseline", .bool true), ("changes", .obj [])]

def known (symbol content : String) : SentinelEvent where
  createdAt := 5
  eventId := hashing.uuid5 NAMESPACE_URL (observationKey content ++ ":event")
  eventType := "MARKET_BASELINE"
  source := "feed"
  effectiveAt := 0
  tickers := [symbol]
  severity := 0
  deduplicationKey := observationKey content ++ ":event"
  rawReferenceIds := [(equity symbol content).snapshotId.str]
  payload := details

def event (symbol content : String) : Payload :=
  let known := known symbol content
  [("created_at", .int 5), ("event_id", .str known.eventId.str),
    ("event_type", .str "MARKET_BASELINE"), ("source", .str "feed"), ("effective_at", .int 0),
    ("tickers", .arr [.str symbol]), ("severity", .int 0),
    ("deduplication_key", .str known.deduplicationKey),
    ("raw_reference_ids", .arr (known.rawReferenceIds.map .str)), ("payload", .obj details),
    ("environment", .str "DEMO"), ("namespace", .str "demo")]

def observation (symbol content : String) : Stored Observation where
  createdAt := 5
  payload :=
    { namespace_ := "demo", surveillanceKey := digest '0', observationKey := observationKey content,
      streamKey := "equity:" ++ symbol, createdAt := 5,
      quote := .equity (equity symbol content), event := some (known symbol content) }

/-- Events of two securities, and one of another kind between them. -/
def start : ResearchStore where
  sentinelEvents :=
    [⟨3, queue.binding.row 5 (event "ACME" (digest '0'))⟩,
      ⟨4, queue.binding.row 5 (event "ACME" (digest '2') ++ [("event_type", .str "SECTOR_MOVE")])⟩,
      ⟨6, queue.binding.row 5 (event "ZETA" (digest '1'))⟩]
  snapshots
    | .marketSnapshots =>
      [⟨7, observation "ACME" (digest '0')⟩, ⟨8, observation "ZETA" (digest '1')⟩]
    | .optionSnapshots => []
  candidateRuns := []
  systemRuns := []
  market := ⟨"feed", "1", { }⟩
  now := 6
  draw := ⟨0⟩

def price : Decimal := ⟨4, 0⟩

def proposal : TradeProposal where
  createdAt := 6
  proposalId := ⟨9⟩
  environment := .demo
  namespace_ := "demo"
  packetId := ⟨8⟩
  symbol := "ACME"
  contract := ⟨"call", "ACME", .call, 100, 7, 100, instrument, amount_pos (nat_lit 100),
    count_pos (nat_lit 100)⟩
  side := .buyToOpen
  quantity := 1
  limitPrice := price
  quoteSnapshotId := ⟨7⟩
  quoteAsOf := 5
  policyVersion := "1"
  riskConfigVersion := "1"
  thesis := "up"
  invalidationConditions := []
  quantity_pos := count_pos (nat_lit 1)
  limitPrice_pos := Decimal.val_pos (nat_lit 4) (nat_lit 0)

/-- Calls that are committed. The one that stores an outcome may be reported as failed. -/
def calls (fails : Bool) : (op : ResearchOp) → ResearchStore →
    Except Exc (ResearchAns op) × ResearchStore
  | .findRun key, g => (.ok (findPayload (queue.researcher.keepsUnder key) g.candidateRuns), g)
  | .appendRun run, g =>
    let rows := push (queue.binding.row run.createdAt run) g.candidateRuns
    (if fails && run.status != .started then .error .connection else .ok (),
      { g with candidateRuns := rows })
  | .process _, g => (.ok (some proposal, "grounded_policy_pass_requires_execution_gates"), g)
  | .findCursor, g => (.ok (findPayload queue.mine g.systemRuns), g)
  | .appendCursor cursor, g =>
    (.ok (), { g with systemRuns := push (queue.binding.row cursor.createdAt cursor) g.systemRuns })
  | .listEvents, g => (.ok (listPayloads queue.scans queue.maximumRecords none g.sentinelEvents), g)
  | .findEvent id, g => (.ok (findPayload (queue.announces id) g.sentinelEvents), g)
  | .findObservation table key, g => (.ok (findPayload (keepsUnder key) (g.snapshots table)), g)

theorem others_refl (g : ResearchStore) : queue.Others (fun _ => false) g g where
  sentinelEvents := Grows.refl _ _
  candidateRuns := Grows.refl _ _
  systemRuns := Grows.refl _ _
  processed := rfl

theorem calls_rely (fails : Bool) (op : ResearchOp) (g : ResearchStore) :
    queue.rely (fun _ => false) op g (calls fails op g).1 (calls fails op g).2 := by
  refine ⟨g, others_refl g, ?_⟩
  cases op with
  | appendRun run =>
    by_cases lost : (fails && run.status != .started) = true
    · simp only [calls, lost, if_true]
      exact ⟨_, .inr ⟨_, appended_push _ _, rfl⟩, rfl⟩
    · simp only [calls, lost]
      exact ⟨trivial, _, appended_push _ _, rfl⟩
  | appendCursor cursor => exact ⟨trivial, _, appended_push _ _, rfl⟩
  | _ => exact ⟨by trivial, rfl⟩

theorem start_fresh : queue.Fresh (fun _ => false) start where
  increasing := by simp [start, AuditRow.Increasing]
  cursors := rfl
  processed := rfl
  runs _ _ := rfl

/-- What an outcome that is stored but not acknowledged leaves. -/
def ended : ResearchStore := (queue.tick.run (calls true) start).2

/-- What the next tick leaves. -/
def resumed : ResearchStore := (queue.tick.run (calls false) ended).2

theorem evaluated : (queue.tick.run (calls true) start).1.toOption.isNone = true ∧
    (queue.tick.run (calls false) ended).1.toOption = some (some proposal) ∧
    (queue.tick.run (calls false) resumed).1.toOption = some (some proposal) ∧
    (queue.tick.run (calls false) resumed).2.processed.map SentinelEvent.tickers =
      [["ACME"], ["ZETA"]] ∧
    (queue.cursors (queue.tick.run (calls false) resumed).2).map ResearchCursor.eventSequence =
      [3, 6] := by
  decide +kernel

end ResearchSample

open ResearchSample LiveMarketResearchQueue in
/-- An outcome that is reported as failed, the tick that finds it, and the tick of the next event. -/
theorem research_resumed :
    (queue.tick.run (calls true) start).1.toOption.isNone = true ∧
    (queue.tick.run (calls false) ended).1.toOption = some (some proposal) ∧
    ∃ h g, Moment (queue.rely fun _ => false) (queue.Others fun _ => false) queue.tick start h none
        [(queue.tick.run (calls true) start).1, (queue.tick.run (calls false) ended).1,
          (queue.tick.run (calls false) resumed).1] g ∧
      queue.Journal (fun _ => false) g ∧ queue.Published proposal g ∧
      g.processed.map SentinelEvent.tickers = [["ACME"], ["ZETA"]] ∧
      (queue.cursors g).map ResearchCursor.eventSequence = [3, 6] := by
  obtain ⟨h₁, first⟩ := passes_run (calls true) (calls_rely true) queue.tick start
  obtain ⟨h₂, second⟩ := passes_run (calls false) (calls_rely false) queue.tick ended
  obtain ⟨h₃, third⟩ := passes_run (calls false) (calls_rely false) queue.tick resumed
  have none_yet : Attempts (queue.rely fun _ => false) (queue.Others fun _ => false) queue.tick start
    [] [] start := .none
  have run := ((none_yet.again first).again second).again third
  obtain ⟨journal, published⟩ := research_journal start_fresh (.between run)
  obtain ⟨raised, found, returned, attempts, checkpoints⟩ := evaluated
  refine ⟨raised, found, _, _, .between run, journal, ?_, attempts, checkpoints⟩
  refine published rfl proposal ?_
  generalize (queue.tick.run (calls false) resumed).1 = shown at returned
  cases shown with
  | ok a =>
    cases returned
    rfl
  | error e => cases returned

end Sentry
