import Sentry.Ledger.Solvency
import Sentry.Risk.Engine

/-!
# What a ledger is exposed to

The three figures the risk engine caps, as properties of the ledger: the option risk it
carries, the instruments it holds and the entries it accepted on each market date. Every
operation but a submission keeps them or lowers them, so a submission that has room when
it is judged still has room when it arrives.
-/
namespace Sentry

open Support

namespace ShadowLedger

variable {cfg : LedgerConfig} {catalog : String → OptionContract} {s s' : ShadowLedger}

/-! ### Held instruments -/

theorem owned_pos_iff (ok : PositionsOk catalog s) (i : String) :
    0 < s.owned i ↔ i ∈ s.positions.keys := by
  rw [Dict.mem_keys]
  unfold owned
  cases found : s.positions.get? i with
  | none => simp
  | some position => simpa using (ok i position found).quantity_pos

theorem mem_heldInstruments (ok : PositionsOk catalog s) (i : String) :
    i ∈ s.heldInstruments ↔ s.Holds i := by
  simp only [heldInstruments, Finset.mem_union, List.mem_toFinset, List.mem_map, List.mem_filter,
    Dict.mem_values, Holds, owned_pos_iff ok]
  constructor
  · rintro (held | ⟨item, ⟨⟨key, found⟩, isBuy⟩, instrument⟩)
    · exact Or.inl held
    · exact Or.inr ⟨key, item, found, isBuy, instrument⟩
  · rintro (held | ⟨key, item, found, isBuy, instrument⟩)
    · exact Or.inl held
    · exact Or.inr ⟨item, ⟨⟨key, found⟩, isBuy⟩, instrument⟩

theorem Kept.heldInstruments_subset {paid : ℚ} (kept : Kept paid s s') (ok : PositionsOk catalog s)
    (ok' : PositionsOk catalog s') : s'.heldInstruments ⊆ s.heldInstruments := by
  intro i held
  rw [mem_heldInstruments ok'] at held
  rw [mem_heldInstruments ok]
  exact kept.holds i held

/-! ### Entries by the date they were accepted on -/

/-- A BUY order that was accepted on a date, whatever has become of it since. -/
def acceptedEntry (cfg : LedgerConfig) (date : Date) (order : BrokerOrder) : Bool :=
  order.side == .buyToOpen && order.state != .rejected &&
    order.submittedAt.any fun submitted => cfg.marketDate submitted == date

/-- The BUY orders the ledger accepted on a date. -/
def acceptedOn (cfg : LedgerConfig) (date : Date) (s : ShadowLedger) : Finset UUID :=
  ((s.orders.entries.filter fun entry => acceptedEntry cfg date entry.2.published).map
    Prod.fst).toFinset

theorem mem_acceptedOn {date : Date} {key : UUID} :
    key ∈ s.acceptedOn cfg date ↔
      ∃ item, s.orders.get? key = some item ∧ acceptedEntry cfg date item.published = true := by
  simp only [acceptedOn, List.mem_toFinset, List.mem_map, List.mem_filter]
  constructor
  · rintro ⟨⟨key, item⟩, ⟨member, accepted⟩, rfl⟩
    exact ⟨item, Dict.mem_entries.mp member, accepted⟩
  · rintro ⟨item, found, accepted⟩
    exact ⟨(key, item), ⟨Dict.mem_entries.mpr found, accepted⟩, rfl⟩

theorem Progressed.acceptedEntry {item item' : LedgerOrder} (moved : Progressed item item')
    (date : Date) : acceptedEntry cfg date item'.published = acceptedEntry cfg date item.published := by
  have side : item'.published.side = item.published.side := by rw [moved.frame]
  have submitted : item'.published.submittedAt = item.published.submittedAt := by rw [moved.frame]
  have rejected : (item'.published.state != .rejected) = (item.published.state != .rejected) := by
    simp only [bne, beq_eq_decide, moved.rejected_iff]
  simp only [ShadowLedger.acceptedEntry, side, submitted, rejected]

theorem Kept.acceptedOn_eq {paid : ℚ} (kept : Kept paid s s') (date : Date) :
    s'.acceptedOn cfg date = s.acceptedOn cfg date := by
  ext key
  rw [mem_acceptedOn, mem_acceptedOn]
  constructor
  · rintro ⟨item', found', accepted⟩
    obtain ⟨item, found, moved⟩ := kept.orders key item' found'
    exact ⟨item, found, moved.acceptedEntry date ▸ accepted⟩
  · rintro ⟨item, found, accepted⟩
    obtain ⟨item', found', moved⟩ := kept.progress found
    exact ⟨item', found', by rw [moved.acceptedEntry date, accepted]⟩

/-! ### Submissions -/

section Submission

variable {now : Time} {command : BrokerCommandIntent} {contract : OptionContract}

theorem admittedOn_recordSubmission (date : Date) :
    s.admittedOn date ⊆ (recordSubmission .exact cfg now command contract s).2.admittedOn date := by
  simp only [recordSubmission]
  split
  · exact Finset.Subset.refl _
  · split
    · rw [admittedOn_admitEntry]
      split
      · exact Finset.subset_insert _ _
      · exact Finset.Subset.refl _
    · exact Finset.Subset.refl _

/-- An accepted entry is charged to the day of its submission. -/
theorem admittedOn_accepted (buy : command.side = .buyToOpen)
    (accepted : rejectionReasonsFor .exact cfg now command contract s = []) :
    orderIdFor cfg command ∈
      (recordSubmission .exact cfg now command contract s).2.admittedOn (cfg.marketDate now) := by
  simp only [recordSubmission, accepted, buy, List.isEmpty_nil, Bool.not_true, Bool.false_eq_true,
    if_true, if_false]
  rw [admittedOn_admitEntry, if_pos rfl]
  exact Finset.mem_insert_self _ _

/-- The orders a submission leaves: those there were, but for the one it may overwrite, and
its own. -/
theorem get?_recordSubmission {key : UUID} {item : LedgerOrder}
    (found : (recordSubmission .exact cfg now command contract s).2.orders.get? key = some item) :
    (key = orderIdFor cfg command ∧ item = recordedOrder cfg now command contract
        (rejectionReasonsFor .exact cfg now command contract s)) ∨
      s.orders.get? key = some item := by
  rw [recordSubmission_orders, Dict.get?_set] at found
  split at found
  next same => exact Or.inl ⟨same.symm, (Option.some.inj found).symm⟩
  · exact Or.inr found

theorem acceptedEntry_new (reasons : List String) (date : Date) :
    acceptedEntry cfg date (newOrder cfg now command contract reasons) = true ↔
      command.side = .buyToOpen ∧ reasons = [] ∧ cfg.marketDate now = date := by
  cases reasons <;> simp [acceptedEntry, newOrder]

/-- A submission adds at most its own order to the entries of its own day. -/
theorem acceptedOn_recordSubmission {key : UUID} {date : Date}
    (entry : key ∈ (recordSubmission .exact cfg now command contract s).2.acceptedOn cfg date) :
    key ∈ s.acceptedOn cfg date ∨ key = orderIdFor cfg command ∧ command.side = .buyToOpen ∧
      rejectionReasonsFor .exact cfg now command contract s = [] ∧ cfg.marketDate now = date := by
  obtain ⟨item, found, accepted⟩ := mem_acceptedOn.mp entry
  rcases get?_recordSubmission found with ⟨own, rfl⟩ | old
  · exact Or.inr ⟨own, (acceptedEntry_new _ date).mp accepted⟩
  · exact Or.inl (mem_acceptedOn.mpr ⟨item, old, accepted⟩)

/-- A submission holds at most one more instrument, and none unless it is an entry. -/
theorem holds_recordSubmission {i : String}
    (held : (recordSubmission .exact cfg now command contract s).2.Holds i) :
    s.Holds i ∨ command.side = .buyToOpen ∧ contract.instrumentId = i := by
  rcases held with held | ⟨key, item, found, isBuy, instrument⟩
  · rw [recordSubmission_frame] at held
    exact Or.inl (Or.inl held)
  · rcases get?_recordSubmission found with ⟨-, rfl⟩ | old
    · simp only [BrokerOrder.isOpenBuy, newOrder, Bool.and_eq_true, beq_iff_eq] at isBuy
      exact Or.inr ⟨isBuy.2, instrument⟩
    · exact Or.inl (Or.inr ⟨key, item, old, isBuy, instrument⟩)

/-- A submission adds at most its notional to the risk, and nothing unless it is an entry. -/
theorem openOptionRisk_recordSubmission (ok : OrdersOk cfg catalog s) :
    (recordSubmission .exact cfg now command contract s).2.openOptionRisk .exact ≤
      s.openOptionRisk .exact + if command.side = .buyToOpen then
        command.limitPrice.val * command.quantity * contract.multiplier else 0 := by
  have orders := recordSubmission_orders cfg s now command contract .exact
  have reserved := reservedBuyingPower_set_le ok (orderIdFor cfg command)
    (recordedOrder cfg now command contract
      (rejectionReasonsFor .exact cfg now command contract s))
  rw [← reservedBuyingPower_congr orders, buyReserve_new] at reserved
  rw [openOptionRisk_eq, openOptionRisk_eq]
  have basis : (recordSubmission .exact cfg now command contract s).2.costBasis = s.costBasis := by
    rw [recordSubmission_frame]
    rfl
  rw [basis]
  by_cases buy : command.side = .buyToOpen
  · rw [if_pos buy]
    have notional : 0 ≤ command.limitPrice.val * command.quantity * contract.multiplier := by
      have price := command.limitPrice_pos
      have quantity : (0 : ℚ) < command.quantity := by exact_mod_cast command.quantity_pos
      have multiplier : (0 : ℚ) < contract.multiplier := by exact_mod_cast contract.multiplier_pos
      positivity
    split at reserved
    · linarith
    · linarith
  · rw [if_neg buy]
    rw [if_neg (fun both => buy both.2)] at reserved
    linarith

end Submission

/-! ### The caps -/

/-- The ledger is within the limits at a time, and its entries are charged to the days they
were accepted on, none of which is still to come. -/
structure Within (limits : LimitsConfig) (cfg : LedgerConfig) (catalog : String → OptionContract)
    (now : Time) (s : ShadowLedger) : Prop where
  solvent : Solvent cfg catalog s
  risk : s.openOptionRisk .exact ≤ limits.maxTotalOpenOptionRiskDollars
  positions : s.heldInstruments.card ≤ limits.maxOpenPositions
  entries : limits.dailyNewEntriesEnabled = true →
    ∀ date, (s.acceptedOn cfg date).card ≤ limits.maxNewEntriesPerDay
  charged : ∀ date, s.acceptedOn cfg date ⊆ s.admittedOn date
  past : ∀ date, cfg.marketDate now < date → s.acceptedOn cfg date = ∅

/-- There is room for an entry of some notional, today and on any later day. -/
structure Room (limits : LimitsConfig) (cfg : LedgerConfig) (now : Time) (notional : ℚ)
    (s : ShadowLedger) : Prop where
  risk : s.openOptionRisk .exact + notional ≤ limits.maxTotalOpenOptionRiskDollars
  positions : s.heldInstruments.card < limits.maxOpenPositions
  entries : limits.dailyNewEntriesEnabled = true → ∀ date, cfg.marketDate now ≤ date →
    (s.acceptedOn cfg date).card < limits.maxNewEntriesPerDay

section Caps

variable {limits : LimitsConfig} {now now' : Time}

theorem fresh_within : Within limits cfg catalog now (fresh cfg) where
  solvent := fresh_solvent
  risk := by
    have none_ : (fresh cfg).openOptionRisk .exact = 0 := by
      rw [openOptionRisk_eq]
      simp [fresh, costBasis, reservedBuyingPower_eq]
    rw [none_]
    exact le_of_lt limits.risk_pos
  positions := Nat.zero_le _
  entries := fun _ _ => Nat.zero_le _
  charged := fun _ => Finset.empty_subset _
  past := fun _ _ => rfl

/-- What keeps the ledger's measures keeps it within the limits, today or later. -/
theorem Within.kept {paid : ℚ} (within : Within limits cfg catalog now s)
    (solvent : Solvent cfg catalog s') (kept : Kept paid s s')
    (later : cfg.marketDate now ≤ cfg.marketDate now') : Within limits cfg catalog now' s' where
  solvent := solvent
  risk := le_trans kept.risk_le within.risk
  positions := le_trans
    (Finset.card_le_card (kept.heldInstruments_subset within.solvent.positions_ok
      solvent.positions_ok)) within.positions
  entries := fun enabled date => by
    rw [kept.acceptedOn_eq]
    exact within.entries enabled date
  charged := fun date => by
    rw [kept.acceptedOn_eq]
    exact (within.charged date).trans (kept.admitted date)
  past := fun date future => by
    rw [kept.acceptedOn_eq]
    exact within.past date (lt_of_le_of_lt later future)

theorem Room.kept {paid notional : ℚ} (room : Room limits cfg now notional s)
    (ok : PositionsOk catalog s) (ok' : PositionsOk catalog s') (kept : Kept paid s s')
    (later : cfg.marketDate now ≤ cfg.marketDate now') : Room limits cfg now' notional s' where
  risk := le_trans (add_le_add_left kept.risk_le notional) room.risk
  positions := lt_of_le_of_lt (Finset.card_le_card (kept.heldInstruments_subset ok ok'))
    room.positions
  entries := fun enabled date future => by
    rw [kept.acceptedOn_eq]
    exact room.entries enabled date (le_trans later future)

section Admission

variable {command : BrokerCommandIntent} {contract : OptionContract}

theorem heldInstruments_recordSubmission (ok : PositionsOk catalog s)
    (ok' : PositionsOk catalog (recordSubmission .exact cfg now command contract s).2) :
    (recordSubmission .exact cfg now command contract s).2.heldInstruments ⊆
      if command.side = .buyToOpen then insert contract.instrumentId s.heldInstruments
      else s.heldInstruments := by
  intro i held
  rw [mem_heldInstruments ok'] at held
  rcases holds_recordSubmission held with old | ⟨buy, rfl⟩
  · rw [← mem_heldInstruments ok] at old
    split
    · exact Finset.mem_insert_of_mem old
    · exact old
  · rw [if_pos buy]
    exact Finset.mem_insert_self _ _

theorem acceptedOn_recordSubmission_subset (date : Date) :
    (recordSubmission .exact cfg now command contract s).2.acceptedOn cfg date ⊆
      if command.side = .buyToOpen ∧ cfg.marketDate now = date then
        insert (orderIdFor cfg command) (s.acceptedOn cfg date) else s.acceptedOn cfg date := by
  intro key entry
  rcases acceptedOn_recordSubmission entry with old | ⟨rfl, buy, -, today⟩
  · split
    · exact Finset.mem_insert_of_mem old
    · exact old
  · rw [if_pos ⟨buy, today⟩]
    exact Finset.mem_insert_self _ _

/-- An order that has room, or that is no entry, leaves the ledger within the limits. -/
theorem Within.recordSubmission (within : Within limits cfg catalog now s)
    (bound : Bound cfg command contract .placeOptionOrder)
    (listed : catalog contract.instrumentId = contract)
    (room : command.side = .buyToOpen → Room limits cfg now
      (command.limitPrice.val * command.quantity * contract.multiplier) s) :
    Within limits cfg catalog now (recordSubmission .exact cfg now command contract s).2 := by
  have solvent : Solvent cfg catalog (ShadowLedger.recordSubmission .exact cfg now command contract s).2 :=
    recordSubmission_solvent bound listed within.solvent
  refine ⟨solvent, ?_, ?_, ?_, ?_, ?_⟩
  · refine le_trans (openOptionRisk_recordSubmission within.solvent.orders_ok) ?_
    split
    next buy => exact (room buy).risk
    · simpa using within.risk
  · have more := Finset.card_le_card
      (heldInstruments_recordSubmission within.solvent.positions_ok solvent.positions_ok)
    split at more
    next buy =>
      have space := (room buy).positions
      have one := Finset.card_insert_le contract.instrumentId s.heldInstruments
      omega
    · exact le_trans more within.positions
  · intro enabled date
    refine le_trans (Finset.card_le_card (acceptedOn_recordSubmission_subset date)) ?_
    split
    next today =>
      have space := (room today.1).entries enabled date (le_of_eq today.2)
      have one := Finset.card_insert_le (orderIdFor cfg command) (s.acceptedOn cfg date)
      omega
    · exact within.entries enabled date
  · intro date key entry
    rcases acceptedOn_recordSubmission entry with old | ⟨rfl, buy, accepted, rfl⟩
    · exact admittedOn_recordSubmission date (within.charged date old)
    · exact admittedOn_accepted buy accepted
  · intro date future
    rw [Finset.eq_empty_iff_forall_notMem]
    intro key entry
    rcases acceptedOn_recordSubmission entry with old | ⟨-, -, -, same⟩
    · rw [within.past date future] at old
      exact absurd old (Finset.notMem_empty key)
    · exact absurd same (ne_of_lt future)

theorem Within.submit (within : Within limits cfg catalog now s)
    (listed : catalog contract.instrumentId = contract)
    (room : command.side = .buyToOpen → Room limits cfg now
      (command.limitPrice.val * command.quantity * contract.multiplier) s) :
    Within limits cfg catalog now (submit .exact cfg now command contract s).2 := by
  rcases submit_cases .exact now command contract with same | ⟨bound, -, recorded⟩
  · rw [same]
    exact within
  · rw [recorded]
    exact within.recordSubmission bound listed room

end Admission

end Caps

end ShadowLedger
end Sentry
