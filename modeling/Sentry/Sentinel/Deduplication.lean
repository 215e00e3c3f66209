import Mathlib.Data.List.Dedup
import Sentry.Domain.Models
import Sentry.Support.Recency

/-!
# The event deduplicator

`EventDeduplicator` of `app/sentinel/events.py`. What is remembered expires by the time at which
it was accepted, and is evicted in the order of the queue, in which a repeat that is refused
moves to the end without a new time. The queue is only as long as its capacity, so a key can be
forgotten early; while no more than that many keys are accepted within any one window, none is.
-/
namespace Sentry

open Support

structure EventDeduplicator where
  ttl : ℤ
  capacity : ℤ
  ttl_pos : 0 < ttl
  capacity_pos : 0 < capacity

/-- A call of `accept`, with what the clock shows. -/
structure Arrival where
  now : Time
  key : String
  deriving DecidableEq

namespace EventDeduplicator

/-- What is remembered, and the calls so far that were accepted. -/
structure Memory where
  seen : Dict String Time
  accepted : List Arrival

variable (d : EventDeduplicator)

/-- The memory when what expired has been popped. -/
def unexpired (now : Time) (seen : Dict String Time) : Dict String Time :=
  let cutoff := now - d.ttl
  seen.discard fun seenAt => decide (seenAt < cutoff)

def accept (call : Arrival) (seen : Dict String Time) : Bool × Dict String Time :=
  let seen := d.unexpired call.now seen
  match seen.get? call.key with
  | some _ => (false, seen.moveToEnd call.key)
  | none =>
    let seen := seen.set call.key call.now
    (true, if seen.entries.length > d.capacity then seen.popFirst else seen)

def step (m : Memory) (call : Arrival) : Memory where
  seen := (d.accept call m.seen).2
  accepted := if (d.accept call m.seen).1 then m.accepted ++ [call] else m.accepted

def run (calls : List Arrival) : Memory := calls.foldl d.step ⟨.empty, []⟩

/-- The keys that were accepted from some time on until the end of the window. -/
def window (since : Time) (accepted : List Arrival) : List String :=
  (accepted.filter fun call =>
    decide (since ≤ call.now) && decide (call.now ≤ since + d.ttl)).map Arrival.key

/-- No more than `capacity` distinct keys were accepted within any window. -/
def Sparse (accepted : List Arrival) : Prop :=
  ∀ since, ((d.window since accepted).dedup.length : ℤ) ≤ d.capacity

section

variable {d} {m : Memory} {call : Arrival} {seen : Dict String Time} {last : Time}

/-! ### One call -/

theorem get?_unexpired {now at_ : Time} {key : String} :
    (d.unexpired now seen).get? key = some at_ ↔ seen.get? key = some at_ ∧ now - d.ttl ≤ at_ := by
  rw [unexpired, Dict.get?_discard, decide_eq_false_iff_not, not_lt]

theorem accept_of_some {at_ : Time} (found : (d.unexpired call.now seen).get? call.key = some at_) :
    d.accept call seen = (false, (d.unexpired call.now seen).moveToEnd call.key) := by
  simp only [accept, found]

theorem accept_of_none (absent : (d.unexpired call.now seen).get? call.key = none) :
    d.accept call seen =
      let added := (d.unexpired call.now seen).set call.key call.now
      (true, if added.entries.length > d.capacity then added.popFirst else added) := by
  simp only [accept, absent]

/-- A key is accepted when it is not remembered since a time within the window. -/
theorem accept_iff : (d.accept call seen).1 = true ↔
    ∀ at_, seen.get? call.key = some at_ → at_ < call.now - d.ttl := by
  cases found : (d.unexpired call.now seen).get? call.key with
  | some at_ =>
    rw [accept_of_some found]
    obtain ⟨kept, late⟩ := get?_unexpired.mp found
    simp only [Bool.false_eq_true, false_iff, not_forall]
    exact ⟨at_, kept, not_lt.mpr late⟩
  | none =>
    rw [accept_of_none found]
    simp only [true_iff]
    intro at_ kept
    by_contra late
    have there := get?_unexpired.mpr ⟨kept, not_lt.mp late⟩
    simp [found] at there

/-- Whatever the clock shows, the memory is never longer than its capacity. -/
theorem length_accept (small : (seen.entries.length : ℤ) ≤ d.capacity) :
    ((d.accept call seen).2.entries.length : ℤ) ≤ d.capacity := by
  have fewer : (d.unexpired call.now seen).entries.length ≤ seen.entries.length := by
    rw [← seen.length_keys]
    exact Dict.length_le_of_keys Dict.keys_discard_subset
  cases found : (d.unexpired call.now seen).get? call.key with
  | some at_ =>
    rw [accept_of_some found]
    have moved : ((d.unexpired call.now seen).moveToEnd call.key).entries.length ≤
        (d.unexpired call.now seen).entries.length := by
      rw [← (d.unexpired call.now seen).length_keys]
      exact Dict.length_le_of_keys Dict.keys_moveToEnd_subset
    simp only
    omega
  | none =>
    rw [accept_of_none found]
    have longer := Dict.length_set_of_get?_none found call.now
    -- one entry more, so that one that is popped is enough
    simp only
    split
    · rw [Dict.length_popFirst]
      omega
    · omega

theorem length_run (calls : List Arrival) :
    ((d.run calls).seen.entries.length : ℤ) ≤ d.capacity := by
  induction calls using List.reverseRecOn with
  | nil => exact le_of_lt d.capacity_pos
  | append_singleton before call ih =>
    rw [run, List.foldl_append]
    exact length_accept ih

/-! ### What is remembered -/

/-- A clock that has not gone back yet: what is remembered was accepted at that time, and what was
accepted within the last window is remembered. -/
structure Remembers (d : EventDeduplicator) (last : Time) (m : Memory) : Prop where
  recorded : ∀ key at_, m.seen.get? key = some at_ → ⟨at_, key⟩ ∈ m.accepted
  past : ∀ call ∈ m.accepted, call.now ≤ last
  recent : ∀ call ∈ m.accepted, last - d.ttl ≤ call.now →
    ∃ at_, m.seen.get? call.key = some at_ ∧ call.now ≤ at_

theorem Remembers.later {later : Time} (known : Remembers d last m) (order : last ≤ later) :
    Remembers d later m where
  recorded := known.recorded
  past call member := (known.past call member).trans order
  recent call member within := known.recent call member (by
    have window := sub_le_sub_right order d.ttl
    exact window.trans within)

/-- The answer to a call at a time that is not before the last one. -/
theorem Remembers.accept_iff (known : Remembers d last m) (order : last ≤ call.now) :
    (d.accept call m.seen).1 = true ↔ ∀ earlier ∈ m.accepted, earlier.key = call.key →
      ¬(call.now - d.ttl ≤ earlier.now ∧ earlier.now ≤ call.now) := by
  rw [EventDeduplicator.accept_iff]
  constructor
  · rintro old earlier member same ⟨within, -⟩
    obtain ⟨at_, found, since⟩ := (known.later order).recent earlier member within
    rw [same] at found
    exact absurd (within.trans since) (not_le.mpr (old at_ found))
  · intro fresh at_ found
    have member := known.recorded call.key at_ found
    by_contra late
    exact fresh _ member rfl ⟨not_lt.mp late, (known.past _ member).trans order⟩

theorem mem_window {since : Time} {accepted : List Arrival} {key : String} :
    key ∈ d.window since accepted ↔
      ∃ call ∈ accepted, call.key = key ∧ since ≤ call.now ∧ call.now ≤ since + d.ttl := by
  simp only [window, List.mem_map, List.mem_filter, Bool.and_eq_true, decide_eq_true_eq]
  constructor
  · rintro ⟨call, ⟨member, within⟩, same⟩
    exact ⟨call, member, same, within⟩
  · rintro ⟨call, member, same, within⟩
    exact ⟨call, ⟨member, within⟩, same⟩

theorem Sparse.sublist {some_ all : List Arrival} (sparse : d.Sparse all) (fewer : some_.Sublist all) :
    d.Sparse some_ := by
  intro since
  have shorter : (d.window since some_).dedup.length ≤ (d.window since all).dedup.length := by
    apply (List.subperm_of_subset (List.nodup_dedup _) _).length_le
    intro key member
    rw [List.mem_dedup, mem_window] at member ⊢
    obtain ⟨call, inside, rest⟩ := member
    exact ⟨call, fewer.subset inside, rest⟩
  have bound := sparse since
  omega

/-- Nothing is evicted while few keys are accepted: what would be remembered was accepted within
the window that ends now. -/
theorem accept_of_sparse (known : Remembers d last m) (order : last ≤ call.now)
    (absent : (d.unexpired call.now m.seen).get? call.key = none)
    (sparse : d.Sparse (m.accepted ++ [call])) :
    d.accept call m.seen = (true, (d.unexpired call.now m.seen).set call.key call.now) := by
  have within : ((d.unexpired call.now m.seen).set call.key call.now).keys ⊆
      (d.window (call.now - d.ttl) (m.accepted ++ [call])).dedup := by
    intro key member
    rw [List.mem_dedup, mem_window, sub_add_cancel]
    obtain ⟨at_, found⟩ := Dict.mem_keys.mp member
    rw [Dict.get?_set] at found
    split at found
    next same =>
      have positive := d.ttl_pos
      exact ⟨call, by simp, same, sub_le_self _ (le_of_lt positive), le_rfl⟩
    next other =>
      obtain ⟨kept, late⟩ := get?_unexpired.mp found
      have member := known.recorded key at_ kept
      exact ⟨_, List.mem_append_left _ member, rfl, late, (known.past _ member).trans order⟩
  have bound := sparse (call.now - d.ttl)
  have short := Dict.length_le_of_keys within
  rw [accept_of_none absent]
  simp only
  rw [if_neg (by omega)]

theorem remembers_step (known : Remembers d last m) (order : last ≤ call.now)
    (sparse : d.Sparse (d.step m call).accepted) : Remembers d call.now (d.step m call) := by
  have now := known.later order
  cases found : (d.unexpired call.now m.seen).get? call.key with
  | some at_ =>
    have answered := accept_of_some found
    have same : (d.step m call).accepted = m.accepted := by simp [step, answered]
    have kept : ∀ key at_, (d.step m call).seen.get? key = some at_ ↔
        m.seen.get? key = some at_ ∧ call.now - d.ttl ≤ at_ := by
      intro key at_
      simp only [step, answered]
      rw [Dict.get?_moveToEnd, get?_unexpired]
    refine ⟨?_, ?_, ?_⟩
    · intro key at_ there
      rw [same]
      exact now.recorded key at_ ((kept key at_).mp there).1
    · rw [same]
      exact now.past
    · rw [same]
      intro earlier member within
      obtain ⟨at_, there, since⟩ := now.recent earlier member within
      exact ⟨at_, (kept _ _).mpr ⟨there, within.trans since⟩, since⟩
  | none =>
    have taken : (d.accept call m.seen).1 = true := by rw [accept_of_none found]
    have more : (d.step m call).accepted = m.accepted ++ [call] := by simp [step, taken]
    have answered := accept_of_sparse known order found (more ▸ sparse)
    have kept : (d.step m call).seen = (d.unexpired call.now m.seen).set call.key call.now := by
      simp [step, answered]
    refine ⟨?_, ?_, ?_⟩
    · intro key at_ there
      rw [more]
      rw [kept, Dict.get?_set] at there
      split at there
      next same =>
        cases there
        subst same
        exact List.mem_append_right _ (List.mem_singleton_self _)
      next other =>
        exact List.mem_append_left _ (now.recorded key at_ (get?_unexpired.mp there).1)
    · rw [more]
      intro earlier member
      rcases List.mem_append.mp member with before | here
      · exact now.past earlier before
      · exact le_of_eq (congrArg Arrival.now (List.mem_singleton.mp here))
    · rw [more, kept]
      intro earlier member within
      rw [Dict.get?_set]
      split
      next same =>
        -- the key that was accepted now has no earlier time
        refine ⟨call.now, rfl, ?_⟩
        rcases List.mem_append.mp member with before | here
        · exact now.past earlier before
        · exact le_of_eq (congrArg Arrival.now (List.mem_singleton.mp here))
      next other =>
        rcases List.mem_append.mp member with before | here
        · obtain ⟨at_, there, since⟩ := now.recent earlier before within
          exact ⟨at_, get?_unexpired.mpr ⟨there, within.trans since⟩, since⟩
        · exact absurd (congrArg Arrival.key (List.mem_singleton.mp here)).symm other

/-! ### Runs -/

theorem run_concat (before : List Arrival) (call : Arrival) :
    d.run (before ++ [call]) = d.step (d.run before) call := by
  simp [run]

theorem accepted_step : m.accepted.Sublist (d.step m call).accepted := by
  simp only [step]
  split
  · exact List.sublist_append_left _ _
  · exact List.Sublist.refl _

theorem accepted_run (before after : List Arrival) :
    (d.run before).accepted.Sublist (d.run (before ++ after)).accepted := by
  induction after using List.reverseRecOn with
  | nil => simp
  | append_singleton after call ih =>
    rw [← List.append_assoc, run_concat]
    exact ih.trans accepted_step

theorem remembers_run (last : Time) {calls : List Arrival} (clock : calls.Pairwise fun a b => a.now ≤ b.now)
    (sparse : d.Sparse (d.run calls).accepted) (past : ∀ call ∈ calls, call.now ≤ last) :
    Remembers d last (d.run calls) := by
  induction calls using List.reverseRecOn generalizing last with
  | nil => exact ⟨by simp [run], by simp [run], by simp [run]⟩
  | append_singleton before call ih =>
    rw [List.pairwise_append] at clock
    rw [run_concat] at sparse ⊢
    have known := ih call.now clock.1 (sparse.sublist accepted_step) fun earlier member =>
      clock.2.2 earlier member call (List.mem_singleton_self _)
    exact (remembers_step known le_rfl sparse).later (past call (by simp))

end

/-- On a clock that does not go back, while no window has more keys than the memory, a key is
accepted exactly when it was not accepted within the window that ends now. The memory is never
longer than its capacity, on any clock. -/
theorem accepts_once_in_a_window :
    (∀ calls : List Arrival, calls.Pairwise (fun a b => a.now ≤ b.now) →
      d.Sparse (d.run calls).accepted →
      ∀ before call after, calls = before ++ call :: after →
        ((d.accept call (d.run before).seen).1 = true ↔
          ∀ earlier ∈ (d.run before).accepted, earlier.key = call.key →
            ¬(call.now - d.ttl ≤ earlier.now ∧ earlier.now ≤ call.now))) ∧
    ∀ calls : List Arrival, ((d.run calls).seen.entries.length : ℤ) ≤ d.capacity := by
  refine ⟨?_, length_run⟩
  rintro calls clock sparse before call after rfl
  rw [List.pairwise_append] at clock
  have few := sparse.sublist (accepted_run before (call :: after))
  have known := remembers_run call.now clock.1 few fun earlier member =>
    clock.2.2 earlier member call List.mem_cons_self
  exact known.accept_iff le_rfl

/-- A memory of one key. -/
def single : EventDeduplicator where
  ttl := 10
  capacity := 1
  ttl_pos := by decide
  capacity_pos := by decide

/-- A key that is repeated, another one after it, and the first key once it is forgotten. -/
def arrivals : List Arrival := [⟨0, "quote"⟩, ⟨5, "quote"⟩, ⟨11, "fill"⟩, ⟨22, "quote"⟩]

theorem sparse_arrivals : single.Sparse (single.run arrivals).accepted := by
  have accepted : (single.run arrivals).accepted =
      [⟨0, "quote"⟩, ⟨11, "fill"⟩, ⟨22, "quote"⟩] := by decide
  intro since
  rw [accepted]
  simp only [window, single, List.filter_cons, List.filter_nil, Bool.and_eq_true, decide_eq_true_eq]
  -- any two of the three are further apart than the window is long
  split_ifs <;> first | decide | grind

theorem accepts_once_in_a_window_arrivals :
    (single.accept ⟨5, "quote"⟩ (single.run (arrivals.take 1)).seen).1 = false ∧
      (single.accept ⟨22, "quote"⟩ (single.run (arrivals.take 3)).seen).1 = true ∧
      ((single.run arrivals).seen.entries.length : ℤ) ≤ 1 := by
  have exact := single.accepts_once_in_a_window.1 arrivals (by decide) sparse_arrivals
  refine ⟨?_, ?_, single.accepts_once_in_a_window.2 arrivals⟩
  · rw [Bool.eq_false_iff]
    intro taken
    exact (exact (arrivals.take 1) ⟨5, "quote"⟩ (arrivals.drop 2) rfl).mp taken ⟨0, "quote"⟩
      (by decide) rfl (by decide)
  · exact (exact (arrivals.take 3) ⟨22, "quote"⟩ [] rfl).mpr (by decide)

end EventDeduplicator

end Sentry
