import Sentry.Support.Ranking

/-!
# Representatives

Of a list whose elements fall into classes, the first of each class. When the list is ranked
first, the first of a class is one with the least key, and the keys that are left depend on the
elements only, not on the order they came in, even where elements share a key.
-/
namespace Support

variable {α ι κ : Type} {kind : α → ι} {seen : List ι} {xs ys zs : List α}

section Firsts

variable [DecidableEq ι]

/-- The elements whose class has not been seen before. -/
def firsts (kind : α → ι) : List ι → List α → List α
  | _, [] => []
  | seen, x :: rest =>
    if kind x ∈ seen then firsts kind seen rest else x :: firsts kind (kind x :: seen) rest

theorem firsts_sublist (kind : α → ι) (seen : List ι) (xs : List α) :
    (firsts kind seen xs).Sublist xs := by
  induction xs generalizing seen with
  | nil => exact List.Sublist.slnil
  | cons x rest ih =>
    unfold firsts
    split
    · exact (ih seen).cons x
    · exact (ih _).cons_cons x

theorem not_seen_of_mem_firsts {x : α} (member : x ∈ firsts kind seen xs) : kind x ∉ seen := by
  induction xs generalizing seen with
  | nil => cases member
  | cons y rest ih =>
    unfold firsts at member
    split at member
    next => exact ih member
    next fresh =>
      rcases List.mem_cons.mp member with rfl | later
      · exact fresh
      · exact fun among => ih later (List.mem_cons_of_mem _ among)

/-- No two elements of one class. -/
theorem firsts_distinct (kind : α → ι) (seen : List ι) (xs : List α) :
    Distinguished kind (firsts kind seen xs) := by
  induction xs generalizing seen with
  | nil => exact List.Pairwise.nil
  | cons x rest ih =>
    unfold firsts
    split
    · exact ih seen
    · refine List.Pairwise.cons (fun y member same => ?_) (ih _)
      exact not_seen_of_mem_firsts member (same ▸ List.mem_cons_self)

/-- Where no element comes after a smaller one, a class is represented by one of its least. -/
theorem exists_firsts [LinearOrder κ] {key : α → κ} (sorted : xs.Pairwise fun x y => key x ≤ key y)
    {x : α} (member : x ∈ xs) (fresh : kind x ∉ seen) :
    ∃ y ∈ firsts kind seen xs, kind y = kind x ∧ key y ≤ key x := by
  induction sorted generalizing seen with
  | nil => cases member
  | @cons first rest least _ ih =>
    unfold firsts
    rcases List.mem_cons.mp member with rfl | later
    · rw [if_neg fresh]
      exact ⟨x, List.mem_cons_self, rfl, le_rfl⟩
    · split
      · exact ih later fresh
      · by_cases same : kind x = kind first
        · exact ⟨first, List.mem_cons_self, same.symm, least x later⟩
        · have unseen : kind x ∉ kind first :: seen := by simp [same, fresh]
          obtain ⟨y, there, rest⟩ := ih later unseen
          exact ⟨y, List.mem_cons_of_mem _ there, rest⟩

/-- The first of each class in the ranking. -/
def representatives [LinearOrder κ] (key : α → κ) (kind : α → ι) (xs : List α) : List α :=
  firsts kind [] (ranking key xs)

end Firsts

variable [LinearOrder κ] {key : α → κ}

/-- `ys` hold one element of each class of `xs`, the least, and are in order. -/
structure Represents (key : α → κ) (kind : α → ι) (xs ys : List α) : Prop where
  member : ∀ y ∈ ys, y ∈ xs
  distinct : Distinguished kind ys
  ordered : ys.Pairwise fun x y => key x ≤ key y
  least : ∀ x ∈ xs, ∃ y ∈ ys, kind y = kind x ∧ key y ≤ key x

theorem Represents.of_perm (represents : Represents key kind xs zs)
    (same : xs.Perm ys) : Represents key kind ys zs where
  member y shown := same.subset (represents.member y shown)
  distinct := represents.distinct
  ordered := represents.ordered
  least x member := represents.least x (same.symm.subset member)

/-- Two representatives of one class have one key. -/
theorem Represents.key_eq (left : Represents key kind xs ys)
    (right : Represents key kind xs zs) {y z : α} (inY : y ∈ ys) (inZ : z ∈ zs)
    (same : kind y = kind z) : key y = key z := by
  have unique {ws : List α} (distinct : Distinguished kind ws) {a b : α} (inA : a ∈ ws)
      (inB : b ∈ ws) (alike : kind a = kind b) : a = b :=
    List.inj_on_of_nodup_map (List.pairwise_map.mpr distinct) inA inB alike
  apply le_antisymm
  · obtain ⟨w, inW, alike, less⟩ := left.least z (right.member z inZ)
    rwa [unique left.distinct inY inW (same.trans alike.symm)]
  · obtain ⟨w, inW, alike, less⟩ := right.least y (left.member y inY)
    rwa [unique right.distinct inZ inW (same.symm.trans alike.symm)]

theorem Represents.classes_perm (left : Represents key kind xs ys)
    (right : Represents key kind xs zs) :
    (ys.map fun y => (kind y, key y)).Perm (zs.map fun z => (kind z, key z)) := by
  have nodup {ws : List α} (distinct : Distinguished kind ws) :
      (ws.map fun w => (kind w, key w)).Nodup :=
    List.pairwise_map.mpr (distinct.imp fun apart same => apart (congrArg Prod.fst same))
  rw [List.perm_ext_iff_of_nodup (nodup left.distinct) (nodup right.distinct)]
  have within {us ws : List α} (first : Represents key kind xs us)
      (second : Represents key kind xs ws) {pair : ι × κ}
      (member : pair ∈ us.map fun u => (kind u, key u)) :
      pair ∈ ws.map fun w => (kind w, key w) := by
    obtain ⟨u, inU, rfl⟩ := List.mem_map.mp member
    obtain ⟨w, inW, alike, -⟩ := second.least u (first.member u inU)
    rw [List.mem_map]
    exact ⟨w, inW, by rw [alike, first.key_eq second inU inW alike.symm]⟩
  exact fun pair => ⟨within left right, within right left⟩

/-- The keys that are left depend on the elements only. -/
theorem Represents.keys_eq (left : Represents key kind xs ys)
    (right : Represents key kind xs zs) : ys.map key = zs.map key := by
  have perm : (ys.map key).Perm (zs.map key) := by
    have keys := (left.classes_perm right).map Prod.snd
    simpa [List.map_map, Function.comp_def] using keys
  refine List.Perm.eq_of_pairwise ?_ (List.pairwise_map.mpr left.ordered)
    (List.pairwise_map.mpr right.ordered) perm
  exact fun _ _ _ _ less more => le_antisymm less more

theorem represents_representatives [DecidableEq ι] (key : α → κ) (kind : α → ι) (xs : List α) :
    Represents key kind xs (representatives key kind xs) where
  member _ shown := (ranking_perm key xs).subset ((firsts_sublist _ _ _).subset shown)
  distinct := firsts_distinct kind [] _
  ordered := (ranking_sorted key xs).sublist (firsts_sublist _ _ _)
  least _ member :=
    exists_firsts (ranking_sorted key xs) ((ranking_perm key xs).symm.subset member) (by simp)

end Support
