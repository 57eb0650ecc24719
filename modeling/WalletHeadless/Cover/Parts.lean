import Mathlib.Algebra.Order.BigOperators.Group.List
import Mathlib.Algebra.BigOperators.Group.List.Basic

/-!
# Covering an amount by a part of a list

Every element of a list has a weight. A part of the list (`s.Subperm l`: some elements, each at most once)
covers a target when its weights sum to at least the target.

* `weight`, `share`: the weight of a list, and of its elements with one key;
* `Covering`: a part that covers the target with as few elements as possible;
* `BestFit`: a part that is one element of the least sufficient weight, where one element is enough;
* `weight_le_weight_take`: in a list with the heaviest elements first, no part weighs more than the prefix of
  its length;
* `covering_take`: there, the shortest prefix that covers the target is a `Covering`.
-/

namespace Cover

variable {α M : Type*}

/-- The sum of the weights. -/
def weight [AddMonoid M] (f : α → M) (l : List α) : M := (l.map f).sum

section Weight

variable [AddCommMonoid M] (f : α → M)

@[simp] theorem weight_nil : weight f [] = 0 := rfl

@[simp] theorem weight_cons (a : α) (l : List α) : weight f (a :: l) = f a + weight f l := by simp [weight]

theorem weight_append (l l' : List α) : weight f (l ++ l') = weight f l + weight f l' := by simp [weight]

theorem weight_perm {l l' : List α} (h : l.Perm l') : weight f l = weight f l' := (h.map f).sum_eq

theorem weight_map {β : Type*} (g : β → α) (l : List β) : weight f (l.map g) = weight (fun b => f (g b)) l := by
  simp [weight, Function.comp_def]

theorem weight_congr {g : α → M} {l : List α} (h : ∀ a ∈ l, f a = g a) : weight f l = weight g l := by
  rw [weight, weight, List.map_congr_left h]

theorem weight_le_of_subperm [PartialOrder M] [IsOrderedAddMonoid M] [CanonicallyOrderedAdd M] {s l : List α}
    (h : s.Subperm l) : weight f s ≤ weight f l := by
  obtain ⟨s', hperm, hsub⟩ := h
  rw [← weight_perm f hperm]
  exact (hsub.map f).sum_le_sum fun _ _ => zero_le

end Weight

theorem subperm_map {β : Type*} (g : α → β) {s l : List α} (h : s.Subperm l) : (s.map g).Subperm (l.map g) := by
  obtain ⟨s', hperm, hsub⟩ := h
  exact ⟨s'.map g, hperm.map g, hsub.map g⟩

theorem nodup_of_subperm {s l : List α} (h : s.Subperm l) (hl : l.Nodup) : s.Nodup := by
  obtain ⟨s', hperm, hsub⟩ := h
  exact hperm.nodup_iff.mp (hl.sublist hsub)

/-! ## The elements with one key -/

section Share

variable {K : Type*} [DecidableEq K]

/-- The weight of the elements with the key `k`. -/
def share [AddMonoid M] (key : α → K) (f : α → M) (l : List α) (k : K) : M := weight f (l.filter fun a => key a = k)

variable [AddCommMonoid M] (key : α → K) (f : α → M)

theorem share_cons (a : α) (l : List α) (k : K) :
    share key f (a :: l) k = (if key a = k then f a else 0) + share key f l k := by
  unfold share
  by_cases h : key a = k <;> simp [h]

theorem share_append (l l' : List α) (k : K) :
    share key f (l ++ l') k = share key f l k + share key f l' k := by
  rw [share, List.filter_append, weight_append]
  rfl

theorem share_of_forall {l : List α} {k : K} (h : ∀ a ∈ l, key a = k) : share key f l k = weight f l := by
  rw [share, List.filter_eq_self.mpr fun a ha => decide_eq_true (h a ha)]

theorem share_congr {key' : α → K} {l : List α} (h : ∀ a ∈ l, key a = key' a) (k : K) :
    share key f l k = share key' f l k := by
  unfold share
  congr 1
  exact List.filter_congr fun a ha => by rw [h a ha]

section Compare

variable [PartialOrder M] [CanonicallyOrderedAdd M] {key f} {key' : α → K} {l : List α} {k : K}

theorem share_le_share [IsOrderedAddMonoid M] (h : ∀ a ∈ l, key a = k → key' a = k) :
    share key f l k ≤ share key' f l k := by
  induction l with
  | nil => exact le_rfl
  | cons a l ih =>
      rw [share_cons, share_cons]
      refine add_le_add ?_ (ih fun b hb => h b (by simp [hb]))
      by_cases hk : key a = k
      · rw [if_pos hk, if_pos (h a (by simp) hk)]
      · rw [if_neg hk]
        exact zero_le

/-- An element of some weight that has the key by `key'` only. -/
theorem share_lt_share [IsOrderedCancelAddMonoid M] (h : ∀ a ∈ l, key a = k → key' a = k) {a : α} (ha : a ∈ l)
    (hk : key a ≠ k) (hk' : key' a = k) (hf : 0 < f a) : share key f l k < share key' f l k := by
  obtain ⟨u, v, rfl⟩ := List.append_of_mem ha
  rw [share_append, share_append, share_cons, share_cons, if_neg hk, if_pos hk', zero_add]
  refine add_lt_add_of_le_of_lt (share_le_share fun b hb => h b (by simp [hb])) ?_
  calc share key f v k ≤ share key' f v k := share_le_share fun b hb => h b (by simp [hb])
    _ < f a + share key' f v k := lt_add_of_pos_left _ hf

end Compare

end Share

/-- `s` is a part of `l` that covers `target`, and no part with fewer elements does. -/
structure Covering [AddMonoid M] [LE M] (f : α → M) (target : M) (l s : List α) : Prop where
  part : s.Subperm l
  covers : target ≤ weight f s
  fewest : ∀ s' : List α, s'.Subperm l → target ≤ weight f s' → s.length ≤ s'.length

/-- Where one element of `l` is enough, `s` is one, of the least weight that is. -/
def BestFit [LE M] (f : α → M) (target : M) (l s : List α) : Prop :=
  (∃ v ∈ l, target ≤ f v) → ∃ u ∈ l, s = [u] ∧ target ≤ f u ∧ ∀ v ∈ l, target ≤ f v → f u ≤ f v

theorem Covering.perm [AddMonoid M] [LE M] {f : α → M} {target : M} {l l' s : List α}
    (h : Covering f target l s) (hl : l.Perm l') : Covering f target l' s where
  part := h.part.trans hl.subperm
  covers := h.covers
  fewest s' hs' := h.fewest s' (hs'.trans hl.symm.subperm)

theorem BestFit.perm [LE M] {f : α → M} {target : M} {l l' s : List α} (h : BestFit f target l s)
    (hl : l.Perm l') : BestFit f target l' s := by
  rintro ⟨v, hv, hle⟩
  obtain ⟨u, hu, rfl, hfit, hbest⟩ := h ⟨v, hl.mem_iff.mpr hv, hle⟩
  exact ⟨u, hl.mem_iff.mp hu, rfl, hfit, fun x hx => hbest x (hl.mem_iff.mpr hx)⟩

theorem covering_singleton [AddCommMonoid M] [Preorder M] {f : α → M} {target : M} {l : List α} {u : α}
    (hu : u ∈ l) (hle : target ≤ f u) (hpos : 0 < target) : Covering f target l [u] where
  part := List.singleton_subperm_iff.mpr hu
  covers := by simpa using hle
  fewest s' _ hle' := by
    cases s' with
    | nil => exact absurd (hpos.trans_le hle') (lt_irrefl 0)
    | cons a s' => simp

/-- The heaviest elements first. -/
abbrev Descending [LE M] (f : α → M) (l : List α) : Prop := l.Pairwise fun a b => f b ≤ f a

section Ordered

variable [AddCommMonoid M] [LinearOrder M] [IsOrderedAddMonoid M] {f : α → M} {target : M} {l s : List α}

/-- A prefix weighs no less than the prefix of the same length after the head is dropped. -/
theorem weight_take_le_cons {a : α} (hl : Descending f (a :: l)) {n : ℕ} (hn : n ≤ l.length) :
    weight f (l.take n) ≤ weight f ((a :: l).take n) := by
  induction l generalizing a n with
  | nil =>
      obtain rfl : n = 0 := by simpa using hn
      exact le_rfl
  | cons b l ih =>
      obtain ⟨hab, hl⟩ := List.pairwise_cons.mp hl
      cases n with
      | zero => exact le_rfl
      | succ n =>
          have hn : n ≤ l.length := by simpa using hn
          rw [List.take_succ_cons, List.take_succ_cons, weight_cons, weight_cons]
          exact add_le_add (hab b (by simp)) (ih hl hn)

/-- The exchange argument: an element that is left out can be put in for one that comes after it. -/
theorem weight_le_of_sublist (hl : Descending f l) (hs : s.Sublist l) :
    weight f s ≤ weight f (l.take s.length) := by
  induction hs with
  | slnil => exact le_rfl
  | cons a h ih => exact (ih hl.of_cons).trans (weight_take_le_cons hl h.length_le)
  | cons_cons a _ ih =>
      rw [List.length_cons, List.take_succ_cons, weight_cons, weight_cons]
      exact add_le_add le_rfl (ih hl.of_cons)

theorem weight_le_weight_take (hl : Descending f l) (hs : s.Subperm l) :
    weight f s ≤ weight f (l.take s.length) := by
  obtain ⟨s', hperm, hsub⟩ := hs
  rw [← weight_perm f hperm, ← hperm.length_eq]
  exact weight_le_of_sublist hl hsub

/-- The shortest prefix that covers the target. -/
theorem covering_take (hl : Descending f l) {n : ℕ} (hcovers : target ≤ weight f (l.take n))
    (hshort : ∀ m < n, weight f (l.take m) < target) : Covering f target l (l.take n) where
  part := (l.take_sublist n).subperm
  covers := hcovers
  fewest s' hs' hle := by
    refine (List.length_take_le n l).trans ?_
    by_contra hlt
    exact not_lt.mpr (hle.trans (weight_le_weight_take hl hs')) (hshort _ (not_le.mp hlt))

end Ordered

/-- In a list with the heaviest elements first, the last one that is enough. -/
theorem bestFit_getElem [LinearOrder M] {f : α → M} {target : M} {l : List α} (hl : Descending f l) {i : ℕ}
    (hi : i < l.length) (hle : target ≤ f l[i])
    (hlast : ∀ j (hj : j < l.length), i < j → f l[j] < target) : BestFit f target l [l[i]] := by
  rintro -
  refine ⟨l[i], List.getElem_mem hi, rfl, hle, fun v hv hv' => ?_⟩
  obtain ⟨j, hj, rfl⟩ := List.mem_iff_getElem.mp hv
  have hji : j ≤ i := by
    by_contra hlt
    exact not_lt.mpr hv' (hlast j hj (not_le.mp hlt))
  rcases hji.eq_or_lt with rfl | hlt
  · exact le_rfl
  · exact List.pairwise_iff_getElem.mp hl j i hj hi hlt

end Cover
