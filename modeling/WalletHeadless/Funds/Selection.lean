import Mathlib.Algebra.Order.Group.Nat
import WalletHeadless.Cover.Parts
import WalletHeadless.Helpers.Tx

/-!
# The utxos of `getUtxosToFillTx`

* `sortUtxos`, `fillAmount`: the utxos from the largest on, and their shortest prefix that fills the amount;
* `selectUtxos_spec`: of all parts of the utxos that cover the amount, one with the fewest utxos, and the
  smallest utxo that covers it where one is enough;
* `getUtxosToFillTx_selects`.
-/

namespace WalletHeadless

open Coop Cover Js

/-! ## Sorting -/

theorem sortUtxos_perm (utxos : List UtxoDetail) : (sortUtxos utxos).Perm utxos := List.perm_insertionSort _ _

theorem sortUtxos_descending (utxos : List UtxoDetail) : Descending UtxoDetail.amount (sortUtxos utxos) :=
  List.pairwise_insertionSort (fun a b : UtxoDetail => b.amount ≤ a.amount) utxos

/-! ## The prefix that fills the amount -/

/-- `fillAmount` stops at the first utxo that fills the amount. -/
theorem fillAmount_eq_some {sumOutputs total : Nat} {utxos chosen : List UtxoDetail}
    (h : fillAmount sumOutputs utxos total = some chosen) :
    ∃ n, chosen = utxos.take (n + 1) ∧ sumOutputs ≤ total + weight UtxoDetail.amount chosen ∧
      ∀ m < n, total + weight UtxoDetail.amount (utxos.take (m + 1)) < sumOutputs := by
  induction utxos generalizing total chosen with
  | nil => cases h
  | cons utxo utxos ih =>
      unfold fillAmount at h
      split at h
      next hfills =>
        cases h
        exact ⟨0, rfl, by simpa using hfills, fun m hm => absurd hm (Nat.not_lt_zero m)⟩
      next hfills =>
        obtain ⟨rest, hrest, rfl⟩ := Option.map_eq_some_iff.mp h
        obtain ⟨n, rfl, hcovers, hshort⟩ := ih hrest
        refine ⟨n + 1, rfl, by rw [weight_cons]; omega, fun m hm => ?_⟩
        rw [List.take_succ_cons, weight_cons]
        cases m with
        | zero =>
            show total + (utxo.amount + 0) < sumOutputs
            omega
        | succ m =>
            have := hshort m (by omega)
            omega

/-- `fillAmount` fills every amount that the utxos have. -/
theorem exists_fillAmount {sumOutputs total : Nat} {utxos : List UtxoDetail} (hne : utxos ≠ [])
    (h : sumOutputs ≤ total + weight UtxoDetail.amount utxos) :
    ∃ chosen, fillAmount sumOutputs utxos total = some chosen := by
  induction utxos generalizing total with
  | nil => exact absurd rfl hne
  | cons utxo utxos ih =>
      unfold fillAmount
      split
      next => exact ⟨[utxo], rfl⟩
      next hfills =>
        rw [weight_cons] at h
        have hne : utxos ≠ [] := by
          rintro rfl
          simp at h
          omega
        obtain ⟨chosen, hchosen⟩ := ih hne (Nat.add_assoc total _ _ ▸ h)
        exact ⟨utxo :: chosen, by rw [hchosen]; rfl⟩

theorem covering_fillAmount {sumOutputs : Nat} {utxos chosen : List UtxoDetail}
    (hsorted : Descending UtxoDetail.amount utxos) (hpos : 0 < sumOutputs)
    (h : fillAmount sumOutputs utxos 0 = some chosen) :
    Covering UtxoDetail.amount sumOutputs utxos chosen := by
  obtain ⟨n, rfl, hcovers, hshort⟩ := fillAmount_eq_some h
  refine covering_take hsorted (by omega) fun m hm => ?_
  cases m with
  | zero => exact hpos
  | succ m =>
      have := hshort m (by omega)
      omega

/-- Where the largest utxo is not more than the amount, `fillAmount` takes a best fit. -/
theorem bestFit_fillAmount {sumOutputs : Nat} {utxo : UtxoDetail} {utxos chosen : List UtxoDetail}
    (hsorted : Descending UtxoDetail.amount (utxo :: utxos)) (hfirst : utxo.amount ≤ sumOutputs)
    (h : fillAmount sumOutputs (utxo :: utxos) 0 = some chosen) :
    BestFit UtxoDetail.amount sumOutputs (utxo :: utxos) chosen := by
  rintro ⟨v, hv, hle⟩
  have hlargest : v.amount ≤ utxo.amount := by
    rcases List.mem_cons.mp hv with rfl | hv
    · exact Nat.le_refl _
    · exact List.rel_of_pairwise_cons hsorted hv
  have hfills : sumOutputs ≤ 0 + utxo.amount := by omega
  rw [fillAmount, if_pos hfills] at h
  cases h
  exact ⟨utxo, by simp, rfl, by omega, fun x _ hx => by omega⟩

/-! ## The selection -/

/-- Where the largest utxo is more than the amount, the last one that fills the amount is taken. -/
theorem selectUtxos_of_lt {sumOutputs : Nat} {details : UtxosDetails} {utxo : UtxoDetail}
    {utxos : List UtxoDetail} (htotal : ¬ details.total_amount_available < sumOutputs)
    (hsort : sortUtxos details.utxos = utxo :: utxos) (hfirst : sumOutputs < utxo.amount) :
    ∃ i, ∃ hi : i < (utxo :: utxos).length,
      selectUtxos sumOutputs details = .ok (some [(utxo :: utxos)[i]]) ∧
      sumOutputs ≤ ((utxo :: utxos)[i]).amount ∧
      ∀ j (hj : j < (utxo :: utxos).length), i < j → ((utxo :: utxos)[j]).amount < sumOutputs := by
  have hsorted : Descending UtxoDetail.amount (utxo :: utxos) := hsort ▸ sortUtxos_descending details.utxos
  unfold selectUtxos
  simp only [if_neg htotal, hsort, if_pos hfirst]
  cases hfind : (utxo :: utxos).findIdx? fun obj => obj.amount < sumOutputs with
  | none =>
      -- every utxo fills the amount
      rw [List.findIdx?_eq_none_iff] at hfind
      have hlast : utxos.length < (utxo :: utxos).length := by simp
      refine ⟨utxos.length, hlast, ?_, ?_, fun j hj hij => ?_⟩
      · show Except.ok (((utxo :: utxos).getLast?).map ([·])) = _
        have : (utxo :: utxos).getLast? = some (utxo :: utxos)[utxos.length] := by
          rw [List.getLast?_eq_getElem?]
          exact List.getElem?_eq_getElem hlast
        rw [this]
        rfl
      · have := hfind _ (List.getElem_mem hlast)
        simpa using this
      · rw [List.length_cons] at hj
        omega
  | some i =>
      rw [List.findIdx?_eq_some_iff_getElem] at hfind
      obtain ⟨hi, hsmall, hbefore⟩ := hfind
      have hsmall : ((utxo :: utxos)[i]).amount < sumOutputs := by simpa using hsmall
      have hpos : 0 < i := by
        rcases Nat.eq_zero_or_pos i with rfl | hpos
        · exact absurd hsmall (Nat.not_lt.mpr (Nat.le_of_lt hfirst))
        · exact hpos
      have hprev : i - 1 < (utxo :: utxos).length := by omega
      refine ⟨i - 1, hprev, ?_, ?_, fun j hj hij => ?_⟩
      · show Except.ok (((utxo :: utxos)[i - 1]?).map ([·])) = _
        rw [List.getElem?_eq_getElem hprev]
        rfl
      · have := hbefore (i - 1) (by omega)
        simpa using this
      · rcases (show i ≤ j by omega).eq_or_lt with rfl | hlt
        · exact hsmall
        · exact (List.pairwise_iff_getElem.mp hsorted i j hi hj hlt).trans_lt hsmall

/-- The utxos that cover an amount that they have. -/
theorem selectUtxos_covering {sumOutputs : Nat} {details : UtxosDetails}
    (htotal : details.total_amount_available = weight UtxoDetail.amount details.utxos)
    (hpos : 0 < sumOutputs) (hle : sumOutputs ≤ details.total_amount_available) :
    ∃ chosen, selectUtxos sumOutputs details = .ok (some chosen) ∧
      Covering UtxoDetail.amount sumOutputs details.utxos chosen ∧
      BestFit UtxoDetail.amount sumOutputs details.utxos chosen := by
  have hperm := sortUtxos_perm details.utxos
  have hsorted := sortUtxos_descending details.utxos
  cases hsort : sortUtxos details.utxos with
  | nil =>
      rw [hsort] at hperm
      have hzero := weight_perm UtxoDetail.amount hperm
      rw [weight_nil] at hzero
      omega
  | cons utxo utxos =>
      rw [hsort] at hperm hsorted
      by_cases hfirst : sumOutputs < utxo.amount
      · obtain ⟨i, hi, hselect, hfills, hlast⟩ := selectUtxos_of_lt (Nat.not_lt.mpr hle) hsort hfirst
        exact ⟨_, hselect, (covering_singleton (List.getElem_mem hi) hfills hpos).perm hperm,
          (bestFit_getElem hsorted hi hfills hlast).perm hperm⟩
      · have hamount : sumOutputs ≤ 0 + weight UtxoDetail.amount (utxo :: utxos) := by
          rw [weight_perm UtxoDetail.amount hperm, ← htotal]
          omega
        obtain ⟨chosen, hfill⟩ := exists_fillAmount (List.cons_ne_nil utxo utxos) hamount
        refine ⟨chosen, ?_, (covering_fillAmount hsorted hpos hfill).perm hperm,
          (bestFit_fillAmount hsorted (Nat.not_lt.mp hfirst) hfill).perm hperm⟩
        unfold selectUtxos
        simp only [if_neg (Nat.not_lt.mpr hle), hsort, if_neg hfirst, hfill]

/-- `selectUtxos` never fails, and gives nothing exactly when the total is below the amount. -/
theorem selectUtxos_spec {sumOutputs : Nat} {details : UtxosDetails}
    (htotal : details.total_amount_available = weight UtxoDetail.amount details.utxos)
    (hpos : 0 < sumOutputs) :
    ∃ chosen, selectUtxos sumOutputs details = .ok chosen ∧
      (chosen = none ↔ details.total_amount_available < sumOutputs) ∧
      ∀ s ∈ chosen, Covering UtxoDetail.amount sumOutputs details.utxos s ∧
        BestFit UtxoDetail.amount sumOutputs details.utxos s := by
  by_cases hlt : details.total_amount_available < sumOutputs
  · refine ⟨none, ?_, iff_of_true rfl hlt, fun s hs => by cases hs⟩
    unfold selectUtxos
    rw [if_pos hlt]
  · obtain ⟨s, hselect, hcovering, hbest⟩ := selectUtxos_covering htotal hpos (Nat.not_lt.mp hlt)
    refine ⟨some s, hselect, iff_of_false (Option.some_ne_none s) hlt, fun s' hs' => ?_⟩
    cases hs'
    exact ⟨hcovering, hbest⟩

/-! ## `getUtxosToFillTx` -/

/-- The options with which `getUtxosToFillTx` asks for the utxos. -/
def availableOnly (options : Query) : Query := options ++ [("only_available_utxos", "true")]

theorem eval_getUtxosToFillTx {answers : (c : Op) → c.Ans} {w : WalletRef} {options : Query}
    {details : UtxosDetails} (h : answers (.lib (.getUtxos w (availableOnly options))) = .ok details)
    (sumOutputs : Nat) :
    (getUtxosToFillTx w sumOutputs options).eval answers = selectUtxos sumOutputs details := by
  show Prog.eval answers (Prog.bind (lib (.getUtxos w (availableOnly options))) _) = _
  rw [Prog.eval_bind, eval_lib, h]
  exact Prog.eval_orThrow answers _

/-- `getUtxosToFillTx` never throws, returns `null` exactly when the total is below the amount, and otherwise
returns a part of the utxos that covers the amount: none with fewer utxos does, and where one utxo is enough it
is one of the smallest sufficient amount. -/
theorem getUtxosToFillTx_selects (answers : (c : Op) → c.Ans) (w : WalletRef) (options : Query)
    (sumOutputs : Nat) (details : UtxosDetails)
    (hanswer : answers (.lib (.getUtxos w (availableOnly options))) = .ok details)
    (htotal : details.total_amount_available = weight UtxoDetail.amount details.utxos)
    (hsum : 1 ≤ sumOutputs) :
    ∃ chosen, (getUtxosToFillTx w sumOutputs options).eval answers = .ok chosen ∧
      (chosen = none ↔ details.total_amount_available < sumOutputs) ∧
      ∀ s ∈ chosen, Covering UtxoDetail.amount sumOutputs details.utxos s ∧
        BestFit UtxoDetail.amount sumOutputs details.utxos s := by
  rw [eval_getUtxosToFillTx hanswer]
  exact selectUtxos_spec htotal hsum

/-- A world in which `wallet.getUtxos` answers by `utxos`. -/
def offering (utxos : Query → UtxosDetails) (c : Op) : c.Ans :=
  match c with
  | .lib (.getUtxos _ query) => .ok (utxos query)
  | c => c.failed

def threeUtxos : UtxosDetails := ⟨6, [⟨"aa", 0, 1⟩, ⟨"bb", 0, 2⟩, ⟨"cc", 0, 3⟩]⟩

theorem four_of_threeUtxos :
    (getUtxosToFillTx 0 4 []).eval (offering fun _ => threeUtxos) = .ok (some [⟨"cc", 0, 3⟩, ⟨"bb", 0, 2⟩]) ∧
      ∃ chosen, (getUtxosToFillTx 0 4 []).eval (offering fun _ => threeUtxos) = .ok chosen ∧
        (chosen = none ↔ threeUtxos.total_amount_available < 4) ∧
        ∀ s ∈ chosen, Covering UtxoDetail.amount 4 threeUtxos.utxos s ∧
          BestFit UtxoDetail.amount 4 threeUtxos.utxos s :=
  ⟨by rfl, getUtxosToFillTx_selects _ 0 [] 4 threeUtxos rfl rfl (by decide)⟩

end WalletHeadless
