import Mathlib.Data.List.Sort
import WalletHeadless.Js.Map

/-!
# The history of a wallet, and its limit

* `History`, `getTxHistory`: `getTxHistory` of `wallet.controller.js`, with the `limit` that the route lets through;
* `History.Limited`: what is asked of a limited history;
* `limited_iff`: the limits with which the handler meets it; `unlimited`: limits with which it does not.
-/

namespace WalletHeadless

open Js

/-- A transaction of the history. -/
structure HistoryTx where
  tx_id : String
  timestamp : Int
deriving DecidableEq

/-- What `getFullHistory()` returns: each transaction under its id. -/
structure History where
  txs : Map String HistoryTx
  keyed : ∀ e ∈ txs.entries, e.2.tx_id = e.1

/-- `Object.values(history)`. -/
def History.values (history : History) : List HistoryTx := history.txs.entries.map Prod.snd

/-- The later of two transactions comes first. -/
def Later (a b : HistoryTx) : Prop := b.timestamp - a.timestamp ≤ 0

instance : DecidableRel Later := fun _ _ => inferInstanceAs (Decidable (_ ≤ _))

/-- `values.sort((a, b) => b.timestamp - a.timestamp)`. -/
def sortByTimestamp (values : List HistoryTx) : List HistoryTx := values.insertionSort Later

/-- `values.slice(0, stop)`: a negative `stop` counts from the end. -/
def sliceTo (values : List HistoryTx) (stop : Int) : List HistoryTx :=
  values.take (if stop < 0 then values.length + stop else stop).toNat

def getTxHistory (limit : Option Int) (history : History) : List HistoryTx :=
  match limit.filter (· ≠ 0) with
  | some limit => sliceTo (sortByTimestamp history.values) limit
  | none => history.values

/-- The latest transactions, in their order, as many as there are up to the limit. -/
structure History.Limited (history : History) (limit : Int) (txs : List HistoryTx) : Prop where
  nodup : txs.Nodup
  subset : txs ⊆ history.values
  sorted : txs.Pairwise fun a b => b.timestamp ≤ a.timestamp
  length : (txs.length : Int) = min (max limit 0) history.values.length
  latest : ∀ tx ∈ history.values, tx ∉ txs → ∀ tx' ∈ txs, tx.timestamp ≤ tx'.timestamp

theorem later_iff {a b : HistoryTx} : Later a b ↔ b.timestamp ≤ a.timestamp := by
  unfold Later
  omega

instance : Std.Total Later := ⟨fun a b => by simpa only [later_iff] using le_total b.timestamp a.timestamp⟩

instance : IsTrans HistoryTx Later := ⟨fun _ _ _ hab hbc => later_iff.mpr ((later_iff.mp hbc).trans (later_iff.mp hab))⟩

section Limit
variable (history : History) (limit : Int)

/-- Transactions under different ids are different. -/
theorem History.nodup_values : history.values.Nodup := by
  have hids : history.values.map HistoryTx.tx_id = history.txs.keys := by
    rw [values, Map.keys, List.map_map]
    exact List.map_congr_left history.keyed
  exact List.Nodup.of_map HistoryTx.tx_id (hids ▸ history.txs.nodup)

theorem perm_sortByTimestamp (values : List HistoryTx) : (sortByTimestamp values).Perm values :=
  List.perm_insertionSort _ _

theorem pairwise_sortByTimestamp (values : List HistoryTx) :
    (sortByTimestamp values).Pairwise fun a b => b.timestamp ≤ a.timestamp :=
  (List.pairwise_insertionSort (r := Later) values).imp later_iff.mp

/-- The first of the sorted transactions are the latest ones. -/
theorem limited_take (n : Nat) (hn : (min n history.values.length : Int) = min (max limit 0) history.values.length) :
    history.Limited limit ((sortByTimestamp history.values).take n) := by
  have hperm := perm_sortByTimestamp history.values
  have hsorted := pairwise_sortByTimestamp history.values
  refine ⟨?_, ?_, ?_, ?_, ?_⟩
  · exact (hperm.nodup_iff.mpr history.nodup_values).sublist (List.take_sublist _ _)
  · exact fun tx htx => hperm.mem_iff.mp (List.mem_of_mem_take htx)
  · exact hsorted.sublist (List.take_sublist _ _)
  · rw [List.length_take, hperm.length_eq, ← hn]
    omega
  · intro tx htx hout tx' htx'
    rw [← hperm.mem_iff, ← List.take_append_drop n (sortByTimestamp history.values), List.mem_append] at htx
    rw [← List.take_append_drop n (sortByTimestamp history.values)] at hsorted
    exact (List.pairwise_append.mp hsorted).2.2 tx' htx' tx (htx.resolve_left hout)

theorem length_sliceTo (h : limit < 0) :
    (sliceTo (sortByTimestamp history.values) limit).length = history.values.length - (-limit).toNat := by
  rw [sliceTo, if_pos h, List.length_take, (perm_sortByTimestamp history.values).length_eq]
  omega

theorem getTxHistory_of_ne (h : limit ≠ 0) :
    getTxHistory (some limit) history = sliceTo (sortByTimestamp history.values) limit := by
  have hsome : (some limit).filter (· ≠ 0) = some limit := by simp [Option.filter, h]
  rw [getTxHistory, hsome]

/-- The handler limits the history exactly when the limit is positive, or when the history has at most as many
transactions as a limit that is not positive takes off. -/
theorem limited_iff : history.Limited limit (getTxHistory (some limit) history) ↔
    0 < limit ∨ (history.values.length : Int) ≤ -limit := by
  rcases lt_trichotomy limit 0 with hneg | rfl | hpos
  · rw [getTxHistory_of_ne history limit hneg.ne]
    constructor
    · intro h
      have hlen := h.length
      rw [length_sliceTo history limit hneg] at hlen
      omega
    · intro h
      rw [sliceTo, if_pos hneg, (perm_sortByTimestamp history.values).length_eq]
      exact limited_take history limit _ (by omega)
  · rw [show getTxHistory (some 0) history = history.values from rfl]
    constructor
    · intro h
      have hlen := h.length
      omega
    · intro h
      have hnil : history.values = [] := List.eq_nil_of_length_eq_zero (by omega)
      have hlimited := limited_take history 0 0 (by omega)
      rwa [List.take_zero, ← hnil] at hlimited
  · rw [getTxHistory_of_ne history limit hpos.ne', sliceTo, if_neg hpos.not_gt]
    exact iff_of_true (limited_take history limit _ (by omega)) (.inl hpos)

end Limit

/-- A wallet with two transactions. -/
def twoTxs : History where
  txs := (Map.empty.set "tx1" ⟨"tx1", 1⟩).set "tx2" ⟨"tx2", 2⟩
  keyed := by decide

/-- A limit of zero returns the whole history, in no order, and a limit of minus one drops only the earliest
transaction. -/
theorem unlimited : ¬ twoTxs.Limited 0 (getTxHistory (some 0) twoTxs) ∧
    ¬ twoTxs.Limited (-1) (getTxHistory (some (-1)) twoTxs) := by
  refine ⟨fun h => ?_, fun h => ?_⟩
  · have hlen := h.length
    revert hlen
    decide
  · have hlen := h.length
    revert hlen
    decide

end WalletHeadless
