import Mathlib
import WalletHeadless.Controllers.Sends
import WalletHeadless.Funds.Prepared
import WalletHeadless.Services.Asks

/-!
# The options of a search for utxos

Three paths take the options of a request to `wallet-lib`: `utxoFilter`, the query inputs of `prepareTxFunds`, and
`utxoConsolidation`.

* `FilterOptions`: the options; `renamedOptions`: what `utxoFilter` makes of them;
* `UtxoFinder`: how `wallet-lib` filters the available utxos, by the keys that it knows;
* `Filters`: the searches that a program makes;
* `sameFilter_iff`.
-/

namespace WalletHeadless

open Coop Cover Js
open Prog (uses_ask uses_orThrow)

/-! ## The options of a request -/

/-- The options of a search, as they are after validation. -/
structure FilterOptions where
  max_utxos : Option Int := none
  token : Option String := none
  filter_address : Option String := none
  amount_smaller_than : Option Int := none
  amount_bigger_than : Option Int := none
  maximum_amount : Option Int := none
deriving DecidableEq

def entry (key : String) (value : Option String) : Query := value.toList.map fun v => (key, v)

/-- The object of the options that are present. -/
def FilterOptions.query (o : FilterOptions) : Query :=
  entry "max_utxos" (o.max_utxos.map toString) ++ entry "token" o.token ++
    entry "filter_address" o.filter_address ++
    entry "amount_smaller_than" (o.amount_smaller_than.map toString) ++
    entry "amount_bigger_than" (o.amount_bigger_than.map toString) ++
    entry "maximum_amount" (o.maximum_amount.map toString)

@[simp] theorem optionAt_entry (k : String) (value : Option String) (key : String) :
    optionAt (entry k value) key = if k = key then value else none := by
  cases value with
  | none => simp [entry, optionAt]
  | some v => exact optionAt_singleton k v key

/-- `utxoFilter` gives the cap to `wallet-lib` under its new name; a cap of zero is falsy. -/
def renamedOptions (options : Query) : Query :=
  match optionAt options "maximum_amount" with
  | some maximum_amount => if maximum_amount = "0" then options else options ++ [("max_amount", maximum_amount)]
  | none => options

/-- `utxoFilter`, up to its reply. -/
def utxoFilter (w : WalletRef) (options : Query) : Async UtxosDetails := getUtxos w (renamedOptions options)

/-! ## `wallet-lib` -/

/-- The keys of the options that `wallet-lib` knows. -/
structure LibFilter where
  max_utxos : Option String
  token : Option String
  filter_address : Option String
  amount_smaller_than : Option String
  amount_bigger_than : Option String
  max_amount : Option String
deriving DecidableEq

def LibFilter.read (query : Query) : LibFilter where
  max_utxos := optionAt query "max_utxos"
  token := optionAt query "token"
  filter_address := optionAt query "filter_address"
  amount_smaller_than := optionAt query "amount_smaller_than"
  amount_bigger_than := optionAt query "amount_bigger_than"
  max_amount := optionAt query "max_amount"

/-- The sum of the amounts is at most `m`, and nothing where that is negative. -/
def AtMost (m : Int) (utxos : List UtxoDetail) : Prop := ((weight UtxoDetail.amount utxos : Nat) : Int) ≤ max m 0

instance (m : Int) (utxos : List UtxoDetail) : Decidable (AtMost m utxos) :=
  inferInstanceAs (Decidable (((weight UtxoDetail.amount utxos : Nat) : Int) ≤ max m 0))

/-- How `wallet-lib` filters the available utxos of a wallet: it keeps the cap of `max_amount`. -/
structure UtxoFinder where
  find : LibFilter → List UtxoDetail → List UtxoDetail
  capped : ∀ f utxos m, f.max_amount.bind String.toInt? = some m → AtMost m (find f utxos)

namespace UtxoFinder

def found (L : UtxoFinder) (utxos : List UtxoDetail) (query : Query) : List UtxoDetail := L.find (.read query) utxos

def details (L : UtxoFinder) (utxos : List UtxoDetail) (query : Query) : UtxosDetails where
  total_amount_available := weight UtxoDetail.amount (L.found utxos query)
  utxos := L.found utxos query

end UtxoFinder

/-- Every search of a program has options with `P`: those of `getUtxos`, and those of a consolidation. -/
def Filters (P : Query → Prop) : Op → Prop
  | .lib (.getUtxos _ query) => P query
  | .wallet (.build _ (.consolidateUtxosSendTransaction _ query)) => P query
  | _ => True

/-! ## The searches of the three paths -/

theorem SigningOp.filters {c : Op} (h : SigningOp c) (P : Query → Prop) : Filters P c := by
  cases c with
  | lib c =>
      cases c with
      | getUtxos w query => exact h.elim
      | _ => trivial
  | wallet c => exact h.elim
  | _ => trivial

theorem Filters.mono {P Q : Query → Prop} (h : ∀ query, P query → Q query) {c : Op} (hc : Filters P c) :
    Filters Q c := by
  cases c with
  | lib c =>
      cases c with
      | getUtxos w query => exact h query hc
      | _ => trivial
  | wallet c =>
      cases c with
      | build w b =>
          cases b with
          | consolidateUtxosSendTransaction address query => exact h query hc
          | _ => trivial
      | _ => trivial
  | _ => trivial

theorem queryInputs_filters (w : WalletRef) (options : Query) (tokens : List (String × Nat)) :
    (queryInputs w options tokens).Uses
      (Filters fun query => ∃ t, query = availableOnly (options ++ [("token", t)])) := by
  induction tokens with
  | nil => exact uses_pure _
  | cons t tokens ih =>
      have hfill : (getUtxosToFillTx w t.2 (options ++ [("token", t.1)])).Uses
          (Filters fun query => ∃ t, query = availableOnly (options ++ [("token", t)])) :=
        uses_bind (uses_ask ⟨t.1, rfl⟩).attempt fun _ => uses_orThrow _ _
      refine uses_bind (uses_await trivial hfill) fun utxos => ?_
      split
      · exact uses_pure _
      · refine uses_bind ih fun rest => ?_
        split
        · exact uses_pure _
        · exact uses_pure _

theorem prepareTxFunds_filters (w : WalletRef) (outputs : List OutputParam) (options : Query)
    (rest : List InputParam) (defaultToken : String) :
    (prepareTxFunds w outputs (.query options :: rest) defaultToken).Uses
      (Filters fun query => ∃ t, query = availableOnly (options ++ [("token", t)])) := by
  refine uses_bind (uses_orThrow _ _) fun tokens => uses_bind (queryInputs_filters w options _) fun utxos => ?_
  split
  · exact uses_pure _
  · exact uses_pure _

section Consolidation

variable {P : Query → Prop}

theorem signTx_filters (w : WalletRef) (tx : Transaction) : (signTx w tx).Uses (Filters P) :=
  (signTx_uses w tx).mono fun _ h => h.filters P

theorem wallet_filters (c : WalletCall) (h : Filters P (.wallet c)) :
    (Prog.attempt (ask (.wallet c))).Uses (Filters P) := (uses_ask h).attempt

theorem runSendTransaction_filters (w : WalletRef) (sendTx : SendTransaction) (u : UnlockFn) :
    (runSendTransaction w sendTx u).Uses (Filters P) := by
  have hprepared : (preparedTx w sendTx).Uses (Filters P) := by
    unfold preparedTx
    split
    · exact uses_pure _
    · exact uses_bind (wallet_filters _ trivial) fun tx => uses_bind (signTx_filters w tx) fun _ => uses_pure _
  refine uses_bind (Prog.Uses.andFinally (uses_bind hprepared fun tx => ?_) (uses_ask trivial)) fun tx => ?_
  · exact uses_bind (wallet_filters _ trivial) fun _ => uses_pure _
  · exact wallet_filters _ trivial

theorem utxoConsolidation_filters (req : Req ConsolidationBody) (h : P req.body.options) :
    (utxoConsolidation req).Uses (Filters P) := by
  have hbuild : (buildTransaction req.wallet (.consolidateUtxosSendTransaction req.body.destination_address
      req.body.options)).Uses (Filters P) := by
    refine uses_bind (wallet_filters _ h) fun sendTx => ?_
    split
    · exact uses_pure _
    · exact uses_bind (uses_ite (signTx_filters _ _) (uses_pure _)) fun _ => uses_pure _
  unfold utxoConsolidation lockedSend validated
  split
  · exact uses_ask trivial
  · refine uses_bind (uses_ask trivial) fun u => ?_
    split
    · exact uses_ask trivial
    · refine uses_tryCatch (uses_bind ?_ fun _ => uses_ask trivial) fun _ =>
        uses_bind (uses_ask trivial) fun _ => uses_ask trivial
      exact uses_bind (uses_bind hbuild fun _ => uses_await trivial (runSendTransaction_filters _ _ _)) fun _ =>
        uses_pure _

end Consolidation

/-! ## What the paths find -/

/-- The three paths apply the filter of `utxoFilter` to the available utxos, for the token that is asked for, and
what is drawn keeps within `maximum_amount`. -/
structure SameFilter (L : UtxoFinder) (o : FilterOptions) : Prop where
  query : ∀ utxos w outputs rest defaultToken,
    (prepareTxFunds w outputs (.query o.query :: rest) defaultToken).Uses (Filters fun query =>
      ∃ t, optionAt query "token" = some t ∧
        L.found utxos query = L.found utxos (renamedOptions { o with token := some t }.query))
  drawn : ∀ m ∈ o.maximum_amount, ∀ utxos w t n chosen,
    (getUtxosToFillTx w n (o.query ++ [("token", t)])).eval (offering (L.details utxos)) = .ok (some chosen) →
      AtMost m chosen
  consolidation : ∀ utxos (req : Req ConsolidationBody), req.body.options = o.query →
    (utxoConsolidation req).Uses (Filters fun query =>
      L.found utxos query = L.found utxos (renamedOptions o.query))
  consolidated : ∀ m ∈ o.maximum_amount, ∀ utxos (req : Req ConsolidationBody), req.body.options = o.query →
    (utxoConsolidation req).Uses (Filters fun query => AtMost m (L.found utxos query))

theorem maximum_amount_query (o : FilterOptions) :
    optionAt o.query "maximum_amount" = o.maximum_amount.map toString := by
  simp [FilterOptions.query, optionAt_append]

theorem renamedOptions_of_none {o : FilterOptions} (h : o.maximum_amount = none) : renamedOptions o.query = o.query := by
  unfold renamedOptions
  rw [maximum_amount_query, h]
  rfl

/-- A query asks for what the options say, of the token that is put after them. -/
theorem read_query (o : FilterOptions) (t : String) :
    LibFilter.read (availableOnly (o.query ++ [("token", t)])) = LibFilter.read { o with token := some t }.query := by
  simp only [LibFilter.read, optionAt_asked]
  simp [FilterOptions.query, optionAt_append]

theorem sameFilter_of_none {o : FilterOptions} (h : o.maximum_amount = none) (L : UtxoFinder) : SameFilter L o where
  query utxos w outputs rest defaultToken := by
    refine (prepareTxFunds_filters w outputs o.query rest defaultToken).mono fun c => Filters.mono ?_
    rintro query ⟨t, rfl⟩
    have hnone : { o with token := some t }.maximum_amount = none := h
    refine ⟨t, optionAt_token o.query t, ?_⟩
    rw [renamedOptions_of_none hnone, UtxoFinder.found, UtxoFinder.found, read_query]
  drawn m hm := absurd hm (by simp [h])
  consolidation utxos req hreq :=
    utxoConsolidation_filters req (by rw [hreq, renamedOptions_of_none h])
  consolidated m hm := absurd hm (by simp [h])

/-- A `wallet-lib` that gives all utxos, or none where they are more than the cap. -/
def allOrNothing : UtxoFinder where
  find f utxos :=
    match f.max_amount.bind String.toInt? with
    | some m => if AtMost m utxos then utxos else []
    | none => utxos
  capped f utxos m h := by
    rw [h]
    dsimp only
    split
    next hle => exact hle
    next => exact Int.le_max_right m 0

theorem found_of_none {query : Query} (h : optionAt query "max_amount" = none) (utxos : List UtxoDetail) :
    allOrNothing.found utxos query = utxos := by
  have hnone : (LibFilter.read query).max_amount = none := h
  unfold UtxoFinder.found allOrNothing
  simp only [hnone, Option.bind_none]

/-- The options have no cap that `wallet-lib` knows. -/
theorem max_amount_query (o : FilterOptions) : optionAt o.query "max_amount" = none := by
  simp [FilterOptions.query, optionAt_append]

/-- One utxo, of the amount that is asked for. -/
theorem selectUtxos_singleton (utxo : UtxoDetail) :
    selectUtxos utxo.amount ⟨utxo.amount, [utxo]⟩ = .ok (some [utxo]) := by
  have hsort : sortUtxos [utxo] = [utxo] := rfl
  simp [selectUtxos, hsort, fillAmount]

/-- A query draws more than any cap. -/
theorem drawn_allOrNothing (o : FilterOptions) (utxo : UtxoDetail) :
    (getUtxosToFillTx 0 utxo.amount (o.query ++ [("token", NATIVE_TOKEN_UID)])).eval
      (offering (allOrNothing.details [utxo])) = .ok (some [utxo]) := by
  have hdetails : allOrNothing.details [utxo] (availableOnly (o.query ++ [("token", NATIVE_TOKEN_UID)])) =
      ⟨utxo.amount, [utxo]⟩ := by
    rw [UtxoFinder.details, found_of_none, weight_cons, weight_nil, Nat.add_zero]
    rw [optionAt_asked, if_neg (by decide), if_neg (by decide), max_amount_query]
  rw [eval_getUtxosToFillTx (congrArg Except.ok hdetails)]
  exact selectUtxos_singleton utxo

/-- The paths apply the same filter, and keep within `maximum_amount`, exactly when there is none. -/
theorem sameFilter_iff (o : FilterOptions) : (∀ L, SameFilter L o) ↔ o.maximum_amount = none := by
  constructor
  · intro hall
    by_contra hsome
    obtain ⟨m, hm⟩ := Option.ne_none_iff_exists'.mp hsome
    have hdrawn := (hall allOrNothing).drawn m hm _ 0 _ _ _ (drawn_allOrNothing o ⟨"aa", 0, m.natAbs + 1⟩)
    have hweight : weight UtxoDetail.amount [⟨"aa", 0, m.natAbs + 1⟩] = m.natAbs + 1 := rfl
    unfold AtMost at hdrawn
    rw [hweight] at hdrawn
    omega
  · exact fun h => sameFilter_of_none h

/-- `utxoFilter` gives its cap to `wallet-lib`. -/
theorem found_renamed {o : FilterOptions} {m : Int} (hm : o.maximum_amount = some m) (hne : m ≠ 0)
    (utxos : List UtxoDetail) :
    allOrNothing.found utxos (renamedOptions o.query) = if AtMost m utxos then utxos else [] := by
  -- the lemmas on the texts of integers are in `Std`, which comes only with the whole of Mathlib
  have hzero : toString m ≠ "0" := fun h => hne (Int.repr_injective (b := 0) h)
  have hrenamed : renamedOptions o.query = o.query ++ [("max_amount", toString m)] := by
    unfold renamedOptions
    rw [maximum_amount_query, hm]
    exact if_neg hzero
  have hcap : (LibFilter.read (renamedOptions o.query)).max_amount.bind String.toInt? = some m := by
    rw [hrenamed]
    show (optionAt (o.query ++ [("max_amount", toString m)]) "max_amount").bind String.toInt? = some m
    rw [optionAt_append, optionAt_singleton, if_pos rfl]
    exact Int.toInt?_repr m
  unfold UtxoFinder.found allOrNothing
  simp only [hcap]

/-- At most 50. -/
def capOfFifty : FilterOptions := { maximum_amount := some 50 }

/-- In a wallet that has one utxo with 100. -/
theorem cap_of_utxoFilter_only :
    (utxoFilter 0 capOfFifty.query).eval (offering (allOrNothing.details [⟨"aa", 0, 100⟩])) = .ok ⟨0, []⟩ ∧
      (getUtxosToFillTx 0 100 (capOfFifty.query ++ [("token", NATIVE_TOKEN_UID)])).eval
        (offering (allOrNothing.details [⟨"aa", 0, 100⟩])) = .ok (some [⟨"aa", 0, 100⟩]) ∧
      allOrNothing.found [⟨"aa", 0, 100⟩] capOfFifty.query = [⟨"aa", 0, 100⟩] ∧
      ¬ SameFilter allOrNothing capOfFifty := by
  have hquery := drawn_allOrNothing capOfFifty ⟨"aa", 0, 100⟩
  refine ⟨?_, hquery, ?_, fun hsame => ?_⟩
  · have hfound : allOrNothing.found [⟨"aa", 0, 100⟩] (renamedOptions capOfFifty.query) = [] :=
      (found_renamed rfl (by decide) _).trans (if_neg (by decide))
    have hdetails : allOrNothing.details [⟨"aa", 0, 100⟩] (renamedOptions capOfFifty.query) = ⟨0, []⟩ := by
      rw [UtxoFinder.details, hfound, weight_nil]
    exact (eval_lib _ _).trans (congrArg Except.ok hdetails)
  · exact found_of_none (max_amount_query capOfFifty) _
  · exact absurd (hsame.drawn 50 rfl _ 0 _ _ _ hquery) (by decide)

end WalletHeadless
