import WalletHeadless.Funds.Selection

/-!
# The funds of `prepareTxFunds`

* `OutputParam.validated`: the checks of `/send-tx` on an output;
* `OutputParam.tokenIn`, `OutputParam.spends`: the token that `prepareTxFunds` looks for because of an output, and
  the one that the output spends: a data output burns HTR;
* `UtxoStore`: the utxos that `wallet.getUtxos` finds;
* `tokenAmounts_spec`, `queryInputs_spec`: the amount of each token, and the utxos that are found for it;
* `prepareTxFunds_funded_iff`.
-/

namespace WalletHeadless

open Coop Cover Js

/-! ## What outputs spend -/

namespace OutputParam

/-- A data output has no address and no value, every other output has both. -/
def validated (output : OutputParam) : Bool :=
  if output.type = some "data" then output.data.isSome && output.address.isNone && output.value.isNone
  else output.address.isSome && output.value.any fun value => 1 ≤ value

/-- The token of the output, or the default one. -/
def tokenIn (defaultToken : String) (output : OutputParam) : String := (truthy output.token).getD defaultToken

/-- The token that the output spends. -/
def spends (defaultToken : String) (output : OutputParam) : String :=
  if output.type = some "data" then NATIVE_TOKEN_UID else output.tokenIn defaultToken

/-- How much of it. -/
def cost (output : OutputParam) : Nat := if output.type = some "data" then 1 else output.value.getD 0

theorem value_prepareOutput {output : OutputParam} (h : output.validated = true) (defaultToken : String) :
    (prepareOutput defaultToken output).value = some output.cost := by
  unfold validated at h
  unfold prepareOutput cost
  split at h
  next hdata => simp [hdata]
  next hdata =>
    rw [Bool.and_eq_true] at h
    obtain ⟨v, hv⟩ := Option.isSome_iff_exists.mp (Option.isSome_of_any h.2)
    simp [hdata, hv]

theorem cost_pos {output : OutputParam} (h : output.validated = true) : 0 < output.cost := by
  unfold validated at h
  unfold cost
  split at h
  next hdata => simp [hdata]
  next hdata =>
    rw [Bool.and_eq_true, Option.any_eq_true_iff_get] at h
    obtain ⟨-, hv, hle⟩ := h
    rw [if_neg hdata, ← Option.some_get hv, Option.getD_some]
    exact of_decide_eq_true hle

end OutputParam

/-- What the outputs spend of a token. -/
def spent (defaultToken : String) (outputs : List OutputParam) (token : String) : Nat :=
  share (OutputParam.spends defaultToken) OutputParam.cost outputs token

/-- What `prepareTxFunds` looks for of a token. -/
def charged (defaultToken : String) (outputs : List OutputParam) (token : String) : Nat :=
  share (OutputParam.tokenIn defaultToken) OutputParam.cost outputs token

theorem charged_cons (defaultToken : String) (o : OutputParam) (outputs : List OutputParam) (token : String) :
    charged defaultToken (o :: outputs) token =
      (if o.tokenIn defaultToken = token then o.cost else 0) + charged defaultToken outputs token :=
  share_cons _ _ o outputs token

/-- The token of every data output is HTR: its own one, or the default one where it has none. -/
def DataInHtr (defaultToken : String) (outputs : List OutputParam) : Prop :=
  ∀ o ∈ outputs, o.type = some "data" → o.tokenIn defaultToken = NATIVE_TOKEN_UID

instance (defaultToken : String) (outputs : List OutputParam) : Decidable (DataInHtr defaultToken outputs) :=
  inferInstanceAs (Decidable (∀ o ∈ outputs, o.type = some "data" → o.tokenIn defaultToken = NATIVE_TOKEN_UID))

theorem spent_eq_charged {defaultToken : String} {outputs : List OutputParam}
    (h : DataInHtr defaultToken outputs) (token : String) :
    spent defaultToken outputs token = charged defaultToken outputs token := by
  refine share_congr _ _ (fun o ho => ?_) token
  unfold OutputParam.spends
  split
  next hdata => exact (h o ho hdata).symm
  next => rfl

theorem charged_lt_spent {defaultToken : String} {outputs : List OutputParam}
    (h : ¬ DataInHtr defaultToken outputs) :
    charged defaultToken outputs NATIVE_TOKEN_UID < spent defaultToken outputs NATIVE_TOKEN_UID := by
  unfold DataInHtr at h
  push Not at h
  obtain ⟨o, ho, hdata, htoken⟩ := h
  have hcost : 0 < o.cost := by simp [OutputParam.cost, hdata]
  refine share_lt_share (fun o' _ ht => ?_) ho htoken (if_pos hdata) hcost
  unfold OutputParam.spends
  split
  next => rfl
  next => exact ht

theorem tokenAmounts_spec (defaultToken : String) {outputs : List OutputParam}
    (hvalid : ∀ o ∈ outputs, o.validated = true) (tokens : Js.Map String Nat) :
    ∃ amounts, tokenAmounts defaultToken outputs tokens = .ok amounts ∧
      (∀ t, (amounts.get t).getD 0 = (tokens.get t).getD 0 + charged defaultToken outputs t) ∧
      ((∀ t n, tokens.get t = some n → 0 < n) → ∀ t n, amounts.get t = some n → 0 < n) := by
  induction outputs generalizing tokens with
  | nil => exact ⟨tokens, rfl, fun t => rfl, id⟩
  | cons o outputs ih =>
      have hvalue := OutputParam.value_prepareOutput (hvalid o (by simp)) defaultToken
      have hcost := OutputParam.cost_pos (hvalid o (by simp))
      obtain ⟨amounts, hok, hget, hpos⟩ := ih (fun o' ho' => hvalid o' (by simp [ho']))
        (tokens.set (o.tokenIn defaultToken) ((tokens.get (o.tokenIn defaultToken)).getD 0 + o.cost))
      refine ⟨amounts, ?_, fun t => ?_, fun htokens => hpos fun t n hn => ?_⟩
      · unfold tokenAmounts
        simp only [hvalue]
        exact hok
      · rw [hget t, charged_cons, Map.get_set]
        by_cases ht : t = o.tokenIn defaultToken
        · rw [if_pos ht, if_pos ht.symm, Option.getD_some, ht, Nat.add_assoc]
        · rw [if_neg ht, if_neg (Ne.symm ht), Nat.zero_add]
      · rw [Map.get_set] at hn
        split at hn
        · cases hn
          omega
        · exact htokens t n hn

/-! ## The utxos that are found -/

/-- What an object of options has under a key: the last entry counts. -/
def optionAt (query : Query) (key : String) : Option String :=
  (query.reverse.find? fun e => e.1 = key).map Prod.snd

theorem optionAt_append (query query' : Query) (key : String) :
    optionAt (query ++ query') key = (optionAt query' key).or (optionAt query key) := by
  rw [optionAt, List.reverse_append, List.find?_append, Option.map_or]
  rfl

@[simp] theorem optionAt_singleton (k v key : String) : optionAt [(k, v)] key = if k = key then some v else none := by
  unfold optionAt
  by_cases h : k = key <;> simp [h]

/-- What `getUtxosToFillTx` asks: the token put after the other options, and the available utxos. -/
theorem optionAt_asked (options : Query) (t key : String) :
    optionAt (availableOnly (options ++ [("token", t)])) key =
      if key = "only_available_utxos" then some "true" else if key = "token" then some t else optionAt options key := by
  rw [availableOnly, optionAt_append, optionAt_append, optionAt_singleton, optionAt_singleton]
  by_cases ha : key = "only_available_utxos"
  · rw [if_pos ha.symm, if_pos ha]
    rfl
  · rw [if_neg (Ne.symm ha), if_neg ha]
    by_cases ht : key = "token"
    · rw [if_pos ht.symm, if_pos ht]
      rfl
    · rw [if_neg (Ne.symm ht), if_neg ht]
      rfl

theorem optionAt_token (options : Query) (t : String) :
    optionAt (availableOnly (options ++ [("token", t)])) "token" = some t := by
  rw [optionAt_asked, if_neg (by decide), if_pos rfl]

/-- The utxos of a wallet, and those that `wallet.getUtxos` finds: each one once, and of the token asked for. -/
structure UtxoStore where
  amount : Utxo → Nat
  token : Utxo → String
  found : Query → List Utxo
  nodup : ∀ query, (found query).Nodup
  ofToken : ∀ query t, optionAt query "token" = some t → ∀ u ∈ found query, token u = t

namespace UtxoStore

def detail (S : UtxoStore) (u : Utxo) : UtxoDetail := ⟨u.txId, u.index, S.amount u⟩

/-- The answer of `wallet.getUtxos`. -/
def details (S : UtxoStore) (query : Query) : UtxosDetails where
  total_amount_available := weight S.amount (S.found query)
  utxos := (S.found query).map S.detail

/-- The utxos that `prepareTxFunds` can choose from for a token. -/
def available (S : UtxoStore) (options : Query) (token : String) : List Utxo :=
  S.found (availableOnly (options ++ [("token", token)]))

theorem token_of_mem {S : UtxoStore} {options : Query} {t : String} {u : Utxo} (h : u ∈ S.available options t) :
    S.token u = t :=
  S.ofToken _ t (optionAt_token options t) u h

/-- `wallet.getUtxos` of the wallet answers with the utxos of the store. -/
def Answers (S : UtxoStore) (w : WalletRef) (answers : (c : Op) → c.Ans) : Prop :=
  ∀ query, answers (.lib (.getUtxos w query)) = .ok (S.details query)

end UtxoStore

/-- The utxo that a detail is of. -/
def UtxoDetail.utxo (d : UtxoDetail) : Utxo := ⟨d.tx_id, d.index⟩

theorem weight_details (S : UtxoStore) (query : Query) :
    weight UtxoDetail.amount (S.details query).utxos = (S.details query).total_amount_available :=
  weight_map UtxoDetail.amount S.detail (S.found query)

/-- What is chosen for one token, or that there is too little of it. -/
theorem getUtxosToFillTx_spec {S : UtxoStore} {w : WalletRef} {answers : (c : Op) → c.Ans}
    (hS : S.Answers w answers) (options : Query) (t : String) {n : Nat} (hn : 0 < n) :
    ((getUtxosToFillTx w n (options ++ [("token", t)])).eval answers = .ok none ∧
        weight S.amount (S.available options t) < n) ∨
      ∃ chosen, (getUtxosToFillTx w n (options ++ [("token", t)])).eval answers = .ok (some chosen) ∧
        (chosen.map UtxoDetail.utxo).Subperm (S.available options t) ∧
        n ≤ weight S.amount (chosen.map UtxoDetail.utxo) := by
  rw [eval_getUtxosToFillTx (hS _)]
  obtain ⟨chosen, hselect, hnone, hsome⟩ := selectUtxos_spec (weight_details S _).symm hn
  rw [hselect]
  cases chosen with
  | none => exact .inl ⟨rfl, hnone.mp rfl⟩
  | some chosen =>
      obtain ⟨hpart, hcovers, -⟩ := (hsome chosen rfl).1
      have hamount : ∀ d ∈ chosen, d.amount = S.amount d.utxo := by
        intro d hd
        obtain ⟨u, -, rfl⟩ := List.mem_map.mp (hpart.subset hd)
        rfl
      have hutxos : ((S.available options t).map S.detail).map UtxoDetail.utxo = S.available options t := by
        rw [List.map_map]
        exact List.map_id _
      refine .inr ⟨chosen, rfl, hutxos ▸ subperm_map UtxoDetail.utxo hpart, ?_⟩
      rw [weight_map, ← weight_congr UtxoDetail.amount hamount]
      exact hcovers

/-- The utxos chosen for the amounts of some tokens. -/
structure Drawn (S : UtxoStore) (options : Query) (tokens : List (String × Nat)) (utxos : List Utxo) : Prop where
  nodup : utxos.Nodup
  available : ∀ u ∈ utxos, u ∈ S.available options (S.token u) ∧ S.token u ∈ tokens.map Prod.fst
  covers : ∀ e ∈ tokens, e.2 ≤ share S.token S.amount utxos e.1

theorem Drawn.cons {S : UtxoStore} {options : Query} {t : String × Nat} {tokens : List (String × Nat)}
    {chosen utxos : List Utxo} (h : Drawn S options tokens utxos) (ht : t.1 ∉ tokens.map Prod.fst)
    (hpart : chosen.Subperm (S.available options t.1)) (hcovers : t.2 ≤ weight S.amount chosen) :
    Drawn S options (t :: tokens) (chosen ++ utxos) := by
  have htoken : ∀ u ∈ chosen, S.token u = t.1 := fun u hu => UtxoStore.token_of_mem (hpart.subset hu)
  constructor
  · refine List.nodup_append'.mpr ⟨nodup_of_subperm hpart (S.nodup _), h.nodup, fun u hu hu' => ht ?_⟩
    exact htoken u hu ▸ (h.available u hu').2
  · intro u hu
    rcases List.mem_append.mp hu with hu | hu
    · rw [htoken u hu]
      exact ⟨hpart.subset hu, by simp⟩
    · exact ⟨(h.available u hu).1, List.mem_cons_of_mem _ (h.available u hu).2⟩
  · intro e he
    rw [share_append]
    rcases List.mem_cons.mp he with rfl | he
    · rw [share_of_forall S.token S.amount htoken]
      exact Nat.le_add_right_of_le hcovers
    · exact Nat.le_add_left_of_le (h.covers e he)

/-- No more than there is. -/
theorem Drawn.share_le {S : UtxoStore} {options : Query} {tokens : List (String × Nat)} {utxos : List Utxo}
    (h : Drawn S options tokens utxos) (t : String) :
    share S.token S.amount utxos t ≤ weight S.amount (S.available options t) := by
  refine weight_le_of_subperm _ (List.subperm_of_subset (h.nodup.filter _) fun u hu => ?_)
  obtain ⟨hu, ht⟩ := List.mem_filter.mp hu
  exact of_decide_eq_true ht ▸ (h.available u hu).1

theorem eval_queryInputs_cons (answers : (c : Op) → c.Ans) (w : WalletRef) (options : Query) (t : String × Nat)
    (tokens : List (String × Nat)) :
    (queryInputs w options (t :: tokens)).eval answers =
      ((getUtxosToFillTx w t.2 (options ++ [("token", t.1)])).eval answers).bind fun chosen => chosen.elim
        (.ok (.error t.1)) fun chosen => ((queryInputs w options tokens).eval answers).map fun r =>
          r.map fun rest => chosen.map UtxoDetail.utxo ++ rest := by
  show Prog.eval answers (Prog.bind (await (getUtxosToFillTx w t.2 _)) _) = _
  rw [Prog.eval_bind, eval_await]
  rcases (getUtxosToFillTx w t.2 (options ++ [("token", t.1)])).eval answers with e | _ | chosen
  · rfl
  · rfl
  · show Prog.eval answers (Prog.bind (queryInputs w options tokens) _) = _
    rw [Prog.eval_bind]
    rcases (queryInputs w options tokens).eval answers with e | e | rest
    · rfl
    · rfl
    · rfl

/-- `queryInputs` finds utxos for every token, or says for which one it cannot. -/
theorem queryInputs_spec {S : UtxoStore} {w : WalletRef} {answers : (c : Op) → c.Ans} (hS : S.Answers w answers)
    (options : Query) {tokens : List (String × Nat)} (hnodup : (tokens.map Prod.fst).Nodup)
    (hpos : ∀ e ∈ tokens, 0 < e.2) :
    (∃ e ∈ tokens, (queryInputs w options tokens).eval answers = .ok (.error e.1) ∧
        weight S.amount (S.available options e.1) < e.2) ∨
      ∃ utxos, (queryInputs w options tokens).eval answers = .ok (.ok utxos) ∧ Drawn S options tokens utxos := by
  induction tokens with
  | nil => exact .inr ⟨[], rfl, List.nodup_nil, by simp, by simp⟩
  | cons t tokens ih =>
      obtain ⟨ht, hnodup⟩ := List.nodup_cons.mp hnodup
      rw [eval_queryInputs_cons]
      rcases getUtxosToFillTx_spec hS options t.1 (hpos t (by simp)) with ⟨hnone, hlt⟩ | ⟨chosen, hsome, hpart, hle⟩
      · rw [hnone]
        exact .inl ⟨t, by simp, rfl, hlt⟩
      · rw [hsome]
        rcases ih hnodup fun e he => hpos e (by simp [he]) with ⟨e, he, herror, hlt⟩ | ⟨utxos, hok, hdrawn⟩
        · refine .inl ⟨e, by simp [he], ?_, hlt⟩
          rw [herror]
          rfl
        · refine .inr ⟨chosen.map UtxoDetail.utxo ++ utxos, ?_, hdrawn.cons ht hpart hle⟩
          rw [hok]
          rfl

/-! ## `prepareTxFunds` -/

/-- What is asked of an outcome of `prepareTxFunds`: the inputs cover what the outputs spend of each token, no input
is taken twice and the outputs keep their order; it fails only if there is too little of some token. -/
def UtxoStore.Funded (S : UtxoStore) (options : Query) (defaultToken : String) (outputs : List OutputParam) :
    Except JsError (Except String PreparedFunds) → Prop
  | .ok (.ok funds) =>
    (∀ t, spent defaultToken outputs t ≤ share S.token S.amount funds.inputs t) ∧ funds.inputs.Nodup ∧
      funds.outputs = outputs.map (prepareOutput defaultToken)
  | _ => ∃ t, weight S.amount (S.available options t) < spent defaultToken outputs t

/-- What `prepareTxFunds` does with query inputs. -/
theorem prepareTxFunds_spec {S : UtxoStore} {w : WalletRef} {answers : (c : Op) → c.Ans} (hS : S.Answers w answers)
    {outputs : List OutputParam} (hvalid : ∀ o ∈ outputs, o.validated = true) (options : Query)
    (rest : List InputParam) (defaultToken : String) :
    (∃ t, (prepareTxFunds w outputs (.query options :: rest) defaultToken).eval answers = .ok (.error t) ∧
        weight S.amount (S.available options t) < charged defaultToken outputs t) ∨
      ∃ tokens utxos, (prepareTxFunds w outputs (.query options :: rest) defaultToken).eval answers =
          .ok (.ok ⟨outputs.map (prepareOutput defaultToken), utxos⟩) ∧ Drawn S options tokens utxos ∧
        ∀ t, charged defaultToken outputs t ≠ 0 → (t, charged defaultToken outputs t) ∈ tokens := by
  obtain ⟨amounts, hamounts, hget, hpos⟩ := tokenAmounts_spec defaultToken hvalid .empty
  have hget : ∀ t, (amounts.get t).getD 0 = charged defaultToken outputs t := fun t => by simpa using hget t
  have hpos : ∀ e ∈ amounts.entries, 0 < e.2 := fun e he => hpos (by simp) e.1 e.2 (Map.mem_entries.mp he)
  have heval : (prepareTxFunds w outputs (.query options :: rest) defaultToken).eval answers =
      ((queryInputs w options amounts.entries).eval answers).map fun r =>
        r.map fun utxos => ⟨outputs.map (prepareOutput defaultToken), utxos⟩ := by
    show Prog.eval answers (Prog.bind (Prog.orThrow (tokenAmounts defaultToken outputs .empty)) _) = _
    rw [Prog.eval_bind, Prog.eval_orThrow, hamounts]
    show Prog.eval answers (Prog.bind (queryInputs w options amounts.entries) _) = _
    rw [Prog.eval_bind]
    rcases (queryInputs w options amounts.entries).eval answers with e | e | utxos
    · rfl
    · rfl
    · rfl
  rw [heval]
  rcases queryInputs_spec hS options amounts.nodup hpos with ⟨e, he, herror, hlt⟩ | ⟨utxos, hok, hdrawn⟩
  · refine .inl ⟨e.1, by rw [herror]; rfl, ?_⟩
    rw [← hget, Map.mem_entries.mp he]
    exact hlt
  · refine .inr ⟨amounts.entries, utxos, by rw [hok]; rfl, hdrawn, fun t ht => Map.mem_entries.mpr ?_⟩
    cases hentry : amounts.get t with
    | none =>
        rw [← hget, hentry] at ht
        exact absurd rfl ht
    | some n => rw [← hget, hentry, Option.getD_some]

/-- Each token in one utxo, of the amount `amount token`. -/
def oneUtxoEach (amount : String → Nat) : UtxoStore where
  amount u := amount u.txId
  token u := u.txId
  found query := (optionAt query "token").toList.map fun t => ⟨t, 0⟩
  nodup query := by cases optionAt query "token" <;> simp
  ofToken query t ht u hu := by
    rw [ht] at hu
    obtain rfl : u = ⟨t, 0⟩ := by simpa using hu
    rfl

theorem available_oneUtxoEach (amount : String → Nat) (options : Query) (t : String) :
    (oneUtxoEach amount).available options t = [⟨t, 0⟩] := by
  show (optionAt _ "token").toList.map _ = _
  rw [optionAt_token]
  rfl

/-- `prepareTxFunds` funds the outputs, whatever utxos `wallet.getUtxos` finds, exactly when every data output is
accounted in HTR. -/
theorem prepareTxFunds_funded_iff (w : WalletRef) (outputs : List OutputParam)
    (hvalid : ∀ o ∈ outputs, o.validated = true) (options : Query) (rest : List InputParam)
    (defaultToken : String) :
    (∀ (S : UtxoStore) (answers : (c : Op) → c.Ans), S.Answers w answers →
        S.Funded options defaultToken outputs
          ((prepareTxFunds w outputs (.query options :: rest) defaultToken).eval answers)) ↔
      DataInHtr defaultToken outputs := by
  constructor
  · intro hfunded
    by_contra hdata
    have hlt := charged_lt_spent hdata
    -- a wallet that has exactly what is looked for
    let S := oneUtxoEach (charged defaultToken outputs)
    have hS : S.Answers w (offering S.details) := fun _ => rfl
    have hamount : ∀ t, weight S.amount (S.available options t) = charged defaultToken outputs t := by
      intro t
      rw [available_oneUtxoEach, weight_cons, weight_nil]
      rfl
    have hfunded := hfunded S (offering S.details) hS
    rcases prepareTxFunds_spec hS hvalid options rest defaultToken with ⟨t, -, hless⟩ | ⟨_, utxos, hok, hdrawn, -⟩
    · rw [hamount] at hless
      exact Nat.lt_irrefl _ hless
    · rw [hok] at hfunded
      have hcovers := hfunded.1 NATIVE_TOKEN_UID
      have hless := hdrawn.share_le NATIVE_TOKEN_UID
      rw [hamount] at hless
      exact absurd (hcovers.trans hless) (Nat.not_le.mpr hlt)
  · intro hdata S answers hS
    rcases prepareTxFunds_spec hS hvalid options rest defaultToken with ⟨t, herror, hlt⟩ | ⟨tokens, utxos, hok, hdrawn, hall⟩
    · rw [herror]
      exact ⟨t, spent_eq_charged hdata t ▸ hlt⟩
    · rw [hok]
      refine ⟨fun t => ?_, hdrawn.nodup, rfl⟩
      rw [spent_eq_charged hdata]
      rcases Nat.eq_zero_or_pos (charged defaultToken outputs t) with hzero | hpos
      · omega
      · exact hdrawn.covers _ (hall t (by omega))

/-! A token of which a payment spends all that there is, with a data output beside it. -/

def tokenAndData : List OutputParam :=
  [{ address := some "WYBwT3xLpDnHNtYZiU52oanupVeDKhAvNp", value := some 10 }, { type := some "data", data := some "memo" }]

/-- Eleven of a token, and no HTR. -/
def noHtr : UtxoStore := oneUtxoEach fun t => if t = "token" then 11 else 0

theorem data_burned_of_token :
    (∀ o ∈ tokenAndData, o.validated = true) ∧ noHtr.Answers 0 (offering noHtr.details) ∧
      (prepareTxFunds 0 tokenAndData [.query []] "token").eval (offering noHtr.details) =
        .ok (.ok ⟨tokenAndData.map (prepareOutput "token"), [⟨"token", 0⟩]⟩) ∧
      spent "token" tokenAndData NATIVE_TOKEN_UID = 1 ∧
      ¬ noHtr.Funded [] "token" tokenAndData
        ((prepareTxFunds 0 tokenAndData [.query []] "token").eval (offering noHtr.details)) := by
  have heval : (prepareTxFunds 0 tokenAndData [.query []] "token").eval (offering noHtr.details) =
      .ok (.ok ⟨tokenAndData.map (prepareOutput "token"), [⟨"token", 0⟩]⟩) := by rfl
  refine ⟨by decide, fun _ => rfl, heval, by decide, fun hfunded => ?_⟩
  rw [heval] at hfunded
  exact absurd (hfunded.1 NATIVE_TOKEN_UID) (by decide)

/-- Eleven of every token. -/
def elevenEach : UtxoStore := oneUtxoEach fun _ => 11

theorem htrAndData_funded :
    elevenEach.Funded [] NATIVE_TOKEN_UID tokenAndData
      ((prepareTxFunds 0 tokenAndData [.query []] NATIVE_TOKEN_UID).eval (offering elevenEach.details)) :=
  (prepareTxFunds_funded_iff 0 tokenAndData (by decide) [] [] NATIVE_TOKEN_UID).mpr (by decide) elevenEach
    (offering elevenEach.details) fun _ => rfl

end WalletHeadless
