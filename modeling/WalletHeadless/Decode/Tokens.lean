import Mathlib.Algebra.Order.BigOperators.Group.List
import Mathlib.Algebra.Order.Group.Nat
import WalletHeadless.Controllers.Decode

/-!
# The tokens that `decodeTx` reports

A transaction is decoded itself, or found as one that is spent: in the wallet history, where its outputs carry their
token, or on the full node, where they do not.

* `ChainTx`: a transaction with the token of each of its outputs; `ChainTx.toDecode`, `ChainTx.found`: what `decodeTx`
  sees of it;
* `ChainTx.Reports`: both ways report the token of an output;
* `reports_iff`.
-/

namespace WalletHeadless.Decode

open Js

/-! ## Transactions -/

structure ChainOutput where
  value : Nat
  token_data : Nat
  decodedScript : DecodedScript
deriving DecidableEq

/-- The index of the token among those of the transaction, from one on; zero is HTR. -/
def ChainOutput.tokenIndex (o : ChainOutput) : Nat := o.token_data &&& TOKEN_INDEX_MASK

/-- A transaction; one that creates a token lists no tokens, and its token is its own hash. -/
structure ChainTx where
  hash : String
  createsToken : Bool
  tokens : List String
  inputs : List Input
  outputs : List ChainOutput
  hash_ne : hash ≠ ""
  tokens_ne : ∀ uid ∈ tokens, uid ≠ ""
  created : createsToken = true → tokens = []
  listed : ∀ o ∈ outputs, o.tokenIndex ≤ if createsToken then 1 else tokens.length

/-- Where the transaction is found when it is spent. -/
inductive Source
  | history
  | fullNode (names : Option (String → String × String))

/-- The tokens are objects there. -/
def Source.objects : Source → Bool
  | fullNode (some _) => true
  | _ => false

namespace ChainTx

/-- The tokens of the transaction, from index one on. -/
def uids (T : ChainTx) : List String := if T.createsToken then [T.hash] else T.tokens

/-- The token of an output. -/
def uidOf (T : ChainTx) (o : ChainOutput) : String :=
  match o.tokenIndex with
  | 0 => NATIVE_TOKEN_UID
  | k + 1 => T.uids.getD k NATIVE_TOKEN_UID

/-- The transaction as it is parsed. -/
def toDecode (T : ChainTx) : Tx where
  version := if T.createsToken then 2 else 1
  tokens := T.tokens
  inputs := T.inputs
  outputs := T.outputs.map fun o => { value := o.value, tokenData := o.token_data, decodedScript := some o.decodedScript }

/-- An entry of the tokens of the full node: the uid, or an object with the name and the symbol. -/
def entry (names : Option (String → String × String)) (uid : String) : TokenEntry :=
  match names with
  | none => .uid uid
  | some names => .object uid (names uid).1 (names uid).2

/-- The transaction as it is found. -/
def found (T : ChainTx) : Source → FoundTx
  | .history =>
    { tokens := T.tokens.map .uid
      outputs := T.outputs.map fun o => { value := o.value, token_data := o.token_data, token := some (T.uidOf o) } }
  | .fullNode names =>
    { tokens := T.tokens.map (entry names)
      outputs := T.outputs.map fun o => { value := o.value, token_data := o.token_data } }

end ChainTx

/-- The transaction is found there. -/
def TxSource.Finds (env : TxSource) (T : ChainTx) : Source → Prop
  | .history => env.getTx T.hash = .ok (some (T.found .history))
  | .fullNode names => env.getTx T.hash = .ok none ∧
      env.getFullTxById T.hash = .ok { success := true, tx := some (T.found (.fullNode names)) }

/-- Decoding the transaction, and decoding one that spends the output, both report the token of the output. -/
structure ChainTx.Reports (T : ChainTx) (k : Fin T.outputs.length) (source : Source) : Prop where
  output : ∀ env data, decodeTx env T.toDecode = .ok data →
    data.outputs[k.val]?.bind DecodedOutput.token = some (.uid (T.uidOf T.outputs[k]))
  input : ∀ (env : TxSource) (tx : Tx) (j : Nat) (input : Input) (data : DecodedTx), env.Finds T source →
    tx.inputs[j]? = some input → input.hash = T.hash →
    input.index = k.val → decodeTx env tx = .ok data →
    data.inputs[j]?.bind DecodedInput.token = some (.uid (T.uidOf T.outputs[k]))

/-! ## Traversals -/

section Traversal

variable {α β ε : Type} {f : α → Except ε β}

theorem mapM_ok_getElem? {l : List α} {r : List β} (h : l.mapM f = .ok r) {i : Nat} {a : α} (ha : l[i]? = some a) :
    ∃ b, f a = .ok b ∧ r[i]? = some b := by
  induction l generalizing r i with
  | nil => simp at ha
  | cons x l ih =>
      rw [List.mapM_cons] at h
      cases hx : f x with
      | error e =>
          rw [hx] at h
          cases h
      | ok b =>
          cases hl : l.mapM f with
          | error e =>
              rw [hx, hl] at h
              cases h
          | ok bs =>
              rw [hx, hl] at h
              cases h
              cases i with
              | zero =>
                  obtain rfl : x = a := by simpa using ha
                  exact ⟨b, hx, rfl⟩
              | succ i => exact ih hl (by simpa using ha)

theorem exists_mapM_ok {l : List α} (h : ∀ a ∈ l, ∃ b, f a = .ok b) : ∃ r, l.mapM f = .ok r := by
  induction l with
  | nil => exact ⟨[], rfl⟩
  | cons x l ih =>
      obtain ⟨b, hb⟩ := h x (by simp)
      obtain ⟨r, hr⟩ := ih fun a ha => h a (by simp [ha])
      refine ⟨b :: r, ?_⟩
      rw [List.mapM_cons, hb, hr]
      rfl

end Traversal

theorem decodeTx_eq_ok {env : TxSource} {tx : Tx} {inputs : List DecodedInput} {outputs : List DecodedOutput}
    (hi : tx.inputs.mapM (decodeInput env) = .ok inputs) (ho : tx.outputs.mapM (decodeOutput env tx) = .ok outputs) :
    decodeTx env tx = .ok {
      version := tx.version, tokens := tx.tokens, inputs := inputs, outputs := outputs
      completeSignatures := !inputs.isEmpty && inputs.all DecodedInput.signed } := by
  unfold decodeTx
  rw [hi, ho]
  rfl

theorem decodeTx_ok {env : TxSource} {tx : Tx} {data : DecodedTx} (h : decodeTx env tx = .ok data) :
    tx.inputs.mapM (decodeInput env) = .ok data.inputs ∧ tx.outputs.mapM (decodeOutput env tx) = .ok data.outputs := by
  unfold decodeTx at h
  cases hi : tx.inputs.mapM (decodeInput env) with
  | error e =>
      rw [hi] at h
      cases h
  | ok inputs =>
      cases ho : tx.outputs.mapM (decodeOutput env tx) with
      | error e =>
          rw [hi, ho] at h
          cases h
      | ok outputs =>
          rw [hi, ho] at h
          cases h
          exact ⟨rfl, rfl⟩

theorem decodeInput_ok {env : TxSource} {input : Input} {tx : FoundTx} {utxo : FoundOutput}
    (hget : getTx env input.hash = .ok (some tx)) (hutxo : tx.outputs[input.index]? = some utxo) :
    ∃ d, decodeInput env input = .ok d := by
  unfold decodeInput
  rw [hget]
  simp [bind, Except.bind, hutxo, pure, Except.pure]

/-! ## What is reported -/

namespace ChainTx

variable {T : ChainTx} {o : ChainOutput}

theorem tokenIndex_of_zero (h : o.token_data = 0) : o.tokenIndex = 0 := by
  rw [ChainOutput.tokenIndex, h, Nat.zero_and]

theorem uidOf_of_zero (h : o.tokenIndex = 0) : T.uidOf o = NATIVE_TOKEN_UID := by
  unfold uidOf
  rw [h]

/-- The uid of an output of a token that the transaction lists. -/
theorem uidOf_listed (ho : o ∈ T.outputs) (hc : T.createsToken = false) {k : Nat} (hk : o.tokenIndex = k + 1) :
    T.tokens[k]? = some (T.uidOf o) := by
  have hlisted := T.listed o ho
  rw [hk, hc, if_neg (by decide)] at hlisted
  unfold uidOf uids
  rw [hk, hc, if_neg (by decide)]
  show T.tokens[k]? = some (T.tokens.getD k NATIVE_TOKEN_UID)
  rw [List.getD_eq_getElem?_getD, List.getElem?_eq_getElem hlisted]
  rfl

theorem uidOf_ne (T : ChainTx) (o : ChainOutput) : T.uidOf o ≠ "" := by
  unfold uidOf
  split
  next => decide
  next k _ =>
    rw [List.getD_eq_getElem?_getD]
    cases huid : T.uids[k]? with
    | none => decide
    | some uid =>
        have hmem := List.mem_of_getElem? huid
        unfold uids at hmem
        split at hmem
        next =>
          obtain rfl : uid = T.hash := by simpa using hmem
          exact T.hash_ne
        next => exact T.tokens_ne uid hmem

/-- What is reported of an output where the transaction itself is decoded. -/
theorem outputToken_iff (ho : o ∈ T.outputs) (value : Nat) (script : String) (decodedScript : Option DecodedScript) :
    outputToken T.toDecode ⟨value, o.token_data, script, decodedScript⟩ = some (.uid (T.uidOf o)) ↔
      o.token_data = 0 ∨ (T.createsToken = false ∧ o.tokenIndex ≠ 0) := by
  unfold outputToken
  by_cases hzero : o.token_data = 0
  · simp only [hzero, ne_eq, not_true, if_false, true_or, iff_true]
    rw [uidOf_of_zero (tokenIndex_of_zero hzero)]
  · simp only [hzero, ne_eq, not_false_eq_true, if_true, false_or]
    split
    next hindex =>
      have hindex : o.tokenIndex = 0 := hindex
      simp [hindex]
    next k hindex =>
      have hindex : o.tokenIndex = k + 1 := hindex
      show (T.tokens[k]?.map TokenEntry.uid) = _ ↔ _
      cases hc : T.createsToken with
      | true => simp [T.created hc]
      | false =>
          rw [uidOf_listed ho hc hindex]
          simp [hindex]

/-- What is reported of it where it was found in the wallet history. -/
theorem getToken_history (T : ChainTx) (o : ChainOutput) (txObj : FoundTx) :
    getToken { value := o.value, token_data := o.token_data, token := some (T.uidOf o) } txObj =
      some (.uid (T.uidOf o)) := by
  have htruthy : truthy (some (T.uidOf o)) = some (T.uidOf o) := by
    simp [truthy, uidOf_ne T o]
  unfold getToken
  rw [htruthy]

/-- What is reported of it where it was found on the full node. -/
theorem getToken_fullNode_iff (ho : o ∈ T.outputs) (names : Option (String → String × String)) :
    getToken { value := o.value, token_data := o.token_data } (T.found (.fullNode names)) =
        some (.uid (T.uidOf o)) ↔
      o.token_data = 0 ∨ (T.createsToken = false ∧ o.tokenIndex ≠ 0 ∧ names = none) := by
  show (if o.token_data = 0 then _ else _) = _ ↔ _
  by_cases hzero : o.token_data = 0
  · rw [if_pos hzero, uidOf_of_zero (tokenIndex_of_zero hzero)]
    simp [hzero]
  · rw [if_neg hzero]
    simp only [hzero, false_or]
    split
    next hindex =>
      have hindex : o.tokenIndex = 0 := hindex
      simp [hindex]
    next k hindex =>
      have hindex : o.tokenIndex = k + 1 := hindex
      show (T.tokens.map (entry names))[k]? = _ ↔ _
      rw [List.getElem?_map]
      cases hc : T.createsToken with
      | true => simp [T.created hc]
      | false =>
          rw [uidOf_listed ho hc hindex]
          cases names with
          | none => simp [entry, hindex]
          | some names => simp [entry]

/-- What is reported of an output of the transaction that is found. -/
theorem getToken_found_iff (ho : o ∈ T.outputs) (source : Source) {utxo : FoundOutput} {k : Nat}
    (hk : T.outputs[k]? = some o) (hutxo : (T.found source).outputs[k]? = some utxo) :
    getToken utxo (T.found source) = some (.uid (T.uidOf o)) ↔
      source = .history ∨ o.token_data = 0 ∨
        (T.createsToken = false ∧ o.tokenIndex ≠ 0 ∧ source.objects = false) := by
  cases source with
  | history =>
      have hmap : (T.found .history).outputs[k]? =
          some { value := o.value, token_data := o.token_data, token := some (T.uidOf o) } := by
        show (T.outputs.map _)[k]? = _
        rw [List.getElem?_map, hk]
        rfl
      rw [hmap] at hutxo
      cases hutxo
      simp [getToken_history]
  | fullNode names =>
      have hmap : (T.found (.fullNode names)).outputs[k]? = some { value := o.value, token_data := o.token_data } := by
        show (T.outputs.map _)[k]? = _
        rw [List.getElem?_map, hk]
        rfl
      rw [hmap] at hutxo
      cases hutxo
      rw [getToken_fullNode_iff ho]
      cases names with
      | none => simp [Source.objects]
      | some names => simp [Source.objects]

/-- A spent transaction is found as it is. -/
theorem getTx_found {env : TxSource} {source : Source} (henv : env.Finds T source) :
    getTx env T.hash = .ok (some (T.found source)) := by
  unfold getTx
  cases source with
  | history =>
      have hfound : env.getTx T.hash = .ok (some (T.found .history)) := henv
      rw [hfound]
      rfl
  | fullNode names =>
      obtain ⟨hnone, hfull⟩ := henv
      simp [hnone, hfull, bind, Except.bind, pure, Except.pure]

theorem decodeInput_found {env : TxSource} {source : Source} (henv : env.Finds T source) {input : Input}
    (hhash : input.hash = T.hash) {d : DecodedInput} (hd : decodeInput env input = .ok d) :
    ∃ utxo, (T.found source).outputs[input.index]? = some utxo ∧ d.token = getToken utxo (T.found source) := by
  have hget : getTx env input.hash = .ok (some (T.found source)) := by rw [hhash, getTx_found henv]
  unfold decodeInput at hd
  rw [hget] at hd
  simp only [bind, Except.bind] at hd
  cases hutxo : (T.found source).outputs[input.index]? with
  | none =>
      rw [hutxo] at hd
      cases hd
  | some utxo =>
      rw [hutxo] at hd
      cases hd
      exact ⟨utxo, rfl, rfl⟩

/-- A wallet that knows the transaction. -/
def knows (T : ChainTx) : Source → TxSource
  | .history => ⟨fun _ => .ok (some (T.found .history)), fun _ => .ok ⟨false, none⟩, fun _ => false⟩
  | .fullNode names => ⟨fun _ => .ok none, fun _ => .ok ⟨true, some (T.found (.fullNode names))⟩, fun _ => false⟩

theorem finds_knows (T : ChainTx) (source : Source) : (T.knows source).Finds T source := by
  cases source with
  | history => exact rfl
  | fullNode names => exact ⟨rfl, rfl⟩

/-- A transaction that spends an output. -/
def spend (T : ChainTx) (k : Nat) : Tx := { tokens := [], inputs := [{ hash := T.hash, index := k }], outputs := [] }

theorem length_found (T : ChainTx) (source : Source) : (T.found source).outputs.length = T.outputs.length := by
  cases source with
  | history => exact List.length_map _
  | fullNode names => exact List.length_map _

theorem decodeTx_spend (source : Source) (k : Fin T.outputs.length) :
    ∃ data, decodeTx (T.knows source) (T.spend k) = .ok data := by
  have hlt : k.val < (T.found source).outputs.length := by
    rw [length_found]
    exact k.isLt
  obtain ⟨inputs, hinputs⟩ := exists_mapM_ok (f := decodeInput (T.knows source)) (l := (T.spend k).inputs) fun i hi => by
    obtain rfl : i = { hash := T.hash, index := k } := by simpa [spend] using hi
    exact decodeInput_ok (getTx_found (finds_knows T source)) (List.getElem?_eq_getElem hlt)
  exact ⟨_, decodeTx_eq_ok hinputs rfl⟩

/-- A transaction with `n` outputs. -/
def blank (n : Nat) : FoundTx := ⟨[], List.replicate n { value := 0, token_data := 0 }⟩

/-- A wallet whose history has `n` outputs in every transaction. -/
def outputsEach (n : Nat) : TxSource := ⟨fun _ => .ok (some (blank n)), fun _ => .ok ⟨false, none⟩, fun _ => false⟩

/-- The transaction itself can be decoded. -/
theorem decodeTx_toDecode (T : ChainTx) : ∃ env data, decodeTx env T.toDecode = .ok data := by
  have hinput : ∀ i ∈ T.inputs, ∃ d, decodeInput (outputsEach ((T.inputs.map Input.index).sum + 1)) i = .ok d := by
    intro i hi
    have hlt : i.index < (T.inputs.map Input.index).sum + 1 :=
      Nat.lt_succ_of_le (List.le_sum_of_mem (List.mem_map_of_mem hi))
    have hget : getTx (outputsEach ((T.inputs.map Input.index).sum + 1)) i.hash =
        .ok (some (blank ((T.inputs.map Input.index).sum + 1))) := rfl
    exact decodeInput_ok hget (List.getElem?_replicate_of_lt hlt)
  obtain ⟨inputs, hinputs⟩ := exists_mapM_ok (l := T.toDecode.inputs) hinput
  have houtput : ∀ o ∈ T.toDecode.outputs, ∃ d,
      decodeOutput (outputsEach ((T.inputs.map Input.index).sum + 1)) T.toDecode o = .ok d := by
    intro o ho
    obtain ⟨o, -, rfl⟩ := List.mem_map.mp ho
    exact ⟨_, rfl⟩
  obtain ⟨outputs, houtputs⟩ := exists_mapM_ok houtput
  exact ⟨_, _, decodeTx_eq_ok hinputs houtputs⟩

end ChainTx

/-- Both ways report the token of an output exactly when it is of HTR, or of a token that the transaction lists,
and the tokens of a transaction that is found on the full node are not objects. -/
theorem reports_iff (T : ChainTx) (k : Fin T.outputs.length) (source : Source) :
    T.Reports k source ↔ T.outputs[k].token_data = 0 ∨
      (T.createsToken = false ∧ T.outputs[k].tokenIndex ≠ 0 ∧ source.objects = false) := by
  have ho : T.outputs[k] ∈ T.outputs := List.getElem_mem k.isLt
  have hk : T.outputs[k.val]? = some T.outputs[k] := List.getElem?_eq_getElem k.isLt
  have houtput : T.toDecode.outputs[k.val]? =
      some { value := T.outputs[k].value, tokenData := T.outputs[k].token_data,
             decodedScript := some T.outputs[k].decodedScript } := by
    show (T.outputs.map _)[k.val]? = _
    rw [List.getElem?_map, hk]
    rfl
  constructor
  · intro h
    obtain ⟨env, data, hdata⟩ := T.decodeTx_toDecode
    obtain ⟨d, hd, hget⟩ := mapM_ok_getElem? (decodeTx_ok hdata).2 houtput
    cases hd
    have hself := h.output env data hdata
    rw [hget] at hself
    have hself := (ChainTx.outputToken_iff ho _ _ _).mp hself
    obtain ⟨data, hdata⟩ := ChainTx.decodeTx_spend source k
    obtain ⟨d, hd, hget⟩ := mapM_ok_getElem? (i := 0) (decodeTx_ok hdata).1 rfl
    obtain ⟨utxo, hutxo, htoken⟩ := ChainTx.decodeInput_found (T.finds_knows source) rfl hd
    have hspent := h.input (T.knows source) (T.spend k) 0 _ data (T.finds_knows source) rfl rfl rfl hdata
    rw [hget] at hspent
    have hspent : d.token = _ := hspent
    rw [htoken, ChainTx.getToken_found_iff ho source hk hutxo] at hspent
    rcases hspent with rfl | hspent
    · exact hself.imp id fun h => ⟨h.1, h.2, rfl⟩
    · exact hspent
  · intro h
    constructor
    · intro env data hdata
      obtain ⟨d, hd, hget⟩ := mapM_ok_getElem? (decodeTx_ok hdata).2 houtput
      cases hd
      rw [hget]
      exact (ChainTx.outputToken_iff ho _ _ _).mpr (h.imp id fun h => ⟨h.1, h.2.1⟩)
    · intro env tx j input data henv hj hhash hindex hdata
      obtain ⟨d, hd, hget⟩ := mapM_ok_getElem? (decodeTx_ok hdata).1 hj
      obtain ⟨utxo, hutxo, htoken⟩ := ChainTx.decodeInput_found henv hhash hd
      rw [hindex] at hutxo
      rw [hget]
      show d.token = _
      rw [htoken]
      exact (ChainTx.getToken_found_iff ho source hk hutxo).mpr (.inr h)

/-- A transaction that creates a token. -/
def creating : ChainTx where
  hash := "aa"
  createsToken := true
  tokens := []
  inputs := []
  outputs := [⟨100, 1, .address "WYBwT3xLpDnHNtYZiU52oanupVeDKhAvNp" none⟩]
  hash_ne := by decide
  tokens_ne := by decide
  created := by decide
  listed := by decide

/-- One that lists a token. -/
def listing : ChainTx where
  hash := "bb"
  createsToken := false
  tokens := ["aa"]
  inputs := []
  outputs := [⟨100, 1, .address "WYBwT3xLpDnHNtYZiU52oanupVeDKhAvNp" none⟩]
  hash_ne := by decide
  tokens_ne := by decide
  created := by decide
  listed := by decide

/-- The full node, with the tokens as objects. -/
def asObjects : Source := .fullNode (some fun _ => ("Token", "TKN"))

theorem creation_and_objects_reported :
    ((decodeTx (ChainTx.outputsEach 0) creating.toDecode).map fun data => data.outputs.map DecodedOutput.token) = .ok [none] ∧
      ¬ creating.Reports ⟨0, by decide⟩ .history ∧
      ((decodeTx (listing.knows asObjects) (listing.spend 0)).map fun data => data.inputs.map DecodedInput.token) =
        .ok [some (.object "aa" "Token" "TKN")] ∧
      ¬ listing.Reports ⟨0, by decide⟩ asObjects := by
  refine ⟨rfl, fun h => ?_, rfl, fun h => ?_⟩
  · exact absurd (h.output (ChainTx.outputsEach 0) _ rfl) (by decide)
  · have hspent := h.input _ (listing.spend 0) 0 _ _ (listing.finds_knows asObjects) rfl rfl rfl rfl
    exact absurd hspent (by decide)

end WalletHeadless.Decode
