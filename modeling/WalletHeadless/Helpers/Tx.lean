import WalletHeadless.Services.Fireblocks
import WalletHeadless.Services.Hsm

/-!
# `tx.helper.js`, and `wallet-lib` where it calls a signing method

* `signTx`, `buildTransaction`, `prepareTx`: `wallet-lib` prepares a transaction and has it signed by the
  method that `setExternalTxSigningMethod` registered, or by itself;
* `getUtxosToFillTx`, `prepareTxFunds`: the inputs of `sendTx`;
* `markUtxosSelectedAsInput`, `runSendTransaction`.
-/

namespace WalletHeadless

open Coop Js

def NATIVE_TOKEN_UID : String := "00"

def cantSendTxErrorMessage : String :=
  "You already have a transaction being sent. Please wait until it's done to send another."

/-- The keys that older clients read. -/
def mapTxReturn (tx : Transaction) : Transaction :=
  { tx with
    inputs := tx.inputs.map fun i => { i with tx_id := some i.hash }
    outputs := tx.outputs.map fun o => { o with token_data := some o.tokenData } }

/-! ## `wallet-lib` -/

/-- `transactionUtils.signTransaction`. -/
def signTx (w : WalletRef) (tx : Transaction) : Async Unit := do
  match ← getTxSignatureMethod w with
  | none => signTransaction w tx
  | some (.hsm hsmKeyName) => do
    let _ ← await (hsmSignTx hsmKeyName tx w)
    return
  | some .fireblocks => do
    let _ ← await (fireblocksSigner tx w)
    return

/-- A call that builds a transaction: what is prepared at once is signed at once. -/
def buildTransaction (w : WalletRef) (b : Build) : Async SendTransaction := do
  let sendTx ← buildWith w b
  match sendTx.transaction with
  | none => return sendTx
  | some tx => do
    (if b.signs then signTx w tx else pure ())
    return sendTx

/-- `sendTx.prepareTx()`. -/
def prepareTx (w : WalletRef) (sendTx : SendTransaction) : Async Transaction := do
  let tx ← prepareInputs w sendTx
  signTx w tx
  return tx

/-! ## The inputs of `sendTx` -/

/-- Utxos with larger amounts first. -/
def sortUtxos (utxos : List UtxoDetail) : List UtxoDetail :=
  utxos.insertionSort fun a b => b.amount ≤ a.amount

/-- Utxos in order until the full amount is filled. -/
def fillAmount (sumOutputs : Nat) : List UtxoDetail → Nat → Option (List UtxoDetail)
  | [], _ => none
  | utxo :: utxos, total =>
    if sumOutputs ≤ total + utxo.amount then some [utxo]
    else (fillAmount sumOutputs utxos (total + utxo.amount)).map (utxo :: ·)

/-- The utxos of `getUtxosToFillTx`, from the answer of `wallet.getUtxos`. -/
def selectUtxos (sumOutputs : Nat) (utxosDetails : UtxosDetails) :
    Except JsError (Option (List UtxoDetail)) :=
  if utxosDetails.total_amount_available < sumOutputs then .ok none
  else
    let utxos := sortUtxos utxosDetails.utxos
    match utxos with
    | [] => .error (undefinedField "amount")
    | first :: _ =>
      if sumOutputs < first.amount then
        -- the smallest utxo that fills the full amount
        match utxos.findIdx? fun obj => obj.amount < sumOutputs with
        | none => .ok (utxos.getLast?.map ([·]))
        | some i => .ok (utxos[i - 1]?.map ([·]))
      else .ok (fillAmount sumOutputs utxos 0)

def getUtxosToFillTx (w : WalletRef) (sumOutputs : Nat) (options : Query) :
    Async (Option (List UtxoDetail)) := do
  let utxosDetails ← getUtxos w (options ++ [("only_available_utxos", "true")])
  Prog.orThrow (selectUtxos sumOutputs utxosDetails)

/-- An entry of `inputs` in the body of `sendTx`. -/
inductive InputParam
  | query (options : Query)
  | utxo (hash : String) (index : Nat)
deriving DecidableEq

def InputParam.toUtxo : InputParam → Utxo
  | query _ => ⟨"", 0⟩
  | utxo hash index => ⟨hash, index⟩

structure PreparedFunds where
  outputs : List OutputParam
  inputs : List Utxo
deriving DecidableEq

/-- Adding a `BigInt` and `undefined`. -/
def mixedBigInt : JsError :=
  { kind := .TypeError, message := "Cannot mix BigInt and other types, use explicit conversions" }

/-- An output with its token, and with the value that a data output burns. -/
def prepareOutput (defaultToken : String) (output : OutputParam) : OutputParam :=
  { output with
    token := some ((truthy output.token).getD defaultToken)
    value := if output.type = some "data" then some 1 else output.value }

/-- The amount of each token, in the order of the outputs. -/
def tokenAmounts (defaultToken : String) :
    List OutputParam → Js.Map String Nat → Except JsError (Js.Map String Nat)
  | [], tokens => .ok tokens
  | output :: outputs, tokens =>
    let token := (truthy output.token).getD defaultToken
    match (prepareOutput defaultToken output).value with
    | none => .error mixedBigInt
    | some value => tokenAmounts defaultToken outputs (tokens.set token ((tokens.get token).getD 0 + value))

/-- The loop over the tokens: the utxos, or the token that they do not fill. -/
def queryInputs (w : WalletRef) (query : Query) : List (String × Nat) → Async (Except String (List Utxo))
  | [] => return .ok []
  | (tokenUid, amount) :: tokens => do
    match ← await (getUtxosToFillTx w amount (query ++ [("token", tokenUid)])) with
    | none => return .error tokenUid
    | some utxos => do
      match ← queryInputs w query tokens with
      | .error token => return .error token
      | .ok rest => return .ok (utxos.map (fun u => ⟨u.tx_id, u.index⟩) ++ rest)

/-- `prepareTxFunds`: the prepared funds, or the token that no utxos are found for. -/
def prepareTxFunds (w : WalletRef) (outputs : List OutputParam) (inputs : List InputParam)
    (defaultToken : String := NATIVE_TOKEN_UID) : Async (Except String PreparedFunds) := do
  let tokens ← Prog.orThrow (tokenAmounts defaultToken outputs .empty)
  let preparedOutputs := outputs.map (prepareOutput defaultToken)
  match inputs with
  | [] => return .ok ⟨preparedOutputs, []⟩
  | .query options :: _ => do
    match ← queryInputs w options tokens.entries with
    | .error token => return .error token
    | .ok utxos => return .ok ⟨preparedOutputs, utxos⟩
  | inputs => return .ok ⟨preparedOutputs, inputs.map InputParam.toUtxo⟩

/-! ## Marking and sending -/

def markUtxosSelectedAsInput (w : WalletRef) (mark : Bool := true) (utxos : List Utxo)
    (ttl : Option Nat := none) : Async Unit :=
  match utxos with
  | [] => return
  | utxo :: utxos => do
    markUtxoSelected w utxo mark ttl
    markUtxosSelectedAsInput w mark utxos ttl

/-- The transaction of a `SendTransaction`, prepared now if it has not been. -/
def preparedTx (w : WalletRef) (sendTx : SendTransaction) : Async Transaction :=
  match sendTx.transaction with
  | some tx => pure tx
  | none => prepareTx w sendTx

/-- `runSendTransaction`: the lock is released once the inputs are marked, or on an error. -/
def runSendTransaction (w : WalletRef) (sendTx : SendTransaction) (u : UnlockFn) : Async Transaction := do
  let tx ← Prog.andFinally (do
    let tx ← preparedTx w sendTx
    updateOutputSelected w tx
    return tx) (unlock u)
  runFromMining w tx

end WalletHeadless
