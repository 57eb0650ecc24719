import WalletHeadless.Api.Calls
import WalletHeadless.Controllers.Proposals

/-!
# The handlers that read

* `wallet.controller.js`: `getStatus` … `utxoFilter`, and `decodeTx`;
* `config.controller.js`, `nano-contracts.controller.js`;
* `tx-proposal.controller.js`, and what is left of the proposals of multisig wallets and of atomic swaps;
* `index.controller.js`.
-/

namespace WalletHeadless

open Coop Js

/-- The handlers start with `parametersValidation`. -/
def checked {β : Type} (req : Req β) (handler : ApiAsync Unit) : ApiAsync Unit :=
  match req.validationError with
  | some error => answerStatus 400 (.invalid error)
  | none => handler

/-- A call that calls back, and whose promise nobody handles: when it is rejected, the callback is never called. -/
def calledBack (c : ReadCall) (callback : c.Result → ApiAsync Unit) : ApiAsync Unit := do
  match ← tryCatch (Except.ok <$> consult c) fun e => return .error e with
  | .error e => Prog.ask (ApiOp.rejected e)
  | .ok r => callback r

/-- A body that replies with the message of its error. -/
def replies (body : ApiAsync Unit) : ApiAsync Unit := tryCatch body fun err => answer (.error err.message)

namespace Reads

/-! ## `wallet.controller.js` -/

def getStatus (req : Req Unit) : ApiAsync Unit := do
  let state ← Prog.ask (ApiOp.gate (.state req.wallet))
  let network ← consult (.getNetwork req.wallet)
  let serverUrl ← consult (.getServerUrl req.wallet)
  let serverInfo ← consult (.storageVersion req.wallet)
  if (← consult (.getWalletType req.wallet)) = .MULTISIG then do
    let multisigData ← onApi (getMultisigData req.wallet)
    answer (.status state (friendlyWalletState state) network serverUrl serverInfo
      (some (multisigData.numSignatures, multisigData.pubkeys.length)))
  else answer (.status state (friendlyWalletState state) network serverUrl serverInfo none)

def getBalance (req : Req (Option String)) : ApiAsync Unit :=
  checked req do
    let balanceObj ← consult (.getBalance req.wallet ((truthy req.body).getD NATIVE_TOKEN_UID))
    match balanceObj with
    | [] => throw (undefinedField "balance")
    | balance :: _ => answer (.balance balance.unlocked balance.locked)

structure AddressQuery where
  index : Option Nat := none
  mark_as_used : Option Bool := none
deriving DecidableEq

def getAddress (req : Req AddressQuery) : ApiAsync Unit :=
  checked req do
    match req.body.index with
    | some index => do
      let address ← onGate (Middleware.getAddressAtIndex req.wallet index)
      answer (.address address)
    | none => do
      let address ← consult (.getCurrentAddress req.wallet (req.body.mark_as_used.getD false))
      answer (.address address)

def getAddressIndex (req : Req String) : ApiAsync Unit :=
  checked req do
    let index ← onApi (WalletHeadless.getAddressIndex req.wallet (some req.body))
    answer (.addressIndex index)

structure AddressInfoQuery where
  address : String
  token : Option String := none
deriving DecidableEq

def getAddressInfo (req : Req AddressInfoQuery) : ApiAsync Unit :=
  checked req do
    tryCatch (do
      let result ← consult (.getAddressInfo req.wallet req.body.address req.body.token)
      answer (.addressInfo result)) fun error => do
        if ← Prog.ask (ApiOp.isInstance error .AddressError) then answer (.error error.message) else throw error

/-- The loop over the addresses; one that takes more than `rounds` rounds waits forever. -/
def collectAddresses (w : WalletRef) : Nat → Nat → ApiAsync (List String)
  | 0, _ => onApi forever
  | rounds + 1, n => do
    match ← consult (.nextAddress w n) with
    | none => return []
    | some address => do
      let rest ← collectAddresses w rounds (n + 1)
      return address :: rest

def getAddresses (req : Req Nat) : ApiAsync Unit := do
  consult (.getAllAddresses req.wallet)
  let addresses ← collectAddresses req.wallet req.body 0
  answer (.addresses addresses)

def getTxHistory (req : Req (Option Int)) : ApiAsync Unit :=
  checked req do
    let history ← consult (.getFullHistory req.wallet)
    answer (.history (WalletHeadless.getTxHistory req.body history))

def noTransaction (id : String) : AnswerBody := .error s!"Wallet does not contain transaction with id {id}"

def getTransaction (req : Req String) : ApiAsync Unit :=
  checked req do
    match ← consult (.getTx req.wallet req.body) with
    | some tx => answer (.transaction tx)
    | none => answer (noTransaction req.body)

/-- The height of the best chain, or nothing when the full node does not say it. -/
def bestChainHeight : ApiAsync (Option Nat) :=
  tryCatch (some <$> consult .getFeatures) fun _ => return none

def confirmationNumber (bestChainHeight : Nat) (txData : TxData) : Int :=
  match txData.first_block_height.filter (· ≠ 0) with
  | some first_block_height => bestChainHeight - first_block_height
  | none => 0

def getTxConfirmationBlocks (req : Req String) : ApiAsync Unit :=
  checked req do
    match ← consult (.getTx req.wallet req.body) with
    | none => answer (noTransaction req.body)
    | some _ => calledBack (.getTransaction req.body) fun txData =>
      if txData.success then do
        match ← bestChainHeight with
        | none => answer (.error "Failed to get network heigth from the full node.")
        | some height => answer (.confirmations (confirmationNumber height txData))
      else answer (.error "Failed to get transaction data from the full node.")

/-! ### `decodeTx` -/

structure DecodeBody where
  txHex : Option String := none
  partial_tx : Option String := none
deriving DecidableEq

/-- `getTx` of `tx.helper.js`. -/
def findTx (w : WalletRef) (id : String) : ApiAsync (Option Decode.FoundTx) := do
  match ← consult (.findTx w id) with
  | some tx => return some tx
  | none =>
    tryCatch (do
      let response ← consult (.getFullTxById w id)
      return if response.success then response.tx else none) fun _ => return none

def decodeInput (w : WalletRef) (input : Input) : ApiAsync Decode.DecodedInput := do
  match ← findTx w input.hash with
  | none => throw (Decode.inputNotFound input.hash)
  | some tx =>
    match tx.outputs[input.index]? with
    | none => throw (undefinedField "decoded")
    | some utxo => do
      let mine ← (match utxo.address with
        | some address => onApi (isAddressMine w address)
        | none => pure false)
      return {
        txId := input.hash, index := input.index, address := utxo.address, token := Decode.getToken utxo tx,
        value := utxo.value, token_data := utxo.token_data, script := utxo.script, signed := input.data.isSome,
        mine := mine }

def decodeOutput (w : WalletRef) (tx : Decode.Tx) (output : Decode.TxOutput) : ApiAsync Decode.DecodedOutput :=
  match output.decodedScript with
  | none => throw (Decode.nullField "getType")
  | some decoded => do
    let mine ← (match decoded with
      | .data _ => pure false
      | .address base58 _ => onApi (isAddressMine w base58))
    return {
      value := output.value, token_data := output.tokenData, script := output.script, decoded := decoded,
      token := Decode.outputToken tx output, mine := mine }

/-- The transaction to decode; the full node checks a partial one. -/
def txToDecode (w : WalletRef) (body : DecodeBody) : ApiAsync Decode.Tx :=
  match truthy body.txHex with
  | some txHex => consult (.createTxFromHex w txHex)
  | none => do
    let partialTx ← consult (.deserialize w (truthy body.partial_tx))
    if ← consult (.validate partialTx) then consult (.getPartialTx partialTx)
    else throw { message := "Partial transaction inconsistent with backend" }

def decodeTx (req : Req DecodeBody) : ApiAsync Unit :=
  checked req do
    if (truthy req.body.txHex).isSome ∧ (truthy req.body.partial_tx).isSome then
      answerStatus 400 (.error "Required only one of txHex or partialTx")
    else replies do
      let tx ← txToDecode req.wallet req.body
      let inputs ← tx.inputs.mapM (decodeInput req.wallet)
      let outputs ← tx.outputs.mapM (decodeOutput req.wallet tx)
      let data : Decode.DecodedTx :=
        { version := tx.version, tokens := tx.tokens, inputs := inputs, outputs := outputs
          completeSignatures := !inputs.isEmpty && inputs.all Decode.DecodedInput.signed }
      let balance ← consult (.getTxBalance req.wallet data)
      answer (.decoded data balance)

def utxoFilter (req : Req Query) : ApiAsync Unit :=
  replies (checked req do
    let utxos ← onApi (WalletHeadless.utxoFilter req.wallet req.body)
    answer (.utxos utxos))

/-! ## `config.controller.js` -/

def getLastLoadedAddressIndex (req : Req Unit) : ApiAsync Unit := do
  let index ← consult (.getLastLoadedAddressIndex req.wallet)
  answer (.index index)

def indexLimitSetEndIndex (req : Req Nat) : ApiAsync Unit :=
  checked req do
    consult (.indexLimitSetEndIndex req.wallet req.body)
    answer .ok

def indexLimitLoadMoreAddresses (req : Req Nat) : ApiAsync Unit :=
  checked req do
    consult (.indexLimitLoadMore req.wallet req.body)
    answer .ok

/-! ## `nano-contracts.controller.js` -/

def getState (req : Req NanoStateQuery) : ApiAsync Unit :=
  checked req (replies do
    let state ← consult (.getNanoContractState req.body)
    answer (.state state))

def getHistory (req : Req NanoHistoryQuery) : ApiAsync Unit :=
  checked req (replies do
    let history ← consult (.getNanoContractHistory req.body)
    answer (.ncHistory history))

def getOracleData (req : Req String) : ApiAsync Unit :=
  checked req (replies do
    let oracleData ← consult (.getOracleBuffer req.body req.wallet)
    answer (.oracleData oracleData.toHex))

structure OracleQuery where
  oracle_data : String
  contract_id : String
  result : String
  type : String
deriving DecidableEq

def getOracleSignedResult (req : Req OracleQuery) : ApiAsync Unit :=
  checked req (replies do
    let resultPreSerialized :=
      if req.body.type = "bytes" then .bytes (Buffer.fromHex req.body.result) else .raw req.body.result
    let inputData ← consult (.getOracleSignedDataFromUser (Buffer.fromHex req.body.oracle_data) req.body.contract_id
      s!"SignedData[{req.body.type}]" resultPreSerialized req.wallet)
    answer (.signedResult inputData))

/-! ## `tx-proposal.controller.js` -/

structure TxBuildBody where
  outputs : List OutputParam
  inputs : Option (List InputParam) := none
  change_address : Option String := none
deriving DecidableEq

def buildTxProposal (req : Req TxBuildBody) : ApiAsync Unit :=
  checked req do
    match ← onApi (await (prepareTxFunds req.wallet req.body.outputs (req.body.inputs.getD []))) with
    | .error token => answer (.errorToken noUtxosMessage token)
    | .ok funds =>
      replies do
        let fullTxData ← onApi (prepareData req.wallet
          (.prepareTxData funds.outputs funds.inputs (truthy req.body.change_address)))
        let tx ← onApi (createTransactionFromData fullTxData)
        let txHex ← onApi (toHex tx)
        answer (.proposal tx txHex tx.dataToSignHash.toHex)

structure AddSignaturesBody where
  txHex : String
  signatures : List AddedSignature
deriving DecidableEq

def addSignatures (L : TxProposalLib) (req : Req AddSignaturesBody) : ApiAsync Unit :=
  checked req do
    let reply ← Prog.orThrow (TxProposal.addSignatures L req.body.txHex req.body.signatures)
    answer (.txProposal reply)

def getWalletInputs (req : Req String) : ApiAsync Unit :=
  checked req (replies do
    let tx ← onApi (createTxFromHex req.wallet req.body)
    let inputs ← consult (.getWalletInputInfo req.wallet tx)
    answer (.inputs inputs))

def getInputData (L : TxProposalLib) (req : Req TxProposal.InputDataBody) : ApiAsync Unit :=
  checked req do
    let accessData ← consult (.getAccessData req.wallet)
    let reply ← Prog.orThrow (TxProposal.getInputData L accessData req.body)
    answer (.txProposal reply)

/-! ## `p2sh/tx-proposal.controller.js` -/

def p2shGetMySignatures (req : Req String) : ApiAsync Unit :=
  checked req (replies do
    let sigs ← consult (.getAllSignatures req.wallet req.body)
    answer (.signatures sigs))

def p2shSignTx (req : Req SignAndPushBody) : ApiAsync Unit :=
  checked req (replies do
    let tx ← onApi (await (assemblePartialTransaction req.wallet req.body.txHex (req.body.signatures.getD [])))
    let txHex ← onApi (toHex tx)
    answer (.txHex txHex))

/-! ## `atomic-swap/tx-proposal.controller.js` -/

def swapGetMySignatures (req : Req String) : ApiAsync Unit :=
  checked req (replies do
    let proposal ← onApi (fromPartialTx req.wallet req.body)
    let signatures ← consult (.signData proposal)
    let signatures ← consult (.serializeInputData signatures)
    answer (.signatures signatures))

/-- The data of the inputs that have some, each under its index. -/
def addInputData (signatures : String) : Nat → List Input → ApiAsync String
  | _, [] => return signatures
  | index, input :: inputs =>
    match input.data.filter (· ≠ []) with
    -- input without data to be added
    | none => addInputData signatures (index + 1) inputs
    | some data => do
      let signatures ← consult (.addData signatures index data)
      addInputData signatures (index + 1) inputs

def swapGetInputData (req : Req String) : ApiAsync Unit :=
  checked req (replies do
    let tx ← onApi (createTxFromHex req.wallet req.body)
    let dataToSign ← onApi (getDataToSign tx)
    let signatures ← onApi (newPartialTxInputData dataToSign.toHex tx.inputs.length)
    let signatures ← addInputData signatures 0 tx.inputs
    let signatures ← consult (.serializeInputData signatures)
    answer (.signatures signatures))

/-- `txMap.get(utxo.txId).add(utxo.index)`: a `Set` has each element once, in the order of the insertions. -/
def addLocked (txMap : Js.Map String (List Nat)) (utxo : Utxo) : Js.Map String (List Nat) :=
  let outputs := (txMap.get utxo.txId).getD []
  txMap.set utxo.txId (if utxo.index ∈ outputs then outputs else outputs ++ [utxo.index])

/-- The loop over the utxos that are selected as input; one that takes more than `rounds` rounds waits forever. -/
def collectLocked (w : WalletRef) : Nat → Nat → Js.Map String (List Nat) → ApiAsync (Js.Map String (List Nat))
  | 0, _, _ => onApi forever
  | rounds + 1, n, txMap => do
    match ← consult (.nextSelected w n) with
    | none => return txMap
    | some utxo => collectLocked w rounds (n + 1) (addLocked txMap utxo)

def lockedTxs (txMap : Js.Map String (List Nat)) : List LockedTx := txMap.entries.map fun e => ⟨e.1, e.2⟩

def getLockedUTXOs (req : Req Nat) : ApiAsync Unit :=
  replies do
    let txMap ← collectLocked req.wallet req.body 0 .empty
    answer (.lockedUtxos (lockedTxs txMap))

/-! ## `index.controller.js` -/

def welcome : ApiAsync Unit := answer .html

def docs : ApiAsync Unit := do
  let docs ← consult .getApiDocs
  answer (.docs docs)

structure MultisigPubkeyBody where
  seedKey : Option String := none
  passphrase : Option String := none
deriving DecidableEq

def multisigPubkey (body : MultisigPubkeyBody) : ApiAsync Unit := do
  let config ← onApi getConfig
  match body.seedKey with
  | none => answer (.message "Parameter \x27seedKey\x27 is required.")
  | some seedKey => do
    match ← Prog.orThrow (seedAt config seedKey) with
    | none => answer (.message "Seed not found.")
    | some seed => do
      let xpubkey ← consult (.getMultiSigXPubFromWords seed config.network body.passphrase)
      answer (.xpubkey xpubkey)

def configurationString (validationError : Option String) (token : String) : ApiAsync Unit :=
  match validationError with
  | some error => answerStatus 400 (.invalid error)
  | none => calledBack (.getGeneralTokenInfo token) fun response =>
    if response.success then do
      -- the callback runs outside of the handler
      match ← tryCatch (Except.ok <$> onApi (getConfigurationString token response.name response.symbol)) fun e =>
        return .error e with
      | .ok configurationString => answer (.configurationString configurationString)
      | .error e => Prog.ask (ApiOp.rejected e)
    else answer (.message "Invalid token uid.")

def pushTxHex (validationError : Option String) (txHex : String) : ApiAsync Unit := do
  let config ← onApi getConfig
  match validationError with
  | some error => answerStatus 400 (.invalid error)
  | none =>
    replies do
      let tx ← consult (.createTxOn config.network txHex)
      (if ← consult (.weighted tx) then pure () else onApi (prepareToSend tx))
      let response ← consult (.mine tx)
      answer (.pushed (mapTxReturn response))

end Reads

end WalletHeadless
