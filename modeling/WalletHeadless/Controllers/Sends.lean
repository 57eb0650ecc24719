import WalletHeadless.Helpers.Tx

/-!
# The handlers that take the SEND_TX lock

* `lockedSend`: take the lock, run a body that gets the unlock function, reply; an error of the body
  unlocks again and is the reply;
* `simpleSendTx`, `createToken`, `mintTokens`, `meltTokens`, `utxoConsolidation`, `createNft`,
  `createNanoContract`, `executeNanoContractMethod`, `createOnChainBlueprint` and the two `signAndPush`
  are instances of it;
* `sendTx`, `runTemplate`, `buildTemplate` and `unlockInputs` have bodies of their own.
-/

namespace WalletHeadless

open Coop Js

/-- A request to a wallet, with what the validation of its parameters found. -/
structure Req (β : Type) where
  walletId : String
  wallet : WalletRef
  validationError : Option String := none
  body : β
deriving DecidableEq

/-- The handlers start with `parametersValidation`. -/
def validated {β : Type} (req : Req β) (handler : Async Unit) : Async Unit :=
  match req.validationError with
  | some error => sendStatus 400 (.invalid error)
  | none => handler

/-- `res.send({ success: false, error })`. -/
def sendError (error : String) : Async Unit := send (.error error)

def lockedSend {β : Type} (req : Req β) (body : UnlockFn → Async ReplyBody) : Async Unit :=
  validated req do
    match ← lockSendTx req.walletId with
    | none => sendError cantSendTxErrorMessage
    | some u =>
      tryCatch (do
        let reply ← body u
        send reply) fun err => do
        unlock u
        sendError err.message

def changeAddressNotMine : JsError := { message := "Change address is not from this wallet" }

def checkChangeAddress (w : WalletRef) (changeAddress : Option String) : Async Unit :=
  match truthy changeAddress with
  | none => pure ()
  | some address => do
    if ← isAddressMine w address then pure () else throw changeAddressNotMine

/-- Build a transaction and send it. -/
def buildAndSend (w : WalletRef) (b : Build) (u : UnlockFn) : Async Transaction := do
  let sendTransaction ← buildTransaction w b
  await (runSendTransaction w sendTransaction u)

/-- The reply of the handlers that create a token. -/
def tokenReply (tx : Transaction) : Async ReplyBody := do
  let configurationString ← getConfigurationString tx.hash tx.name tx.symbol
  return .token configurationString (mapTxReturn tx)

/-! ## `wallet.controller.js` -/

inductive TokenParam
  | uid (uid : String)
  | object (uid : String)
deriving DecidableEq

structure SimpleSendBody where
  address : String
  value : Nat
  token : Option TokenParam := none
  change_address : Option String := none
deriving DecidableEq

/-- The token of a simple send: a string, or the `uid` of an object. -/
def tokenIdOf : Option TokenParam → String
  | some (.uid uid) => (truthy (some uid)).getD NATIVE_TOKEN_UID
  | some (.object uid) => uid
  | none => NATIVE_TOKEN_UID

def simpleSendTx (req : Req SimpleSendBody) : Async Unit :=
  lockedSend req fun u => do
    let tokenId := tokenIdOf req.body.token
    let changeAddress := truthy req.body.change_address
    checkChangeAddress req.wallet changeAddress
    let tx ← buildAndSend req.wallet
      (.sendTransactionInstance req.body.address req.body.value tokenId changeAddress) u
    return .tx (mapTxReturn tx)

structure SendTxBody where
  outputs : List OutputParam
  inputs : Option (List InputParam) := none
  token : Option String := none
  change_address : Option String := none
  debug : Option Bool := none
deriving DecidableEq

def noUtxosMessage : String := "No utxos available for the query filter for this amount."

def sendTx (req : Req SendTxBody) : Async Unit :=
  validated req do
    match ← lockSendTx req.walletId with
    | none => sendError cantSendTxErrorMessage
    | some u => do
      match ← await (prepareTxFunds req.wallet req.body.outputs (req.body.inputs.getD [])
          ((truthy req.body.token).getD NATIVE_TOKEN_UID)) with
      | .error token => do
        unlock u
        send (.errorToken noUtxosMessage token)
      | .ok funds => do
        let changeAddress := truthy req.body.change_address
        let debug := req.body.debug.getD false
        (if debug then enableDebugMode req.wallet else pure ())
        Prog.andFinally (tryCatch (do
          let tx ← buildAndSend req.wallet
            (.sendManyOutputsSendTransaction funds.outputs funds.inputs changeAddress) u
          send (.tx (mapTxReturn tx))) fun err => do
            unlock u
            sendError err.message)
          (if debug then disableDebugMode req.wallet else pure ())

structure CreateTokenBody where
  name : String
  symbol : String
  amount : Nat
  options : CreateTokenOptions := {}
deriving DecidableEq

def createToken (req : Req CreateTokenBody) : Async Unit :=
  lockedSend req fun u => do
    checkChangeAddress req.wallet req.body.options.changeAddress
    let tx ← buildAndSend req.wallet
      (.createNewTokenSendTransaction req.body.name req.body.symbol req.body.amount req.body.options) u
    tokenReply tx

/-- The body of `mintTokens` and `meltTokens`: `address` is the `deposit_address` of a melt. -/
structure AuthorityBody where
  token : String
  amount : Nat
  address : Option String := none
  change_address : Option String := none
  authority_address : Option String := none
  allow_external_authority_address : Option Bool := none
  unshift_data : Option Bool := none
  data : Option (List String) := none
deriving DecidableEq

/-- The options of a mint or a melt: `|| null` and `|| false`. -/
def AuthorityBody.options (body : AuthorityBody) : AuthorityOptions where
  address := truthy body.address
  changeAddress := truthy body.change_address
  authorityAddress := truthy body.authority_address
  allowExternalAuthorityAddress := some (body.allow_external_authority_address.getD false)
  unshiftData := body.unshift_data
  data := body.data

def mintTokens (req : Req AuthorityBody) : Async Unit :=
  lockedSend req fun u => do
    checkChangeAddress req.wallet req.body.options.changeAddress
    let tx ← buildAndSend req.wallet
      (.mintTokensSendTransaction req.body.token req.body.amount req.body.options) u
    return .tx (mapTxReturn tx)

def meltTokens (req : Req AuthorityBody) : Async Unit :=
  lockedSend req fun u => do
    checkChangeAddress req.wallet req.body.options.changeAddress
    let tx ← buildAndSend req.wallet
      (.meltTokensSendTransaction req.body.token req.body.amount req.body.options) u
    return .tx (mapTxReturn tx)

structure ConsolidationBody where
  destination_address : String
  options : Query := []
deriving DecidableEq

def utxoConsolidation (req : Req ConsolidationBody) : Async Unit :=
  lockedSend req fun u => do
    let tx ← buildAndSend req.wallet
      (.consolidateUtxosSendTransaction req.body.destination_address req.body.options) u
    return .consolidated tx.hash

structure CreateNftBody where
  name : String
  symbol : String
  amount : Nat
  data : String
  address : Option String := none
  change_address : Option String := none
  create_mint : Option Bool := none
  mint_authority_address : Option String := none
  allow_external_mint_authority_address : Option Bool := none
  create_melt : Option Bool := none
  melt_authority_address : Option String := none
  allow_external_melt_authority_address : Option Bool := none
deriving DecidableEq

def CreateNftBody.options (body : CreateNftBody) : CreateTokenOptions where
  address := truthy body.address
  changeAddress := truthy body.change_address
  createMint := some (body.create_mint.getD false)
  mintAuthorityAddress := truthy body.mint_authority_address
  allowExternalMintAuthorityAddress := some (body.allow_external_mint_authority_address.getD false)
  createMelt := some (body.create_melt.getD false)
  meltAuthorityAddress := truthy body.melt_authority_address
  allowExternalMeltAuthorityAddress := some (body.allow_external_melt_authority_address.getD false)

def createNft (req : Req CreateNftBody) : Async Unit :=
  lockedSend req fun u => do
    checkChangeAddress req.wallet req.body.options.changeAddress
    let tx ← buildAndSend req.wallet
      (.createNFTSendTransaction req.body.name req.body.symbol req.body.amount req.body.data
        req.body.options) u
    tokenReply tx

/-! ## `nano-contracts.controller.js` -/

structure NanoBody where
  blueprint_id : Option String := none
  nc_id : Option String := none
  method : String := ""
  address : String
  data : NanoData := {}
  create_token_options : Option String := none
  maxFee : Option Nat := none
  contractPaysFees : Option Bool := none
deriving DecidableEq

/-- The call that `executeNanoContractMethodHelper` makes. -/
def NanoBody.build (body : NanoBody) (isInitialize : Bool) : Build :=
  let method := if isInitialize then "initialize" else body.method
  let data :=
    if isInitialize then { body.data with blueprintId := body.blueprint_id }
    else { body.data with ncId := body.nc_id }
  match body.create_token_options with
  | some options =>
    .createNanoContractCreateTokenTransaction method body.address data options
      ⟨body.maxFee, body.contractPaysFees⟩
  | none => .createNanoContractTransaction method body.address data ⟨body.maxFee, body.contractPaysFees⟩

def executeNanoContractMethodHelper (req : Req NanoBody) (isInitialize : Bool) : Async Unit :=
  lockedSend req fun u => do
    let tx ← buildAndSend req.wallet (req.body.build isInitialize) u
    return .tx (mapTxReturn tx)

def createNanoContract (req : Req NanoBody) : Async Unit := executeNanoContractMethodHelper req true

def executeNanoContractMethod (req : Req NanoBody) : Async Unit := executeNanoContractMethodHelper req false

structure BlueprintBody where
  code : String
  address : String
deriving DecidableEq

def createOnChainBlueprint (req : Req BlueprintBody) : Async Unit :=
  lockedSend req fun u => do
    let tx ← buildAndSend req.wallet
      (.createOnChainBlueprintTransaction req.body.code req.body.address) u
    return .tx (mapTxReturn tx)

/-! ## `tx-template.controller.js` -/

structure TemplateBody where
  template : TxTemplate
  debug : Bool := false
  sign : Bool := false
deriving DecidableEq

def runTemplate (req : Req TemplateBody) : Async Unit :=
  validated req do
    match ← lockSendTx req.walletId with
    | none => sendError cantSendTxErrorMessage
    | some u =>
      Prog.andFinally (tryCatch (do
        (if req.body.debug then enableDebugMode req.wallet else pure ())
        let tx ← buildAndSend req.wallet (.buildTxTemplate req.body.template true) u
        send (.tx (mapTxReturn tx))) fun err => do
          unlock u
          sendError err.message)
        (disableDebugMode req.wallet)

def buildTemplate (req : Req TemplateBody) : Async Unit :=
  validated req do
    match ← lockSendTx req.walletId with
    | none => sendError cantSendTxErrorMessage
    | some u =>
      Prog.andFinally (tryCatch (do
        (if req.body.debug then enableDebugMode req.wallet else pure ())
        let sendTx ← buildTransaction req.wallet (.buildTxTemplate req.body.template req.body.sign)
        match sendTx.transaction with
        | none => throw (undefinedField "toHex")
        | some transaction => do
          let hex ← toHex transaction
          send (.txHex transaction hex)) fun err => sendError err.message) do
        unlock u
        disableDebugMode req.wallet

/-! ## `p2sh/tx-proposal.controller.js` -/

structure SignAndPushBody where
  txHex : String
  signatures : Option (List String) := none
deriving DecidableEq

def wrongSignatureCount (expected received : Nat) : JsError :=
  { message := s!"Quantity of signatures different than expected. Expected {expected} Received {received}" }

def assemblePartialTransaction (w : WalletRef) (txHex : String) (signatures : List String) :
    Async Transaction := do
  let multisigData ← getMultisigData w
  if signatures.length ≠ multisigData.numSignatures then
    throw (wrongSignatureCount multisigData.numSignatures signatures.length)
  else do
    let tx ← lib (.assemblePartialTransaction w txHex signatures)
    prepareToSend tx
    return tx

def p2shSignAndPush (req : Req SignAndPushBody) : Async Unit :=
  lockedSend req fun u => do
    let tx ← await (assemblePartialTransaction req.wallet req.body.txHex (req.body.signatures.getD []))
    let response ← await (runSendTransaction req.wallet { transaction := some tx } u)
    return .tx (mapTxReturn response)

/-! ## `atomic-swap/tx-proposal.controller.js` -/

structure SwapBody where
  partial_tx : String
  signatures : Option (List String) := none
deriving DecidableEq

def addAllSignatures : String → List String → Async String
  | inputData, [] => return inputData
  | inputData, sig :: sigs => do
    let inputData ← addSignatures inputData sig
    addAllSignatures inputData sigs

def assembleTransaction (w : WalletRef) (partialTx : String) (signatures : List String) :
    Async Transaction := do
  let proposal ← fromPartialTx w partialTx
  let tx ← getProposalTx proposal
  let dataToSign ← getDataToSign tx
  let inputData ← newPartialTxInputData dataToSign.toHex tx.inputs.length
  let inputData ← addAllSignatures inputData signatures
  if ← isComplete proposal inputData then prepareProposalTx proposal inputData
  else throw { message := "Transaction is not complete" }

def swapSignAndPush (req : Req SwapBody) : Async Unit :=
  lockedSend req fun u => do
    let transaction ← assembleTransaction req.wallet req.body.partial_tx (req.body.signatures.getD [])
    let response ← await (runSendTransaction req.wallet { transaction := some transaction } u)
    return .tx (mapTxReturn response)

/-- `unlockInputs` looks the lock up twice. -/
def unlockInputs (req : Req SwapBody) : Async Unit :=
  validated req do
    let walletLock ← getWalletLock req.walletId
    let canStart ← lockOn walletLock .SEND_TX
    if canStart then
      Prog.andFinally (tryCatch (do
        let tx ← deserializePartialTx req.wallet req.body.partial_tx
        markUtxosSelectedAsInput req.wallet false tx.utxos
        send .ok) fun err => sendError err.message) do
        let walletLock ← getWalletLock req.walletId
        unlockOn walletLock .SEND_TX
    else sendError "Cannot run this method while a transaction is being sent."

end WalletHeadless
