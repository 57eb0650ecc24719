import WalletHeadless.Controllers.Sends

/-!
# `p2sh/tx-proposal.controller.js`: the proposals

A proposal builds an unsigned transaction, marks its inputs when the request says so, and replies with
the transaction. No lock is taken.

* `buildTxProposal`, `buildCreateTokenTxProposal`, `buildMintTokensTxProposal`,
  `buildMeltTokensTxProposal`;
* `utxosSelectedAsInput` of `wallet.controller.js` marks, or unmarks, the inputs of a transaction.
-/

namespace WalletHeadless

open Coop Js

def DEFAULT_TX_VERSION : Nat := 1

/-- A call of `wallet-lib` that returns the prepared transaction. -/
def prepareData (w : WalletRef) (b : Build) : Async Transaction := do
  let sendTx ← buildWith w b
  match sendTx.transaction with
  | none => throw (undefinedField "inputs")
  | some tx => return tx

/-- `mark_inputs_as_used`. -/
def markIfUsed (w : WalletRef) (markAsUsed : Bool) (tx : Transaction) : Async Unit :=
  if markAsUsed then await (markUtxosSelectedAsInput w true tx.utxos) else pure ()

def sendTxHex (tx : Transaction) : Async Unit := do
  let hex ← toHex tx
  send (.txHex tx hex)

structure TxProposalBody where
  outputs : List OutputParam
  inputs : Option (List Utxo) := none
  change_address : Option String := none
  mark_inputs_as_used : Option Bool := none
deriving DecidableEq

/-- The rest of `buildTxProposal` once the change address is checked. -/
def buildTxProposalChecked (req : Req TxProposalBody) (changeAddress : Option String) : Async Unit := do
  let outputs := req.body.outputs.map fun o =>
    { o with token := some ((truthy o.token).getD NATIVE_TOKEN_UID) }
  tryCatch (do
    let txData ← prepareData req.wallet (.prepareTxData outputs (req.body.inputs.getD []) changeAddress)
    markIfUsed req.wallet (req.body.mark_inputs_as_used.getD false) txData
    let tx ← createTransactionFromData { txData with version := DEFAULT_TX_VERSION }
    sendTxHex tx) fun err => sendError err.message

def buildTxProposal (req : Req TxProposalBody) : Async Unit :=
  validated req do
    let changeAddress := truthy req.body.change_address
    let mine ← (match changeAddress with
      | none => pure true
      | some address => isAddressMine req.wallet address)
    if mine then buildTxProposalChecked req changeAddress
    else sendError "Change address does not belong to the loaded wallet."

structure CreateTokenProposalBody where
  name : String
  symbol : String
  amount : Nat
  address : Option String := none
  change_address : Option String := none
  create_mint : Option Bool := none
  mint_authority_address : Option String := none
  allow_external_mint_authority_address : Option Bool := none
  create_melt : Option Bool := none
  melt_authority_address : Option String := none
  allow_external_melt_authority_address : Option Bool := none
  mark_inputs_as_used : Option Bool := none
deriving DecidableEq

/-- `false || null`. -/
def truthyBool (b : Option Bool) : Option Bool := b.filter (· = true)

def CreateTokenProposalBody.options (body : CreateTokenProposalBody) : CreateTokenOptions where
  address := truthy body.address
  changeAddress := truthy body.change_address
  createMint := some (body.create_mint.getD true)
  mintAuthorityAddress := truthy body.mint_authority_address
  allowExternalMintAuthorityAddress := truthyBool body.allow_external_mint_authority_address
  createMelt := some (body.create_melt.getD true)
  meltAuthorityAddress := truthy body.melt_authority_address
  allowExternalMeltAuthorityAddress := truthyBool body.allow_external_melt_authority_address

def buildCreateTokenTxProposal (req : Req CreateTokenProposalBody) : Async Unit :=
  validated req do
    tryCatch (do
      let createTokenTransaction ← prepareData req.wallet
        (.prepareCreateNewToken req.body.name req.body.symbol req.body.amount req.body.options)
      markIfUsed req.wallet (req.body.mark_inputs_as_used.getD false) createTokenTransaction
      sendTxHex createTokenTransaction) fun err => sendError err.message

/-- The body of a mint or melt proposal: `address` is the `deposit_address` of a melt. -/
structure AuthorityProposalBody where
  token : String
  amount : Nat
  address : Option String := none
  change_address : Option String := none
  create_another : Option Bool := none
  authority_address : Option String := none
  allow_external_authority_address : Option Bool := none
  mark_inputs_as_used : Option Bool := none
deriving DecidableEq

def AuthorityProposalBody.options (body : AuthorityProposalBody) : AuthorityOptions where
  address := truthy body.address
  changeAddress := truthy body.change_address
  createAnother := some (body.create_another.getD true)
  authorityAddress := truthy body.authority_address
  allowExternalAuthorityAddress := truthyBool body.allow_external_authority_address

/-- What the proposals of a mint and of a melt do with the transaction that `b` builds. -/
def authorityTxProposal (req : Req AuthorityProposalBody) (b : Build) : Async Unit :=
  validated req do
    tryCatch (do
      checkChangeAddress req.wallet req.body.options.changeAddress
      let tx ← prepareData req.wallet b
      markIfUsed req.wallet (req.body.mark_inputs_as_used.getD false) tx
      sendTxHex tx) fun err => sendError err.message

def buildMintTokensTxProposal (req : Req AuthorityProposalBody) : Async Unit :=
  authorityTxProposal req (.prepareMintTokensData req.body.token req.body.amount req.body.options)

def buildMeltTokensTxProposal (req : Req AuthorityProposalBody) : Async Unit :=
  authorityTxProposal req (.prepareMeltTokensData req.body.token req.body.amount req.body.options)

structure SelectedBody where
  txHex : String
  mark_as_used : Option Bool := none
  ttl : Option Nat := none
deriving DecidableEq

def utxosSelectedAsInput (req : Req SelectedBody) : Async Unit :=
  validated req do
    let markAsUsed := req.body.mark_as_used.getD true
    tryCatch (do
      let tx ← createTxFromHex req.wallet req.body.txHex
      await (markUtxosSelectedAsInput req.wallet markAsUsed tx.utxos req.body.ttl)
      send .ok) fun err => sendError err.message

end WalletHeadless
