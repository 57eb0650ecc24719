import WalletHeadless.Controllers.Sends
import WalletHeadless.Services.AtomicSwap

/-!
# The handlers of atomic swaps that the service takes part in

`atomic-swap/tx-proposal.controller.js`, without the handlers that send.
-/

namespace WalletHeadless

open Coop Js

/-- Iterating over `undefined`. -/
def notIterable (name : String) : JsError := { kind := .TypeError, message := s!"{name} is not iterable" }

def notRegistered : String := "Proposal is not registered. Register it first."

def notRegisteredFetch : String :=
  "Proposal is not registered. Register it first through [POST] /register/:proposalId"

/-! ## `buildTxProposal` -/

structure SwapTokens (α : Type) where
  tokens : Option (List α) := some []
  utxos : Option (List Utxo) := none
deriving DecidableEq

structure ServiceParams where
  is_new : Bool := false
  proposal_id : Option String := none
  password : Option String := none
  version : Option Nat := none
deriving DecidableEq

structure SwapProposalBody where
  send : SwapTokens TokenToSend := {}
  receive : SwapTokens TokenToReceive := {}
  change_address : Option String := none
  partial_tx : Option String := none
  lock : Option Bool := none
  service : ServiceParams := {}
deriving DecidableEq

/-- The authorities of an output: `TOKEN_MINT_MASK` and `TOKEN_MELT_MASK`. -/
def authoritiesOf (txout : TxOut) : Nat := (if txout.isMint then 1 else 0) + if txout.isMelt then 2 else 0

/-- The chosen utxos that can be used, as the proposal wants them. -/
def offeredUtxos (w : WalletRef) : List Utxo → Async (List OfferedUtxo)
  | [] => return []
  | utxo :: utxos => do
    match ← getTx w utxo.txId with
    -- the utxo is not in the history
    | none => offeredUtxos w utxos
    | some outputs =>
      if ← canUseUtxo w utxo then
        match outputs[utxo.index]? with
        | none => throw (undefinedField "decoded")
        | some txout => do
          let addressIndex ← getAddressIndex w txout.address
          let addressPath ← (match addressIndex.filter (· ≠ 0) with
            | some index => getAddressPathForIndex w index
            | none => pure "")
          let rest ← offeredUtxos w utxos
          return ⟨utxo.txId, utxo.index, txout.value, txout.address, txout.timelock, txout.token,
            authoritiesOf txout, addressPath⟩ :: rest
      else offeredUtxos w utxos

/-- The utxos that a request chooses. -/
def chosenUtxos (w : WalletRef) (utxos : Option (List Utxo)) : Async (List OfferedUtxo) :=
  match utxos.getD [] with
  | [] => return []
  | utxos => do
    match ← offeredUtxos w utxos with
    | [] => throw { message := "Could not use any of the utxos." }
    | offered => return offered

def addSends (w : WalletRef) (proposal : String) (utxos : List OfferedUtxo) (changeAddress : Option String)
    (markAsSelected : Bool) : List TokenToSend → Async Unit
  | [] => return
  | send :: sends => do
    addSend w proposal ((truthy send.token).getD NATIVE_TOKEN_UID) send.value utxos changeAddress markAsSelected
    addSends w proposal utxos changeAddress markAsSelected sends

def addReceives (proposal : String) : List TokenToReceive → Async Unit
  | [] => return
  | receive :: receives => do
    addReceive proposal ((truthy receive.token).getD NATIVE_TOKEN_UID) receive.value
      (receive.timelock.filter (· ≠ 0)) (truthy receive.address)
    addReceives proposal receives

/-- A proposal that is listened to is updated: false when it is not registered. -/
def updateProposal (walletId proposalId : String) (params : String → Async SwapUpdate) : Async Bool := do
  let listenedProposals ← await (getListenedProposals walletId)
  match ← listenedProposal listenedProposals proposalId with
  | none => return false
  | some requestedProposal => do
    let updateParams ← params requestedProposal.password
    await (serviceUpdate updateParams)
    return true

/-- What the service is told of a proposal: none when it is not registered, else the id of a new one. -/
def tellService (walletId proposal : String) (serviceParams : ServiceParams) :
    Async (Option (Option String)) := do
  if ← featureToggle then
    if serviceParams.is_new then do
      let partialTx ← serialize proposal
      let proposalId ← await (serviceCreate walletId partialTx serviceParams.password)
      return some (some proposalId)
    else match truthy serviceParams.proposal_id with
      | none => return some none
      | some proposalId => do
        let updated ← updateProposal walletId proposalId fun password => do
          let partialTx ← serialize proposal
          return { proposalId := proposalId, password := password, partialTx := partialTx, version := serviceParams.version }
        return if updated then some none else none
  else return some none

/-- `buildTxProposal` once it has its proposal and its utxos. -/
def completeProposal (req : Req SwapProposalBody) (proposal : String) (utxos : List OfferedUtxo)
    (sends : List TokenToSend) : Async Unit :=
  tryCatch (do
    addSends req.wallet proposal utxos (truthy req.body.change_address) (req.body.lock.getD true) sends
    (match req.body.receive.tokens with
      | none => throw (notIterable "receiveTokens.tokens")
      | some receives => addReceives proposal receives)
    match ← tellService req.walletId proposal req.body.service with
    | none => sendStatus 404 (.error notRegistered)
    | some createdProposalId => do
      let data ← serialize proposal
      let isComplete ← partialTxComplete proposal
      send (.swap data isComplete createdProposalId)) fun err => sendError err.message

/-- Whether a request has no operation: reading the length of tokens that are missing throws. -/
def noOperation (body : SwapProposalBody) (sends : List TokenToSend) : Except JsError Bool :=
  if sends.isEmpty then
    match body.receive.tokens with
    | none => .error (undefinedField "length")
    | some receives => .ok receives.isEmpty
  else .ok false

def swapBuildTxProposal (req : Req SwapProposalBody) : Async Unit :=
  validated req do
    match req.body.send.tokens with
    | none => throw (undefinedField "length")
    | some sends => do
      if ← Prog.orThrow (noOperation req.body sends) then
        sendStatus 400 (.error "Should have at least one operation")
      else do
        match ← tryCatch (Except.ok <$> (match truthy req.body.partial_tx with
            | some partialTx => fromPartialTx req.wallet partialTx
            | none => newPartialTxProposal req.wallet)) fun e => return .error e with
        | .error e => sendError e.message
        | .ok proposal => do
          match ← tryCatch (Except.ok <$> chosenUtxos req.wallet req.body.send.utxos) fun e =>
            return .error e with
          | .error err => sendStatus 400 (.error err.message)
          | .ok utxos => completeProposal req proposal utxos sends

/-! ## `signTx` -/

structure SwapSignBody where
  partial_tx : String
  signatures : Option (List String) := none
  proposal_id : Option String := none
  version : Option Nat := none
deriving DecidableEq

/-- The end of `signTx`, once the transaction is there. -/
def replyHex (tx : Transaction) : Async Unit := do
  let hex ← toHex tx
  send (.swapTx hex)

def signTxProposal (req : Req SwapSignBody) : Async Unit :=
  validated req do
    tryCatch (do
      let tx ← assembleTransaction req.wallet req.body.partial_tx (req.body.signatures.getD [])
      let toggle ← featureToggle
      match (truthy req.body.proposal_id).filter fun _ => toggle with
      | none => replyHex tx
      | some proposalId => do
        let updated ← updateProposal req.walletId proposalId fun password => return {
          proposalId := proposalId, password := password, partialTx := req.body.partial_tx,
          version := req.body.version, signatures := tx.signatures }
        if updated then replyHex tx else sendStatus 404 (.error notRegistered)) fun err =>
      sendError err.message

/-! ## The proposals that a wallet listens to -/

def fetchFromService (req : Req String) : Async Unit := do
  if ← featureToggle then do
    let listenedProposals ← await (getListenedProposals req.walletId)
    match ← listenedProposal listenedProposals req.body with
    | none => sendStatus 404 (.error notRegisteredFetch)
    | some requestedProposal =>
      tryCatch (do
        let serviceProposal ← await (serviceGet req.body (some requestedProposal.password))
        send (.swapProposal serviceProposal)) fun err =>
        if err.isAxiosError then
          match err.responseStatus with
          -- the error has no response: `err.response.status` throws in turn
          | none => throw (undefinedField "status")
          | some status =>
            if status = 404 then do
              await (removeListenedProposal req.walletId req.body)
              sendStatus 404 (.error err.message)
            else sendError err.message
        else sendError err.message
  else sendStatus 405 (.error "Method not allowed")

def listenedProposalList (req : Req Unit) : Async Unit := do
  match ← await (getListenedProposals req.walletId) with
  | none => send (.swapProposals [])
  | some m => do
    let list ← proposalIds m
    send (.swapProposals list)

structure RegisterBody where
  proposalId : String
  password : Option String := none
deriving DecidableEq

def registerProposal (req : Req RegisterBody) : Async Unit := do
  let proposalMap ← await (getListenedProposals req.walletId)
  match ← listenedProposal proposalMap req.body.proposalId with
  | some existingProposal =>
    if some existingProposal.password ≠ req.body.password then sendError "Incorrect password"
    else send .ok
  | none =>
    tryCatch (do
      let proposal ← await (serviceGet req.body.proposalId req.body.password)
      match truthy req.body.password with
      | none => throw (undefinedField "password")
      | some password => do
        await (addListenedProposal req.walletId proposal.proposalId password)
        send .ok) fun err => sendError err.message

def deleteListenedProposal (req : Req String) : Async Unit :=
  tryCatch (do
    await (removeListenedProposal req.walletId req.body)
    send .ok) fun e => sendError e.message

end WalletHeadless
