import WalletHeadless.Api.Reads
import WalletHeadless.Controllers.Start
import WalletHeadless.Controllers.Swaps

/-!
# `createApp`

A request goes through the layers of the application: the parsers of its body, the logger, the API key, the router, and
the error handlers. `patchExpressRouter` hands what the handler of a route throws to the error handlers; the two async
functions that are given to `use` are not wrapped, and a promise that they reject is handled by nobody.

* `WalletRoute`, `RootRoute`: the routes, with what the validation of their parameters found;
* `loggerMiddleware`, `apiKeyAuth`, `errorHandlers`;
* `HttpRequest`, `serve`: a request, and the way that it takes;
* `App`, `App.Run`: the requests in progress over the `api`.
-/

namespace WalletHeadless

open Coop Js

/-! ## Routes -/

/-- The parameters of a request, before the middleware adds its wallet. -/
structure Params (β : Type) where
  validationError : Option String := none
  body : β
deriving DecidableEq

/-- `req.wallet = wallet`, `req.walletId = walletId`. -/
def Params.at {β : Type} (params : Params β) (x : Injected) : Req β :=
  { walletId := x.walletId, wallet := x.wallet, validationError := params.validationError, body := params.body }

/-- The routes of `walletRouter`. -/
inductive WalletRoute
  -- `wallet.routes.js`
  | getStatus (params : Params Unit)
  | getBalance (params : Params (Option String))
  | getAddress (params : Params Reads.AddressQuery)
  | getAddressIndex (params : Params String)
  | getAddresses (params : Params Nat)
  | getAddressInfo (params : Params Reads.AddressInfoQuery)
  | getTxHistory (params : Params (Option Int))
  | getTransaction (params : Params String)
  | getTxConfirmationBlocks (params : Params String)
  | simpleSendTx (params : Params SimpleSendBody)
  | decodeTx (params : Params Reads.DecodeBody)
  | sendTx (params : Params SendTxBody)
  | createToken (params : Params CreateTokenBody)
  | mintTokens (params : Params AuthorityBody)
  | meltTokens (params : Params AuthorityBody)
  | utxoFilter (params : Params Query)
  | utxoConsolidation (params : Params ConsolidationBody)
  | createNft (params : Params CreateNftBody)
  | stop
  | utxosSelectedAsInput (params : Params SelectedBody)
  -- `atomic-swap`
  | swapBuildTxProposal (params : Params SwapProposalBody)
  | unlockInputs (params : Params SwapBody)
  | getLockedUTXOs (params : Params Nat)
  | fetchFromService (params : Params String)
  | swapGetMySignatures (params : Params String)
  | signTxProposal (params : Params SwapSignBody)
  | swapSignAndPush (params : Params SwapBody)
  | swapGetInputData (params : Params String)
  | listenedProposalList (params : Params Unit)
  | registerProposal (params : Params RegisterBody)
  | deleteListenedProposal (params : Params String)
  -- `p2sh`
  | buildTxProposal (params : Params TxProposalBody)
  | buildCreateTokenTxProposal (params : Params CreateTokenProposalBody)
  | buildMintTokensTxProposal (params : Params AuthorityProposalBody)
  | buildMeltTokensTxProposal (params : Params AuthorityProposalBody)
  | p2shGetMySignatures (params : Params String)
  | p2shSignTx (params : Params SignAndPushBody)
  | p2shSignAndPush (params : Params SignAndPushBody)
  -- `tx-proposal`
  | txBuildProposal (params : Params Reads.TxBuildBody)
  | addSignatures (params : Params Reads.AddSignaturesBody)
  | getWalletInputs (params : Params String)
  | getInputData (params : Params TxProposal.InputDataBody)
  -- `tx-template`
  | runTemplate (params : Params TemplateBody)
  | buildTemplate (params : Params TemplateBody)
  -- `config`
  | getLastLoadedAddressIndex (params : Params Unit)
  | indexLimitLoadMoreAddresses (params : Params Nat)
  | indexLimitSetEndIndex (params : Params Nat)
  -- `nano-contracts`
  | getState (params : Params NanoStateQuery)
  | getOracleData (params : Params String)
  | getOracleSignedResult (params : Params Reads.OracleQuery)
  | getHistory (params : Params NanoHistoryQuery)
  | createNanoContract (params : Params NanoBody)
  | executeNanoContractMethod (params : Params NanoBody)
  | createOnChainBlueprint (params : Params BlueprintBody)

/-- A promise that a handler neither returns nor awaits. -/
def unhandled (body : ApiAsync Unit) : ApiAsync Unit := tryCatch body fun e => Prog.ask (ApiOp.rejected e)

/-- The handler of the route, for the wallet that the middleware has found. -/
def WalletRoute.handle (L : TxProposalLib) (x : Injected) : WalletRoute → ApiAsync Unit
  | getStatus params => Reads.getStatus (params.at x)
  | getBalance params => Reads.getBalance (params.at x)
  | getAddress params => Reads.getAddress (params.at x)
  | getAddressIndex params => Reads.getAddressIndex (params.at x)
  | getAddresses params => Reads.getAddresses (params.at x)
  | getAddressInfo params => Reads.getAddressInfo (params.at x)
  | getTxHistory params => Reads.getTxHistory (params.at x)
  | getTransaction params => Reads.getTransaction (params.at x)
  | getTxConfirmationBlocks params => Reads.getTxConfirmationBlocks (params.at x)
  | simpleSendTx params => onApi (WalletHeadless.simpleSendTx (params.at x))
  | decodeTx params => Reads.decodeTx (params.at x)
  | sendTx params => onApi (WalletHeadless.sendTx (params.at x))
  | createToken params => onApi (WalletHeadless.createToken (params.at x))
  | mintTokens params => onApi (WalletHeadless.mintTokens (params.at x))
  | meltTokens params => onApi (WalletHeadless.meltTokens (params.at x))
  | utxoFilter params => Reads.utxoFilter (params.at x)
  | utxoConsolidation params => onApi (WalletHeadless.utxoConsolidation (params.at x))
  | createNft params => onApi (WalletHeadless.createNft (params.at x))
  | stop => onApi (WalletHeadless.stop x.walletId)
  | utxosSelectedAsInput params => onApi (WalletHeadless.utxosSelectedAsInput (params.at x))
  | swapBuildTxProposal params => onApi (WalletHeadless.swapBuildTxProposal (params.at x))
  | unlockInputs params => onApi (WalletHeadless.unlockInputs (params.at x))
  | getLockedUTXOs params => Reads.getLockedUTXOs (params.at x)
  | fetchFromService params => onApi (WalletHeadless.fetchFromService (params.at x))
  | swapGetMySignatures params => Reads.swapGetMySignatures (params.at x)
  | signTxProposal params => onApi (WalletHeadless.signTxProposal (params.at x))
  | swapSignAndPush params => onApi (WalletHeadless.swapSignAndPush (params.at x))
  | swapGetInputData params => Reads.swapGetInputData (params.at x)
  | listenedProposalList params => onApi (WalletHeadless.listenedProposalList (params.at x))
  | registerProposal params => onApi (WalletHeadless.registerProposal (params.at x))
  | deleteListenedProposal params => onApi (WalletHeadless.deleteListenedProposal (params.at x))
  | buildTxProposal params => onApi (WalletHeadless.buildTxProposal (params.at x))
  | buildCreateTokenTxProposal params => onApi (WalletHeadless.buildCreateTokenTxProposal (params.at x))
  | buildMintTokensTxProposal params => onApi (WalletHeadless.buildMintTokensTxProposal (params.at x))
  | buildMeltTokensTxProposal params => onApi (WalletHeadless.buildMeltTokensTxProposal (params.at x))
  | p2shGetMySignatures params => Reads.p2shGetMySignatures (params.at x)
  | p2shSignTx params => Reads.p2shSignTx (params.at x)
  | p2shSignAndPush params => onApi (WalletHeadless.p2shSignAndPush (params.at x))
  | txBuildProposal params => Reads.buildTxProposal (params.at x)
  | addSignatures params => Reads.addSignatures L (params.at x)
  | getWalletInputs params => Reads.getWalletInputs (params.at x)
  | getInputData params => Reads.getInputData L (params.at x)
  | runTemplate params => onApi (WalletHeadless.runTemplate (params.at x))
  | buildTemplate params => onApi (WalletHeadless.buildTemplate (params.at x))
  | getLastLoadedAddressIndex params => Reads.getLastLoadedAddressIndex (params.at x)
  | indexLimitLoadMoreAddresses params => Reads.indexLimitLoadMoreAddresses (params.at x)
  | indexLimitSetEndIndex params => Reads.indexLimitSetEndIndex (params.at x)
  | getState params => Reads.getState (params.at x)
  | getOracleData params => Reads.getOracleData (params.at x)
  | getOracleSignedResult params => Reads.getOracleSignedResult (params.at x)
  | getHistory params => Reads.getHistory (params.at x)
  -- the two handlers call their helper without awaiting it
  | createNanoContract params => unhandled (onApi (WalletHeadless.createNanoContract (params.at x)))
  | executeNanoContractMethod params => unhandled (onApi (WalletHeadless.executeNanoContractMethod (params.at x)))
  | createOnChainBlueprint params => onApi (WalletHeadless.createOnChainBlueprint (params.at x))

/-- The routes of `mainRouter`, `hsmRouter` and `fireblocksRouter`; `/health` is left out. -/
inductive RootRoute
  | welcome
  | docs
  | start (body : StartBody)
  | multisigPubkey (body : Reads.MultisigPubkeyBody)
  | pushTxHex (validationError : Option String) (txHex : String)
  | getConfigurationString (validationError : Option String) (token : String)
  | reloadConfig (rounds : Nat)
  | startHsmWallet (body : StartHsmBody)
  | startFireblocksWallet (body : StartFireblocksBody)

def RootRoute.handle : RootRoute → ApiAsync Unit
  | welcome => Reads.welcome
  | docs => Reads.docs
  | start body => onApi (WalletHeadless.start body)
  | multisigPubkey body => Reads.multisigPubkey body
  | pushTxHex validationError txHex => Reads.pushTxHex validationError txHex
  | getConfigurationString validationError token => Reads.configurationString validationError token
  | reloadConfig rounds => onApi (WalletHeadless.reloadConfig rounds)
  | startHsmWallet body => onApi (WalletHeadless.startHsmWallet body)
  | startFireblocksWallet body => onApi (WalletHeadless.startFireblocksWallet body)

/-- What the router finds for the method and the path of a request. -/
inductive Route
  | root (route : RootRoute)
  /-- A path below `/wallet`: the middleware runs before the router looks for a route. -/
  | wallet (path : String) (route : Option WalletRoute)
  | missing

structure HttpRequest where
  /-- The error of the parsers of the body. -/
  bodyError : Option JsError := none
  xApiKey : Option String := none
  xWalletId : Option String := none
  xFirstAddress : Option String := none
  bodyWalletId : Option String := none
  route : Route

/-! ## Layers -/

/-- `getLogger`: the logger of a wallet that has none is made of the configuration. -/
def getLogger (req : HttpRequest) : ApiAsync Unit :=
  match (truthy req.xWalletId).or (truthy req.bodyWalletId) with
  | none => pure ()
  | some walletId => do
    if ← Prog.ask (ApiOp.hasLogger walletId) then pure ()
    else do
      let _ ← onApi getConfig
      return

def NONRECOVERABLE_ERROR : String :=
  "A non recoverable change in the config was made, the service will shutdown."

def UNAVAILABLE_ERROR : String := "Service currently unavailable"

def READONLY_ERROR : String := "Attempted to call a write protected route from a readonly wallet."

/-- The handler of the application for all other errors; it reads the logger of the request. -/
def appErrorHandler (hasLogger : Bool) (err : JsError) : ApiAsync Unit :=
  if hasLogger then do
    let statusCode ← Prog.ask (ApiOp.statusCode err)
    answerStatus ((statusCode.filter (· ≠ 0)).getD 500) (.stack err.message)
  -- `req.logger` is undefined: Express answers the error of the handler
  else answerStatus 500 .final

/-- `ReadonlyErrorHandler`, and what comes after it. -/
def readonlyErrorHandler (hasLogger : Bool) (err : JsError) : ApiAsync Unit := do
  if ← Prog.ask (ApiOp.isInstance err .WalletFromXPubGuard) then answerStatus 403 (.error READONLY_ERROR)
  else appErrorHandler hasLogger err

/-- `ConfigErrorHandler`, and what comes after it. -/
def configErrorHandler (hasLogger : Bool) (err : JsError) : ApiAsync Unit :=
  if err.kind = .NonRecoverableConfigChangeError then do
    answerStatus 200 (.error NONRECOVERABLE_ERROR)
    Prog.ask ApiOp.exit
  else if err.kind = .UnavailableConfigError then answerStatus 503 (.error UNAVAILABLE_ERROR)
  else readonlyErrorHandler hasLogger err

/-- The error handlers: an answer to a request that has been answered throws, and Express closes its connection. -/
def errorHandlers (hasLogger : Bool) (err : JsError) : ApiAsync Unit := do
  if ← Prog.ask ApiOp.headersSent then return else configErrorHandler hasLogger err

/-- A handler of a route, as `patchExpressRouter` wraps it. -/
def wrapped (handler : ApiAsync Unit) : ApiAsync Unit := tryCatch handler (errorHandlers true)

/-- What Express answers when no route is found. -/
def unrouted : ApiAsync Unit := answerStatus 404 .final

/-- A program of the middleware with what follows its `next`. -/
def andThen {α : Type} (next : Injected → ApiAsync Unit) : GateAsync α → ApiAsync α
  | .ret a => .ret a
  | .throw e => .throw e
  | .op (.next x) k => .op (ApiOp.gate (.next x)) fun r => (next x).bind fun _ => andThen next (k r)
  | .op c k => .op (ApiOp.gate c) fun r => andThen next (k r)

def HttpRequest.gateReq (req : HttpRequest) (path : String) : GateReq :=
  { xWalletId := req.xWalletId, xFirstAddress := req.xFirstAddress, path := path }

/-- `walletRouter`: the middleware, and the route. -/
def walletRouter (L : TxProposalLib) (req : HttpRequest) (path : String) (route : Option WalletRoute) : ApiAsync Unit :=
  unhandled (andThen (fun x => route.elim unrouted fun route => wrapped (route.handle L x))
    (Middleware.walletMiddleware (req.gateReq path)))

def mainRouter (L : TxProposalLib) (req : HttpRequest) : ApiAsync Unit :=
  match req.route with
  | .root route => wrapped route.handle
  | .wallet path route => walletRouter L req path route
  | .missing => unrouted

/-- `apiKeyAuth`, when there is a key. -/
def apiKeyAuth (key : Option String) (req : HttpRequest) (next : ApiAsync Unit) : ApiAsync Unit :=
  match truthy key with
  | none => next
  | some key =>
    match truthy req.xApiKey with
    | none => answerStatus 401 (.auth "Missing X-API-KEY header.")
    | some userKey => if userKey ≠ key then answerStatus 401 (.auth "Wrong api key.") else next

/-- The way of a request through the application. -/
def serve (L : TxProposalLib) (key : Option String) (req : HttpRequest) : ApiAsync Unit :=
  match req.bodyError with
  | some err => errorHandlers false err
  | none => do
    match ← tryCatch (Except.ok <$> getLogger req) fun e => return .error e with
    | .error e => Prog.ask (ApiOp.rejected e)
    | .ok _ => apiKeyAuth key req (mainRouter L req)

/-- The requests in progress over what they share. -/
abbrev App := Sys ApiOp.Ans JsError Unit Api HttpRequest

abbrev AppStep := Label ApiOp.Ans HttpRequest GateEvent

/-- `S` is reached from the state `s₀` by steps that meet `ok`. -/
abbrev App.Run (L : TxProposalLib) (key : Option String) (ok : App → AppStep → Prop) (s₀ : Api) (S : App) : Prop :=
  Reach api (serve L key) ok ⟨s₀, []⟩ S

end WalletHeadless
