import WalletHeadless.Controllers.Decode
import WalletHeadless.Controllers.TxProposal
import WalletHeadless.Funds.Filters
import WalletHeadless.Funds.History
import WalletHeadless.Middleware.Wallet

/-!
# What the whole API asks

The handlers that take part in the service are programs over the calls of `Op`, and the middleware over those of
`GateOp`. The other handlers read: they ask a wallet, the full node or the libraries, and reply.

* `ReadCall`: the calls of the readers;
* `Answer`: what a reader, a middleware or an error handler replies;
* `ApiOp`, `ApiAsync`, `onApi`: the calls of all of them;
* `Api`, `api`: what all of them share.
-/

namespace WalletHeadless

open Coop Js Function

inductive WalletType
  | P2PKH
  | MULTISIG
deriving DecidableEq

/-- The balance of a token. -/
structure Balance where
  unlocked : Nat
  locked : Nat
deriving DecidableEq

/-- What `transactionUtils.getTxBalance` says of a token. -/
structure TokenBalance where
  tokens : Balance
  melt : Balance
  mint : Balance
deriving DecidableEq

/-- What the full node says of a transaction: `first_block_height` is missing or null without a block. -/
structure TxData where
  success : Bool
  first_block_height : Option Nat := none
deriving DecidableEq

/-- What the full node says of a token. -/
structure TokenInfo where
  success : Bool
  name : String := ""
  symbol : String := ""
deriving DecidableEq

/-- The parameters of `ncApi.getNanoContractState`. -/
structure NanoStateQuery where
  id : String
  fields : List String := []
  balances : List String := []
  calls : List String := []
  block_hash : Option String := none
  block_height : Option Nat := none
deriving DecidableEq

/-- The parameters of `ncApi.getNanoContractHistory`. -/
structure NanoHistoryQuery where
  id : String
  count : Option Nat := none
  after : Option String := none
  before : Option String := none
deriving DecidableEq

/-- A result that an oracle signs: bytes, or a value that is not serialized yet. -/
inductive OracleResult
  | raw (result : String)
  | bytes (result : Buffer)
deriving DecidableEq

/-- The errors of `wallet-lib` that have a class of their own. -/
inductive LibError
  | AddressError
  | WalletFromXPubGuard
deriving DecidableEq

def friendlyWalletState : WalletState → String
  | .CLOSED => "Closed"
  | .CONNECTING => "Connecting"
  | .SYNCING => "Syncing"
  | .READY => "Ready"
  | .ERROR => "Error"
  | .PROCESSING => "Processing"

/-! ## The calls of the readers -/

inductive ReadCall
  | getNetwork (wallet : WalletRef)
  | getServerUrl (wallet : WalletRef)
  | storageVersion (wallet : WalletRef)
  | getWalletType (wallet : WalletRef)
  | getBalance (wallet : WalletRef) (token : String)
  | getCurrentAddress (wallet : WalletRef) (markAsUsed : Bool)
  | getAddressInfo (wallet : WalletRef) (address : String) (token : Option String)
  | getAllAddresses (wallet : WalletRef)
  /-- The next address of the iterator that has given `n` of them. -/
  | nextAddress (wallet : WalletRef) (n : Nat)
  | getFullHistory (wallet : WalletRef)
  | getTx (wallet : WalletRef) (id : String)
  | getTransaction (id : String)
  | getFeatures
  | createTxFromHex (wallet : WalletRef) (txHex : String)
  | deserialize (wallet : WalletRef) (partialTx : Option String)
  | validate (partialTx : String)
  | getPartialTx (partialTx : String)
  | findTx (wallet : WalletRef) (id : String)
  | getFullTxById (wallet : WalletRef) (id : String)
  | getTxBalance (wallet : WalletRef) (tx : Decode.DecodedTx)
  | getLastLoadedAddressIndex (wallet : WalletRef)
  | indexLimitSetEndIndex (wallet : WalletRef) (index : Nat)
  | indexLimitLoadMore (wallet : WalletRef) (count : Nat)
  | getNanoContractState (params : NanoStateQuery)
  | getNanoContractHistory (params : NanoHistoryQuery)
  | getOracleBuffer (oracle : String) (wallet : WalletRef)
  | getOracleSignedDataFromUser (oracleData : Buffer) (contractId type : String) (result : OracleResult)
      (wallet : WalletRef)
  | getWalletInputInfo (wallet : WalletRef) (tx : Transaction)
  | getAccessData (wallet : WalletRef)
  | getAllSignatures (wallet : WalletRef) (txHex : String)
  /-- The answer is the signatures of the proposal, with those of the wallet. -/
  | signData (proposal : String)
  | addData (inputData : String) (index : Nat) (data : Buffer)
  | serializeInputData (inputData : String)
  /-- The next utxo of the iterator over the utxos that are selected as input, when it has given `n` of them. -/
  | nextSelected (wallet : WalletRef) (n : Nat)
  | getApiDocs
  | getMultiSigXPubFromWords (seed : Seed) (network : String) (passphrase : Option String)
  | getGeneralTokenInfo (token : String)
  /-- `helpersUtils.createTxFromHex` without a wallet, on a network. -/
  | createTxOn (network txHex : String)
  /-- Whether a transaction has a weight. -/
  | weighted (tx : Transaction)
  /-- `sendTransaction.runFromMining()` without a wallet. -/
  | mine (tx : Transaction)
deriving DecidableEq

namespace ReadCall

@[reducible] def Result : ReadCall → Type
  | getWalletType _ => WalletType
  | getBalance .. => List Balance
  | nextAddress .. => Option String
  | getFullHistory _ => History
  | getTx .. => Option String
  | getTransaction _ => TxData
  | getFeatures => Nat
  | createTxFromHex .. => Decode.Tx
  | validate _ => Bool
  | getPartialTx _ => Decode.Tx
  | findTx .. => Option Decode.FoundTx
  | getFullTxById .. => Decode.FullTx
  | getTxBalance .. => List (String × TokenBalance)
  | getLastLoadedAddressIndex _ => Nat
  | getOracleBuffer .. => Buffer
  | getWalletInputInfo .. => List String
  | getAccessData _ => TxProposal.AccessData
  | nextSelected .. => Option Utxo
  | getGeneralTokenInfo _ => TokenInfo
  | createTxOn .. => Transaction
  | weighted _ => Bool
  | mine _ => Transaction
  | getAllAddresses _ | indexLimitSetEndIndex .. | indexLimitLoadMore .. => Unit
  | _ => String

/-- Whether the call returns a promise, or calls back. -/
def waits : ReadCall → Bool
  | getNetwork _ | getServerUrl _ | storageVersion _ | createTxFromHex .. | deserialize ..
  | getPartialTx _ | getOracleBuffer .. | addData .. | serializeInputData _ | getApiDocs
  | getMultiSigXPubFromWords .. | createTxOn .. | weighted _ => false
  | _ => true

end ReadCall

/-! ## Answers -/

/-- The outputs of a transaction that are selected as input. -/
structure LockedTx where
  tx_id : String
  outputs : List Nat
deriving DecidableEq

inductive AnswerBody
  | html
  | docs (docs : String)
  | status (state : WalletState) (statusMessage network serverUrl serverInfo : String) (multisig : Option (Nat × Nat))
  | balance (available locked : Nat)
  | address (address : String)
  | addressIndex (index : Option Nat)
  | addressInfo (info : String)
  | addresses (addresses : List String)
  | history (txs : List HistoryTx)
  | transaction (tx : String)
  | confirmations (confirmationNumber : Int)
  | decoded (tx : Decode.DecodedTx) (balance : List (String × TokenBalance))
  | utxos (utxos : UtxosDetails)
  | index (index : Nat)
  | ok
  | state (state : String)
  | ncHistory (history : String)
  | oracleData (oracleData : String)
  | signedResult (signedResult : String)
  | proposal (tx : Transaction) (txHex dataToSignHash : String)
  | txProposal (reply : TxProposalReply)
  | inputs (inputs : List String)
  | signatures (signatures : String)
  | txHex (txHex : String)
  | lockedUtxos (locked_utxos : List LockedTx)
  | xpubkey (xpubkey : String)
  | configurationString (configurationString : String)
  | pushed (tx : Transaction)
  | error (error : String)
  | errorToken (error token : String)
  | message (message : String)
  | invalid (error : String)
  | auth (message : String)
  /-- What the last error handler shows of an error. -/
  | stack (message : String)
  /-- What Express answers by itself. -/
  | final
deriving DecidableEq

/-- `res.status(status).send(body)`. -/
structure Answer where
  status : Nat := 200
  body : AnswerBody
deriving DecidableEq

/-! ## The calls of the API -/

inductive ApiOp
  | gate (c : GateOp)
  | read (c : ReadCall)
  | answer (a : Answer)
  /-- `error instanceof class`. -/
  | isInstance (error : JsError) (cls : LibError)
  /-- `error.statusCode`. -/
  | statusCode (error : JsError)
  /-- Whether `walletLoggers` has the wallet id. -/
  | hasLogger (walletId : String)
  /-- Whether the request has been answered: a second answer throws. -/
  | headersSent
  /-- A promise that nobody handles is rejected. -/
  | rejected (error : JsError)
  /-- `process.exit(0)`. -/
  | exit
deriving DecidableEq

@[reducible] def ApiOp.Ans : ApiOp → Type
  | gate c => c.Ans
  | read c => Except JsError c.Result
  | isInstance .. | hasLogger _ | headersSent => Bool
  | statusCode _ => Option Nat
  | _ => Unit

abbrev ApiAsync (α : Type) := Prog ApiOp.Ans JsError α

/-- A program of the middleware. -/
def onGate {α : Type} : GateAsync α → ApiAsync α
  | .ret a => .ret a
  | .throw e => .throw e
  | .op c k => .op (ApiOp.gate c) fun r => onGate (k r)

/-- A program of the handlers. -/
def onApi {α : Type} (p : Async α) : ApiAsync α := onGate (onServer p)

def consult (c : ReadCall) : ApiAsync c.Result := Prog.attempt (Prog.ask (ApiOp.read c))

def answer (body : AnswerBody) : ApiAsync Unit := Prog.ask (ApiOp.answer { body := body })

def answerStatus (status : Nat) (body : AnswerBody) : ApiAsync Unit := Prog.ask (ApiOp.answer ⟨status, body⟩)

def ApiOp.waits : ApiOp → Bool
  | gate c => c.waits
  | read c => c.waits
  | _ => false

/-- Whether the call answers the request. -/
def ApiOp.answers : ApiOp → Bool
  | answer _ | gate (.sendError _) | gate (.server (.send _)) => true
  | _ => false

/-! ## The service -/

/-- What the service shares, and the flows whose requests have been answered. -/
structure Api where
  gate : Gate := {}
  answered : Nat → Bool := fun _ => false

namespace Api

def callOf (i : Nat) (c : ApiOp) (s : Api) : Api :=
  match c with
  | .gate c => { s with gate := s.gate.callOf i c }
  | _ => s

/-- The answer of a call, and what it does but for answering the request. -/
def performCall (i : Nat) (c : ApiOp) (r : c.Ans) (s : Api) : Option (c.Ans × Gate) :=
  match c, r with
  | .gate c, r => s.gate.performOp i c r
  | .hasLogger walletId, _ => some (s.gate.server.walletLoggers.has walletId, s.gate)
  | .headersSent, _ => some (s.answered i, s.gate)
  | .read _, r => some (r, s.gate)
  | .isInstance .., r => some (r, s.gate)
  | .statusCode _, r => some (r, s.gate)
  | .answer _, _ | .rejected _, _ | .exit, _ => some ((), s.gate)

def performOp (i : Nat) (c : ApiOp) (r : c.Ans) (s : Api) : Option (c.Ans × Api) :=
  (s.performCall i c r).map fun (r, gate) => (r, ⟨gate, if c.answers then update s.answered i true else s.answered⟩)

def ext (e : GateEvent) (s : Api) : Option Api := (s.gate.ext e).map fun gate => { s with gate := gate }

end Api

def api : World ApiOp.Ans Api GateEvent where
  waits := ApiOp.waits
  call := Api.callOf
  perform := Api.performOp
  ext := Api.ext

end WalletHeadless
