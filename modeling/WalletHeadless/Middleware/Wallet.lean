import WalletHeadless.Server.Requests

/-!
# `wallet.middleware.js`, in the service

The middleware runs among the handlers and asks for the same maps. When the first address has to be confirmed it
awaits it, after it has found the wallet and before it looks at the state of the wallet.

* `GateReq`, `walletMiddleware`;
* `Gate`, `gateway`: what the middleware and the handlers share, with the states of the wallets;
* `Gateway`, `Gateway.Run`: requests of both kinds over the `gateway`.
-/

namespace WalletHeadless

open Coop Js Function

/-- The states of a `HathorWallet`. -/
inductive WalletState
  | CLOSED
  | CONNECTING
  | SYNCING
  | READY
  | ERROR
  | PROCESSING
deriving DecidableEq

/-- The numbers that stand for the states. -/
def WalletState.code : WalletState → Nat
  | CLOSED => 0
  | CONNECTING => 1
  | SYNCING => 2
  | READY => 3
  | ERROR => 4
  | PROCESSING => 5

/-- The headers and the path of a request. -/
structure GateReq where
  xWalletId : Option String := none
  xFirstAddress : Option String := none
  path : String
deriving DecidableEq

/-- `/^\/stop\/?$/.test(req.path)`. -/
def GateReq.isStop (req : GateReq) : Bool := req.path = "/stop" ∨ req.path = "/stop/"

/-- The wallet is ready, or in error and the request is to stop it. -/
def GateReq.Passes (req : GateReq) (state : WalletState) : Prop :=
  state = .READY ∨ req.isStop = true ∧ state = .ERROR

instance (req : GateReq) (state : WalletState) : Decidable (req.Passes state) :=
  inferInstanceAs (Decidable (_ ∨ _))

/-- What the middleware adds to the request. -/
structure Injected where
  wallet : WalletRef
  walletId : String
  hsmKeyName : Option String
deriving DecidableEq

/-- The body of an error reply. -/
structure GateError where
  message : String
  statusCode : Option Nat
  statusMessage : Option String
deriving DecidableEq

/-- How the registry and the wallet stand when `next` is called. -/
structure Standing where
  registered : Option WalletRef
  state : WalletState
deriving DecidableEq

/-! ## The middleware -/

/-- The calls of the middleware, besides those of the handlers. -/
inductive GateOp
  | server (c : Op)
  | getAddressAtIndex (wallet : WalletRef) (index : Nat)
  | state (wallet : WalletRef)
  | hsmKeyName (walletId : String)
  | sendError (body : GateError)
  | next (injected : Injected)
deriving DecidableEq

/-- The answer to `next` is how things stand then; the middleware does not look at it. -/
@[reducible] def GateOp.Ans : GateOp → Type
  | server c => c.Ans
  | getAddressAtIndex .. => Except JsError String
  | state _ => WalletState
  | hsmKeyName _ => Option String
  | sendError _ => Unit
  | next _ => Standing

abbrev GateAsync (α : Type) := Prog GateOp.Ans JsError α

/-- A program of the handlers. -/
def onServer {α : Type} : Async α → GateAsync α
  | .ret a => .ret a
  | .throw e => .throw e
  | .op c k => .op (GateOp.server c) fun r => onServer (k r)

namespace Middleware

def getAddressAtIndex (wallet : WalletRef) (index : Nat) : GateAsync String :=
  Prog.attempt (Prog.ask (GateOp.getAddressAtIndex wallet index))

/-- `friendlyWalletState` is the module of the constants, which has no number among its keys. -/
def sendError (message : String) (state : Option WalletState) : GateAsync Unit :=
  Prog.ask (GateOp.sendError
    { message := message
      statusCode := state.map WalletState.code
      statusMessage := if state.elim 0 WalletState.code ≠ 0 then none else some "" })

/-- The key of the wallet id, when it is registered and has one. -/
def isHsmWallet (walletId : String) : GateAsync (Option String) := do
  match ← onServer (getWallet walletId) with
  | none => return none
  | some _ => do
    let hsmKeyName ← Prog.ask (GateOp.hsmKeyName walletId)
    return truthy hsmKeyName

/-- The checks on the state of the wallet, and what follows them. -/
def checkState (req : GateReq) (walletId : String) (wallet : WalletRef) : GateAsync Unit := do
  let state ← Prog.ask (GateOp.state wallet)
  if req.Passes state then
    let hsmKeyName ← isHsmWallet walletId
    let _ ← Prog.ask (GateOp.next ⟨wallet, walletId, hsmKeyName⟩)
    return
  else if req.isStop then
    sendError "Wallet needs to be ready or unrecoverable to be stopped." (some state)
  else sendError "Wallet is not ready." (some state)

def walletMiddleware (req : GateReq) : GateAsync Unit := do
  let config ← onServer getConfig
  match req.xWalletId with
  | none => sendError "Header \x27X-Wallet-Id\x27 is required." none
  | some walletId => do
    match ← onServer (getWallet walletId) with
    | none => sendError "Invalid wallet id parameter." none
    | some wallet =>
      if config.confirmFirstAddress then do
        let firstAddress ← getAddressAtIndex wallet 0
        if req.xFirstAddress = some firstAddress then checkState req walletId wallet
        else sendError s!"Wrong first address. This wallet\x27s first address is: {firstAddress}" none
      else checkState req walletId wallet

end Middleware

/-! ## The service -/

/-- A request as it comes to the middleware, or one that a handler serves. -/
inductive GateRequest
  | gate (req : GateReq)
  | handler (req : Request)
deriving DecidableEq

def GateRequest.handle : GateRequest → GateAsync Unit
  | gate req => Middleware.walletMiddleware req
  | handler req => onServer req.handle

/-- What the handlers share, and the states of the wallets. -/
structure Gate where
  server : Server := {}
  states : WalletRef → WalletState := fun _ => .CLOSED

/-- What the outside does to the handlers, and the wallets that change their state. -/
inductive GateEvent
  | outside (e : Outside)
  | changed (wallet : WalletRef) (state : WalletState)
deriving DecidableEq

namespace Gate

/-- How the registry and the wallet stand. -/
def standing (s : Gate) (x : Injected) : Standing :=
  ⟨s.server.initializedWallets.get x.walletId, s.states x.wallet⟩

def callOf (i : Nat) (c : GateOp) (s : Gate) : Gate :=
  match c with
  | .server c => { s with server := s.server.callOf i c }
  | _ => s

def performOp (i : Nat) (c : GateOp) (r : c.Ans) (s : Gate) : Option (c.Ans × Gate) :=
  match c, r with
  | .server c, r => (s.server.performOp i c r).map fun (r, server) => (r, { s with server := server })
  | .getAddressAtIndex .., r => some (r, s)
  | .state wallet, _ => some (s.states wallet, s)
  | .hsmKeyName walletId, _ => some (s.server.hsmWalletIds.get walletId, s)
  | .sendError _, _ => some ((), s)
  | .next x, _ => some (s.standing x, s)

def ext (e : GateEvent) (s : Gate) : Option Gate :=
  match e with
  | .outside e => (s.server.outside e).map fun server => { s with server := server }
  | .changed wallet state => some { s with states := update s.states wallet state }

end Gate

def GateOp.waits : GateOp → Bool
  | server c => c.waits
  | getAddressAtIndex .. => true
  | _ => false

def gateway : World GateOp.Ans Gate GateEvent where
  waits := GateOp.waits
  call := Gate.callOf
  perform := Gate.performOp
  ext := Gate.ext

/-- The middleware and the handlers in progress. -/
abbrev Gateway := Sys GateOp.Ans JsError Unit Gate GateRequest

abbrev GateStep := Label GateOp.Ans GateRequest GateEvent

/-- `S` is reached from the state `s₀` by steps that meet `ok`. -/
abbrev Gateway.Run (ok : Gateway → GateStep → Prop) (s₀ : Gate) (S : Gateway) : Prop :=
  Reach gateway GateRequest.handle ok ⟨s₀, []⟩ S

end WalletHeadless
