import WalletHeadless.Coop.Ghost
import WalletHeadless.Types

/-!
# `notification.service.js`, and the pipe to the child process

Each event that a subscribed wallet emits runs a handler. Two of them await the balance of a transaction before they
emit on the bus, the others emit at once.

* `WalletEvent`, `Notification`: the events of a wallet and of its connection, and what is made of them;
* `Subscribed.handle`: the handlers of `subscribeHathorWallet`;
* `bus`, `Bus`: the handlers in progress, and what has been emitted;
* `pipe`, `handleMessage`, `childEmits`: what the main process sends to the child process, and what the child emits.
-/

namespace WalletHeadless

open Coop

variable {D B : Type}

def EVENTBUS_EVENT_NAME : String := "message"

/-- What a wallet emits, and its connection: `D` are the transactions and the data of the node. -/
inductive WalletEvent (D : Type)
  | state (state : Int)
  | newTx (tx : D)
  | updateTx (tx : D)
  | connState (state : Int)
  | walletUpdate (wsData : D)
  | bestBlockUpdate (wsData : D)
  | walletLoadPartialUpdate (wsData : D)
deriving DecidableEq

/-- The data of a notification: a state, or what came with the event. -/
inductive EventData (D : Type)
  | state (state : Int)
  | data (data : D)
deriving DecidableEq

namespace WalletEvent

/-- `WalletEventMap` and `ConnectionEventMap`. -/
def type : WalletEvent D → String
  | state _ => "wallet:state-change"
  | newTx _ => "wallet:new-tx"
  | updateTx _ => "wallet:update-tx"
  | connState _ => "node:state-change"
  | walletUpdate _ => "node:wallet-update"
  | bestBlockUpdate _ => "node:best-block-update"
  | walletLoadPartialUpdate _ => "wallet:load-partial-update"

def data : WalletEvent D → EventData D
  | state n | connState n => .state n
  | newTx data | updateTx data | walletUpdate data | bestBlockUpdate data | walletLoadPartialUpdate data => .data data

def stateName : WalletEvent D → Option String
  | state 0 => some "Closed"
  | state 1 => some "Connecting"
  | state 2 => some "Syncing"
  | state 3 => some "Ready"
  | state 4 => some "Error"
  | _ => none

/-- The transaction whose balance the handler awaits. -/
def tx : WalletEvent D → Option D
  | newTx tx | updateTx tx => some tx
  | _ => none

/-- No type is the name of the messages. -/
theorem type_ne (e : WalletEvent D) : e.type ≠ EVENTBUS_EVENT_NAME := by
  cases e <;> simp [type, EVENTBUS_EVENT_NAME]

theorem type_ne_empty (e : WalletEvent D) : e.type ≠ "" := by cases e <;> simp [type]

end WalletEvent

structure Notification (D B : Type) where
  type : String
  walletId : String
  data : EventData D
  stateName : Option String := none
  balance : Option B := none
deriving DecidableEq

/-- An event of a wallet that is subscribed under its id. -/
structure Subscribed (D : Type) where
  wallet : WalletRef
  walletId : String
  event : WalletEvent D
deriving DecidableEq

def Subscribed.notification (s : Subscribed D) (balance : Option B) : Notification D B where
  type := s.event.type
  walletId := s.walletId
  data := s.event.data
  stateName := s.event.stateName
  balance := balance

/-! ## The handlers -/

/-- `getTxBalance` of `wallet-lib`, and `emit` of the bus. -/
inductive BusOp (D B : Type)
  | getTxBalance (wallet : WalletRef) (tx : D)
  | emit (name : String) (data : Notification D B)

@[reducible] def BusOp.Ans : BusOp D B → Type
  | getTxBalance .. => Except JsError B
  | emit .. => Unit

/-- The typed notification and the message. -/
def notify (data : Notification D B) : Prog (BusOp.Ans (D := D) (B := B)) JsError Unit := do
  Prog.ask (BusOp.emit data.type data)
  Prog.ask (BusOp.emit EVENTBUS_EVENT_NAME data)

/-- The handlers of `subscribeHathorWallet`. -/
def Subscribed.handle (s : Subscribed D) : Prog (BusOp.Ans (D := D) (B := B)) JsError Unit :=
  match s.event.tx with
  | none => notify (s.notification none)
  | some tx => do
    let balance ← Prog.attempt (Prog.ask (BusOp.getTxBalance s.wallet tx))
    notify (s.notification (some balance))

/-! ## The bus -/

/-- An emission, with the flow of its event. -/
structure Emission (D B : Type) where
  flow : Nat
  name : String
  data : Notification D B
deriving DecidableEq

/-- The balances may come at any time and may fail; nothing else happens outside. -/
def bus (D B : Type) : World (BusOp.Ans (D := D) (B := B)) (List (Emission D B)) Empty where
  waits
    | .getTxBalance .. => true
    | .emit .. => false
  call _ _ s := s
  perform i c r s :=
    match c, r with
    | .getTxBalance .., r => some (r, s)
    | .emit name data, _ => some ((), s ++ [⟨i, name, data⟩])
  ext e _ := e.elim

/-- The handlers in the order of their events, and the emissions in their order. -/
abbrev Bus (D B : Type) := Sys (BusOp.Ans (D := D) (B := B)) JsError Unit (List (Emission D B)) (Subscribed D)

abbrev BusStep (D B : Type) := Label (BusOp.Ans (D := D) (B := B)) (Subscribed D) Empty

/-- `S` is reached by steps that meet `ok` from a bus on which nothing was emitted. -/
abbrev Bus.Run (ok : Bus D B → BusStep D B → Prop) (S : Bus D B) : Prop :=
  Reach (bus D B) Subscribed.handle ok ⟨[], []⟩ S

/-- The wallet that has emitted the event of flow `i`. -/
def Bus.wallet (S : Bus D B) (i : Nat) : Option WalletRef := S.procs[i]?.map fun p => p.req.wallet

/-- The messages of a wallet, in the order in which they were emitted. -/
def Bus.messages (S : Bus D B) (wallet : WalletRef) : List (Emission D B) :=
  S.state.filter fun e => e.name = EVENTBUS_EVENT_NAME ∧ S.wallet e.flow = some wallet

/-! ## The child process -/

/-- What the main process sends to the child for its emissions. -/
def pipe (stringify : Notification D B → String) (emissions : List (Emission D B)) : List String :=
  (emissions.filter fun e => e.name = EVENTBUS_EVENT_NAME).map fun e => stringify e.data

/-- `handleMessage`: what the child emits for a message. -/
def handleMessage (parse : String → Option (Notification D B)) (serializedData : String) :
    List (String × Notification D B) :=
  match parse serializedData with
  | none => []
  | some data => (EVENTBUS_EVENT_NAME, data) :: if data.type = "" then [] else [(data.type, data)]

/-- What the child emits, when it is sent the messages in their order. -/
def childEmits (stringify : Notification D B → String) (parse : String → Option (Notification D B))
    (emissions : List (Emission D B)) : List (String × Notification D B) :=
  (pipe stringify emissions).flatMap (handleMessage parse)

end WalletHeadless
