import WalletHeadless.Coop.Protocol
import WalletHeadless.Controllers.Sends
import WalletHeadless.Services.Asks

/-!
# What an automatic send does with its lock

The ghost state of a send whose inputs `wallet-lib` chooses: it takes the lock of its wallet id once,
builds and marks its transaction while it has not unlocked, and hands it to `runFromMining` in the same
turn in which it unlocks.

* `SendPhase`, `sendProtocol`: the phases and their order;
* `wp_lockedSend`, `wp_buildAndSend`: the handlers follow the protocol.
-/

namespace WalletHeadless

open Coop Js

/-- What a send that holds the lock has done. -/
inductive Stage
  | start
  | picking
  | prepared (tx : Transaction)
  | marking (tx : Transaction)
  | marked (tx : Transaction)

/-- The transaction whose inputs are all marked. -/
def Stage.ready : Stage → Option Transaction
  | .marked tx => some tx
  | _ => none

/-- The stage after a call that may have prepared a transaction. -/
def Stage.ofPrepared (tx : Option Transaction) : Stage := tx.elim .start .prepared

/-- Where a send is with its lock: once it has unlocked, `ready` is what it has yet to mine, and it is
`lost` when it has ended without unlocking. -/
inductive SendPhase
  | unborn
  | out
  | holding (u : UnlockFn) (stage : Stage)
  | released (u : UnlockFn) (ready : Option Transaction)
  | lost (u : UnlockFn)

namespace SendPhase

def MayUnlock (p : SendPhase) (u : UnlockFn) : Prop := (∃ stage, p = holding u stage) ∨ p = released u none

/-- The phase while a question is open. -/
def call : SendPhase → Op → SendPhase
  | holding u _, .wallet (.build _ _) => holding u .picking
  | holding u _, .wallet (.prepareTx _ _) => holding u .picking
  | holding u _, .wallet (.updateOutputSelected _ tx) => holding u (.marking tx)
  | released u _, .wallet (.runFromMining _ _) => released u none
  | p, _ => p

/-- The stage after the answer to `build`. -/
def built : Except JsError SendTransaction → Stage
  | .ok st => .ofPrepared st.transaction
  | .error _ => .start

def preparedBy : Except JsError Transaction → Stage
  | .ok tx => .prepared tx
  | .error _ => .start

def markedBy (tx : Transaction) : Except JsError Unit → Stage
  | .ok _ => .marked tx
  | .error _ => .start

/-- The phase of a send that has asked for the lock. -/
def locked : Option UnlockFn → SendPhase
  | some u => holding u .start
  | none => out

def next : SendPhase → (c : Op) → c.Ans → SendPhase
  | out, .lock (.lockSendTx _), r => locked r
  | holding u stage, .lock (.unlock _), _ => released u stage.ready
  | holding u _, .wallet (.build _ _), r => holding u (built r)
  | holding u _, .wallet (.prepareTx _ _), r => holding u (preparedBy r)
  | holding u _, .wallet (.updateOutputSelected _ tx), r => holding u (markedBy tx r)
  | p, _, _ => p

/-- The phase of a send that has ended. -/
def finish : SendPhase → SendPhase
  | holding u _ => lost u
  | p => p

/-- The send has not called its unlock function. -/
def Keeps (p : SendPhase) (u : UnlockFn) : Prop := (∃ stage, p = holding u stage) ∨ p = lost u

end SendPhase

theorem keeps_holding (u : UnlockFn) (st : Stage) : (SendPhase.holding u st).Keeps u := .inl ⟨st, rfl⟩

theorem keeps_of_holding {p : SendPhase} {u v : UnlockFn} {st : Stage} (hp : p = .holding u st)
    (hk : p.Keeps v) : v = u := by
  subst hp
  obtain ⟨st', he⟩ | he := hk <;> cases he
  rfl

theorem not_keeps_out {p : SendPhase} (hp : p = .out) (u : UnlockFn) : ¬ p.Keeps u := by
  subst hp
  rintro (⟨st, he⟩ | he) <;> cases he

theorem not_keeps_released {p : SendPhase} {v : UnlockFn} {t : Option Transaction}
    (hp : p = .released v t) (u : UnlockFn) : ¬ p.Keeps u := by
  subst hp
  rintro (⟨st, he⟩ | he) <;> cases he

/-- A send that waits has not unlocked with a transaction in its hands. -/
def SendPhase.Rests : SendPhase → Prop
  | released _ (some _) => False
  | _ => True

/-- A send to a wallet, and its phase. -/
structure SendGhost where
  walletId : String
  wallet : WalletRef
  phase : SendPhase

namespace SendGhost

def Allows (q : SendGhost) : Op → Prop
  | .lock (.lockSendTx walletId) => q.phase = .out ∧ walletId = q.walletId
  | .lock (.unlock u) => q.phase.MayUnlock u
  | .wallet (.build w b) => w = q.wallet ∧ b.inputs = [] ∧ ∃ u, q.phase = .holding u .start
  | .wallet (.prepareTx w st) => w = q.wallet ∧ st.inputs = [] ∧ ∃ u, q.phase = .holding u .start
  | .wallet (.updateOutputSelected w tx) => w = q.wallet ∧ ∃ u, q.phase = .holding u (.prepared tx)
  | .wallet (.runFromMining w tx) => w = q.wallet ∧ ∃ u, q.phase = .released u (some tx)
  | .send _ => True
  | c => q.phase.Rests ∧ QuietOp c

/-- A `SendTransaction` has the inputs that `build` was given. -/
def May (_ : SendGhost) : (c : Op) → c.Ans → Prop
  | .wallet (.build _ b), .ok st => st.inputs = b.inputs
  | _, _ => True

end SendGhost

def sendProtocol : Protocol Op.Ans SendGhost where
  allows := SendGhost.Allows
  call q c := { q with phase := q.phase.call c }
  may := SendGhost.May
  next q c r := { q with phase := q.phase.next c r }
  finish q := { q with phase := q.phase.finish }

def SendGhost.Rests (q : SendGhost) : Prop := q.phase.Rests

theorem sendProtocol_neutral {q : SendGhost} {c : Op} (h : QuietOp c) (hq : q.Rests := by trivial) :
    sendProtocol.Neutral q c := by
  obtain ⟨walletId, w, phase⟩ := q
  cases c with
  | wallet c => exact h.elim
  | send r => exact h.elim
  | hsm c => exact ⟨⟨hq, h⟩, fun r => by cases phase <;> rfl⟩
  | lib c => exact ⟨⟨hq, h⟩, fun r => by cases phase <;> rfl⟩
  | sleep ms => exact ⟨⟨hq, h⟩, fun r => by cases phase <;> rfl⟩
  | tick => exact ⟨⟨hq, h⟩, fun r => by cases phase <;> rfl⟩
  | registry c => exact ⟨⟨hq, h⟩, fun r => by cases phase <;> rfl⟩
  | settings c => exact h.elim
  | proposals c => exact h.elim
  | lock c =>
      cases c with
      | lockOn l ty => exact ⟨⟨hq, h⟩, fun r => by cases phase <;> rfl⟩
      | unlockOn l ty => exact ⟨⟨hq, h⟩, fun r => by cases phase <;> rfl⟩
      | _ => exact h.elim

theorem sendProtocol_call {q : SendGhost} {c : Op} (h : QuietOp c) : sendProtocol.call q c = q := by
  obtain ⟨walletId, w, phase⟩ := q
  cases c with
  | wallet c => exact h.elim
  | _ => cases phase <;> rfl

theorem wp_await {Q : Type} {P : Protocol Op.Ans Q} {α : Type} {p : Async α} {q : Q}
    {post : α → Q → Prop} {fail : JsError → Q → Prop}
    (h : P.wp p q (fun a q => P.Neutral q .tick ∧ post a q) (fun e q => P.Neutral q .tick ∧ fail e q)) :
    P.wp (await p) q post fail := by
  refine (wp_await_iff ..).mpr (Protocol.wp_mono _ h (fun a q' ha => ?_) fun e q' he => ?_)
  · refine ⟨ha.1.1, fun r _ => ?_⟩
    rw [ha.1.2 r]
    exact ha.2
  · refine ⟨he.1.1, fun r _ => ?_⟩
    rw [he.1.2 r]
    exact he.2

theorem wp_quiet {α : Type} {p : Async α} (hp : p.Uses QuietOp) {q : SendGhost}
    {post : α → SendGhost → Prop} {fail : JsError → SendGhost → Prop} (hpost : ∀ a, post a q)
    (hfail : ∀ e, fail e q) (hq : q.Rests := by trivial) : sendProtocol.wp p q post fail :=
  (hp.mono fun _ h => sendProtocol_neutral h hq).wp hpost hfail

theorem wp_send (reply : ReplyBody) (q : SendGhost) {post : Unit → SendGhost → Prop}
    {fail : JsError → SendGhost → Prop} (hpost : post () q) : sendProtocol.wp (send reply) q post fail := by
  refine ⟨trivial, fun r _ => ?_⟩
  obtain ⟨walletId, w, phase⟩ := q
  cases phase <;> exact hpost

/-! ## The steps of a send -/

section
variable {walletId : String} {w : WalletRef} {u : UnlockFn}

theorem wp_buildTransaction (b : Build) (hb : b.inputs = []) {post : SendTransaction → SendGhost → Prop}
    {fail : JsError → SendGhost → Prop}
    (hpost : ∀ st : SendTransaction, st.inputs = [] →
      post st ⟨walletId, w, .holding u (.ofPrepared st.transaction)⟩)
    (hfail : ∀ e stage, stage.ready = none → fail e ⟨walletId, w, .holding u stage⟩) :
    sendProtocol.wp (buildTransaction w b) ⟨walletId, w, .holding u .start⟩ post fail := by
  unfold buildTransaction buildWith
  rw [Protocol.wp_bind, Protocol.wp_attempt]
  refine ⟨⟨rfl, hb, u, rfl⟩, fun r hr => ⟨fun st hst => ?_, fun e he => ?_⟩⟩
  · subst hst
    have hin : st.inputs = [] := by rw [← hb]; exact hr
    have hp := hpost st hin
    cases ht : st.transaction with
    | none =>
        rw [ht] at hp
        simp only [sendProtocol, SendPhase.call, SendPhase.next, SendPhase.built, ht]
        exact hp
    | some tx =>
        rw [ht] at hp
        simp only [sendProtocol, SendPhase.call, SendPhase.next, SendPhase.built, ht]
        refine (Protocol.wp_bind ..).mpr ((Protocol.wp_ite ..).mpr ⟨fun _ => ?_, fun _ => ?_⟩)
        · exact wp_quiet ((signTx_uses w tx).mono fun _ => SigningOp.quiet) (fun _ => hp) fun e => hfail e _ rfl
        · exact hp
  · subst he
    exact hfail e _ rfl

theorem wp_preparedTx (st : SendTransaction) (hst : st.inputs = []) {post : Transaction → SendGhost → Prop}
    {fail : JsError → SendGhost → Prop}
    (hpost : ∀ tx, post tx ⟨walletId, w, .holding u (.prepared tx)⟩)
    (hfail : ∀ e stage, stage.ready = none → fail e ⟨walletId, w, .holding u stage⟩) :
    sendProtocol.wp (preparedTx w st) ⟨walletId, w, .holding u (.ofPrepared st.transaction)⟩ post fail := by
  unfold preparedTx
  cases st.transaction with
  | some tx => exact hpost tx
  | none =>
      unfold prepareTx prepareInputs
      rw [Protocol.wp_bind, Protocol.wp_attempt]
      refine ⟨⟨rfl, hst, u, rfl⟩, fun r _ => ⟨fun tx htx => ?_, fun e he => ?_⟩⟩
      · subst htx
        exact (Protocol.wp_bind ..).mpr
          (wp_quiet ((signTx_uses w tx).mono fun _ => SigningOp.quiet) (fun _ => hpost tx) fun e => hfail e _ rfl)
      · subst he
        exact hfail e _ rfl

theorem wp_runSendTransaction (st : SendTransaction) (hst : st.inputs = [])
    {post : Transaction → SendGhost → Prop} {fail : JsError → SendGhost → Prop}
    (hpost : ∀ tx, post tx ⟨walletId, w, .released u none⟩)
    (hfail : ∀ e, fail e ⟨walletId, w, .released u none⟩) :
    sendProtocol.wp (runSendTransaction w st u) ⟨walletId, w, .holding u (.ofPrepared st.transaction)⟩
      post fail := by
  have hunlock (e : JsError) (stage : Stage) (hs : stage.ready = none) :
      sendProtocol.wp (unlock u) ⟨walletId, w, .holding u stage⟩ (fun _ => fail e) fail := by
    refine ⟨.inl ⟨stage, rfl⟩, fun r _ => ?_⟩
    have := hfail e
    rw [← hs] at this
    exact this
  unfold runSendTransaction
  rw [Protocol.wp_bind, Protocol.wp_andFinally, Protocol.wp_bind]
  refine wp_preparedTx st hst (fun tx => ?_) hunlock
  rw [Protocol.wp_bind]
  unfold updateOutputSelected
  rw [Protocol.wp_attempt]
  refine ⟨⟨rfl, u, rfl⟩, fun r _ => ⟨fun a ha => ?_, fun e he => ?_⟩⟩
  · subst ha
    -- the unlock and the call of `runFromMining` are one turn
    refine ⟨.inl ⟨_, rfl⟩, fun r _ => ?_⟩
    refine (Protocol.wp_attempt ..).mpr ⟨⟨rfl, u, rfl⟩, fun r _ => ⟨fun tx' _ => hpost tx', fun e _ => hfail e⟩⟩
  · subst he
    exact hunlock e _ rfl

/-- A send that an error has stopped: it holds the lock with nothing marked, or it has unlocked. -/
def Stopped (walletId : String) (w : WalletRef) (u : UnlockFn) (q : SendGhost) : Prop :=
  (∃ stage, stage.ready = none ∧ q = ⟨walletId, w, .holding u stage⟩) ∨ q = ⟨walletId, w, .released u none⟩

theorem wp_buildAndSend (b : Build) (hb : b.inputs = []) :
    sendProtocol.wp (buildAndSend w b u) ⟨walletId, w, .holding u .start⟩
      (fun _ q => q = ⟨walletId, w, .released u none⟩) (fun _ => Stopped walletId w u) := by
  refine (Protocol.wp_bind ..).mpr ?_
  refine wp_buildTransaction b hb (fun st hst => ?_) fun e stage hs => .inl ⟨stage, hs, rfl⟩
  have htick : sendProtocol.Neutral ⟨walletId, w, .released u none⟩ .tick :=
    sendProtocol_neutral trivial
  exact wp_await (wp_runSendTransaction st hst (fun _ => ⟨htick, rfl⟩) fun _ => ⟨htick, .inr rfl⟩)

theorem wp_checkChangeAddress (w' : WalletRef) (a : Option String) {q : SendGhost}
    {post : Unit → SendGhost → Prop} {fail : JsError → SendGhost → Prop} (hpost : post () q)
    (hfail : ∀ e, fail e q) (hq : q.Rests := by trivial) : sendProtocol.wp (checkChangeAddress w' a) q post fail := by
  refine wp_quiet ?_ (fun _ => hpost) hfail hq
  unfold checkChangeAddress
  split
  · exact uses_pure _
  · exact uses_bind (lib_quiet _) fun _ => uses_ite (uses_pure _) (uses_throwThe _)

/-- Unlocking after an error. -/
theorem wp_unlock_stopped {q : SendGhost} (hq : Stopped walletId w u q) {post : Unit → SendGhost → Prop}
    {fail : JsError → SendGhost → Prop} (hpost : post () ⟨walletId, w, .released u none⟩) :
    sendProtocol.wp (unlock u) q post fail := by
  obtain ⟨stage, hs, rfl⟩ | rfl := hq
  · refine ⟨.inl ⟨stage, rfl⟩, fun r _ => ?_⟩
    rw [← hs] at hpost
    exact hpost
  · exact ⟨.inr rfl, fun r _ => hpost⟩

end

/-- The phase in which a handler that has asked for the lock goes on. -/
theorem wp_lockSendTx {walletId : String} {w : WalletRef} {k : Option UnlockFn → Async Unit}
    {post : Unit → SendGhost → Prop} {fail : JsError → SendGhost → Prop}
    (hbusy : sendProtocol.wp (k none) ⟨walletId, w, .out⟩ post fail)
    (hlock : ∀ u, sendProtocol.wp (k (some u)) ⟨walletId, w, .holding u .start⟩ post fail) :
    sendProtocol.wp (lockSendTx walletId >>= k) ⟨walletId, w, .out⟩ post fail := by
  refine (Protocol.wp_bind ..).mpr ⟨⟨rfl, rfl⟩, fun r _ => ?_⟩
  cases r with
  | none => exact hbusy
  | some u => exact hlock u

theorem wp_validated {β : Type} (req : Req β) {handler : Async Unit} {q : SendGhost}
    {post : Unit → SendGhost → Prop} {fail : JsError → SendGhost → Prop}
    (h : sendProtocol.wp handler q post fail) (hpost : post () q) :
    sendProtocol.wp (validated req handler) q post fail := by
  unfold validated
  split
  · refine ⟨trivial, fun r _ => ?_⟩
    obtain ⟨walletId, w, phase⟩ := q
    cases phase <;> exact hpost
  · exact h

theorem wp_lockedSend {β : Type} (req : Req β) {body : UnlockFn → Async ReplyBody}
    (hbody : ∀ u, sendProtocol.wp (body u) ⟨req.walletId, req.wallet, .holding u .start⟩
      (fun _ q => q = ⟨req.walletId, req.wallet, .released u none⟩)
      (fun _ => Stopped req.walletId req.wallet u)) :
    sendProtocol.wp (lockedSend req body) ⟨req.walletId, req.wallet, .out⟩ (fun _ => SendGhost.Rests)
      (fun _ => SendGhost.Rests) := by
  refine wp_validated req (wp_lockSendTx ?_ fun u => ?_) trivial
  · exact wp_send _ _ trivial
  · refine (Protocol.wp_tryCatch ..).mpr ((Protocol.wp_bind ..).mpr ?_)
    refine Protocol.wp_mono _ (hbody u) (fun reply q hq => ?_) fun e q hq => ?_
    · subst hq
      exact wp_send _ _ trivial
    · exact (Protocol.wp_bind ..).mpr (wp_unlock_stopped hq (wp_send _ _ trivial))

end WalletHeadless
