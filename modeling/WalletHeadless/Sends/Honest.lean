import WalletHeadless.Coop.Ghost
import WalletHeadless.Server.Footprint
import WalletHeadless.Server.Frame
import WalletHeadless.Server.Requests

/-!
# What a send tells its client

A request that sends hands one transaction to the miners at most, after it has marked its inputs, and what it replies
says what came of it.

* `minedIn`, `InputsMarked`, `Unconfigured`: what a log says of the transaction;
* `Truthful`: what a reply may say after a log;
* `honesty`: the ghost state of a request; `wp_lockedSend_honest`, …: the handlers follow the protocol;
* `SentInv`: the transactions that have been handed to the miners are those of the ghost states;
* `Service.sends_honest`: in every run.
-/

namespace WalletHeadless

open Coop Js Function
open Prog (uses_ask)

/-! ## Logs -/

/-- A transaction that was handed to the miners, and what came of it. -/
structure Attempt where
  wallet : WalletRef
  tx : Transaction
  result : Except JsError Transaction

def mining : Event Op.Ans → Option Attempt
  | ⟨.wallet (.runFromMining w tx), r⟩ => some ⟨w, tx, r⟩
  | _ => none

def minedIn (log : Log) : List Attempt := log.filterMap mining

/-- The inputs of the transaction have been marked. -/
def InputsMarked (log : Log) (w : WalletRef) (tx : Transaction) : Prop :=
  ⟨.wallet (.updateOutputSelected w tx), .ok ()⟩ ∈ log

/-- The configuration string of a token could not be made. -/
def Unconfigured (log : Log) : Prop :=
  ∃ hash name symbol e, ⟨.lib (.getConfigurationString hash name symbol), .error e⟩ ∈ log

def Replied (log : Log) : Prop := ∃ reply, ⟨.send reply, ()⟩ ∈ log

/-- The body shows the transaction. -/
def ReplyBody.Shows (tx : Transaction) : ReplyBody → Prop
  | .tx t | .token _ t => t = mapTxReturn tx
  | .consolidated txId => txId = tx.hash
  | _ => False

/-- A success shows a transaction that was mined. A failure says that nothing was mined, unless the configuration string
of the token that was created could not be made. -/
def Truthful (log : Log) (body : ReplyBody) : Prop :=
  (body.success = true → ∃ a ∈ minedIn log, ∃ tx, a.result = .ok tx ∧ body.Shows tx) ∧
    (body.success = false → ∀ a ∈ minedIn log, (∃ e, a.result = .error e) ∨ Unconfigured log)

theorem mem_minedIn {log : Log} {a : Attempt} :
    a ∈ minedIn log ↔ ⟨.wallet (.runFromMining a.wallet a.tx), a.result⟩ ∈ log := by
  constructor
  · intro h
    obtain ⟨e, he, hm⟩ := List.mem_filterMap.mp h
    unfold mining at hm
    split at hm
    · cases hm
      exact he
    · cases hm
  · exact fun h => List.mem_filterMap.mpr ⟨_, h, rfl⟩

theorem minedIn_snoc (log : Log) (e : Event Op.Ans) : minedIn (log ++ [e]) = minedIn log ++ (mining e).toList := by
  rw [minedIn, List.filterMap_append, minedIn]
  cases h : mining e <;> simp [h]

/-- The calls that are neither a mining nor a reply. -/
def WaryOp : Op → Prop
  | .wallet (.runFromMining ..) | .send _ => False
  | _ => True

theorem WaryOp.mining {c : Op} (h : WaryOp c) (r : c.Ans) : mining ⟨c, r⟩ = none := by
  cases c with
  | wallet c =>
      cases c with
      | runFromMining w tx => exact h.elim
      | _ => rfl
  | send reply => exact h.elim
  | _ => rfl

theorem QuietOp.wary {c : Op} (h : QuietOp c) : WaryOp c := by
  cases c with
  | wallet c => exact h.elim
  | send reply => exact h.elim
  | _ => trivial

theorem Unconfigured.mono {log log' : Log} (h : Unconfigured log) (hsub : ∀ e ∈ log, e ∈ log') : Unconfigured log' := by
  obtain ⟨hash, name, symbol, e, he⟩ := h
  exact ⟨hash, name, symbol, e, hsub _ he⟩

theorem Truthful.snoc {log : Log} {body : ReplyBody} (h : Truthful log body) {e : Event Op.Ans}
    (he : mining e = none) : Truthful (log ++ [e]) body := by
  have hsame : minedIn (log ++ [e]) = minedIn log := by rw [minedIn_snoc, he, Option.toList_none, List.append_nil]
  refine ⟨fun hs => hsame ▸ h.1 hs, fun hs a ha => ?_⟩
  exact (h.2 hs a (hsame ▸ ha)).imp_right fun hu => hu.mono fun _ => List.mem_append_left _

theorem replied_snoc {log : Log} {e : Event Op.Ans} (he : WaryOp e.1) : Replied (log ++ [e]) ↔ Replied log := by
  constructor
  · rintro ⟨reply, h⟩
    rcases List.mem_append.mp h with h | h
    · exact ⟨reply, h⟩
    · rw [← List.mem_singleton.mp h] at he
      exact he.elim
  · rintro ⟨reply, h⟩
    exact ⟨reply, List.mem_append_left _ h⟩

/-! ## The protocol -/

/-- Whether the request is a send, what it has asked, and the transaction that the miners have. -/
structure SendTrace where
  sends : Bool
  log : Log := []
  pending : Option (WalletRef × Transaction) := none

namespace SendTrace

def snoc (q : SendTrace) (e : Event Op.Ans) : SendTrace := { q with log := q.log ++ [e], pending := none }

def Allows (q : SendTrace) : Op → Prop
  | .wallet (.runFromMining w tx) => minedIn q.log = [] ∧ ¬ Replied q.log ∧ InputsMarked q.log w tx
  | .send reply => q.sends = true → Truthful q.log reply.body
  | _ => True

def call (q : SendTrace) : Op → SendTrace
  | .wallet (.runFromMining w tx) => { q with pending := some (w, tx) }
  | _ => q

/-- What flow `i` has handed to the miners. -/
def sent (i : Nat) (q : SendTrace) : List Mined :=
  (minedIn q.log).map (fun a => ⟨i, a.wallet, a.tx⟩) ++ (q.pending.map fun x => ⟨i, x.1, x.2⟩).toList

/-- Nothing is pending, nothing has been replied, and this is what has been mined. -/
structure Held (attempts : List Attempt) (q : SendTrace) : Prop where
  pending : q.pending = none
  mined : minedIn q.log = attempts
  silent : ¬ Replied q.log

theorem call_of_wary {c : Op} (h : WaryOp c) (q : SendTrace) : q.call c = q := by
  cases c with
  | wallet c =>
      cases c with
      | runFromMining w tx => exact h.elim
      | _ => rfl
  | _ => rfl

theorem log_call (q : SendTrace) (c : Op) : (q.call c).log = q.log := by
  unfold call
  split <;> rfl

theorem sends_call (q : SendTrace) (c : Op) : (q.call c).sends = q.sends := by
  unfold call
  split <;> rfl

theorem Allows.of_wary {c : Op} (h : WaryOp c) (q : SendTrace) : q.Allows c := by
  cases c with
  | wallet c =>
      cases c with
      | runFromMining w tx => exact h.elim
      | _ => trivial
  | send reply => exact h.elim
  | _ => trivial

theorem Held.snoc {attempts : List Attempt} {q : SendTrace} (h : Held attempts q) {e : Event Op.Ans} (he : WaryOp e.1) :
    Held attempts (q.snoc e) where
  pending := rfl
  mined := by
    show minedIn (q.log ++ [e]) = attempts
    rw [minedIn_snoc, he.mining e.2, h.mined, Option.toList_none, List.append_nil]
  silent := fun hr => h.silent ((replied_snoc he).mp hr)

end SendTrace

open SendTrace (Held)

/-- A request asks for one mining, of what it has marked, and tells the truth. -/
def honesty : Protocol Op.Ans SendTrace where
  allows q c := q.pending = none ∧ q.Allows c
  call := SendTrace.call
  next q c r := q.snoc ⟨c, r⟩

section
variable {α : Type} {q : SendTrace} {attempts : List Attempt}

theorem wp_wary {p : Async α} (hp : p.Uses WaryOp) (h : Held attempts q) :
    honesty.wp p q (fun _ => Held attempts) fun _ => Held attempts := by
  refine Prog.Uses.wp_inv (P := honesty) hp (fun q c hc hq => ⟨⟨hq.pending, .of_wary hc q⟩, fun r => ?_⟩) h
  show Held attempts ((q.call c).snoc ⟨c, r⟩)
  rw [SendTrace.call_of_wary hc]
  exact hq.snoc hc

/-- `await` lets others go on, and keeps what asking nothing keeps. -/
theorem wp_await_honest {p : Async α} {post : α → SendTrace → Prop} {fail : JsError → SendTrace → Prop}
    (hpost : ∀ a q, post a q → q.pending = none ∧ post a (q.snoc ⟨.tick, ()⟩))
    (hfail : ∀ e q, fail e q → q.pending = none ∧ fail e (q.snoc ⟨.tick, ()⟩)) (h : honesty.wp p q post fail) :
    honesty.wp (await p) q post fail := by
  unfold await
  refine (Protocol.wp_bind ..).mpr ((Protocol.wp_tryCatch ..).mpr (Protocol.wp_mono _ h (fun a q ha => ?_) fun e q he => ?_))
  · exact ⟨⟨(hpost a q ha).1, trivial⟩, fun r _ => (hpost a q ha).2⟩
  · exact ⟨⟨(hfail e q he).1, trivial⟩, fun r _ => (hfail e q he).2⟩

theorem wary_lib (c : LibCall) : (lib c).Uses WaryOp := quiet_lib (fun _ => QuietOp.wary) c

/-! ## Sending -/

/-- A transaction has been mined, and this is the answer. -/
def Sent (tx : Transaction) (q : SendTrace) : Prop := ∃ a : Attempt, a.result = .ok tx ∧ Held [a] q

/-- Nothing has been mined, or it has failed. -/
def Unsent (q : SendTrace) : Prop := Held [] q ∨ ∃ (a : Attempt) (e : JsError), a.result = .error e ∧ Held [a] q

theorem Sent.snoc {tx : Transaction} (h : Sent tx q) {e : Event Op.Ans} (he : WaryOp e.1) : Sent tx (q.snoc e) := by
  obtain ⟨a, ha, hq⟩ := h
  exact ⟨a, ha, hq.snoc he⟩

theorem Sent.pending {tx : Transaction} (h : Sent tx q) : q.pending = none := by
  obtain ⟨a, -, hq⟩ := h
  exact hq.pending

theorem Unsent.snoc (h : Unsent q) {e : Event Op.Ans} (he : WaryOp e.1) : Unsent (q.snoc e) := by
  rcases h with hq | ⟨a, err, ha, hq⟩
  · exact .inl (hq.snoc he)
  · exact .inr ⟨a, err, ha, hq.snoc he⟩

theorem Unsent.pending (h : Unsent q) : q.pending = none := by
  rcases h with hq | ⟨a, err, -, hq⟩
  · exact hq.pending
  · exact hq.pending

/-- A call whose error is thrown. -/
theorem wp_call {c : WalletCall} {post : c.Result → SendTrace → Prop} {fail : JsError → SendTrace → Prop}
    (hc : q.pending = none ∧ q.Allows (.wallet c)) (hok : ∀ a, post a ((q.call (.wallet c)).snoc ⟨.wallet c, .ok a⟩))
    (herror : ∀ e, fail e ((q.call (.wallet c)).snoc ⟨.wallet c, .error e⟩)) :
    honesty.wp (Prog.attempt (ask (.wallet c))) q post fail := by
  refine (Protocol.wp_attempt ..).mpr ⟨hc, fun r _ => ?_⟩
  cases r with
  | ok a =>
      refine ⟨fun a' ha => ?_, fun e he => by cases he⟩
      cases ha
      exact hok a
  | error e =>
      refine ⟨fun a' ha => (by cases ha), fun e' he => ?_⟩
      cases he
      exact herror e

theorem preparedTx_wary (w : WalletRef) (sendTx : SendTransaction) : (preparedTx w sendTx).Uses WaryOp := by
  unfold preparedTx
  split
  · exact uses_pure _
  · exact uses_bind (call_uses trivial) fun tx =>
      uses_bind (quiet_signing (fun _ => QuietOp.wary) (signTx_uses w tx)) fun _ => uses_pure _

theorem wp_mine {w : WalletRef} {tx : Transaction} (h : Held [] q) (hm : InputsMarked q.log w tx) :
    honesty.wp (runFromMining w tx) q Sent fun _ => Unsent := by
  have hnext (r : Except JsError Transaction) :
      Held [⟨w, tx, r⟩] ((q.call (.wallet (.runFromMining w tx))).snoc ⟨.wallet (.runFromMining w tx), r⟩) := by
    refine ⟨rfl, ?_, ?_⟩
    · show minedIn (q.log ++ [_]) = _
      rw [minedIn_snoc, h.mined]
      rfl
    · rintro ⟨reply, hr⟩
      rcases List.mem_append.mp hr with hr | hr
      · exact h.silent ⟨reply, hr⟩
      · cases List.mem_singleton.mp hr
  exact wp_call ⟨h.pending, h.mined, h.silent, hm⟩ (fun tx' => ⟨_, rfl, hnext (.ok tx')⟩)
    fun e => .inr ⟨_, e, rfl, hnext (.error e)⟩

theorem wp_runSendTransaction_honest (w : WalletRef) (sendTx : SendTransaction) (u : UnlockFn) (h : Held [] q) :
    honesty.wp (await (runSendTransaction w sendTx u)) q Sent fun _ => Unsent := by
  refine wp_await_honest (fun tx q hq => ⟨hq.pending, hq.snoc trivial⟩) (fun e q hq => ⟨hq.pending, hq.snoc trivial⟩) ?_
  have hunlock (post : SendTrace → Prop) {q : SendTrace} (hq : Held [] q) (hpost : post (q.snoc ⟨.lock (.unlock u), ()⟩)) :
      honesty.wp (unlock u) q (fun _ => post) fun _ _ => False := ⟨⟨hq.pending, trivial⟩, fun _ _ => hpost⟩
  refine (Protocol.wp_bind ..).mpr ((Protocol.wp_andFinally ..).mpr ?_)
  have hmark : honesty.wp (do
      let tx ← preparedTx w sendTx
      updateOutputSelected w tx
      return tx) q (fun tx q => Held [] q ∧ InputsMarked q.log w tx) fun _ => Held [] := by
    refine (Protocol.wp_bind ..).mpr (Protocol.wp_mono _ (wp_wary (preparedTx_wary w sendTx) h) (fun tx q hq => ?_)
      fun _ _ hq => hq)
    refine (Protocol.wp_bind ..).mpr (wp_call ⟨hq.pending, trivial⟩ (fun _ => ?_) fun e => hq.snoc trivial)
    exact ⟨hq.snoc trivial, List.mem_append_right _ (List.mem_singleton_self _)⟩
  refine Protocol.wp_mono _ hmark (fun tx q hq => ?_) fun e q hq => ?_
  · refine Protocol.wp_mono _ (hunlock (fun q => Held [] q ∧ InputsMarked q.log w tx) hq.1 ?_) (fun _ q hq => ?_)
      fun _ _ hq => hq.elim
    · exact ⟨hq.1.snoc trivial, List.mem_append_left _ hq.2⟩
    · exact wp_mine hq.1 hq.2
  · exact Protocol.wp_mono _ (hunlock Unsent hq (.inl (hq.snoc trivial))) (fun _ _ hq => hq) fun _ _ hq => hq.elim

theorem wp_buildAndSend_honest (w : WalletRef) (b : Build) (u : UnlockFn) (h : Held [] q) :
    honesty.wp (buildAndSend w b u) q Sent fun _ => Unsent := by
  have hbuild : (buildTransaction w b).Uses WaryOp := buildTransaction_quiet (fun _ => QuietOp.wary) w b trivial
  refine (Protocol.wp_bind ..).mpr (Protocol.wp_mono _ (wp_wary hbuild h) (fun sendTx q hq => ?_) fun _ _ hq => .inl hq)
  exact wp_runSendTransaction_honest w sendTx u hq

/-! ## Handlers -/

/-- What has been asked allows the reply. -/
structure MayReply (body : ReplyBody) (q : SendTrace) : Prop where
  pending : q.pending = none
  truthful : q.sends = true → Truthful q.log body

theorem Unsent.mayReply (h : Unsent q) {body : ReplyBody} (hbody : body.success = false) : MayReply body q where
  pending := h.pending
  truthful _ := by
    refine ⟨fun hs => by simp [hbody] at hs, fun _ a ha => ?_⟩
    rcases h with hq | ⟨b, e, hb, hq⟩
    · rw [hq.mined] at ha
      cases ha
    · rw [hq.mined] at ha
      obtain rfl := List.mem_singleton.mp ha
      exact .inl ⟨e, hb⟩

theorem Sent.mayReply {tx : Transaction} (h : Sent tx q) {body : ReplyBody} (hbody : body.Shows tx) : MayReply body q where
  pending := h.pending
  truthful _ := by
    obtain ⟨a, ha, hq⟩ := h
    refine ⟨fun _ => ⟨a, by simp [hq.mined], tx, ha, hbody⟩, fun hs => ?_⟩
    cases body <;> first | exact hbody.elim | cases hs

theorem MayReply.snoc {body : ReplyBody} (h : MayReply body q) {e : Event Op.Ans} (he : WaryOp e.1) :
    MayReply body (q.snoc e) := ⟨rfl, fun hs => (h.truthful hs).snoc (he.mining e.2)⟩

theorem wp_send_honest {status : Nat} {body : ReplyBody} (h : MayReply body q) :
    honesty.wp (sendStatus status body) q (fun _ q => q.pending = none) fun _ _ => False :=
  ⟨⟨h.pending, h.truthful⟩, fun _ _ => rfl⟩

/-- The reply of an error, after the lock has been given back. -/
theorem wp_unlock_error (u : UnlockFn) (message : String) (h : ∀ body, body.success = false → MayReply body q) :
    honesty.wp (do
      unlock u
      sendError message) q (fun _ q => q.pending = none) fun _ _ => False :=
  ⟨⟨(h (.error message) rfl).pending, trivial⟩, fun _ _ =>
    wp_send_honest ((h (.error message) rfl).snoc (e := ⟨.lock (.unlock u), ()⟩) trivial)⟩

/-- Nothing has been asked. -/
theorem held_start (sends : Bool) : Held [] { sends := sends } := ⟨rfl, rfl, fun ⟨_, h⟩ => by cases h⟩

theorem wp_validated_honest {β : Type} (req : Req β) {handler : Async Unit} (h : Held [] q)
    (hh : honesty.wp handler q (fun _ q => q.pending = none) fun _ q => q.pending = none) :
    honesty.wp (validated req handler) q (fun _ q => q.pending = none) fun _ q => q.pending = none := by
  unfold validated
  split
  · exact Protocol.wp_mono _ (wp_send_honest (Unsent.mayReply (.inl h) rfl)) (fun _ _ hq => hq) fun _ _ hq => hq.elim
  · exact hh

theorem wp_locked_honest {β : Type} (req : Req β) {k : UnlockFn → Async Unit} (h : Held [] q)
    (hk : ∀ u q, Held [] q → honesty.wp (k u) q (fun _ q => q.pending = none) fun _ q => q.pending = none) :
    honesty.wp (validated req do
      match ← lockSendTx req.walletId with
      | none => sendError cantSendTxErrorMessage
      | some u => k u) q (fun _ q => q.pending = none) fun _ q => q.pending = none := by
  refine wp_validated_honest req h ⟨⟨h.pending, trivial⟩, fun taken _ => ?_⟩
  have hq : Held [] (q.snoc ⟨.lock (.lockSendTx req.walletId), taken⟩) := h.snoc trivial
  cases taken with
  | none => exact Protocol.wp_mono _ (wp_send_honest (Unsent.mayReply (.inl hq) rfl)) (fun _ _ hq => hq) fun _ _ hq => hq.elim
  | some u => exact hk u _ hq

/-- A body that tells the truth with its reply, and has not sent when it throws. -/
theorem wp_lockedSend_honest {β : Type} (req : Req β) {body : UnlockFn → Async ReplyBody} (h : Held [] q)
    (hbody : ∀ u q, Held [] q → honesty.wp (body u) q MayReply fun _ q => ∀ body, body.success = false → MayReply body q) :
    honesty.wp (lockedSend req body) q (fun _ q => q.pending = none) fun _ q => q.pending = none := by
  refine wp_locked_honest req h fun u q hq => ?_
  refine (Protocol.wp_tryCatch ..).mpr ((Protocol.wp_bind ..).mpr (Protocol.wp_mono _ (hbody u q hq)
    (fun reply q hq => ?_) fun err q hq => ?_))
  · exact Protocol.wp_mono _ (wp_send_honest hq) (fun _ _ hq => hq) fun _ _ hq => hq.elim
  · exact Protocol.wp_mono _ (wp_unlock_error u err.message hq) (fun _ _ hq => hq) fun _ _ hq => hq.elim

/-- A reply of failure may be sent. -/
def MayFail (q : SendTrace) : Prop := ∀ body : ReplyBody, body.success = false → MayReply body q

theorem Unsent.mayFail (h : Unsent q) : MayFail q := fun _ hbody => h.mayReply hbody

theorem wp_sent_honest {w : WalletRef} {b : Build} {u : UnlockFn} {reply : Transaction → Async ReplyBody}
    (hreply : ∀ tx q, Sent tx q → honesty.wp (reply tx) q MayReply fun _ => MayFail) (h : Held [] q) :
    honesty.wp (do
      let tx ← buildAndSend w b u
      reply tx) q MayReply fun _ => MayFail :=
  (Protocol.wp_bind ..).mpr (Protocol.wp_mono _ (wp_buildAndSend_honest w b u h) (fun tx q hq => hreply tx q hq)
    fun _ _ hq => hq.mayFail)

theorem wp_change_honest {w : WalletRef} {changeAddress : Option String} {b : Build} {u : UnlockFn}
    {reply : Transaction → Async ReplyBody}
    (hreply : ∀ tx q, Sent tx q → honesty.wp (reply tx) q MayReply fun _ => MayFail) (h : Held [] q) :
    honesty.wp (do
      checkChangeAddress w changeAddress
      let tx ← buildAndSend w b u
      reply tx) q MayReply fun _ => MayFail := by
  have hcheck : (checkChangeAddress w changeAddress).Uses WaryOp := checkChangeAddress_uses (fun _ => QuietOp.wary) w _
  exact (Protocol.wp_bind ..).mpr (Protocol.wp_mono _ (wp_wary hcheck h) (fun _ q hq => wp_sent_honest hreply hq)
    fun _ _ hq => Unsent.mayFail (.inl hq))

theorem wp_tokenReply_honest (tx : Transaction) (q : SendTrace) (h : Sent tx q) :
    honesty.wp (tokenReply tx) q MayReply fun _ => MayFail := by
  refine (Protocol.wp_bind ..).mpr ((Protocol.wp_attempt ..).mpr ⟨⟨h.pending, trivial⟩, fun r _ => ?_⟩)
  cases r with
  | ok configurationString =>
      refine ⟨fun a ha => ?_, fun e he => by cases he⟩
      cases ha
      exact (h.snoc (e := ⟨.lib (.getConfigurationString tx.hash tx.name tx.symbol), .ok configurationString⟩) trivial).mayReply
        rfl
  | error e =>
      refine ⟨fun a ha => (by cases ha), fun _ _ body hbody => ⟨rfl, fun _ => ⟨fun hs => ?_, fun _ _ _ => .inr ?_⟩⟩⟩
      · rw [hbody] at hs
        cases hs
      · exact ⟨_, _, _, e, List.mem_append_right _ (List.mem_singleton_self _)⟩

/-- The reply of `sendTx` and `runTemplate`, and that of their errors. -/
theorem wp_send_or_fail {w : WalletRef} {b : Build} {u : UnlockFn} (h : Held [] q) :
    honesty.wp (tryCatch (do
        let tx ← buildAndSend w b u
        send (.tx (mapTxReturn tx))) fun err => do
          unlock u
          sendError err.message) q (fun _ q => q.pending = none) fun _ _ => False := by
  refine (Protocol.wp_tryCatch ..).mpr ((Protocol.wp_bind ..).mpr (Protocol.wp_mono _ (wp_buildAndSend_honest w b u h)
    (fun tx q hq => ?_) fun err q hq => wp_unlock_error u err.message hq.mayFail))
  exact Protocol.wp_mono _ (wp_send_honest (hq.mayReply rfl)) (fun _ _ hq => hq) fun _ _ hq => hq.elim

/-- After its reply a handler may still ask the libraries. -/
theorem wp_lib_pending (c : LibCall) (h : q.pending = none) :
    honesty.wp (lib c) q (fun _ q => q.pending = none) fun _ q => q.pending = none := by
  refine (Protocol.wp_attempt ..).mpr ⟨⟨h, trivial⟩, fun r _ => ?_⟩
  exact ⟨fun _ _ => rfl, fun _ _ => rfl⟩

theorem wp_sendTx_honest (req : Req SendTxBody) (h : Held [] q) :
    honesty.wp (sendTx req) q (fun _ q => q.pending = none) fun _ q => q.pending = none := by
  refine wp_locked_honest req h fun u q hq => ?_
  have hfunds := prepareTxFunds_uses (fun _ => QuietOp.wary) req.wallet req.body.outputs (req.body.inputs.getD [])
    ((truthy req.body.token).getD NATIVE_TOKEN_UID)
  refine (Protocol.wp_bind ..).mpr (Protocol.wp_mono _ (wp_wary (quiet_await (fun _ => QuietOp.wary) hfunds) hq)
    (fun funds q hq => ?_) fun _ _ hq => hq.pending)
  cases funds with
  | error token =>
      refine ⟨⟨hq.pending, trivial⟩, fun _ _ => Protocol.wp_mono _ (wp_send_honest (Unsent.mayReply (.inl ?_) rfl))
        (fun _ _ hq => hq) fun _ _ hq => hq.elim⟩
      exact hq.snoc (e := ⟨.lock (.unlock u), ()⟩) trivial
  | ok funds =>
      refine (Protocol.wp_bind ..).mpr (Protocol.wp_mono _ (wp_wary (uses_ite (wary_lib _) (uses_pure _)) hq)
        (fun _ q hq => ?_) fun _ _ hq => hq.pending)
      refine (Protocol.wp_andFinally ..).mpr (Protocol.wp_mono _ (wp_send_or_fail hq) (fun _ q hq => ?_)
        fun _ _ hq => hq.elim)
      exact (Protocol.wp_ite ..).mpr ⟨fun _ => wp_lib_pending _ hq, fun _ => hq⟩

theorem wp_runTemplate_honest (req : Req TemplateBody) (h : Held [] q) :
    honesty.wp (runTemplate req) q (fun _ q => q.pending = none) fun _ q => q.pending = none := by
  refine wp_locked_honest req h fun u q hq => ?_
  refine (Protocol.wp_andFinally ..).mpr ?_
  have hbody : honesty.wp (tryCatch (do
      (if req.body.debug then enableDebugMode req.wallet else pure ())
      let tx ← buildAndSend req.wallet (.buildTxTemplate req.body.template true) u
      send (.tx (mapTxReturn tx))) fun err => do
        unlock u
        sendError err.message) q (fun _ q => q.pending = none) fun _ _ => False := by
    refine (Protocol.wp_tryCatch ..).mpr ((Protocol.wp_bind ..).mpr (Protocol.wp_mono _ (wp_wary
      (uses_ite (wary_lib _) (uses_pure _)) hq) (fun _ q hq => ?_) fun err q hq =>
        wp_unlock_error u err.message (Unsent.mayFail (.inl hq))))
    exact (Protocol.wp_tryCatch ..).mp (wp_send_or_fail hq)
  exact Protocol.wp_mono _ hbody (fun _ q hq => wp_lib_pending _ hq) fun _ _ hq => hq.elim

end

/-! ## All requests -/

/-- The requests that hand a transaction to the miners. -/
def Request.sends : Request → Bool
  | simpleSendTx _ | sendTx _ | createToken _ | mintTokens _ | meltTokens _ | utxoConsolidation _ | createNft _
  | createNanoContract _ | executeNanoContractMethod _ | createOnChainBlueprint _ | runTemplate _ | p2shSignAndPush _
  | swapSignAndPush _ => true
  | _ => false

section
variable {q : SendTrace}

theorem wp_executeNano_honest (req : Req NanoBody) (isInitialize : Bool) (h : Held [] q) :
    honesty.wp (executeNanoContractMethodHelper req isInitialize) q (fun _ q => q.pending = none)
      fun _ q => q.pending = none :=
  wp_lockedSend_honest req h fun _ _ hq => wp_sent_honest (fun _ _ hs => hs.mayReply rfl) hq

/-- The requests that send. -/
theorem wp_sends_honest {req : Request} (hsends : req.sends = true) (h : Held [] q) :
    honesty.wp req.handle q (fun _ q => q.pending = none) fun _ q => q.pending = none := by
  have hshow (tx : Transaction) (q : SendTrace) (hs : Sent tx q) :
      honesty.wp (pure (ReplyBody.tx (mapTxReturn tx)) : Async ReplyBody) q MayReply fun _ => MayFail := hs.mayReply rfl
  cases req with
  | simpleSendTx req => exact wp_lockedSend_honest req h fun u q hq => wp_change_honest hshow hq
  | sendTx req => exact wp_sendTx_honest req h
  | createToken req => exact wp_lockedSend_honest req h fun u q hq => wp_change_honest wp_tokenReply_honest hq
  | mintTokens req => exact wp_lockedSend_honest req h fun u q hq => wp_change_honest hshow hq
  | meltTokens req => exact wp_lockedSend_honest req h fun u q hq => wp_change_honest hshow hq
  | utxoConsolidation req =>
      exact wp_lockedSend_honest req h fun _ _ hq => wp_sent_honest (fun _ _ hs => hs.mayReply rfl) hq
  | createNft req => exact wp_lockedSend_honest req h fun u q hq => wp_change_honest wp_tokenReply_honest hq
  | createNanoContract req => exact wp_executeNano_honest req true h
  | executeNanoContractMethod req => exact wp_executeNano_honest req false h
  | createOnChainBlueprint req => exact wp_lockedSend_honest req h fun u q hq => wp_sent_honest hshow hq
  | runTemplate req => exact wp_runTemplate_honest req h
  | p2shSignAndPush req =>
      refine wp_lockedSend_honest req h fun u q hq => ?_
      have hassemble := assemblePartialTransaction_uses (fun _ => QuietOp.wary) req.wallet req.body.txHex
        (req.body.signatures.getD [])
      refine (Protocol.wp_bind ..).mpr (Protocol.wp_mono _ (wp_wary (quiet_await (fun _ => QuietOp.wary) hassemble) hq)
        (fun tx q hq => ?_) fun _ _ hq => Unsent.mayFail (.inl hq))
      exact (Protocol.wp_bind ..).mpr (Protocol.wp_mono _ (wp_runSendTransaction_honest _ _ _ hq)
        (fun tx q hs => hs.mayReply rfl) fun _ _ hs => hs.mayFail)
  | swapSignAndPush req =>
      refine wp_lockedSend_honest req h fun u q hq => ?_
      have hassemble := assembleTransaction_quiet (fun _ => QuietOp.wary) req.wallet req.body.partial_tx
        (req.body.signatures.getD [])
      refine (Protocol.wp_bind ..).mpr (Protocol.wp_mono _ (wp_wary hassemble hq) (fun tx q hq => ?_)
        fun _ _ hq => Unsent.mayFail (.inl hq))
      exact (Protocol.wp_bind ..).mpr (Protocol.wp_mono _ (wp_runSendTransaction_honest _ _ _ hq)
        (fun tx q hs => hs.mayReply rfl) fun _ _ hs => hs.mayFail)
  | _ => cases hsends

end

/-- The calls that are no mining. -/
def UnminedOp : Op → Prop
  | .wallet (.runFromMining ..) => False
  | _ => True

theorem QuietOp.unmined {c : Op} (h : QuietOp c) : UnminedOp c := by
  cases c with
  | wallet c => exact h.elim
  | _ => trivial

theorem unmined_of_early {F : serving.Footprint} {handler : Async Unit} (hF : ∀ c, F.asks c → UnminedOp c)
    (h : RepliesEarly F handler) : handler.Uses UnminedOp := by
  refine h.uses.mono fun c hc => ?_
  rcases hc with hc | hc
  · exact hF c hc
  · cases c with
    | send reply => trivial
    | _ => exact absurd rfl hc

theorem buildTemplate_unmined (req : Req TemplateBody) : (buildTemplate req).Uses UnminedOp := by
  have hlib (c : LibCall) : (lib c).Uses UnminedOp := quiet_lib (fun _ => QuietOp.unmined) c
  have hsend (reply : Reply) : (ask (.send reply) : Async Unit).Uses UnminedOp := uses_ask (c := Op.send reply) trivial
  unfold buildTemplate validated
  split
  · exact hsend _
  · refine uses_bind (uses_ask (c := Op.lock (.lockSendTx req.walletId)) trivial) fun taken => ?_
    cases taken with
    | none => exact hsend _
    | some u =>
        refine Prog.Uses.andFinally (uses_tryCatch (uses_bind (uses_ite (hlib _) (uses_pure _)) fun _ => uses_bind
          (buildTransaction_quiet (fun _ => QuietOp.unmined) _ _ trivial) fun sendTx => ?_) fun _ => hsend _)
          (uses_bind (uses_ask (c := Op.lock (.unlock u)) trivial) fun _ => hlib _)
        cases h : sendTx.transaction with
        | none => exact uses_throwThe _
        | some tx => exact uses_bind (hlib _) fun _ => hsend _

theorem wallet_unmined {F : serving.Footprint} {c : Op} (hF : F.asks c)
    (hmine : ∀ w tx, ¬ F.asks (.wallet (.runFromMining w tx))) : UnminedOp c := by
  cases c with
  | wallet c =>
      cases c with
      | runFromMining w tx => exact absurd hF (hmine w tx)
      | _ => trivial
  | _ => trivial

/-- The other requests mine nothing. -/
theorem unmined_uses {req : Request} (hsends : req.sends = false) : req.handle.Uses UnminedOp := by
  have hearly {F : serving.Footprint} {handler : Async Unit} (hmine : ∀ w tx, ¬ F.asks (.wallet (.runFromMining w tx)))
      (h : RepliesEarly F handler) : handler.Uses UnminedOp := unmined_of_early (fun _ hc => wallet_unmined hc hmine) h
  cases req with
  | buildTemplate req => exact buildTemplate_unmined req
  | unlockInputs req => exact hearly (fun _ _ => id) (unlockInputs_replies req)
  | buildTxProposal req => exact hearly (fun _ _ => id) (buildTxProposal_replies req)
  | buildCreateTokenTxProposal req => exact hearly (fun _ _ => id) (buildCreateTokenTxProposal_replies req)
  | buildMintTokensTxProposal req => exact hearly (fun _ _ => id) (authorityTxProposal_replies req _)
  | buildMeltTokensTxProposal req => exact hearly (fun _ _ => id) (authorityTxProposal_replies req _)
  | start body => exact hearly (fun _ _ => id) (start_replies body)
  | startHsmWallet body => exact hearly (fun _ _ => id) (startHsmWallet_replies body)
  | startFireblocksWallet body => exact hearly (fun _ _ => id) (startFireblocksWallet_replies body)
  | stop walletId => exact hearly (fun _ _ => id) (stop_replies walletId)
  | reloadConfig rounds => exact hearly (fun _ _ => id) (reloadConfig_replies rounds)
  | swapBuildTxProposal req => exact hearly (fun _ _ => id) (swapBuildTxProposal_replies req)
  | signTxProposal req => exact hearly (fun _ _ => id) (signTxProposal_replies req)
  | fetchFromService req => exact hearly (fun _ _ => id) (fetchFromService_replies req)
  | listenedProposalList req => exact hearly (fun _ _ => id) (listenedProposalList_replies req)
  | registerProposal req => exact hearly (fun _ _ => id) (registerProposal_replies req)
  | deleteListenedProposal req => exact hearly (fun _ _ => id) (deleteListenedProposal_replies req)
  | hsmSignTx hsmKeyName tx wallet =>
      exact uses_bind ((hsmSignTx_uses hsmKeyName tx wallet).mono fun _ h => h.quiet.unmined) fun _ => uses_pure _
  | _ => cases hsends

/-- Every handler tells the truth. -/
theorem wp_honest (req : Request) :
    honesty.wp req.handle { sends := req.sends } (fun _ _ => True) fun _ _ => True := by
  cases hsends : req.sends with
  | true => exact Protocol.wp_mono _ (wp_sends_honest hsends (held_start true)) (fun _ _ _ => trivial) fun _ _ _ => trivial
  | false =>
      refine Protocol.wp_mono _ (Prog.Uses.wp_inv (P := honesty) (I := fun q => q.pending = none ∧ q.sends = false)
        (unmined_uses hsends) (fun q c hc hq => ?_) ⟨rfl, rfl⟩) (fun _ _ _ => trivial) fun _ _ _ => trivial
      refine ⟨⟨hq.1, ?_⟩, fun r => ⟨rfl, (q.sends_call c).trans hq.2⟩⟩
      cases c with
      | wallet c =>
          cases c with
          | runFromMining w tx => exact hc.elim
          | _ => trivial
      | send reply => exact fun hs => by simp [hq.2] at hs
      | _ => trivial

/-! ## What has been mined -/

namespace Server

theorem mining_performOp {s s' : Server} {i : Nat} {c : Op} {w r : c.Ans} (h : s.performOp i c w = some (r, s')) :
    s'.mining = s.mining := by
  cases c with
  | lock c =>
      cases h
      rfl
  | registry c =>
      have he : (s.performRegistry i c w).2 = s' := congrArg Prod.snd (Option.some.inj h)
      rw [← he]
      cases c with
      | newWallet walletId walletConfig config => cases w <;> rfl
      | _ => rfl
  | settings c =>
      have he : (s.performSettings i c w).2 = s' := congrArg Prod.snd (Option.some.inj h)
      rw [← he]
      cases c with
      | importConfig => cases w <;> rfl
      | setLib cell value => cases w <;> rfl
      | setConfig config => cases config <;> rfl
      | _ => rfl
  | proposals c =>
      have he : (s.performProposals i c).2 = s' := congrArg Prod.snd (Option.some.inj h)
      rw [← he]
      cases c with
      | addProposal walletId proposalId password =>
          show (s.addListenedProposal i walletId proposalId password).mining = s.mining
          unfold addListenedProposal
          split <;> rfl
      | removeProposal walletId proposalId =>
          show (s.removeListenedProposal walletId proposalId).mining = s.mining
          unfold removeListenedProposal
          split <;> rfl
      | _ => rfl
  | wallet c =>
      obtain rfl | rfl | ⟨v, us, rfl⟩ | ⟨v, u, rfl⟩ | ⟨v, b, -, rfl⟩ := performWallet_cases h <;> rfl
  | hsm c =>
      have he : (s.performHsm i c w).2 = s' := congrArg Prod.snd (Option.some.inj h)
      rw [← he]
      cases c <;> cases w <;> rfl
  | lib c =>
      obtain ⟨-, he⟩ := Option.ite_none_right_eq_some.mp h
      cases he
      rfl
  | sleep ms =>
      obtain ⟨-, he⟩ := Option.ite_none_right_eq_some.mp h
      cases he
      rfl
  | tick =>
      cases h
      rfl
  | send reply =>
      cases h
      rfl

theorem mining_callOf {c : Op} (hc : WaryOp c) (i : Nat) (s : Server) : (s.callOf i c).mining = s.mining := by
  cases c with
  | wallet c =>
      cases c with
      | runFromMining w tx => exact hc.elim
      | _ => rfl
  | hsm c => cases c <;> rfl
  | _ => rfl

theorem mining_outside {s s' : Server} {e : Outside} (h : s.outside e = some s') : s'.mining = s.mining := by
  obtain ⟨d, -, rfl⟩ | ⟨t, L, -, -, rfl⟩ | ⟨i, u, d, -, -, -, -, rfl⟩ | ⟨w, u, -, rfl⟩ | ⟨w, u, -, rfl⟩ :=
    outside_cases h <;> rfl

end Server


/-! ## Every run -/

/-- What flow `i` has handed to the miners was one transaction at most, whose inputs it had marked; nothing is replied
meanwhile, and what is replied is true. -/
structure SendTrace.Ok (i : Nat) (q : SendTrace) : Prop where
  once : (q.sent i).length ≤ 1
  marked : ∀ m ∈ q.sent i, InputsMarked q.log m.wallet m.tx
  silent : q.pending ≠ none → ¬ Replied q.log
  replied : q.sends = true → ∀ reply, ⟨.send reply, ()⟩ ∈ q.log → Truthful q.log reply.body

namespace SendTrace

variable {q : SendTrace} {c : Op} {i : Nat}

theorem sent_of_pending (h : q.pending = none) (i : Nat) :
    q.sent i = (minedIn q.log).map fun a => ⟨i, a.wallet, a.tx⟩ := by
  rw [sent, h, Option.map_none, Option.toList_none, List.append_nil]

/-- A call is a mining, a reply, or neither. -/
theorem op_cases (c : Op) : (∃ w tx, c = .wallet (.runFromMining w tx)) ∨ (∃ reply, c = .send reply) ∨ WaryOp c := by
  cases c with
  | wallet c =>
      cases c with
      | runFromMining w tx => exact .inl ⟨w, tx, rfl⟩
      | _ => exact .inr (.inr trivial)
  | send reply => exact .inr (.inl ⟨reply, rfl⟩)
  | _ => exact .inr (.inr trivial)

theorem sent_mine {w : WalletRef} {tx : Transaction} (h : minedIn q.log = []) (i : Nat) :
    (q.call (.wallet (.runFromMining w tx))).sent i = [⟨i, w, tx⟩] := by
  show (minedIn q.log).map _ ++ [_] = _
  rw [h]
  rfl

theorem Ok.call (h : q.Ok i) (ha : honesty.allows q c) : (q.call c).Ok i := by
  rcases op_cases c with ⟨w, tx, rfl⟩ | ⟨reply, rfl⟩ | hc
  · obtain ⟨hmined, hsilent, hmarked⟩ := ha.2
    have hsent : (q.call (.wallet (.runFromMining w tx))).sent i = [⟨i, w, tx⟩] := sent_mine hmined i
    refine ⟨?_, fun m hm => ?_, fun _ => hsilent, h.replied⟩
    · rw [hsent]
      exact le_rfl
    · rw [hsent] at hm
      obtain rfl := List.mem_singleton.mp hm
      exact hmarked
  · exact h
  · rw [call_of_wary hc]
    exact h

/-- An answer hands nothing to the miners. -/
theorem sent_snoc (ha : honesty.allows q c) (r : c.Ans) (i : Nat) :
    ((q.call c).snoc ⟨c, r⟩).sent i = (q.call c).sent i := by
  rw [sent_of_pending (q := (q.call c).snoc ⟨c, r⟩) rfl]
  show (minedIn ((q.call c).log ++ [_])).map _ = _
  rw [minedIn_snoc, log_call]
  rcases op_cases c with ⟨w, tx, rfl⟩ | ⟨reply, rfl⟩ | hc
  · rw [sent_mine ha.2.1, ha.2.1]
    rfl
  · rw [show q.call (.send reply) = q from rfl, sent_of_pending ha.1]
    exact congrArg _ (List.append_nil _)
  · rw [call_of_wary hc, sent_of_pending ha.1, hc.mining r, Option.toList_none, List.append_nil]

theorem Ok.next (h : (q.call c).Ok i) (ha : honesty.allows q c) (r : c.Ans) : ((q.call c).snoc ⟨c, r⟩).Ok i := by
  have hsent := sent_snoc ha r i
  have hlog : ((q.call c).snoc ⟨c, r⟩).log = q.log ++ [⟨c, r⟩] := congrArg (· ++ [_]) (q.log_call c)
  refine ⟨hsent ▸ h.once, fun m hm => ?_, fun hp => absurd rfl hp, fun hsends reply hr => ?_⟩
  · rw [hlog]
    have hmarked := h.marked m (hsent ▸ hm)
    rw [q.log_call] at hmarked
    exact List.mem_append_left _ hmarked
  · have hbefore := h.replied hsends reply
    rw [q.log_call] at hbefore
    rw [hlog] at hr ⊢
    rcases op_cases c with ⟨w, tx, rfl⟩ | ⟨reply', rfl⟩ | hc
    · rcases List.mem_append.mp hr with hr | hr
      · exact absurd ⟨reply, hr⟩ ha.2.2.1
      · cases List.mem_singleton.mp hr
    · rcases List.mem_append.mp hr with hr | hr
      · exact (hbefore hr).snoc rfl
      · cases List.mem_singleton.mp hr
        exact (ha.2 hsends).snoc rfl
    · rcases List.mem_append.mp hr with hr | hr
      · exact (hbefore hr).snoc (hc.mining r)
      · have hwary : WaryOp (⟨c, r⟩ : Event Op.Ans).1 := hc
        rw [← List.mem_singleton.mp hr] at hwary
        exact hwary.elim

end SendTrace

/-- The transactions that the miners have are those of the ghost states. -/
def SentInv (s : Server) (g : Nat → SendTrace) : Prop :=
  ∀ i, s.mining.filter (fun m => m.flow = i) = (g i).sent i ∧ (g i).Ok i

theorem SentInv.update {s s' : Server} {g : Nat → SendTrace} (h : SentInv s g) {i : Nat} {q : SendTrace}
    (hi : s'.mining.filter (fun m => m.flow = i) = q.sent i ∧ q.Ok i)
    (hne : ∀ j, j ≠ i → s'.mining.filter (fun m => m.flow = j) = s.mining.filter fun m => m.flow = j) :
    SentInv s' (update g i q) := by
  intro j
  by_cases hj : j = i
  · subst hj
    rw [update_self]
    exact hi
  · rw [update_of_ne hj, hne j hj]
    exact h j

theorem sent_sound (ok : Service → Step → Prop) : Sound world Request.handle honesty
    (fun req => { sends := req.sends }) { sends := false } (fun _ => True) (fun _ => True) ok SentInv where
  spawn S g req w hg _ hI _ := by
    refine ⟨hI.update ⟨?_, ?_⟩ fun _ _ => rfl, wp_honest req⟩
    · rw [(hI S.procs.length).1, hg.unborn _ le_rfl]
      rfl
    · exact ⟨by simp [SendTrace.sent, minedIn], by simp [SendTrace.sent, minedIn], by simp, by simp⟩
  call s g i c hI _ ha _ := by
    refine ⟨trivial, hI.update ⟨?_, (hI i).2.call ha⟩ fun j hj => ?_⟩
    · rcases SendTrace.op_cases c with ⟨w, tx, rfl⟩ | ⟨reply, rfl⟩ | hc
      · show ((⟨i, w, tx⟩ :: s.mining).filter fun m => m.flow = i) = _
        rw [List.filter_cons_of_pos (by simp), (hI i).1, SendTrace.sent_of_pending ha.1, ha.2.1]
        exact (SendTrace.sent_mine ha.2.1 i).symm
      · exact (hI i).1
      · show ((s.callOf i c).mining.filter fun m => m.flow = i) = ((g i).call c).sent i
        rw [Server.mining_callOf hc, SendTrace.call_of_wary hc]
        exact (hI i).1
    · rcases SendTrace.op_cases c with ⟨w, tx, rfl⟩ | ⟨reply, rfl⟩ | hc
      · exact List.filter_cons_of_neg (by simpa using Ne.symm hj)
      · rfl
      · exact congrArg _ (Server.mining_callOf hc i s)
  perform s g i q c w r s' hI _ ha hq hp := by
    refine ⟨trivial, hI.update ?_ fun j _ => congrArg _ (Server.mining_performOp hp)⟩
    obtain ⟨hsent, hok⟩ := hI i
    rw [← hq] at hsent hok ⊢
    refine ⟨?_, hok.next ha r⟩
    rw [Server.mining_performOp hp, hsent]
    exact (SendTrace.sent_snoc ha r i).symm
  ext S g e s _ _ hI _ he := by
    intro i
    rw [Server.mining_outside he]
    exact hI i
  finish s g i hI _ _ := ⟨trivial, hI.update (hI i) fun _ _ => rfl⟩
  call_sync q c hc := by
    rcases SendTrace.op_cases c with ⟨w, tx, rfl⟩ | ⟨reply, rfl⟩ | hwary
    · cases hc
    · rfl
    · exact SendTrace.call_of_wary hwary q
  rests_fresh := trivial

/-- What flow `i` has told its client of what it has handed to the miners. -/
structure HonestSend (s : Server) (i : Nat) (p : Proc Op.Ans JsError Unit Request) : Prop where
  once : (s.mining.filter fun m => m.flow = i).length ≤ 1
  marked : ∀ m ∈ s.mining, m.flow = i → InputsMarked p.log m.wallet m.tx
  success : p.req.sends = true → ∀ reply, ⟨.send reply, ()⟩ ∈ p.log → reply.body.success = true →
    ∃ m ∈ s.mining, m.flow = i ∧ ∃ tx, ⟨.wallet (.runFromMining m.wallet m.tx), .ok tx⟩ ∈ p.log ∧ reply.body.Shows tx
  failure : p.req.sends = true → ∀ reply, ⟨.send reply, ()⟩ ∈ p.log → reply.body.success = false →
    ∀ m ∈ s.mining, m.flow = i →
      (∃ e, ⟨.wallet (.runFromMining m.wallet m.tx), .error e⟩ ∈ p.log) ∨ Unconfigured p.log

theorem honesty_log (q : SendTrace) (t : Log) (p : Async Unit) : (honesty.ghost q t p).log = q.log ++ t := by
  have hafter : (honesty.after q t).log = q.log ++ t := honesty.after_log SendTrace.log SendTrace.log_call
    (fun _ _ _ => rfl) q t
  cases p with
  | ret a => exact hafter
  | throw e => exact hafter
  | op c k => exact (SendTrace.log_call _ c).trans hafter

/-- In every run, what has been handed to the miners was handed once for a request, after its inputs were marked; a
success shows what was mined, and after a failure nothing was, unless the configuration string of the token failed. -/
theorem Service.sends_honest {ok : Service → Step → Prop} {s₀ : Server} {S : Service} (h₀ : s₀.mining = [])
    (h : Service.Run ok s₀ S) {i : Nat} {p : Proc Op.Ans JsError Unit Request} (hp : S.procs[i]? = some p) :
    HonestSend S.state i p := by
  obtain ⟨g, hg, -, hI⟩ := (sent_sound ok).reach (fun i => ⟨by rw [h₀]; rfl, ⟨by simp [SendTrace.sent, minedIn],
    by simp [SendTrace.sent, minedIn], by simp, by simp⟩⟩) h
  obtain ⟨hsent, hok⟩ := hI i
  have htraced := hg.traced i p hp
  have hlog : (g i).log = p.log := by rw [htraced, honesty_log, List.nil_append]
  have hsends : (g i).sends = p.req.sends := by
    rw [htraced]
    exact honesty.ghost_tag SendTrace.sends SendTrace.sends_call (fun q c r => rfl) (fun _ => rfl) _ _ _
  have hmem {m : Mined} : m ∈ S.state.mining ∧ m.flow = i ↔ m ∈ (g i).sent i := by
    rw [← hsent, List.mem_filter, decide_eq_true_iff]
  refine ⟨hsent ▸ hok.once, fun m hm hi => hlog ▸ hok.marked m (hmem.mp ⟨hm, hi⟩), fun hs reply hr hsuccess => ?_,
    fun hs reply hr hfailure m hm hi => ?_⟩
  · obtain ⟨a, ha, tx, hresult, hshows⟩ := (hok.replied (hsends.trans hs) reply (hlog ▸ hr)).1 hsuccess
    have hmined : (⟨i, a.wallet, a.tx⟩ : Mined) ∈ (g i).sent i :=
      List.mem_append_left _ (List.mem_map.mpr ⟨a, ha, rfl⟩)
    obtain ⟨hm, -⟩ := hmem.mpr hmined
    refine ⟨_, hm, rfl, tx, ?_, hshows⟩
    rw [hlog] at ha
    rw [← hresult]
    exact mem_minedIn.mp ha
  · have htruth := (hok.replied (hsends.trans hs) reply (hlog ▸ hr)).2 hfailure
    rcases List.mem_append.mp (hmem.mp ⟨hm, hi⟩) with hmined | hpending
    · obtain ⟨a, ha, rfl⟩ := List.mem_map.mp hmined
      rcases htruth a ha with ⟨e, he⟩ | hu
      · rw [hlog] at ha
        exact .inl ⟨e, he ▸ mem_minedIn.mp ha⟩
      · exact .inr (hlog ▸ hu)
    · have hsome : (g i).pending ≠ none := by
        intro hnone
        rw [hnone] at hpending
        cases hpending
      exact absurd ⟨reply, hlog ▸ hr⟩ (hok.silent hsome)

def createsToken : Request :=
  .createToken { walletId := "w", wallet := 0, body := { name := "name", symbol := "T", amount := 1 } }

/-- The configuration string fails; every other call is granted. -/
def withoutString (tx : Transaction) (_ : Nat) : (c : Op) → c.Ans
  | .lib (.getConfigurationString ..) => .error { message := "string" }
  | c => c.granted tx

/-- A token is created, and its creation is said to have failed. -/
def createdUnsaid : List Step :=
  [arrives createsToken (spending "tx" 0), goesOn 0 (spending "tx" 0), .ext (.pick 0 (utxo 0)),
    goesOn 0 (spending "tx" 0), goesOn 0 (spending "tx" 0), goesOn 0 (spending "tx" 0), goesOn 0 (spending "tx" 0),
    .resume 0 (withoutString (spending "tx" 0))]

theorem createdUnsaid_outcomes : (Service.exec (fun _ _ => True) createdUnsaid (oneWallet none)).any (fun S =>
    S.state.mining.map Mined.flow = [0] ∧ S.state.replies.map (fun reply => reply.2.body.success) = [false] ∧
      S.procs[0]?.isSome) = true := by
  decide +kernel

theorem createdUnsaid_honest : ∃ S : Service, (S.state.mining.map Mined.flow = [0] ∧
    S.state.replies.map (fun reply => reply.2.body.success) = [false] ∧ S.procs[0]?.isSome) ∧
      ∃ p, S.procs[0]? = some p ∧ HonestSend S.state 0 p := by
  obtain ⟨S, hS, hout⟩ := Service.run_of_exec createdUnsaid_outcomes
  obtain ⟨p, hp⟩ := Option.isSome_iff_exists.mp hout.2.2
  exact ⟨S, hout, p, hp, Service.sends_honest rfl hS hp⟩

end WalletHeadless
