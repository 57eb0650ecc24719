import WalletHeadless.Registry.Protocol
import WalletHeadless.Sends.Release

/-!
# Inside the critical section

A flow is inside from the moment it takes the SEND_TX lock of its wallet id until it gives it back.

* `Inside`: a log that has taken a lock and not given it back;
* `LockGhost`, `lockProtocol`: a flow takes one lock, by `lockSendTx` or by the lock it has just looked up, and gives
  back what it took;
* `Request.handle_locks`: the handlers follow the protocol.
-/

namespace WalletHeadless

open Coop Js
open Prog (uses_ask uses_orThrow)
open Protocol (keeps_bind keeps_of_uses)

/-- The flow has taken a SEND_TX lock and not given it back. -/
def Inside (log : Log) : Prop := ∃ a, Taken log a ∧ ¬ Given log a

instance (log : Log) (a : Acquisition) : Decidable (Given log a) :=
  inferInstanceAs (Decidable (Follows (takes · = some a) (gives · = some a) log))

theorem inside_iff (log : Log) : Inside log ↔ ∃ a ∈ log.filterMap takes, ¬ Given log a := by
  simp only [Inside, Taken, List.mem_filterMap]

instance (log : Log) : Decidable (Inside log) := decidable_of_iff _ (inside_iff log).symm

/-- The calls that have nothing to do with who is inside; a stop deletes the lock. -/
def OtherOp : Op → Prop
  | .lock (.delete _) => True
  | c => PlainOp c

theorem PlainOp.other {c : Op} (h : PlainOp c) : OtherOp c := by
  cases c with
  | lock c =>
      cases c with
      | delete walletId => trivial
      | _ => exact h
  | _ => exact h

theorem OtherOp.plain_or {c : Op} (h : OtherOp c) : (∃ walletId, c = .lock (.delete walletId)) ∨ PlainOp c := by
  cases c with
  | lock c =>
      cases c with
      | delete walletId => exact .inl ⟨walletId, rfl⟩
      | _ => exact .inr h
  | _ => exact .inr h

theorem OtherOp.takes {c : Op} (h : OtherOp c) (r : c.Ans) : takes ⟨c, r⟩ = none := by
  rcases h.plain_or with ⟨walletId, rfl⟩ | h
  · rfl
  · exact h.takes r

theorem OtherOp.gives {c : Op} (h : OtherOp c) (r : c.Ans) : gives ⟨c, r⟩ = none := by
  rcases h.plain_or with ⟨walletId, rfl⟩ | h
  · rfl
  · exact h.gives r

theorem OtherOp.finds {c : Op} (h : OtherOp c) (r : c.Ans) : finds ⟨c, r⟩ = none := by
  rcases h.plain_or with ⟨walletId, rfl⟩ | h
  · rfl
  · exact h.finds r

/-! ## Ghost states -/

structure LockGhost where
  walletId : Option String := none
  log : Log := []

namespace LockGhost

/-- The lock that the flow has just looked up. -/
def looked (q : LockGhost) : Option LockRef := q.log.getLast?.bind finds

inductive Allows (q : LockGhost) : Op → Prop
  | work {c : Op} (hq : q.looked = none) (hc : WorkOp c) : Allows q c
  | other {c : Op} (hq : q.looked = none) (hout : ∀ a, ¬ Taken q.log a) (hc : OtherOp c) : Allows q c
  | take {walletId : String} (hq : q.looked = none) (hid : q.walletId = some walletId)
      (hout : ∀ a, ¬ Taken q.log a) : Allows q (.lock (.lockSendTx walletId))
  | give {u : UnlockFn} (hq : q.looked = none) (htaken : Taken q.log (.closure u)) : Allows q (.lock (.unlock u))
  | look {walletId : String} (hq : q.looked = none) (hid : q.walletId = some walletId) :
      Allows q (.lock (.getWalletLock walletId))
  | takeOn {l : LockRef} (hq : q.looked = some l) (hout : ∀ a, ¬ Taken q.log a) :
      Allows q (.lock (.lockOn l .SEND_TX))
  | giveOn {l l' : LockRef} (hq : q.looked = some l') (htaken : Taken q.log (.lock l))
      (hkept : ¬ Given q.log (.lock l)) : Allows q (.lock (.unlockOn l' .SEND_TX))

def next (q : LockGhost) (c : Op) (r : c.Ans) : LockGhost := { q with log := q.log ++ [⟨c, r⟩] }

@[simp] theorem next_log (q : LockGhost) (c : Op) (r : c.Ans) : (q.next c r).log = q.log ++ [⟨c, r⟩] := rfl

@[simp] theorem next_looked (q : LockGhost) (c : Op) (r : c.Ans) : (q.next c r).looked = finds ⟨c, r⟩ := by
  simp [looked]

/-- The ghost state in which a request enters. -/
def enter (req : Request) : LockGhost := { walletId := req.target.map Prod.fst }

end LockGhost

def lockProtocol : Protocol Op.Ans LockGhost where
  allows := LockGhost.Allows
  next := LockGhost.next

/-! ## The sends -/

/-- The calls of a send with the unlock function `u`. -/
def SendOp (u : UnlockFn) : Op → Prop
  | .lock (.unlock v) => v = u
  | c => WorkOp c

theorem WorkOp.send {c : Op} (h : WorkOp c) (u : UnlockFn) : SendOp u c := by
  cases c with
  | lock c =>
      cases c with
      | unlock v => exact h.elim
      | _ => exact h
  | _ => exact h

theorem SendOp.work_or {u : UnlockFn} {c : Op} (h : SendOp u c) : c = .lock (.unlock u) ∨ WorkOp c := by
  cases c with
  | lock c =>
      cases c with
      | unlock v =>
          obtain rfl : v = u := h
          exact .inl rfl
      | _ => exact .inr h
  | _ => exact .inr h

theorem keeps_taken {u : UnlockFn} {c : Op} (hc : SendOp u c) :
    lockProtocol.Keeps (fun q => q.looked = none ∧ Taken q.log (.closure u)) (Prog.ask c : Async c.Ans) := by
  rintro q ⟨hq, htaken⟩
  have hlog (e : Event Op.Ans) : Taken (q.log ++ [e]) (.closure u) := (taken_snoc ..).mpr (.inl htaken)
  rcases hc.work_or with rfl | hc
  · exact ⟨.give hq htaken, fun r _ => ⟨LockGhost.next_looked q _ r, hlog _⟩⟩
  · exact ⟨.work hq hc, fun r _ => ⟨(LockGhost.next_looked q c r).trans (hc.plain.finds r), hlog _⟩⟩

section
variable {u : UnlockFn}

theorem work_send {α : Type} {p : Async α} (hp : p.Uses WorkOp) : p.Uses (SendOp u) := hp.mono fun _ hc => hc.send u

theorem build_send {α : Type} {p : Async α} (hp : p.Uses BuildOp) : p.Uses (SendOp u) :=
  work_send (hp.mono fun _ => BuildOp.work)

theorem unlock_send : (unlock u).Uses (SendOp u) := uses_ask rfl

theorem runSendTransaction_send (w : WalletRef) (sendTx : SendTransaction) :
    (await (runSendTransaction w sendTx u)).Uses (SendOp u) := by
  refine uses_await trivial (uses_bind (Prog.Uses.andFinally ?_ unlock_send) fun tx => build_send call_build)
  exact build_send (uses_bind (preparedTx_uses w sendTx) fun tx => uses_bind call_build fun _ => uses_pure _)

theorem buildAndSend_send (w : WalletRef) (b : Build) : (buildAndSend w b u).Uses (SendOp u) :=
  uses_bind (build_send (buildTransaction_uses w b)) fun _ => runSendTransaction_send w _

theorem queryInputs_send (w : WalletRef) (query : Query) (tokens : List (String × Nat)) :
    (queryInputs w query tokens).Uses (SendOp u) := by
  induction tokens with
  | nil => exact uses_pure _
  | cons t tokens ih =>
      have hutxos : (getUtxosToFillTx w t.2 (query ++ [("token", t.1)])).Uses (SendOp u) :=
        uses_bind (work_send (lib_work _)) fun _ => uses_orThrow _ _
      refine uses_bind (uses_await trivial hutxos) fun utxos => ?_
      split
      · exact uses_pure _
      · refine uses_bind ih fun rest => ?_
        split
        · exact uses_pure _
        · exact uses_pure _

theorem prepareTxFunds_send (w : WalletRef) (outputs : List OutputParam) (inputs : List InputParam) (token : String) :
    (prepareTxFunds w outputs inputs token).Uses (SendOp u) := by
  refine uses_bind (uses_orThrow _ _) fun tokens => ?_
  split
  · exact uses_pure _
  · refine uses_bind (queryInputs_send _ _ _) fun utxos => ?_
    split
    · exact uses_pure _
    · exact uses_pure _
  · exact uses_pure _

theorem debug_send (w : WalletRef) (debug : Bool) :
    (if debug then enableDebugMode w else pure ()).Uses (SendOp u) :=
  uses_ite (work_send (lib_work _)) (uses_pure _)

/-- The `try … catch` of the handlers that unlock when they fail. -/
theorem caught_send {p : Async Unit} (hp : p.Uses (SendOp u)) :
    (tryCatch p fun err => do
      unlock u
      sendError err.message).Uses (SendOp u) :=
  uses_tryCatch hp fun _ => uses_bind unlock_send fun _ => work_send (send_work _)

end

/-! ## The handlers that take the lock -/

/-- The handler ends, and is not about to use a lock that it has looked up. -/
abbrev LocksOk (p : Async Unit) (q : LockGhost) : Prop :=
  lockProtocol.wp p q (fun _ q => q.looked = none) fun _ q => q.looked = none

theorem work_keeps {c : Op} (hc : WorkOp c) :
    lockProtocol.Keeps (fun q => q.looked = none) (Prog.ask c : Async c.Ans) :=
  fun q hq => ⟨.work hq hc, fun r _ => (LockGhost.next_looked q c r).trans (hc.plain.finds r)⟩

theorem other_keeps {c : Op} (hc : OtherOp c) :
    lockProtocol.Keeps (fun q => q.looked = none ∧ ∀ a, ¬ Taken q.log a) (Prog.ask c : Async c.Ans) := by
  rintro q ⟨hq, hout⟩
  refine ⟨.other hq hout hc, fun r _ => ⟨(LockGhost.next_looked q c r).trans (hc.finds r), fun a ha => ?_⟩⟩
  rcases (taken_snoc ..).mp ha with ha | ha
  · exact hout a ha
  · rw [hc.takes] at ha
    cases ha

theorem validated_locks {β : Type} (req : Req β) {handler : Async Unit}
    (h : LocksOk handler ⟨some req.walletId, []⟩) : LocksOk (validated req handler) ⟨some req.walletId, []⟩ := by
  unfold validated
  split
  · exact work_keeps (c := .send _) trivial _ rfl
  · exact h

/-- A handler that calls `lockSendTx` and then unlocks what it got. -/
theorem lockSendTx_locks {β : Type} (req : Req β) {k : Option UnlockFn → Async Unit} (hbusy : (k none).Uses WorkOp)
    (hlock : ∀ u, (k (some u)).Uses (SendOp u)) :
    LocksOk (validated req (lockSendTx req.walletId >>= k)) ⟨some req.walletId, []⟩ := by
  refine validated_locks req ((Protocol.wp_bind ..).mpr ⟨.take rfl rfl not_taken_nil, fun r _ => ?_⟩)
  cases r with
  | none => exact keeps_of_uses hbusy (fun c hc => work_keeps hc) _ rfl
  | some u =>
      have htaken : Taken [⟨.lock (.lockSendTx req.walletId), some u⟩] (.closure u) := (taken_singleton ..).mpr rfl
      have hk := keeps_of_uses (hlock u) (fun c hc => keeps_taken hc)
        ⟨some req.walletId, [⟨.lock (.lockSendTx req.walletId), some u⟩]⟩ ⟨rfl, htaken⟩
      have hend : LocksOk (k (some u)) _ := Protocol.wp_mono _ hk (fun _ _ h => h.1) fun _ _ h => h.1
      exact hend

theorem lockedSend_locks {β : Type} (req : Req β) {body : UnlockFn → Async ReplyBody}
    (hbody : ∀ u, (body u).Uses (SendOp u)) : LocksOk (lockedSend req body) ⟨some req.walletId, []⟩ := by
  refine lockSendTx_locks req (send_work _) fun u => caught_send ?_
  exact uses_bind (hbody u) fun _ => work_send (send_work _)

theorem sendTx_locks (req : Req SendTxBody) : LocksOk (sendTx req) ⟨some req.walletId, []⟩ := by
  refine lockSendTx_locks req (send_work _) fun u => ?_
  refine uses_bind (uses_await trivial (prepareTxFunds_send _ _ _ _)) fun funds => ?_
  cases funds with
  | error token => exact uses_bind unlock_send fun _ => work_send (send_work _)
  | ok funds =>
      refine uses_bind (debug_send _ _) fun _ => Prog.Uses.andFinally (caught_send ?_) ?_
      · exact uses_bind (buildAndSend_send _ _) fun _ => work_send (send_work _)
      · exact uses_ite (work_send (lib_work _)) (uses_pure _)

theorem runTemplate_locks (req : Req TemplateBody) : LocksOk (runTemplate req) ⟨some req.walletId, []⟩ := by
  refine lockSendTx_locks req (send_work _) fun u => ?_
  refine Prog.Uses.andFinally (caught_send ?_) (work_send (lib_work _))
  exact uses_bind (debug_send _ _) fun _ => uses_bind (buildAndSend_send _ _) fun _ => work_send (send_work _)

theorem buildTemplate_locks (req : Req TemplateBody) : LocksOk (buildTemplate req) ⟨some req.walletId, []⟩ := by
  refine lockSendTx_locks req (send_work _) fun u => ?_
  refine Prog.Uses.andFinally (uses_tryCatch ?_ fun _ => work_send (send_work _)) ?_
  · refine uses_bind (debug_send _ _) fun _ => uses_bind (build_send (buildTransaction_uses _ _)) fun sendTx => ?_
    split
    · exact uses_throwThe _
    · exact uses_bind (work_send (lib_work _)) fun _ => work_send (send_work _)
  · exact uses_bind unlock_send fun _ => work_send (lib_work _)

/-- `unlockInputs` has taken the lock that it found and not given it back. -/
structure LockGhost.Holds (walletId : String) (l : LockRef) (q : LockGhost) : Prop where
  id : q.walletId = some walletId
  looked : q.looked = none
  taken : Taken q.log (.lock l)
  kept : ¬ Given q.log (.lock l)

theorem holds_keeps {walletId : String} {l : LockRef} {c : Op} (hc : WorkOp c) :
    lockProtocol.Keeps (LockGhost.Holds walletId l) (Prog.ask c : Async c.Ans) := by
  intro q hq
  refine ⟨.work hq.looked hc, fun r _ => ⟨hq.id, ?_, (taken_snoc ..).mpr (.inl hq.taken), fun hg => ?_⟩⟩
  · exact (LockGhost.next_looked q c r).trans (hc.plain.finds r)
  · rcases (given_snoc ..).mp hg with hg | ⟨-, hg⟩
    · exact hq.kept hg
    · rw [hc.plain.gives] at hg
      cases hg

theorem unlockInputs_locks (req : Req SwapBody) : LocksOk (unlockInputs req) ⟨some req.walletId, []⟩ := by
  refine validated_locks req ((Protocol.wp_bind ..).mpr ⟨.look rfl rfl, fun l _ => ?_⟩)
  refine (Protocol.wp_bind ..).mpr ⟨.takeOn rfl fun a ha => ?_, fun r _ => ?_⟩
  · cases (taken_singleton ..).mp ha
  cases r with
  | false => exact work_keeps (c := .send _) trivial _ rfl
  | true =>
      let log : Log := [⟨.lock (.getWalletLock req.walletId), l⟩, ⟨.lock (.lockOn l .SEND_TX), true⟩]
      have hholds : LockGhost.Holds req.walletId l ⟨some req.walletId, log⟩ := by
        refine ⟨rfl, rfl, ⟨⟨.lock (.lockOn l .SEND_TX), true⟩, by simp [log], rfl⟩, fun hg => ?_⟩
        rcases (given_snoc [⟨.lock (.getWalletLock req.walletId), l⟩] _ _).mp hg with hg | ⟨-, hg⟩
        · exact not_given_singleton _ _ hg
        · cases hg
      have hbody : (tryCatch (do
          let tx ← deserializePartialTx req.wallet req.body.partial_tx
          markUtxosSelectedAsInput req.wallet false tx.utxos
          send .ok) fun err => sendError err.message : Async Unit).Uses WorkOp :=
        uses_tryCatch (uses_bind (lib_work _) fun tx =>
          uses_bind (markUtxosSelectedAsInput_work _ _ _) fun _ => send_work _) fun _ => send_work _
      have hlast (q : LockGhost) (h : q.Holds req.walletId l) : LocksOk (do
          let walletLock ← getWalletLock req.walletId
          unlockOn walletLock .SEND_TX) q := by
        refine (Protocol.wp_bind ..).mpr ⟨.look h.looked h.id, fun l' _ => ?_⟩
        have hgiven : ¬ Given (q.log ++ [⟨.lock (.getWalletLock req.walletId), l'⟩]) (.lock l) := by
          intro hg
          rcases (given_snoc ..).mp hg with hg | ⟨-, hg⟩
          · exact h.kept hg
          · cases hg
        refine ⟨.giveOn (LockGhost.next_looked q _ l') ((taken_snoc ..).mpr (.inl h.taken)) hgiven, fun _ _ => ?_⟩
        exact LockGhost.next_looked (q.next (.lock (.getWalletLock req.walletId)) l') _ _
      have hwp : lockProtocol.wp _ ⟨some req.walletId, log⟩ _ _ :=
        (Protocol.wp_andFinally ..).mpr (Protocol.wp_mono _ (keeps_of_uses hbody (fun c hc => holds_keeps hc) _ hholds)
          (fun _ q h => hlast q h) fun _ q h => hlast q h)
      exact hwp

/-! ## Every handler -/

section
variable {u : UnlockFn} (w : WalletRef)

theorem checkedSend_send (a : Option String) (b : Build) {k : Transaction → Async ReplyBody}
    (hk : ∀ tx, (k tx).Uses WorkOp) : (do
      checkChangeAddress w a
      let tx ← buildAndSend w b u
      k tx).Uses (SendOp u) :=
  uses_bind (work_send (checkChangeAddress_work _ _)) fun _ => uses_bind (buildAndSend_send _ _) fun tx =>
    work_send (hk tx)

theorem sendThen_send (b : Build) {k : Transaction → Async ReplyBody} (hk : ∀ tx, (k tx).Uses WorkOp) : (do
      let tx ← buildAndSend w b u
      k tx).Uses (SendOp u) :=
  uses_bind (buildAndSend_send _ _) fun tx => work_send (hk tx)

theorem pushThen_send {p : Async Transaction} (hp : p.Uses WorkOp) : (do
      let tx ← p
      let response ← await (runSendTransaction w { transaction := some tx } u)
      return ReplyBody.tx (mapTxReturn response)).Uses (SendOp u) :=
  uses_bind (work_send hp) fun _ => uses_bind (runSendTransaction_send _ _) fun _ => uses_pure _

end

/-- The handlers that take the lock. -/
theorem Request.TakesLock.locks {req : Request} (h : req.TakesLock) : LocksOk req.handle (.enter req) := by
  cases req with
  | sendTx req => exact sendTx_locks req
  | unlockInputs req => exact unlockInputs_locks req
  | runTemplate req => exact runTemplate_locks req
  | buildTemplate req => exact buildTemplate_locks req
  | simpleSendTx req => exact lockedSend_locks req fun u => checkedSend_send _ _ _ fun _ => uses_pure _
  | createToken req => exact lockedSend_locks req fun u => checkedSend_send _ _ _ tokenReply_work
  | mintTokens req => exact lockedSend_locks req fun u => checkedSend_send _ _ _ fun _ => uses_pure _
  | meltTokens req => exact lockedSend_locks req fun u => checkedSend_send _ _ _ fun _ => uses_pure _
  | utxoConsolidation req => exact lockedSend_locks req fun u => sendThen_send _ _ fun _ => uses_pure _
  | createNft req => exact lockedSend_locks req fun u => checkedSend_send _ _ _ tokenReply_work
  | createNanoContract req => exact lockedSend_locks req fun u => sendThen_send _ _ fun _ => uses_pure _
  | executeNanoContractMethod req => exact lockedSend_locks req fun u => sendThen_send _ _ fun _ => uses_pure _
  | createOnChainBlueprint req => exact lockedSend_locks req fun u => sendThen_send _ _ fun _ => uses_pure _
  | p2shSignAndPush req =>
      have hassemble := assemblePartialTransaction_work req.wallet req.body.txHex (req.body.signatures.getD [])
      exact lockedSend_locks req fun u => pushThen_send _ (uses_await trivial hassemble)
  | swapSignAndPush req => exact lockedSend_locks req fun u => pushThen_send _ (assembleTransaction_work _ _ _)
  | _ => exact h.elim

theorem reloadConfig_other (rounds : Nat) : (reloadConfig rounds).Uses OtherOp := by
  refine uses_bind (uses_await trivial ((reload_uses rounds).mono fun c hc => ?_)) fun _ => uses_ask trivial
  cases c with
  | lock c => exact hc.elim
  | _ => trivial

theorem CalmOp.other {c : Op} (h : CalmOp c) : OtherOp c := by
  cases c with
  | lock c =>
      cases c with
      | lockOn l ty => exact h.2
      | unlockOn l ty => exact h.2
      | _ => exact h.elim
  | _ => trivial

/-- The handlers that start, stop and reload, and those of atomic swaps, never take the lock. -/
theorem Request.ManagesRegistry.locks {req : Request} (h : req.ManagesRegistry) : LocksOk req.handle (.enter req) := by
  have huses {α : Type} {A : Op → Prop} {p : Async α} (hp : p.Uses A) (hA : ∀ c, A c → OtherOp c) :
      lockProtocol.Keeps (fun q => q.looked = none ∧ ∀ a, ¬ Taken q.log a) p :=
    keeps_of_uses (hp.mono hA) fun c hc => other_keeps hc
  suffices hkeeps : lockProtocol.Keeps (fun q => q.looked = none ∧ ∀ a, ¬ Taken q.log a) req.handle from
    Protocol.wp_mono _ (hkeeps _ ⟨rfl, not_taken_nil⟩) (fun _ _ h => h.1) fun _ _ h => h.1
  cases hreloads : req.Reloads with
  | false =>
      refine h.keeps hreloads (fun c hc => other_keeps hc.other) (fun walletId walletConfig config mode => ?_)
        (fun walletId => ?_) (fun walletId w hw proposalId password => other_keeps trivial)
        fun walletId w hw proposalId => other_keeps trivial
      · refine huses (startWallet_uses _ _ _ _ _) fun c hc => ?_
        cases c with
        | lock c => exact hc.elim
        | _ => trivial
      · refine huses (stopWallet_uses _) fun c hc => ?_
        cases c with
        | lock c =>
            cases c with
            | delete walletId => trivial
            | _ => exact hc.elim
        | _ => trivial
  | true =>
      cases req with
      | reloadConfig rounds => exact huses (reloadConfig_other rounds) fun c hc => hc
      | _ => cases hreloads

theorem validated_work {β : Type} (req : Req β) {handler : Async Unit} (h : handler.Uses WorkOp) :
    (validated req handler).Uses WorkOp := by
  unfold validated
  split
  · exact uses_ask trivial
  · exact h

/-- The proposals, and the signing method of an HSM wallet. -/
theorem Request.handle_work {req : Request} (h : ¬ req.TakesLock) (hr : ¬ req.ManagesRegistry) :
    req.handle.Uses WorkOp := by
  have hprepare (w : WalletRef) (b : Build) : (prepareData w b).Uses WorkOp := by
    refine uses_bind (call_build.mono fun _ => BuildOp.work) fun sendTx => ?_
    split
    · exact uses_throwThe _
    · exact uses_pure _
  have hmark (w : WalletRef) (markAsUsed : Bool) (tx : Transaction) : (markIfUsed w markAsUsed tx).Uses WorkOp :=
    uses_ite (uses_await trivial (markUtxosSelectedAsInput_work _ _ _)) (uses_pure _)
  have hhex (tx : Transaction) : (sendTxHex tx).Uses WorkOp := uses_bind (lib_work _) fun _ => send_work _
  have hauthority (req : Req AuthorityProposalBody) (b : Build) : (authorityTxProposal req b).Uses WorkOp :=
    validated_work req (uses_tryCatch (uses_bind (checkChangeAddress_work _ _) fun _ =>
      uses_bind (hprepare _ _) fun _ => uses_bind (hmark _ _ _) fun _ => hhex _) fun _ => send_work _)
  cases req with
  | buildTxProposal req =>
      have hchecked (a : Option String) : (buildTxProposalChecked req a).Uses WorkOp :=
        uses_tryCatch (uses_bind (hprepare _ _) fun _ => uses_bind (hmark _ _ _) fun _ =>
          uses_bind (lib_work _) fun _ => hhex _) fun _ => send_work _
      refine validated_work req (uses_bind ?_ fun mine => uses_ite (hchecked _) (send_work _))
      split
      · exact uses_pure _
      · exact lib_work _
  | buildCreateTokenTxProposal req =>
      exact validated_work req (uses_tryCatch (uses_bind (hprepare _ _) fun _ => uses_bind (hmark _ _ _) fun _ =>
        hhex _) fun _ => send_work _)
  | buildMintTokensTxProposal req => exact hauthority req _
  | buildMeltTokensTxProposal req => exact hauthority req _
  | hsmSignTx key tx w => exact uses_bind ((hsmSignTx_uses key tx w).mono fun c hc => hc.build.work) fun _ => uses_pure _
  | _ => first | exact absurd trivial h | exact absurd trivial hr

/-- The handlers follow the protocol. -/
theorem Request.handle_locks (req : Request) : LocksOk req.handle (.enter req) := by
  by_cases h : req.TakesLock
  · exact h.locks
  · by_cases hr : req.ManagesRegistry
    · exact hr.locks
    · exact keeps_of_uses (handle_work h hr) (fun c hc => work_keeps hc) _ rfl

end WalletHeadless
