import WalletHeadless.Sends.Protocol
import WalletHeadless.Server.Requests

/-!
# The automatic sends

* `AutomaticSend`: the requests whose inputs `wallet-lib` chooses;
* `automatic_wp`: their handlers follow `sendProtocol`.
-/

namespace WalletHeadless

open Coop Js

/-- The sends that leave the choice of their inputs to `wallet-lib`. -/
def AutomaticSend : Request → Prop
  | .simpleSendTx _ | .createToken _ | .mintTokens _ | .meltTokens _ | .createNft _ => True
  | .createNanoContract _ | .executeNanoContractMethod _ | .createOnChainBlueprint _ => True
  | .sendTx req => req.body.inputs.getD [] = []
  | .runTemplate req => req.body.template.rawInputs = []
  | _ => False

instance : DecidablePred AutomaticSend
  | .sendTx req => inferInstanceAs (Decidable (req.body.inputs.getD [] = []))
  | .runTemplate req => inferInstanceAs (Decidable (req.body.template.rawInputs = []))
  | .simpleSendTx _ | .createToken _ | .mintTokens _ | .meltTokens _ | .createNft _ => isTrue trivial
  | .createNanoContract _ | .executeNanoContractMethod _ | .createOnChainBlueprint _ => isTrue trivial
  | .utxoConsolidation _ | .buildTemplate _ | .p2shSignAndPush _ | .swapSignAndPush _ => isFalse id
  | .unlockInputs _ | .buildTxProposal _ | .buildCreateTokenTxProposal _ => isFalse id
  | .buildMintTokensTxProposal _ | .buildMeltTokensTxProposal _ | .start _ => isFalse id
  | .startHsmWallet _ | .startFireblocksWallet _ | .stop _ | .hsmSignTx .. => isFalse id
  | .reloadConfig _ | .swapBuildTxProposal _ | .signTxProposal _ | .fetchFromService _ => isFalse id
  | .listenedProposalList _ | .registerProposal _ | .deleteListenedProposal _ => isFalse id

theorem AutomaticSend.target {req : Request} (h : AutomaticSend req) :
    ∃ walletId w, req.target = some (walletId, w) := by
  cases req <;> first | exact ⟨_, _, rfl⟩ | exact h.elim

/-- The ghost state in which a request enters. -/
def SendGhost.enter (req : Request) : SendGhost :=
  match req.target with
  | some (walletId, w) => ⟨walletId, w, .out⟩
  | none => ⟨"", 0, .unborn⟩

/-- The body of a handler that checks a change address, builds, sends and replies. -/
theorem wp_checked_send {walletId : String} {w : WalletRef} {u : UnlockFn} {a : Option String} {b : Build}
    (hb : b.inputs = []) {k : Transaction → Async ReplyBody} (hk : ∀ tx, (k tx).Uses QuietOp) :
    sendProtocol.wp (do
        checkChangeAddress w a
        let tx ← buildAndSend w b u
        k tx) ⟨walletId, w, .holding u .start⟩
      (fun _ q => q = ⟨walletId, w, .released u none⟩) (fun _ => Stopped walletId w u) := by
  refine (Protocol.wp_bind ..).mpr
    (wp_checkChangeAddress w a ((Protocol.wp_bind ..).mpr ?_) fun e => .inl ⟨_, rfl, rfl⟩)
  refine Protocol.wp_mono _ (wp_buildAndSend b hb) (fun tx q hq => ?_) fun e q hq => hq
  subst hq
  exact wp_quiet (hk tx) (fun _ => rfl) fun _ => .inr rfl

theorem wp_plain_send {walletId : String} {w : WalletRef} {u : UnlockFn} {b : Build} (hb : b.inputs = [])
    {k : Transaction → Async ReplyBody} (hk : ∀ tx, (k tx).Uses QuietOp) :
    sendProtocol.wp (do
        let tx ← buildAndSend w b u
        k tx) ⟨walletId, w, .holding u .start⟩
      (fun _ q => q = ⟨walletId, w, .released u none⟩) (fun _ => Stopped walletId w u) := by
  refine (Protocol.wp_bind ..).mpr ?_
  refine Protocol.wp_mono _ (wp_buildAndSend b hb) (fun tx q hq => ?_) fun e q hq => hq
  subst hq
  exact wp_quiet (hk tx) (fun _ => rfl) fun _ => .inr rfl

theorem tokenReply_uses (tx : Transaction) : (tokenReply tx).Uses QuietOp :=
  uses_bind (lib_quiet _) fun _ => uses_pure _

theorem wp_send_sent {walletId : String} {w : WalletRef} {u : UnlockFn} {b : Build} (hb : b.inputs = []) :
    sendProtocol.wp (do
        let tx ← buildAndSend w b u
        send (.tx (mapTxReturn tx))) ⟨walletId, w, .holding u .start⟩
      (fun _ q => q = ⟨walletId, w, .released u none⟩) (fun _ => Stopped walletId w u) := by
  refine (Protocol.wp_bind ..).mpr ?_
  refine Protocol.wp_mono _ (wp_buildAndSend b hb) (fun tx q hq => ?_) fun e q hq => hq
  subst hq
  exact wp_send _ _ rfl

/-- The `catch` and the `finally` of `sendTx` and `runTemplate`. -/
theorem wp_catch_finally (walletId : String) (w : WalletRef) {u : UnlockFn} {body last : Async Unit}
    {q : SendGhost} (hbody : sendProtocol.wp body q (fun _ q => q = ⟨walletId, w, .released u none⟩)
      (fun _ => Stopped walletId w u)) (hlast : last.Uses QuietOp) :
    sendProtocol.wp (Prog.andFinally (tryCatch body fun err => do
        unlock u
        sendError err.message) last) q (fun _ => SendGhost.Rests) (fun _ => SendGhost.Rests) := by
  have hdone {q : SendGhost} (hq : q = ⟨walletId, w, .released u none⟩) :
      sendProtocol.wp last q (fun _ => SendGhost.Rests) (fun _ => SendGhost.Rests) := by
    subst hq
    exact wp_quiet hlast (fun _ => trivial) fun _ => trivial
  refine (Protocol.wp_andFinally ..).mpr ((Protocol.wp_tryCatch ..).mpr ?_)
  refine Protocol.wp_mono _ hbody (fun _ q hq => hdone hq) fun e q hq => ?_
  exact (Protocol.wp_bind ..).mpr (wp_unlock_stopped hq (wp_send _ _ (hdone rfl)))

theorem wp_sendTx (req : Req SendTxBody) (h : req.body.inputs.getD [] = []) :
    sendProtocol.wp (sendTx req) ⟨req.walletId, req.wallet, .out⟩ (fun _ => SendGhost.Rests)
      (fun _ => SendGhost.Rests) := by
  refine wp_validated req (wp_lockSendTx (wp_send _ _ trivial) fun u => ?_) trivial
  rw [h]
  refine (Protocol.wp_bind ..).mpr (wp_await ?_)
  -- without inputs, the funds are the outputs alone
  refine (Protocol.wp_bind ..).mpr
    ((Protocol.wp_orThrow ..).mpr ⟨fun tokens _ => ⟨sendProtocol_neutral trivial, ?_⟩,
      fun e _ => ⟨sendProtocol_neutral trivial, trivial⟩⟩)
  refine (Protocol.wp_bind ..).mpr (wp_quiet ?_ (fun _ => ?_) fun e => trivial)
  · exact uses_ite (lib_quiet _) (uses_pure _)
  · exact wp_catch_finally req.walletId req.wallet (wp_send_sent rfl) (uses_ite (lib_quiet _) (uses_pure _))

theorem wp_runTemplate (req : Req TemplateBody) (h : req.body.template.rawInputs = []) :
    sendProtocol.wp (runTemplate req) ⟨req.walletId, req.wallet, .out⟩ (fun _ => SendGhost.Rests)
      (fun _ => SendGhost.Rests) := by
  refine wp_validated req (wp_lockSendTx (wp_send _ _ trivial) fun u => ?_) trivial
  refine wp_catch_finally req.walletId req.wallet ((Protocol.wp_bind ..).mpr ?_) (lib_quiet _)
  refine wp_quiet (uses_ite (lib_quiet _) (uses_pure _)) (fun _ => wp_send_sent h) fun e => ?_
  exact .inl ⟨_, rfl, rfl⟩

theorem NanoBody.build_inputs (body : NanoBody) (isInitialize : Bool) :
    (body.build isInitialize).inputs = [] := by
  unfold NanoBody.build
  dsimp only
  split <;> rfl

/-- The handlers of the automatic sends follow the protocol. -/
theorem automatic_wp {req : Request} (h : AutomaticSend req) :
    sendProtocol.wp req.handle (SendGhost.enter req) (fun _ => SendGhost.Rests)
      (fun _ => SendGhost.Rests) := by
  cases req with
  | simpleSendTx req => exact wp_lockedSend req fun u => wp_checked_send rfl fun tx => uses_pure _
  | sendTx req => exact wp_sendTx req h
  | createToken req => exact wp_lockedSend req fun u => wp_checked_send rfl tokenReply_uses
  | mintTokens req => exact wp_lockedSend req fun u => wp_checked_send rfl fun tx => uses_pure _
  | meltTokens req => exact wp_lockedSend req fun u => wp_checked_send rfl fun tx => uses_pure _
  | createNft req => exact wp_lockedSend req fun u => wp_checked_send rfl tokenReply_uses
  | createNanoContract req =>
      exact wp_lockedSend req fun u => wp_plain_send (req.body.build_inputs true) fun tx => uses_pure _
  | executeNanoContractMethod req =>
      exact wp_lockedSend req fun u => wp_plain_send (req.body.build_inputs false) fun tx => uses_pure _
  | createOnChainBlueprint req => exact wp_lockedSend req fun u => wp_plain_send rfl fun tx => uses_pure _
  | runTemplate req => exact wp_runTemplate req h
  | _ => exact h.elim

end WalletHeadless
