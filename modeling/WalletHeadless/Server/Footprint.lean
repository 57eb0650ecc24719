import WalletHeadless.Controllers.Keeps
import WalletHeadless.Coop.Conclusion
import WalletHeadless.Services.Lifecycle

/-!
# The footprints of the handlers

A handler asks only what its request lets it, and replies once: a request for a wallet acts on that wallet, under its
wallet id.

* `serving`, `Replies`, `RepliesEarly`: the reply is what concludes a handler;
* `SpendOp`, `OfferOp`, `MarkOp`, `UnlockOp`, `SwapOp`: the calls of the handlers that send, that build a proposal, that
  mark its inputs, that unlock them, and of the handlers of atomic swaps;
* `StartsOp`, `StopsOp`, `ReloadsOp`: the calls of the handlers that start a wallet, and of those that stop it;
* `simpleSendTx_replies`, …: the handlers.
-/

namespace WalletHeadless

open Coop Js
open Prog (uses_ask uses_orThrow)
open Conclusion (Concludes ConcludesEarly ConcludesCalmly)

/-- What comes of a request. -/
inductive Outcome
  | answered
  /-- A promise that nobody handles is rejected. -/
  | rejected
deriving DecidableEq

/-- A handler is concluded by its reply. -/
def serving : Conclusion Op.Ans Outcome where
  outcome
    | .send _ => some .answered
    | _ => none

/-- The handler replies before it returns, and has not replied when it throws. -/
abbrev Replies (F : serving.Footprint) (handler : Async Unit) : Prop := Concludes F .answered handler

/-- The handler replies before it returns; when it throws it may have replied. -/
abbrev RepliesEarly (F : serving.Footprint) (handler : Async Unit) : Prop := ConcludesEarly F .answered handler

/-! ## What the handlers ask -/

/-- The calls of a send from the wallet `w`. -/
def SpendOp (walletId : String) (w : WalletRef) : Op → Prop
  | .wallet (.build v _) | .wallet (.prepareTx v _) | .wallet (.updateOutputSelected v _) => v = w
  | .wallet (.runFromMining v _) => v = w
  | .lock (.lockSendTx id) => id = walletId
  | .lock (.unlock _) => True
  | c => QuietOp c

/-- The calls of a proposal of the wallet `w`. -/
def OfferOp (w : WalletRef) : Op → Prop
  | .wallet (.build v _) | .wallet (.markUtxoSelected v _ true _) => v = w
  | c => QuietOp c

/-- The calls that mark utxos of the wallet `w`, or unmark them. -/
def MarkOp (w : WalletRef) : Op → Prop
  | .wallet (.markUtxoSelected v ..) => v = w
  | c => QuietOp c

/-- The calls that give the inputs of a proposal of the wallet `w` back. -/
def UnlockOp (walletId : String) (w : WalletRef) : Op → Prop
  | .wallet (.markUtxoSelected v _ false _) => v = w
  | .lock (.getWalletLock id) => id = walletId
  | .lock (.lockOn _ _) | .lock (.unlockOn _ _) => True
  | c => QuietOp c

/-- The calls of an atomic swap of the wallet `w`. -/
def SwapOp (walletId : String) (w : WalletRef) : Op → Prop
  | .wallet (.addSend v ..) => v = w
  | .proposals (.getProposals id) | .proposals (.addProposal id _ _) | .proposals (.removeProposal id _) => id = walletId
  | .proposals .featureToggle | .proposals (.getProposal ..) | .proposals (.proposalIds _) => True
  | c => QuietOp c

/-- The calls of a start of the wallet id `walletId`. -/
def StartsOp (walletId : Option String) : Op → Prop
  | .wallet (.start _) => True
  | .registry (.getWallet _) | .registry (.newWallet ..) | .registry (.setExternalTxSigningMethod ..) => True
  | .registry (.setWallet id _) | .registry (.setLogger id) | .registry (.setHsmWallet id _) => walletId = some id
  | c => QuietOp c

/-- The calls of a stop of the wallet with the id `walletId`. -/
def StopsOp (walletId : String) : Op → Prop
  | .wallet (.stop _) => True
  | .registry (.getWallet id) | .registry (.hasHsmWallet id) | .registry (.deleteHsmWallet id) => id = walletId
  | .registry (.deleteWallet id) | .registry (.deleteLogger id) => id = walletId
  | .lock (.delete id) | .proposals (.deleteProposals id) => id = walletId
  | .tick => True
  | _ => False

theorem QuietOp.spend {walletId : String} {w : WalletRef} {c : Op} (h : QuietOp c) : SpendOp walletId w c := by
  cases c with
  | wallet c => exact h.elim
  | lock c => cases c <;> first | exact h | exact h.elim
  | _ => exact h

theorem QuietOp.offer {w : WalletRef} {c : Op} (h : QuietOp c) : OfferOp w c := by
  cases c with
  | wallet c => exact h.elim
  | _ => exact h

theorem QuietOp.mark {w : WalletRef} {c : Op} (h : QuietOp c) : MarkOp w c := by
  cases c with
  | wallet c => exact h.elim
  | _ => exact h

theorem QuietOp.unlock {walletId : String} {w : WalletRef} {c : Op} (h : QuietOp c) : UnlockOp walletId w c := by
  cases c with
  | wallet c => exact h.elim
  | lock c => cases c <;> trivial
  | _ => exact h

theorem QuietOp.swap {walletId : String} {w : WalletRef} {c : Op} (h : QuietOp c) : SwapOp walletId w c := by
  cases c with
  | wallet c => exact h.elim
  | proposals c => exact h.elim
  | _ => exact h

theorem QuietOp.starts {walletId : Option String} {c : Op} (h : QuietOp c) : StartsOp walletId c := by
  cases c with
  | wallet c => exact h.elim
  | registry c => cases c <;> trivial
  | _ => exact h

theorem LocalOp.quiet {c : Op} (h : LocalOp c) : QuietOp c := by
  cases c with
  | registry c => cases c <;> trivial
  | lock c => exact h.elim
  | settings c => exact h.elim
  | proposals c => exact h.elim
  | wallet c => exact h.elim
  | hsm c => exact h.elim
  | _ => trivial

/-- Calls among which there is no reply. -/
def footprintOf (asks : Op → Prop) (h : ∀ reply, ¬ asks (.send reply)) : serving.Footprint where
  asks := asks
  quiet c hc := by
    cases c with
    | send reply => exact absurd hc (h reply)
    | _ => rfl

namespace Footprint

def spend (walletId : String) (w : WalletRef) : serving.Footprint := footprintOf (SpendOp walletId w) fun _ => id
def offer (w : WalletRef) : serving.Footprint := footprintOf (OfferOp w) fun _ => id
def mark (w : WalletRef) : serving.Footprint := footprintOf (MarkOp w) fun _ => id
def unlock (walletId : String) (w : WalletRef) : serving.Footprint := footprintOf (UnlockOp walletId w) fun _ => id
def swap (walletId : String) (w : WalletRef) : serving.Footprint := footprintOf (SwapOp walletId w) fun _ => id
def start (walletId : Option String) : serving.Footprint := footprintOf (StartsOp walletId) fun _ => id
def stop (walletId : String) : serving.Footprint := footprintOf (StopsOp walletId) fun _ => id
def reload : serving.Footprint := footprintOf ReloadOp fun _ => id

end Footprint

/-! ## The parts of the handlers -/

section
variable {A : Op → Prop} (hq : ∀ c, QuietOp c → A c)
include hq

theorem quiet_lib (c : LibCall) : (lib c).Uses A := (lib_quiet c).mono hq

omit hq in
theorem call_uses {c : WalletCall} (h : A (.wallet c)) : (Prog.attempt (ask (.wallet c))).Uses A :=
  Prog.Uses.attempt (uses_ask h)

theorem quiet_await {α : Type} {p : Async α} (hp : p.Uses A) : (await p).Uses A := uses_await (hq .tick trivial) hp

theorem quiet_signing {α : Type} {p : Async α} (hp : p.Uses SigningOp) : p.Uses A := hp.mono fun _ h => hq _ h.quiet

theorem quiet_local {α : Type} {p : Async α} (hp : p.Uses LocalOp) : p.Uses A := hp.mono fun _ h => hq _ h.quiet

theorem quiet_getConfig : getConfig.Uses A := getConfig_uses.mono fun _ h => hq _ h.signing.quiet

/-! ## Sending -/

theorem checkChangeAddress_uses (w : WalletRef) (changeAddress : Option String) :
    (checkChangeAddress w changeAddress).Uses A := by
  unfold checkChangeAddress
  split
  · exact uses_pure _
  · exact uses_bind (quiet_lib hq _) fun mine => uses_ite (uses_pure _) (uses_throwThe _)

theorem tokenReply_quiet (tx : Transaction) : (tokenReply tx).Uses A :=
  uses_bind (quiet_lib hq _) fun _ => uses_pure _

theorem getUtxosToFillTx_uses (w : WalletRef) (sumOutputs : Nat) (options : Query) :
    (getUtxosToFillTx w sumOutputs options).Uses A :=
  uses_bind (quiet_lib hq _) fun _ => uses_orThrow _ _

theorem queryInputs_uses (w : WalletRef) (query : Query) (tokens : List (String × Nat)) :
    (queryInputs w query tokens).Uses A := by
  induction tokens with
  | nil => exact uses_pure _
  | cons token tokens ih =>
      refine uses_bind (quiet_await hq (getUtxosToFillTx_uses hq _ _ _)) fun utxos => ?_
      split
      · exact uses_pure _
      · refine uses_bind ih fun rest => ?_
        split
        · exact uses_pure _
        · exact uses_pure _

theorem prepareTxFunds_uses (w : WalletRef) (outputs : List OutputParam) (inputs : List InputParam)
    (defaultToken : String) : (prepareTxFunds w outputs inputs defaultToken).Uses A := by
  refine uses_bind (uses_orThrow _ _) fun tokens => ?_
  split
  · exact uses_pure _
  · refine uses_bind (queryInputs_uses hq _ _ _) fun utxos => ?_
    split
    · exact uses_pure _
    · exact uses_pure _
  · exact uses_pure _

/-- Building a transaction asks what the signing method asks, and `build`. -/
theorem buildTransaction_quiet (w : WalletRef) (b : Build) (hbuild : A (.wallet (.build w b))) :
    (buildTransaction w b).Uses A := by
  refine uses_bind (call_uses hbuild) fun sendTx => ?_
  split
  · exact uses_pure _
  · exact uses_bind (uses_ite (quiet_signing hq (signTx_uses w _)) (uses_pure _)) fun _ => uses_pure _

theorem addAllSignatures_quiet (inputData : String) (signatures : List String) :
    (addAllSignatures inputData signatures).Uses A := by
  induction signatures generalizing inputData with
  | nil => exact uses_pure _
  | cons sig sigs ih => exact uses_bind (quiet_lib hq _) fun inputData => ih inputData

theorem assembleTransaction_quiet (w : WalletRef) (partialTx : String) (signatures : List String) :
    (assembleTransaction w partialTx signatures).Uses A :=
  uses_bind (quiet_lib hq _) fun _ => uses_bind (quiet_lib hq _) fun _ => uses_bind (quiet_lib hq _) fun _ =>
    uses_bind (quiet_lib hq _) fun _ => uses_bind (addAllSignatures_quiet hq _ _) fun _ =>
      uses_bind (quiet_lib hq _) fun _ => uses_ite (quiet_lib hq _) (uses_throwThe _)

theorem assemblePartialTransaction_uses (w : WalletRef) (txHex : String) (signatures : List String) :
    (assemblePartialTransaction w txHex signatures).Uses A :=
  uses_bind (quiet_lib hq _) fun _ => uses_ite (uses_throwThe _)
    (uses_bind (quiet_lib hq _) fun _ => uses_bind (quiet_lib hq _) fun _ => uses_pure _)

/-! ## Proposals -/

omit hq in
theorem prepareData_uses (w : WalletRef) (b : Build) (hbuild : A (.wallet (.build w b))) :
    (prepareData w b).Uses A := by
  refine uses_bind (call_uses hbuild) fun sendTx => ?_
  split
  · exact uses_throwThe _
  · exact uses_pure _

omit hq in
theorem markUtxosSelectedAsInput_uses (w : WalletRef) (mark : Bool) (utxos : List Utxo) (ttl : Option Nat)
    (hmark : ∀ u, A (.wallet (.markUtxoSelected w u mark ttl))) :
    (markUtxosSelectedAsInput w mark utxos ttl).Uses A := by
  induction utxos with
  | nil => exact uses_pure _
  | cons u us ih => exact uses_bind (call_uses (hmark u)) fun _ => ih

theorem markIfUsed_uses (w : WalletRef) (markAsUsed : Bool) (tx : Transaction)
    (hmark : ∀ u, A (.wallet (.markUtxoSelected w u true none))) : (markIfUsed w markAsUsed tx).Uses A :=
  uses_ite (quiet_await hq (markUtxosSelectedAsInput_uses w true _ none hmark)) (uses_pure _)

end

section
variable {walletId : String} {w : WalletRef}

/-! ## Atomic swaps -/

theorem swap_lib (c : LibCall) : (lib c).Uses (SwapOp walletId w) := quiet_lib (fun _ => QuietOp.swap) c

theorem getListenedProposals_uses : (await (getListenedProposals walletId)).Uses (SwapOp walletId w) :=
  quiet_await (fun _ => QuietOp.swap) (uses_ask (c := Op.proposals (.getProposals walletId)) rfl)

theorem listenedProposal_uses (m : Option ProposalsRef) (proposalId : String) :
    (listenedProposal m proposalId).Uses (SwapOp walletId w) := by
  unfold listenedProposal
  split
  · exact uses_pure _
  · exact uses_ask (c := Op.proposals (.getProposal _ _)) trivial

theorem serviceGet_uses (proposalId : String) (password : Option String) :
    (await (serviceGet proposalId password)).Uses (SwapOp walletId w) := by
  refine quiet_await (fun _ => QuietOp.swap) (uses_ite (uses_throwThe _) ?_)
  split
  · exact uses_throwThe _
  · refine uses_bind (swap_lib _) fun proposal => ?_
    split
    · exact uses_throwThe _
    · exact uses_pure _

theorem addListenedProposal_uses (proposalId password : String) :
    (await (addListenedProposal walletId proposalId password)).Uses (SwapOp walletId w) :=
  quiet_await (fun _ => QuietOp.swap) (uses_ask (c := Op.proposals (.addProposal walletId proposalId password)) rfl)

theorem removeListenedProposal_uses (proposalId : String) :
    (await (removeListenedProposal walletId proposalId)).Uses (SwapOp walletId w) :=
  quiet_await (fun _ => QuietOp.swap) (uses_ask (c := Op.proposals (.removeProposal walletId proposalId)) rfl)

theorem serviceCreate_uses (partialTx : String) (password : Option String) :
    (serviceCreate walletId partialTx password).Uses (SwapOp walletId w) := by
  refine uses_ite (uses_throwThe _) ?_
  split
  · exact uses_throwThe _
  · exact uses_bind (swap_lib _) fun created => uses_ite
      (uses_bind (addListenedProposal_uses _ _) fun _ => uses_pure _) (uses_throwThe _)

theorem updateProposal_quiet (proposalId : String) {params : String → Async SwapUpdate}
    (hparams : ∀ password, (params password).Uses (SwapOp walletId w)) :
    (updateProposal walletId proposalId params).Uses (SwapOp walletId w) := by
  have hupdate (updateParams : SwapUpdate) : (serviceUpdate updateParams).Uses (SwapOp walletId w) :=
    uses_ite (uses_throwThe _) (uses_ite (uses_throwThe _) (uses_bind (swap_lib _) fun _ =>
      uses_ite (uses_pure _) (uses_throwThe _)))
  refine uses_bind getListenedProposals_uses fun listenedProposals => ?_
  refine uses_bind (listenedProposal_uses _ _) fun requestedProposal => ?_
  split
  · exact uses_pure _
  · exact uses_bind (hparams _) fun _ => uses_bind (quiet_await (fun _ => QuietOp.swap) (hupdate _)) fun _ => uses_pure _

theorem offeredUtxos_uses (utxos : List Utxo) : (offeredUtxos w utxos).Uses (SwapOp walletId w) := by
  induction utxos with
  | nil => exact uses_pure _
  | cons utxo utxos ih =>
      refine uses_bind (swap_lib _) fun outputs => ?_
      split
      · exact ih
      · refine uses_bind (swap_lib _) fun canUse => uses_ite ?_ ih
        split
        · exact uses_throwThe _
        · refine uses_bind (swap_lib _) fun addressIndex => uses_bind ?_ fun _ => uses_bind ih fun _ => uses_pure _
          split
          · exact swap_lib _
          · exact uses_pure _

theorem chosenUtxos_uses (utxos : Option (List Utxo)) : (chosenUtxos w utxos).Uses (SwapOp walletId w) := by
  unfold chosenUtxos
  split
  · exact uses_pure _
  · refine uses_bind (offeredUtxos_uses _) fun offered => ?_
    split
    · exact uses_throwThe _
    · exact uses_pure _

theorem addSends_uses (proposal : String) (utxos : List OfferedUtxo) (changeAddress : Option String)
    (markAsSelected : Bool) (sends : List TokenToSend) :
    (addSends w proposal utxos changeAddress markAsSelected sends).Uses (SwapOp walletId w) := by
  induction sends with
  | nil => exact uses_pure _
  | cons send sends ih => exact uses_bind (uses_bind (call_uses rfl) fun _ => uses_pure _) fun _ => ih

theorem addReceives_uses (proposal : String) (receives : List TokenToReceive) :
    (addReceives proposal receives).Uses (SwapOp walletId w) := by
  induction receives with
  | nil => exact uses_pure _
  | cons receive receives ih => exact uses_bind (swap_lib _) fun _ => ih

theorem tellService_uses (proposal : String) (serviceParams : ServiceParams) :
    (tellService walletId proposal serviceParams).Uses (SwapOp walletId w) := by
  refine uses_bind (uses_ask (c := Op.proposals .featureToggle) trivial) fun toggle => uses_ite ?_ (uses_pure _)
  refine uses_ite (uses_bind (swap_lib _) fun _ => ?_) ?_
  · exact uses_bind (quiet_await (fun _ => QuietOp.swap) (serviceCreate_uses _ _)) fun _ => uses_pure _
  · split
    · exact uses_pure _
    · exact uses_bind (updateProposal_quiet _ fun _ => uses_bind (swap_lib _) fun _ => uses_pure _) fun _ => uses_pure _

end

/-! ## Starting and stopping -/

section
variable {id : Option String}

theorem starts_lib (c : LibCall) : (lib c).Uses (StartsOp id) := quiet_lib (fun _ => QuietOp.starts) c

theorem startsWallet_uses {walletId : String} (hid : id = some walletId) (walletConfig : WalletConfig) (config : Config)
    (key mode : Option String) : (await (startWallet walletId walletConfig config key mode)).Uses (StartsOp id) := by
  refine quiet_await (fun _ => QuietOp.starts) (uses_ite (uses_throwThe _) ?_)
  refine uses_bind (uses_ask (c := Op.registry (.newWallet ..)) trivial).attempt fun wallet => ?_
  refine uses_bind (starts_lib _) fun _ => uses_bind ?_ fun _ => ?_
  · split
    · exact starts_lib _
    · exact uses_pure _
  · refine uses_bind (call_uses trivial) fun _ => uses_bind (uses_ask (c := Op.registry (.setWallet walletId wallet)) hid)
      fun _ => uses_bind (uses_ask (c := Op.registry (.setLogger walletId)) hid) fun _ => ?_
    split
    · exact uses_ask (c := Op.registry (.setHsmWallet walletId _)) hid
    · exact uses_pure _

theorem registerSigningMethod_uses (walletId : String) (method : SigningMethod) :
    (registerSigningMethod walletId method).Uses (StartsOp id) := by
  refine uses_bind (uses_ask (c := Op.registry (.getWallet walletId)) trivial) fun wallet => ?_
  split
  · exact uses_throwThe _
  · exact uses_ask (c := Op.registry (.setExternalTxSigningMethod _ _)) trivial

theorem walletConfigOf_uses (body : StartBody) (config : Config) (multisigData : Option MultisigData)
    (scanPolicy : Option ScanPolicy) : (walletConfigOf body config multisigData scanPolicy).Uses (StartsOp id) := by
  unfold walletConfigOf
  split
  · exact uses_pure _
  · refine uses_bind (uses_orThrow _ _) fun seed => ?_
    split
    · exact uses_pure _
    · refine uses_tryCatch (uses_map ?_) fun _ => uses_ite (uses_pure _) (uses_throwThe _)
      refine uses_bind (uses_tryCatch (starts_lib _) fun _ => uses_ite (uses_throwThe _) (uses_throwThe _)) fun words => ?_
      split
      · exact uses_pure _
      · exact uses_ite (uses_pure _) (uses_throwThe _)

end

theorem stopsWallet_uses (walletId : String) : (await (stopWallet walletId)).Uses (StopsOp walletId) := by
  refine uses_await trivial (uses_bind (uses_ask (c := Op.registry (.getWallet walletId)) rfl) fun wallet => ?_)
  split
  · exact uses_pure _
  · refine uses_bind (uses_ask (c := Op.registry (.hasHsmWallet walletId)) rfl) fun isHsm => ?_
    refine uses_bind (uses_ite (uses_ask (c := Op.registry (.deleteHsmWallet walletId)) rfl) (uses_pure _)) fun _ => ?_
    exact uses_bind (call_uses trivial) fun _ => uses_bind (uses_ask (c := Op.registry (.deleteWallet walletId)) rfl)
      fun _ => uses_bind (uses_ask (c := Op.registry (.deleteLogger walletId)) rfl) fun _ =>
        uses_bind (uses_ask (c := Op.lock (.delete walletId)) rfl) fun _ =>
          uses_await trivial (uses_ask (c := Op.proposals (.deleteProposals walletId)) rfl)

/-! ## The handlers -/

theorem send_replies {F : serving.Footprint} (body : ReplyBody) : Replies F (send body) := Concludes.ask rfl rfl

theorem sendStatus_replies {F : serving.Footprint} (status : Nat) (body : ReplyBody) :
    Replies F (sendStatus status body) := Concludes.ask rfl rfl

/-- The part of a handler before its reply. -/
theorem replies_bind {F : serving.Footprint} {α : Type} {p : Async α} {f : α → Async Unit} (hp : p.Uses F.asks)
    (hf : ∀ a, Replies F (f a)) : Replies F (p >>= f) := .bind hp hf

theorem early_bind {F : serving.Footprint} {α : Type} {p : Async α} {f : α → Async Unit} (hp : p.Uses F.asks)
    (hf : ∀ a, RepliesEarly F (f a)) : RepliesEarly F (p >>= f) := .bind hp hf

theorem replies_tryCatch {F : serving.Footprint} {p : Async Unit} {h : JsError → Async Unit} (hp : Replies F p)
    (hh : ∀ e, Replies F (h e)) : Replies F (tryCatch p h) := .tryCatch hp hh

theorem replies_ite {F : serving.Footprint} {c : Prop} [Decidable c] {p p' : Async Unit} (hp : Replies F p)
    (hp' : Replies F p') : Replies F (if c then p else p') := .ite hp hp'

theorem replies_throw {F : serving.Footprint} (e : JsError) : Replies F (throw e) := .throw e

theorem validated_replies {F : serving.Footprint} {β : Type} (req : Req β) {handler : Async Unit}
    (h : RepliesEarly F handler) : RepliesEarly F (validated req handler) := by
  unfold validated
  split
  · exact (sendStatus_replies _ _).early
  · exact h

/-! ### Sending -/

section
variable {walletId : String} {w : WalletRef} {u : UnlockFn}

theorem spend_lib (c : LibCall) : (lib c).Uses (SpendOp walletId w) := quiet_lib (fun _ => QuietOp.spend) c

theorem runSendTransaction_uses (sendTx : SendTransaction) :
    (await (runSendTransaction w sendTx u)).Uses (SpendOp walletId w) := by
  have hprepared : (preparedTx w sendTx).Uses (SpendOp walletId w) := by
    unfold preparedTx
    split
    · exact uses_pure _
    · exact uses_bind (call_uses rfl) fun tx =>
        uses_bind (quiet_signing (fun _ => QuietOp.spend) (signTx_uses w tx)) fun _ => uses_pure _
  refine quiet_await (fun _ => QuietOp.spend) (uses_bind (Prog.Uses.andFinally ?_
    (uses_ask (c := Op.lock (.unlock u)) trivial)) fun tx => call_uses rfl)
  exact uses_bind hprepared fun tx => uses_bind (call_uses rfl) fun _ => uses_pure _

theorem buildAndSend_uses (b : Build) : (buildAndSend w b u).Uses (SpendOp walletId w) :=
  uses_bind (buildTransaction_quiet (fun _ => QuietOp.spend) w b rfl) fun sendTx => runSendTransaction_uses sendTx

/-- The errors of the body are the reply. -/
theorem lockedSend_calm {β : Type} (req : Req β) {body : UnlockFn → Async ReplyBody}
    (hbody : ∀ u, (body u).Uses (SpendOp req.walletId req.wallet)) :
    ConcludesCalmly (Footprint.spend req.walletId req.wallet) .answered (lockedSend req body) := by
  have hsend (reply : Reply) : ConcludesCalmly (Footprint.spend req.walletId req.wallet) .answered
      (ask (.send reply) : Async Unit) := ConcludesCalmly.ask rfl rfl
  unfold lockedSend validated
  split
  · exact hsend _
  · refine ConcludesCalmly.ask_bind (c := Op.lock (.lockSendTx req.walletId)) rfl fun taken => ?_
    split
    · exact hsend _
    · refine ConcludesCalmly.tryCatch (replies_bind (hbody _) fun reply => send_replies _) fun err => ?_
      exact ConcludesCalmly.ask_bind (c := Op.lock (.unlock _)) trivial fun _ => hsend _

theorem lockedSend_replies {β : Type} (req : Req β) {body : UnlockFn → Async ReplyBody}
    (hbody : ∀ u, (body u).Uses (SpendOp req.walletId req.wallet)) :
    RepliesEarly (Footprint.spend req.walletId req.wallet) (lockedSend req body) := (lockedSend_calm req hbody).early

theorem change_uses (changeAddress : Option String) (b : Build) {reply : Transaction → Async ReplyBody}
    (hreply : ∀ tx, (reply tx).Uses (SpendOp walletId w)) :
    (do
      checkChangeAddress w changeAddress
      let tx ← buildAndSend w b u
      reply tx).Uses (SpendOp walletId w) :=
  uses_bind (checkChangeAddress_uses (fun _ => QuietOp.spend) w changeAddress) fun _ =>
    uses_bind (buildAndSend_uses b) fun tx => hreply tx

end

section
variable {walletId : String} {w : WalletRef}

theorem simpleSendTx_replies (req : Req SimpleSendBody) :
    RepliesEarly (Footprint.spend req.walletId req.wallet) (simpleSendTx req) :=
  lockedSend_replies req fun _ => change_uses _ _ fun _ => uses_pure _

theorem createToken_replies (req : Req CreateTokenBody) :
    RepliesEarly (Footprint.spend req.walletId req.wallet) (createToken req) :=
  lockedSend_replies req fun _ => change_uses _ _ fun tx => tokenReply_quiet (fun _ => QuietOp.spend) tx

theorem mintTokens_replies (req : Req AuthorityBody) :
    RepliesEarly (Footprint.spend req.walletId req.wallet) (mintTokens req) :=
  lockedSend_replies req fun _ => change_uses _ _ fun _ => uses_pure _

theorem meltTokens_replies (req : Req AuthorityBody) :
    RepliesEarly (Footprint.spend req.walletId req.wallet) (meltTokens req) :=
  lockedSend_replies req fun _ => change_uses _ _ fun _ => uses_pure _

theorem utxoConsolidation_replies (req : Req ConsolidationBody) :
    RepliesEarly (Footprint.spend req.walletId req.wallet) (utxoConsolidation req) :=
  lockedSend_replies req fun _ => uses_bind (buildAndSend_uses _) fun _ => uses_pure _

theorem createNft_replies (req : Req CreateNftBody) :
    RepliesEarly (Footprint.spend req.walletId req.wallet) (createNft req) :=
  lockedSend_replies req fun _ => change_uses _ _ fun tx => tokenReply_quiet (fun _ => QuietOp.spend) tx

theorem executeNanoContractMethodHelper_calm (req : Req NanoBody) (isInitialize : Bool) :
    ConcludesCalmly (Footprint.spend req.walletId req.wallet) .answered
      (executeNanoContractMethodHelper req isInitialize) :=
  lockedSend_calm req fun _ => uses_bind (buildAndSend_uses _) fun _ => uses_pure _

theorem createOnChainBlueprint_replies (req : Req BlueprintBody) :
    RepliesEarly (Footprint.spend req.walletId req.wallet) (createOnChainBlueprint req) :=
  lockedSend_replies req fun _ => uses_bind (buildAndSend_uses _) fun _ => uses_pure _

theorem p2shSignAndPush_replies (req : Req SignAndPushBody) :
    RepliesEarly (Footprint.spend req.walletId req.wallet) (p2shSignAndPush req) :=
  lockedSend_replies req fun _ =>
    uses_bind (quiet_await (fun _ => QuietOp.spend) (assemblePartialTransaction_uses (fun _ => QuietOp.spend) _ _ _))
      fun _ => uses_bind (runSendTransaction_uses _) fun _ => uses_pure _

theorem swapSignAndPush_replies (req : Req SwapBody) :
    RepliesEarly (Footprint.spend req.walletId req.wallet) (swapSignAndPush req) :=
  lockedSend_replies req fun _ => uses_bind (assembleTransaction_quiet (fun _ => QuietOp.spend) _ _ _) fun _ =>
    uses_bind (runSendTransaction_uses _) fun _ => uses_pure _

theorem sendTx_replies (req : Req SendTxBody) :
    RepliesEarly (Footprint.spend req.walletId req.wallet) (sendTx req) := by
  have hs (c : Op) (h : QuietOp c) : SpendOp req.walletId req.wallet c := h.spend
  have hunlock (u : UnlockFn) : (unlock u).Uses (SpendOp req.walletId req.wallet) := uses_ask trivial
  refine validated_replies req (early_bind (uses_ask (c := Op.lock (.lockSendTx req.walletId)) rfl) fun taken => ?_)
  split
  · exact (send_replies _).early
  · refine early_bind (quiet_await hs (prepareTxFunds_uses hs _ _ _ _)) fun funds => ?_
    split
    · exact (replies_bind (hunlock _) fun _ => send_replies _).early
    · refine early_bind (uses_ite (spend_lib _) (uses_pure _)) fun _ => ?_
      refine Concludes.andFinally (replies_tryCatch ?_ fun err => ?_) (uses_ite (spend_lib _) (uses_pure _))
      · exact replies_bind (buildAndSend_uses _) fun tx => send_replies _
      · exact replies_bind (hunlock _) fun _ => send_replies _

theorem runTemplate_replies (req : Req TemplateBody) :
    RepliesEarly (Footprint.spend req.walletId req.wallet) (runTemplate req) := by
  refine validated_replies req (early_bind (uses_ask (c := Op.lock (.lockSendTx req.walletId)) rfl) fun taken => ?_)
  split
  · exact (send_replies _).early
  · refine Concludes.andFinally (replies_tryCatch ?_ fun err => ?_) (spend_lib _)
    · exact replies_bind (uses_ite (spend_lib _) (uses_pure _)) fun _ =>
        replies_bind (buildAndSend_uses _) fun tx => send_replies _
    · exact replies_bind (uses_ask (c := Op.lock (.unlock _)) trivial) fun _ => send_replies _

theorem buildTemplate_replies (req : Req TemplateBody) :
    RepliesEarly (Footprint.spend req.walletId req.wallet) (buildTemplate req) := by
  refine validated_replies req (early_bind (uses_ask (c := Op.lock (.lockSendTx req.walletId)) rfl) fun taken => ?_)
  split
  · exact (send_replies _).early
  · refine Concludes.andFinally (replies_tryCatch ?_ fun err => send_replies _)
      (uses_bind (uses_ask (c := Op.lock (.unlock _)) trivial) fun _ => spend_lib _)
    refine replies_bind (uses_ite (spend_lib _) (uses_pure _)) fun _ =>
      replies_bind (buildTransaction_quiet (fun _ => QuietOp.spend) _ _ rfl) fun sendTx => ?_
    split
    · exact replies_throw _
    · exact replies_bind (spend_lib _) fun hex => send_replies _

end

/-! ### Proposals -/

section
variable {F : serving.Footprint} (hq : ∀ c, QuietOp c → F.asks c)
include hq

theorem sendTxHex_replies (tx : Transaction) : Replies F (sendTxHex tx) :=
  replies_bind (quiet_lib hq _) fun _ => send_replies _

end

theorem buildTxProposal_replies (req : Req TxProposalBody) :
    RepliesEarly (Footprint.offer req.wallet) (buildTxProposal req) := by
  have hs (c : Op) (h : QuietOp c) : OfferOp req.wallet c := h.offer
  refine validated_replies req (Concludes.early (replies_bind ?_ fun mine => replies_ite ?_ (send_replies _)))
  · split
    · exact uses_pure _
    · exact quiet_lib hs _
  · refine replies_tryCatch (replies_bind (prepareData_uses _ _ rfl) fun txData => ?_) fun err => send_replies _
    exact replies_bind (markIfUsed_uses hs _ _ _ fun _ => rfl) fun _ => replies_bind (quiet_lib hs _) fun tx =>
      sendTxHex_replies hs tx

theorem buildCreateTokenTxProposal_replies (req : Req CreateTokenProposalBody) :
    RepliesEarly (Footprint.offer req.wallet) (buildCreateTokenTxProposal req) := by
  have hs (c : Op) (h : QuietOp c) : OfferOp req.wallet c := h.offer
  refine validated_replies req (Concludes.early (replies_tryCatch ?_ fun err => send_replies _))
  exact replies_bind (prepareData_uses _ _ rfl) fun tx => replies_bind (markIfUsed_uses hs _ _ _ fun _ => rfl) fun _ =>
    sendTxHex_replies hs tx

theorem authorityTxProposal_replies (req : Req AuthorityProposalBody) (b : Build) :
    RepliesEarly (Footprint.offer req.wallet) (authorityTxProposal req b) := by
  have hs (c : Op) (h : QuietOp c) : OfferOp req.wallet c := h.offer
  refine validated_replies req (Concludes.early (replies_tryCatch ?_ fun err => send_replies _))
  exact replies_bind (checkChangeAddress_uses hs _ _) fun _ => replies_bind (prepareData_uses _ _ rfl) fun tx =>
    replies_bind (markIfUsed_uses hs _ _ _ fun _ => rfl) fun _ => sendTxHex_replies hs tx

theorem utxosSelectedAsInput_replies (req : Req SelectedBody) :
    RepliesEarly (Footprint.mark req.wallet) (utxosSelectedAsInput req) := by
  have hs (c : Op) (h : QuietOp c) : MarkOp req.wallet c := h.mark
  refine validated_replies req (Concludes.early (replies_tryCatch ?_ fun err => send_replies _))
  exact replies_bind (quiet_lib hs _) fun tx => replies_bind (quiet_await hs
    (markUtxosSelectedAsInput_uses _ _ _ _ fun _ => rfl)) fun _ => send_replies _

theorem unlockInputs_replies (req : Req SwapBody) :
    RepliesEarly (Footprint.unlock req.walletId req.wallet) (unlockInputs req) := by
  refine validated_replies req (early_bind (uses_ask (c := Op.lock (.getWalletLock req.walletId)) rfl) fun l => ?_)
  refine early_bind (uses_ask (c := Op.lock (.lockOn l .SEND_TX)) trivial) fun canStart =>
    ConcludesEarly.ite ?_ (send_replies _).early
  refine Concludes.andFinally (replies_tryCatch ?_ fun err => send_replies _) ?_
  · exact replies_bind (quiet_lib (fun _ => QuietOp.unlock) _) fun tx =>
      replies_bind (markUtxosSelectedAsInput_uses _ false _ none fun _ => rfl) fun _ => send_replies _
  · exact uses_bind (uses_ask (c := Op.lock (.getWalletLock req.walletId)) rfl) fun l =>
      uses_ask (c := Op.lock (.unlockOn l .SEND_TX)) trivial

/-! ### Atomic swaps -/

theorem swapBuildTxProposal_replies (req : Req SwapProposalBody) :
    RepliesEarly (Footprint.swap req.walletId req.wallet) (swapBuildTxProposal req) := by
  have hcomplete (proposal : String) (utxos : List OfferedUtxo) (sends : List TokenToSend) :
      Replies (Footprint.swap req.walletId req.wallet) (completeProposal req proposal utxos sends) := by
    refine replies_tryCatch (replies_bind (addSends_uses _ _ _ _ _) fun _ => replies_bind ?_ fun _ =>
      replies_bind (tellService_uses _ _) fun told => ?_) fun err => send_replies _
    · split
      · exact uses_throwThe _
      · exact addReceives_uses _ _
    · split
      · exact sendStatus_replies _ _
      · exact replies_bind (swap_lib _) fun _ => replies_bind (swap_lib _) fun _ => send_replies _
  refine validated_replies req (Concludes.early ?_)
  split
  · exact replies_throw _
  · refine replies_bind (uses_orThrow _ _) fun empty => replies_ite (sendStatus_replies _ _) ?_
    refine replies_bind (uses_tryCatch (uses_map ?_) fun _ => uses_pure _) fun proposal => ?_
    · split
      · exact swap_lib _
      · exact swap_lib _
    split
    · exact send_replies _
    · refine replies_bind (uses_tryCatch (uses_map (chosenUtxos_uses _)) fun _ => uses_pure _) fun utxos => ?_
      split
      · exact sendStatus_replies _ _
      · exact hcomplete _ _ _

theorem signTxProposal_replies (req : Req SwapSignBody) :
    RepliesEarly (Footprint.swap req.walletId req.wallet) (signTxProposal req) := by
  have hs (c : Op) (h : QuietOp c) : SwapOp req.walletId req.wallet c := h.swap
  have hreply (tx : Transaction) : Replies (Footprint.swap req.walletId req.wallet) (replyHex tx) :=
    replies_bind (swap_lib _) fun _ => send_replies _
  refine validated_replies req (Concludes.early (replies_tryCatch (replies_bind (assembleTransaction_quiet hs _ _ _)
    fun tx => ?_) fun err => send_replies _))
  refine replies_bind (uses_ask (c := Op.proposals .featureToggle) trivial) fun toggle => ?_
  split
  · exact hreply tx
  · exact replies_bind (updateProposal_quiet _ fun _ => uses_pure _) fun _ =>
      replies_ite (hreply tx) (sendStatus_replies _ _)

theorem fetchFromService_replies (req : Req String) :
    RepliesEarly (Footprint.swap req.walletId req.wallet) (fetchFromService req) := by
  refine Concludes.early (replies_bind (uses_ask (c := Op.proposals .featureToggle) trivial) fun toggle =>
    replies_ite ?_ (sendStatus_replies _ _))
  refine replies_bind getListenedProposals_uses fun listenedProposals => ?_
  refine replies_bind (listenedProposal_uses _ _) fun requestedProposal => ?_
  split
  · exact sendStatus_replies _ _
  · refine replies_tryCatch (replies_bind (serviceGet_uses _ _) fun _ => send_replies _) fun err =>
      replies_ite ?_ (send_replies _)
    split
    · exact replies_throw _
    · exact replies_ite (replies_bind (removeListenedProposal_uses _) fun _ => sendStatus_replies _ _) (send_replies _)

theorem listenedProposalList_replies (req : Req Unit) :
    RepliesEarly (Footprint.swap req.walletId req.wallet) (listenedProposalList req) := by
  refine Concludes.early (replies_bind getListenedProposals_uses fun listenedProposals => ?_)
  split
  · exact send_replies _
  · exact replies_bind (uses_ask (c := Op.proposals (.proposalIds _)) trivial) fun _ => send_replies _

theorem registerProposal_replies (req : Req RegisterBody) :
    RepliesEarly (Footprint.swap req.walletId req.wallet) (registerProposal req) := by
  refine Concludes.early (replies_bind getListenedProposals_uses fun proposalMap => ?_)
  refine replies_bind (listenedProposal_uses _ _) fun existingProposal => ?_
  split
  · exact replies_ite (send_replies _) (send_replies _)
  · refine replies_tryCatch (replies_bind (serviceGet_uses _ _) fun proposal => ?_) fun err => send_replies _
    split
    · exact replies_throw _
    · exact replies_bind (addListenedProposal_uses _ _) fun _ => send_replies _

theorem deleteListenedProposal_replies (req : Req String) :
    RepliesEarly (Footprint.swap req.walletId req.wallet) (deleteListenedProposal req) :=
  (replies_tryCatch (replies_bind (removeListenedProposal_uses _) fun _ => send_replies _) fun _ =>
    send_replies _).early

/-! ### Starting and stopping -/

theorem start_replies (body : StartBody) : RepliesEarly (Footprint.start body.walletId) (start body) := by
  refine Concludes.early (replies_bind (quiet_getConfig fun _ => QuietOp.starts) fun config => ?_)
  split
  · exact send_replies _
  · split
    next => exact send_replies _
    next walletId hid =>
      refine replies_bind (uses_ask (c := Op.registry (.getWallet _)) trivial) fun wallet => ?_
      split
      · exact send_replies _
      · unfold startFree
        split
        · exact send_replies _
        · split
          · exact send_replies _
          · refine replies_bind (walletConfigOf_uses _ _ _ _) fun walletConfig => ?_
            split
            · exact send_replies _
            · exact replies_tryCatch (replies_bind (startsWallet_uses hid ..) fun _ => send_replies _) fun _ =>
                send_replies _

/-- A start that sets a signing method. -/
theorem startSigned_replies {id : Option String} {walletId : String} (hid : id = some walletId)
    (walletConfig : WalletConfig) (config : Config) (key : Option String) (method : SigningMethod) (message : String) :
    Replies (Footprint.start id) (tryCatch (do
      await (startWallet walletId walletConfig config key)
      registerSigningMethod walletId method
      send .ok) fun _ => sendStatus 500 (.message message none)) :=
  replies_tryCatch (replies_bind (startsWallet_uses hid ..) fun _ => replies_bind (registerSigningMethod_uses ..) fun _ =>
    send_replies _) fun _ => sendStatus_replies _ _

theorem startHsmWallet_replies (body : StartHsmBody) :
    RepliesEarly (Footprint.start (truthy body.walletId)) (startHsmWallet body) := by
  have hs (c : Op) (h : QuietOp c) : StartsOp (truthy body.walletId) c := h.starts
  have hdisconnect : (await hsmDisconnect).Uses (StartsOp (truthy body.walletId)) :=
    quiet_signing hs (uses_await trivial hsmDisconnect_uses)
  have hconnected {walletId : String} (hid : truthy body.walletId = some walletId) (hsmKeyName : String) :
      RepliesEarly (Footprint.start (truthy body.walletId)) (startConnected walletId hsmKeyName) := by
    refine early_bind (quiet_local hs (uses_await trivial (isKeyValidXpriv_local _))) fun reason => ?_
    split
    · exact Concludes.andThen (send_replies _) fun _ => hdisconnect
    · have hderive : (await (deriveMainKeysFromRoot hsmKeyName)).Uses LocalOp :=
        uses_await trivial (deriveMainKeysFromRoot_local _)
      refine early_bind (uses_tryCatch (uses_bind (quiet_local hs hderive) fun _ =>
        uses_map (quiet_await hs (starts_lib _))) fun _ => uses_pure _) fun xPub => ?_
      split
      · exact Concludes.andThen (send_replies _) fun _ => hdisconnect
      · exact early_bind hdisconnect fun _ => early_bind (quiet_getConfig hs) fun config =>
          (startSigned_replies hid _ _ _ _ _).early
  unfold startHsmWallet
  split
  next => exact (send_replies _).early
  next walletId hid =>
    refine early_bind (uses_ask (c := Op.registry (.getWallet _)) trivial) fun wallet => ?_
    split
    · exact (send_replies _).early
    · split
      · exact (send_replies _).early
      · refine early_bind (uses_tryCatch (uses_map (quiet_signing hs (uses_await trivial hsmConnect_uses))) fun _ =>
          uses_pure _) fun connected => ?_
        split
        · exact ConcludesEarly.ite (send_replies _).early (Concludes.andThen (send_replies _) fun _ => hdisconnect)
        · exact hconnected hid _

theorem startFireblocksWallet_replies (body : StartFireblocksBody) :
    RepliesEarly (Footprint.start (truthy body.walletId)) (startFireblocksWallet body) := by
  have hs (c : Op) (h : QuietOp c) : StartsOp (truthy body.walletId) c := h.starts
  have hclient : startClient.Uses (StartsOp (truthy body.walletId)) := by
    refine uses_bind (quiet_getConfig hs) fun config => ?_
    split
    · exact uses_pure _
    · exact uses_bind (starts_lib _) fun _ => uses_pure _
  have hcheck (xpub : String) : (checkFireblocksKey xpub).Uses (StartsOp (truthy body.walletId)) :=
    uses_tryCatch (uses_bind (quiet_await hs (starts_lib _)) fun _ => uses_bind (starts_lib _) fun _ =>
      uses_ite (uses_pure _) (uses_pure _)) fun _ => uses_pure _
  refine Concludes.early ?_
  unfold startFireblocksWallet
  split
  next => exact send_replies _
  next => exact send_replies _
  next walletId xpub hid _ =>
    refine replies_bind (uses_ask (c := Op.registry (.getWallet _)) trivial) fun wallet => ?_
    split
    · exact send_replies _
    · refine replies_bind (quiet_getConfig hs) fun config => replies_ite ?_ (send_replies _)
      refine replies_bind hclient fun _ => replies_bind (hcheck _) fun reply => ?_
      split
      · exact sendStatus_replies _ _
      · exact startSigned_replies hid _ _ _ _ _

theorem stop_replies (walletId : String) : RepliesEarly (Footprint.stop walletId) (stop walletId) :=
  (replies_bind (stopsWallet_uses walletId) fun _ => send_replies _).early

theorem reloadConfig_replies (rounds : Nat) : RepliesEarly Footprint.reload (reloadConfig rounds) :=
  (replies_bind (uses_await trivial (reload_uses rounds)) fun _ => send_replies _).early

end WalletHeadless
