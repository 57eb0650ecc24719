import WalletHeadless.Server.Requests
import WalletHeadless.Services.Asks

/-!
# What the handlers keep

A protocol whose invariant is kept by the calm calls is kept by the handlers that start a wallet when it is kept
by `startWallet`, and by the handlers of atomic swaps when it is kept by the calls that add and remove proposals.

* `CalmOp`: the calls that only read what the handlers share, or have nothing to do with it;
* `starts_keeps`: the three handlers that start a wallet;
* `swapBuildTxProposal_keeps`, `signTxProposal_keeps`, …: the handlers of atomic swaps.
-/

namespace WalletHeadless

open Coop Js
open Prog (uses_ask uses_orThrow)
open Protocol (keeps_bind keeps_pure keeps_throw keeps_tryCatch keeps_ite keeps_map keeps_of_uses keeps_orThrow)

/-- The calls that leave the wallets, the settings and the proposals alone. -/
def CalmOp : Op → Prop
  | .lib _ | .tick | .sleep _ | .hsm _ | .send _ | .wallet (.addSend ..) => True
  | .lock (.lockOn l ty) | .lock (.unlockOn l ty) => l = .globalLock ∧ ty = .HSM
  | .registry .getConfig | .registry (.getWallet _) | .registry (.hasHsmWallet _) => True
  | .registry (.setExternalTxSigningMethod ..) | .registry (.getTxSignatureMethod _) => True
  | .proposals .featureToggle | .proposals (.getProposals _) | .proposals (.getProposal ..) => True
  | .proposals (.proposalIds _) => True
  | _ => False

theorem SigningOp.calm {c : Op} (h : SigningOp c) : CalmOp c := by
  cases c with
  | lock c => cases c <;> exact h
  | registry c => cases c <;> trivial
  | settings c => exact h.elim
  | proposals c => exact h.elim
  | wallet c => exact h.elim
  | _ => trivial

theorem LocalOp.calm {c : Op} (h : LocalOp c) : CalmOp c := by
  cases c with
  | registry c => cases c <;> trivial
  | lock c => exact h.elim
  | settings c => exact h.elim
  | proposals c => exact h.elim
  | wallet c => exact h.elim
  | _ => trivial

/-- The requests that start a wallet. -/
def Request.StartsWallet : Request → Prop
  | start _ | startHsmWallet _ | startFireblocksWallet _ => True
  | _ => False

/-- The HSM key that a start gives to its wallet. -/
def Request.hsmKey : Request → Option String
  | startHsmWallet body => truthy body.hsmKey
  | _ => none

theorem truthy_truthy {s : Option String} {x : String} (h : truthy s = some x) : truthy (some x) = some x :=
  Option.filter_eq_some_iff.mpr ⟨rfl, (Option.filter_eq_some_iff.mp h).2⟩

section
variable {Q : Type} {P : Protocol Op.Ans Q} {I : Q → Prop} {α : Type}

theorem keeps_await (hcalm : ∀ c, CalmOp c → P.Keeps I (Prog.ask c : Async c.Ans)) {p : Async α}
    (hp : P.Keeps I p) : P.Keeps I (await p) :=
  keeps_bind (keeps_tryCatch hp fun e => keeps_bind (hcalm .tick trivial) fun _ => keeps_throw e) fun a =>
    keeps_bind (hcalm .tick trivial) fun _ => keeps_pure a

variable (hcalm : ∀ c, CalmOp c → P.Keeps I (Prog.ask c : Async c.Ans))
include hcalm

theorem lib_keeps (c : LibCall) : P.Keeps I (lib c) := Protocol.keeps_attempt (hcalm (.lib c) trivial)

theorem send_keeps (body : ReplyBody) : P.Keeps I (send body) := hcalm (.send _) trivial

theorem sendStatus_keeps (status : Nat) (body : ReplyBody) : P.Keeps I (sendStatus status body) :=
  hcalm (.send _) trivial

theorem getConfig_keeps : P.Keeps I getConfig := Protocol.keeps_attempt (hcalm (.registry .getConfig) trivial)

theorem local_keeps {p : Async α} (hp : p.Uses LocalOp) : P.Keeps I p := keeps_of_uses hp fun _ hc => hcalm _ hc.calm

theorem signing_keeps {p : Async α} (hp : p.Uses SigningOp) : P.Keeps I p :=
  keeps_of_uses hp fun _ hc => hcalm _ hc.calm

/-! ## Starting a wallet -/

theorem registerSigningMethod_keeps (walletId : String) (method : SigningMethod) :
    P.Keeps I (registerSigningMethod walletId method) := by
  refine keeps_bind (hcalm (.registry (.getWallet walletId)) trivial) fun wallet => ?_
  split
  · exact keeps_throw _
  · exact hcalm (.registry (.setExternalTxSigningMethod _ _)) trivial

theorem walletConfigOf_keeps (body : StartBody) (config : Config) (multisigData : Option MultisigData)
    (scanPolicy : Option ScanPolicy) : P.Keeps I (walletConfigOf body config multisigData scanPolicy) := by
  unfold walletConfigOf
  split
  · exact keeps_pure _
  · refine keeps_bind (keeps_orThrow _) fun seed => ?_
    split
    · exact keeps_pure _
    · refine keeps_tryCatch (keeps_map ?_) fun _ => keeps_ite (keeps_pure _) (keeps_throw _)
      refine keeps_bind (keeps_tryCatch (lib_keeps hcalm _) fun _ => keeps_ite (keeps_throw _) (keeps_throw _))
        fun words => ?_
      split
      · exact keeps_pure _
      · exact keeps_ite (keeps_pure _) (keeps_throw _)

theorem start_keeps (body : StartBody) (hstart : ∀ walletId walletConfig config mode,
    P.Keeps I (startWallet walletId walletConfig config none mode)) : P.Keeps I (start body) := by
  refine keeps_bind (getConfig_keeps hcalm) fun config => ?_
  split
  · exact send_keeps hcalm _
  · split
    · exact send_keeps hcalm _
    · refine keeps_bind (hcalm (.registry (.getWallet _)) trivial) fun wallet => ?_
      split
      · exact send_keeps hcalm _
      · unfold startFree
        split
        · exact send_keeps hcalm _
        · split
          · exact send_keeps hcalm _
          · refine keeps_bind (walletConfigOf_keeps hcalm _ _ _ _) fun walletConfig => ?_
            split
            · exact send_keeps hcalm _
            · exact keeps_tryCatch (keeps_bind (keeps_await hcalm (hstart _ _ _ _)) fun _ => send_keeps hcalm _)
                fun _ => send_keeps hcalm _

/-- A start that sets a signing method. -/
theorem startSigned_keeps (walletId : String) (walletConfig : WalletConfig) (config : Config) (key : Option String)
    (method : SigningMethod) (message : String) (hstart : P.Keeps I (startWallet walletId walletConfig config key)) :
    P.Keeps I (tryCatch (do
      await (startWallet walletId walletConfig config key)
      registerSigningMethod walletId method
      send .ok) fun _ => sendStatus 500 (.message message none)) :=
  keeps_tryCatch (keeps_bind (keeps_await hcalm hstart) fun _ =>
    keeps_bind (registerSigningMethod_keeps hcalm walletId method) fun _ => send_keeps hcalm _) fun _ =>
      sendStatus_keeps hcalm _ _

theorem startConnected_keeps (walletId key : String) (hstart : ∀ walletConfig config,
    P.Keeps I (startWallet walletId walletConfig config (some key))) : P.Keeps I (startConnected walletId key) := by
  have hdisconnect : P.Keeps I (await hsmDisconnect) := signing_keeps hcalm (uses_await trivial hsmDisconnect_uses)
  refine keeps_bind (local_keeps hcalm (uses_await trivial (isKeyValidXpriv_local key))) fun reason => ?_
  split
  · exact keeps_bind (send_keeps hcalm _) fun _ => hdisconnect
  · have hderive : (await (deriveMainKeysFromRoot key)).Uses LocalOp := uses_await trivial (deriveMainKeysFromRoot_local key)
    have hget : (await (getXPubFromKey key)).Uses LocalOp := uses_await trivial (lib_local _)
    refine keeps_bind (keeps_tryCatch (keeps_bind (local_keeps hcalm hderive) fun _ =>
      keeps_map (local_keeps hcalm hget)) fun _ => keeps_pure _) fun xPub => ?_
    split
    · exact keeps_bind (send_keeps hcalm _) fun _ => hdisconnect
    · exact keeps_bind hdisconnect fun _ => keeps_bind (getConfig_keeps hcalm) fun config =>
        startSigned_keeps hcalm _ _ _ _ _ _ (hstart _ _)

theorem startHsmWallet_keeps (body : StartHsmBody) (hstart : ∀ walletId walletConfig config key,
    truthy body.hsmKey = some key → P.Keeps I (startWallet walletId walletConfig config (some key))) :
    P.Keeps I (startHsmWallet body) := by
  unfold startHsmWallet
  split
  · exact send_keeps hcalm _
  · refine keeps_bind (hcalm (.registry (.getWallet _)) trivial) fun wallet => ?_
    split
    · exact send_keeps hcalm _
    · split
      next => exact send_keeps hcalm _
      next key hkey =>
        have hconnect : (await hsmConnect).Uses SigningOp := uses_await trivial hsmConnect_uses
        refine keeps_bind (keeps_tryCatch (keeps_map (signing_keeps hcalm hconnect)) fun _ => keeps_pure _)
          fun connected => ?_
        split
        · have hdisconnect : (await hsmDisconnect).Uses SigningOp := uses_await trivial hsmDisconnect_uses
          exact keeps_ite (send_keeps hcalm _) (keeps_bind (send_keeps hcalm _) fun _ => signing_keeps hcalm hdisconnect)
        · exact startConnected_keeps hcalm _ key fun walletConfig config => hstart _ walletConfig config key hkey

theorem startFireblocksWallet_keeps (body : StartFireblocksBody) (hstart : ∀ walletId walletConfig config,
    P.Keeps I (startWallet walletId walletConfig config)) : P.Keeps I (startFireblocksWallet body) := by
  have hclient : P.Keeps I startClient := by
    refine keeps_bind (getConfig_keeps hcalm) fun config => ?_
    split
    · exact keeps_pure _
    · exact keeps_bind (lib_keeps hcalm _) fun _ => keeps_pure _
  have hcheck (xpub : String) : P.Keeps I (checkFireblocksKey xpub) :=
    keeps_tryCatch (keeps_bind (keeps_await hcalm (lib_keeps hcalm _)) fun _ => keeps_bind (lib_keeps hcalm _) fun _ =>
      keeps_ite (keeps_pure _) (keeps_pure _)) fun _ => keeps_pure _
  unfold startFireblocksWallet
  split
  · exact send_keeps hcalm _
  · exact send_keeps hcalm _
  · refine keeps_bind (hcalm (.registry (.getWallet _)) trivial) fun wallet => ?_
    split
    · exact send_keeps hcalm _
    · refine keeps_bind (getConfig_keeps hcalm) fun config => keeps_ite ?_ (send_keeps hcalm _)
      refine keeps_bind hclient fun _ => keeps_bind (hcheck _) fun reply => ?_
      split
      · exact sendStatus_keeps hcalm _ _
      · exact startSigned_keeps hcalm _ _ _ _ _ _ (hstart _ _ _)

/-- The handlers that start a wallet keep what `startWallet` keeps. -/
theorem starts_keeps {req : Request} (h : req.StartsWallet) (hstart : ∀ walletId walletConfig config mode,
    P.Keeps I (startWallet walletId walletConfig config req.hsmKey mode)) : P.Keeps I req.handle := by
  cases req with
  | start body => exact start_keeps hcalm body hstart
  | startHsmWallet body =>
      refine startHsmWallet_keeps hcalm body fun walletId walletConfig config key hkey => ?_
      rw [← hkey]
      exact hstart walletId walletConfig config none
  | startFireblocksWallet body =>
      exact startFireblocksWallet_keeps hcalm body fun walletId walletConfig config => hstart walletId walletConfig config none
  | _ => exact h.elim

/-! ## Atomic swaps -/

theorem validated_keeps {β : Type} (req : Req β) {handler : Async Unit} (h : P.Keeps I handler) :
    P.Keeps I (validated req handler) := by
  unfold validated
  split
  · exact sendStatus_keeps hcalm _ _
  · exact h

theorem getListenedProposals_keeps (walletId : String) : P.Keeps I (await (getListenedProposals walletId)) :=
  keeps_await hcalm (hcalm (.proposals (.getProposals walletId)) trivial)

theorem listenedProposal_keeps (m : Option ProposalsRef) (proposalId : String) :
    P.Keeps I (listenedProposal m proposalId) := by
  unfold listenedProposal
  split
  · exact keeps_pure _
  · exact hcalm (.proposals (.getProposal _ _)) trivial

theorem serviceGet_keeps (proposalId : String) (password : Option String) :
    P.Keeps I (serviceGet proposalId password) := by
  refine keeps_ite (keeps_throw _) ?_
  split
  · exact keeps_throw _
  · refine keeps_bind (lib_keeps hcalm _) fun proposal => ?_
    split
    · exact keeps_throw _
    · exact keeps_pure _

theorem updateProposal_keeps (walletId proposalId : String) {params : String → Async SwapUpdate}
    (hparams : ∀ password, P.Keeps I (params password)) : P.Keeps I (updateProposal walletId proposalId params) := by
  have hupdate (updateParams : SwapUpdate) : P.Keeps I (serviceUpdate updateParams) :=
    keeps_ite (keeps_throw _) (keeps_ite (keeps_throw _) (keeps_bind (lib_keeps hcalm _) fun _ =>
      keeps_ite (keeps_pure _) (keeps_throw _)))
  refine keeps_bind (getListenedProposals_keeps hcalm _) fun listenedProposals => ?_
  refine keeps_bind (listenedProposal_keeps hcalm _ _) fun requestedProposal => ?_
  split
  · exact keeps_pure _
  · exact keeps_bind (hparams _) fun _ => keeps_bind (keeps_await hcalm (hupdate _)) fun _ => keeps_pure _

theorem offeredUtxos_keeps (w : WalletRef) (utxos : List Utxo) : P.Keeps I (offeredUtxos w utxos) := by
  induction utxos with
  | nil => exact keeps_pure _
  | cons utxo utxos ih =>
      refine keeps_bind (lib_keeps hcalm _) fun outputs => ?_
      split
      · exact ih
      · refine keeps_bind (lib_keeps hcalm _) fun canUse => keeps_ite ?_ ih
        split
        · exact keeps_throw _
        · refine keeps_bind (lib_keeps hcalm _) fun addressIndex => keeps_bind ?_ fun _ => keeps_bind ih fun _ => keeps_pure _
          split
          · exact lib_keeps hcalm _
          · exact keeps_pure _

theorem addSends_keeps (w : WalletRef) (proposal : String) (utxos : List OfferedUtxo)
    (changeAddress : Option String) (markAsSelected : Bool) (sends : List TokenToSend) :
    P.Keeps I (addSends w proposal utxos changeAddress markAsSelected sends) := by
  induction sends with
  | nil => exact keeps_pure _
  | cons send sends ih =>
      have hadd := hcalm (.wallet (.addSend w proposal ((truthy send.token).getD NATIVE_TOKEN_UID) send.value utxos
        changeAddress markAsSelected)) trivial
      exact keeps_bind (keeps_bind (Protocol.keeps_attempt hadd) fun _ => keeps_pure _) fun _ => ih

theorem addReceives_keeps (proposal : String) (receives : List TokenToReceive) :
    P.Keeps I (addReceives proposal receives) := by
  induction receives with
  | nil => exact keeps_pure _
  | cons receive receives ih => exact keeps_bind (lib_keeps hcalm _) fun _ => ih

/-- `buildTxProposal` keeps what the creation of a proposal keeps. -/
theorem swapBuildTxProposal_keeps (req : Req SwapProposalBody)
    (hcreate : ∀ partialTx password, P.Keeps I (serviceCreate req.walletId partialTx password)) :
    P.Keeps I (swapBuildTxProposal req) := by
  have htell (proposal : String) (serviceParams : ServiceParams) :
      P.Keeps I (tellService req.walletId proposal serviceParams) := by
    refine keeps_bind (hcalm (.proposals .featureToggle) trivial) fun toggle => keeps_ite ?_ (keeps_pure _)
    refine keeps_ite ?_ ?_
    · exact keeps_bind (lib_keeps hcalm _) fun _ => keeps_bind (keeps_await hcalm (hcreate _ _)) fun _ => keeps_pure _
    · split
      · exact keeps_pure _
      · exact keeps_bind (updateProposal_keeps hcalm _ _ fun _ =>
          keeps_bind (lib_keeps hcalm _) fun _ => keeps_pure _) fun _ => keeps_pure _
  have hchosen : P.Keeps I (chosenUtxos req.wallet req.body.send.utxos) := by
    unfold chosenUtxos
    split
    · exact keeps_pure _
    · refine keeps_bind (offeredUtxos_keeps hcalm _ _) fun offered => ?_
      split
      · exact keeps_throw _
      · exact keeps_pure _
  have hcomplete (proposal : String) (utxos : List OfferedUtxo) (sends : List TokenToSend) :
      P.Keeps I (completeProposal req proposal utxos sends) := by
    refine keeps_tryCatch (keeps_bind (addSends_keeps hcalm _ _ _ _ _ _) fun _ => keeps_bind ?_ fun _ =>
      keeps_bind (htell _ _) fun told => ?_) fun _ => send_keeps hcalm _
    · split
      · exact keeps_throw _
      · exact addReceives_keeps hcalm _ _
    · split
      · exact sendStatus_keeps hcalm _ _
      · exact keeps_bind (lib_keeps hcalm _) fun _ => keeps_bind (lib_keeps hcalm _) fun _ => send_keeps hcalm _
  refine validated_keeps hcalm req ?_
  split
  · exact keeps_throw _
  · refine keeps_bind (keeps_orThrow _) fun empty => keeps_ite (sendStatus_keeps hcalm _ _) ?_
    refine keeps_bind (keeps_tryCatch (keeps_map ?_) fun _ => keeps_pure _) fun proposal => ?_
    · split
      · exact lib_keeps hcalm _
      · exact lib_keeps hcalm _
    split
    · exact send_keeps hcalm _
    · refine keeps_bind (keeps_tryCatch (keeps_map hchosen) fun _ => keeps_pure _) fun utxos => ?_
      split
      · exact sendStatus_keeps hcalm _ _
      · exact hcomplete _ _ _

theorem signTxProposal_keeps (req : Req SwapSignBody) : P.Keeps I (signTxProposal req) := by
  have hadd (signatures : List String) (inputData : String) : P.Keeps I (addAllSignatures inputData signatures) := by
    induction signatures generalizing inputData with
    | nil => exact keeps_pure _
    | cons signature signatures ih => exact keeps_bind (lib_keeps hcalm _) fun _ => ih _
  have hassemble : P.Keeps I (assembleTransaction req.wallet req.body.partial_tx (req.body.signatures.getD [])) :=
    keeps_bind (lib_keeps hcalm _) fun _ => keeps_bind (lib_keeps hcalm _) fun _ =>
      keeps_bind (lib_keeps hcalm _) fun _ => keeps_bind (lib_keeps hcalm _) fun _ => keeps_bind (hadd _ _) fun _ =>
        keeps_bind (lib_keeps hcalm _) fun _ => keeps_ite (lib_keeps hcalm _) (keeps_throw _)
  have hreply (tx : Transaction) : P.Keeps I (replyHex tx) :=
    keeps_bind (lib_keeps hcalm _) fun _ => send_keeps hcalm _
  refine validated_keeps hcalm req (keeps_tryCatch (keeps_bind hassemble fun tx =>
    keeps_bind (hcalm (.proposals .featureToggle) trivial) fun toggle => ?_) fun _ => send_keeps hcalm _)
  split
  · exact hreply _
  · exact keeps_bind (updateProposal_keeps hcalm _ _ fun _ => keeps_pure _) fun _ =>
      keeps_ite (hreply _) (sendStatus_keeps hcalm _ _)

theorem listenedProposalList_keeps (req : Req Unit) : P.Keeps I (listenedProposalList req) := by
  refine keeps_bind (getListenedProposals_keeps hcalm _) fun m => ?_
  split
  · exact send_keeps hcalm _
  · exact keeps_bind (hcalm (.proposals (.proposalIds _)) trivial) fun _ => send_keeps hcalm _

theorem deleteListenedProposal_keeps (req : Req String)
    (hremove : P.Keeps I (removeListenedProposal req.walletId req.body)) : P.Keeps I (deleteListenedProposal req) :=
  keeps_tryCatch (keeps_bind (keeps_await hcalm hremove) fun _ => send_keeps hcalm _) fun _ => send_keeps hcalm _

/-- `fetchFromService` keeps what the removal of its proposal keeps. -/
theorem fetchFromService_keeps (req : Req String) (hremove : P.Keeps I (removeListenedProposal req.walletId req.body)) :
    P.Keeps I (fetchFromService req) := by
  refine keeps_bind (hcalm (.proposals .featureToggle) trivial) fun toggle => keeps_ite ?_ (sendStatus_keeps hcalm _ _)
  refine keeps_bind (getListenedProposals_keeps hcalm _) fun listenedProposals => ?_
  refine keeps_bind (listenedProposal_keeps hcalm _ _) fun requestedProposal => ?_
  split
  · exact sendStatus_keeps hcalm _ _
  · refine keeps_tryCatch (keeps_bind (keeps_await hcalm (serviceGet_keeps hcalm _ _)) fun _ => send_keeps hcalm _)
      fun err => keeps_ite ?_ (send_keeps hcalm _)
    split
    · exact keeps_throw _
    · exact keeps_ite (keeps_bind (keeps_await hcalm hremove) fun _ => sendStatus_keeps hcalm _ _) (send_keeps hcalm _)

theorem registerProposal_keeps (req : Req RegisterBody)
    (hadd : ∀ proposalId password, P.Keeps I (addListenedProposal req.walletId proposalId password)) :
    P.Keeps I (registerProposal req) := by
  refine keeps_bind (getListenedProposals_keeps hcalm _) fun proposalMap => ?_
  refine keeps_bind (listenedProposal_keeps hcalm _ _) fun existingProposal => ?_
  split
  · exact keeps_ite (send_keeps hcalm _) (send_keeps hcalm _)
  · refine keeps_tryCatch (keeps_bind (keeps_await hcalm (serviceGet_keeps hcalm _ _)) fun proposal => ?_)
      fun _ => send_keeps hcalm _
    split
    · exact keeps_throw _
    · exact keeps_bind (keeps_await hcalm (hadd _ _)) fun _ => send_keeps hcalm _

theorem serviceCreate_keeps (walletId partialTx : String) (password : Option String)
    (hadd : ∀ proposalId password, P.Keeps I (addListenedProposal walletId proposalId password)) :
    P.Keeps I (serviceCreate walletId partialTx password) := by
  refine keeps_ite (keeps_throw _) ?_
  split
  · exact keeps_throw _
  · exact keeps_bind (lib_keeps hcalm _) fun created => keeps_ite
      (keeps_bind (keeps_await hcalm (hadd _ _)) fun _ => keeps_pure _) (keeps_throw _)

end

end WalletHeadless
