import WalletHeadless.Api.App
import WalletHeadless.Server.Footprint

/-!
# One answer for each request

A request is concluded by its answer, or by a promise that is rejected and that nobody handles; the last only happens
after an answer that is a reason.

* `concluding`: the outcomes of a request, and the reasons for a rejection;
* `onApi_concludes`: a handler of the service concludes as it does alone;
* `Reads.getStatus_answers`, …: the handlers that read;
* `WalletRoute.handle_answers`, `RootRoute.handle_answers`: all handlers.
-/

namespace WalletHeadless

open Coop Js
open Prog (uses_ask uses_orThrow)
open Conclusion (Concludes ConcludesEarly ConcludesCalmly)

def ApiOp.outcome : ApiOp → Option Outcome
  | .rejected _ => some .rejected
  | c => if c.answers then some .answered else none

/-- The configuration cannot be read, the first address is not known, or a call of a handler that is given a callback
is rejected. -/
def ApiOp.reason : (c : ApiOp) → c.Ans → Bool
  | .gate (.server (.registry .getConfig)), .error _ => true
  | .gate (.getAddressAtIndex ..), .error _ => true
  | .gate (.server (.lib (.getConfigurationString ..))), .error _ => true
  | .read (.getTransaction _), .error _ => true
  | .read (.getGeneralTokenInfo _), .error _ => true
  | _, _ => false

/-- A request is concluded by its answer; a promise that nobody handles is rejected for a reason. -/
def concluding : Conclusion ApiOp.Ans Outcome where
  outcome := ApiOp.outcome
  reason := ApiOp.reason
  needs t := t = .rejected

/-- The handler answers before it returns; when it throws it may have answered. -/
abbrev AnswersEarly (F : concluding.Footprint) (handler : ApiAsync Unit) : Prop := ConcludesEarly F .answered handler

/-- The handler answers before it returns, and has not answered when it throws. -/
abbrev AnswersOnce (F : concluding.Footprint) (handler : ApiAsync Unit) : Prop := Concludes F .answered handler

/-- The handler concludes before it returns; when it throws it may have answered. -/
def Handles (F : concluding.Footprint) (handler : ApiAsync Unit) : Prop :=
  ∀ reason, (concluding.protocol F.closed).wp handler ⟨none, reason⟩ (fun _ q => q.outcome ≠ none)
    fun _ q => q.outcome = none ∨ q.outcome = some .answered

/-! ## The handlers of the service -/

/-- The calls of a footprint of the handlers. -/
def ofServer (A : Op → Prop) : ApiOp → Prop
  | .gate (.server c) => A c
  | _ => False

/-- A footprint of the handlers, among the calls of all. -/
def serverFootprint (F : serving.Footprint) : concluding.Footprint where
  asks := ofServer F.asks
  quiet c hc := by
    cases c with
    | gate c =>
        cases c with
        | server c =>
            have hquiet := F.quiet c hc
            cases c with
            | send reply => cases hquiet
            | _ => rfl
        | _ => exact hc.elim
    | _ => exact hc.elim

theorem onApi_uses {A : Op → Prop} {α : Type} {p : Async α} (hp : p.Uses A) : (onApi p).Uses (ofServer A) := by
  induction p with
  | ret a => trivial
  | throw e => trivial
  | op c k ih => exact ⟨hp.1, fun r => ih r (hp.2 r)⟩

/-- A program of the service has the same outcomes among the calls of all. -/
theorem wp_onApi {F : serving.Footprint} {α : Type} {p : Async α} {q : Verdict Outcome}
    (post : α → Option Outcome → Prop) (fail : JsError → Option Outcome → Prop) (reason : Bool)
    (h : (serving.protocol F.closed).wp p q (fun a q => post a q.outcome) fun e q => fail e q.outcome) :
    (concluding.protocol (serverFootprint F).closed).wp (onApi p) ⟨q.outcome, reason⟩ (fun a q => post a q.outcome)
      fun e q => fail e q.outcome := by
  induction p generalizing q reason with
  | ret a => exact h
  | throw e => exact h
  | op c k ih =>
      obtain ⟨⟨hasks, honce⟩, hk⟩ := h
      have heq : concluding.outcome (.gate (.server c)) = serving.outcome c := by cases c <;> rfl
      refine ⟨⟨?_, fun t ht => ?_⟩, fun r _ => ?_⟩
      · rcases hasks with hasks | hout
        · exact .inl hasks
        · exact .inr (heq ▸ hout)
      · refine ⟨(honce t (heq ▸ ht)).1, fun hn => ?_⟩
        rw [heq] at ht
        cases c with
        | send reply =>
            cases ht
            cases hn
        | _ => cases ht
      · have hrest := ih r (reason || concluding.reason (.gate (.server c)) r) (hk r trivial)
        show (concluding.protocol _).wp _ ⟨(concluding.outcome (.gate (.server c))).or q.outcome, _⟩ _ _
        rw [heq]
        exact hrest

theorem onApi_early {F : serving.Footprint} {handler : Async Unit} (h : RepliesEarly F handler) :
    AnswersEarly (serverFootprint F) (onApi handler) := fun reason =>
  wp_onApi (fun _ o => o = some .answered) (fun _ o => o = none ∨ o = some .answered) reason (h false)

theorem onApi_calm {F : serving.Footprint} {handler : Async Unit} (h : ConcludesCalmly F .answered handler) :
    ConcludesCalmly (serverFootprint F) .answered (onApi handler) := fun reason =>
  wp_onApi (fun _ o => o = some .answered) (fun _ _ => False) reason (h false)

/-! ## The handlers that read -/

/-- The calls that read. -/
def ReadOp : ApiOp → Prop
  | .read _ | .isInstance .. => True
  | .gate (.state _) | .gate (.getAddressAtIndex ..) => True
  | .gate (.server c) => QuietOp c
  | _ => False

def readFootprint : concluding.Footprint where
  asks := ReadOp
  quiet c hc := by
    cases c with
    | gate c =>
        cases c with
        | server c =>
            cases c with
            | send reply => exact hc.elim
            | _ => rfl
        | sendError body => exact hc.elim
        | _ => rfl
    | answer a => exact hc.elim
    | rejected e => exact hc.elim
    | _ => rfl

section
variable {F : concluding.Footprint}

theorem answer_once (body : AnswerBody) : AnswersOnce F (answer body) := Concludes.ask rfl rfl

theorem answerStatus_once (status : Nat) (body : AnswerBody) : AnswersOnce F (answerStatus status body) :=
  Concludes.ask rfl rfl

theorem checked_once {β : Type} (req : Req β) {handler : ApiAsync Unit} (h : AnswersOnce F handler) :
    AnswersOnce F (checked req handler) := by
  unfold checked
  split
  · exact answerStatus_once _ _
  · exact h

theorem replies_once {body : ApiAsync Unit} (h : AnswersOnce F body) : AnswersOnce F (replies body) :=
  h.tryCatch fun _ => answer_once _

end

/-- A promise is rejected for a reason. -/
theorem rejected_handles {F : concluding.Footprint} (e : JsError) {fail : JsError → Verdict Outcome → Prop} :
    (concluding.protocol F.closed).wp (Prog.ask (ApiOp.rejected e) : ApiAsync Unit) ⟨none, true⟩
      (fun _ q => q.outcome ≠ none) fail :=
  ⟨⟨.inr (by simp [concluding, ApiOp.outcome]), fun _ _ => ⟨rfl, fun _ => rfl⟩⟩, fun _ _ =>
    Option.some_ne_none Outcome.rejected⟩

theorem handles_of_once {F : concluding.Footprint} {handler : ApiAsync Unit} (h : AnswersOnce F handler) :
    Handles F handler := fun reason =>
  Protocol.wp_mono _ (h reason) (fun _ q hq => by simp [hq]) fun _ _ hq => .inl hq

theorem handles_of_early {F : concluding.Footprint} {handler : ApiAsync Unit} (h : AnswersEarly F handler) :
    Handles F handler := fun reason =>
  Protocol.wp_mono _ (h reason) (fun _ q hq => by simp [hq]) fun _ _ hq => hq

theorem handles_bind {F : concluding.Footprint} {α : Type} {p : ApiAsync α} {f : α → ApiAsync Unit} (hp : p.Uses F.asks)
    (hf : ∀ a, Handles F (f a)) : Handles F (p >>= f) :=
  Conclusion.wp_bind_quiet Conclusion.closed_of_asks hp (fun _ _ h => .inl h) hf

namespace Reads

theorem consult_read (c : ReadCall) : (consult c).Uses ReadOp := Prog.Uses.attempt (uses_ask trivial)

/-- Calls of the service that share nothing. -/
theorem onApi_read {A : Op → Prop} {α : Type} {p : Async α} (hp : p.Uses A)
    (hA : ∀ c, A c → ReadOp (.gate (.server c))) : (onApi p).Uses ReadOp :=
  (onApi_uses hp).mono fun c hc => by
    cases c with
    | gate c =>
        cases c with
        | server c => exact hA c hc
        | _ => exact hc.elim
    | _ => exact hc.elim

theorem lib_read (c : LibCall) : (onApi (lib c)).Uses ReadOp := onApi_read (lib_quiet c) fun _ h => h

theorem getStatus_once (req : Req Unit) : AnswersOnce readFootprint (getStatus req) := by
  refine .bind (uses_ask (c := ApiOp.gate (.state req.wallet)) trivial) fun state => .bind (consult_read _) fun network =>
    .bind (consult_read _) fun serverUrl => .bind (consult_read _) fun serverInfo => .bind (consult_read _) fun type => ?_
  exact .ite (.bind (lib_read _) fun _ => answer_once _) (answer_once _)

theorem getBalance_once (req : Req (Option String)) : AnswersOnce readFootprint (getBalance req) := by
  refine checked_once req (.bind (consult_read _) fun balanceObj => ?_)
  split
  · exact .throw _
  · exact answer_once _

theorem getAddress_once (req : Req AddressQuery) : AnswersOnce readFootprint (getAddress req) := by
  refine checked_once req ?_
  split
  · refine .bind ?_ fun _ => answer_once _
    exact ⟨trivial, fun r => by cases r <;> trivial⟩
  · exact .bind (consult_read _) fun _ => answer_once _

theorem getAddressIndex_once (req : Req String) : AnswersOnce readFootprint (getAddressIndex req) :=
  checked_once req (.bind (lib_read _) fun _ => answer_once _)

theorem getAddressInfo_once (req : Req AddressInfoQuery) :
    AnswersOnce readFootprint (getAddressInfo req) := by
  refine checked_once req (.tryCatch (.bind (consult_read _) fun _ => answer_once _) fun error => ?_)
  exact .bind (uses_ask (c := ApiOp.isInstance _ _) trivial) fun _ => .ite (answer_once _) (.throw _)

theorem collectAddresses_read (w : WalletRef) (rounds n : Nat) : (collectAddresses w rounds n).Uses ReadOp := by
  induction rounds generalizing n with
  | zero => exact ⟨trivial, fun r => by cases r <;> trivial⟩
  | succ rounds ih =>
      refine (consult_read _).bind fun address => ?_
      cases address with
      | none => trivial
      | some address => exact (ih (n + 1)).bind fun _ => trivial

theorem getAddresses_once (req : Req Nat) : AnswersOnce readFootprint (getAddresses req) :=
  .bind (consult_read _) fun _ => .bind (collectAddresses_read _ _ _) fun _ => answer_once _

theorem getTxHistory_once (req : Req (Option Int)) : AnswersOnce readFootprint (getTxHistory req) :=
  checked_once req (.bind (consult_read _) fun _ => answer_once _)

theorem getTransaction_once (req : Req String) : AnswersOnce readFootprint (getTransaction req) := by
  refine checked_once req (.bind (consult_read _) fun tx => ?_)
  cases tx with
  | none => exact answer_once _
  | some tx => exact answer_once _

theorem utxoFilter_once (req : Req Query) : AnswersOnce readFootprint (utxoFilter req) :=
  replies_once (checked_once req (.bind (lib_read _) fun _ => answer_once _))

/-- The rejection of a call with a callback is the outcome. -/
theorem calledBack_handles {c : ReadCall} {callback : c.Result → ApiAsync Unit}
    (hreason : ∀ e, concluding.reason (.read c) (.error e) = true)
    (h : ∀ r, Handles readFootprint (callback r)) : Handles readFootprint (calledBack c callback) := by
  intro reason
  refine ⟨⟨.inl trivial, fun t ht => by cases ht⟩, fun r _ => ?_⟩
  cases r with
  | ok r => exact h r _
  | error e =>
      have hq : (reason || concluding.reason (.read c) (.error e)) = true := by rw [hreason e, Bool.or_true]
      show (concluding.protocol _).wp _ ⟨none, (reason || concluding.reason (.read c) (.error e))⟩ _ _
      rw [hq]
      exact rejected_handles e

theorem bestChainHeight_read : bestChainHeight.Uses ReadOp := by
  refine Prog.Uses.catches ((consult_read _).bind fun _ => ?_) fun _ => ?_
  · trivial
  · trivial

theorem getTxConfirmationBlocks_handles (req : Req String) :
    Handles readFootprint (getTxConfirmationBlocks req) := by
  unfold getTxConfirmationBlocks checked
  split
  · exact handles_of_once (answerStatus_once _ _)
  · refine handles_bind (consult_read _) fun tx => ?_
    cases tx with
    | none => exact handles_of_once (answer_once _)
    | some tx =>
        refine calledBack_handles (fun _ => rfl) fun txData => handles_of_once (.ite ?_ (answer_once _))
        refine .bind bestChainHeight_read fun height => ?_
        cases height with
        | none => exact answer_once _
        | some height => exact answer_once _

/-! ### `decodeTx` -/

section
variable {w : WalletRef}

theorem findTx_read (id : String) : (findTx w id).Uses ReadOp := by
  refine (consult_read _).bind fun tx => ?_
  cases tx with
  | some tx => trivial
  | none =>
      refine Prog.Uses.catches ((consult_read _).bind fun _ => ?_) fun _ => ?_
      · trivial
      · trivial

theorem decodeInput_read (input : Input) : (decodeInput w input).Uses ReadOp := by
  refine (findTx_read _).bind fun tx => ?_
  split
  · trivial
  · split
    · trivial
    · refine Prog.Uses.bind ?_ fun _ => ?_
      · split
        · exact lib_read _
        · trivial
      · trivial

theorem decodeOutput_read (tx : Decode.Tx) (output : Decode.TxOutput) : (decodeOutput w tx output).Uses ReadOp := by
  unfold decodeOutput
  split
  · trivial
  · refine Prog.Uses.bind ?_ fun _ => ?_
    · split
      · trivial
      · exact lib_read _
    · trivial

theorem txToDecode_read (body : DecodeBody) : (txToDecode w body).Uses ReadOp := by
  unfold txToDecode
  split
  · exact consult_read _
  · refine (consult_read _).bind fun _ => (consult_read _).bind fun valid => ?_
    split
    · exact consult_read _
    · trivial

end

theorem decodeTx_once (req : Req DecodeBody) : AnswersOnce readFootprint (decodeTx req) := by
  refine checked_once req (.ite (answerStatus_once _ _) (replies_once ?_))
  refine .bind (txToDecode_read _) fun tx => .bind (.mapM decodeInput_read _) fun inputs =>
    .bind (.mapM (decodeOutput_read tx) _) fun outputs => .bind (consult_read _) fun balance => answer_once _

/-! ### The other readers -/

theorem getLastLoadedAddressIndex_once (req : Req Unit) :
    AnswersOnce readFootprint (getLastLoadedAddressIndex req) :=
  .bind (consult_read _) fun _ => answer_once _

theorem indexLimitSetEndIndex_once (req : Req Nat) :
    AnswersOnce readFootprint (indexLimitSetEndIndex req) :=
  checked_once req (.bind (consult_read _) fun _ => answer_once _)

theorem indexLimitLoadMoreAddresses_once (req : Req Nat) :
    AnswersOnce readFootprint (indexLimitLoadMoreAddresses req) :=
  checked_once req (.bind (consult_read _) fun _ => answer_once _)

theorem getState_once (req : Req NanoStateQuery) : AnswersOnce readFootprint (getState req) :=
  checked_once req (replies_once (.bind (consult_read _) fun _ => answer_once _))

theorem getHistory_once (req : Req NanoHistoryQuery) : AnswersOnce readFootprint (getHistory req) :=
  checked_once req (replies_once (.bind (consult_read _) fun _ => answer_once _))

theorem getOracleData_once (req : Req String) : AnswersOnce readFootprint (getOracleData req) :=
  checked_once req (replies_once (.bind (consult_read _) fun _ => answer_once _))

theorem getOracleSignedResult_once (req : Req OracleQuery) : AnswersOnce readFootprint (getOracleSignedResult req) :=
  checked_once req (replies_once (.bind (consult_read _) fun _ => answer_once _))

theorem p2shGetMySignatures_once (req : Req String) : AnswersOnce readFootprint (p2shGetMySignatures req) :=
  checked_once req (replies_once (.bind (consult_read _) fun _ => answer_once _))

theorem buildTxProposal_once (req : Req TxBuildBody) :
    AnswersOnce (serverFootprint (Footprint.offer req.wallet)) (buildTxProposal req) := by
  have hlib (c : LibCall) : (onApi (lib c)).Uses (ofServer (OfferOp req.wallet)) :=
    onApi_uses (quiet_lib (fun _ => QuietOp.offer) c)
  have hfunds : (await (prepareTxFunds req.wallet req.body.outputs (req.body.inputs.getD []))).Uses (OfferOp req.wallet) :=
    quiet_await (fun _ => QuietOp.offer) (prepareTxFunds_uses (fun _ => QuietOp.offer) _ _ _ _)
  refine checked_once req (.bind (onApi_uses hfunds) fun funds => ?_)
  cases funds with
  | error token => exact answer_once _
  | ok funds =>
      exact replies_once (.bind (onApi_uses (prepareData_uses _ _ rfl)) fun _ => .bind (hlib _) fun _ =>
        .bind (hlib _) fun _ => answer_once _)

theorem addSignatures_once (L : TxProposalLib) (req : Req AddSignaturesBody) :
    AnswersOnce readFootprint (addSignatures L req) :=
  checked_once req (.bind (uses_orThrow _ _) fun _ => answer_once _)

theorem getWalletInputs_once (req : Req String) : AnswersOnce readFootprint (getWalletInputs req) :=
  checked_once req (replies_once (.bind (lib_read _) fun _ => .bind (consult_read _) fun _ => answer_once _))

theorem getInputData_once (L : TxProposalLib) (req : Req TxProposal.InputDataBody) :
    AnswersOnce readFootprint (getInputData L req) :=
  checked_once req (.bind (consult_read _) fun _ => .bind (uses_orThrow _ _) fun _ => answer_once _)

theorem p2shSignTx_once (req : Req SignAndPushBody) : AnswersOnce readFootprint (p2shSignTx req) := by
  have hassemble : (await (assemblePartialTransaction req.wallet req.body.txHex (req.body.signatures.getD []))).Uses
      QuietOp := quiet_await (fun _ h => h) (assemblePartialTransaction_uses (fun _ h => h) _ _ _)
  exact checked_once req (replies_once (.bind (onApi_read hassemble fun _ h => h) fun _ =>
    .bind (lib_read _) fun _ => answer_once _))

theorem swapGetMySignatures_once (req : Req String) :
    AnswersOnce readFootprint (swapGetMySignatures req) :=
  checked_once req (replies_once (.bind (lib_read _) fun _ => .bind (consult_read _) fun _ =>
    .bind (consult_read _) fun _ => answer_once _))

theorem addInputData_read (signatures : String) (index : Nat) (inputs : List Input) :
    (addInputData signatures index inputs).Uses ReadOp := by
  induction inputs generalizing signatures index with
  | nil => trivial
  | cons input inputs ih =>
      unfold addInputData
      split
      · exact ih _ _
      · exact (consult_read _).bind fun _ => ih _ _

theorem swapGetInputData_once (req : Req String) : AnswersOnce readFootprint (swapGetInputData req) :=
  checked_once req (replies_once (.bind (lib_read _) fun _ => .bind (lib_read _) fun _ => .bind (lib_read _) fun _ =>
    .bind (addInputData_read _ _ _) fun _ => .bind (consult_read _) fun _ => answer_once _))

theorem collectLocked_read (w : WalletRef) (rounds n : Nat) (txMap : Js.Map String (List Nat)) :
    (collectLocked w rounds n txMap).Uses ReadOp := by
  induction rounds generalizing n txMap with
  | zero => exact ⟨trivial, fun r => by cases r <;> trivial⟩
  | succ rounds ih =>
      refine (consult_read _).bind fun utxo => ?_
      cases utxo with
      | none => trivial
      | some utxo => exact ih _ _

theorem getLockedUTXOs_once (req : Req Nat) : AnswersOnce readFootprint (getLockedUTXOs req) :=
  replies_once (.bind (collectLocked_read _ _ _ _) fun _ => answer_once _)

/-! ### `index.controller.js` -/

theorem docs_once : AnswersOnce readFootprint docs := .bind (consult_read _) fun _ => answer_once _

theorem getConfig_read : (onApi getConfig).Uses ReadOp :=
  onApi_read getConfig_uses fun _ h => h.signing.quiet

theorem multisigPubkey_once (body : MultisigPubkeyBody) : AnswersOnce readFootprint (multisigPubkey body) := by
  refine .bind getConfig_read fun config => ?_
  split
  · exact answer_once _
  · refine .bind (uses_orThrow _ _) fun seed => ?_
    cases seed with
    | none => exact answer_once _
    | some seed => exact .bind (consult_read _) fun _ => answer_once _

theorem pushTxHex_once (validationError : Option String) (txHex : String) :
    AnswersOnce readFootprint (pushTxHex validationError txHex) := by
  refine .bind getConfig_read fun config => ?_
  split
  · exact answerStatus_once _ _
  · refine replies_once (.bind (consult_read _) fun tx => .bind (consult_read _) fun weighted => .bind ?_ fun _ =>
      .bind (consult_read _) fun _ => answer_once _)
    split
    · trivial
    · exact lib_read _

theorem configurationString_handles (validationError : Option String) (token : String) :
    Handles readFootprint (configurationString validationError token) := by
  unfold configurationString
  split
  · exact handles_of_once (answerStatus_once _ _)
  · refine calledBack_handles (fun _ => rfl) fun response => ?_
    split
    · intro reason
      refine ⟨⟨.inl trivial, fun t ht => by cases ht⟩, fun r _ => ?_⟩
      cases r with
      | ok configurationString => exact handles_of_once (answer_once _) _
      | error e =>
          show (concluding.protocol _).wp _ ⟨none, (reason || true)⟩ _ _
          rw [Bool.or_true]
          exact rejected_handles e
    · exact handles_of_once (answer_once _)

end Reads

/-! ## All handlers -/

/-- What the handlers of a wallet do. -/
inductive RouteKind
  | send
  | offer
  | mark
  | unlock
  | swap
  | stop
  | read
deriving DecidableEq

def RouteKind.footprint (x : Injected) : RouteKind → concluding.Footprint
  | send => serverFootprint (Footprint.spend x.walletId x.wallet)
  | offer => serverFootprint (Footprint.offer x.wallet)
  | mark => serverFootprint (Footprint.mark x.wallet)
  | unlock => serverFootprint (Footprint.unlock x.walletId x.wallet)
  | swap => serverFootprint (Footprint.swap x.walletId x.wallet)
  | stop => serverFootprint (Footprint.stop x.walletId)
  | read => readFootprint

def WalletRoute.kind : WalletRoute → RouteKind
  | simpleSendTx _ | sendTx _ | createToken _ | mintTokens _ | meltTokens _ | utxoConsolidation _ | createNft _
  | swapSignAndPush _ | p2shSignAndPush _ | runTemplate _ | buildTemplate _ | createNanoContract _
  | executeNanoContractMethod _ | createOnChainBlueprint _ => .send
  | buildTxProposal _ | buildCreateTokenTxProposal _ | buildMintTokensTxProposal _ | buildMeltTokensTxProposal _
  | txBuildProposal _ => .offer
  | utxosSelectedAsInput _ => .mark
  | unlockInputs _ => .unlock
  | swapBuildTxProposal _ | fetchFromService _ | signTxProposal _ | listenedProposalList _ | registerProposal _
  | deleteListenedProposal _ => .swap
  | stop => .stop
  | _ => .read

/-- The handlers of the nano contracts leave no error behind. -/
theorem unhandled_handles {F : serving.Footprint} {handler : Async Unit} (h : ConcludesCalmly F .answered handler) :
    Handles (serverFootprint F) (unhandled (onApi handler)) := fun reason =>
  (Protocol.wp_tryCatch ..).mpr (Protocol.wp_mono _ (onApi_calm h reason) (fun _ q hq => by simp [hq])
    fun _ _ hq => hq.elim)

theorem WalletRoute.handle_handles (L : TxProposalLib) (x : Injected) (route : WalletRoute) :
    Handles (route.kind.footprint x) (route.handle L x) := by
  cases route with
  | getStatus params => exact handles_of_once (Reads.getStatus_once _)
  | getBalance params => exact handles_of_once (Reads.getBalance_once _)
  | getAddress params => exact handles_of_once (Reads.getAddress_once _)
  | getAddressIndex params => exact handles_of_once (Reads.getAddressIndex_once _)
  | getAddresses params => exact handles_of_once (Reads.getAddresses_once _)
  | getAddressInfo params => exact handles_of_once (Reads.getAddressInfo_once _)
  | getTxHistory params => exact handles_of_once (Reads.getTxHistory_once _)
  | getTransaction params => exact handles_of_once (Reads.getTransaction_once _)
  | getTxConfirmationBlocks params => exact Reads.getTxConfirmationBlocks_handles _
  | simpleSendTx params => exact handles_of_early (onApi_early (simpleSendTx_replies (params.at x)))
  | decodeTx params => exact handles_of_once (Reads.decodeTx_once _)
  | sendTx params => exact handles_of_early (onApi_early (sendTx_replies (params.at x)))
  | createToken params => exact handles_of_early (onApi_early (createToken_replies (params.at x)))
  | mintTokens params => exact handles_of_early (onApi_early (mintTokens_replies (params.at x)))
  | meltTokens params => exact handles_of_early (onApi_early (meltTokens_replies (params.at x)))
  | utxoFilter params => exact handles_of_once (Reads.utxoFilter_once _)
  | utxoConsolidation params => exact handles_of_early (onApi_early (utxoConsolidation_replies (params.at x)))
  | createNft params => exact handles_of_early (onApi_early (createNft_replies (params.at x)))
  | stop => exact handles_of_early (onApi_early (stop_replies x.walletId))
  | utxosSelectedAsInput params => exact handles_of_early (onApi_early (utxosSelectedAsInput_replies (params.at x)))
  | swapBuildTxProposal params => exact handles_of_early (onApi_early (swapBuildTxProposal_replies (params.at x)))
  | unlockInputs params => exact handles_of_early (onApi_early (unlockInputs_replies (params.at x)))
  | getLockedUTXOs params => exact handles_of_once (Reads.getLockedUTXOs_once _)
  | fetchFromService params => exact handles_of_early (onApi_early (fetchFromService_replies (params.at x)))
  | swapGetMySignatures params => exact handles_of_once (Reads.swapGetMySignatures_once _)
  | signTxProposal params => exact handles_of_early (onApi_early (signTxProposal_replies (params.at x)))
  | swapSignAndPush params => exact handles_of_early (onApi_early (swapSignAndPush_replies (params.at x)))
  | swapGetInputData params => exact handles_of_once (Reads.swapGetInputData_once _)
  | listenedProposalList params => exact handles_of_early (onApi_early (listenedProposalList_replies (params.at x)))
  | registerProposal params => exact handles_of_early (onApi_early (registerProposal_replies (params.at x)))
  | deleteListenedProposal params => exact handles_of_early (onApi_early (deleteListenedProposal_replies (params.at x)))
  | buildTxProposal params => exact handles_of_early (onApi_early (buildTxProposal_replies (params.at x)))
  | buildCreateTokenTxProposal params =>
      exact handles_of_early (onApi_early (buildCreateTokenTxProposal_replies (params.at x)))
  | buildMintTokensTxProposal params => exact handles_of_early (onApi_early (authorityTxProposal_replies (params.at x) _))
  | buildMeltTokensTxProposal params => exact handles_of_early (onApi_early (authorityTxProposal_replies (params.at x) _))
  | p2shGetMySignatures params => exact handles_of_once (Reads.p2shGetMySignatures_once _)
  | p2shSignTx params => exact handles_of_once (Reads.p2shSignTx_once _)
  | p2shSignAndPush params => exact handles_of_early (onApi_early (p2shSignAndPush_replies (params.at x)))
  | txBuildProposal params => exact handles_of_once (Reads.buildTxProposal_once (params.at x))
  | addSignatures params => exact handles_of_once (Reads.addSignatures_once L _)
  | getWalletInputs params => exact handles_of_once (Reads.getWalletInputs_once _)
  | getInputData params => exact handles_of_once (Reads.getInputData_once L _)
  | runTemplate params => exact handles_of_early (onApi_early (runTemplate_replies (params.at x)))
  | buildTemplate params => exact handles_of_early (onApi_early (buildTemplate_replies (params.at x)))
  | getLastLoadedAddressIndex params => exact handles_of_once (Reads.getLastLoadedAddressIndex_once _)
  | indexLimitLoadMoreAddresses params => exact handles_of_once (Reads.indexLimitLoadMoreAddresses_once _)
  | indexLimitSetEndIndex params => exact handles_of_once (Reads.indexLimitSetEndIndex_once _)
  | getState params => exact handles_of_once (Reads.getState_once _)
  | getOracleData params => exact handles_of_once (Reads.getOracleData_once _)
  | getOracleSignedResult params => exact handles_of_once (Reads.getOracleSignedResult_once _)
  | getHistory params => exact handles_of_once (Reads.getHistory_once _)
  | createNanoContract params => exact unhandled_handles (executeNanoContractMethodHelper_calm (params.at x) true)
  | executeNanoContractMethod params => exact unhandled_handles (executeNanoContractMethodHelper_calm (params.at x) false)
  | createOnChainBlueprint params => exact handles_of_early (onApi_early (createOnChainBlueprint_replies (params.at x)))

def RootRoute.footprint : RootRoute → concluding.Footprint
  | start body => serverFootprint (Footprint.start body.walletId)
  | startHsmWallet body => serverFootprint (Footprint.start (truthy body.walletId))
  | startFireblocksWallet body => serverFootprint (Footprint.start (truthy body.walletId))
  | reloadConfig _ => serverFootprint Footprint.reload
  | _ => readFootprint

theorem RootRoute.handle_handles (route : RootRoute) : Handles route.footprint route.handle := by
  cases route with
  | welcome => exact handles_of_once (answer_once _)
  | docs => exact handles_of_once Reads.docs_once
  | start body => exact handles_of_early (onApi_early (start_replies body))
  | multisigPubkey body => exact handles_of_once (Reads.multisigPubkey_once body)
  | pushTxHex validationError txHex => exact handles_of_once (Reads.pushTxHex_once _ _)
  | getConfigurationString validationError token => exact Reads.configurationString_handles _ _
  | reloadConfig rounds => exact handles_of_early (onApi_early (reloadConfig_replies rounds))
  | startHsmWallet body => exact handles_of_early (onApi_early (startHsmWallet_replies body))
  | startFireblocksWallet body => exact handles_of_early (onApi_early (startFireblocksWallet_replies body))

end WalletHeadless
