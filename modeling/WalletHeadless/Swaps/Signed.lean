import WalletHeadless.Controllers.Swaps
import WalletHeadless.Services.Asks

/-!
# What the swap service is told of a signed proposal

`signTx` sends `tx.signatures` to the service, and `prepareTx` returns a transaction that has no such property.

* `AssemblyOp`, `PartialTxLib`: the calls that assemble a transaction, and what `wallet-lib` does with its input data;
* `Assembly`, `assembled_iff`: the steps of `assembleTransaction`;
* `swapSigning`, `signTxProposal_reply`: what a success of the handler says;
* `Finishable`, `finishable_iff`: when another participant can finish the proposal; `unfinishable`: where nobody can.
-/

namespace WalletHeadless

open Coop Js
open Prog (uses_ask)

/-! ## The assembly of a transaction -/

/-- The calls by which a transaction is assembled and shown. -/
def AssemblyOp : Op → Prop
  | .lib (.fromPartialTx ..) | .lib (.getProposalTx _) | .lib (.getDataToSign _) => True
  | .lib (.newPartialTxInputData ..) | .lib (.addSignatures ..) => True
  | .lib (.isComplete ..) | .lib (.prepareProposalTx ..) | .lib (.toHex _) => True
  | _ => False

theorem addAllSignatures_uses (inputData : String) (signatures : List String) :
    (addAllSignatures inputData signatures).Uses AssemblyOp := by
  induction signatures generalizing inputData with
  | nil => exact uses_pure _
  | cons sig sigs ih =>
      exact uses_bind (uses_ask (c := Op.lib (.addSignatures inputData sig)) trivial).attempt fun _ => ih _

theorem assembleTransaction_uses (w : WalletRef) (partialTx : String) (signatures : List String) :
    (assembleTransaction w partialTx signatures).Uses AssemblyOp := by
  have hlib (c : LibCall) (hc : AssemblyOp (.lib c)) : (lib c).Uses AssemblyOp := (uses_ask hc).attempt
  refine uses_bind (hlib _ trivial) fun proposal => uses_bind (hlib _ trivial) fun tx => ?_
  refine uses_bind (hlib _ trivial) fun dataToSign => uses_bind (hlib _ trivial) fun inputData => ?_
  refine uses_bind (addAllSignatures_uses _ _) fun inputData => uses_bind (hlib _ trivial) fun complete => ?_
  exact uses_ite (hlib _ trivial) (uses_throwThe _)

section Assembly
variable (library : (c : Op) → c.Ans)

/-- What `assembleTransaction` returns or throws. -/
def assembled (w : WalletRef) (partialTx : String) (signatures : List String) : Except JsError Transaction :=
  (assembleTransaction w partialTx signatures).eval library

/-- The steps that assemble `signedTx`: the transaction to sign, its input data, and the same with the signatures. -/
structure Assembly (w : WalletRef) (partialTx : String) (signatures : List String) (signedTx : Transaction)
    (proposal : String) (tx : Transaction) (dataToSign : Buffer) (inputData signedData : String) : Prop where
  read : library (.lib (.fromPartialTx w partialTx)) = .ok proposal
  unsigned : library (.lib (.getProposalTx proposal)) = .ok tx
  toSign : library (.lib (.getDataToSign tx)) = .ok dataToSign
  created : library (.lib (.newPartialTxInputData dataToSign.toHex tx.inputs.length)) = .ok inputData
  added : (addAllSignatures inputData signatures).eval library = .ok signedData
  complete : library (.lib (.isComplete proposal signedData)) = .ok true
  prepared : library (.lib (.prepareProposalTx proposal signedData)) = .ok signedTx

theorem assembled_iff {w : WalletRef} {partialTx : String} {signatures : List String} {signedTx : Transaction} :
    assembled library w partialTx signatures = .ok signedTx ↔
      ∃ proposal tx dataToSign inputData signedData,
        Assembly library w partialTx signatures signedTx proposal tx dataToSign inputData signedData := by
  constructor
  · intro h
    obtain ⟨proposal, hproposal, h⟩ := Prog.eval_bind_ok h
    obtain ⟨tx, htx, h⟩ := Prog.eval_bind_ok h
    obtain ⟨dataToSign, hdata, h⟩ := Prog.eval_bind_ok h
    obtain ⟨inputData, hinput, h⟩ := Prog.eval_bind_ok h
    obtain ⟨signedData, hsigned, h⟩ := Prog.eval_bind_ok h
    obtain ⟨complete, hcomplete, h⟩ := Prog.eval_bind_ok h
    have hlib {c : LibCall} {a : c.Result} (h : (lib c).eval library = .ok a) : library (.lib c) = .ok a :=
      (eval_lib library c).symm.trans h
    cases complete with
    | false => cases h
    | true =>
        exact ⟨_, _, _, _, _, hlib hproposal, hlib htx, hlib hdata, hlib hinput, hsigned, hlib hcomplete, hlib h⟩
  · rintro ⟨proposal, tx, dataToSign, inputData, signedData, h⟩
    have hbind {α β : Type} {p : Async α} {f : α → Async β} {a : α} (hp : p.eval library = .ok a) :
        (p >>= f).eval library = (f a).eval library := by
      rw [Prog.bind_eq, Prog.eval_bind, hp]
      rfl
    have hlib {c : LibCall} {a : c.Result} (h : library (.lib c) = .ok a) : (lib c).eval library = .ok a :=
      (eval_lib library c).trans h
    refine (hbind (hlib h.read)).trans ((hbind (hlib h.unsigned)).trans ((hbind (hlib h.toSign)).trans ?_))
    refine (hbind (hlib h.created)).trans ((hbind h.added).trans ((hbind (hlib h.complete)).trans ?_))
    exact hlib h.prepared

end Assembly

/-! ## The input data of `wallet-lib` -/

/-- The content of a `PartialTxInputData`: what a transaction signs, and the data that its inputs have so far. -/
structure InputDataContent where
  hash : String
  data : List (Option Buffer)
deriving DecidableEq

/-- The input data starts with nothing, signatures keep what it is for, and it is complete only with the data of every
input; a proposal reads its content and returns a transaction without a property `signatures`. -/
structure PartialTxLib (library : (c : Op) → c.Ans) (content : String → InputDataContent) : Prop where
  fresh : ∀ hash inputsLen inputData, library (.lib (.newPartialTxInputData hash inputsLen)) = .ok inputData →
    content inputData = ⟨hash, List.replicate inputsLen none⟩
  added : ∀ inputData sig inputData', library (.lib (.addSignatures inputData sig)) = .ok inputData' →
    (content inputData').hash = (content inputData).hash ∧
      (content inputData').data.length = (content inputData).data.length
  complete : ∀ proposal inputData, library (.lib (.isComplete proposal inputData)) = .ok true →
    ∀ x ∈ (content inputData).data, x.isSome = true
  reads : ∀ proposal inputData inputData', content inputData = content inputData' →
    library (.lib (.isComplete proposal inputData)) = library (.lib (.isComplete proposal inputData')) ∧
      library (.lib (.prepareProposalTx proposal inputData)) = library (.lib (.prepareProposalTx proposal inputData'))
  plain : ∀ proposal inputData tx, library (.lib (.prepareProposalTx proposal inputData)) = .ok tx →
    tx.signatures = none

section Content
variable {library : (c : Op) → c.Ans} {content : String → InputDataContent}

/-- Signatures keep the transaction that the input data is for. -/
theorem PartialTxLib.content_added (h : PartialTxLib library content) {inputData inputData' : String}
    {signatures : List String} (hadded : (addAllSignatures inputData signatures).eval library = .ok inputData') :
    (content inputData').hash = (content inputData).hash ∧
      (content inputData').data.length = (content inputData).data.length := by
  induction signatures generalizing inputData with
  | nil =>
      cases hadded
      exact ⟨rfl, rfl⟩
  | cons sig sigs ih =>
      obtain ⟨d, hd, hadded⟩ := Prog.eval_bind_ok hadded
      obtain ⟨hhash, hlen⟩ := ih hadded
      obtain ⟨hhash', hlen'⟩ := h.added _ _ _ ((eval_lib ..).symm.trans hd)
      exact ⟨hhash.trans hhash', hlen.trans hlen'⟩

/-- The transaction of a proposal spends nothing. -/
def SpendsNothing (library : (c : Op) → c.Ans) (w : WalletRef) (partialTx : String) : Prop :=
  ∀ proposal tx, library (.lib (.fromPartialTx w partialTx)) = .ok proposal →
    library (.lib (.getProposalTx proposal)) = .ok tx → tx.inputs = []

variable {w : WalletRef} {partialTx : String} {signatures : List String} {signedTx : Transaction}

/-- Without signatures only a transaction that spends nothing is complete. -/
theorem PartialTxLib.spendsNothing (h : PartialTxLib library content)
    (hsigned : assembled library w partialTx [] = .ok signedTx) : SpendsNothing library w partialTx := by
  obtain ⟨proposal, tx, dataToSign, inputData, signedData, ha⟩ := (assembled_iff library).mp hsigned
  intro proposal' tx' hproposal htx
  obtain rfl := Except.ok.inj (ha.read.symm.trans hproposal)
  obtain rfl := Except.ok.inj (ha.unsigned.symm.trans htx)
  obtain rfl : inputData = signedData := Except.ok.inj ha.added
  have hall := h.complete _ _ ha.complete
  rw [h.fresh _ _ _ ha.created] at hall
  by_contra hne
  have hnone : none ∈ List.replicate tx.inputs.length (none : Option Buffer) :=
    List.mem_replicate.mpr ⟨fun hlen => hne (List.length_eq_zero_iff.mp hlen), rfl⟩
  cases hall none hnone

/-- Of a transaction that spends nothing, the signatures do not matter. -/
theorem PartialTxLib.assembled_nil (h : PartialTxLib library content)
    (hsigned : assembled library w partialTx signatures = .ok signedTx)
    (hnothing : SpendsNothing library w partialTx) : assembled library w partialTx [] = .ok signedTx := by
  obtain ⟨proposal, tx, dataToSign, inputData, signedData, ha⟩ := (assembled_iff library).mp hsigned
  have hfresh := h.fresh _ _ _ ha.created
  obtain ⟨hhash, hlen⟩ := h.content_added ha.added
  have hdata : (content signedData).data = (content inputData).data := by
    have hempty : (content inputData).data = [] := by rw [hfresh, hnothing _ _ ha.read ha.unsigned]; rfl
    rw [hempty] at hlen ⊢
    exact List.length_eq_zero_iff.mp hlen
  have hsame : content signedData = content inputData := by
    cases hs : content signedData
    cases hi : content inputData
    rw [hs, hi] at hhash hdata
    exact congrArg₂ InputDataContent.mk hhash hdata
  obtain ⟨hcomplete, htx⟩ := h.reads proposal _ _ hsame
  exact (assembled_iff library).mpr ⟨proposal, tx, dataToSign, inputData, inputData, ha.read, ha.unsigned, ha.toSign,
    ha.created, rfl, hcomplete.symm.trans ha.complete, htx.symm.trans ha.prepared⟩

end Content

/-! ## The handler -/

/-- The calls that assemble a transaction are answered by the library. -/
def AnsweredBy (library : (c : Op) → c.Ans) (c : Op) (r : c.Ans) : Prop := AssemblyOp c → r = library c

/-- Every update that was sent is `good`. -/
def Updates (good : SwapUpdate → Prop) (log : Log) : Prop :=
  ∀ params r, ⟨.lib (.swapUpdate params), r⟩ ∈ log → good params

/-- The calls that do not reply and send only updates that are `good`. -/
def UpdateOp (good : SwapUpdate → Prop) : Op → Prop
  | .send _ => False
  | .lib (.swapUpdate params) => good params
  | _ => True

theorem AssemblyOp.update {good : SwapUpdate → Prop} {c : Op} (hc : AssemblyOp c) : UpdateOp good c := by
  cases c with
  | lib c => cases c <;> trivial
  | send reply => exact hc.elim
  | _ => trivial

theorem Updates.snoc {good : SwapUpdate → Prop} {log : Log} (h : Updates good log) {c : Op} (hc : UpdateOp good c)
    (r : c.Ans) : Updates good (log ++ [⟨c, r⟩]) := by
  intro params r' he
  rcases List.mem_append.mp he with he | he
  · exact h params r' he
  · cases List.mem_singleton.mp he
    exact hc

/-- A flow that replies with a hex only after `F`, when the calls that assemble are answered by the library. -/
def swapSigning (library : (c : Op) → c.Ans) (F : String → Log → Prop) : Protocol Op.Ans Log where
  allows log c := ∀ reply txHex, c = .send reply → reply.body = .swapTx txHex → F txHex log
  may _ := AnsweredBy library
  next log c r := log ++ [⟨c, r⟩]

section Signing
variable {library : (c : Op) → c.Ans} {F : String → Log → Prop} {α : Type} {good : SwapUpdate → Prop}

theorem swapSigning_after (t u : Log) : (swapSigning library F).after t u = t ++ u :=
  (swapSigning library F).after_log id (fun _ _ => rfl) (fun _ _ _ => rfl) t u

theorem swapSigning_allows {c : Op} (hc : UpdateOp good c) (log : Log) : (swapSigning library F).allows log c := by
  rintro reply txHex rfl
  exact hc.elim

/-- What a part of the handler that assembles returns. -/
theorem wp_assembly {p : Async α} (hp : p.Uses AssemblyOp) {log : Log} (h : Updates good log)
    {post : α → Log → Prop} {fail : JsError → Log → Prop}
    (hpost : ∀ a log, p.eval library = .ok a → Updates good log → post a log) (hfail : ∀ e log, fail e log) :
    (swapSigning library F).wp p log post fail := by
  induction p generalizing log with
  | ret a => exact hpost a log rfl h
  | throw e => exact hfail e log
  | op c k ih =>
      have hc : UpdateOp good c := hp.1.update
      refine ⟨swapSigning_allows hc log, fun r hr => ?_⟩
      have hanswer : r = library c := hr hp.1
      subst hanswer
      exact ih _ (hp.2 _) (h.snoc hc _) hpost

theorem wp_updates {p : Async α} (hp : p.Uses (UpdateOp good)) {log : Log} (h : Updates good log) :
    (swapSigning library F).wp p log (fun _ => Updates good) fun _ => Updates good :=
  hp.wp_inv (fun log _ hc h => ⟨swapSigning_allows hc log, fun r => h.snoc hc r⟩) h

theorem wp_sendError_signing (error : String) (log : Log) {post : Unit → Log → Prop} (hpost : ∀ log, post () log)
    {fail : JsError → Log → Prop} : (swapSigning library F).wp (sendError error) log post fail := by
  refine ⟨fun reply txHex hreply hbody => ?_, fun _ _ => hpost _⟩
  cases hreply
  cases hbody

end Signing

theorem updateProposal_uses {good : SwapUpdate → Prop} (walletId proposalId : String) {params : String → SwapUpdate}
    (hparams : ∀ password, good (params password)) :
    (updateProposal walletId proposalId fun password => return params password).Uses (UpdateOp good) := by
  refine uses_bind (uses_await trivial (uses_ask trivial)) fun m => ?_
  have hlisted : (listenedProposal m proposalId).Uses (UpdateOp good) := by
    cases m with
    | none => exact uses_pure _
    | some m => exact uses_ask trivial
  refine uses_bind hlisted fun requested => ?_
  cases requested with
  | none => exact uses_pure _
  | some requested =>
      have hservice : (serviceUpdate (params requested.password)).Uses (UpdateOp good) := by
        refine uses_ite (uses_throwThe _) (uses_ite (uses_throwThe _) (uses_bind ?_ fun success => ?_))
        · exact (uses_ask (c := Op.lib (.swapUpdate (params requested.password))) (hparams _)).attempt
        · exact uses_ite (uses_pure _) (uses_throwThe _)
      show (await (serviceUpdate (params requested.password)) >>= fun _ => pure true).Uses (UpdateOp good)
      exact uses_bind (uses_await trivial hservice) fun _ => uses_pure _

section Handler
variable {library : (c : Op) → c.Ans} {req : Req SwapSignBody}

/-- The hex is that of the assembled transaction, and the service was told its partial transaction and its property
`signatures`. -/
def SignedReply (library : (c : Op) → c.Ans) (req : Req SwapSignBody) (txHex : String) (log : Log) : Prop :=
  ∃ tx, assembled library req.wallet req.body.partial_tx (req.body.signatures.getD []) = .ok tx ∧
    library (.lib (.toHex tx)) = .ok txHex ∧
    Updates (fun params => params.partialTx = req.body.partial_tx ∧ params.signatures = tx.signatures) log

theorem signTxProposal_wp : (swapSigning library (SignedReply library req)).wp (signTxProposal req) []
    (fun _ _ => True) fun _ _ => True := by
  unfold signTxProposal validated
  split
  · refine ⟨fun reply txHex hreply hbody => ?_, fun _ _ => trivial⟩
    cases hreply
    cases hbody
  · have hfail (e : JsError) (log : Log) : (swapSigning library (SignedReply library req)).wp (sendError e.message) log
        (fun _ _ => True) fun _ _ => True := wp_sendError_signing _ _ fun _ => trivial
    have hnone : Updates (fun _ => False) [] := fun params r he => by cases he
    refine (Protocol.wp_tryCatch ..).mpr ((Protocol.wp_bind ..).mpr
      (wp_assembly (assembleTransaction_uses _ _ _) hnone (fun tx log htx hlog => ?_) hfail))
    -- nothing has been sent so far
    let good (params : SwapUpdate) : Prop :=
      params.partialTx = req.body.partial_tx ∧ params.signatures = tx.signatures
    have hlog : Updates good log := fun params r he => (hlog params r he).elim
    have hreply (log : Log) (hlog : Updates good log) :
        (swapSigning library (SignedReply library req)).wp (replyHex tx) log
        (fun _ _ => True) fun e log => (swapSigning library (SignedReply library req)).wp (sendError e.message) log
          (fun _ _ => True) fun _ _ => True := by
      have hhex : (toHex tx).Uses AssemblyOp := (uses_ask (c := Op.lib (.toHex tx)) trivial).attempt
      refine (Protocol.wp_bind ..).mpr (wp_assembly hhex hlog (fun txHex log hhex hlog => ?_) hfail)
      refine ⟨fun reply txHex' hreply hbody => ?_, fun _ _ => trivial⟩
      cases hreply
      cases hbody
      exact ⟨tx, htx, (eval_lib ..).symm.trans hhex, hlog⟩
    refine (Protocol.wp_bind ..).mpr ⟨fun _ _ hreply => (by cases hreply), fun toggle _ => ?_⟩
    have hlog := hlog.snoc (c := .proposals .featureToggle) trivial toggle
    refine (Protocol.wp_ret ..).mpr ?_
    split
    · exact hreply _ hlog
    next proposalId _ =>
      have huses : (updateProposal req.walletId proposalId fun password => return {
          proposalId := proposalId, password := password, partialTx := req.body.partial_tx,
          version := req.body.version, signatures := tx.signatures }).Uses (UpdateOp good) :=
        updateProposal_uses _ _ fun password => ⟨rfl, rfl⟩
      refine (Protocol.wp_bind ..).mpr (Protocol.wp_mono _ (wp_updates huses hlog) (fun updated log hlog => ?_)
        fun e log _ => hfail e log)
      refine (Protocol.wp_ite ..).mpr ⟨fun _ => hreply _ hlog, fun _ => ?_⟩
      refine ⟨fun reply txHex hreply hbody => ?_, fun _ _ => trivial⟩
      cases hreply
      cases hbody

/-- What a success of the handler says. -/
theorem signTxProposal_reply {log : Log} {reply : Reply} {txHex : String} {rest : Async Unit}
    (hsteps : Steps (signTxProposal req) (log ++ [⟨.send reply, ()⟩]) rest)
    (hlog : ∀ e ∈ log, AnsweredBy library e.1 e.2) (hreply : reply.body = .swapTx txHex) :
    SignedReply library req txHex log := by
  have htold : (swapSigning library (SignedReply library req)).Told [] log :=
    Protocol.told_of_mem _ (fun e he _ => hlog e he) []
  have hallows := Protocol.wp_allows _ hsteps signTxProposal_wp htold
  rw [swapSigning_after] at hallows
  exact hallows reply txHex rfl hreply

end Handler

/-! ## Another participant -/

/-- With the update the proposal can be finished: it has the partial transaction, and with the signatures that it has
the transaction of the hex is assembled again. -/
structure Finishable (library : (c : Op) → c.Ans) (w : WalletRef) (partialTx txHex : String) (params : SwapUpdate) :
    Prop where
  partialTx : params.partialTx = partialTx
  rebuilt : ∃ tx, assembled library w params.partialTx params.signatures.toList = .ok tx ∧
    library (.lib (.toHex tx)) = .ok txHex

/-- An update of which the handler has replied with the hex of the transaction has no signatures, so that the proposal
can be finished exactly when its transaction spends nothing. -/
theorem finishable_iff {library : (c : Op) → c.Ans} {content : String → InputDataContent}
    (h : PartialTxLib library content) {req : Req SwapSignBody} {log : Log} {reply : Reply} {txHex : String}
    {rest : Async Unit} (hsteps : Steps (signTxProposal req) (log ++ [⟨.send reply, ()⟩]) rest)
    (hlog : ∀ e ∈ log, AnsweredBy library e.1 e.2) (hreply : reply.body = .swapTx txHex) {params : SwapUpdate}
    {r : Except JsError Bool} (hupdate : ⟨.lib (.swapUpdate params), r⟩ ∈ log) :
    Finishable library req.wallet req.body.partial_tx txHex params ↔
      SpendsNothing library req.wallet req.body.partial_tx := by
  obtain ⟨tx, htx, hhex, hupdates⟩ := signTxProposal_reply hsteps hlog hreply
  obtain ⟨hsame, hsignatures⟩ := hupdates params r hupdate
  obtain ⟨proposal, tx', dataToSign, inputData, signedData, ha⟩ := (assembled_iff library).mp htx
  rw [h.plain _ _ _ ha.prepared] at hsignatures
  constructor
  · rintro ⟨-, tx'', htx'', -⟩
    rw [hsame, hsignatures] at htx''
    exact h.spendsNothing htx''
  · intro hnothing
    refine ⟨hsame, tx, ?_, hhex⟩
    rw [hsame, hsignatures]
    exact h.assembled_nil htx hnothing

/-! ## A proposal with one input, and one with none -/

/-- A library for one partial transaction; its input data has no data yet, or the data of every input. -/
def swapLib (tx : Transaction) : (c : Op) → c.Ans
  | .lib (.fromPartialTx _ partialTx) => .ok partialTx
  | .lib (.getProposalTx _) => .ok tx
  | .lib (.getDataToSign _) => .ok []
  | .lib (.newPartialTxInputData hash inputsLen) =>
    if hash = "" ∧ inputsLen = tx.inputs.length then .ok "" else .error { message := "" }
  | .lib (.addSignatures _ _) => .ok "signed"
  | .lib (.isComplete _ inputData) => .ok (tx.inputs.isEmpty || inputData ≠ "")
  | .lib (.prepareProposalTx _ _) =>
    .ok { tx with inputs := tx.inputs.map fun i => { i with data := some [0xaf] }, signatures := none }
  | .proposals .featureToggle => true
  | .proposals (.getProposals _) => some 0
  | .proposals (.getProposal _ proposalId) => some ⟨proposalId, "abc123", 0⟩
  | c => c.granted tx

def swapContent (tx : Transaction) (inputData : String) : InputDataContent :=
  ⟨"", List.replicate tx.inputs.length (if inputData = "" then none else some [0xaf])⟩

theorem swapLib_partialTxLib (tx : Transaction) : PartialTxLib (swapLib tx) (swapContent tx) where
  fresh hash inputsLen inputData h := by
    obtain ⟨⟨rfl, rfl⟩, h⟩ | ⟨-, h⟩ := ite_eq_iff.mp h
    · cases h
      rfl
    · cases h
  added inputData sig inputData' h := by simp [swapContent]
  complete proposal inputData h x hx := by
    obtain ⟨hlen, rfl⟩ := List.mem_replicate.mp hx
    rcases (by simpa [swapLib] using h : tx.inputs = [] ∨ inputData ≠ "") with hempty | hne
    · rw [hempty] at hlen
      exact absurd rfl hlen
    · rw [if_neg hne]
      rfl
  reads proposal inputData inputData' h := by
    refine ⟨?_, rfl⟩
    cases hinputs : tx.inputs with
    | nil => simp [swapLib, hinputs]
    | cons i inputs =>
        have hdata := congrArg InputDataContent.data h
        simp only [swapContent, hinputs, List.length_cons, List.replicate_succ, List.cons.injEq] at hdata
        by_cases hd : inputData = "" <;> by_cases hd' : inputData' = "" <;> simp_all [swapLib]
  plain proposal inputData tx' h := by
    cases h
    rfl

def signRequest : Req SwapSignBody where
  walletId := "w"
  wallet := 0
  body := { partial_tx := "partial", signatures := some ["signature"], proposal_id := some "id", version := some 0 }

def signedUpdate : SwapUpdate :=
  { proposalId := "id", password := "abc123", partialTx := "partial", version := some 0 }

/-- What the handler asks and is told before its reply. -/
def signLog (tx : Transaction) : Log := ((signTxProposal signRequest).run fun _ => swapLib tx).1.dropLast

def spendsOne : Transaction := { hash := "", inputs := [{ hash := "utxo", index := 0 }] }

def spendsNone : Transaction := { hash := "", inputs := [] }

theorem signLog_answered (tx : Transaction) : ∀ e ∈ signLog tx, AnsweredBy (swapLib tx) e.1 e.2 := by
  intro e he _
  obtain ⟨n, hn⟩ := Prog.of_mem_run (List.dropLast_subset _ he)
  exact hn

/-- Of a proposal with one input the service is not told the signature, and nobody can finish it. -/
theorem unfinishable : PartialTxLib (swapLib spendsOne) (swapContent spendsOne) ∧
    ¬ ∀ (log : Log) (reply : Reply) (txHex : String) (rest : Async Unit) (params : SwapUpdate)
      (r : Except JsError Bool), Steps (signTxProposal signRequest) (log ++ [⟨.send reply, ()⟩]) rest →
      (∀ e ∈ log, AnsweredBy (swapLib spendsOne) e.1 e.2) → reply.body = .swapTx txHex →
      ⟨.lib (.swapUpdate params), r⟩ ∈ log →
      Finishable (swapLib spendsOne) signRequest.wallet signRequest.body.partial_tx txHex params := by
  refine ⟨swapLib_partialTxLib _, fun h => ?_⟩
  have hsteps : Steps (signTxProposal signRequest) (signLog spendsOne ++ [⟨.send ⟨200, .swapTx ""⟩, ()⟩])
      (.ret ()) :=
    Prog.steps_run (signTxProposal signRequest) fun _ => swapLib spendsOne
  obtain ⟨tx, htx, -⟩ := (h _ _ _ _ signedUpdate (.ok true) hsteps (signLog_answered _) rfl
    (List.mem_of_getElem? (i := 11) rfl)).rebuilt
  cases htx

theorem spendsNone_finishable :
    Finishable (swapLib spendsNone) 0 "partial" "" signedUpdate ↔ SpendsNothing (swapLib spendsNone) 0 "partial" := by
  have hsteps : Steps (signTxProposal signRequest) (signLog spendsNone ++ [⟨.send ⟨200, .swapTx ""⟩, ()⟩])
      (.ret ()) :=
    Prog.steps_run (signTxProposal signRequest) fun _ => swapLib spendsNone
  exact finishable_iff (r := .ok true) (swapLib_partialTxLib spendsNone) hsteps (signLog_answered _) rfl
    (List.mem_of_getElem? (i := 11) rfl)

end WalletHeadless
