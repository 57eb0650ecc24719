import WalletHeadless.Api.Isolation
import WalletHeadless.Decode.Tokens

/-!
# What `/decode` replies

The handler asks the wallet and the full node for each transaction that is spent, and for each address; meanwhile others
take their turns. What it replies is what `Decode.decodeTx` computes from what it was told.

* `SourceTells`: what the wallets have said is what the sources say;
* `decodeInput_computes`, `decodeOutput_computes`: the handler computes what the functions do;
* `Decoding`: what a request may be replied; `App.decodes`.
-/

namespace WalletHeadless

open Coop Js

/-- The transactions that a wallet has told of, and the addresses that are its own, are those of its source. -/
def SourceTells (source : WalletRef → Decode.TxSource) : (c : ApiOp) → c.Ans → Prop
  | .read (.findTx w id), r => r = (source w).getTx id
  | .read (.getFullTxById w id), r => r = (source w).getFullTxById id
  | .gate (.server (.lib (.isAddressMine w address))), .ok mine => mine = (source w).isAddressMine address
  | _, _ => True

/-- A call has failed. -/
def CallFailed (e : JsError) (log : List (Event ApiOp.Ans)) : Prop :=
  (∃ c : ReadCall, ⟨.read c, .error e⟩ ∈ log) ∨ ∃ c : LibCall, ⟨.gate (.server (.lib c)), .error e⟩ ∈ log

/-- The transaction that a request gives, as `wallet-lib` reads it; the full node has accepted a partial one. -/
inductive ToDecode (w : WalletRef) (body : Reads.DecodeBody) (log : List (Event ApiOp.Ans)) (tx : Decode.Tx) : Prop
  | hex {txHex : String} (h : truthy body.txHex = some txHex) (htx : ⟨.read (.createTxFromHex w txHex), .ok tx⟩ ∈ log)
  | partialTx {partialTx : String} (h : truthy body.txHex = none)
      (hread : ⟨.read (.deserialize w (truthy body.partial_tx)), .ok partialTx⟩ ∈ log)
      (hvalid : ⟨.read (.validate partialTx), .ok true⟩ ∈ log)
      (htx : ⟨.read (.getPartialTx partialTx), .ok tx⟩ ∈ log)

/-- The parameters of a request to decode. -/
def HttpRequest.decodes (req : HttpRequest) : Option (Params Reads.DecodeBody) :=
  match req.route with
  | .wallet _ (some (.decodeTx params)) => some params
  | _ => none

/-- What a request to decode is answered. -/
inductive Decoding (source : WalletRef → Decode.TxSource) (params : Params Reads.DecodeBody) (req : HttpRequest)
    (log : List (Event ApiOp.Ans)) : Answer → Prop
  | layer {a : Answer} (h : LayerBody a.body) : Decoding source params req log a
  | invalid {error : String} (h : params.validationError = some error) :
      Decoding source params req log ⟨400, .invalid error⟩
  | both (h : (truthy params.body.txHex).isSome ∧ (truthy params.body.partial_tx).isSome) :
      Decoding source params req log ⟨400, .error "Required only one of txHex or partialTx"⟩
  | decoded {x : Injected} {tx : Decode.Tx} {data : Decode.DecodedTx} {balance : List (String × TokenBalance)}
      (hx : LetThrough req log x) (htx : ToDecode x.wallet params.body log tx)
      (hdata : Decode.decodeTx (source x.wallet) tx = .ok data)
      (hbalance : ⟨.read (.getTxBalance x.wallet data), .ok balance⟩ ∈ log) :
      Decoding source params req log ⟨200, .decoded data balance⟩
  | refused {x : Injected} {tx : Decode.Tx} {e : JsError} (hx : LetThrough req log x)
      (htx : ToDecode x.wallet params.body log tx) (he : Decode.decodeTx (source x.wallet) tx = .error e) :
      Decoding source params req log ⟨200, .error e.message⟩
  | inconsistent {partialTx : String} (h : ⟨.read (.validate partialTx), .ok false⟩ ∈ log) :
      Decoding source params req log ⟨200, .error "Partial transaction inconsistent with backend"⟩
  | failed {e : JsError} (h : CallFailed e log) : Decoding source params req log ⟨200, .error e.message⟩

section
variable {source : WalletRef → Decode.TxSource} {params : Params Reads.DecodeBody} {req : HttpRequest}
  {log log' : List (Event ApiOp.Ans)}

theorem CallFailed.mono {e : JsError} (h : CallFailed e log) (hlog : log <+: log') : CallFailed e log' :=
  h.imp (fun ⟨c, hc⟩ => ⟨c, hlog.subset hc⟩) fun ⟨c, hc⟩ => ⟨c, hlog.subset hc⟩

theorem ToDecode.mono {w : WalletRef} {body : Reads.DecodeBody} {tx : Decode.Tx} (h : ToDecode w body log tx)
    (hlog : log <+: log') : ToDecode w body log' tx := by
  cases h with
  | hex h htx => exact .hex h (hlog.subset htx)
  | partialTx h hread hvalid htx => exact .partialTx h (hlog.subset hread) (hlog.subset hvalid) (hlog.subset htx)

theorem Decoding.mono {a : Answer} (h : Decoding source params req log a) (hlog : log <+: log') :
    Decoding source params req log' a := by
  have hsub (e : Event ApiOp.Ans) (he : e ∈ log) : e ∈ log' := hlog.subset he
  cases h with
  | layer h => exact .layer h
  | invalid h => exact .invalid h
  | both h => exact .both h
  | decoded hx htx hdata hbalance => exact .decoded (hx.mono hsub) (htx.mono hlog) hdata (hsub _ hbalance)
  | refused hx htx he => exact .refused (hx.mono hsub) (htx.mono hlog) he
  | inconsistent h => exact .inconsistent (hsub _ h)
  | failed h => exact .failed (h.mono hlog)

/-- A request to decode is answered as it may be. -/
def DecodeAllows (source : WalletRef → Decode.TxSource) (params : Params Reads.DecodeBody) (req : HttpRequest)
    (log : List (Event ApiOp.Ans)) : ApiOp → Prop
  | .answer a => Decoding source params req log a
  | _ => True

/-- The protocol of a request to decode, when the sources tell. -/
abbrev decoding (source : WalletRef → Decode.TxSource) (params : Params Reads.DecodeBody) (req : HttpRequest) :
    Protocol ApiOp.Ans (List (Event ApiOp.Ans)) :=
  logging (DecodeAllows source params req) (SourceTells source)

/-! ## Calls -/

theorem wp_consult (c : ReadCall) (log : List (Event ApiOp.Ans))
    {post : c.Result → List (Event ApiOp.Ans) → Prop} {fail : JsError → List (Event ApiOp.Ans) → Prop}
    (hpost : ∀ r, SourceTells source (.read c) (.ok r) → post r (log ++ [⟨.read c, .ok r⟩]))
    (hfail : ∀ e, SourceTells source (.read c) (.error e) → fail e (log ++ [⟨.read c, .error e⟩])) :
    (decoding source params req).wp (consult c) log post fail := by
  refine ⟨trivial, fun r hr => ?_⟩
  cases r with
  | ok r => exact hpost r hr
  | error e => exact hfail e hr

theorem isAddressMine_computes (w : WalletRef) (address : String) :
    (decoding source params req).Computes CallFailed (onApi (isAddressMine w address))
      (.ok ((source w).isAddressMine address)) := by
  intro log
  refine ⟨trivial, fun r hr => ?_⟩
  cases r with
  | ok mine => exact congrArg Except.ok (Eq.symm hr)
  | error e => exact .inr (.inr ⟨.isAddressMine w address, List.mem_append_right _ (List.mem_singleton.mpr rfl)⟩)

theorem findTx_computes (w : WalletRef) (id : String) :
    (decoding source params req).Computes CallFailed (Reads.findTx w id)
      (Decode.getTx (source w) id) := by
  intro log
  refine (Protocol.wp_bind ..).mpr (wp_consult _ _ (fun tx htx => ?_) fun e he => .inl ?_)
  · have htx : (source w).getTx id = .ok tx := htx.symm
    cases tx with
    | some tx => simp [Decode.getTx, htx, bind, Except.bind, pure, Except.pure, Protocol.wp]
    | none =>
        refine (Protocol.wp_tryCatch ..).mpr ((Protocol.wp_bind ..).mpr (wp_consult _ _ (fun full hfull => ?_) fun e he => ?_))
        · have hfull : (source w).getFullTxById id = .ok full := hfull.symm
          simp [Decode.getTx, htx, hfull, bind, Except.bind]
          rfl
        · have he : (source w).getFullTxById id = .error e := he.symm
          simp [Decode.getTx, htx, he, bind, Except.bind]
          rfl
  · have he : (source w).getTx id = .error e := he.symm
    simp [Decode.getTx, he, bind, Except.bind]

/-! ## Loops -/

theorem decodeInput_computes (w : WalletRef) (input : Input) :
    (decoding source params req).Computes CallFailed (Reads.decodeInput w input)
      (Decode.decodeInput (source w) input) := by
  refine Protocol.computes_bind (findTx_computes w input.hash) fun tx _ => ?_
  cases tx with
  | none => exact Protocol.computes_throw _
  | some tx =>
      cases hutxo : tx.outputs[input.index]? with
      | none =>
          simp only [hutxo]
          exact Protocol.computes_throw _
      | some utxo =>
          simp only [hutxo]
          cases haddress : utxo.address with
          | none => exact Protocol.computes_pure _
          | some address =>
              exact Protocol.computes_bind (isAddressMine_computes w address) fun _ _ => Protocol.computes_pure _

theorem decodeOutput_computes (w : WalletRef) (tx : Decode.Tx) (output : Decode.TxOutput) :
    (decoding source params req).Computes CallFailed (Reads.decodeOutput w tx output)
      (Decode.decodeOutput (source w) tx output) := by
  unfold Reads.decodeOutput Decode.decodeOutput
  cases output.decodedScript with
  | none => exact Protocol.computes_throw _
  | some decoded =>
      cases decoded with
      | data data => exact Protocol.computes_pure _
      | address base58 timelock =>
          exact Protocol.computes_bind (isAddressMine_computes w base58) fun _ _ => Protocol.computes_pure _

/-- The transaction is the one to decode, or the request is refused for a reason. -/
theorem wp_txToDecode (w : WalletRef) (log : List (Event ApiOp.Ans)) :
    (decoding source params req).wp (Reads.txToDecode w params.body) log (fun tx log' => ToDecode w params.body log' tx)
      fun e log' => Decoding source params req log' ⟨200, .error e.message⟩ := by
  have hlast {log : List (Event ApiOp.Ans)} (e : Event ApiOp.Ans) : e ∈ log ++ [e] :=
    List.mem_append_right _ (List.mem_singleton.mpr rfl)
  have hfailed {log : List (Event ApiOp.Ans)} (c : ReadCall) (e : JsError) :
      Decoding source params req (log ++ [⟨.read c, .error e⟩]) ⟨200, .error e.message⟩ := .failed (.inl ⟨c, hlast _⟩)
  unfold Reads.txToDecode
  cases hhex : truthy params.body.txHex with
  | some txHex => exact wp_consult _ _ (fun tx _ => .hex hhex (hlast _)) fun e _ => hfailed _ e
  | none =>
      refine (Protocol.wp_bind ..).mpr (wp_consult _ _ (fun partialTx _ => ?_) fun e _ => hfailed _ e)
      refine (Protocol.wp_bind ..).mpr (wp_consult _ _ (fun valid _ => ?_) fun e _ => hfailed _ e)
      cases valid with
      | false => exact .inconsistent (hlast _)
      | true =>
          refine wp_consult _ _ (fun tx _ => .partialTx hhex ?_ ?_ (hlast _)) fun e _ => hfailed _ e
          · exact List.mem_append_left _ (List.mem_append_left _ (hlast _))
          · exact List.mem_append_left _ (hlast _)

theorem allowed_replies {body : ApiAsync Unit} {log : List (Event ApiOp.Ans)}
    (h : (decoding source params req).wp body log (fun _ _ => True)
      fun e log' => Decoding source params req log' ⟨200, .error e.message⟩) :
    Allowed (DecodeAllows source params req) (SourceTells source) (replies body) log :=
  (Protocol.wp_tryCatch ..).mpr (Protocol.wp_mono _ h (fun _ _ _ => trivial) fun _ _ he => ⟨he, fun _ _ => trivial⟩)

/-- The inputs and the outputs are decoded, and the reply is what was computed. -/
theorem wp_decoded {x : Injected} {tx : Decode.Tx} {log : List (Event ApiOp.Ans)} (hx : LetThrough req log x)
    (htx : ToDecode x.wallet params.body log tx) :
    (decoding source params req).wp (do
        let inputs ← tx.inputs.mapM (Reads.decodeInput x.wallet)
        let outputs ← tx.outputs.mapM (Reads.decodeOutput x.wallet tx)
        let data : Decode.DecodedTx :=
          { version := tx.version, tokens := tx.tokens, inputs := inputs, outputs := outputs
            completeSignatures := !inputs.isEmpty && inputs.all Decode.DecodedInput.signed }
        let balance ← consult (.getTxBalance x.wallet data)
        answer (.decoded data balance)) log (fun _ _ => True)
      fun e log' => Decoding source params req log' ⟨200, .error e.message⟩ := by
  have hrefused {log' : List (Event ApiOp.Ans)} {e : JsError} (hlog : log <+: log')
      (he : Decode.decodeTx (source x.wallet) tx = .error e ∨ CallFailed e log') :
      Decoding source params req log' ⟨200, .error e.message⟩ :=
    he.elim (.refused (hx.mono fun _ he => hlog.subset he) (htx.mono hlog)) .failed
  have hinputs : (decoding source params req).Computes CallFailed (tx.inputs.mapM (Reads.decodeInput x.wallet))
      (tx.inputs.mapM (Decode.decodeInput (source x.wallet))) :=
    Protocol.computes_mapM (decodeInput_computes x.wallet) tx.inputs
  have houtputs : (decoding source params req).Computes CallFailed (tx.outputs.mapM (Reads.decodeOutput x.wallet tx))
      (tx.outputs.mapM (Decode.decodeOutput (source x.wallet) tx)) :=
    Protocol.computes_mapM (decodeOutput_computes x.wallet tx) tx.outputs
  refine (Protocol.wp_bind ..).mpr (Protocol.wp_mono _ (logging_extends (hinputs log) List.prefix_rfl) ?_ ?_)
  · rintro inputs log₁ ⟨hlog₁, hi⟩
    refine (Protocol.wp_bind ..).mpr (Protocol.wp_mono _ (logging_extends (houtputs log₁) hlog₁) ?_ ?_)
    · rintro outputs log₂ ⟨hlog₂, ho⟩
      refine (Protocol.wp_bind ..).mpr (wp_consult _ _ (fun balance _ => ?_) fun e _ => ?_)
      · have hlog {l : List (Event ApiOp.Ans)} : log <+: log₂ ++ l := hlog₂.trans (List.prefix_append _ _)
        exact ⟨.decoded (hx.mono fun _ he => hlog.subset he) (htx.mono hlog) (Decode.decodeTx_eq_ok hi ho)
          (List.mem_append_right _ (List.mem_singleton.mpr rfl)), fun _ _ => trivial⟩
      · exact .failed (.inl ⟨_, List.mem_append_right _ (List.mem_singleton.mpr rfl)⟩)
    · rintro e log₂ ⟨hlog₂, he⟩
      refine hrefused hlog₂ (he.imp_left fun he => ?_)
      simp [Decode.decodeTx, hi, he, bind, Except.bind]
  · rintro e log₁ ⟨hlog₁, he⟩
    refine hrefused hlog₁ (he.imp_left fun he => ?_)
    simp [Decode.decodeTx, he, bind, Except.bind]

/-- The handler replies what may be replied. -/
theorem decodeTx_allowed {x : Injected} {log : List (Event ApiOp.Ans)} (hx : LetThrough req log x) :
    Allowed (DecodeAllows source params req) (SourceTells source) (Reads.decodeTx (params.at x)) log := by
  unfold Reads.decodeTx checked
  cases herror : params.validationError with
  | some error =>
      simp only [Params.at, herror]
      exact ⟨.invalid herror, fun _ _ => trivial⟩
  | none =>
      simp only [Params.at, herror]
      refine (Protocol.wp_ite ..).mpr ⟨fun hboth => ⟨.both hboth, fun _ _ => trivial⟩, fun _ => ?_⟩
      refine allowed_replies ?_
      refine (Protocol.wp_bind ..).mpr (Protocol.wp_mono _ (logging_extends (wp_txToDecode x.wallet log) List.prefix_rfl)
        (fun tx log₁ h₁ => ?_) fun _ _ h => h.2)
      exact wp_decoded (hx.mono fun _ he => h₁.1.subset he) h₁.2

end

/-- In every run a request to decode is replied what is computed from what its flow was told. -/
theorem App.decodes {L : TxProposalLib} {key : Option String} {ok : App → AppStep → Prop} {s₀ : Api} {S : App}
    {source : WalletRef → Decode.TxSource} {params : Params Reads.DecodeBody}
    (h : App.Run L key ok s₀ S) {i : Nat} {p : Proc ApiOp.Ans JsError Unit HttpRequest} (hp : S.procs[i]? = some p)
    (hdecodes : p.req.decodes = some params) (htold : ∀ e ∈ p.log, SourceTells source e.1 e.2)
    {a : Answer} (ha : ⟨.answer a, ()⟩ ∈ p.log) : Decoding source params p.req p.log a := by
  have hwp : Allowed (DecodeAllows source params p.req) (SourceTells source) (serve L key p.req) [] := by
    refine serve_wp L key (fun log c hc => ?_) (fun _ _ _ _ => trivial) (fun log route hroot => ?_)
      fun log path route x hroute hx => ?_
    · cases c with
      | answer a => exact .layer hc
      | _ => trivial
    · rw [HttpRequest.decodes, hroot] at hdecodes
      cases hdecodes
    · rw [HttpRequest.decodes, hroute] at hdecodes
      cases route with
      | decodeTx params' =>
          cases hdecodes
          exact decodeTx_allowed hx
      | _ => cases hdecodes
  obtain ⟨t, u, hlog⟩ := List.append_of_mem ha
  have hsteps := hlog ▸ Reach.steps h hp
  have hallowed : DecodeAllows source params p.req t (.answer a) := logging_allows hsteps hwp fun e he =>
    htold e (hlog ▸ List.mem_append_left _ he)
  exact Decoding.mono hallowed (hlog ▸ List.prefix_append _ _)

/-- A transaction of the history with an output of HTR. -/
def spentTx : Decode.FoundTx := { tokens := [], outputs := [{ value := 3, token_data := 0, address := some "address" }] }

/-- It is found in the history of all wallets, and all addresses are their own. -/
def inHistory (_ : WalletRef) : Decode.TxSource where
  getTx _ := .ok (some spentTx)
  getFullTxById _ := .ok ⟨false, none⟩
  isAddressMine _ := true

/-- A transaction that spends the output. -/
def spendingTx : Decode.Tx where
  tokens := []
  inputs := [{ hash := "spent", index := 0 }]
  outputs := [{ value := 3, tokenData := 0, decodedScript := some (.data "data") }]

def ApiOp.told : (c : ApiOp) → c.Ans
  | .read (.createTxFromHex ..) => .ok spendingTx
  | .read (.findTx w id) => (inHistory w).getTx id
  | .read (.getTxBalance ..) => .ok []
  | .gate (.server (.lib (.isAddressMine w address))) => .ok ((inHistory w).isAddressMine address)
  | c => c.granted

def decodesTx : HttpRequest where
  xApiKey := some "key"
  xWalletId := some "w"
  route := .wallet "/decode" (some (.decodeTx ⟨none, { txHex := some "00" }⟩))

/-- The request to decode takes its turns, and a request that sends comes in between. -/
def decodesBetween : List AppStep :=
  [.spawn decodesTx fun _ => ApiOp.told, appComes (sendsFrom "w"), .resume 0 fun _ => ApiOp.told,
    .resume 0 fun _ => ApiOp.told, .resume 0 fun _ => ApiOp.told]

instance (source : WalletRef → Decode.TxSource) (c : ApiOp) (r : c.Ans) : Decidable (SourceTells source c r) := by
  unfold SourceTells
  split <;> infer_instance

/-- What is replied of the transaction. -/
def spendingData : Decode.DecodedTx where
  version := 1
  tokens := []
  inputs := [⟨"spent", 0, some "address", some (.uid NATIVE_TOKEN_UID), 3, 0, "", false, true⟩]
  outputs := [⟨3, 0, "", .data "data", false, some (.uid NATIVE_TOKEN_UID)⟩]
  completeSignatures := false

theorem decodesBetween_answered : (Sys.exec api (serve oneHexLib (some "key")) (fun _ _ => True) decodesBetween
    ⟨servesOne, []⟩).any (fun S : App => (S.procs[0]?.any fun p =>
      p.req.decodes = some ⟨none, { txHex := some "00" }⟩ ∧
        ApiOp.answer ⟨200, .decoded spendingData []⟩ ∈ p.log.map Sigma.fst ∧
        ∀ e ∈ p.log, SourceTells inHistory e.1 e.2) = true) = true := by
  decide +kernel

theorem decodesBetween_decodes : ∃ (S : App) (p : Proc ApiOp.Ans JsError Unit HttpRequest), S.procs[0]? = some p ∧
    ⟨.answer ⟨200, .decoded spendingData []⟩, ()⟩ ∈ p.log ∧
    Decoding inHistory ⟨none, { txHex := some "00" }⟩ p.req p.log ⟨200, .decoded spendingData []⟩ := by
  obtain ⟨S, hS, hany⟩ := App.run_of_exec decodesBetween_answered
  obtain ⟨p, hp, hlog⟩ := (Option.any_eq_true _ _).mp hany
  obtain ⟨hdecodes, hanswered, htold⟩ := of_decide_eq_true hlog
  obtain ⟨⟨c, r⟩, he, rfl⟩ := List.mem_map.mp hanswered
  exact ⟨S, p, hp, he, App.decodes hS hp hdecodes htold he⟩

end WalletHeadless
