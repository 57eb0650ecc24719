import WalletHeadless.Marks.Log

/-!
# The requests that mark the inputs of a transaction

The four proposals mark the inputs of the transaction that they return, and `utxosSelectedAsInput` those of the
transaction that it is given. The marks are set one by one, and nothing removes them when a later call fails.

* `MarkRequest`: these requests; `MarkRequest.Atomic`: all the marks on success, none on a failure;
* `settles`: how the handlers end;
* `marks_atomic_iff`: alone, a request is atomic exactly when no call fails after a new mark;
* `mark_then_failure`: the second of two marks fails.
-/

namespace WalletHeadless

open Coop Js
open Prog (uses_ask uses_throw)

inductive MarkRequest
  | buildTxProposal (req : Req TxProposalBody)
  | buildCreateTokenTxProposal (req : Req CreateTokenProposalBody)
  | buildMintTokensTxProposal (req : Req AuthorityProposalBody)
  | buildMeltTokensTxProposal (req : Req AuthorityProposalBody)
  | utxosSelectedAsInput (req : Req SelectedBody)
deriving DecidableEq

namespace MarkRequest

def handle : MarkRequest → Async Unit
  | buildTxProposal req => WalletHeadless.buildTxProposal req
  | buildCreateTokenTxProposal req => WalletHeadless.buildCreateTokenTxProposal req
  | buildMintTokensTxProposal req => WalletHeadless.buildMintTokensTxProposal req
  | buildMeltTokensTxProposal req => WalletHeadless.buildMeltTokensTxProposal req
  | utxosSelectedAsInput req => WalletHeadless.utxosSelectedAsInput req

def wallet : MarkRequest → WalletRef
  | buildTxProposal req => req.wallet
  | buildCreateTokenTxProposal req => req.wallet
  | buildMintTokensTxProposal req => req.wallet
  | buildMeltTokensTxProposal req => req.wallet
  | utxosSelectedAsInput req => req.wallet

/-- The request asks for the marks. -/
def Marks : MarkRequest → Prop
  | buildTxProposal req => req.body.mark_inputs_as_used = some true
  | buildCreateTokenTxProposal req => req.body.mark_inputs_as_used = some true
  | buildMintTokensTxProposal req => req.body.mark_inputs_as_used = some true
  | buildMeltTokensTxProposal req => req.body.mark_inputs_as_used = some true
  | utxosSelectedAsInput req => req.body.mark_as_used.getD true = true

/-- The transaction that a reply returns, or that the request was given. -/
def Concerns (request : MarkRequest) (log : Log) (body : ReplyBody) (tx : Transaction) : Prop :=
  match request, body with
  | utxosSelectedAsInput req, .ok => ⟨.lib (.createTxFromHex req.wallet req.body.txHex), .ok tx⟩ ∈ log
  | _, .txHex tx' _ => tx' = tx
  | _, _ => False

theorem Concerns.mono {request : MarkRequest} {log log' : Log} {body : ReplyBody} {tx : Transaction}
    (h : request.Concerns log body tx) (hlog : ∀ e ∈ log, e ∈ log') : request.Concerns log' body tx := by
  unfold Concerns at h ⊢
  split at h
  · exact hlog _ h
  · exact h
  · exact h.elim

/-- A success adds exactly the inputs of the transaction to the marks, and a failure changes none. -/
structure Atomic (request : MarkRequest) (s₀ s : Server) (log : Log) : Prop where
  success : ∀ reply : Reply, ⟨.send reply, ()⟩ ∈ log → reply.body.success = true →
    ∃ tx, request.Concerns log reply.body tx ∧
      ∀ x, x ∈ s.selected ↔ x ∈ s₀.selected ∨ ∃ u ∈ tx.utxos, x = (request.wallet, u)
  failure : FailureKeeps s₀ s log

/-- The request is done when it has marked what its transaction spends. -/
def Done (request : MarkRequest) (log : Log) (reply : Reply) : Prop :=
  ∃ tx, request.Concerns log reply.body tx ∧ marksIn log = tx.utxos.map fun u => (request.wallet, u)

end MarkRequest

/-- A call of a library has failed. -/
def CallFails : Event Op.Ans → Prop
  | ⟨.lib _, .error _⟩ | ⟨.wallet _, .error _⟩ => True
  | _ => False

instance : DecidablePred CallFails := fun e =>
  match e with
  | ⟨.lib _, .error _⟩ | ⟨.wallet _, .error _⟩ => isTrue trivial
  | ⟨.lib _, .ok _⟩ | ⟨.wallet _, .ok _⟩ | ⟨.lock _, _⟩ | ⟨.registry _, _⟩ | ⟨.settings _, _⟩ | ⟨.proposals _, _⟩
  | ⟨.hsm _, _⟩ | ⟨.sleep _, _⟩ | ⟨.tick, _⟩ | ⟨.send _, _⟩ => isFalse id

/-! ## The handlers -/

/-- `xs` has been marked, and nothing has failed since the first mark. -/
structure Marked (xs : List (WalletRef × Utxo)) (log : Log) : Prop where
  clean : Clean CallFails log
  marks : marksIn log = xs

section
variable {w : WalletRef} {xs : List (WalletRef × Utxo)} {log : Log} {Done : Log → Reply → Prop}

theorem Unmarked.marked (h : Unmarked log) : Marked [] log := ⟨h.clean, h.marksIn⟩

theorem Marked.snoc (h : Marked xs log) {e : Event Op.Ans} (he : ¬ CallFails e) (hp : Plain e.1) :
    Marked (xs ++ marksOf e.1 e.2) (log ++ [e]) :=
  ⟨h.clean.snoc he hp, by rw [marksIn_snoc, h.marks]⟩

theorem Marked.quiet (h : Marked xs log) {e : Event Op.Ans} (he : ¬ CallFails e) (hp : Plain e.1)
    (hm : marksOf e.1 e.2 = []) : Marked xs (log ++ [e]) := by
  have hsnoc := h.snoc he hp
  rwa [hm, List.append_nil] at hsnoc

/-- A request that fails has marked nothing, or nothing since its first failure. -/
abbrev Lost (log : Log) : Prop := Broken CallFails log ∨ Unmarked log

/-- A call before the marks. -/
theorem wp_lib_unmarked {c : LibCall} (h : Unmarked log) {post : c.Result → Log → Prop}
    (hpost : ∀ a, Unmarked (log ++ [⟨.lib c, .ok a⟩]) → post a (log ++ [⟨.lib c, .ok a⟩])) :
    (historyOf Gives).wp (lib c) log post fun _ => Lost :=
  wp_lib_history (fun a _ => hpost a (h.snoc id rfl)) fun _ => .inr (h.snoc id rfl)

/-- A call after the marks. -/
theorem wp_lib_marked {c : LibCall} (h : Marked xs log) {post : c.Result → Log → Prop}
    (hpost : ∀ a, c.gives (.ok a) = true → Marked xs (log ++ [⟨.lib c, .ok a⟩]) → post a (log ++ [⟨.lib c, .ok a⟩])) :
    (historyOf Gives).wp (lib c) log post fun _ => Lost :=
  wp_lib_history (fun a ha => hpost a ha (h.quiet id id rfl)) fun _ => .inl (h.clean.fails trivial id rfl)

theorem wp_prepareData_marked {b : Build} (h : Unmarked log) {post : Transaction → Log → Prop}
    (hpost : ∀ tx log', Unmarked log' → post tx log') :
    (historyOf Gives).wp (prepareData w b) log post fun _ => Lost := by
  have hidle : (prepareData w b).Uses Idle := by
    refine uses_bind (uses_ask (c := Op.wallet (.build w b)) ⟨id, fun r => rfl⟩).attempt fun st => ?_
    split
    · exact uses_throw _ _
    · exact uses_pure _
  exact Protocol.wp_mono _ (unmarked_keeps hidle log h) hpost fun _ _ h => .inr h

/-- The loop: each mark is set, or nothing is marked after the one that fails. -/
theorem wp_markUtxos_marked (us : List Utxo) {ttl : Option Nat} (h : Marked xs log) {post : Unit → Log → Prop}
    {fail : JsError → Log → Prop} (hpost : ∀ log', Marked (xs ++ us.map fun u => (w, u)) log' → post () log')
    (hfail : ∀ e log', Broken CallFails log' → fail e log') :
    (historyOf Gives).wp (markUtxosSelectedAsInput w true us ttl) log post fail := by
  induction us generalizing xs log with
  | nil => exact hpost log (by simpa using h)
  | cons u us ih =>
      unfold markUtxosSelectedAsInput markUtxoSelected
      rw [Protocol.wp_bind, Protocol.wp_attempt]
      refine ⟨trivial, fun r _ => ⟨fun a ha => ?_, fun e he => ?_⟩⟩
      · subst ha
        refine ih (h.snoc (e := ⟨.wallet (.markUtxoSelected w u true ttl), .ok a⟩) id id) fun log' h' => hpost log' ?_
        rwa [List.append_assoc] at h'
      · subst he
        exact hfail e _ (h.clean.fails trivial id rfl)

theorem wp_awaitMarks (us : List Utxo) {ttl : Option Nat} (h : Marked [] log) {post : Unit → Log → Prop}
    (hpost : ∀ log', Marked (us.map fun u => (w, u)) log' → post () log') :
    (historyOf Gives).wp (await (markUtxosSelectedAsInput w true us ttl)) log post fun _ => Lost := by
  refine wp_await_history (wp_markUtxos_marked us h (fun log' h' => hpost _ ?_) fun e log' h' => ?_)
  · exact h'.quiet id id rfl
  · exact .inl (h'.snoc id rfl)

theorem wp_markIfUsed_marked (tx : Transaction) (h : Marked [] log) {post : Unit → Log → Prop}
    (hpost : ∀ log', Marked (tx.utxos.map fun u => (w, u)) log' → post () log') :
    (historyOf Gives).wp (markIfUsed w true tx) log post fun _ => Lost := wp_awaitMarks tx.utxos h hpost

theorem wp_sendTxHex_marked {tx : Transaction} (h : Marked xs log)
    (hdone : ∀ hex log', Marked xs log' → Done log' ⟨200, .txHex tx hex⟩) :
    (historyOf Gives).wp (sendTxHex tx) log (fun _ => Settled CallFails Done) fun _ => Lost :=
  (Protocol.wp_bind ..).mpr (wp_lib_marked h fun hex _ h' =>
    ⟨trivial, fun _ _ => .done h'.clean rfl (hdone hex _ h')⟩)

/-- A failure becomes the reply. -/
theorem wp_catchLost {p : Async Unit}
    (h : (historyOf Gives).wp p log (fun _ => Settled CallFails Done) fun _ => Lost) :
    (historyOf Gives).wp (tryCatch p fun err => sendError err.message) log (fun _ => Settled CallFails Done)
      fun _ => Settled CallFails Done := by
  refine (Protocol.wp_tryCatch ..).mpr (Protocol.wp_mono _ h (fun _ _ h => h) fun e log' h' => ⟨trivial, fun _ _ => ?_⟩)
  rcases h' with h' | h'
  · exact .failed h' rfl
  · exact .untouched h' rfl

theorem wp_validated_settles {β : Type} (req : Req β) {handler : Async Unit}
    (h : (historyOf Gives).wp handler [] (fun _ => Settled CallFails Done) fun _ => Settled CallFails Done) :
    (historyOf Gives).wp (validated req handler) [] (fun _ => Settled CallFails Done)
      fun _ => Settled CallFails Done := by
  unfold validated
  split
  · exact ⟨trivial, fun _ _ => .untouched unmarked_nil rfl⟩
  · exact h

/-- A request is done when it replies with a transaction whose inputs it has marked. -/
def EndsMarked (w : WalletRef) (Done : Log → Reply → Prop) : Prop :=
  ∀ tx hex log, Marked (tx.utxos.map fun u => (w, u)) log → Done log ⟨200, .txHex tx hex⟩

/-- A proposal that replies with the transaction it has prepared. -/
theorem wp_proposeMarked {b : Build} (h : Unmarked log)
    (hdone : EndsMarked w Done) :
    (historyOf Gives).wp (do
      let tx ← prepareData w b
      markIfUsed w true tx
      sendTxHex tx) log (fun _ => Settled CallFails Done) fun _ => Lost :=
  (Protocol.wp_bind ..).mpr (wp_prepareData_marked h fun tx _ h =>
    (Protocol.wp_bind ..).mpr (wp_markIfUsed_marked tx h.marked fun _ h => wp_sendTxHex_marked h (hdone tx)))

theorem authorityTxProposal_settles (req : Req AuthorityProposalBody) (b : Build)
    (hreq : req.body.mark_inputs_as_used = some true) (hdone : EndsMarked req.wallet Done) :
    (historyOf Gives).wp (authorityTxProposal req b) [] (fun _ => Settled CallFails Done)
      fun _ => Settled CallFails Done := by
  refine wp_validated_settles req (wp_catchLost ((Protocol.wp_bind ..).mpr ?_))
  rw [hreq]
  unfold checkChangeAddress
  split
  · exact wp_proposeMarked unmarked_nil hdone
  · refine (Protocol.wp_bind ..).mpr (wp_lib_unmarked unmarked_nil fun mine h => ?_)
    exact (Protocol.wp_ite ..).mpr ⟨fun _ => wp_proposeMarked h hdone, fun _ => .inr h⟩

theorem buildTxProposalChecked_settles (req : Req TxProposalBody) (changeAddress : Option String)
    (h : Unmarked log) (hreq : req.body.mark_inputs_as_used = some true)
    (hdone : EndsMarked req.wallet Done) :
    (historyOf Gives).wp (buildTxProposalChecked req changeAddress) log (fun _ => Settled CallFails Done)
      fun _ => Settled CallFails Done := by
  refine wp_catchLost ((Protocol.wp_bind ..).mpr (wp_prepareData_marked h fun txData _ h => ?_))
  rw [hreq]
  refine (Protocol.wp_bind ..).mpr (wp_markIfUsed_marked txData h.marked fun _ h => (Protocol.wp_bind ..).mpr ?_)
  refine wp_lib_marked h fun tx htx h => wp_sendTxHex_marked h fun hex log' h' => hdone tx hex log' ?_
  -- the transaction made from the data spends what was marked
  have hutxos : tx.utxos = txData.utxos := of_decide_eq_true htx
  rwa [hutxos]

theorem buildTxProposal_settles (req : Req TxProposalBody) (hreq : req.body.mark_inputs_as_used = some true)
    (hdone : EndsMarked req.wallet Done) :
    (historyOf Gives).wp (buildTxProposal req) [] (fun _ => Settled CallFails Done)
      fun _ => Settled CallFails Done := by
  refine wp_validated_settles req ?_
  dsimp only
  split
  · exact buildTxProposalChecked_settles req _ unmarked_nil hreq hdone
  · refine (Protocol.wp_bind ..).mpr (wp_lib_history (fun mine _ => ?_) fun _ => .thrown (unmarked_nil.snoc id rfl))
    have h : Unmarked [⟨.lib (.isAddressMine req.wallet _), .ok mine⟩] := unmarked_nil.snoc id rfl
    refine (Protocol.wp_ite ..).mpr ⟨fun _ => ?_, fun _ => ⟨trivial, fun _ _ => .untouched h rfl⟩⟩
    exact buildTxProposalChecked_settles req _ h hreq hdone

theorem utxosSelectedAsInput_settles (req : Req SelectedBody) (hreq : req.body.mark_as_used.getD true = true) :
    (historyOf Gives).wp (utxosSelectedAsInput req) []
      (fun _ => Settled CallFails (MarkRequest.Done (.utxosSelectedAsInput req)))
      fun _ => Settled CallFails (MarkRequest.Done (.utxosSelectedAsInput req)) := by
  refine wp_validated_settles req ?_
  rw [hreq]
  refine wp_catchLost ((Protocol.wp_bind ..).mpr (wp_lib_unmarked unmarked_nil fun tx h => (Protocol.wp_bind ..).mpr ?_))
  have hmarks : (historyOf Gives).wp (await (markUtxosSelectedAsInput req.wallet true tx.utxos req.body.ttl))
      [⟨.lib (.createTxFromHex req.wallet req.body.txHex), .ok tx⟩]
      (fun _ log' => Marked (tx.utxos.map fun u => (req.wallet, u)) log') fun _ => Lost :=
    wp_awaitMarks tx.utxos h.marked fun _ h' => h'
  refine Protocol.wp_mono _ (history_extends hmarks (List.prefix_refl _)) (fun _ log' h' => ?_) fun _ _ h' => h'.2
  exact ⟨trivial, fun _ _ => .done h'.2.clean rfl ⟨tx, h'.1.subset (by simp), h'.2.marks⟩⟩

end

/-- The handlers end settled. -/
theorem settles (request : MarkRequest) (h : request.Marks) :
    (historyOf Gives).wp request.handle [] (fun _ => Settled CallFails request.Done)
      fun _ => Settled CallFails request.Done := by
  cases request with
  | buildTxProposal req => exact buildTxProposal_settles req h fun tx _ _ h' => ⟨tx, rfl, h'.marks⟩
  | buildCreateTokenTxProposal req =>
      refine wp_validated_settles req (wp_catchLost ?_)
      rw [show req.body.mark_inputs_as_used = some true from h]
      exact wp_proposeMarked unmarked_nil fun tx _ _ h' => ⟨tx, rfl, h'.marks⟩
  | buildMintTokensTxProposal req => exact authorityTxProposal_settles req _ h fun tx _ _ h' => ⟨tx, rfl, h'.marks⟩
  | buildMeltTokensTxProposal req => exact authorityTxProposal_settles req _ h fun tx _ _ h' => ⟨tx, rfl, h'.marks⟩
  | utxosSelectedAsInput req => exact utxosSelectedAsInput_settles req h

/-! ## Runs -/

section
variable {s₀ : Server} {S : Sys Op.Ans JsError Unit Server MarkRequest} {p : Proc Op.Ans JsError Unit MarkRequest}

theorem MarkRun.settled (h : MarkRun MarkRequest.handle s₀ S) (hp : S.procs = [p]) (hend : p.rest.Ended)
    (hreq : p.req.Marks) : Settled CallFails p.req.Done p.log :=
  history_ended (h.steps_one hp) (settles p.req hreq) hend (h.tie hp).given

theorem MarkRun.failureKeeps_iff (h : MarkRun MarkRequest.handle s₀ S) (hp : S.procs = [p]) (hend : p.rest.Ended)
    (hreq : p.req.Marks) : FailureKeeps s₀ S.state p.log ↔ ¬ Follows (NewMark s₀) CallFails p.log :=
  (h.settled hp hend hreq).failureKeeps_iff (fun _ => id) (h.tie hp)

/-- A request that runs alone is atomic exactly when no call fails after a utxo has been marked that was not marked
before the request. -/
theorem marks_atomic_iff (h : MarkRun MarkRequest.handle s₀ S) (hp : S.procs = [p]) (hend : p.rest.Ended)
    (hreq : p.req.Marks) :
    p.req.Atomic s₀ S.state p.log ↔ ¬ Follows (NewMark s₀) CallFails p.log := by
  have hfailure := h.failureKeeps_iff hp hend hreq
  refine ⟨fun hatomic => hfailure.mp hatomic.failure, fun hnone => ⟨fun reply hreply hsuccess => ?_, hfailure.mpr hnone⟩⟩
  obtain ⟨log, hlog, hclean, tx, htx, hmarks⟩ := (h.settled hp hend hreq).of_success hreply hsuccess
  have htie := h.tie hp
  rw [hlog] at htie ⊢
  refine ⟨tx, htx.mono fun e he => by simp [he], fun x => ?_⟩
  have hx := htie.marks (sent_keeps hclean.plain reply) x
  rw [hx, marksIn_snoc, hmarks]
  simp [marksOf, eq_comm]

end

def marksOne : MarkRequest :=
  .buildTxProposal { walletId := "w", wallet := 0, body := { outputs := [{}], mark_inputs_as_used := some true } }

/-- The proposal picks a utxo, marks it and replies. -/
def marksOneSteps : List (Label Op.Ans MarkRequest Outside) :=
  [.spawn marksOne fun _ => Op.granted (spending "tx" 0), .ext (.pick 0 (utxo 0)),
    .resume 0 fun _ c => match c with
      | .wallet (.build _ b) => .ok ⟨b.inputs, some (spending "tx" 0)⟩
      | c => Op.granted (spending "tx" 0) c,
    .resume 0 fun _ => Op.granted (spending "tx" 0), .resume 0 fun _ => Op.granted (spending "tx" 0)]

theorem marksOne_atomic : ∃ (S : Sys Op.Ans JsError Unit Server MarkRequest) (p : Proc Op.Ans JsError Unit MarkRequest),
    S.state.selected = [(0, utxo 0)] ∧ p.req.Atomic (oneWallet none) S.state p.log := by
  obtain ⟨S, p, hS, hp, hend, hsel, hreq, hnone⟩ := MarkRun.of_exec MarkRequest.handle
    marksOneSteps (oneWallet none) (fun s p => s.selected = [(0, utxo 0)] ∧ p.req = marksOne ∧
      ¬ Follows (NewMark (oneWallet none)) CallFails p.log) (by decide +kernel)
  refine ⟨S, p, hsel, (marks_atomic_iff hS hp hend ?_).mpr hnone⟩
  rw [hreq]
  rfl

def marksTwo : MarkRequest :=
  .utxosSelectedAsInput { walletId := "w", wallet := 0, body := { txHex := "00", mark_as_used := some true } }

def spendingTwo : Transaction :=
  { hash := "tx", inputs := [{ hash := "utxo", index := 0 }, { hash := "utxo", index := 1 }] }

/-- The first mark is set, and the second fails. -/
def marksTwoSteps : List (Label Op.Ans MarkRequest Outside) :=
  [.spawn marksTwo fun _ => Op.granted spendingTwo, .resume 0 fun _ => Op.granted spendingTwo,
    .resume 0 fun _ c => c.failed, .resume 0 fun _ => Op.granted spendingTwo]

/-- The request replies that it has failed, and its first utxo stays marked. -/
theorem mark_then_failure :
    ∃ (S : Sys Op.Ans JsError Unit Server MarkRequest) (p : Proc Op.Ans JsError Unit MarkRequest),
      MarkRun MarkRequest.handle (oneWallet none) S ∧ S.procs = [p] ∧ p.rest.Ended ∧ p.req.Marks ∧
        S.state.selected = [(0, utxo 0)] ∧ ¬ p.req.Atomic (oneWallet none) S.state p.log := by
  obtain ⟨S, p, hS, hp, hend, hsel, hreq, hfollows⟩ := MarkRun.of_exec MarkRequest.handle
    marksTwoSteps (oneWallet none) (fun s p => s.selected = [(0, utxo 0)] ∧ p.req = marksTwo ∧
      Follows (NewMark (oneWallet none)) CallFails p.log) (by decide +kernel)
  have hmarks : p.req.Marks := by
    rw [hreq]
    rfl
  exact ⟨S, p, hS, hp, hend, hmarks, hsel, fun hatomic => (hS.failureKeeps_iff hp hend hmarks).mp hatomic.failure hfollows⟩

end WalletHeadless
