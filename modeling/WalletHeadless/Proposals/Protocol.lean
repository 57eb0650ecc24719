import WalletHeadless.Coop.Protocol
import WalletHeadless.Server.Requests
import WalletHeadless.Services.Asks

/-!
# What a proposal does with its inputs

The ghost state of a proposal that marks the inputs `wallet-lib` chooses: it builds one transaction, marks
its inputs one after the other, and replies with a transaction that spends the same inputs.

* `MarkedProposal`: the requests;
* `ProposalPhase`, `proposalProtocol`: the phases and their order;
* `proposal_wp`: the handlers follow the protocol.
-/

namespace WalletHeadless

open Coop Js

/-- The transaction that a reply proposes. -/
def Reply.proposed : Reply → Option Transaction
  | ⟨200, .txHex tx _⟩ => some tx
  | _ => none

/-- The proposals that leave the choice of their inputs to `wallet-lib` and have them marked. -/
def MarkedProposal : Request → Prop
  | .buildTxProposal req => req.body.inputs.getD [] = [] ∧ req.body.mark_inputs_as_used = some true
  | .buildCreateTokenTxProposal req => req.body.mark_inputs_as_used = some true
  | .buildMintTokensTxProposal req => req.body.mark_inputs_as_used = some true
  | .buildMeltTokensTxProposal req => req.body.mark_inputs_as_used = some true
  | _ => False

instance (req : Request) : Decidable (MarkedProposal req) := by
  cases req <;> (unfold MarkedProposal; infer_instance)

/-- Where a proposal is; `prepared` has the inputs that are still to be marked. -/
inductive ProposalPhase
  | out
  | building
  | prepared (tx : Transaction) (unmarked : List Utxo)
  | done

namespace ProposalPhase

/-- The proposal has inputs in its hands. -/
def Live : ProposalPhase → Prop
  | building | prepared _ _ => True
  | _ => False

/-- The phase while a question is open. -/
def call : ProposalPhase → Op → ProposalPhase
  | out, .wallet (.build _ _) => building
  | p, _ => p

/-- After the answer to `build`. -/
def built : Except JsError SendTransaction → ProposalPhase
  | .ok ⟨_, some tx⟩ => prepared tx tx.utxos
  | _ => done

/-- After the answer to `markUtxoSelected`. -/
def marked (tx : Transaction) (unmarked : List Utxo) : Except JsError Unit → ProposalPhase
  | .ok _ => prepared tx unmarked.tail
  | .error _ => done

def next : ProposalPhase → (c : Op) → c.Ans → ProposalPhase
  | building, .wallet (.build _ _), r => built r
  | prepared tx unmarked, .wallet (.markUtxoSelected ..), r => marked tx unmarked r
  | prepared tx unmarked, .send reply, _ => if reply.proposed.isSome then done else prepared tx unmarked
  | p, _, _ => p

end ProposalPhase

/-- A proposal for a wallet, and its phase. -/
structure ProposalGhost where
  wallet : WalletRef
  phase : ProposalPhase

namespace ProposalGhost

/-- The questions of each phase. -/
inductive Allows : ProposalGhost → Op → Prop
  | lib (q : ProposalGhost) (c : LibCall) : Allows q (.lib c)
  | tick (q : ProposalGhost) : Allows q .tick
  | refuse (q : ProposalGhost) {reply : Reply} (h : reply.proposed = none) : Allows q (.send reply)
  | build (w : WalletRef) {b : Build} (hb : b.inputs = []) : Allows ⟨w, .out⟩ (.wallet (.build w b))
  | mark (w : WalletRef) (tx : Transaction) (u : Utxo) (us : List Utxo) :
      Allows ⟨w, .prepared tx (u :: us)⟩ (.wallet (.markUtxoSelected w u true none))
  | propose (w : WalletRef) {tx tx' : Transaction} (hex : String) (h : tx'.utxos = tx.utxos) :
      Allows ⟨w, .prepared tx []⟩ (.send ⟨200, .txHex tx' hex⟩)

def Live (q : ProposalGhost) : Prop := q.phase.Live

/-- The ghost state in which a request starts. -/
def enter (req : Request) : ProposalGhost := ⟨(req.target.map Prod.snd).getD 0, .out⟩

end ProposalGhost

/-- A transaction made from data spends what the data says. -/
def proposalProtocol : Protocol Op.Ans ProposalGhost where
  allows := ProposalGhost.Allows
  call q c := { q with phase := q.phase.call c }
  may
    | _, .lib c, r => c.gives r = true
    | _, _, _ => True
  next q c r := { q with phase := q.phase.next c r }
  finish q := { q with phase := .done }

theorem proposalProtocol_call_lib (q : ProposalGhost) (c : LibCall) : proposalProtocol.call q (.lib c) = q := by
  obtain ⟨w, phase⟩ := q
  cases phase <;> rfl

theorem proposalProtocol_call_tick (q : ProposalGhost) : proposalProtocol.call q .tick = q := by
  obtain ⟨w, phase⟩ := q
  cases phase <;> rfl

theorem proposalProtocol_next_lib (q : ProposalGhost) (c : LibCall) (r : Except JsError c.Result) :
    proposalProtocol.next q (.lib c) r = q := by
  obtain ⟨w, phase⟩ := q
  cases phase <;> rfl

theorem proposalProtocol_next_tick (q : ProposalGhost) : proposalProtocol.next q .tick () = q := by
  obtain ⟨w, phase⟩ := q
  cases phase <;> rfl

theorem proposalProtocol_next_refuse (q : ProposalGhost) {reply : Reply} (h : reply.proposed = none) :
    proposalProtocol.next q (.send reply) () = q := by
  obtain ⟨w, phase⟩ := q
  cases phase with
  | prepared tx unmarked =>
      show (⟨w, if reply.proposed.isSome then _ else _⟩ : ProposalGhost) = _
      rw [h]
      rfl
  | _ => rfl

/-! ## The handlers -/

section
variable {w : WalletRef} {q : ProposalGhost}

/-- Any outcome. -/
abbrev anyway {α : Type} : α → ProposalGhost → Prop := fun _ _ => True

theorem wp_libCall {c : LibCall} {post : c.Result → ProposalGhost → Prop} {fail : JsError → ProposalGhost → Prop}
    (hpost : ∀ a, c.gives (.ok a) = true → post a q) (hfail : ∀ e, fail e q) :
    proposalProtocol.wp (lib c) q post fail := by
  refine (Protocol.wp_attempt ..).mpr ⟨.lib q c, fun r hr => ?_⟩
  rw [proposalProtocol_call_lib, proposalProtocol_next_lib]
  refine ⟨fun a ha => hpost a ?_, fun e _ => hfail e⟩
  rw [← ha]
  exact hr

theorem wp_refuse {reply : Reply} (h : reply.proposed = none) :
    proposalProtocol.wp (ask (.send reply)) q anyway (anyway : JsError → ProposalGhost → Prop) :=
  ⟨.refuse q h, fun _ _ => trivial⟩

theorem wp_tryReply {p : Async Unit} (h : proposalProtocol.wp p q anyway anyway) :
    proposalProtocol.wp (tryCatch p fun err => sendError err.message) q anyway anyway :=
  (Protocol.wp_tryCatch ..).mpr (Protocol.wp_mono _ h (fun _ _ _ => trivial) fun _ _ _ => wp_refuse rfl)

theorem wp_validatedProposal {β : Type} (req : Req β) {handler : Async Unit}
    (h : proposalProtocol.wp handler q anyway anyway) :
    proposalProtocol.wp (validated req handler) q anyway anyway := by
  unfold validated
  split
  · exact wp_refuse rfl
  · exact h

theorem wp_prepareData {b : Build} (hb : b.inputs = []) {post : Transaction → ProposalGhost → Prop}
    (hpost : ∀ tx, post tx ⟨w, .prepared tx tx.utxos⟩) :
    proposalProtocol.wp (prepareData w b) ⟨w, .out⟩ post anyway := by
  unfold prepareData buildWith
  rw [Protocol.wp_bind, Protocol.wp_attempt]
  refine ⟨.build w hb, fun r _ => ⟨fun st hst => ?_, fun _ _ => trivial⟩⟩
  subst hst
  obtain ⟨inputs, tx | tx⟩ := st
  · trivial
  · exact hpost tx

/-- The loop marks all that is to be marked. -/
theorem wp_markUtxos (tx : Transaction) (us : List Utxo) {post : Unit → ProposalGhost → Prop}
    (hpost : post () ⟨w, .prepared tx []⟩) :
    proposalProtocol.wp (markUtxosSelectedAsInput w true us) ⟨w, .prepared tx us⟩ post anyway := by
  induction us with
  | nil => exact hpost
  | cons u us ih =>
      unfold markUtxosSelectedAsInput markUtxoSelected
      rw [Protocol.wp_bind, Protocol.wp_attempt]
      refine ⟨.mark w tx u us, fun r _ => ⟨fun a ha => ?_, fun _ _ => trivial⟩⟩
      subst ha
      exact ih

theorem wp_markUsed (tx : Transaction) {post : Unit → ProposalGhost → Prop}
    (hpost : post () ⟨w, .prepared tx []⟩) :
    proposalProtocol.wp (markIfUsed w true tx) ⟨w, .prepared tx tx.utxos⟩ post anyway := by
  have htick : proposalProtocol.wp tick ⟨w, .prepared tx []⟩ (fun _ => post ()) anyway :=
    ⟨.tick _, fun _ _ => hpost⟩
  refine (wp_await_iff ..).mpr (Protocol.wp_mono _ (wp_markUtxos tx tx.utxos htick) (fun _ _ h => h) ?_)
  exact fun e q _ => ⟨.tick q, fun _ _ => trivial⟩

theorem wp_sendTxHex {tx tx' : Transaction} (h : tx'.utxos = tx.utxos) :
    proposalProtocol.wp (sendTxHex tx') ⟨w, .prepared tx []⟩ anyway anyway :=
  (Protocol.wp_bind ..).mpr (wp_libCall (fun hex _ => ⟨.propose w hex h, fun _ _ => trivial⟩) fun _ => trivial)

/-- A proposal that replies with the transaction it has prepared. -/
theorem wp_proposeBuilt {b : Build} (hb : b.inputs = []) :
    proposalProtocol.wp (do
      let tx ← prepareData w b
      markIfUsed w true tx
      sendTxHex tx) ⟨w, .out⟩ anyway anyway :=
  (Protocol.wp_bind ..).mpr (wp_prepareData hb fun tx =>
    (Protocol.wp_bind ..).mpr (wp_markUsed tx (wp_sendTxHex rfl)))

theorem wp_authorityTxProposal (req : Req AuthorityProposalBody) {b : Build} (hb : b.inputs = [])
    (h : req.body.mark_inputs_as_used = some true) :
    proposalProtocol.wp (authorityTxProposal req b) ⟨req.wallet, .out⟩ anyway anyway := by
  refine wp_validatedProposal req (wp_tryReply ((Protocol.wp_bind ..).mpr ?_))
  have hrest := wp_proposeBuilt (w := req.wallet) hb
  rw [h]
  unfold checkChangeAddress
  split
  · exact hrest
  · refine (Protocol.wp_bind ..).mpr (wp_libCall (fun mine _ => ?_) fun _ => trivial)
    exact (Protocol.wp_ite ..).mpr ⟨fun _ => hrest, fun _ => trivial⟩

theorem wp_buildTxProposalChecked (req : Req TxProposalBody) (changeAddress : Option String)
    (hinputs : req.body.inputs.getD [] = []) (h : req.body.mark_inputs_as_used = some true) :
    proposalProtocol.wp (buildTxProposalChecked req changeAddress) ⟨req.wallet, .out⟩ anyway anyway := by
  refine wp_tryReply ((Protocol.wp_bind ..).mpr (wp_prepareData (b := .prepareTxData _ _ _) hinputs fun txData => ?_))
  rw [h]
  refine (Protocol.wp_bind ..).mpr (wp_markUsed txData ((Protocol.wp_bind ..).mpr ?_))
  -- the transaction made from the data spends what was marked
  exact wp_libCall (fun tx htx => wp_sendTxHex (of_decide_eq_true htx)) fun _ => trivial

theorem wp_buildTxProposal (req : Req TxProposalBody) (hinputs : req.body.inputs.getD [] = [])
    (h : req.body.mark_inputs_as_used = some true) :
    proposalProtocol.wp (buildTxProposal req) ⟨req.wallet, .out⟩ anyway anyway := by
  have hrest (mine : Bool) : proposalProtocol.wp
      (if mine then buildTxProposalChecked req (truthy req.body.change_address)
        else sendError "Change address does not belong to the loaded wallet.")
      ⟨req.wallet, .out⟩ anyway anyway :=
    (Protocol.wp_ite ..).mpr ⟨fun _ => wp_buildTxProposalChecked req _ hinputs h, fun _ => wp_refuse rfl⟩
  refine wp_validatedProposal req ?_
  dsimp only
  split
  · exact hrest true
  · exact (Protocol.wp_bind ..).mpr (wp_libCall (fun mine _ => hrest mine) fun _ => trivial)

/-- The handlers of the proposals follow the protocol. -/
theorem proposal_wp {req : Request} (h : MarkedProposal req) :
    proposalProtocol.wp req.handle (ProposalGhost.enter req) anyway anyway := by
  cases req with
  | buildTxProposal req => exact wp_buildTxProposal req h.1 h.2
  | buildCreateTokenTxProposal req =>
      refine wp_validatedProposal req (wp_tryReply ?_)
      rw [show req.body.mark_inputs_as_used = some true from h]
      exact wp_proposeBuilt rfl
  | buildMintTokensTxProposal req => exact wp_authorityTxProposal req rfl h
  | buildMeltTokensTxProposal req => exact wp_authorityTxProposal req rfl h
  | _ => exact h.elim

end

end WalletHeadless
