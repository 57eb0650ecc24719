import WalletHeadless.Registry.Protocol

/-!
# What the swap service has said of a proposal

A handler adds a proposal with the password that the service has just created it with, or has just accepted for it. A
proposal is removed by a deletion, with its wallet, or when a fetch was told that the service does not have it.

* `SwapSays`: a service that accepts an id with its own password only, and returns the id it was asked for;
* `Confirmed`, `NotFound`: what the service has said to a flow;
* `TakesAway`: the requests that may remove a proposal;
* `ListenGhost`, `listenProtocol`, `listen_wp`: the handlers add and remove only so.
-/

namespace WalletHeadless

open Coop Js
open Prog (uses_ask)
open Protocol (keeps_bind keeps_pure keeps_throw keeps_tryCatch keeps_ite keeps_of_uses wp_bind wp_attempt wp_ite wp_mono)

/-- The service has one password for each id: it creates the proposal with it, accepts the id with no other one, and
returns the id that it was asked for. -/
def SwapSays (own : String → String) : (c : Op) → c.Ans → Bool
  | .lib (.swapCreate _ password), .ok created => !created.success || own created.id = password
  | .lib (.swapGet proposalId password), .ok (some proposal) =>
    own proposalId = password && proposal.proposalId = proposalId
  | _, _ => true

/-- The service has created the proposal with the password, or has accepted the two. -/
def Confirmed (log : Log) (proposalId password : String) : Prop :=
  (∃ partialTx created, ⟨.lib (.swapCreate partialTx password), .ok created⟩ ∈ log ∧ created.success = true ∧
    created.id = proposalId) ∨
  ∃ proposal, ⟨.lib (.swapGet proposalId password), .ok (some proposal)⟩ ∈ log

/-- The service has answered a request for the proposal with the status 404. -/
def NotFound (log : Log) (proposalId : String) : Prop :=
  ∃ password err, ⟨.lib (.swapGet proposalId password), .error err⟩ ∈ log ∧ err.isAxiosError = true ∧
    err.responseStatus = some 404

/-- The request may remove the proposal of the wallet id: it deletes the proposal, it fetches the proposal and the
service does not have it, or it stops the wallet. -/
def TakesAway (req : Request) (log : Log) (walletId proposalId : String) : Prop :=
  match req with
  | .deleteListenedProposal req => req.walletId = walletId ∧ req.body = proposalId
  | .fetchFromService req => req.walletId = walletId ∧ req.body = proposalId ∧ NotFound log proposalId
  | .stop stopped => stopped = walletId
  | .reloadConfig _ => True
  | _ => False

theorem Confirmed.mono {log log' : Log} {proposalId password : String} (h : Confirmed log proposalId password)
    (hlog : log ⊆ log') : Confirmed log' proposalId password := by
  obtain ⟨partialTx, created, he, h⟩ | ⟨proposal, he⟩ := h
  · exact .inl ⟨partialTx, created, hlog he, h⟩
  · exact .inr ⟨proposal, hlog he⟩

theorem NotFound.mono {log log' : Log} {proposalId : String} (h : NotFound log proposalId) (hlog : log ⊆ log') :
    NotFound log' proposalId := by
  obtain ⟨password, err, he, h⟩ := h
  exact ⟨password, err, hlog he, h⟩

theorem TakesAway.mono {req : Request} {log log' : Log} {walletId proposalId : String}
    (h : TakesAway req log walletId proposalId) (hlog : log ⊆ log') : TakesAway req log' walletId proposalId := by
  cases req with
  | fetchFromService req => exact ⟨h.1, h.2.1, h.2.2.mono hlog⟩
  | _ => exact h

/-! ## Ghost states -/

structure ListenGhost where
  req : Option Request := none
  log : Log := []

/-- The calls that neither add nor remove a proposal. -/
def KeepsListed : Op → Prop
  | .proposals (.addProposal ..) | .proposals (.removeProposal ..) | .proposals (.deleteProposals _) => False
  | _ => True

namespace ListenGhost

def TakesAway (q : ListenGhost) (walletId proposalId : String) : Prop :=
  ∃ req, q.req = some req ∧ WalletHeadless.TakesAway req q.log walletId proposalId

inductive Allows (own : String → String) (q : ListenGhost) : Op → Prop
  | other {c : Op} (hc : KeepsListed c) : Allows own q c
  | add {walletId proposalId password : String} (hown : own proposalId = password)
      (hsaid : Confirmed q.log proposalId password) :
      Allows own q (.proposals (.addProposal walletId proposalId password))
  | remove {walletId proposalId : String} (h : q.TakesAway walletId proposalId) :
      Allows own q (.proposals (.removeProposal walletId proposalId))
  | forget {walletId : String} (h : ∀ proposalId, q.TakesAway walletId proposalId) :
      Allows own q (.proposals (.deleteProposals walletId))

def next (q : ListenGhost) (c : Op) (r : c.Ans) : ListenGhost := { q with log := q.log ++ [⟨c, r⟩] }

/-- The ghost state in which a request enters. -/
def enter (req : Request) : ListenGhost := { req := some req }

theorem TakesAway.next {q : ListenGhost} {walletId proposalId : String} (h : q.TakesAway walletId proposalId) (c : Op)
    (r : c.Ans) : (q.next c r).TakesAway walletId proposalId := by
  obtain ⟨req, hreq, h⟩ := h
  exact ⟨req, hreq, h.mono (List.subset_append_left _ _)⟩

end ListenGhost

def listenProtocol (own : String → String) : Protocol Op.Ans ListenGhost where
  allows := ListenGhost.Allows own
  may _ c r := SwapSays own c r = true
  next := ListenGhost.next

/-! ## The handlers follow the protocol -/

/-- The handler of `req`. -/
def ListenGhost.Serves (req : Request) (q : ListenGhost) : Prop := q.req = some req

section
variable {own : String → String} {req : Request}

/-- A call that neither adds nor removes keeps what stays true while the log grows. -/
theorem other_listens {c : Op} (hc : KeepsListed c) {I : ListenGhost → Prop} (hI : ∀ q r, I q → I (q.next c r)) :
    (listenProtocol own).Keeps I (Prog.ask c : Async c.Ans) :=
  fun q hq => ⟨.other hc, fun r _ => hI q r hq⟩

theorem CalmOp.keepsListed {c : Op} (h : CalmOp c) : KeepsListed c := by
  cases c with
  | proposals c => cases c <;> trivial
  | _ => trivial

theorem calm_listens {c : Op} (hc : CalmOp c) {I : ListenGhost → Prop} (hI : ∀ q c r, I q → I (q.next c r)) :
    (listenProtocol own).Keeps I (Prog.ask c : Async c.Ans) := other_listens hc.keepsListed fun q => hI q c

theorem serves_next (q : ListenGhost) (c : Op) (r : c.Ans) (h : q.Serves req) : (q.next c r).Serves req := h

/-- A handler that has been told that the password is that of the proposal adds the two. -/
theorem addListenedProposal_listens (walletId : String) {proposalId password : String} (hown : own proposalId = password) :
    (listenProtocol own).Keeps (fun q => q.Serves req ∧ Confirmed q.log proposalId password)
      (await (addListenedProposal walletId proposalId password)) := by
  have hnext (q : ListenGhost) (c : Op) (r : c.Ans) (h : q.Serves req ∧ Confirmed q.log proposalId password) :
      (q.next c r).Serves req ∧ Confirmed (q.next c r).log proposalId password :=
    ⟨h.1, h.2.mono (List.subset_append_left _ _)⟩
  refine keeps_await (fun c hc => calm_listens hc hnext) ?_
  intro q hq
  exact ⟨.add hown hq.2, fun r _ => hnext q _ r hq⟩

theorem serviceCreate_listens (walletId partialTx : String) (password : Option String) :
    (listenProtocol own).Keeps (ListenGhost.Serves req) (serviceCreate walletId partialTx password) := by
  refine keeps_ite (keeps_throw _) ?_
  split
  · exact keeps_throw _
  next password _ =>
    intro q hq
    refine (wp_bind ..).mpr ((wp_attempt ..).mpr ⟨.other trivial, fun r hr => ⟨fun created he => ?_, fun _ _ => hq⟩⟩)
    subst he
    refine (wp_ite ..).mpr ⟨fun hsuccess => ?_, fun _ => hq⟩
    have hown : own created.id = password := by
      have hsays : (!created.success || decide (own created.id = password)) = true := hr
      simpa [hsuccess] using hsays
    have hsaid : Confirmed (q.log ++ [⟨.lib (.swapCreate partialTx password), .ok created⟩]) created.id password :=
      .inl ⟨partialTx, created, by simp, hsuccess, rfl⟩
    exact (wp_bind ..).mpr (wp_mono _ (addListenedProposal_listens walletId hown _ ⟨hq, hsaid⟩) (fun _ _ h => h.1)
      fun _ _ h => h.1)

/-- What a request for a proposal is told. -/
theorem serviceGet_listens (proposalId : String) (password : Option String) {q : ListenGhost} (hq : q.Serves req) :
    (listenProtocol own).wp (serviceGet proposalId password) q
      (fun proposal q => q.Serves req ∧ ∃ accepted, truthy password = some accepted ∧ proposal.proposalId = proposalId ∧
        own proposalId = accepted ∧ Confirmed q.log proposalId accepted)
      fun e q => q.Serves req ∧ (e.isAxiosError = true → e.responseStatus = some 404 → NotFound q.log proposalId) := by
  refine (wp_ite ..).mpr ⟨fun _ => ⟨hq, by simp⟩, fun _ => ?_⟩
  split
  · exact ⟨hq, by simp⟩
  next accepted haccepted =>
    refine (wp_bind ..).mpr ((wp_attempt ..).mpr ⟨.other trivial, fun r hr => ⟨fun answer he => ?_, fun e he => ?_⟩⟩)
    · subst he
      cases answer with
      | none => exact ⟨hq, by simp⟩
      | some proposal =>
          have hsays := (Bool.and_eq_true _ _).mp hr
          refine ⟨hq, accepted, haccepted, of_decide_eq_true hsays.2, of_decide_eq_true hsays.1, .inr ⟨proposal, ?_⟩⟩
          exact List.mem_append_right _ (List.mem_singleton.mpr rfl)
    · subst he
      refine ⟨hq, fun haxios hstatus => ⟨accepted, e, ?_, haxios, hstatus⟩⟩
      exact List.mem_append_right _ (List.mem_singleton.mpr rfl)

theorem awaitGet_listens (proposalId : String) (password : Option String) {q : ListenGhost} (hq : q.Serves req) :
    (listenProtocol own).wp (await (serviceGet proposalId password)) q
      (fun proposal q => q.Serves req ∧ ∃ accepted, truthy password = some accepted ∧ proposal.proposalId = proposalId ∧
        own proposalId = accepted ∧ Confirmed q.log proposalId accepted)
      fun e q => q.Serves req ∧ (e.isAxiosError = true → e.responseStatus = some 404 → NotFound q.log proposalId) := by
  refine (wp_await_iff ..).mpr (wp_mono _ (serviceGet_listens proposalId password hq) (fun proposal q h => ?_)
    fun e q h => ⟨.other trivial, fun r _ => ⟨h.1, fun ha hs => (h.2 ha hs).mono (List.subset_append_left _ _)⟩⟩)
  obtain ⟨hq, accepted, haccepted, hid, hown, hsaid⟩ := h
  exact ⟨.other trivial, fun r _ =>
    ⟨hq, accepted, haccepted, hid, hown, hsaid.mono (List.subset_append_left _ _)⟩⟩

theorem registerProposal_listens (body : Req RegisterBody) :
    (listenProtocol own).Keeps (ListenGhost.Serves req) (registerProposal body) := by
  have hcalm (c : Op) (hc : CalmOp c) : (listenProtocol own).Keeps (ListenGhost.Serves req) (Prog.ask c : Async c.Ans) :=
    calm_listens hc serves_next
  refine keeps_bind (getListenedProposals_keeps hcalm _) fun proposalMap =>
    keeps_bind (listenedProposal_keeps hcalm _ _) fun existingProposal => ?_
  split
  · exact keeps_ite (send_keeps hcalm _) (send_keeps hcalm _)
  · refine keeps_tryCatch ?_ fun _ => send_keeps hcalm _
    intro q hq
    refine (wp_bind ..).mpr (wp_mono _ (awaitGet_listens _ _ hq) (fun proposal q h => ?_) fun _ _ h => h.1)
    obtain ⟨hq, accepted, haccepted, hid, hown, hsaid⟩ := h
    rw [← hid] at hown hsaid
    rw [haccepted]
    refine (wp_bind ..).mpr (wp_mono _ (addListenedProposal_listens _ hown _ ⟨hq, hsaid⟩) (fun _ q h => ?_)
      fun _ _ h => h.1)
    exact send_keeps hcalm _ q h.1

/-- The removal of a proposal that the request may remove. -/
theorem removeListenedProposal_listens {walletId proposalId : String} {q : ListenGhost} (hq : q.Serves req)
    (h : TakesAway req q.log walletId proposalId) {I : ListenGhost → Prop}
    (hI : ∀ q, q.Serves req → I q) :
    (listenProtocol own).wp (await (removeListenedProposal walletId proposalId)) q (fun _ => I) fun _ => I :=
  (wp_await_iff ..).mpr ⟨.remove ⟨req, hq, h⟩, fun _ _ => ⟨.other trivial, fun _ _ => hI _ hq⟩⟩

theorem deleteListenedProposal_listens (body : Req String) :
    (listenProtocol own).Keeps (ListenGhost.Serves (.deleteListenedProposal body)) (deleteListenedProposal body) := by
  have hcalm (c : Op) (hc : CalmOp c) : (listenProtocol own).Keeps
      (ListenGhost.Serves (.deleteListenedProposal body)) (Prog.ask c : Async c.Ans) := calm_listens hc serves_next
  refine keeps_tryCatch (keeps_bind ?_ fun _ => send_keeps hcalm _) fun _ => send_keeps hcalm _
  exact fun q hq => removeListenedProposal_listens hq ⟨rfl, rfl⟩ fun _ h => h

theorem fetchFromService_listens (body : Req String) :
    (listenProtocol own).Keeps (ListenGhost.Serves (.fetchFromService body)) (fetchFromService body) := by
  have hcalm (c : Op) (hc : CalmOp c) : (listenProtocol own).Keeps
      (ListenGhost.Serves (.fetchFromService body)) (Prog.ask c : Async c.Ans) := calm_listens hc serves_next
  refine keeps_bind (hcalm (.proposals .featureToggle) trivial) fun toggle => keeps_ite ?_ (sendStatus_keeps hcalm _ _)
  refine keeps_bind (getListenedProposals_keeps hcalm _) fun listenedProposals =>
    keeps_bind (listenedProposal_keeps hcalm _ _) fun requestedProposal => ?_
  split
  · exact sendStatus_keeps hcalm _ _
  · intro q hq
    refine (Protocol.wp_tryCatch ..).mpr ((wp_bind ..).mpr (wp_mono _ (awaitGet_listens _ _ hq) (fun proposal q h => ?_)
      fun err q h => ?_))
    · exact ⟨.other trivial, fun _ _ => h.1⟩
    · refine (wp_ite ..).mpr ⟨fun haxios => ?_, fun _ => send_keeps hcalm _ q h.1⟩
      cases hstatus : err.responseStatus with
      | none => exact h.1
      | some status =>
          refine (wp_ite ..).mpr ⟨fun h404 => ?_, fun _ => send_keeps hcalm _ q h.1⟩
          have hnotFound : NotFound q.log body.body := h.2 haxios (by rw [hstatus, h404])
          exact (wp_bind ..).mpr (removeListenedProposal_listens h.1 ⟨rfl, rfl, hnotFound⟩ fun q h =>
            sendStatus_keeps hcalm _ _ q h)

/-- A stop forgets the proposals of the wallet that it stops. -/
theorem stopWallet_listens (walletId : String) :
    (listenProtocol own).Keeps (ListenGhost.Serves (.stop walletId)) (stopWallet walletId) := by
  have hother {c : Op} (hc : KeepsListed c) : (listenProtocol own).Keeps (ListenGhost.Serves (.stop walletId))
      (Prog.ask c : Async c.Ans) := other_listens hc fun q => serves_next q c
  have hforget : (listenProtocol own).Keeps (ListenGhost.Serves (.stop walletId)) (deleteProposals walletId) :=
    fun q hq => ⟨.forget fun proposalId => ⟨_, hq, rfl⟩, fun _ _ => hq⟩
  refine keeps_bind (hother (c := .registry (.getWallet walletId)) trivial) fun wallet => ?_
  split
  · exact keeps_pure _
  · refine keeps_bind (hother (c := .registry (.hasHsmWallet walletId)) trivial) fun isHsm => keeps_bind ?_ fun _ => ?_
    · exact keeps_ite (hother (c := .registry (.deleteHsmWallet walletId)) trivial) (keeps_pure _)
    refine keeps_bind (Protocol.keeps_attempt (hother (c := .wallet (.stop _)) trivial)) fun _ => ?_
    refine keeps_bind (hother (c := .registry (.deleteWallet walletId)) trivial) fun _ => ?_
    refine keeps_bind (hother (c := .registry (.deleteLogger walletId)) trivial) fun _ => ?_
    refine keeps_bind (hother (c := .lock (.delete walletId)) trivial) fun _ => ?_
    exact keeps_await (fun c hc => hother hc.keepsListed) hforget

theorem reloadConfig_listens (rounds : Nat) :
    (listenProtocol own).Keeps (ListenGhost.Serves (.reloadConfig rounds)) (reloadConfig rounds) := by
  have hreload : (listenProtocol own).Keeps (ListenGhost.Serves (.reloadConfig rounds)) (reload rounds) := by
    refine keeps_of_uses (reload_uses rounds) fun c hc q hq => ?_
    refine ⟨?_, fun _ _ => hq⟩
    cases c with
    | proposals c =>
        cases c with
        | deleteProposals walletId => exact .forget fun proposalId => ⟨_, hq, trivial⟩
        | _ => exact hc.elim
    | _ => exact .other trivial
  have hcalm (c : Op) (hc : CalmOp c) : (listenProtocol own).Keeps
      (ListenGhost.Serves (.reloadConfig rounds)) (Prog.ask c : Async c.Ans) := calm_listens hc serves_next
  exact keeps_bind (keeps_await hcalm hreload) fun _ => send_keeps hcalm _

/-- The handlers follow the protocol. -/
theorem listen_wp (h : req.ManagesRegistry) :
    (listenProtocol own).wp req.handle (.enter req) (fun _ q => q.Serves req) fun _ q => q.Serves req := by
  suffices hkeeps : (listenProtocol own).Keeps (ListenGhost.Serves req) req.handle from hkeeps _ rfl
  have hcalm (c : Op) (hc : CalmOp c) : (listenProtocol own).Keeps (ListenGhost.Serves req) (Prog.ask c : Async c.Ans) :=
    calm_listens hc serves_next
  have hstart (walletId : String) (walletConfig : WalletConfig) (config : Config) (key mode : Option String) :
      (listenProtocol own).Keeps (ListenGhost.Serves req) (startWallet walletId walletConfig config key mode) := by
    refine keeps_of_uses (startWallet_uses walletId walletConfig config key mode) fun c hc =>
      other_listens ?_ fun q => serves_next q c
    cases c with
    | proposals c => exact hc.elim
    | _ => trivial
  cases req with
  | start body => exact starts_keeps hcalm trivial fun _ _ _ _ => hstart _ _ _ _ _
  | startHsmWallet body => exact starts_keeps hcalm trivial fun _ _ _ _ => hstart _ _ _ _ _
  | startFireblocksWallet body => exact starts_keeps hcalm trivial fun _ _ _ _ => hstart _ _ _ _ _
  | stop walletId => exact keeps_bind (keeps_await hcalm (stopWallet_listens walletId)) fun _ => send_keeps hcalm _
  | reloadConfig rounds => exact reloadConfig_listens rounds
  | swapBuildTxProposal body => exact swapBuildTxProposal_keeps hcalm body fun _ _ => serviceCreate_listens _ _ _
  | signTxProposal body => exact signTxProposal_keeps hcalm body
  | fetchFromService body => exact fetchFromService_listens body
  | listenedProposalList body => exact listenedProposalList_keeps hcalm body
  | registerProposal body => exact registerProposal_listens body
  | deleteListenedProposal body => exact deleteListenedProposal_listens body
  | _ => exact h.elim

end

end WalletHeadless
