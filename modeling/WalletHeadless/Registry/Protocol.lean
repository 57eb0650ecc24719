import WalletHeadless.Controllers.Keeps
import WalletHeadless.Services.Lifecycle

/-!
# What a handler does with the registry

The registry is `initializedWallets`, `hsmWalletIds` and `walletListenedProposals`. A start creates a wallet and
names it, with its HSM key; a stop removes an id and forgets its proposals; a reload reads the configuration, lists
the ids and removes them; the handlers of atomic swaps add proposals to their own wallet.

* `RegistryPhase`, `Reload`, `RegistryGhost`: where a handler is, and what a reload has read and has still to remove;
* `registryProtocol`: the order of the calls;
* `registry_wp`: the handlers follow the protocol.
-/

namespace WalletHeadless

open Coop Js
open Prog (uses_ask uses_orThrow)
open Protocol (keeps_bind keeps_pure keeps_throw)

/-- The requests that start and stop wallets, reload the configuration or have to do with atomic swaps. -/
def Request.ManagesRegistry : Request → Prop
  | start _ | startHsmWallet _ | startFireblocksWallet _ | stop _ | reloadConfig _ => True
  | swapBuildTxProposal _ | signTxProposal _ | fetchFromService _ | listenedProposalList _ => True
  | registerProposal _ | deleteListenedProposal _ => True
  | _ => False

instance : DecidablePred Request.ManagesRegistry
  | .start _ | .startHsmWallet _ | .startFireblocksWallet _ | .stop _ | .reloadConfig _ => isTrue trivial
  | .swapBuildTxProposal _ | .signTxProposal _ | .fetchFromService _ | .listenedProposalList _ => isTrue trivial
  | .registerProposal _ | .deleteListenedProposal _ => isTrue trivial
  | .simpleSendTx _ | .sendTx _ | .createToken _ | .mintTokens _ | .meltTokens _ | .createNft _ => isFalse id
  | .createNanoContract _ | .executeNanoContractMethod _ | .createOnChainBlueprint _ => isFalse id
  | .runTemplate _ | .buildTemplate _ | .utxoConsolidation _ | .p2shSignAndPush _ => isFalse id
  | .swapSignAndPush _ | .unlockInputs _ | .buildTxProposal _ | .buildCreateTokenTxProposal _ => isFalse id
  | .buildMintTokensTxProposal _ | .buildMeltTokensTxProposal _ | .hsmSignTx _ _ _ => isFalse id

/-- The requests that reload the configuration. -/
def Request.Reloads : Request → Bool
  | reloadConfig _ => true
  | _ => false

/-- The handlers but those of reloads keep what the calls of their parts keep. -/
theorem Request.ManagesRegistry.keeps {Q : Type} {P : Protocol Op.Ans Q} {I : Q → Prop} {req : Request}
    (h : req.ManagesRegistry) (hreloads : req.Reloads = false)
    (hcalm : ∀ c, CalmOp c → P.Keeps I (Prog.ask c : Async c.Ans))
    (hstart : ∀ walletId walletConfig config mode,
      P.Keeps I (startWallet walletId walletConfig config req.hsmKey mode))
    (hstop : ∀ walletId, P.Keeps I (stopWallet walletId))
    (hadd : ∀ walletId w, req.target = some (walletId, w) → ∀ proposalId password,
      P.Keeps I (addListenedProposal walletId proposalId password))
    (hremove : ∀ walletId w, req.target = some (walletId, w) → ∀ proposalId,
      P.Keeps I (removeListenedProposal walletId proposalId)) : P.Keeps I req.handle := by
  cases req with
  | start body => exact starts_keeps hcalm trivial hstart
  | startHsmWallet body => exact starts_keeps hcalm trivial hstart
  | startFireblocksWallet body => exact starts_keeps hcalm trivial hstart
  | stop walletId => exact keeps_bind (keeps_await hcalm (hstop walletId)) fun _ => send_keeps hcalm _
  | reloadConfig rounds => cases hreloads
  | swapBuildTxProposal req =>
      exact swapBuildTxProposal_keeps hcalm req fun _ _ => serviceCreate_keeps hcalm _ _ _ (hadd _ _ rfl)
  | signTxProposal req => exact signTxProposal_keeps hcalm req
  | fetchFromService req => exact fetchFromService_keeps hcalm req (hremove _ _ rfl _)
  | listenedProposalList req => exact listenedProposalList_keeps hcalm req
  | registerProposal req => exact registerProposal_keeps hcalm req (hadd _ _ rfl)
  | deleteListenedProposal req => exact deleteListenedProposal_keeps hcalm req (hremove _ _ rfl _)
  | _ => exact h.elim

/-! ## Ghost states -/

/-- A wallet is `made`, and `named` until it has its HSM key; an id is `removing` until its proposals are gone. -/
inductive RegistryPhase
  | idle
  | made (w : WalletRef)
  | named (walletId : String) (w : WalletRef)
  | removing (walletId : String)
deriving DecidableEq

/-- Other handlers may run. -/
def RegistryPhase.Rests : RegistryPhase → Prop
  | idle | made _ => True
  | _ => False

/-- What a reload has read: the configuration it found, the one it imported, the ids it has listed and not yet
removed. -/
structure Reload where
  oldConfig : Option Config := none
  newConfig : Option Config := none
  listed : Option (List String) := none
deriving DecidableEq

def Reload.next (u : Reload) : (c : Op) → c.Ans → Reload
  | .settings .config, old => { u with oldConfig := old }
  | .settings .importConfig, .ok new => { u with newConfig := some new }
  | .registry .walletIds, walletIds => { u with listed := some walletIds }
  | .registry (.deleteWallet walletId), _ => { u with listed := u.listed.map fun walletIds => walletIds.erase walletId }
  | _, _ => u

/-- What the log of a reload says that it has read. -/
def Reload.of (log : Log) : Reload := log.foldl (fun u e => u.next e.1 e.2) {}

structure RegistryGhost where
  req : Option Request := none
  phase : RegistryPhase := .idle
  reload : Reload := {}

/-- The calls that neither write the registry nor read what a reload works with. -/
def RegistryIdle : Op → Prop
  | .registry (.newWallet ..) | .registry (.setWallet ..) | .registry (.setHsmWallet ..) => False
  | .registry (.deleteWallet _) | .registry .walletIds => False
  | .settings .config | .settings .importConfig => False
  | .proposals (.addProposal ..) | .proposals (.deleteProposals _) => False
  | _ => True

theorem CalmOp.registryIdle {c : Op} (h : CalmOp c) : RegistryIdle c := by
  cases c with
  | registry c => cases c <;> trivial
  | settings c => exact h.elim
  | proposals c => cases c <;> trivial
  | _ => trivial

namespace RegistryGhost

/-- The HSM key that the handler gives to its wallet. -/
def hsmKey (q : RegistryGhost) : Option String := q.req.bind Request.hsmKey

/-- The wallet that the handler was called for, with its id. -/
def target (q : RegistryGhost) : Option (String × WalletRef) := q.req.bind Request.target

inductive Allows : RegistryGhost → Op → Prop
  | quiet {q : RegistryGhost} {c : Op} (hc : RegistryIdle c) (hw : c.waits = false) : Allows q c
  | idle {q : RegistryGhost} {c : Op} (hq : q.phase.Rests) (hc : RegistryIdle c) : Allows q c
  | create {q : RegistryGhost} (hreq : q.req ≠ none) (hq : q.phase.Rests) (walletId : String)
      (walletConfig : WalletConfig) (config : Config) : Allows q (.registry (.newWallet walletId walletConfig config))
  | name {q : RegistryGhost} {w : WalletRef} (hq : q.phase = .made w) (hu : q.reload = {}) (walletId : String) :
      Allows q (.registry (.setWallet walletId w))
  | key {q : RegistryGhost} {walletId : String} {w : WalletRef} {key : String} (hq : q.phase = .named walletId w)
      (hkey : q.hsmKey = some key) : Allows q (.registry (.setHsmWallet walletId key))
  | remove {q : RegistryGhost} (hq : q.phase.Rests) (walletId : String) :
      Allows q (.registry (.deleteWallet walletId))
  | forget {q : RegistryGhost} {walletId : String} (hq : q.phase = .removing walletId) :
      Allows q (.proposals (.deleteProposals walletId))
  | read {q : RegistryGhost} (hq : q.phase.Rests) (hu : q.reload = {}) : Allows q (.settings .config)
  | importing {q : RegistryGhost} (hq : q.phase.Rests) : Allows q (.settings .importConfig)
  | list {q : RegistryGhost} (hq : q.phase.Rests) : Allows q (.registry .walletIds)
  | add {q : RegistryGhost} {walletId : String} {w : WalletRef} (hq : q.phase.Rests)
      (hw : q.target = some (walletId, w)) (proposalId password : String) :
      Allows q (.proposals (.addProposal walletId proposalId password))

def nextPhase (q : RegistryGhost) : (c : Op) → c.Ans → RegistryPhase
  | .registry (.newWallet ..), .ok w => .made w
  | .registry (.setWallet walletId w), _ => if q.hsmKey.isSome then .named walletId w else .idle
  | .registry (.setHsmWallet ..), _ => .idle
  | .registry (.deleteWallet walletId), _ => .removing walletId
  | .proposals (.deleteProposals _), _ => .idle
  | _, _ => q.phase

def next (q : RegistryGhost) (c : Op) (r : c.Ans) : RegistryGhost := ⟨q.req, q.nextPhase c r, q.reload.next c r⟩

/-- The ghost state in which a request enters. -/
def enter (req : Request) : RegistryGhost := { req := some req }

/-- A handler ends when it has removed all that it has listed. -/
def Final (q : RegistryGhost) : Prop := q.phase.Rests ∧ (q.reload.listed = none ∨ q.reload.listed = some [])

theorem next_idle {c : Op} (hc : RegistryIdle c) (q : RegistryGhost) (r : c.Ans) : q.next c r = q := by
  cases c with
  | registry c => cases c <;> first | rfl | exact hc.elim
  | settings c => cases c <;> first | rfl | exact hc.elim
  | proposals c => cases c <;> first | rfl | exact hc.elim
  | _ => rfl

end RegistryGhost

def registryProtocol : Protocol Op.Ans RegistryGhost where
  allows := RegistryGhost.Allows
  next := RegistryGhost.next

theorem RegistryGhost.after_reload (q : RegistryGhost) (log : Log) :
    (registryProtocol.after q log).reload = log.foldl (fun u e => u.next e.1 e.2) q.reload := by
  induction log generalizing q with
  | nil => rfl
  | cons e log ih => exact ih (q.next e.1 e.2)

/-! ## The handlers follow the protocol -/

section
variable {α : Type} {q : RegistryGhost} {post : α → RegistryGhost → Prop} {fail : JsError → RegistryGhost → Prop}

theorem wp_registryIdle {x : Async α} (hx : x.Uses RegistryIdle) (hq : q.phase.Rests) (hpost : ∀ a, post a q)
    (hfail : ∀ e, fail e q) : registryProtocol.wp x q post fail :=
  Prog.Uses.wp (hx.mono fun _ hc => ⟨.idle hq hc, fun r => RegistryGhost.next_idle hc q r⟩) hpost hfail

/-- A call that does not wait, between two others of one turn. -/
theorem wp_registryQuiet {c : Op} {f : c.Ans → Async α} (hc : RegistryIdle c) (hw : c.waits = false)
    (h : ∀ r, registryProtocol.wp (f r) q post fail) : registryProtocol.wp (ask c >>= f) q post fail := by
  refine (Protocol.wp_bind ..).mpr ⟨.quiet hc hw, fun r _ => ?_⟩
  show registryProtocol.wp (f r) (q.next c r) post fail
  rw [RegistryGhost.next_idle hc]
  exact h r

theorem wp_awaitRegistry {x : Async α}
    (h : registryProtocol.wp x q (fun a q => q.phase.Rests ∧ post a q) fun e q => q.phase.Rests ∧ fail e q) :
    registryProtocol.wp (await x) q post fail :=
  (wp_await_iff ..).mpr (Protocol.wp_mono _ h (fun _ _ h => ⟨.idle h.1 trivial, fun _ _ => h.2⟩)
    fun _ _ h => ⟨.idle h.1 trivial, fun _ _ => h.2⟩)

end

/-- The handler of `req`, which is no reload, may be suspended. -/
structure RegistryGhost.Waits (req : Request) (q : RegistryGhost) : Prop where
  req : q.req = some req
  rests : q.phase.Rests
  reload : q.reload = {}

theorem RegistryGhost.Waits.final {req : Request} {q : RegistryGhost} (h : q.Waits req) : q.Final :=
  ⟨h.rests, .inl (by rw [h.reload])⟩

theorem RegistryGhost.Waits.enter (req : Request) : (RegistryGhost.enter req).Waits req := ⟨rfl, trivial, rfl⟩

section
variable {req : Request}

theorem calm_registry {c : Op} (hc : CalmOp c) :
    registryProtocol.Keeps (RegistryGhost.Waits req) (Prog.ask c : Async c.Ans) := by
  intro q hq
  refine ⟨.idle hq.rests hc.registryIdle, fun r _ => ?_⟩
  show (q.next c r).Waits req
  rw [RegistryGhost.next_idle hc.registryIdle]
  exact hq

theorem startWallet_registry (walletId : String) (walletConfig : WalletConfig) (config : Config)
    (mode : Option String) : registryProtocol.Keeps (RegistryGhost.Waits req)
      (startWallet walletId walletConfig config req.hsmKey mode) := by
  intro q hq
  refine (Protocol.wp_ite ..).mpr ⟨fun _ => hq, fun _ => ?_⟩
  refine (Protocol.wp_bind ..).mpr ((Protocol.wp_attempt ..).mpr
    ⟨.create (by rw [hq.req]; simp) hq.rests _ _ _, fun r _ => ⟨fun w hr => ?_, fun e hr => ?_⟩⟩)
  · subst hr
    obtain ⟨hreq, -, hreload⟩ := hq
    have hq' : (⟨q.req, .made w, q.reload⟩ : RegistryGhost).Waits req := ⟨hreq, trivial, hreload⟩
    have hlib (c : LibCall) : (lib c).Uses RegistryIdle := (uses_ask (c := Op.lib c) trivial).attempt
    refine (Protocol.wp_bind ..).mpr (wp_registryIdle (hlib _) hq'.rests (fun _ => ?_) fun _ => hq')
    refine (Protocol.wp_bind ..).mpr (wp_registryIdle ?_ hq'.rests (fun _ => ?_) fun _ => hq')
    · split
      · exact hlib _
      · exact uses_pure _
    have hrun : (walletStart w).Uses RegistryIdle := (uses_ask (c := Op.wallet _) trivial).attempt
    refine (Protocol.wp_bind ..).mpr (wp_registryIdle hrun hq'.rests (fun _ => ?_) fun _ => hq')
    refine (Protocol.wp_bind ..).mpr ⟨.name (q := ⟨q.req, .made w, q.reload⟩) rfl hreload walletId, fun _ _ => ?_⟩
    have hnamed : RegistryGhost.nextPhase ⟨q.req, .made w, q.reload⟩ (.registry (.setWallet walletId w)) () =
        if req.hsmKey.isSome then .named walletId w else .idle := by
      simp only [RegistryGhost.nextPhase, RegistryGhost.hsmKey, hreq, Option.bind_some]
    show registryProtocol.wp _ ⟨q.req, RegistryGhost.nextPhase ⟨q.req, .made w, q.reload⟩
      (.registry (.setWallet walletId w)) (), q.reload⟩ _ _
    rw [hnamed]
    refine wp_registryQuiet trivial rfl fun _ => ?_
    cases hkey : req.hsmKey with
    | none => exact ⟨hreq, trivial, hreload⟩
    | some key =>
        have hghost : (⟨q.req, .named walletId w, q.reload⟩ : RegistryGhost).hsmKey = some key := by
          simp only [RegistryGhost.hsmKey, hreq, Option.bind_some, hkey]
        have htruthy : truthy (some key) = some key := by
          cases req with
          | startHsmWallet body => exact truthy_truthy hkey
          | _ => cases hkey
        rw [htruthy]
        exact ⟨.key rfl hghost, fun _ _ => ⟨hreq, trivial, hreload⟩⟩
  · subst hr
    exact hq

theorem stopWallet_registry (walletId : String) :
    registryProtocol.Keeps (RegistryGhost.Waits req) (stopWallet walletId) := by
  intro q hq
  refine wp_registryQuiet trivial rfl fun wallet => ?_
  cases wallet with
  | none => exact hq
  | some w =>
      have hhalt : (walletStop w).Uses RegistryIdle := (uses_ask (c := Op.wallet _) trivial).attempt
      refine wp_registryQuiet trivial rfl fun isHsm => ?_
      refine (Protocol.wp_bind ..).mpr (wp_registryIdle (uses_ite (uses_ask trivial) (uses_pure _)) hq.rests
        (fun _ => ?_) fun _ => hq)
      refine (Protocol.wp_bind ..).mpr (wp_registryIdle hhalt hq.rests (fun _ => ?_) fun _ => hq)
      refine (Protocol.wp_bind ..).mpr ⟨.remove hq.rests walletId, fun _ _ => ?_⟩
      refine wp_registryQuiet trivial rfl fun _ => wp_registryQuiet trivial rfl fun _ => ?_
      have hwaits : (RegistryGhost.next (q.next (.registry (.deleteWallet walletId)) ()) (.proposals (.deleteProposals walletId))
          ()).Waits req := ⟨hq.req, trivial, by
            show (q.reload.next (.registry (.deleteWallet walletId)) ()) = {}
            rw [hq.reload]
            rfl⟩
      exact wp_awaitRegistry ⟨.forget rfl, fun _ _ => ⟨hwaits.rests, hwaits⟩⟩

theorem addProposal_registry {walletId : String} {w : WalletRef} (hw : req.target = some (walletId, w))
    (proposalId password : String) :
    registryProtocol.Keeps (RegistryGhost.Waits req) (addListenedProposal walletId proposalId password) := by
  intro q hq
  have htarget : q.target = some (walletId, w) := by rw [RegistryGhost.target, hq.req, Option.bind_some, hw]
  exact ⟨.add hq.rests htarget _ _, fun _ _ => hq⟩

theorem removeProposal_registry (walletId proposalId : String) :
    registryProtocol.Keeps (RegistryGhost.Waits req) (removeListenedProposal walletId proposalId) :=
  fun _ hq => ⟨.idle hq.rests trivial, fun _ _ => hq⟩

end

/-! ## The reload -/

/-- All that is left to remove. -/
theorem removeWallets_registry (walletIds : List String) {q : RegistryGhost} (hq : q.phase.Rests)
    (hl : q.reload.listed = some walletIds) :
    registryProtocol.wp (removeWallets walletIds) q
      (fun _ q' => q'.phase.Rests ∧ q'.reload = { q.reload with listed := some [] }) fun _ _ => False := by
  induction walletIds generalizing q with
  | nil => exact ⟨hq, by rw [← hl]⟩
  | cons walletId walletIds ih =>
      refine (Protocol.wp_bind ..).mpr ⟨.remove hq walletId, fun _ _ => ?_⟩
      refine wp_registryQuiet trivial rfl fun _ => (Protocol.wp_bind ..).mpr (wp_awaitRegistry ?_)
      refine ⟨.forget rfl, fun _ _ => ⟨trivial, ?_⟩⟩
      have hreload : q.reload.next (.registry (.deleteWallet walletId)) () = { q.reload with listed := some walletIds } := by
        simp only [Reload.next, hl, Option.map_some, List.erase_cons_head]
      show registryProtocol.wp (removeWallets walletIds)
        ⟨q.req, .idle, q.reload.next (.registry (.deleteWallet walletId)) ()⟩ _ _
      rw [hreload]
      exact ih (q := ⟨q.req, .idle, { q.reload with listed := some walletIds }⟩) trivial rfl

theorem stopAllWallets_registry (rounds : Nat) {q : RegistryGhost} (hq : q.phase.Rests) :
    registryProtocol.wp (stopAllWallets rounds) q
      (fun _ q' => q'.phase.Rests ∧ q'.reload = { q.reload with listed := some [] }) fun _ q' => q' = q := by
  have hstop : (stopFrom rounds 0).Uses RegistryIdle := by
    refine (stopFrom_uses rounds 0).mono fun c hc => ?_
    cases c with
    | registry c => cases c <;> trivial
    | settings c => exact hc.elim
    | proposals c => exact hc.elim
    | _ => trivial
  refine (Protocol.wp_bind ..).mpr (wp_registryIdle hstop hq (fun _ => ?_) fun _ => rfl)
  refine (Protocol.wp_bind ..).mpr ⟨.list hq, fun walletIds _ => ?_⟩
  let qListed : RegistryGhost := ⟨q.req, q.phase, { q.reload with listed := some walletIds }⟩
  show registryProtocol.wp (removeWallets walletIds) qListed _ _
  exact Protocol.wp_mono _ (removeWallets_registry walletIds hq rfl) (fun _ _ h => h) fun _ _ h => h.elim

/-- A reload that has to stop the wallets has removed all of them. -/
def RegistryGhost.Stopped (q : RegistryGhost) : Prop :=
  ∀ oldConfig newConfig, q.reload.oldConfig = some oldConfig → q.reload.newConfig = some newConfig →
    (reloadAction oldConfig newConfig).stopAllWallets = true → q.reload.listed = some []

theorem updateConfig_registry (rounds : Nat) (action : ConfigReloadAction) (config : Config) {q : RegistryGhost}
    (hq : q.phase.Rests) (hl : q.reload.listed = none) :
    registryProtocol.wp (updateConfig rounds action config) q
      (fun _ q' => action.nonRecoverable = false ∧ q'.phase.Rests ∧
        q'.reload = if action.stopAllWallets then { q.reload with listed := some [] } else q.reload)
      fun _ q' => q'.Final := by
  have hlib : (if action.reconfigLib then initHathorLib config else pure ()).Uses RegistryIdle := by
    refine uses_ite ((initHathorLib_uses config).mono fun c hc => ?_) (uses_pure _)
    cases c with
    | settings c => cases c <;> trivial
    | _ => exact hc.elim
  refine (Protocol.wp_ite ..).mpr ⟨fun _ => ⟨hq, .inl hl⟩, fun hn => ?_⟩
  have hn : action.nonRecoverable = false := by simpa using hn
  refine (Protocol.wp_bind ..).mpr ((Protocol.wp_ite ..).mpr ⟨fun hstop => ?_, fun hstop => ?_⟩)
  · rw [if_pos hstop]
    refine wp_awaitRegistry (Protocol.wp_mono _ (stopAllWallets_registry rounds hq) (fun _ q' h => ⟨h.1, ?_⟩) ?_)
    · have hfinal : q'.Final := ⟨h.1, .inr (by rw [h.2])⟩
      exact wp_registryIdle hlib h.1 (fun _ => ⟨hn, h⟩) fun _ => hfinal
    · rintro e q' rfl
      exact ⟨hq, hq, .inl hl⟩
  · rw [if_neg hstop]
    exact (Protocol.wp_pure ..).mpr (wp_registryIdle hlib hq (fun _ => ⟨hn, hq, rfl⟩) fun _ => ⟨hq, .inl hl⟩)

theorem reload_registry (rounds : Nat) {q : RegistryGhost} (hq : q.phase.Rests) (hu : q.reload = {}) :
    registryProtocol.wp (reload rounds) q (fun _ q => q.Final ∧ q.Stopped) fun _ q => q.Final := by
  have hseeds (seeds : List (String × String)) : (seedsValid seeds).Uses RegistryIdle := by
    refine (seedsValid_uses seeds).mono fun c hc => ?_
    cases c with
    | lib c => trivial
    | _ => exact hc.elim
  refine (Protocol.wp_bind ..).mpr ⟨.read hq hu, fun oldConfig _ => ?_⟩
  refine wp_registryQuiet trivial rfl fun _ => ?_
  have hold : registryProtocol.next (registryProtocol.call q (.settings .config)) (.settings .config) oldConfig =
      ⟨q.req, q.phase, { oldConfig := oldConfig }⟩ := by
    show (⟨q.req, q.phase, { q.reload with oldConfig := oldConfig }⟩ : RegistryGhost) = _
    rw [hu]
  rw [hold]
  refine (Protocol.wp_bind ..).mpr (wp_awaitRegistry ((Protocol.wp_attempt ..).mpr ⟨.importing hq, fun r _ =>
    ⟨fun newConfig hr => ⟨?_, ?_⟩, fun e hr => ⟨?_, ?_⟩⟩⟩))
  · exact hq
  · subst hr
    let qNew : RegistryGhost := ⟨q.req, q.phase, { oldConfig := oldConfig, newConfig := some newConfig }⟩
    have hfinal : qNew.Final := ⟨hq, .inl rfl⟩
    show registryProtocol.wp _ qNew _ _
    refine (Protocol.wp_bind ..).mpr (wp_awaitRegistry ?_)
    cases oldConfig with
    | none => exact ⟨hq, hfinal⟩
    | some oldConfig =>
        have hupdate (action : ConfigReloadAction) (config : Config)
            (ha : action.nonRecoverable = false → action = reloadAction oldConfig newConfig) :
            registryProtocol.wp (do
              await (updateConfig rounds action config)
              setConfig (some config)) qNew (fun _ q => q.Final ∧ q.Stopped) fun _ q => q.Final := by
          refine (Protocol.wp_bind ..).mpr (wp_awaitRegistry (Protocol.wp_mono _
            (updateConfig_registry rounds action config (q := qNew) hq rfl) (fun _ q' h => ?_) fun _ _ h => ⟨h.1, h⟩))
          obtain ⟨hn, hrests, hreload⟩ := h
          have hlisted : q'.reload.listed = none ∨ q'.reload.listed = some [] := by
            rw [hreload]
            split
            · exact .inr rfl
            · exact .inl rfl
          have hstopped : q'.Stopped := by
            intro old new hold hnew hstop
            have hconfigs : q'.reload.oldConfig = some oldConfig ∧ q'.reload.newConfig = some newConfig := by
              rw [hreload]
              split
              · exact ⟨rfl, rfl⟩
              · exact ⟨rfl, rfl⟩
            rw [hconfigs.1] at hold
            rw [hconfigs.2] at hnew
            cases hold
            cases hnew
            rw [← ha hn] at hstop
            rw [hreload, if_pos hstop]
          exact ⟨hrests, wp_registryIdle (uses_ask trivial) hrests (fun _ => ⟨⟨hrests, hlisted⟩, hstopped⟩)
            fun _ => ⟨hrests, hlisted⟩⟩
        refine analizeConfig_wp ⟨hq, hupdate _ _ (by simp)⟩ (fun _ _ => ⟨hq, hfinal⟩)
          (wp_registryIdle (hseeds _) hq (fun valid => ?_)
          fun _ => ⟨hq, hfinal⟩)
        exact ⟨fun _ => ⟨hq, hupdate _ _ fun _ => rfl⟩, fun _ => ⟨hq, hupdate _ _ (by simp)⟩⟩
  · exact hq
  · subst hr
    exact ⟨hq, .inl rfl⟩

theorem reloadConfig_registry (rounds : Nat) :
    registryProtocol.wp (reloadConfig rounds) (RegistryGhost.enter (.reloadConfig rounds))
      (fun _ q => q.Final ∧ q.Stopped) fun _ q => q.Final := by
  refine (Protocol.wp_bind ..).mpr (wp_awaitRegistry (Protocol.wp_mono _ (reload_registry rounds trivial rfl)
    (fun _ q h => ⟨h.1.1, ?_⟩) fun _ q h => ⟨h.1, h⟩))
  exact wp_registryIdle (uses_ask trivial) h.1.1 (fun _ => h) fun _ => h.1

/-- The handlers follow the protocol. -/
theorem registry_wp {req : Request} (h : req.ManagesRegistry) :
    registryProtocol.wp req.handle (RegistryGhost.enter req) (fun _ q => q.Final) fun _ q => q.Final := by
  cases hreloads : req.Reloads with
  | false =>
      have hkeeps : registryProtocol.Keeps (RegistryGhost.Waits req) req.handle :=
        h.keeps hreloads (fun _ hc => calm_registry hc) startWallet_registry stopWallet_registry
          (fun _ _ hw => addProposal_registry hw) fun _ _ _ _ => removeProposal_registry _ _
      exact Protocol.wp_mono _ (hkeeps _ (.enter req)) (fun _ _ h => h.final) fun _ _ h => h.final
  | true =>
      cases req with
      | reloadConfig rounds => exact Protocol.wp_mono _ (reloadConfig_registry rounds) (fun _ _ h => h.1) fun _ _ h => h
      | _ => cases hreloads

end WalletHeadless
