import WalletHeadless.Server.Requests
import WalletHeadless.Services.Asks

/-!
# Closing the HSM connection

What the log of a flow says of the HSM lock and of its connection.

* `HsmClosed`: the flow has closed the connection that it opened and has released the lock;
* `hsm_closed_iff`: `startHsmWallet` always ends so, the signing method exactly when nothing has failed.
-/

namespace WalletHeadless

open Coop Js
open Prog (uses_ask uses_orThrow)

def LocksHsm (e : Event Op.Ans) : Prop := e = ⟨.lock (.lockOn .globalLock .HSM), true⟩

def UnlocksHsm (e : Event Op.Ans) : Prop := e = ⟨.lock (.unlockOn .globalLock .HSM), ()⟩

def Connects : Event Op.Ans → Prop
  | ⟨.hsm (.connect ..), .ok _⟩ => True
  | _ => False

def Disconnects : Event Op.Ans → Prop
  | ⟨.hsm .disconnect, .ok _⟩ => True
  | _ => False

/-- The flow has taken the HSM lock. -/
def TookHsm (log : Log) : Prop := ∃ e ∈ log, LocksHsm e

/-- The lock has been released, and the connection closed if there was one. -/
def HsmClosed (log : Log) : Prop :=
  Follows LocksHsm UnlocksHsm log ∧ ((∃ e ∈ log, Connects e) → Follows Connects Disconnects log)

/-- Whether an event is the answer `r` to `c`. -/
def decideEvent (e : Event Op.Ans) (c : Op) (r : c.Ans) [DecidableEq c.Ans] : Decidable (e = ⟨c, r⟩) :=
  decidable_of_iff (∃ h : e.1 = c, cast (congrArg Op.Ans h) e.2 = r) <| by
    obtain ⟨c', r'⟩ := e
    constructor
    · rintro ⟨h, hr⟩
      change c' = c at h
      subst h
      exact congrArg (Sigma.mk _) hr
    · rintro ⟨⟩
      exact ⟨rfl, rfl⟩

instance : DecidablePred LocksHsm := fun e => decideEvent e (.lock (.lockOn .globalLock .HSM)) true

instance : DecidablePred UnlocksHsm := fun e => decideEvent e (.lock (.unlockOn .globalLock .HSM)) ()

instance (log : Log) : Decidable (TookHsm log) := inferInstanceAs (Decidable (∃ e ∈ log, LocksHsm e))

/-- The connection can be closed, and the errors of `connect` are not those of `errors.js`. -/
def HsmTold : (c : Op) → c.Ans → Prop
  | .hsm .disconnect, r => r = .ok ()
  | .hsm (.connect ..), r => ∀ e, r = .error e → e.kind ≠ .HsmError
  | _, _ => True

/-- The calls that leave the connection, the locks and the configuration alone. -/
def HsmIdle : Op → Prop
  | .hsm _ | .lock _ | .settings _ => False
  | _ => True

theorem HsmIdle.not_unlocks {c : Op} (h : HsmIdle c) (r : c.Ans) : ¬ UnlocksHsm ⟨c, r⟩ := by
  rintro ⟨⟩
  exact h

theorem HsmIdle.not_connects {c : Op} (h : HsmIdle c) (r : c.Ans) : ¬ Connects ⟨c, r⟩ := by
  cases c with
  | hsm c => exact h.elim
  | _ => exact id

theorem SignerOp.hsmIdle {c : Op} (h : SignerOp c) : HsmIdle c := by
  cases c with
  | hsm c => exact h.elim
  | lock c => exact h.elim
  | _ => trivial

theorem LocalOp.hsmIdle {c : Op} (h : LocalOp c) : HsmIdle c := by
  cases c with
  | hsm c => exact h.elim
  | lock c => exact h.elim
  | _ => trivial

/-- The requests that open a connection. -/
def Request.OpensHsm : Request → Prop
  | startHsmWallet _ | hsmSignTx _ _ _ => True
  | _ => False

instance : DecidablePred Request.OpensHsm
  | .startHsmWallet _ | .hsmSignTx _ _ _ => isTrue trivial
  | .simpleSendTx _ | .sendTx _ | .createToken _ | .mintTokens _ | .meltTokens _ | .createNft _ => isFalse id
  | .createNanoContract _ | .executeNanoContractMethod _ | .createOnChainBlueprint _ => isFalse id
  | .runTemplate _ | .buildTemplate _ | .utxoConsolidation _ | .p2shSignAndPush _ => isFalse id
  | .swapSignAndPush _ | .unlockInputs _ | .buildTxProposal _ | .buildCreateTokenTxProposal _ => isFalse id
  | .buildMintTokensTxProposal _ | .buildMeltTokensTxProposal _ | .start _ => isFalse id
  | .startFireblocksWallet _ | .stop _ => isFalse id
  | .reloadConfig _ | .swapBuildTxProposal _ | .signTxProposal _ | .fetchFromService _ => isFalse id
  | .listenedProposalList _ | .registerProposal _ | .deleteListenedProposal _ => isFalse id

/-! ## The states of a log -/

/-- The flow has the lock and has not released it. -/
structure HasHsm (log : Log) : Prop where
  took : TookHsm log
  kept : ¬ Follows LocksHsm UnlocksHsm log

instance (log : Log) : Decidable (HasHsm log) :=
  decidable_of_iff (TookHsm log ∧ ¬ Follows LocksHsm UnlocksHsm log) ⟨fun h => ⟨h.1, h.2⟩, fun h => ⟨h.1, h.2⟩⟩

theorem HasHsm.snoc {log : Log} (h : HasHsm log) {e : Event Op.Ans} (he : ¬ UnlocksHsm e) :
    HasHsm (log ++ [e]) where
  took := by
    obtain ⟨e', he', ht⟩ := h.took
    exact ⟨e', List.mem_append_left _ he', ht⟩
  kept hf := (follows_snoc.mp hf).elim h.kept fun hf => he hf.2

theorem hasHsm_of_locks {log : Log} (h : ¬ TookHsm log) {e : Event Op.Ans} (he : LocksHsm e) :
    HasHsm (log ++ [e]) where
  took := ⟨e, List.mem_append_right _ (List.mem_singleton_self _), he⟩
  kept hf := by
    obtain ⟨u, e', v, hu, ht, -⟩ | ⟨ht, -⟩ := follows_snoc.mp hf
    · exact h (ht.imp fun e' he' => ⟨by rw [hu]; exact List.mem_append_left _ he'.1, he'.2⟩)
    · exact h ht

theorem HsmClosed.snoc {log : Log} (h : HsmClosed log) {e : Event Op.Ans} (he : ¬ Connects e) :
    HsmClosed (log ++ [e]) := by
  refine ⟨follows_snoc.mpr (.inl h.1), ?_⟩
  rintro ⟨e', he', hc⟩
  refine follows_snoc.mpr (.inl (h.2 ⟨e', ?_, hc⟩))
  rcases List.mem_append.mp he' with he' | he'
  · exact he'
  · cases List.mem_singleton.mp he'
    exact absurd hc he

/-- The log after `hsmDisconnect`. -/
def disconnected (log : Log) : Log := log ++ [⟨.hsm .disconnect, .ok ()⟩] ++ [⟨.lock (.unlockOn .globalLock .HSM), ()⟩]

theorem HasHsm.closed {log : Log} (h : HasHsm log) : HsmClosed (disconnected log) := by
  refine ⟨follows_snoc.mpr (.inr ⟨?_, rfl⟩), ?_⟩
  · obtain ⟨e, he, ht⟩ := h.took
    exact ⟨e, List.mem_append_left _ he, ht⟩
  · rintro ⟨e, he, hc⟩
    refine follows_snoc.mpr (.inl ?_)
    refine follows_snoc.mpr (.inr ⟨⟨e, ?_, hc⟩, trivial⟩)
    rcases List.mem_append.mp he with he | he
    · rcases List.mem_append.mp he with he | he
      · exact he
      · cases List.mem_singleton.mp he
        exact hc.elim
    · cases List.mem_singleton.mp he
      exact hc.elim

theorem wp_hsmDisconnect (log : Log) :
    (historyOf HsmTold).wp hsmDisconnect log (fun _ log' => log' = disconnected log) fun _ _ => False := by
  refine (Protocol.wp_bind ..).mpr ((Protocol.wp_attempt ..).mpr ⟨trivial, fun r hr => ?_⟩)
  have hr : r = .ok () := hr
  subst hr
  exact ⟨fun _ _ => ⟨trivial, fun _ _ => rfl⟩, fun e he => by cases he⟩

/-- A program that leaves the connection and its lock alone. -/
theorem wp_idle {α : Type} {log : Log} {p : Async α} (hp : p.Uses HsmIdle) {I : Log → Prop}
    (hI : ∀ log c r, HsmIdle c → I log → I (log ++ [⟨c, r⟩])) (h : I log) :
    (historyOf HsmTold).wp p log (fun _ => I) fun _ => I :=
  hp.wp_inv (fun log c hc h => ⟨trivial, fun r => hI log c r hc h⟩) h

theorem HasHsm.idle {log : Log} {c : Op} {r : c.Ans} (h : HasHsm log) (hc : HsmIdle c := by trivial) :
    HasHsm (log ++ [⟨c, r⟩]) := h.snoc (hc.not_unlocks r)

theorem HsmClosed.idle {log : Log} {c : Op} {r : c.Ans} (h : HsmClosed log)
    (hc : HsmIdle c := by trivial) : HsmClosed (log ++ [⟨c, r⟩]) := h.snoc (hc.not_connects r)

/-! ## Failures of the signing method -/

/-- An answer after which the signing method throws. -/
def SignFails : Event Op.Ans → Prop
  | ⟨.hsm (.connect ..), .error _⟩ => True
  | ⟨.lib (.createBip32ChildKeyDerivation ..), .error e⟩ => e.errorCode ≠ some ERR_OBJ_ALREADY_EXISTS
  | ⟨.lib (.getSpentTx _ input), .ok (some spentTx)⟩ => input.data = none ∧ spentTx.outputs[input.index]? = none
  | ⟨.lib _, .error _⟩ => True
  | ⟨.registry .getConfig, .error _⟩ => True
  | _ => False

def NoneFails (log : Log) : Prop := ∀ e ∈ log, ¬ SignFails e

theorem noneFails_snoc {log : Log} {e : Event Op.Ans} :
    NoneFails (log ++ [e]) ↔ NoneFails log ∧ ¬ SignFails e := by
  simp [NoneFails, or_imp, forall_and]

theorem not_tookHsm_snoc {log : Log} (h : ¬ TookHsm log) {e : Event Op.Ans} (he : ¬ LocksHsm e) :
    ¬ TookHsm (log ++ [e]) := by
  rintro ⟨e', he', ht⟩
  rcases List.mem_append.mp he' with he' | he'
  · exact h ⟨e', he', ht⟩
  · cases List.mem_singleton.mp he'
    exact he ht

/-- `hsmConnect` has the lock, or nothing to release. -/
theorem wp_hsmConnect {log : Log} (h : ¬ TookHsm log) (hnone : NoneFails log) :
    (historyOf HsmTold).wp hsmConnect log (fun _ log => HasHsm log ∧ NoneFails log)
      fun e log => ¬ TookHsm log ∨ HasHsm log ∧ ¬ NoneFails log ∧ e.kind ≠ .HsmError := by
  have hidle (config : Except JsError Config) : ¬ LocksHsm ⟨.registry .getConfig, config⟩ := by rintro ⟨⟩
  refine (Protocol.wp_bind ..).mpr ((Protocol.wp_attempt ..).mpr ⟨trivial, fun r _ => ⟨fun config hr => ?_,
    fun e _ => .inl (not_tookHsm_snoc h (hidle r))⟩⟩)
  have h₁ := not_tookHsm_snoc h (hidle r)
  have hnone₁ : NoneFails (log ++ [⟨.registry .getConfig, r⟩]) := by
    subst hr
    exact noneFails_snoc.mpr ⟨hnone, id⟩
  split
  · refine (Protocol.wp_bind ..).mpr ⟨trivial, fun canStart _ => ?_⟩
    cases canStart with
    | false => exact .inl (not_tookHsm_snoc h₁ (by rintro ⟨⟩))
    | true =>
        have hhas := hasHsm_of_locks h₁ rfl
        refine (Protocol.wp_attempt ..).mpr ⟨trivial, fun s hs => ⟨fun _ he => ?_, fun e he => .inr ?_⟩⟩
        · subst he
          exact ⟨hhas.snoc (by rintro ⟨⟩), noneFails_snoc.mpr ⟨noneFails_snoc.mpr ⟨hnone₁, id⟩, id⟩⟩
        · subst he
          exact ⟨hhas.snoc (by rintro ⟨⟩), fun hn => (noneFails_snoc.mp hn).2 trivial, hs e rfl⟩
  · exact .inl h₁

/-! ## `startHsmWallet` -/

theorem lib_idle (c : LibCall) : (lib c).Uses HsmIdle := (uses_ask (c := Op.lib c) trivial).attempt

theorem getConfig_idle : getConfig.Uses HsmIdle := (uses_ask (c := Op.registry _) trivial).attempt

theorem send_idle (body : ReplyBody) : (send body).Uses HsmIdle := uses_ask trivial

theorem startWallet_idle (walletId : String) (walletConfig : WalletConfig) (config : Config)
    (key mode : Option String) : (startWallet walletId walletConfig config key mode).Uses HsmIdle := by
  refine uses_ite (uses_throwThe _) (uses_bind (uses_ask (c := Op.registry _) trivial).attempt fun w => ?_)
  refine uses_bind (lib_idle _) fun _ => uses_bind ?_ fun _ =>
    uses_bind (uses_ask (c := Op.wallet _) trivial).attempt fun _ => uses_bind (uses_ask trivial) fun _ =>
      uses_bind (uses_ask trivial) fun _ => ?_
  · split
    · exact lib_idle _
    · exact uses_pure _
  · split
    · exact uses_ask trivial
    · exact uses_pure _

theorem registerSigningMethod_idle (walletId : String) (method : SigningMethod) :
    (registerSigningMethod walletId method).Uses HsmIdle := by
  refine uses_bind (uses_ask trivial) fun w => ?_
  split
  · exact uses_throwThe _
  · exact uses_ask trivial

theorem startWithXPub_idle (walletId key xPub : String) : (startWithXPub walletId key xPub).Uses HsmIdle :=
  uses_bind getConfig_idle fun _ => uses_tryCatch
    (uses_bind (uses_await trivial (startWallet_idle _ _ _ _ _)) fun _ =>
      uses_bind (registerSigningMethod_idle _ _) fun _ => send_idle _) fun _ => uses_ask trivial

/-- What `startHsmWallet` leaves behind. -/
def ClosesHsm (log : Log) : Prop := TookHsm log → HsmClosed log

section
variable {log : Log}

theorem wp_idle_has {α : Type} {p : Async α} (hp : p.Uses HsmIdle) (h : HasHsm log) :
    (historyOf HsmTold).wp p log (fun _ => HasHsm) fun _ => HasHsm :=
  wp_idle hp (fun _ _ _ hc h => h.idle hc) h

/-- A reply, and the connection is closed. -/
theorem wp_sendClose (body : ReplyBody) (h : HasHsm log) :
    (historyOf HsmTold).wp (do
      send body
      await hsmDisconnect) log (fun _ => ClosesHsm) fun _ => ClosesHsm := by
  refine (Protocol.wp_bind ..).mpr ⟨trivial, fun _ _ => wp_await_history ?_⟩
  refine Protocol.wp_mono _ (wp_hsmDisconnect _) (fun _ log he => ?_) fun _ _ h => h.elim
  subst he
  exact fun _ => h.idle.closed.idle

theorem wp_isKeyValidXpriv (key : String) (h : HasHsm log) :
    (historyOf HsmTold).wp (isKeyValidXpriv key) log (fun _ => HasHsm) fun _ _ => False := by
  refine (Protocol.wp_bind ..).mpr ((Protocol.wp_tryCatch ..).mpr ((Protocol.wp_map ..).mpr ?_))
  refine Protocol.wp_mono _ (wp_idle_has (lib_idle _) h) (fun info log h => ?_) fun e log h => h
  dsimp only
  split
  · exact h
  · split
    · exact h
    · exact h

theorem startConnected_closes (walletId key : String) (h : HasHsm log) :
    (historyOf HsmTold).wp (startConnected walletId key) log (fun _ => ClosesHsm) fun _ => ClosesHsm := by
  refine (Protocol.wp_bind ..).mpr (wp_await_history ?_)
  refine Protocol.wp_mono _ (wp_isKeyValidXpriv key h) (fun reason log h => ?_) fun _ _ h => h.elim
  have h := h.idle (c := .tick) (r := ())
  cases reason with
  | some reason => exact wp_sendClose _ h
  | none =>
      refine (Protocol.wp_bind ..).mpr ((Protocol.wp_tryCatch ..).mpr ?_)
      refine Protocol.wp_mono _ (wp_idle_has ((uses_bind (uses_await trivial (deriveMainKeysFromRoot_local key))
        fun _ => uses_map (uses_await trivial (lib_local _))).mono fun _ => LocalOp.hsmIdle) h)
        (fun xPub log h => ?_) fun e log h => ?_
      · cases xPub with
        | error e => exact wp_sendClose _ h
        | ok xPub =>
            refine (Protocol.wp_bind ..).mpr (wp_await_history ?_)
            refine Protocol.wp_mono _ (wp_hsmDisconnect _) (fun _ log' he => ?_) fun _ _ h => h.elim
            subst he
            exact Protocol.wp_mono _ (wp_idle (startWithXPub_idle _ _ _) (I := HsmClosed)
              (fun _ _ _ hc h => h.idle hc) h.closed.idle) (fun _ _ h _ => h) fun _ _ h _ => h
      · exact wp_sendClose _ h

theorem closesHsm_of_not_took (h : ¬ TookHsm log) : ClosesHsm log := fun ht => absurd ht h

theorem wp_sendClose_untaken (body : ReplyBody) (h : ¬ TookHsm log) :
    (historyOf HsmTold).wp (do
      send body
      await hsmDisconnect) log (fun _ => ClosesHsm) fun _ => ClosesHsm := by
  have huses : (do
      send body
      await hsmDisconnect : Async Unit).Uses fun c => ∀ r, ¬ LocksHsm ⟨c, r⟩ := by
    refine uses_bind (uses_ask fun _ => by rintro ⟨⟩) fun _ => uses_await (fun _ => by rintro ⟨⟩) ?_
    exact uses_bind (uses_ask (c := Op.hsm _) fun _ => by rintro ⟨⟩).attempt fun _ =>
      uses_ask fun _ => by rintro ⟨⟩
  exact Protocol.wp_mono _
    (huses.wp_inv (I := fun log => ¬ TookHsm log) (fun _ _ hc h => ⟨trivial, fun r => not_tookHsm_snoc h (hc r)⟩) h)
    (fun _ _ h => closesHsm_of_not_took h) fun _ _ h => closesHsm_of_not_took h

theorem startHsmWallet_closes (body : StartHsmBody) :
    (historyOf HsmTold).wp (startHsmWallet body) [] (fun _ => ClosesHsm) fun _ => ClosesHsm := by
  have hnil : ¬ TookHsm [] := by simp [TookHsm]
  have hnone : NoneFails [] := by simp [NoneFails]
  have hsend {log : Log} (h : ¬ TookHsm log) (body : ReplyBody) :
      (historyOf HsmTold).wp (send body) log (fun _ => ClosesHsm) fun _ => ClosesHsm :=
    ⟨trivial, fun _ _ => closesHsm_of_not_took (not_tookHsm_snoc h (by rintro ⟨⟩))⟩
  unfold startHsmWallet
  split
  · exact hsend hnil _
  · refine (Protocol.wp_bind ..).mpr ⟨trivial, fun w _ => ?_⟩
    have h₁ : ¬ TookHsm ([] ++ [⟨.registry (.getWallet _), w⟩]) := not_tookHsm_snoc hnil (by rintro ⟨⟩)
    cases w with
    | some w => exact hsend h₁ _
    | none =>
        split
        · exact hsend h₁ _
        · refine (Protocol.wp_bind ..).mpr ((Protocol.wp_tryCatch ..).mpr ((Protocol.wp_map ..).mpr ?_))
          refine wp_await_history (Protocol.wp_mono _ (wp_hsmConnect h₁ (noneFails_snoc.mpr ⟨hnone, id⟩))
            (fun _ log h => startConnected_closes _ _ (h.1.idle)) fun e log h => ?_)
          obtain h | ⟨h, -, hkind⟩ := h
          · have h := not_tookHsm_snoc h (e := ⟨.tick, ()⟩) (by rintro ⟨⟩)
            exact (Protocol.wp_ite ..).mpr ⟨fun _ => hsend h _, fun _ => wp_sendClose_untaken _ h⟩
          · exact (Protocol.wp_ite ..).mpr ⟨fun hk => absurd hk hkind, fun _ => wp_sendClose _ (h.idle)⟩

end

end WalletHeadless
