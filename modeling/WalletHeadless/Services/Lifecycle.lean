import WalletHeadless.Services.Asks
import WalletHeadless.Services.Settings

/-!
# What starting and stopping a wallet ask, and a reload

* `startWallet_uses`, `stopWallet_uses`: the calls of a start and of a stop;
* `StopOp`, `stopFrom_uses`: the calls of the loop that stops the wallets;
* `initHathorLib_uses`, `seedsValid_uses`: the setters of `wallet-lib`, the check of the seeds;
* `ReloadOp`, `reload_uses`: the calls of a reload;
* `analizeConfig_wp`: what the analysis returns.
-/

namespace WalletHeadless

open Coop Js
open Prog (uses_ask uses_orThrow)

/-- The calls of a start. -/
def StartWalletOp : Op → Prop
  | .lib _ | .wallet (.start _) | .registry (.newWallet ..) | .registry (.setWallet ..) => True
  | .registry (.setLogger _) | .registry (.setHsmWallet ..) => True
  | _ => False

theorem startWallet_uses (walletId : String) (walletConfig : WalletConfig) (config : Config) (key mode : Option String) :
    (startWallet walletId walletConfig config key mode).Uses StartWalletOp := by
  have hlib (c : LibCall) : (lib c).Uses StartWalletOp := (uses_ask (c := Op.lib c) trivial).attempt
  refine uses_ite (uses_throwThe _) (uses_bind (uses_ask (c := Op.registry _) trivial).attempt fun wallet => ?_)
  refine uses_bind (hlib _) fun _ => uses_bind ?_ fun _ => ?_
  · split
    · exact hlib _
    · exact uses_pure _
  · refine uses_bind (uses_ask (c := Op.wallet _) trivial).attempt fun _ => uses_bind (uses_ask trivial) fun _ =>
      uses_bind (uses_ask trivial) fun _ => ?_
    split
    · exact uses_ask trivial
    · exact uses_pure _

/-- The calls of a stop. -/
def StopWalletOp : Op → Prop
  | .registry (.getWallet _) | .registry (.hasHsmWallet _) | .registry (.deleteHsmWallet _) => True
  | .wallet (.stop _) | .registry (.deleteWallet _) | .registry (.deleteLogger _) => True
  | .lock (.delete _) | .proposals (.deleteProposals _) | .tick => True
  | _ => False

theorem stopWallet_uses (walletId : String) : (stopWallet walletId).Uses StopWalletOp := by
  refine uses_bind (uses_ask trivial) fun wallet => ?_
  split
  · exact uses_pure _
  · refine uses_bind (uses_ask trivial) fun isHsm => uses_bind (uses_ite (uses_ask trivial) (uses_pure _)) fun _ => ?_
    exact uses_bind (uses_ask (c := Op.wallet _) trivial).attempt fun _ => uses_bind (uses_ask trivial) fun _ =>
      uses_bind (uses_ask trivial) fun _ => uses_bind (uses_ask trivial) fun _ => uses_await trivial (uses_ask trivial)

/-- The calls of the loop that stops the wallets. -/
def StopOp : Op → Prop
  | .registry (.nextWallet _) | .wallet (.stop _) | .lib (.removeAllListeners _) | .lib .forever => True
  | _ => False

theorem stopFrom_uses (rounds index : Nat) : (stopFrom rounds index).Uses StopOp := by
  induction rounds generalizing index with
  | zero => exact uses_bind (uses_ask (c := Op.lib .forever) trivial).attempt fun _ => uses_throwThe _
  | succ rounds ih =>
      refine uses_bind (uses_ask (c := Op.registry (.nextWallet index)) trivial) fun next => ?_
      split
      · exact uses_pure _
      · exact uses_bind (uses_ask (c := Op.wallet (.stop _)) trivial).attempt fun _ =>
          uses_bind (uses_ask (c := Op.lib (.removeAllListeners _)) trivial).attempt fun _ => ih _

/-- The setters of `wallet-lib`. -/
def SetLibOp : Op → Prop
  | .settings (.setLib ..) => True
  | _ => False

theorem initHathorLib_uses (config : Config) : (initHathorLib config).Uses SetLibOp := by
  have hset (cell : LibCell) (value : String) : (setLib cell value).Uses SetLibOp :=
    (uses_ask (c := Op.settings (.setLib cell value)) trivial).attempt
  have htruthy (cell : LibCell) (value : Option String) : (setLibTruthy cell value).Uses SetLibOp := by
    unfold setLibTruthy
    split
    · exact hset _ _
    · exact uses_pure _
  exact uses_bind (htruthy _ _) fun _ => uses_bind (htruthy _ _) fun _ => uses_bind (hset _ _) fun _ =>
    uses_bind (hset _ _) fun _ => hset _ _

/-- The check of a seed. -/
def SeedOp : Op → Prop
  | .lib (.seedValid _) => True
  | _ => False

theorem seedsValid_uses (seeds : List (String × String)) : (seedsValid seeds).Uses SeedOp := by
  induction seeds with
  | nil => exact uses_pure _
  | cons seed seeds ih =>
      have hseed : (seedValid seed.2).Uses SeedOp := (uses_ask (c := Op.lib (.seedValid seed.2)) trivial).attempt
      exact uses_bind (uses_tryCatch hseed fun _ => uses_ite (uses_pure _) (uses_throwThe _)) fun valid =>
        uses_ite ih (uses_pure _)

/-- The calls of a reload. -/
def ReloadOp : Op → Prop
  | .settings _ | .lib (.seedValid _) | .tick => True
  | .registry (.deleteWallet _) | .registry (.deleteLogger _) | .registry .walletIds => True
  | .proposals (.deleteProposals _) => True
  | c => StopOp c

theorem updateConfig_uses (rounds : Nat) (action : ConfigReloadAction) (config : Config) :
    (updateConfig rounds action config).Uses ReloadOp := by
  have hremove (walletIds : List String) : (removeWallets walletIds).Uses ReloadOp := by
    induction walletIds with
    | nil => exact uses_pure _
    | cons walletId walletIds ih =>
        exact uses_bind (uses_ask trivial) fun _ => uses_bind (uses_ask trivial) fun _ =>
          uses_bind (uses_await trivial (uses_ask trivial)) fun _ => ih
  have hstopAll : (stopAllWallets rounds).Uses ReloadOp := by
    refine uses_bind ((stopFrom_uses rounds 0).mono fun c hc => ?_) fun _ => uses_bind (uses_ask trivial) fun _ => hremove _
    cases c with
    | registry c => cases c <;> trivial
    | lib c => cases c <;> trivial
    | wallet c => exact hc
    | _ => exact hc.elim
  have hlib : (initHathorLib config).Uses ReloadOp := by
    refine (initHathorLib_uses config).mono fun c hc => ?_
    cases c with
    | settings c => trivial
    | _ => exact hc.elim
  exact uses_ite (uses_throwThe _) (uses_bind (uses_ite (uses_await trivial hstopAll) (uses_pure _)) fun _ =>
    uses_ite hlib (uses_pure _))

theorem reload_uses (rounds : Nat) : (reload rounds).Uses ReloadOp := by
  have hanalize (oldConfig : Option Config) (newConfig : Config) : (analizeConfig oldConfig newConfig).Uses ReloadOp := by
    cases oldConfig with
    | none => exact uses_throwThe _
    | some oldConfig =>
        have hseeds (seeds : List (String × String)) : (seedsValid seeds).Uses ReloadOp := by
          refine (seedsValid_uses seeds).mono fun c hc => ?_
          cases c with
          | lib c => cases c <;> trivial
          | _ => exact hc.elim
        exact uses_ite (uses_pure _) (uses_bind (Prog.uses_orThrow _ _) fun _ => uses_bind (hseeds _) fun _ =>
          uses_ite (uses_pure _) (uses_pure _))
  have himport : importConfig.Uses ReloadOp := (uses_ask (c := Op.settings .importConfig) trivial).attempt
  exact uses_bind (uses_ask trivial) fun oldConfig => uses_bind (uses_ask trivial) fun _ =>
    uses_bind (uses_await trivial himport) fun newConfig => uses_bind (uses_await trivial (hanalize _ _)) fun r =>
      uses_bind (uses_await trivial (updateConfig_uses _ _ _)) fun _ => uses_ask trivial

/-- The analysis returns the action of the change, or one that is not recoverable. -/
theorem analizeConfig_wp {Q : Type} {P : Protocol Op.Ans Q} {q : Q} {oldConfig newConfig : Config}
    {post : ConfigReloadAction × Config → Q → Prop} {fail : JsError → Q → Prop}
    (hfixed : post ({ nonRecoverable := true }, newConfig) q)
    (hcrash : incomparable oldConfig newConfig = true → ∀ e, fail e q)
    (hseeds : P.wp (seedsValid (seedsCompared oldConfig newConfig).2.seedEntries) q (fun valid q =>
      (valid = true → post (reloadAction oldConfig newConfig, (seedsCompared oldConfig newConfig).2) q) ∧
      (valid = false → post (⟨(seedsCompared oldConfig newConfig).1, false, true⟩, (seedsCompared oldConfig newConfig).2) q))
      fail) : P.wp (analizeConfig (some oldConfig) newConfig) q post fail := by
  refine (Protocol.wp_ite ..).mpr ⟨fun _ => hfixed, fun hn => (Protocol.wp_bind ..).mpr ?_⟩
  refine (Protocol.wp_orThrow ..).mpr ⟨fun r hr => (Protocol.wp_bind ..).mpr ?_, fun e he => hcrash ?_ e⟩
  · obtain rfl : seedsCompared oldConfig newConfig = r := by
      rw [seedsCompared, hr]
      rfl
    refine Protocol.wp_mono _ hseeds (fun valid q h => ?_) fun _ _ h => h
    refine (Protocol.wp_ite ..).mpr ⟨fun hv => ?_, fun hv => h.2 (by simpa using hv)⟩
    exact h.1 hv
  · rw [incomparable, he]
    simpa [Except.isOk, Except.toBool] using hn

end WalletHeadless
