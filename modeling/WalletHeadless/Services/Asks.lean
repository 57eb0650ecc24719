import WalletHeadless.Coop.Protocol
import WalletHeadless.Helpers.Tx

/-!
# What the signing methods ask

Signing asks the libraries, waits, opens and closes the HSM connection under its lock and reads the
configuration; it touches neither the utxos of a wallet nor its SEND_TX lock.

* `SigningOp`; `signTx_uses`: all that `signTx` can ask;
* `SignerOp`: these without the HSM connection;
* `LocalOp`: the calls that derive and check the keys of an HSM wallet;
* `QuietOp`: the signing calls, and every call of a library that changes nothing the handlers share.
-/

namespace WalletHeadless

open Coop Js
open Prog (uses_ask uses_orThrow)

/-- The library calls that the signing methods make. -/
def LibCall.Signing : LibCall → Prop
  | getSpentTx .. | getAddressInfo .. | getAddressPubkey .. | getNanoContractCaller _ => True
  | getAddressFromPubkey _ | createInputData .. | createBip32ChildKeyDerivation .. | sign .. => True
  | readApiSecretFile _ | postRawTransaction .. | getTxStatusByExternalId _ | signTransaction .. => True
  | _ => False

/-- The calls that the signing methods make. -/
def SigningOp : Op → Prop
  | .lib c => c.Signing
  | .tick | .sleep _ | .hsm _ => True
  | .registry .getConfig | .registry (.getTxSignatureMethod _) => True
  | .lock (.lockOn l ty) | .lock (.unlockOn l ty) => l = .globalLock ∧ ty = .HSM
  | _ => False

/-- These without the connection of the HSM and its lock. -/
def SignerOp : Op → Prop
  | .hsm _ | .lock _ => False
  | c => SigningOp c

theorem SignerOp.signing {c : Op} (h : SignerOp c) : SigningOp c := by
  cases c with
  | hsm c => exact h.elim
  | lock c => exact h.elim
  | _ => exact h

def QuietOp : Op → Prop
  | .lib _ => True
  | c => SigningOp c

theorem SigningOp.quiet {c : Op} (h : SigningOp c) : QuietOp c := by
  cases c with
  | lib c => trivial
  | _ => exact h

/-- The calls of the libraries, and those that read the configuration or wait. -/
def LocalOp : Op → Prop
  | .lib _ | .tick | .sleep _ | .registry .getConfig => True
  | _ => False

variable {α β : Type} {A : Op → Prop}

theorem uses_bind {p : Async α} {f : α → Async β} (hp : p.Uses A) (hf : ∀ a, (f a).Uses A) :
    (p >>= f).Uses A := hp.bind hf

theorem uses_map {p : Async α} {f : α → β} (hp : p.Uses A) : (f <$> p).Uses A :=
  hp.bind fun _ => trivial

theorem uses_pure (a : α) : (pure a : Async α).Uses A := trivial

theorem uses_throwThe (e : JsError) : (throw e : Async α).Uses A := trivial

theorem uses_tryCatch {p : Async α} {h : JsError → Async α} (hp : p.Uses A) (hh : ∀ e, (h e).Uses A) :
    (tryCatch p h).Uses A := hp.catches hh

theorem uses_ite {c : Prop} [Decidable c] {p p' : Async α} (hp : p.Uses A) (hp' : p'.Uses A) :
    (if c then p else p').Uses A := by
  split
  · exact hp
  · exact hp'

theorem uses_await {p : Async α} (htick : A .tick) (hp : p.Uses A) : (await p).Uses A :=
  uses_bind (uses_tryCatch hp fun e => uses_bind (uses_ask htick) fun _ => uses_throwThe e) fun a =>
    uses_bind (uses_ask htick) fun _ => uses_pure a

theorem lib_uses {c : LibCall} (hc : c.Signing) : (lib c).Uses SignerOp :=
  (uses_ask (c := Op.lib c) hc).attempt

theorem lib_quiet (c : LibCall) : (lib c).Uses QuietOp := (uses_ask (c := Op.lib c) trivial).attempt

/-- `await p` in terms of `p`. -/
theorem wp_await_iff {Q : Type} (P : Protocol Op.Ans Q) (p : Async α) (q : Q) (post : α → Q → Prop)
    (fail : JsError → Q → Prop) :
    P.wp (await p) q post fail ↔
      P.wp p q (fun a q => P.wp tick q (fun _ => post a) fail) fun e q => P.wp tick q (fun _ => fail e) fail := by
  unfold await
  rw [Protocol.wp_bind, Protocol.wp_tryCatch]
  simp only [Protocol.wp_bind, Protocol.wp_monadThrow, Protocol.wp_pure]

/-- What a flow has asked and been told. -/
abbrev Log := List (Event Op.Ans)

theorem wp_await_history {told : (c : Op) → c.Ans → Prop} {p : Async α} {log : Log}
    {post : α → Log → Prop} {fail : JsError → Log → Prop}
    (h : (historyOf told).wp p log (fun a log => post a (log ++ [⟨.tick, ()⟩]))
      fun e log => fail e (log ++ [⟨.tick, ()⟩])) : (historyOf told).wp (await p) log post fail :=
  (wp_await_iff ..).mpr (Protocol.wp_mono _ h (fun _ _ h => ⟨trivial, fun _ _ => h⟩)
    fun _ _ h => ⟨trivial, fun _ _ => h⟩)

theorem wp_lib_history {told : (c : Op) → c.Ans → Prop} {c : LibCall} {log : Log} {post : c.Result → Log → Prop}
    {fail : JsError → Log → Prop} (hpost : ∀ a, told (.lib c) (.ok a) → post a (log ++ [⟨.lib c, .ok a⟩]))
    (hfail : ∀ e, fail e (log ++ [⟨.lib c, .error e⟩])) : (historyOf told).wp (lib c) log post fail := by
  refine (Protocol.wp_attempt ..).mpr ⟨trivial, fun r hr => ⟨fun a ha => ?_, fun e he => ?_⟩⟩
  · subst ha
    exact hpost a hr
  · subst he
    exact hfail e

theorem getConfig_uses : getConfig.Uses SignerOp :=
  (uses_ask (c := Op.registry .getConfig) trivial).attempt

theorem sleep_uses (ms : Nat) : (sleep ms).Uses SignerOp := uses_ask trivial

theorem ownInputs_uses {σ : Type} {w : WalletRef} {each : σ → Nat → Nat → Buffer → Async (α × σ)}
    (heach : ∀ keys i j pubkey, (each keys i j pubkey).Uses SignerOp) (i : Nat) (inputs : List Input)
    (keys : σ) : (ownInputs w each i inputs keys).Uses SignerOp := by
  induction inputs generalizing i keys with
  | nil => exact uses_pure _
  | cons input inputs ih =>
      unfold ownInputs
      refine uses_bind (lib_uses trivial) fun spentTx => ?_
      split
      · exact ih _ _
      · refine uses_ite (ih _ _) ?_
        split
        · exact uses_throwThe _
        · split
          · exact ih _ _
          · refine uses_bind (lib_uses trivial) fun info => ?_
            split
            · exact ih _ _
            · exact uses_bind (lib_uses trivial) fun pubkeyHex => uses_bind (heach _ _ _ _) fun a =>
                uses_bind (ih _ _) fun as => uses_pure _

theorem callerIndex_uses (tx : Transaction) (w : WalletRef) : (callerIndex tx w).Uses SignerOp := by
  have hcaller : (callerAddress tx).Uses SignerOp :=
    uses_bind (uses_ite (uses_map (lib_uses trivial)) (uses_pure _)) fun address =>
      uses_ite (uses_map (lib_uses trivial)) (uses_pure _)
  refine uses_bind hcaller fun address => ?_
  split
  · exact uses_pure _
  · exact lib_uses trivial

/-! ## Fireblocks -/

theorem pollTxStatus_uses (txId : String) (n : Nat) : (pollTxStatus txId n).Uses SignerOp := by
  induction n with
  | zero => exact uses_throwThe _
  | succ n ih =>
      exact uses_bind (sleep_uses _) fun _ => uses_bind (lib_uses trivial) fun txInfo => uses_ite (uses_pure _) ih

theorem sendRawTransaction_uses (hash : Buffer) (indices : List Nat) :
    (sendRawTransaction hash indices).Uses SignerOp :=
  uses_bind (uses_tryCatch (lib_uses trivial) fun _ => uses_ite (uses_pure _) (uses_throwThe _)) fun _ =>
    pollTxStatus_uses _ _

theorem ncCallerSignature_uses (w : WalletRef) (tx : Transaction) (id : String)
    (table : Js.Map (Option Nat) SignedEntry) (index : Option Nat) :
    (ncCallerSignature w tx id table index).Uses SignerOp := by
  unfold ncCallerSignature
  dsimp only
  split
  · exact uses_pure _
  · split
    · exact uses_throwThe _
    · exact uses_bind (lib_uses trivial) fun pubkeyHex => uses_ite (uses_throwThe _)
        (uses_ite (uses_bind (uses_orThrow _ _) fun signature => uses_map (lib_uses trivial))
          (uses_map (uses_orThrow _ _)))

theorem fireblocksSigner_uses (tx : Transaction) (w : WalletRef) :
    (fireblocksSigner tx w).Uses SignerOp := by
  have hstart : startClient.Uses SignerOp := by
    refine uses_bind getConfig_uses fun config => ?_
    split
    · exact uses_pure _
    · exact uses_bind (lib_uses trivial) fun _ => uses_pure _
  refine uses_bind hstart fun _ => ?_
  refine uses_bind (uses_bind (ownInputs_uses (fun _ _ _ _ => uses_pure _) _ _ _) fun _ => uses_pure _)
    fun signing => ?_
  refine uses_bind (callerIndex_uses tx w) fun index => ?_
  refine uses_bind (uses_await trivial (sendRawTransaction_uses _ _)) fun info => ?_
  split
  · exact uses_throwThe _
  · exact uses_bind (uses_orThrow _ _) fun table => uses_bind (uses_orThrow _ _) fun inputs =>
      uses_bind (ncCallerSignature_uses _ _ _ _ _) fun _ => uses_pure _

/-! ## The HSM -/

theorem delay_uses (ms : Nat) : (await (delay ms)).Uses SignerOp := uses_await trivial (sleep_uses ms)

theorem getAddressKeyName_uses (rootKey : String) (keys : Js.Map Nat String) (index : Nat) :
    (HsmSession.getAddressKeyName rootKey keys index).Uses SignerOp := by
  unfold HsmSession.getAddressKeyName
  split
  · exact uses_pure _
  · exact uses_bind getConfig_uses fun _ =>
      uses_bind (uses_tryCatch (lib_uses trivial) fun _ => uses_bind (delay_uses _) fun _ =>
        uses_ite (uses_pure _) (uses_throwThe _)) fun _ => uses_pure _

theorem getSignature_uses (rootKey : String) (keys : Js.Map Nat String) (hash : Buffer) (index : Nat) :
    (HsmSession.getSignature rootKey keys hash index).Uses SignerOp :=
  uses_bind (uses_await trivial (getAddressKeyName_uses _ _ _)) fun _ =>
    uses_bind (lib_uses trivial) fun _ => uses_pure _

theorem hsmSessionSignTx_uses (rootKey : String) (keys : Js.Map Nat String) (tx : Transaction) (w : WalletRef) :
    (HsmSession.signTx rootKey keys tx w).Uses SignerOp := by
  refine uses_bind (ownInputs_uses (fun _ _ _ _ =>
    uses_bind (uses_await trivial (getSignature_uses _ _ _ _)) fun _ => uses_pure _) _ _ _) fun signed => ?_
  refine uses_bind (callerIndex_uses tx w) fun index => ?_
  split
  · exact uses_pure _
  · exact uses_bind (uses_await trivial (getSignature_uses _ _ _ _)) fun _ =>
      uses_ite (uses_bind (lib_uses trivial) fun _ => uses_bind (lib_uses trivial) fun _ => uses_pure _) (uses_pure _)

theorem lib_local (c : LibCall) : (lib c).Uses LocalOp := (uses_ask (c := Op.lib c) trivial).attempt

theorem isKeyValidXpriv_local (key : String) : (isKeyValidXpriv key).Uses LocalOp := by
  refine uses_bind (uses_tryCatch (uses_map (lib_local _)) fun _ => uses_pure _) fun info => ?_
  split
  · exact uses_pure _
  · exact uses_ite (uses_pure _) (uses_ite (uses_pure _) (uses_pure _))

theorem hsmKeyExists_local (keyname : String) : (hsmKeyExists keyname).Uses LocalOp :=
  uses_tryCatch (uses_bind (lib_local _) fun _ => uses_pure _) fun _ =>
    uses_ite (uses_bind (uses_await trivial (uses_ask trivial)) fun _ => uses_pure _) (uses_throwThe _)

theorem deriveMainKeysFromRoot_local (key : String) : (deriveMainKeysFromRoot key).Uses LocalOp := by
  refine uses_bind (uses_await trivial (hsmKeyExists_local _)) fun acctPathExists => ?_
  refine uses_bind (uses_ask (c := Op.registry .getConfig) trivial).attempt fun config =>
    uses_bind (uses_ite (uses_pure _) ?_) fun _ => ?_
  · exact uses_bind (lib_local _) fun _ => uses_bind (lib_local _) fun _ => lib_local _
  · exact uses_bind (uses_await trivial (hsmKeyExists_local _)) fun _ => uses_ite (uses_pure _) (lib_local _)

theorem hsmConnect_uses : hsmConnect.Uses SigningOp := by
  refine uses_bind (getConfig_uses.mono fun _ => SignerOp.signing) fun config => ?_
  split
  · refine uses_bind (uses_ask ⟨rfl, rfl⟩) fun canStart => uses_ite ?_ (uses_throwThe _)
    exact (uses_ask (c := Op.hsm _) trivial).attempt
  · exact uses_throwThe _

theorem hsmDisconnect_uses : hsmDisconnect.Uses SigningOp :=
  uses_bind (uses_ask (c := Op.hsm _) trivial).attempt fun _ => uses_ask ⟨rfl, rfl⟩

theorem hsmSignTx_uses (key : String) (tx : Transaction) (w : WalletRef) :
    (hsmSignTx key tx w).Uses SigningOp :=
  uses_bind (uses_await trivial (uses_await trivial hsmConnect_uses)) fun _ =>
    uses_bind ((uses_await trivial (hsmSessionSignTx_uses key .empty tx w)).mono fun _ => SignerOp.signing) fun _ =>
      uses_bind (uses_await trivial hsmDisconnect_uses) fun _ => uses_pure _

theorem signTx_uses (w : WalletRef) (tx : Transaction) : (signTx w tx).Uses SigningOp := by
  refine uses_bind (uses_ask trivial) fun method => ?_
  split
  · exact (lib_uses (c := .signTransaction w tx) trivial).mono fun _ => SignerOp.signing
  · exact uses_bind (uses_await trivial (hsmSignTx_uses _ tx w)) fun _ => uses_pure _
  · exact uses_bind ((uses_await trivial (fireblocksSigner_uses tx w)).mono fun _ => SignerOp.signing) fun _ =>
      uses_pure _

end WalletHeadless
