import WalletHeadless.Hsm.Release
import WalletHeadless.Server.Requests

/-!
# The signing method of an HSM wallet

The method closes its connection only when it has the signatures: there is no `finally`.

* `Honest p`: the part `p` of the method throws exactly when an answer has failed;
* `hsm_closed_iff`: `startHsmWallet` always ends with its connection closed and the method exactly when
  nothing has failed;
* `failedStorage_keeps_hsm`: a signature for an input that cannot be read.
-/

namespace WalletHeadless

open Coop Js
open Prog (uses_ask uses_orThrow)

/-- With the lock, `p` returns while nothing has failed and throws when something has. -/
def Honest {α : Type} (p : Async α) : Prop :=
  ∀ log, HasHsm log ∧ NoneFails log →
    (historyOf HsmTold).wp p log (fun _ log => HasHsm log ∧ NoneFails log) fun _ log => HasHsm log ∧ ¬ NoneFails log

section
variable {α β : Type}

theorem honest_pure (a : α) : Honest (pure a : Async α) := fun _ h => h

theorem honest_bind {p : Async α} {f : α → Async β} (hp : Honest p) (hf : ∀ a, Honest (f a)) :
    Honest (p >>= f) :=
  fun log h => (Protocol.wp_bind ..).mpr (Protocol.wp_mono _ (hp log h) (fun a log h => hf a log h) fun _ _ h => h)

theorem honest_map {p : Async α} {f : α → β} (hp : Honest p) : Honest (f <$> p) :=
  honest_bind hp fun a => honest_pure (f a)

theorem honest_ite {c : Prop} [Decidable c] {p p' : Async α} (hp : Honest p) (hp' : Honest p') :
    Honest (if c then p else p') := by
  split
  · exact hp
  · exact hp'

/-- A failure is not undone. -/
theorem not_noneFails_snoc {log : Log} (h : ¬ NoneFails log) (e : Event Op.Ans) : ¬ NoneFails (log ++ [e]) :=
  fun hn => h (noneFails_snoc.mp hn).1

theorem honest_await {p : Async α} (hp : Honest p) : Honest (await p) := fun log h =>
  wp_await_history (Protocol.wp_mono _ (hp log h)
    (fun _ _ h => ⟨h.1.idle, noneFails_snoc.mpr ⟨h.2, id⟩⟩)
    fun _ _ h => ⟨h.1.idle, not_noneFails_snoc h.2 _⟩)

theorem honest_lib {c : LibCall} (hok : ∀ r, ¬ SignFails ⟨.lib c, .ok r⟩)
    (herr : ∀ e, SignFails ⟨.lib c, .error e⟩) : Honest (lib c) := by
  intro log h
  refine (Protocol.wp_attempt ..).mpr ⟨trivial, fun r _ => ⟨fun a hr => ?_, fun e hr => ?_⟩⟩
  · subst hr
    exact ⟨h.1.idle, noneFails_snoc.mpr ⟨h.2, hok a⟩⟩
  · subst hr
    exact ⟨h.1.idle, fun hn => (noneFails_snoc.mp hn).2 (herr e)⟩

theorem honest_getConfig : Honest getConfig := by
  intro log h
  refine (Protocol.wp_attempt ..).mpr ⟨trivial, fun r _ => ⟨fun a hr => ?_, fun e hr => ?_⟩⟩
  · subst hr
    exact ⟨h.1.idle, noneFails_snoc.mpr ⟨h.2, id⟩⟩
  · subst hr
    exact ⟨h.1.idle, fun hn => (noneFails_snoc.mp hn).2 trivial⟩

/-- The loop over the inputs; it throws on an input that spends no output of its transaction. -/
theorem honest_ownInputs {σ : Type} {w : WalletRef} {each : σ → Nat → Nat → Buffer → Async (α × σ)}
    (heach : ∀ keys i j pubkey, Honest (each keys i j pubkey)) (i : Nat) (inputs : List Input) (keys : σ) :
    Honest (ownInputs w each i inputs keys) := by
  induction inputs generalizing i keys with
  | nil => exact honest_pure _
  | cons input inputs ih =>
      intro log h
      refine (Protocol.wp_bind ..).mpr ((Protocol.wp_attempt ..).mpr ⟨trivial, fun r _ => ⟨fun a hr => ?_, fun e hr => ?_⟩⟩)
      · subst hr
        have hhas : HasHsm (log ++ [⟨.lib (.getSpentTx w input), .ok a⟩]) := h.1.idle
        cases a with
        | none => exact ih _ _ _ ⟨hhas, noneFails_snoc.mpr ⟨h.2, id⟩⟩
        | some spentTx =>
            refine (Protocol.wp_ite ..).mpr ⟨fun hdata => ?_, fun hdata => ?_⟩
            · refine ih _ _ _ ⟨hhas, noneFails_snoc.mpr ⟨h.2, fun hf => ?_⟩⟩
              rw [hf.1] at hdata
              cases hdata
            · split
              next hnone =>
                refine ⟨hhas, fun hn => (noneFails_snoc.mp hn).2 ⟨?_, hnone⟩⟩
                simpa using hdata
              next address hsome =>
                have hclean : HasHsm (log ++ [⟨.lib (.getSpentTx w input), .ok (some spentTx)⟩]) ∧
                    NoneFails (log ++ [⟨.lib (.getSpentTx w input), .ok (some spentTx)⟩]) := by
                  refine ⟨hhas, noneFails_snoc.mpr ⟨h.2, fun hf => ?_⟩⟩
                  rw [hf.2] at hsome
                  cases hsome
                split
                · exact ih _ _ _ hclean
                · refine honest_bind (honest_lib (c := .getAddressInfo _ _) (fun _ => id) fun _ => trivial)
                    (fun info => ?_) _ hclean
                  split
                  · exact ih _ _
                  · exact honest_bind (honest_lib (fun _ => id) fun _ => trivial) fun pubkeyHex =>
                      honest_bind (heach _ _ _ _) fun a => honest_bind (ih _ _) fun as => honest_pure _
      · subst hr
        exact ⟨h.1.idle, fun hn => (noneFails_snoc.mp hn).2 trivial⟩

end

theorem honest_callerIndex (tx : Transaction) (w : WalletRef) : Honest (callerIndex tx w) := by
  have hcaller : Honest (callerAddress tx) :=
    honest_bind (honest_ite (honest_map (honest_lib (fun _ => id) fun _ => trivial)) (honest_pure _)) fun address =>
      honest_ite (honest_map (honest_lib (fun _ => id) fun _ => trivial)) (honest_pure _)
  refine honest_bind hcaller fun address => ?_
  split
  · exact honest_pure _
  · exact honest_lib (fun _ => id) fun _ => trivial

/-- The key of an address may have been derived before. -/
theorem honest_deriveKey (version : DerivationVersion) (index : Nat) (parent child : String) :
    Honest (tryCatch (createBip32ChildKeyDerivation version index false true parent child) fun err => do
      await (delay 500)
      if err.errorCode = some ERR_OBJ_ALREADY_EXISTS then pure () else throw err) := by
  intro log h
  refine (Protocol.wp_tryCatch ..).mpr ((Protocol.wp_attempt ..).mpr
    ⟨trivial, fun r _ => ⟨fun a hr => ?_, fun e hr => ?_⟩⟩)
  · subst hr
    exact ⟨h.1.idle, noneFails_snoc.mpr ⟨h.2, id⟩⟩
  · subst hr
    refine (Protocol.wp_bind ..).mpr (wp_await_history ⟨trivial, fun r _ => ?_⟩)
    refine (Protocol.wp_ite ..).mpr ⟨fun hcode => ⟨h.1.idle.idle.idle, ?_⟩, fun hcode => ⟨h.1.idle.idle.idle, ?_⟩⟩
    · refine noneFails_snoc.mpr ⟨noneFails_snoc.mpr ⟨noneFails_snoc.mpr ⟨h.2, ?_⟩, id⟩, id⟩
      exact fun hf => hf hcode
    · refine not_noneFails_snoc (not_noneFails_snoc (fun hn => ?_) _) _
      exact (noneFails_snoc.mp hn).2 hcode

theorem honest_getAddressKeyName (rootKey : String) (keys : Js.Map Nat String) (index : Nat) :
    Honest (HsmSession.getAddressKeyName rootKey keys index) := by
  unfold HsmSession.getAddressKeyName
  split
  · exact honest_pure _
  · exact honest_bind honest_getConfig fun _ => honest_bind (honest_deriveKey _ _ _ _) fun _ => honest_pure _

theorem honest_getSignature (rootKey : String) (keys : Js.Map Nat String) (hash : Buffer) (index : Nat) :
    Honest (HsmSession.getSignature rootKey keys hash index) :=
  honest_bind (honest_await (honest_getAddressKeyName _ _ _)) fun _ =>
    honest_bind (honest_lib (fun _ => id) fun _ => trivial) fun _ => honest_pure _

theorem honest_signTx (rootKey : String) (keys : Js.Map Nat String) (tx : Transaction) (w : WalletRef) :
    Honest (HsmSession.signTx rootKey keys tx w) := by
  refine honest_bind (honest_ownInputs (fun _ _ _ _ =>
    honest_bind (honest_await (honest_getSignature _ _ _ _)) fun _ => honest_pure _) _ _ _) fun signed => ?_
  refine honest_bind (honest_callerIndex tx w) fun index => ?_
  split
  · exact honest_pure _
  · refine honest_bind (honest_await (honest_getSignature _ _ _ _)) fun _ => honest_ite ?_ (honest_pure _)
    exact honest_bind (honest_lib (fun _ => id) fun _ => trivial) fun _ =>
      honest_bind (honest_lib (fun _ => id) fun _ => trivial) fun _ => honest_pure _

/-- What the signing method leaves behind. -/
def SigningDone (log : Log) : Prop := TookHsm log → (HsmClosed log ↔ NoneFails log)

theorem signingDone_of_fails {log : Log} (h : HasHsm log ∧ ¬ NoneFails log) : SigningDone log :=
  fun _ => iff_of_false (fun hc => h.1.kept hc.1) h.2

theorem hsmSignTx_done (key : String) (tx : Transaction) (w : WalletRef) :
    (historyOf HsmTold).wp (Request.hsmSignTx key tx w).handle [] (fun _ => SigningDone) fun _ => SigningDone := by
  have hnil : ¬ TookHsm [] := by simp [TookHsm]
  have hnone : NoneFails [] := by simp [NoneFails]
  have hclosed {log : Log} (h : HsmClosed log) (hn : NoneFails log) : SigningDone log :=
    fun _ => iff_of_true h hn
  refine (Protocol.wp_bind ..).mpr ((Protocol.wp_bind ..).mpr (wp_await_history (wp_await_history ?_)))
  refine Protocol.wp_mono _ (wp_hsmConnect hnil hnone) (fun _ log h => ?_) fun e log h => ?_
  · have h : HasHsm (log ++ [⟨.tick, ()⟩] ++ [⟨.tick, ()⟩]) ∧ NoneFails (log ++ [⟨.tick, ()⟩] ++ [⟨.tick, ()⟩]) :=
      ⟨h.1.idle.idle, noneFails_snoc.mpr ⟨noneFails_snoc.mpr ⟨h.2, id⟩, id⟩⟩
    refine (Protocol.wp_bind ..).mpr ?_
    refine Protocol.wp_mono _ (honest_await (honest_signTx key .empty tx w) _ h) (fun data log h => ?_)
      fun _ _ h => signingDone_of_fails h
    refine (Protocol.wp_bind ..).mpr (wp_await_history ?_)
    refine Protocol.wp_mono _ (wp_hsmDisconnect _) (fun _ log' he => ?_) fun _ _ h => h.elim
    subst he
    exact hclosed h.1.closed.idle
      (noneFails_snoc.mpr ⟨noneFails_snoc.mpr ⟨noneFails_snoc.mpr ⟨h.2, id⟩, id⟩, id⟩)
  · obtain h | ⟨h, hn, -⟩ := h
    · exact fun ht => absurd ht (not_tookHsm_snoc (not_tookHsm_snoc h (by rintro ⟨⟩)) (by rintro ⟨⟩))
    · exact signingDone_of_fails ⟨h.idle.idle, not_noneFails_snoc (not_noneFails_snoc hn _) _⟩

/-! ## Closed by the flow -/

namespace Request

/-- Nothing has kept the flow from `hsmDisconnect`. -/
def HsmClean (log : Log) : Request → Prop
  | hsmSignTx _ _ _ => NoneFails log
  | _ => True

theorem hsm_done {req : Request} (h : req.OpensHsm) :
    (historyOf HsmTold).wp req.handle []
      (fun _ log => TookHsm log → (HsmClosed log ↔ req.HsmClean log))
      fun _ log => TookHsm log → (HsmClosed log ↔ req.HsmClean log) := by
  cases req with
  | startHsmWallet body =>
      have hdone {log : Log} (hc : ClosesHsm log) (ht : TookHsm log) : HsmClosed log ↔ True :=
        iff_true_intro (hc ht)
      exact Protocol.wp_mono _ (startHsmWallet_closes body) (fun _ _ => hdone) fun _ _ => hdone
  | hsmSignTx key tx w => exact hsmSignTx_done key tx w
  | _ => exact h.elim

end Request

/-- A flow that has taken the HSM lock and has ended has released it and has closed the connection that
it opened, exactly when it is a start or nothing has failed in it. -/
theorem hsm_closed_iff {ok : Service → Step → Prop} {s₀ : Server} {S : Service} (h : Service.Run ok s₀ S)
    {i : Nat} {p : Proc Op.Ans JsError Unit Request} (hp : S.procs[i]? = some p) (hreq : p.req.OpensHsm)
    (hend : p.rest.Ended) (htold : ∀ e ∈ p.log, HsmTold e.1 e.2) (htook : TookHsm p.log) :
    HsmClosed p.log ↔ p.req.HsmClean p.log :=
  history_ended (h.steps hp) (Request.hsm_done hreq) hend htold htook

instance (c : Op) (r : c.Ans) : Decidable (HsmTold c r) :=
  match c, r with
  | .hsm .disconnect, r => inferInstanceAs (Decidable (r = .ok ()))
  | .hsm (.connect ..), .ok _ => isTrue fun _ h => by cases h
  | .hsm (.connect ..), .error e => decidable_of_iff (e.kind ≠ .HsmError) (by simp [HsmTold])
  | .lock _, _ | .registry _, _ | .settings _, _ | .proposals _, _ | .wallet _, _ | .lib _, _ | .sleep _, _
  | .tick, _ | .send _, _ => isTrue trivial

/-- A service whose wallet `0` signs with the HSM. -/
def hsmWallet : Server :=
  { oneWallet (some (.hsm "key")) with
    config := some { network := "mainnet", hsmHost := "host", hsmUsername := "user", hsmPassword := "pass" } }

def signs : Request := .hsmSignTx "key" (spending "tx" 0) 0

/-- A flow goes on, and the input spends an output of the address with index `3`. -/
def ownInput (i : Nat) : Step :=
  .resume i fun _ c => match c with
    | .lib (.getSpentTx _ _) => .ok (some ⟨[some "address"]⟩)
    | .lib (.getAddressInfo _ _) => .ok (some 3)
    | .lib (.getAddressPubkey _ _) => .ok "02"
    | .lib (.sign _ _) => .ok [0x30]
    | c => Op.granted (spending "tx" 0) c

/-- The connection is closed after the signature. -/
theorem signs_ended :
    (Service.exec (fun _ _ => True) (arrives signs (spending "tx" 0) :: List.replicate 13 (ownInput 0))
      hsmWallet).any (fun S => ∃ p ∈ S.procs[0]?, p.req = signs ∧ p.rest.Ended ∧ TookHsm p.log ∧
        (∀ e ∈ p.log, HsmTold e.1 e.2) ∧ .lib (.sign [] "key_HAddr_3") ∈ p.log.map Sigma.fst) = true := by
  decide +kernel

theorem signs_closed_iff :
    ∃ (S : Service) (p : Proc Op.Ans JsError Unit Request), S.procs[0]? = some p ∧ p.req = signs ∧
      .lib (.sign [] "key_HAddr_3") ∈ p.log.map Sigma.fst ∧ (HsmClosed p.log ↔ p.req.HsmClean p.log) := by
  obtain ⟨S, hS, p, hp, hreq, hend, htook, htold, hsign⟩ := Service.run_of_exec signs_ended
  exact ⟨S, p, hp, hreq, hsign, hsm_closed_iff hS hp (by rw [hreq]; trivial) hend htold htook⟩

/-- A flow goes on, and the storage cannot read an input. -/
def unreadable (i : Nat) : Step :=
  .resume i fun _ c => match c with
    | .lib (.getSpentTx _ _) => .error { message := "storage" }
    | c => Op.granted (spending "tx" 0) c

def failedStorage : List Step :=
  arrives signs (spending "tx" 0) :: (List.replicate 3 (goesOn 0 (spending "tx" 0)) ++ List.replicate 2 (unreadable 0))

theorem failedStorage_ended :
    (Service.exec (fun _ _ => True) failedStorage hsmWallet).any (fun S =>
      (∃ p ∈ S.procs[0]?, p.req = signs ∧ p.rest.Ended ∧ TookHsm p.log ∧ (∀ e ∈ p.log, HsmTold e.1 e.2) ∧
        ¬ Follows LocksHsm UnlocksHsm p.log) ∧
      S.state.connections = [0] ∧ S.state.locks.holder .globalLock .HSM = some 0) = true := by
  decide +kernel

/-- The storage fails, the method throws, and its connection stays open under its lock. -/
theorem failedStorage_keeps_hsm :
    ∃ S, Service.Run (fun _ _ => True) hsmWallet S ∧ S.state.connections = [0] ∧
      S.state.locks.holder .globalLock .HSM = some 0 ∧ ∃ p, S.procs[0]? = some p ∧ p.req.OpensHsm ∧
        p.rest.Ended ∧ (∀ e ∈ p.log, HsmTold e.1 e.2) ∧ TookHsm p.log ∧ ¬ HsmClosed p.log := by
  obtain ⟨S, hS, ⟨p, hp, hreq, hend, htook, htold, hnone⟩, hconn, hheld⟩ := Service.run_of_exec failedStorage_ended
  exact ⟨S, hS, hconn, hheld, p, hp, by rw [hreq]; trivial, hend, htold, htook, fun hclosed => hnone hclosed.1⟩

end WalletHeadless
