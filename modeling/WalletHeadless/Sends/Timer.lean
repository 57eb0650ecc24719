import WalletHeadless.Sends.Disjoint

/-!
# A slow signer and the timer of the lock

The SEND_TX lock expires two minutes after it was taken, and a Fireblocks signature may take 600 polls of
one second. A send whose timer fires while it is being signed loses its lock to the next send, which
picks the same utxos.

* `Service.LocksKept`: every send that is preparing still has its lock;
* `sends_in_time`: this and the disjointness hold when each send has ended by the time its timer fires.
-/

namespace WalletHeadless

open Coop Js

/-- The send that `c` belongs to has the lock, has not unlocked and has not ended. -/
def Service.Preparing (S : Service) (u : UnlockFn) (c : UnlockClosure) : Prop :=
  S.state.locks.closures[u]? = some c ∧ c.lockReleased = false ∧ ¬ S.Ended c.owner

instance (S : Service) (u : UnlockFn) (c : UnlockClosure) : Decidable (S.Preparing u c) :=
  inferInstanceAs (Decidable (_ ∧ _ ∧ _))

/-- The lock of a send that is preparing is still its own. -/
def Service.LocksKept (S : Service) : Prop :=
  ∀ u c, S.Preparing u c → S.state.locks.Holds u ∧
    ∀ v d, S.Preparing v d → d.walletLock = c.walletLock → v = u

theorem not_lost_after {q : SendGhost} (h : ∀ u, q.phase ≠ .lost u) (t : List (Event Op.Ans)) (u : UnlockFn) :
    (sendProtocol.after q t).phase ≠ .lost u := by
  refine sendProtocol.after_inv (I := fun q => ∀ u, q.phase ≠ .lost u) (fun q c h v => ?_)
    (fun q c r h v => ?_) h t u
  · show q.phase.call c ≠ .lost v
    unfold SendPhase.call
    split <;> first | exact SendPhase.noConfusion | exact h v
  · show q.phase.next c r ≠ .lost v
    unfold SendPhase.next
    split <;> first | exact SendPhase.noConfusion | exact h v | (unfold SendPhase.locked; split <;> simp)

theorem SendGhost.enter_not_lost (req : Request) (u : UnlockFn) : (SendGhost.enter req).phase ≠ .lost u := by
  unfold SendGhost.enter
  split <;> exact SendPhase.noConfusion

/-- Only a send that has ended is lost. -/
theorem SendsCoherent.ended_of_lost {S : Service} {g : Nat → SendGhost} (hg : SendsCoherent S g) {i : Nat}
    {u : UnlockFn} (hi : (g i).phase = .lost u) : S.Ended i := by
  intro p hp
  have htr := hg.traced i p hp
  cases hrest : p.rest with
  | ret a => trivial
  | throw e => trivial
  | op c k =>
      rw [hrest] at htr
      have hcall : (g i).phase = (sendProtocol.after (SendGhost.enter p.req) p.log).phase.call c := by
        rw [htr]
        rfl
      rw [hi] at hcall
      have hq := not_lost_after (SendGhost.enter_not_lost p.req) p.log
      unfold SendPhase.call at hcall
      split at hcall <;> first | cases hcall | exact absurd hcall.symm (hq u)

theorem SendsInv.locksKept {S : Service} {g : Nat → SendGhost} (hg : SendsCoherent S g)
    (h : SendsInv S.state g) : S.LocksKept := by
  have hholds {u : UnlockFn} {c : UnlockClosure} (hu : S.Preparing u c) : S.state.locks.Holds u := by
    obtain ⟨hc, hr, hend⟩ := hu
    obtain ⟨st, hst⟩ | hlost := h.live u c hc hr
    · have hf := h.flows c.owner
      rw [FlowOk, hst] at hf
      obtain ⟨l, -, ha⟩ := hf.lock
      exact ha.holds
    · exact absurd (hg.ended_of_lost hlost) hend
  exact fun u c hu => ⟨hholds hu, fun v d hv hl => (hholds hv).unique h.wf (hholds hu) hv.1 hu.1 hl⟩

/-- When the timer of each send fires after the send has ended, the lock of a send that is preparing stays
its own, and the transactions that reach `runFromMining` for one wallet id have disjoint inputs. -/
theorem sends_in_time {s₀ : Server} (h₀ : s₀.Idle) {S : Service}
    (h : Service.Run (SendStep fun S t => S.state.locks.SendTimer t → S.Outlived t) s₀ S) :
    S.LocksKept ∧ S.MiningDisjoint := by
  obtain ⟨g, hg, -, hI⟩ := (sends_sound fun S t ht => ht).reach h₀.inv h
  exact ⟨hI.locksKept hg, hI.miningDisjoint hg⟩

/-! ## Runs of a Fireblocks wallet -/

/-- Fireblocks has not signed yet. -/
def pending (i : Nat) (tx : Transaction) : Step :=
  .resume i fun _ c => match c with
    | .lib (.getTxStatusByExternalId txId) => .ok ⟨txId, "SUBMITTED", none⟩
    | c => Op.granted tx c

/-- A send arrives, picks the utxo `0` and submits its transaction. -/
def submits (i : Nat) (tx : Transaction) : List Step :=
  [arrives simpleSend tx, goesOn i tx, .ext (.pick i (utxo 0)), goesOn i tx, goesOn i tx, goesOn i tx]

/-- A second passes and Fireblocks has not signed yet. -/
def polls (i : Nat) (tx : Transaction) : List Step := [.ext (.advance 1000), goesOn i tx, pending i tx]

/-- A second passes, Fireblocks has signed, and the send marks, unlocks and mines. -/
def signed (i : Nat) (tx : Transaction) : List Step :=
  [.ext (.advance 1000), goesOn i tx, goesOn i tx, goesOn i tx, goesOn i tx, goesOn i tx]

/-- A send whose output has no value fails with the lock in its hands. -/
def valueless : Request := .sendTx { walletId := "w", wallet := 0, body := { outputs := [{}] } }

/-- The timer of a send that has failed fires, and the next send has time to be signed. -/
def timely : List Step :=
  [arrives valueless (spending "tx0" 0), goesOn 0 (spending "tx0" 0), .ext (.advance 120000), .ext (.fire 0)] ++
    submits 1 (spending "tx1" 0) ++ polls 1 (spending "tx1" 0) ++ signed 1 (spending "tx1" 0)

theorem timely_mining :
    (Service.exec (SendStep fun S t => S.state.locks.SendTimer t → S.Outlived t) timely
      (oneWallet (some .fireblocks))).any (fun S => S.state.mining.map Mined.flow = [1]) = true := by
  decide +kernel

theorem timely_in_time :
    ∃ S : Service, S.state.mining.map Mined.flow = [1] ∧ S.LocksKept ∧ S.MiningDisjoint := by
  obtain ⟨S, hS, hm⟩ := Service.run_of_exec timely_mining
  exact ⟨S, hm, sends_in_time (oneWallet_idle _) hS⟩

/-- After 120 polls the timer fires, and the next send gets the lock and picks the same utxo. -/
def slowSigner : List Step :=
  submits 0 (spending "tx0" 0) ++ (List.replicate 120 (polls 0 (spending "tx0" 0))).flatten ++
    [.ext (.fire 0)] ++ submits 1 (spending "tx1" 0)

theorem slowSigner_preparing :
    (Service.exec (SendStep fun _ _ => True) slowSigner (oneWallet (some .fireblocks))).any
      (fun S => S.Preparing 0 ⟨.wallet 0, false, 0, 0⟩ ∧ S.Preparing 1 ⟨.wallet 0, false, 1, 1⟩) = true := by
  decide +kernel

theorem slowSigner_mining :
    (Service.exec (SendStep fun _ _ => True)
      (slowSigner ++ signed 0 (spending "tx0" 0) ++ signed 1 (spending "tx1" 0))
      (oneWallet (some .fireblocks))).any (fun S => ¬ S.MiningDisjoint) = true := by
  decide +kernel

/-- Two sends prepare with the same lock, and both mine the same utxo. -/
theorem slowSigner_loses_lock :
    (∃ S, Service.Run (SendStep fun _ _ => True) (oneWallet (some .fireblocks)) S ∧ ¬ S.LocksKept) ∧
      ∃ S, Service.Run (SendStep fun _ _ => True) (oneWallet (some .fireblocks)) S ∧ ¬ S.MiningDisjoint := by
  refine ⟨?_, Service.run_of_exec slowSigner_mining⟩
  obtain ⟨S, hS, h₀, h₁⟩ := Service.run_of_exec slowSigner_preparing
  refine ⟨S, hS, fun hkept => ?_⟩
  exact Nat.one_ne_zero ((hkept 0 _ h₀).2 1 _ h₁ rfl)

end WalletHeadless
