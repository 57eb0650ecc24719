import WalletHeadless.Sends.Invariant
import WalletHeadless.Server.Frame

/-!
# The steps of the automatic sends

One lemma for each question of `sendProtocol`: what it does to the shared state keeps `SendsInv`.
-/

namespace WalletHeadless

open Coop Js Function

variable {s : Server} {g : Nat → SendGhost} {i : Nat}

/-! ## Frames of the parts of the state -/

theorem frame_locks {L : Locks} (hw : L.wallets = s.locks.wallets) (h : s.locks.SameSend L) (j : Nat) :
    Frame s { s with locks := L } j where
  wallets := rfl
  lock _ _ hl := by
    obtain ⟨l, hl, ha⟩ := hl
    refine ⟨l, ?_, h.acquired ha⟩
    rw [Server.lockFor, hw]
    exact hl
  spent _ hu := h.spent hu
  selected _ hx := hx
  drafts := rfl

theorem frame_drafts {d : Option Draft} {j : Nat} (hj : j ≠ i) :
    Frame s { s with drafts := update s.drafts i d } j :=
  ⟨rfl, fun _ _ h => h, fun _ h => h, fun _ h => h, update_of_ne hj _ _⟩

theorem frame_markAll (w : WalletRef) (us : List Utxo) (j : Nat) : Frame s (s.markAll w us) j :=
  ⟨rfl, fun _ _ h => h, fun _ h => h, fun _ hx => List.mem_append_right _ hx, rfl⟩

theorem mem_markAll {w : WalletRef} {us : List Utxo} {x : Utxo} (hx : x ∈ us) :
    (w, x) ∈ (s.markAll w us).selected :=
  List.mem_append_left _ (List.mem_map_of_mem hx)

/-! ## The lock -/

theorem walletLock_wf (hw : s.locks.WF) (walletId : String) : (s.walletLock walletId).2.WF := by
  unfold Server.walletLock
  split
  · exact hw
  · exact hw.get walletId

theorem walletLock_sameSend (walletId : String) : s.locks.SameSend (s.walletLock walletId).2 := by
  unfold Server.walletLock
  split
  · exact .refl _
  · exact Locks.sameSend_get _ _

/-- `getWalletLock` returns the lock of the wallet id, from then on. -/
theorem lockFor_walletLock (walletId : String) :
    Server.lockFor { s with locks := (s.walletLock walletId).2 } walletId =
      some (s.walletLock walletId).1 := by
  unfold Server.lockFor Server.walletLock
  cases hh : s.hsmWalletIds.has walletId with
  | true => simp
  | false =>
      simp only [Bool.false_eq_true, if_false]
      unfold Locks.get
      cases hn : s.locks.wallets.get walletId with
      | some n => simp [hn]
      | none => simp

theorem lockFor_of_walletLock {walletId walletId' : String} {l : LockRef}
    (h : s.lockFor walletId' = some l) :
    Server.lockFor { s with locks := (s.walletLock walletId).2 } walletId' = some l := by
  unfold Server.lockFor Server.walletLock at *
  cases hh : s.hsmWalletIds.has walletId' with
  | true => simpa [hh] using h
  | false =>
      simp only [hh, Bool.false_eq_true, if_false] at h ⊢
      split
      · exact h
      · unfold Locks.get
        cases hn : s.locks.wallets.get walletId with
        | some n => exact h
        | none =>
            have hne : walletId' ≠ walletId := by
              rintro rfl
              rw [hn] at h
              cases h
            simpa [Js.Map.get_set_of_ne _ _ hne] using h

theorem frame_walletLock (walletId : String) (j : Nat) :
    Frame s { s with locks := (s.walletLock walletId).2 } j where
  wallets := rfl
  lock _ _ h := by
    obtain ⟨l, hl, ha⟩ := h
    exact ⟨l, lockFor_of_walletLock hl, (walletLock_sameSend walletId).acquired ha⟩
  spent _ hu := (walletLock_sameSend walletId).spent hu
  selected _ hx := hx
  drafts := rfl

theorem Frame.trans {s₁ s₂ s₃ : Server} {j : Nat} (h : Frame s₁ s₂ j) (h' : Frame s₂ s₃ j) :
    Frame s₁ s₃ j where
  wallets := h'.wallets.trans h.wallets
  lock _ _ hl := h'.lock _ _ (h.lock _ _ hl)
  spent _ hu := h'.spent _ (h.spent _ hu)
  selected _ hx := h'.selected _ (h.selected _ hx)
  drafts := h'.drafts.trans h.drafts

theorem SendsInv.lockSendTx (h : SendsInv s g) (hr : ∀ j, j ≠ i → (g j).Rests)
    (hp : (g i).phase = .out) :
    SendsInv { s with locks := (s.lockSendTx i (g i).walletId).2 }
      (update g i { g i with phase := .locked (s.lockSendTx i (g i).walletId).1 }) := by
  have hi := h.flows i
  rw [FlowOk, hp] at hi
  obtain ⟨hreg, hdr⟩ := hi
  have hw := walletLock_wf h.wf (g i).walletId
  have hfr := frame_walletLock (s := s) (g i).walletId
  have hcl := (walletLock_sameSend (s := s) (g i).walletId).closures
  cases ht : (s.walletLock (g i).walletId).2.holder (s.walletLock (g i).walletId).1 .SEND_TX with
  | some t =>
      rw [Server.lockSendTx, Locks.lockSendTxOn_held hw ht]
      refine h.move hr (fun _ hn => by cases hn) hw (fun j _ => hfr j) (fun x hx => hx) rfl ?_ ?_
      · rw [FlowOk, update_self]
        exact ⟨hreg, hdr⟩
      · show ∀ u c, (s.walletLock (g i).walletId).2.closures[u]? = some c → _
        rw [hcl]
        exact h.live_update fun u hu => absurd hu (not_keeps_out hp u)
  | none =>
      rw [Server.lockSendTx, Locks.lockSendTxOn_free hw ht]
      refine h.move hr (fun _ hn => by cases hn) (hw.acquired ht i) (fun j _ => (hfr j).trans ?_)
        (fun x hx => hx) rfl ?_ fun u c hc hrel => ?_
      · refine ⟨rfl, fun _ _ hl => ?_, fun _ hs => hs.acquired, fun _ hx => hx, rfl⟩
        obtain ⟨l, hl, ha⟩ := hl
        exact ⟨l, hl, ha.acquired ht⟩
      · rw [FlowOk, update_self]
        refine ⟨?_, ?_, ?_, ?_, trivial⟩
        · rw [update_self]
          exact hreg
        · rw [update_self]
          exact ⟨_, lockFor_walletLock _, Locks.acquired_self _ _ _⟩
        · intro d hd
          cases hdr.symm.trans hd
        · intro x hx
          have hx' : x ∈ s.picks i := hx
          rw [Server.picks, hdr] at hx'
          cases hx'
      · rcases Coop.getElem?_snoc hc with hc | ⟨rfl, rfl⟩
        · rw [hcl] at hc
          have hk := h.live u c hc hrel
          rwa [update_of_ne]
          intro ho
          rw [ho] at hk
          exact not_keeps_out hp u hk
        · rw [update_self]
          exact keeps_holding _ _

/-- The frame of the unlock function of the flow that holds a lock. -/
theorem frame_callUnlock (hw : s.locks.WF) {walletId : String} {u : UnlockFn} (h : s.HoldsLock i walletId u)
    {j : Nat} (hj : j ≠ i) : Frame s { s with locks := s.locks.callUnlock u } j where
  wallets := rfl
  lock _ _ hl := by
    obtain ⟨l, -, ha⟩ := h
    obtain ⟨l', hl', ha'⟩ := hl
    refine ⟨l', ?_, ha.callUnlock hw hj ha'⟩
    rw [Server.lockFor, Locks.callUnlock_wallets]
    exact hl'
  spent _ hv := hv.callUnlock
  selected _ hx := hx
  drafts := rfl

theorem SendsInv.live_unlock (h : SendsInv s g) {u : UnlockFn} {st : Stage} {t : Option Transaction}
    (hp : (g i).phase = .holding u st) (v : UnlockFn) (c : UnlockClosure)
    (hc : (s.locks.callUnlock u).closures[v]? = some c) (hr : c.lockReleased = false) :
    (update g i { g i with phase := .released u t } c.owner).phase.Keeps v := by
  obtain ⟨b, hb⟩ : ∃ b, s.locks.closures[v]? = some b := by
    refine ⟨_, List.getElem?_eq_getElem ?_⟩
    have := (List.getElem?_eq_some_iff.mp hc).1
    rwa [Locks.length_callUnlock] at this
  obtain ⟨d, hd, ho, -, -, hrel⟩ := Locks.getElem?_callUnlock (u := u) hb
  rw [hc] at hd
  cases hd
  rw [hr, eq_comm, Bool.or_eq_false_iff, decide_eq_false_iff_not] at hrel
  have hk := h.live v b hb hrel.2
  rw [← ho] at hk
  rwa [update_of_ne]
  -- the only open closure of the flow is the one it has just called
  intro hoi
  rw [hoi] at hk
  exact hrel.1 (keeps_of_holding hp hk)

theorem SendsInv.unlock (h : SendsInv s g) (hr : ∀ j, j ≠ i → (g j).Rests) {u : UnlockFn} {st : Stage}
    (hp : (g i).phase = .holding u st) :
    SendsInv { s with locks := s.locks.callUnlock u }
      (update g i { g i with phase := .released u st.ready }) := by
  have hi := h.flows i
  rw [FlowOk, hp] at hi
  refine h.move hr (fun _ hn => by cases hn) (h.wf.callUnlock u)
    (fun j hj => frame_callUnlock h.wf hi.lock hj) (fun x hx => hx) rfl ?_ (h.live_unlock hp)
  rw [FlowOk, update_self]
  obtain ⟨l, hl, ha⟩ := hi.lock
  refine ⟨hi.registered, ha.spent, fun tx htx => ?_⟩
  have hstage : st = .marked tx := by
    cases st with
    | marked tx' => cases htx; rfl
    | _ => cases htx
  have hok := hi.stage
  rw [hstage] at hok
  have hid := walletId_update g i (.released u st.ready)
  refine ⟨fun x hx => ?_, fun x hx => ?_, fun j v st' hj => ?_⟩
  · rw [update_self]
    exact (hok x hx).2
  · rw [hid]
    exact (hi.unspent x (hok x hx).1).congr rfl hid
  · -- a flow with the same id would hold the same lock
    rw [hid, hid]
    intro he
    have hji : j ≠ i := by
      rintro rfl
      rw [update_self] at hj
      cases hj
    rw [update_of_ne hji] at hj
    have hfj := h.flows j
    rw [FlowOk, hj] at hfj
    obtain ⟨l', hl', ha'⟩ := hfj.lock
    rw [he, hl] at hl'
    cases hl'
    exact hji (ha'.unique h.wf ha).1

theorem callUnlock_released (h : SendsInv s g) {u : UnlockFn} {t : Option Transaction}
    (hp : (g i).phase = .released u t) : s.locks.callUnlock u = s.locks := by
  have hi := h.flows i
  rw [FlowOk, hp] at hi
  exact Locks.callUnlock_spent hi.2.1

/-! ## Building and marking -/

theorem SendsInv.startDraft (h : SendsInv s g) (hr : ∀ j, j ≠ i → (g j).Rests) {u : UnlockFn} {st : Stage}
    (hp : (g i).phase = .holding u st) :
    SendsInv (s.startDraft i (g i).wallet) (update g i { g i with phase := .holding u .picking }) := by
  have hi := h.flows i
  rw [FlowOk, hp] at hi
  refine h.move hr (fun _ hn => by cases hn) h.wf (fun j hj => frame_drafts hj) (fun x hx => hx) rfl ?_
    (h.live_update fun v hv => by rw [keeps_of_holding hp hv]; exact keeps_holding u _)
  rw [FlowOk, update_self]
  refine ⟨?_, ?_, fun d hd => ?_, fun x hx => ?_, trivial⟩
  · rw [update_self]
    exact hi.registered
  · rw [update_self]
    exact hi.lock
  · rw [Server.startDraft_self] at hd
    cases hd
    rw [update_self]
  · rw [Server.picks_startDraft] at hx
    cases hx

theorem SendsInv.endDraft (h : SendsInv s g) (hr : ∀ j, j ≠ i → (g j).Rests) {u : UnlockFn} {st st' : Stage}
    (hp : (g i).phase = .holding u st) (hst : st'.Ok s (g i).wallet i) (hready : st'.ready = none) :
    SendsInv (s.endDraft i) (update g i { g i with phase := .holding u st' }) := by
  have hi := h.flows i
  rw [FlowOk, hp] at hi
  refine h.move hr (fun _ hn => by cases hn) h.wf (fun j hj => frame_drafts hj) (fun x hx => hx) rfl ?_
    (h.live_update fun v hv => by rw [keeps_of_holding hp hv]; exact keeps_holding u _)
  have hid := walletId_update g i (.holding u st')
  rw [FlowOk, update_self]
  refine ⟨?_, ?_, fun d hd => ?_, fun x hx => ?_, ?_⟩
  · rw [update_self]
    exact hi.registered
  · rw [update_self]
    exact hi.lock
  · rw [Server.endDraft_self] at hd
    obtain ⟨d', hd', rfl⟩ := Option.map_eq_some_iff.mp hd
    rw [update_self]
    exact hi.drafted d' hd'
  · rw [Server.picks_endDraft] at hx
    rw [hid]
    exact (hi.unspent x hx).congr rfl hid
  · rw [update_self]
    cases st' with
    | start => trivial
    | picking => trivial
    | prepared tx => intro x hx; rw [Server.picks_endDraft]; exact hst x hx
    | marking tx => intro x hx; rw [Server.picks_endDraft]; exact hst x hx
    | marked tx => cases hready

/-- A step that changes the stage and at most the marks. -/
theorem SendsInv.stage (h : SendsInv s g) (hr : ∀ j, j ≠ i → (g j).Rests) {u : UnlockFn} {st st' : Stage}
    (hp : (g i).phase = .holding u st) (us : List Utxo)
    (hst : st'.Ok (s.markAll (g i).wallet us) (g i).wallet i) :
    SendsInv (s.markAll (g i).wallet us) (update g i { g i with phase := .holding u st' }) := by
  have hi := h.flows i
  rw [FlowOk, hp] at hi
  have hf := frame_markAll (s := s) (g i).wallet us
  refine h.move hr (fun _ hn => by cases hn) h.wf (fun j _ => hf j) (hf i).selected rfl ?_
    (h.live_update fun v hv => by rw [keeps_of_holding hp hv]; exact keeps_holding u _)
  have hid := walletId_update g i (.holding u st')
  rw [FlowOk, update_self]
  refine ⟨?_, ?_, fun d hd => ?_, fun x hx => ?_, ?_⟩
  · rw [update_self]
    exact hi.registered
  · rw [update_self]
    exact hi.lock
  · rw [update_self]
    exact hi.drafted d hd
  · rw [hid]
    exact (hi.unspent x hx).congr rfl hid
  · rw [update_self]
    exact hst

/-! ## Mining -/

theorem SendsInv.mine (h : SendsInv s g) (hr : ∀ j, j ≠ i → (g j).Rests) {u : UnlockFn} {tx : Transaction}
    (hp : (g i).phase = .released u (some tx)) :
    SendsInv { s with mining := ⟨i, (g i).wallet, tx⟩ :: s.mining }
      (update g i { g i with phase := .released u none }) := by
  have hi := h.flows i
  rw [FlowOk, hp] at hi
  obtain ⟨hreg, hspent, hready⟩ := hi
  have hready := hready tx rfl
  have hid := walletId_update g i (.released u none)
  have hwal := wallet_update g i (.released u none)
  refine ⟨h.wf, fun j => ?_, fun m hm => ?_, ?_, h.live_update fun v hv => absurd hv (not_keeps_released hp v)⟩
  · by_cases hj : j = i
    · subst hj
      rw [FlowOk, update_self]
      exact ⟨hreg, hspent, fun tx' htx => by cases htx⟩
    · refine (h.flows j).frame (update_of_ne hj _ _) ⟨rfl, fun _ _ h => h, fun _ h => h, fun _ h => h, rfl⟩
        (fun v st hv x hx m hm he => ?_) fun v tx' hv => ?_
      · rw [hid] at he
        rcases List.mem_cons.mp hm with rfl | hm
        · exact absurd he.symm (hready.alone j v st hv)
        · exact hx m hm he
      · have := hr j hj
        rw [SendGhost.Rests, hv] at this
        exact this.elim
  · rw [hwal]
    rcases List.mem_cons.mp hm with rfl | hm
    · exact ⟨by rw [update_self]; simp, rfl, hready.selected⟩
    · obtain ⟨h₁, h₂, h₃⟩ := h.mined m hm
      refine ⟨?_, h₂, h₃⟩
      by_cases hj : m.flow = i
      · rw [hj, update_self]
        simp
      · rwa [update_of_ne hj]
  · refine List.pairwise_cons.mpr ⟨fun m hm he x hx => ?_, h.disjoint.imp fun {m m'} hd he => hd ?_⟩
    · rw [hid, hid] at he
      exact hready.unspent x hx m hm he.symm
    · rwa [hid, hid] at he

end WalletHeadless
