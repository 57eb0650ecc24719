import WalletHeadless.Exclusion.Protocol
import WalletHeadless.Sends.Stranded

/-!
# Who is inside

* `Locks.Owns`: the acquisition of a flow holds a lock;
* `FlowLocks`, `ExclusionInv`: a flow that is inside owns a lock, which no other flow owns; for the acquisitions that are
  `firm` it is the lock of its wallet id;
* `frame`, `note`, `enters`, `leaves`: the steps of the state, and those of a flow.
-/

namespace WalletHeadless

open Coop Js Function

/-- The acquisition `a` of flow `i` holds the lock `l`. -/
def Locks.Owns (L : Locks) (i : Nat) (l : LockRef) : Acquisition → Prop
  | .closure u => L.Acquired i u l
  | .lock l' => l' = l ∧ ∃ t, L.holder l .SEND_TX = some t

theorem Locks.Owns.held {L : Locks} {i : Nat} {l : LockRef} {a : Acquisition} (h : L.Owns i l a) :
    ∃ t, L.holder l .SEND_TX = some t := by
  cases a with
  | closure u =>
      obtain ⟨c, -, -, -, ht⟩ := h
      exact ⟨c.timer, ht⟩
  | lock l' => exact h.2

/-- An acquisition holds one lock. -/
theorem Locks.Owns.unique {L : Locks} {i : Nat} {l l' : LockRef} {a : Acquisition} (h : L.Owns i l a)
    (h' : L.Owns i l' a) : l = l' := by
  cases a with
  | closure u =>
      obtain ⟨c, hc, -, rfl, -⟩ := h
      obtain ⟨d, hd, -, rfl, -⟩ := h'
      rw [hc] at hd
      cases hd
      rfl
  | lock m => exact h.1.symm.trans h'.1

theorem Locks.SameSend.owns {L L' : Locks} (h : L.SameSend L') {i : Nat} {l : LockRef} {a : Acquisition}
    (ha : L.Owns i l a) : L'.Owns i l a := by
  cases a with
  | closure u => exact h.acquired ha
  | lock l' =>
      refine ⟨ha.1, ?_⟩
      rw [h.holder]
      exact ha.2

theorem Server.lockFor_locks (s : Server) {L : Locks} (h : L.wallets = s.locks.wallets) (walletId : String) :
    Server.lockFor { s with locks := L } walletId = s.lockFor walletId := by
  unfold Server.lockFor
  rw [h]

/-- The flow has taken `a` and not given it back. -/
def LockGhost.Held (q : LockGhost) (a : Acquisition) : Prop := Taken q.log a ∧ ¬ Given q.log a

/-- The flow is inside by an acquisition that is firm. -/
def LockGhost.Pins (firm : Acquisition → Prop) (q : LockGhost) (walletId : String) : Prop :=
  q.walletId = some walletId ∧ ∃ a, firm a ∧ q.Held a

/-- Flow `i`, which has taken nothing, is not inside. -/
theorem not_pins_of_others {firm : Acquisition → Prop} {g : Nat → LockGhost} {i : Nat} {walletId : String}
    (hout : ∀ a, ¬ Taken (g i).log a) (hothers : ∀ j, j ≠ i → ¬ (g j).Pins firm walletId) (j : Nat) :
    ¬ (g j).Pins firm walletId := by
  by_cases hj : j = i
  · subst hj
    rintro ⟨-, a, -, ha, -⟩
    exact hout a ha
  · exact hothers j hj

/-- The lock of the id must not change under the flow. -/
def LockGhost.Needs (firm : Acquisition → Prop) (q : LockGhost) (walletId : String) : Prop :=
  q.walletId = some walletId ∧ q.looked ≠ none ∨ q.Pins firm walletId

/-- What holds of one flow. -/
structure FlowLocks (firm : Acquisition → Prop) (s : Server) (i : Nat) (q : LockGhost) : Prop where
  once : ∀ a b, Taken q.log a → Taken q.log b → a = b
  looked : ∀ l, q.looked = some l → ∃ walletId, q.walletId = some walletId ∧ s.lockFor walletId = some l
  owns : ∀ a, q.Held a → ∃ l, s.locks.Owns i l a ∧
    (firm a → ∃ walletId, q.walletId = some walletId ∧ s.lockFor walletId = some l)
  spent : ∀ u, Given q.log (.closure u) → s.locks.Spent i u

structure ExclusionInv (firm : Acquisition → Prop) (s : Server) (g : Nat → LockGhost) : Prop where
  wf : s.locks.WF
  flows : ∀ i, FlowLocks firm s i (g i)
  alone : ∀ i j a b l, (g i).Held a → (g j).Held b → s.locks.Owns i l a → s.locks.Owns j l b → i = j

variable {firm : Acquisition → Prop}

/-- What a flow owns after a step that keeps what it owned is what it owned. -/
theorem FlowLocks.owned {s s' : Server} {i : Nat} {q : LockGhost} (h : FlowLocks firm s i q) {a : Acquisition}
    (ha : q.Held a) (howns : ∀ l, s.locks.Owns i l a → s'.locks.Owns i l a) {l : LockRef}
    (hl : s'.locks.Owns i l a) : s.locks.Owns i l a := by
  obtain ⟨m, hm, -⟩ := h.owns a ha
  rwa [hl.unique (howns m hm)]

theorem FlowLocks.frame {s s' : Server} {i : Nat} {q : LockGhost} (h : FlowLocks firm s i q)
    (hlock : ∀ walletId l, q.Needs firm walletId → s.lockFor walletId = some l → s'.lockFor walletId = some l)
    (howns : ∀ a l, q.Held a → s.locks.Owns i l a → s'.locks.Owns i l a)
    (hspent : ∀ u, s.locks.Spent i u → s'.locks.Spent i u) : FlowLocks firm s' i q where
  once := h.once
  looked l hl := by
    obtain ⟨walletId, hid, hfor⟩ := h.looked l hl
    exact ⟨walletId, hid, hlock walletId l (.inl ⟨hid, by rw [hl]; simp⟩) hfor⟩
  owns a ha := by
    obtain ⟨l, ho, hfirm⟩ := h.owns a ha
    refine ⟨l, howns a l ha ho, fun hf => ?_⟩
    obtain ⟨walletId, hid, hfor⟩ := hfirm hf
    exact ⟨walletId, hid, hlock walletId l (.inr ⟨hid, a, hf, ha⟩) hfor⟩
  spent u hu := hspent u (h.spent u hu)

namespace ExclusionInv

variable {s s' : Server} {g : Nat → LockGhost} {i : Nat}

/-- The SEND_TX locks stay, and those that flows need stay under their ids. -/
theorem frame (h : ExclusionInv firm s g) (hw : s'.locks.WF) (hs : s.locks.SameSend s'.locks)
    (hlock : ∀ j walletId l, (g j).Needs firm walletId → s.lockFor walletId = some l → s'.lockFor walletId = some l) :
    ExclusionInv firm s' g where
  wf := hw
  flows j := (h.flows j).frame (hlock j) (fun _ _ _ ho => hs.owns ho) fun _ hu => hs.spent hu
  alone j k a b l ha hb hl hl' :=
    h.alone j k a b l ha hb ((h.flows j).owned ha (fun _ ho => hs.owns ho) hl)
      ((h.flows k).owned hb (fun _ ho => hs.owns ho) hl')

/-- A step of flow `i`. -/
theorem move (h : ExclusionInv firm s g) {q : LockGhost} (hw : s'.locks.WF)
    (hlock : ∀ walletId, s'.lockFor walletId = s.lockFor walletId)
    (howns : ∀ j a l, j ≠ i → (g j).Held a → s.locks.Owns j l a → s'.locks.Owns j l a)
    (hspent : ∀ j u, s.locks.Spent j u → s'.locks.Spent j u) (hi : FlowLocks firm s' i q)
    (halone : ∀ j a b l, j ≠ i → q.Held a → (g j).Held b → s'.locks.Owns i l a → s.locks.Owns j l b → False) :
    ExclusionInv firm s' (update g i q) where
  wf := hw
  flows := (forall_update_iff g fun j q => FlowLocks firm s' j q).mpr ⟨hi, fun j hj => (h.flows j).frame
    (fun walletId l _ hl => by rw [hlock, hl]) (fun a l => howns j a l hj) (hspent j)⟩
  alone j k a b l ha hb hl hl' := by
    by_cases hji : j = i
    · subst hji
      by_contra hjk
      rw [update_self] at ha
      rw [update_of_ne (Ne.symm hjk)] at hb
      exact halone k a b l (Ne.symm hjk) ha hb hl ((h.flows k).owned hb (fun m => howns k b m (Ne.symm hjk) hb) hl')
    · rw [update_of_ne hji] at ha
      have hl := (h.flows j).owned ha (fun m => howns j a m hji ha) hl
      by_cases hki : k = i
      · subst hki
        rw [update_self] at hb
        exact (halone j b a l hji hb ha hl' hl).elim
      · rw [update_of_ne hki] at hb
        exact h.alone j k a b l ha hb hl ((h.flows k).owned hb (fun m => howns k b m hki hb) hl')

/-- A call that neither takes a lock nor gives back what is still held. -/
theorem note (h : ExclusionInv firm s g) {c : Op} {r : c.Ans} (htakes : takes ⟨c, r⟩ = none)
    (hgives : ∀ a, gives ⟨c, r⟩ = some a → Taken (g i).log a → Given (g i).log a)
    (hfinds : ∀ l, finds ⟨c, r⟩ = some l → ∃ walletId, (g i).walletId = some walletId ∧ s.lockFor walletId = some l) :
    ExclusionInv firm s (update g i ((g i).next c r)) := by
  have htaken (a : Acquisition) : Taken ((g i).next c r).log a ↔ Taken (g i).log a := by
    simp [taken_snoc, htakes]
  have hgiven (a : Acquisition) : Given ((g i).next c r).log a ↔ Given (g i).log a := by
    simp only [LockGhost.next_log, given_snoc]
    exact ⟨fun hg => hg.elim id fun hg => hgives a hg.2 hg.1, .inl⟩
  have hheld {a : Acquisition} (ha : ((g i).next c r).Held a) : (g i).Held a :=
    ⟨(htaken a).mp ha.1, fun hg => ha.2 ((hgiven a).mpr hg)⟩
  refine h.move h.wf (fun _ => rfl) (fun _ _ _ _ _ ho => ho) (fun _ _ hu => hu) ?_ ?_
  · refine ⟨fun a b ha hb => ?_, fun l hl => ?_, fun a ha => ?_, fun u hu => ?_⟩
    · exact (h.flows i).once a b ((htaken a).mp ha) ((htaken b).mp hb)
    · rw [LockGhost.next_looked] at hl
      exact hfinds l hl
    · exact (h.flows i).owns a (hheld ha)
    · exact (h.flows i).spent u ((hgiven _).mp hu)
  · intro j a b l hj ha hb hl hl'
    exact hj (h.alone j i b a l hb (hheld ha) hl' hl)

/-- Flow `i` takes the lock of its id, which was free. -/
theorem enters (h : ExclusionInv firm s g) {c : Op} {r : c.Ans} {a : Acquisition}
    (htakes : takes ⟨c, r⟩ = some a) (hgives : gives ⟨c, r⟩ = none) (hfinds : finds ⟨c, r⟩ = none)
    (hout : ∀ b, ¬ Taken (g i).log b) {walletId : String} (hid : (g i).walletId = some walletId) {l : LockRef}
    (hl : s.lockFor walletId = some l) (hfree : s.locks.holder l .SEND_TX = none) {L : Locks} (hw : L.WF)
    (hwallets : L.wallets = s.locks.wallets)
    (howns : ∀ j l' b, s.locks.Owns j l' b → L.Owns j l' b) (hi : L.Owns i l a)
    (hspent : ∀ j u, s.locks.Spent j u → L.Spent j u) :
    ExclusionInv firm { s with locks := L } (update g i ((g i).next c r)) := by
  have htaken (b : Acquisition) : Taken ((g i).next c r).log b ↔ b = a := by
    rw [LockGhost.next_log, taken_snoc, htakes, Option.some.injEq, eq_comm (a := a)]
    exact or_iff_right (hout b)
  have hgiven (b : Acquisition) : ¬ Given ((g i).next c r).log b := by
    rw [LockGhost.next_log, given_snoc, hgives]
    rintro (hg | ⟨-, hg⟩)
    · exact hout b hg.taken
    · cases hg
  have hfor := s.lockFor_locks hwallets
  refine h.move hw hfor (fun j b l' _ _ ho => howns j l' b ho) hspent ?_ ?_
  · refine ⟨fun b b' hb hb' => ?_, fun l' hl' => ?_, fun b hb => ?_, fun u hu => absurd hu (hgiven _)⟩
    · rw [(htaken b).mp hb, (htaken b').mp hb']
    · rw [LockGhost.next_looked, hfinds] at hl'
      cases hl'
    · obtain rfl := (htaken b).mp hb.1
      exact ⟨l, hi, fun _ => ⟨walletId, hid, by rw [hfor, hl]⟩⟩
  · intro j b b' l' hj hb hb' hl' ho
    obtain rfl := (htaken b).mp hb.1
    obtain rfl : l' = l := hl'.unique hi
    -- the other flow would hold the lock that was free
    obtain ⟨t, ht⟩ := ho.held
    rw [hfree] at ht
    cases ht

/-- Flow `i` gives back what it holds. -/
theorem leaves (h : ExclusionInv firm s g) {c : Op} {r : c.Ans} {a : Acquisition}
    (htakes : takes ⟨c, r⟩ = none) (hgives : gives ⟨c, r⟩ = some a) (hfinds : finds ⟨c, r⟩ = none)
    (ha : (g i).Held a) {l : LockRef} (hl : s.locks.Owns i l a) {L : Locks} (hw : L.WF)
    (hwallets : L.wallets = s.locks.wallets)
    (howns : ∀ j l' b, j ≠ i → l' ≠ l → s.locks.Owns j l' b → L.Owns j l' b)
    (hspent : ∀ j u, s.locks.Spent j u → L.Spent j u) (hi : ∀ u, a = .closure u → L.Spent i u) :
    ExclusionInv firm { s with locks := L } (update g i ((g i).next c r)) := by
  have htaken (b : Acquisition) : Taken ((g i).next c r).log b ↔ b = a := by
    rw [LockGhost.next_log, taken_snoc, htakes]
    constructor
    · rintro (hb | hb)
      · exact (h.flows i).once b a hb ha.1
      · cases hb
    · rintro rfl
      exact .inl ha.1
  have hgiven : Given ((g i).next c r).log a := (given_snoc ..).mpr (.inr ⟨ha.1, hgives⟩)
  have hout (b : Acquisition) : ¬ ((g i).next c r).Held b := by
    rintro ⟨hb, hk⟩
    rw [(htaken b).mp hb] at hk
    exact hk hgiven
  refine h.move hw (s.lockFor_locks hwallets) (fun j b l' hj hb ho => howns j l' b hj ?_ ho) hspent ?_ ?_
  · rintro rfl
    exact hj (h.alone j i b a l' hb ha ho hl)
  · refine ⟨fun b b' hb hb' => ?_, fun l' hl' => ?_, fun b hb => absurd hb (hout b), fun u hu => ?_⟩
    · rw [(htaken b).mp hb, (htaken b').mp hb']
    · rw [LockGhost.next_looked, hfinds] at hl'
      cases hl'
    · exact hi u ((htaken _).mp hu.taken).symm
  · intro j b b' l' _ hb
    exact absurd hb (hout b)

end ExclusionInv

/-! ## The calls -/

/-- The id whose lock a call changes. -/
def movesLock : Op → Option String
  | .lock (.delete walletId) => some walletId
  | .registry (.setHsmWallet walletId _) | .registry (.deleteHsmWallet walletId) => some walletId
  | _ => none

theorem WorkOp.movesLock {c : Op} (h : WorkOp c) : movesLock c = none := by
  cases c with
  | lock c => cases c <;> first | rfl | exact h.elim
  | registry c => cases c <;> first | rfl | exact h.elim
  | _ => rfl

theorem Server.lockFor_congr {s s' : Server} {walletId : String} (hw : s'.locks.wallets = s.locks.wallets)
    (hh : s'.hsmWalletIds.get walletId = s.hsmWalletIds.get walletId) : s'.lockFor walletId = s.lockFor walletId := by
  unfold Server.lockFor Js.Map.has
  rw [hw, hh]

theorem other_locks {s s' : Server} (hw : s.locks.WF) {i : Nat} {c : Op} (hc : OtherOp c) {w r : c.Ans}
    (hp : s.performOp i c w = some (r, s')) : s'.locks.WF ∧ s.locks.SameSend s'.locks ∧
      ∀ walletId, movesLock c ≠ some walletId → s'.lockFor walletId = s.lockFor walletId := by
  have hu := Server.performOp_untouched hp
  have hsame (hl : s'.locks = s.locks) : s'.locks.WF ∧ s.locks.SameSend s'.locks := by
    rw [hl]
    exact ⟨hw, .refl _⟩
  cases c with
  | lock c =>
      cases hp
      cases c with
      | lockOn l ty =>
          obtain rfl : ty = .HSM := hc
          exact ⟨hw.lock l .HSM _, Locks.sameSend_lock_hsm hw l _,
            fun walletId _ => s.lockFor_locks (Locks.lock_wallets hw l .HSM _) walletId⟩
      | unlockOn l ty =>
          obtain rfl : ty = .HSM := hc
          exact ⟨hw.unlock l .HSM, Locks.sameSend_unlock_hsm _ l,
            fun walletId _ => s.lockFor_locks (Locks.unlock_wallets _ l .HSM) walletId⟩
      | delete id =>
          refine ⟨hw.delete id, ⟨rfl, fun _ => rfl⟩, fun walletId hne => ?_⟩
          have hget : (s.locks.wallets.delete id).get walletId = s.locks.wallets.get walletId :=
            Js.Map.get_delete_of_ne _ fun he => hne (congrArg some he.symm)
          show (if s.hsmWalletIds.has walletId then _ else ((s.locks.wallets.delete id).get walletId).map _) = _
          rw [hget]
          rfl
      | _ => exact hc.elim
  | registry c =>
      have hl := hu.locks (by simp)
      refine ⟨(hsame hl).1, (hsame hl).2, fun walletId hne => Server.lockFor_congr (by rw [hl]) ?_⟩
      have he : (s.performRegistry i c w).2 = s' := congrArg Prod.snd (Option.some.inj hp)
      rw [← he]
      cases c with
      | setHsmWallet id key => exact Js.Map.get_set_of_ne _ _ fun he => hne (congrArg some he.symm)
      | deleteHsmWallet id => exact Js.Map.get_delete_of_ne _ fun he => hne (congrArg some he.symm)
      | newWallet id walletConfig config => cases w <;> rfl
      | _ => rfl
  | _ =>
      have hl := hu.locks (by simp)
      exact ⟨(hsame hl).1, (hsame hl).2, fun walletId _ =>
        Server.lockFor_congr (by rw [hl]) (by rw [(hu.registry (by simp)).1])⟩

namespace ExclusionInv

variable {s s' : Server} {g : Nat → LockGhost} {i : Nat}

/-- A call that has nothing to do with who is inside, while no flow needs a lock that it changes. -/
theorem other (h : ExclusionInv firm s g) (hr : ∀ j, j ≠ i → (g j).looked = none) (hq : (g i).looked = none) {c : Op}
    (hc : OtherOp c) {w r : c.Ans} (hp : s.performOp i c w = some (r, s'))
    (hmoves : ∀ walletId, movesLock c = some walletId → ∀ j, ¬ (g j).Pins firm walletId) :
    ExclusionInv firm s' (update g i ((g i).next c r)) := by
  obtain ⟨hw, hs, hfor⟩ := other_locks h.wf hc hp
  have hlooked (j : Nat) : (g j).looked = none := by
    by_cases hj : j = i
    · rw [hj, hq]
    · exact hr j hj
  have hframe : ExclusionInv firm s' g := by
    refine h.frame hw hs fun j walletId l hneeds hl => ?_
    rcases hneeds with ⟨-, hlook⟩ | hpins
    · exact absurd (hlooked j) hlook
    · rw [hfor walletId fun hm => hmoves walletId hm j hpins, hl]
  refine hframe.note (hc.takes r) (fun a ha => ?_) fun l hl => ?_
  · rw [hc.gives] at ha
    cases ha
  · rw [hc.finds] at hl
    cases hl

theorem walletLock (h : ExclusionInv firm s g) (walletId : String) :
    ExclusionInv firm { s with locks := (s.walletLock walletId).2 } g :=
  h.frame (walletLock_wf h.wf walletId) (walletLock_sameSend walletId) fun _ _ _ _ hl => lockFor_of_walletLock hl

theorem lockSendTx (h : ExclusionInv firm s g) {walletId : String}
    (hid : (g i).walletId = some walletId) (hout : ∀ a, ¬ Taken (g i).log a) :
    ExclusionInv firm { s with locks := (s.lockSendTx i walletId).2 }
      (update g i ((g i).next (.lock (.lockSendTx walletId)) (s.lockSendTx i walletId).1)) := by
  have h' := h.walletLock walletId
  have hw := walletLock_wf h.wf walletId
  cases ht : (s.walletLock walletId).2.holder (s.walletLock walletId).1 .SEND_TX with
  | some t =>
      rw [Server.lockSendTx, Locks.lockSendTxOn_held hw ht]
      exact h'.note rfl (fun a ha => by cases ha) fun l hl => by cases hl
  | none =>
      rw [Server.lockSendTx, Locks.lockSendTxOn_free hw ht]
      refine h'.enters (a := .closure _) rfl rfl rfl hout hid (lockFor_walletLock walletId) ht (hw.acquired ht i) rfl
        (fun j l' b ho => ?_) (Locks.acquired_self _ _ _) fun j u hu => hu.acquired
      cases b with
      | closure u => exact Locks.Acquired.acquired ht ho
      | lock l'' =>
          obtain ⟨rfl, t, ht'⟩ := ho
          refine ⟨rfl, t, ?_⟩
          rw [Locks.holder_acquired, if_neg]
          · exact ht'
          · rintro ⟨rfl, -⟩
            exact absurd (ht.symm.trans ht') (by simp)

/-- A flow that has looked its lock up takes it, if it is free. -/
theorem lockOn (h : ExclusionInv firm s g) {l : LockRef}
    (hl : (g i).looked = some l) (hout : ∀ a, ¬ Taken (g i).log a) :
    ExclusionInv firm { s with locks := (s.locks.lock l .SEND_TX).2 }
      (update g i ((g i).next (.lock (.lockOn l .SEND_TX)) (s.locks.lock l .SEND_TX).1)) := by
  obtain ⟨walletId, hid, hfor⟩ := (h.flows i).looked l hl
  cases ht : s.locks.holder l .SEND_TX with
  | some t =>
      rw [Locks.lock_held h.wf ht]
      exact h.note rfl (fun a ha => by cases ha) fun l hl => by cases hl
  | none =>
      rw [Locks.lock_free h.wf ht]
      have hholder (l' : LockRef) (hne : l' ≠ l) : (s.locks.locked l .SEND_TX DEFAULT_UNLOCK_TIMEOUT).holder l' .SEND_TX =
          s.locks.holder l' .SEND_TX := by
        rw [Locks.holder_locked, if_neg fun he => hne he.1]
      have hne {j : Nat} {l' : LockRef} {b : Acquisition} (ho : s.locks.Owns j l' b) : l' ≠ l := by
        rintro rfl
        obtain ⟨t, ht'⟩ := ho.held
        rw [ht] at ht'
        cases ht'
      refine h.enters (a := .lock l) rfl rfl rfl hout hid hfor ht (h.wf.locked ht _) rfl (fun j l' b ho => ?_)
        ⟨rfl, ?_⟩ fun j u hu => hu
      · have hl' := hne ho
        cases b with
        | closure u =>
            obtain ⟨d, hd, hd', hd'', ht'⟩ := ho
            exact ⟨d, hd, hd', hd'', (hholder l' hl').trans ht'⟩
        | lock l'' =>
            obtain ⟨he, t, ht'⟩ := ho
            exact ⟨he, t, (hholder l' hl').trans ht'⟩
      · exact ⟨s.locks.nextTimer, (Locks.holder_locked ..).trans (if_pos ⟨rfl, rfl⟩)⟩

theorem callUnlock (h : ExclusionInv firm s g) {u : UnlockFn}
    (htaken : Taken (g i).log (.closure u)) :
    ExclusionInv firm { s with locks := s.locks.callUnlock u } (update g i ((g i).next (.lock (.unlock u)) ())) := by
  by_cases hg : Given (g i).log (.closure u)
  · rw [Locks.callUnlock_spent ((h.flows i).spent u hg)]
    refine h.note rfl (fun a ha _ => ?_) fun l hl => by cases hl
    cases ha
    exact hg
  · obtain ⟨l, ho, -⟩ := (h.flows i).owns _ ⟨htaken, hg⟩
    have ho : s.locks.Acquired i u l := ho
    refine h.leaves rfl rfl rfl ⟨htaken, hg⟩ ho (h.wf.callUnlock u) (Locks.callUnlock_wallets _ u)
      (fun j l' b hj hne ho' => ?_) (fun j v hv => hv.callUnlock) fun v hv => ?_
    · cases b with
      | closure v => exact ho.callUnlock h.wf hj ho'
      | lock l'' =>
          obtain ⟨he, t, ht⟩ := ho'
          obtain ⟨c, hc, -, rfl, htimer⟩ := ho
          have hfirst := Locks.callUnlock_first hc (Locks.Holds.not_released h.wf ⟨c, hc, htimer⟩ hc)
          refine ⟨he, t, ?_⟩
          show (s.locks.callUnlock u).holder l' .SEND_TX = some t
          rw [hfirst, Locks.holder_unlock, if_neg fun he => hne he.1]
          exact ht
    · cases hv
      exact ho.spent

/-- The lock that a flow has looked up again is the one that it took. -/
theorem unlockOn (h : ExclusionInv firm s g) (hfirm : ∀ l, firm (.lock l)) {l l' : LockRef}
    (hl' : (g i).looked = some l') (htaken : Taken (g i).log (.lock l)) (hkept : ¬ Given (g i).log (.lock l)) :
    ExclusionInv firm { s with locks := s.locks.unlock l' .SEND_TX }
      (update g i ((g i).next (.lock (.unlockOn l' .SEND_TX)) ())) := by
  obtain ⟨l'', ho, hlock⟩ := (h.flows i).owns _ ⟨htaken, hkept⟩
  obtain ⟨walletId, hid, hl⟩ := hlock (hfirm l)
  obtain ⟨walletId', hid', hfor⟩ := (h.flows i).looked l' hl'
  rw [hid] at hid'
  cases hid'
  rw [hl] at hfor
  cases hfor
  obtain rfl : l = l' := ho.1
  have hholder (m : LockRef) (hne : m ≠ l) : (s.locks.unlock l .SEND_TX).holder m .SEND_TX = s.locks.holder m .SEND_TX := by
    rw [Locks.holder_unlock, if_neg fun he => hne he.1]
  refine h.leaves rfl rfl rfl ⟨htaken, hkept⟩ ho (h.wf.unlock l .SEND_TX) (Locks.unlock_wallets _ l .SEND_TX)
    (fun j m b hj hne ho' => ?_) (fun j v hv => ?_) fun v hv => by cases hv
  · cases b with
    | closure v =>
        obtain ⟨d, hd, hd', hd'', ht⟩ := ho'
        exact ⟨d, by rw [Locks.unlock_closures]; exact hd, hd', hd'', (hholder m hne).trans ht⟩
    | lock m' =>
        obtain ⟨he, t, ht⟩ := ho'
        exact ⟨he, t, (hholder m hne).trans ht⟩
  · obtain ⟨d, hd, hd'⟩ := hv
    exact ⟨d, by rw [Locks.unlock_closures]; exact hd, hd'⟩

theorem perform (h : ExclusionInv firm s g) (hfirm : ∀ l, firm (.lock l))
    (hr : ∀ j, j ≠ i → (g j).looked = none) {c : Op} (hc : (g i).Allows c)
    {w r : c.Ans} (hp : s.performOp i c w = some (r, s'))
    (hmoves : ∀ walletId, movesLock c = some walletId → ∀ j, j ≠ i → ¬ (g j).Pins firm walletId) :
    ExclusionInv firm s' (update g i ((g i).next c r)) := by
  cases hc with
  | work hq hc =>
      refine h.other hr hq hc.plain.other hp fun walletId hm => ?_
      rw [hc.movesLock] at hm
      cases hm
  | other hq hout hc =>
      exact h.other hr hq hc hp fun walletId hm => not_pins_of_others hout (hmoves walletId hm)
  | take hq hid hout =>
      cases hp
      exact h.lockSendTx hid hout
  | give hq htaken =>
      cases hp
      exact h.callUnlock htaken
  | look hq hid =>
      cases hp
      refine (h.walletLock _).note rfl (fun a ha => by cases ha) fun l hl => ?_
      cases hl
      exact ⟨_, hid, lockFor_walletLock _⟩
  | takeOn hq hout =>
      cases hp
      exact h.lockOn hq hout
  | giveOn hq htaken hkept =>
      cases hp
      exact h.unlockOn hfirm hq htaken hkept

end ExclusionInv

end WalletHeadless
