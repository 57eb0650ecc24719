import WalletHeadless.Locks.WellFormed

/-!
# Who holds which SEND_TX lock

* `Locks.Acquired L i u l`: the acquisition of the closure `u`, taken by flow `i`, holds the lock `l`;
* `Locks.Spent L i u`: the unlock function `u` of flow `i` has run;
* `Locks.SameSend`: the operations on HSM locks leave both alone.
-/

namespace WalletHeadless

namespace Locks

def Acquired (L : Locks) (i : Nat) (u : UnlockFn) (l : LockRef) : Prop :=
  ∃ c, L.closures[u]? = some c ∧ c.owner = i ∧ c.walletLock = l ∧ L.holder l .SEND_TX = some c.timer

def Spent (L : Locks) (i : Nat) (u : UnlockFn) : Prop :=
  ∃ c, L.closures[u]? = some c ∧ c.owner = i ∧ c.lockReleased = true

theorem Acquired.holds {L : Locks} {i : Nat} {u : UnlockFn} {l : LockRef} (h : L.Acquired i u l) :
    L.Holds u := by
  obtain ⟨c, hc, -, rfl, ht⟩ := h
  exact ⟨c, hc, ht⟩

/-- One flow at most holds a lock. -/
theorem Acquired.unique {L : Locks} (hw : L.WF) {i j : Nat} {u v : UnlockFn} {l : LockRef}
    (h : L.Acquired i u l) (h' : L.Acquired j v l) : i = j ∧ u = v := by
  obtain ⟨c, hc, rfl, hl, ht⟩ := h
  obtain ⟨d, hd, rfl, hl', ht'⟩ := h'
  have huv : u = v := hw.closures.inj u v c d hc hd (by rw [ht] at ht'; exact Option.some.inj ht')
  subst huv
  rw [hc] at hd
  cases hd
  exact ⟨rfl, rfl⟩

/-! ## `lockSendTx` -/

theorem getElem?_acquired {L : Locks} {i : Nat} {l : LockRef} {u : UnlockFn} {c : UnlockClosure}
    (hc : L.closures[u]? = some c) : (L.acquired i l).closures[u]? = some c := by
  rw [acquired_closures, List.getElem?_append_left (List.getElem?_eq_some_iff.mp hc).1]
  exact hc

theorem Spent.acquired {L : Locks} {i j : Nat} {l : LockRef} {u : UnlockFn} (h : L.Spent j u) :
    (L.acquired i l).Spent j u := by
  obtain ⟨c, hc, hc'⟩ := h
  exact ⟨c, getElem?_acquired hc, hc'⟩

/-- The lock that was free is taken, and the others stay with their flows. -/
theorem Acquired.acquired {L : Locks} {i j : Nat} {l l' : LockRef} {u : UnlockFn}
    (hfree : L.holder l .SEND_TX = none) (h : L.Acquired j u l') : (L.acquired i l).Acquired j u l' := by
  obtain ⟨c, hc, ho, hl, ht⟩ := h
  refine ⟨c, getElem?_acquired hc, ho, hl, ?_⟩
  rw [holder_acquired, if_neg]
  · exact ht
  · rintro ⟨rfl, -⟩
    rw [hfree] at ht
    cases ht

theorem acquired_self (L : Locks) (i : Nat) (l : LockRef) :
    (L.acquired i l).Acquired i L.closures.length l :=
  ⟨⟨l, false, L.nextTimer, i⟩, by rw [acquired_closures, List.getElem?_concat_length], rfl, rfl,
    by rw [holder_acquired, if_pos ⟨rfl, rfl⟩]⟩

/-! ## The unlock function -/

theorem callUnlock_spent {L : Locks} {i : Nat} {u : UnlockFn} (h : L.Spent i u) : L.callUnlock u = L := by
  obtain ⟨c, hc, -, hr⟩ := h
  exact callUnlock_again hc hr

theorem getElem?_callUnlock {L : Locks} {u v : UnlockFn} {c : UnlockClosure} (hc : L.closures[v]? = some c) :
    ∃ d, (L.callUnlock u).closures[v]? = some d ∧ d.owner = c.owner ∧ d.walletLock = c.walletLock ∧
      d.timer = c.timer ∧ d.lockReleased = (decide (v = u) || c.lockReleased) := by
  cases hu : L.closures[u]? with
  | none =>
      have hvu : v ≠ u := by
        rintro rfl
        rw [hc] at hu
        cases hu
      exact ⟨c, by rw [callUnlock_none hu, hc], rfl, rfl, rfl, by simp [hvu]⟩
  | some b =>
      cases hr : b.lockReleased with
      | true =>
          refine ⟨c, by rw [callUnlock_again hu hr, hc], rfl, rfl, rfl, ?_⟩
          by_cases hvu : v = u
          · subst hvu
            rw [hc] at hu
            cases hu
            simp [hr]
          · simp [hvu]
      | false =>
          rw [callUnlock_first hu hr, unlock_closures]
          unfold setLockReleased
          by_cases hvu : v = u
          · subst hvu
            rw [hc] at hu
            cases hu
            exact ⟨_, List.getElem?_set_self (List.getElem?_eq_some_iff.mp hc).1, rfl, rfl, rfl, by simp⟩
          · exact ⟨c, by rw [List.getElem?_set_ne (Ne.symm hvu), hc], rfl, rfl, rfl, by simp [hvu]⟩

theorem length_callUnlock (L : Locks) (u : UnlockFn) : (L.callUnlock u).closures.length = L.closures.length := by
  unfold callUnlock
  split
  · split
    · rfl
    · simp [setLockReleased]
  · rfl

theorem Spent.callUnlock {L : Locks} {j : Nat} {u v : UnlockFn} (h : L.Spent j v) :
    (L.callUnlock u).Spent j v := by
  obtain ⟨c, hc, ho, hr⟩ := h
  obtain ⟨d, hd, hdo, -, -, hdr⟩ := getElem?_callUnlock hc
  exact ⟨d, hd, by rw [hdo, ho], by rw [hdr, hr]; simp⟩

theorem Acquired.spent {L : Locks} {i : Nat} {u : UnlockFn} {l : LockRef} (h : L.Acquired i u l) :
    (L.callUnlock u).Spent i u := by
  obtain ⟨c, hc, ho, -⟩ := h
  obtain ⟨d, hd, hdo, -, -, hdr⟩ := getElem?_callUnlock hc
  exact ⟨d, hd, by rw [hdo, ho], by rw [hdr]; simp⟩

/-- The unlock function of the flow that holds `l` leaves the other flows their locks. -/
theorem Acquired.callUnlock {L : Locks} (hw : L.WF) {i j : Nat} {u v : UnlockFn} {l l' : LockRef}
    (hi : L.Acquired i u l) (hij : j ≠ i) (h : L.Acquired j v l') : (L.callUnlock u).Acquired j v l' := by
  have hl : l' ≠ l := by
    rintro rfl
    exact hij (h.unique hw hi).1
  obtain ⟨c, hc, ho, hcl, ht⟩ := h
  obtain ⟨d, hd, hdo, hdl, hdt, -⟩ := getElem?_callUnlock (u := u) hc
  refine ⟨d, hd, by rw [hdo, ho], by rw [hdl, hcl], ?_⟩
  have hu := hi.holds
  obtain ⟨b, hb, -, rfl, -⟩ := hi
  rw [callUnlock_first hb (hu.not_released hw hb), holder_unlock, if_neg (fun he => hl he.1), hdt]
  exact ht

/-! ## The other operations -/

/-- The SEND_TX locks and the closures are the same. -/
structure SameSend (L L' : Locks) : Prop where
  closures : L'.closures = L.closures
  holder : ∀ l, L'.holder l .SEND_TX = L.holder l .SEND_TX

theorem SameSend.refl (L : Locks) : L.SameSend L := ⟨rfl, fun _ => rfl⟩

theorem SameSend.acquired {L L' : Locks} (h : L.SameSend L') {i : Nat} {u : UnlockFn} {l : LockRef}
    (ha : L.Acquired i u l) : L'.Acquired i u l := by
  obtain ⟨c, hc, ho, hl, ht⟩ := ha
  exact ⟨c, by rw [h.closures, hc], ho, hl, by rw [h.holder, ht]⟩

theorem SameSend.spent {L L' : Locks} (h : L.SameSend L') {i : Nat} {u : UnlockFn} (hs : L.Spent i u) :
    L'.Spent i u := by
  obtain ⟨c, hc, hc'⟩ := hs
  exact ⟨c, by rw [h.closures, hc], hc'⟩

theorem sameSend_advance (L : Locks) (d : Nat) : L.SameSend (L.advance d) := ⟨rfl, fun _ => rfl⟩

theorem sameSend_get (L : Locks) (walletId : String) : L.SameSend (L.get walletId).2 :=
  ⟨by unfold get; split <;> rfl, fun l => by rw [get_holder]⟩

theorem sameSend_unlock_hsm (L : Locks) (l : LockRef) : L.SameSend (L.unlock l .HSM) := by
  refine ⟨unlock_closures L l .HSM, fun l' => ?_⟩
  rw [holder_unlock, if_neg]
  rintro ⟨-, h⟩
  cases h

theorem sameSend_lock_hsm {L : Locks} (hw : L.WF) (l : LockRef) (d : Nat) :
    L.SameSend (L.lock l .HSM d).2 := by
  cases ht : L.holder l .HSM with
  | some t =>
      rw [lock_held hw ht]
      exact .refl L
  | none =>
      rw [lock_free hw ht]
      refine ⟨rfl, fun l' => ?_⟩
      have := holder_locked L l l' .HSM .SEND_TX d
      rw [if_neg (by rintro ⟨-, h⟩; cases h)] at this
      exact this

theorem lock_wallets {L : Locks} (hw : L.WF) (l : LockRef) (ty : LockType) (d : Nat) :
    (L.lock l ty d).2.wallets = L.wallets := by
  cases ht : L.holder l ty with
  | some t => rw [lock_held hw ht]
  | none => rw [lock_free hw ht]; rfl

theorem callUnlock_wallets (L : Locks) (u : UnlockFn) : (L.callUnlock u).wallets = L.wallets := by
  unfold callUnlock
  split
  · split
    · rfl
    · exact unlock_wallets _ _ _
  · rfl

/-- The timer of an HSM lock fires. -/
theorem sameSend_fire_hsm {L L' : Locks} (hw : L.WF) {t : TimerId} (hf : L.fire t = some L')
    (ht : ∀ x ∈ L.timers, x.id = t → x.type ≠ .SEND_TX) : L.SameSend L' := by
  obtain ⟨x, hx, hid, -, rfl⟩ := fire_eq_some hw hf
  have hty : x.type = .HSM := by
    cases h : x.type with
    | SEND_TX => exact absurd h (ht x hx hid)
    | HSM => rfl
  rw [hty]
  exact sameSend_unlock_hsm L x.lock

end Locks

end WalletHeadless
