import WalletHeadless.Locks.Lock

/-!
# Well-formed locks

In every state of the locks a `Lock` is locked exactly while it keeps a timer, the timers kept are the
timers armed, and the timer of a closure whose unlock function has run holds no lock.

* `Locks.WF`: the invariant; `WF.lock`, `WF.unlock`, `WF.fire`, `WF.lockSendTxOn`, `WF.callUnlock`,
  `WF.get`, `WF.delete`, `WF.advance`: each operation keeps it;
* `lock_free`, `lock_held`, `holder_lockSendTxOn`, `holder_callUnlock`, `holder_fire`: what each
  operation does to the holders;
* `Locks.Holds`: a closure whose acquisition still holds its lock.
-/

namespace WalletHeadless

open Function

namespace Locks

/-- The timers that locks keep are the timers armed. -/
structure TimersOk (L : Locks) : Prop where
  status : ∀ l ty, (L.heap l).lockStatus ty = (L.holder l ty).isSome
  armed : ∀ x ∈ L.timers, L.holder x.lock x.type = some x.id
  kept : ∀ l ty t, L.holder l ty = some t → ∃ x ∈ L.timers, x.id = t ∧ x.lock = l ∧ x.type = ty
  ids : ∀ x ∈ L.timers, ∀ y ∈ L.timers, x.id = y.id → x = y
  fresh : ∀ x ∈ L.timers, x.id < L.nextTimer

/-- The timer of a closure belongs to it alone, and holds no lock once the closure has unlocked. -/
structure ClosuresOk (L : Locks) : Prop where
  fresh : ∀ (u : UnlockFn) (c : UnlockClosure), L.closures[u]? = some c → c.timer < L.nextTimer
  inj : ∀ (u v : UnlockFn) (c d : UnlockClosure), L.closures[u]? = some c → L.closures[v]? = some d →
    c.timer = d.timer → u = v
  lock : ∀ (u : UnlockFn) (c : UnlockClosure), L.closures[u]? = some c → ∀ l ty,
    L.holder l ty = some c.timer → l = c.walletLock ∧ ty = .SEND_TX
  released : ∀ (u : UnlockFn) (c : UnlockClosure), L.closures[u]? = some c → c.lockReleased = true →
    L.holder c.walletLock .SEND_TX ≠ some c.timer

structure WF (L : Locks) : Prop where
  timers : L.TimersOk
  closures : L.ClosuresOk

theorem wf_init : WF {} := by
  refine ⟨⟨?_, ?_, ?_, ?_, ?_⟩, ⟨?_, ?_, ?_, ?_⟩⟩ <;> simp [holder]

/-! ## `unlock` -/

theorem TimersOk.mem_unlock {L : Locks} (h : L.TimersOk) (l : LockRef) (ty : LockType) (x : Timer) :
    x ∈ (L.unlock l ty).timers ↔ x ∈ L.timers ∧ ¬ (x.lock = l ∧ x.type = ty) := by
  have hh : ((L.setStatus l ty false).heap l).setTimeoutLock ty = L.holder l ty :=
    congrFun (setTimeoutLock_setStatus L l ty false l) ty
  unfold unlock clearTimer
  rw [hh]
  cases ht : L.holder l ty with
  | none =>
      refine ⟨fun hx => ⟨hx, ?_⟩, And.left⟩
      rintro ⟨rfl, rfl⟩
      have := h.armed x hx
      rw [ht] at this
      cases this
  | some t =>
      obtain ⟨y, hy, rfl, rfl, rfl⟩ := h.kept l ty t ht
      have : x ∈ (((L.setStatus y.lock y.type false).clearTimeout y.id).setTimer y.lock y.type none).timers ↔
          x ∈ L.timers ∧ x.id ≠ y.id := by
        simp [clearTimeout, setTimer, setStatus]
      rw [this]
      refine and_congr_right fun hx => not_congr ⟨fun he => ?_, fun he => ?_⟩
      · rw [h.ids x hx y hy he]
        exact ⟨rfl, rfl⟩
      · have hx' := h.armed x hx
        rw [he.1, he.2, ht] at hx'
        exact (Option.some.inj hx').symm

theorem lockStatus_setStatus (L : Locks) (l l' : LockRef) (ty ty' : LockType) (b : Bool) :
    ((L.setStatus l ty b).heap l').lockStatus ty' =
      if l' = l ∧ ty' = ty then b else (L.heap l').lockStatus ty' := by
  unfold setStatus
  by_cases h : l' = l
  · subst h
    by_cases h' : ty' = ty
    · subst h'; simp
    · simp [h']
  · simp [h]

theorem lockStatus_setTimer (L : Locks) (l l' : LockRef) (ty : LockType) (t : Option TimerId) :
    ((L.setTimer l ty t).heap l').lockStatus = (L.heap l').lockStatus := by
  unfold setTimer
  by_cases h : l' = l
  · subst h; simp
  · simp [h]

theorem lockStatus_clearTimer (L : Locks) (l l' : LockRef) (ty : LockType) :
    ((L.clearTimer l ty).heap l').lockStatus = (L.heap l').lockStatus := by
  unfold clearTimer
  split
  · exact lockStatus_setTimer _ _ _ _ _
  · rfl

theorem lockStatus_unlock (L : Locks) (l l' : LockRef) (ty ty' : LockType) :
    ((L.unlock l ty).heap l').lockStatus ty' =
      if l' = l ∧ ty' = ty then false else (L.heap l').lockStatus ty' := by
  rw [unlock, lockStatus_clearTimer, lockStatus_setStatus]

/-- Whatever `lock` answers, the lock is then taken. -/
theorem lockStatus_lock (L : Locks) (l : LockRef) (ty : LockType) (d : Nat) :
    ((L.lock l ty d).2.heap l).lockStatus ty = true := by
  unfold lock
  split
  next h => exact h
  next => rw [setTimeout, lockStatus_setTimer]; simp [lockStatus_clearTimer, lockStatus_setStatus]

theorem TimersOk.unlock {L : Locks} (h : L.TimersOk) (l : LockRef) (ty : LockType) :
    (L.unlock l ty).TimersOk where
  status l' ty' := by
    rw [lockStatus_unlock, holder_unlock]
    split
    · rfl
    · exact h.status l' ty'
  armed x hx := by
    obtain ⟨hx, hne⟩ := (h.mem_unlock l ty x).mp hx
    rw [holder_unlock, if_neg hne]
    exact h.armed x hx
  kept l' ty' t ht := by
    rw [holder_unlock] at ht
    split at ht
    · cases ht
    next hne =>
      obtain ⟨x, hx, rfl, rfl, rfl⟩ := h.kept l' ty' t ht
      exact ⟨x, (h.mem_unlock l ty x).mpr ⟨hx, hne⟩, rfl, rfl, rfl⟩
  ids x hx y hy := h.ids x ((h.mem_unlock l ty x).mp hx).1 y ((h.mem_unlock l ty y).mp hy).1
  fresh x hx := by
    rw [unlock_nextTimer]
    exact h.fresh x ((h.mem_unlock l ty x).mp hx).1

theorem ClosuresOk.unlock {L : Locks} (h : L.ClosuresOk) (l : LockRef) (ty : LockType) :
    (L.unlock l ty).ClosuresOk where
  fresh u c hc := by
    rw [unlock_closures] at hc
    rw [unlock_nextTimer]
    exact h.fresh u c hc
  inj u v c d hc hd := by
    rw [unlock_closures] at hc hd
    exact h.inj u v c d hc hd
  lock u c hc l' ty' ht := by
    rw [unlock_closures] at hc
    rw [holder_unlock] at ht
    split at ht
    · cases ht
    · exact h.lock u c hc l' ty' ht
  released u c hc hr := by
    rw [unlock_closures] at hc
    rw [holder_unlock]
    split
    · simp
    · exact h.released u c hc hr

theorem WF.unlock {L : Locks} (h : L.WF) (l : LockRef) (ty : LockType) : (L.unlock l ty).WF :=
  ⟨h.timers.unlock l ty, h.closures.unlock l ty⟩

/-! ## `lock` -/

theorem lock_held {L : Locks} (h : L.WF) {l : LockRef} {ty : LockType} {t : TimerId}
    (ht : L.holder l ty = some t) (d : Nat) : L.lock l ty d = (false, L) := by
  unfold lock
  rw [if_pos (by rw [h.timers.status, ht]; rfl)]

theorem lock_free {L : Locks} (h : L.WF) {l : LockRef} {ty : LockType} (ht : L.holder l ty = none)
    (d : Nat) : L.lock l ty d = (true, (L.setStatus l ty true).setTimeout l ty d) := by
  have hh : ((L.setStatus l ty true).heap l).setTimeoutLock ty = none := by
    rw [setTimeoutLock_setStatus]
    exact ht
  unfold lock clearTimer
  rw [if_neg (by rw [h.timers.status, ht]; simp), hh]

/-- The state after a successful `lock`. -/
def locked (L : Locks) (l : LockRef) (ty : LockType) (d : Nat) : Locks :=
  (L.setStatus l ty true).setTimeout l ty d

theorem holder_locked (L : Locks) (l l' : LockRef) (ty ty' : LockType) (d : Nat) :
    (L.locked l ty d).holder l' ty' = if l' = l ∧ ty' = ty then some L.nextTimer else L.holder l' ty' := by
  rw [locked, holder_setTimeout, holder_setStatus, setStatus_nextTimer]

theorem lockStatus_locked (L : Locks) (l l' : LockRef) (ty ty' : LockType) (d : Nat) :
    ((L.locked l ty d).heap l').lockStatus ty' =
      if l' = l ∧ ty' = ty then true else (L.heap l').lockStatus ty' := by
  rw [locked, setTimeout, lockStatus_setTimer]
  exact lockStatus_setStatus L l l' ty ty' true

theorem WF.locked {L : Locks} (h : L.WF) {l : LockRef} {ty : LockType} (ht : L.holder l ty = none)
    (d : Nat) : (L.locked l ty d).WF where
  timers := {
    status := fun l' ty' => by
      rw [lockStatus_locked, holder_locked]
      split
      · rfl
      · exact h.timers.status l' ty'
    armed := fun x hx => by
      rw [holder_locked]
      rcases List.mem_cons.mp hx with rfl | hx
      · simp
      · rw [if_neg, h.timers.armed x hx]
        rintro ⟨rfl, rfl⟩
        rw [h.timers.armed x hx] at ht
        cases ht
    kept := fun l' ty' t hk => by
      rw [holder_locked] at hk
      split at hk
      next he =>
        obtain ⟨rfl, rfl⟩ := he
        cases hk
        exact ⟨_, List.mem_cons_self, rfl, rfl, rfl⟩
      next he =>
        obtain ⟨x, hx, hx'⟩ := h.timers.kept l' ty' t hk
        exact ⟨x, List.mem_cons_of_mem _ hx, hx'⟩
    ids := fun x hx y hy he => by
      rcases List.mem_cons.mp hx with rfl | hx <;> rcases List.mem_cons.mp hy with rfl | hy
      · rfl
      · exact absurd he (Nat.ne_of_gt (h.timers.fresh y hy))
      · exact absurd he (Nat.ne_of_lt (h.timers.fresh x hx))
      · exact h.timers.ids x hx y hy he
    fresh := fun x hx => by
      rcases List.mem_cons.mp hx with rfl | hx
      · exact Nat.lt_succ_self _
      · exact Nat.lt_succ_of_lt (h.timers.fresh x hx) }
  closures := {
    fresh := fun u c hc => Nat.lt_succ_of_lt (h.closures.fresh u c hc)
    inj := h.closures.inj
    lock := fun u c hc l' ty' hk => by
      rw [holder_locked] at hk
      split at hk
      · exact absurd (Option.some.inj hk) (Nat.ne_of_gt (h.closures.fresh u c hc))
      · exact h.closures.lock u c hc l' ty' hk
    released := fun u c hc hr hk => by
      rw [holder_locked] at hk
      split at hk
      · exact absurd (Option.some.inj hk) (Nat.ne_of_gt (h.closures.fresh u c hc))
      · exact h.closures.released u c hc hr hk }

theorem WF.lock {L : Locks} (h : L.WF) (l : LockRef) (ty : LockType) (d : Nat) : (L.lock l ty d).2.WF := by
  cases ht : L.holder l ty with
  | none =>
      rw [lock_free h ht]
      exact h.locked ht d
  | some t =>
      rw [lock_held h ht]
      exact h

/-! ## Timers -/

theorem WF.advance {L : Locks} (h : L.WF) (d : Nat) : (L.advance d).WF := ⟨⟨h.timers.status, h.timers.armed,
  h.timers.kept, h.timers.ids, h.timers.fresh⟩, ⟨h.closures.fresh, h.closures.inj, h.closures.lock,
  h.closures.released⟩⟩

theorem fire_timer {L L' : Locks} {t : TimerId} (hf : L.fire t = some L') :
    ∃ x ∈ L.timers, x.id = t ∧ x.deadline ≤ L.now ∧ L' = (L.clearTimeout t).unlock x.lock x.type := by
  unfold fire at hf
  split at hf
  next x hx =>
    obtain ⟨hd, he⟩ := Option.ite_none_right_eq_some.mp hf
    exact ⟨x, List.mem_of_find?_eq_some hx, by simpa using List.find?_some hx, hd, (Option.some.inj he).symm⟩
  next => cases hf

/-- A timer that fires unlocks the acquisition that armed it. -/
theorem fire_eq_some {L L' : Locks} (h : L.WF) {t : TimerId} (hf : L.fire t = some L') :
    ∃ x ∈ L.timers, x.id = t ∧ x.deadline ≤ L.now ∧ L' = L.unlock x.lock x.type := by
  obtain ⟨x, hmem, rfl, hd, rfl⟩ := fire_timer hf
  refine ⟨x, hmem, rfl, hd, ?_⟩
  have hh := h.timers.armed x hmem
  have h₁ : (((L.clearTimeout x.id).setStatus x.lock x.type false).heap x.lock).setTimeoutLock x.type =
      some x.id := by
    rw [setTimeoutLock_setStatus]
    exact hh
  have h₂ : ((L.setStatus x.lock x.type false).heap x.lock).setTimeoutLock x.type = some x.id := by
    rw [setTimeoutLock_setStatus]
    exact hh
  rw [Locks.unlock, Locks.unlock, clearTimer, clearTimer, h₁, h₂]
  simp [clearTimeout, setStatus, setTimer, List.filter_filter]

theorem WF.fire {L L' : Locks} (h : L.WF) {t : TimerId} (hf : L.fire t = some L') : L'.WF := by
  obtain ⟨x, -, -, -, rfl⟩ := fire_eq_some h hf
  exact h.unlock _ _

/-! ## The registry of `GlobalLock` -/

theorem get_holder (L : Locks) (walletId : String) : (L.get walletId).2.holder = L.holder := by
  unfold get; split <;> rfl

theorem WF.get {L : Locks} (h : L.WF) (walletId : String) : (L.get walletId).2.WF := by
  unfold Locks.get
  split
  · exact h
  · exact ⟨⟨h.timers.status, h.timers.armed, h.timers.kept, h.timers.ids, h.timers.fresh⟩,
      ⟨h.closures.fresh, h.closures.inj, h.closures.lock, h.closures.released⟩⟩

theorem WF.delete {L : Locks} (h : L.WF) (walletId : String) : (L.delete walletId).WF :=
  ⟨⟨h.timers.status, h.timers.armed, h.timers.kept, h.timers.ids, h.timers.fresh⟩,
    ⟨h.closures.fresh, h.closures.inj, h.closures.lock, h.closures.released⟩⟩

/-! ## The closures of `lockSendTx` -/

/-- The state after a successful `lockSendTx` of program `i`. -/
def acquired (L : Locks) (i : Nat) (l : LockRef) : Locks :=
  { L.locked l .SEND_TX DEFAULT_UNLOCK_TIMEOUT with
    closures := L.closures ++ [⟨l, false, L.nextTimer, i⟩] }

theorem acquired_closures (L : Locks) (i : Nat) (l : LockRef) :
    (L.acquired i l).closures = L.closures ++ [⟨l, false, L.nextTimer, i⟩] := rfl

theorem holder_acquired (L : Locks) (i : Nat) (l l' : LockRef) (ty : LockType) :
    (L.acquired i l).holder l' ty = if l' = l ∧ ty = .SEND_TX then some L.nextTimer else L.holder l' ty :=
  holder_locked L l l' .SEND_TX ty DEFAULT_UNLOCK_TIMEOUT

/-- What `lockSendTx` does when the lock is free. -/
theorem lockSendTxOn_free {L : Locks} (h : L.WF) {l : LockRef} (ht : L.holder l .SEND_TX = none) (i : Nat) :
    L.lockSendTxOn i l = (some L.closures.length, L.acquired i l) := by
  unfold lockSendTxOn
  rw [lock_free h ht]
  rfl

theorem lockSendTxOn_held {L : Locks} (h : L.WF) {l : LockRef} {t : TimerId}
    (ht : L.holder l .SEND_TX = some t) (i : Nat) : L.lockSendTxOn i l = (none, L) := by
  unfold lockSendTxOn
  rw [lock_held h ht]

theorem WF.acquired {L : Locks} (h : L.WF) {l : LockRef} (ht : L.holder l .SEND_TX = none) (i : Nat) :
    (L.acquired i l).WF := by
  have hw := h.locked ht DEFAULT_UNLOCK_TIMEOUT
  refine ⟨⟨hw.timers.status, hw.timers.armed, hw.timers.kept, hw.timers.ids, hw.timers.fresh⟩,
    ⟨fun u c hc => ?_, fun u v c d hc hd he => ?_, fun u c hc l' ty' hk => ?_, fun u c hc hr => ?_⟩⟩
  · rcases Coop.getElem?_snoc hc with hc | ⟨-, rfl⟩
    · exact hw.closures.fresh u c hc
    · exact Nat.lt_succ_self _
  · rcases Coop.getElem?_snoc hc with hc | ⟨rfl, rfl⟩ <;> rcases Coop.getElem?_snoc hd with hd | ⟨rfl, rfl⟩
    · exact h.closures.inj u v c d hc hd he
    · exact absurd he (Nat.ne_of_lt (h.closures.fresh u c hc))
    · exact absurd he (Nat.ne_of_gt (h.closures.fresh v d hd))
    · rfl
  · rcases Coop.getElem?_snoc hc with hc | ⟨-, rfl⟩
    · exact hw.closures.lock u c hc l' ty' hk
    · rw [holder_acquired] at hk
      split at hk
      next he => exact he
      next he =>
        obtain ⟨x, hx, hid, -, -⟩ := h.timers.kept l' ty' _ hk
        exact absurd hid (Nat.ne_of_lt (h.timers.fresh x hx))
  · rcases Coop.getElem?_snoc hc with hc | ⟨-, rfl⟩
    · exact hw.closures.released u c hc hr
    · cases hr

theorem WF.lockSendTxOn {L : Locks} (h : L.WF) (i : Nat) (l : LockRef) : (L.lockSendTxOn i l).2.WF := by
  cases ht : L.holder l .SEND_TX with
  | some t =>
      rw [lockSendTxOn_held h ht]
      exact h
  | none =>
      rw [lockSendTxOn_free h ht]
      exact h.acquired ht i

/-- What a closure still says after the call of the unlock function `u`. -/
theorem closure_of_set {L : Locks} {u v : UnlockFn} {c d : UnlockClosure} (hc : L.closures[u]? = some c)
    (hd : (L.setLockReleased u c).closures[v]? = some d) :
    ∃ d', L.closures[v]? = some d' ∧ d.timer = d'.timer ∧ d.walletLock = d'.walletLock ∧
      d.owner = d'.owner ∧ d.lockReleased = (decide (v = u) || d'.lockReleased) := by
  rcases Coop.getElem?_set_cases hd with ⟨rfl, rfl⟩ | ⟨hne, hd⟩
  · exact ⟨c, hc, rfl, rfl, rfl, by simp⟩
  · exact ⟨d, hd, rfl, rfl, rfl, by simp [Ne.symm hne]⟩

/-- The first call of an unlock function. -/
theorem callUnlock_first {L : Locks} {u : UnlockFn} {c : UnlockClosure} (hc : L.closures[u]? = some c)
    (hr : c.lockReleased = false) :
    L.callUnlock u = (L.setLockReleased u c).unlock c.walletLock .SEND_TX := by
  unfold callUnlock
  rw [hc]
  simp [hr]

/-- Every later call does nothing. -/
theorem callUnlock_again {L : Locks} {u : UnlockFn} {c : UnlockClosure} (hc : L.closures[u]? = some c)
    (hr : c.lockReleased = true) : L.callUnlock u = L := by
  unfold callUnlock
  rw [hc]
  simp [hr]

theorem callUnlock_none {L : Locks} {u : UnlockFn} (hc : L.closures[u]? = none) : L.callUnlock u = L := by
  unfold callUnlock
  rw [hc]

theorem WF.callUnlock {L : Locks} (h : L.WF) (u : UnlockFn) : (L.callUnlock u).WF := by
  cases hc : L.closures[u]? with
  | none => rwa [callUnlock_none hc]
  | some c =>
      cases hr : c.lockReleased with
      | true => rwa [callUnlock_again hc hr]
      | false =>
          rw [callUnlock_first hc hr]
          have ht : (L.setLockReleased u c).TimersOk :=
            ⟨h.timers.status, h.timers.armed, h.timers.kept, h.timers.ids, h.timers.fresh⟩
          refine ⟨ht.unlock _ _, ?_⟩
          refine ⟨fun v d hd => ?_, fun v v' d d' hd hd' he => ?_, fun v d hd l ty hk => ?_, fun v d hd hr' => ?_⟩
          · rw [unlock_closures] at hd
            obtain ⟨d₀, hd₀, ht, -⟩ := closure_of_set hc hd
            rw [unlock_nextTimer, ht]
            exact h.closures.fresh v d₀ hd₀
          · rw [unlock_closures] at hd hd'
            obtain ⟨d₀, hd₀, ht, -⟩ := closure_of_set hc hd
            obtain ⟨d₁, hd₁, ht', -⟩ := closure_of_set hc hd'
            exact h.closures.inj v v' d₀ d₁ hd₀ hd₁ (by rw [← ht, he, ht'])
          · rw [unlock_closures] at hd
            obtain ⟨d₀, hd₀, ht, hl, -⟩ := closure_of_set hc hd
            rw [holder_unlock] at hk
            split at hk
            · cases hk
            · rw [hl]
              exact h.closures.lock v d₀ hd₀ l ty (by rw [← ht]; exact hk)
          · rw [unlock_closures] at hd
            obtain ⟨d₀, hd₀, ht, hl, -, hr₀⟩ := closure_of_set hc hd
            rw [holder_unlock, ht, hl]
            split
            · simp
            next hne =>
              -- the closure just called is on the lock that was freed, so this is another one
              have hv : v ≠ u := by
                rintro rfl
                rw [hc] at hd₀
                cases hd₀
                exact hne ⟨rfl, rfl⟩
              have hr₁ : d₀.lockReleased = true := by simpa [hv, hr'] using hr₀.symm
              exact h.closures.released v d₀ hd₀ hr₁

/-! ## Holders -/

/-- The acquisition of closure `u` still holds its lock. -/
def Holds (L : Locks) (u : UnlockFn) : Prop :=
  ∃ c, L.closures[u]? = some c ∧ L.holder c.walletLock .SEND_TX = some c.timer

theorem Holds.not_released {L : Locks} (h : L.WF) {u : UnlockFn} {c : UnlockClosure} (hu : L.Holds u)
    (hc : L.closures[u]? = some c) : c.lockReleased = false := by
  obtain ⟨c', hc', ht⟩ := hu
  rw [hc] at hc'
  cases hc'
  by_contra hr
  exact h.closures.released u c hc (by simpa using hr) ht

/-- One closure at most holds a lock. -/
theorem Holds.unique {L : Locks} (h : L.WF) {u v : UnlockFn} {c d : UnlockClosure} (hu : L.Holds u)
    (hv : L.Holds v) (hc : L.closures[u]? = some c) (hd : L.closures[v]? = some d)
    (hl : c.walletLock = d.walletLock) : u = v := by
  obtain ⟨c', hc', ht⟩ := hu
  obtain ⟨d', hd', ht'⟩ := hv
  rw [hc] at hc'
  rw [hd] at hd'
  cases hc'
  cases hd'
  rw [hl, ht'] at ht
  exact h.closures.inj u v c d hc hd (Option.some.inj ht).symm

end Locks

end WalletHeadless
