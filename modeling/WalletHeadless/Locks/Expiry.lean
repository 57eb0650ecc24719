import WalletHeadless.Locks.WellFormed

/-!
# Unlock functions of expired acquisitions

Sequences of `lockSendTx`, of calls of the unlock functions it returned and of timer firings, with the
set of the timers that have fired. The flag `lockReleased` stops a second call of one unlock function,
but nothing tells an unlock function that its acquisition has expired.

* `LockRun.step`, `LockRun.exec`: one event, a sequence of events;
* `Along P es R`: every step that the events `es` take from `R` meets `P`;
* `OwnRelease`, `OneHolder`: what unlock functions should do, and who should hold a lock;
* `InTime`: no expired acquisition unlocks while the lock is held;
* `LockRun.Inv`: an acquisition that has neither unlocked nor expired holds its lock.
-/

namespace WalletHeadless

open Locks

/-- What happens to the locks: `lockSendTx` once `getWalletLock` has returned the `Lock`, a call of an
unlock function, a timer, the passing of time. -/
inductive LockEvent
  | lockSendTx (owner : Nat) (walletLock : LockRef)
  | unlock (u : UnlockFn)
  | fire (t : TimerId)
  | advance (d : Nat)
deriving DecidableEq

/-- The locks and the timers that have fired. -/
structure LockRun where
  locks : Locks := {}
  fired : List TimerId := []

namespace LockRun

def step : LockEvent → LockRun → Option LockRun
  | .lockSendTx i l, R => some { R with locks := (R.locks.lockSendTxOn i l).2 }
  | .unlock u, R => some { R with locks := R.locks.callUnlock u }
  | .fire t, R => (R.locks.fire t).map fun L => ⟨L, t :: R.fired⟩
  | .advance d, R => some { R with locks := R.locks.advance d }

def exec : List LockEvent → LockRun → Option LockRun
  | [], R => some R
  | e :: es, R => (R.step e).bind (exec es)

/-- Every step that the events take meets `P`. -/
def Along (P : LockRun → LockEvent → LockRun → Prop) : List LockEvent → LockRun → Prop
  | [], _ => True
  | e :: es, R => ∀ R', R.step e = some R' → P R e R' ∧ Along P es R'

/-- An acquisition of `l` that has neither unlocked nor expired. -/
def UnexpiredHolder (R : LockRun) (l : LockRef) (u : UnlockFn) : Prop :=
  ∃ c, R.locks.closures[u]? = some c ∧ c.walletLock = l ∧ c.lockReleased = false ∧ c.timer ∉ R.fired

def OneHolder (R : LockRun) : Prop :=
  ∀ l u v, R.UnexpiredHolder l u → R.UnexpiredHolder l v → u = v

/-- An unlock function leaves every other acquisition its lock and its timer. -/
def OwnRelease (R : LockRun) (e : LockEvent) (R' : LockRun) : Prop :=
  ∀ u c, e = .unlock u → R.locks.closures[u]? = some c →
    (∀ l ty t, t ≠ c.timer → R.locks.holder l ty = some t → R'.locks.holder l ty = some t) ∧
      ∀ x ∈ R.locks.timers, x.id ≠ c.timer → x ∈ R'.locks.timers

/-- An unlock function whose acquisition has expired is first called while its lock is free. -/
def InTime (R : LockRun) (e : LockEvent) (_ : LockRun) : Prop :=
  ∀ u c, e = .unlock u → R.locks.closures[u]? = some c → c.lockReleased = false → c.timer ∈ R.fired →
    (R.locks.heap c.walletLock).lockStatus .SEND_TX = false

/-! ## The invariant -/

structure Inv (R : LockRun) : Prop where
  wf : R.locks.WF
  fired_lt : ∀ t ∈ R.fired, t < R.locks.nextTimer
  fired_gone : ∀ t ∈ R.fired, ∀ l ty, R.locks.holder l ty ≠ some t
  holds : ∀ l u, R.UnexpiredHolder l u → R.locks.Holds u

theorem inv_init : Inv {} := by
  refine ⟨wf_init, by simp, by simp, ?_⟩
  rintro l u ⟨c, hc, -⟩
  simp at hc

theorem Inv.oneHolder {R : LockRun} (h : R.Inv) : R.OneHolder := by
  intro l u v hu hv
  have hu' := h.holds l u hu
  have hv' := h.holds l v hv
  obtain ⟨c, hc, hcl, -⟩ := hu
  obtain ⟨d, hd, hdl, -⟩ := hv
  exact hu'.unique h.wf hv' hc hd (by rw [hcl, hdl])

theorem Inv.advance {R : LockRun} (h : R.Inv) (d : Nat) : Inv { R with locks := R.locks.advance d } :=
  ⟨h.wf.advance d, h.fired_lt, h.fired_gone, h.holds⟩

theorem Inv.lockSendTx {R : LockRun} (h : R.Inv) (i : Nat) (l : LockRef) :
    Inv { R with locks := (R.locks.lockSendTxOn i l).2 } := by
  cases ht : R.locks.holder l .SEND_TX with
  | some t =>
      rw [lockSendTxOn_held h.wf ht]
      exact h
  | none =>
      rw [lockSendTxOn_free h.wf ht]
      refine ⟨h.wf.acquired ht i, fun t hf => Nat.lt_succ_of_lt (h.fired_lt t hf), fun t hf l' ty hk => ?_, ?_⟩
      · rw [holder_acquired] at hk
        split at hk
        · exact absurd (Option.some.inj hk) (Nat.ne_of_gt (h.fired_lt t hf))
        · exact h.fired_gone t hf l' ty hk
      · rintro l' u ⟨c, hc, hl, hr, hf⟩
        refine ⟨c, hc, ?_⟩
        rw [holder_acquired]
        rcases Coop.getElem?_snoc hc with hc | ⟨rfl, rfl⟩
        · obtain ⟨c', hc', hh⟩ := h.holds l' u ⟨c, hc, hl, hr, hf⟩
          rw [hc] at hc'
          cases hc'
          rw [if_neg]
          · exact hh
          · rintro ⟨he, -⟩
            rw [he, ht] at hh
            cases hh
        · simp

theorem Inv.fire {R : LockRun} (h : R.Inv) {t : TimerId} {L : Locks} (hf : R.locks.fire t = some L) :
    Inv ⟨L, t :: R.fired⟩ := by
  obtain ⟨x, hx, rfl, -, rfl⟩ := fire_eq_some h.wf hf
  have hx' := h.wf.timers.armed x hx
  refine ⟨h.wf.unlock _ _, fun t ht => ?_, fun t ht l ty hk => ?_, ?_⟩
  · show t < (R.locks.unlock x.lock x.type).nextTimer
    rw [unlock_nextTimer]
    rcases List.mem_cons.mp ht with rfl | ht
    · exact h.wf.timers.fresh x hx
    · exact h.fired_lt t ht
  · rw [holder_unlock] at hk
    split at hk
    · cases hk
    next hne =>
      rcases List.mem_cons.mp ht with rfl | ht
      · obtain ⟨y, hy, hid, hl, hty⟩ := h.wf.timers.kept l ty _ hk
        rw [h.wf.timers.ids y hy x hx hid] at hl hty
        exact hne ⟨hl.symm, hty.symm⟩
      · exact h.fired_gone t ht l ty hk
  · rintro l u ⟨c, hc, hl, hr, hne⟩
    change (R.locks.unlock x.lock x.type).closures[u]? = some c at hc
    rw [unlock_closures] at hc
    simp only [List.mem_cons, not_or] at hne
    obtain ⟨c', hc', hh⟩ := h.holds l u ⟨c, hc, hl, hr, hne.2⟩
    rw [hc] at hc'
    cases hc'
    refine ⟨c, by rw [unlock_closures]; exact hc, ?_⟩
    rw [holder_unlock, if_neg]
    · exact hh
    · rintro ⟨he, hty⟩
      rw [he, hty, hx'] at hh
      exact hne.1 (Option.some.inj hh).symm

/-- In time, an unlock function called for the first time finds its own acquisition or a free lock. -/
theorem Inv.own_or_free {R R' : LockRun} (h : R.Inv) {u : UnlockFn} {c : UnlockClosure}
    (hc : R.locks.closures[u]? = some c) (hr : c.lockReleased = false) (hin : InTime R (.unlock u) R')
    {t : TimerId} (ht : R.locks.holder c.walletLock .SEND_TX = some t) : t = c.timer := by
  by_cases hf : c.timer ∈ R.fired
  · have hs := hin u c rfl hc hr hf
    rw [h.wf.timers.status, ht] at hs
    cases hs
  · obtain ⟨c', hc', hh⟩ := h.holds c.walletLock u ⟨c, hc, rfl, hr, hf⟩
    rw [hc] at hc'
    cases hc'
    rw [ht] at hh
    exact Option.some.inj hh

theorem Inv.unlock {R R' : LockRun} (h : R.Inv) {u : UnlockFn} (hin : InTime R (.unlock u) R') :
    Inv { R with locks := R.locks.callUnlock u } := by
  cases hc : R.locks.closures[u]? with
  | none =>
      rw [callUnlock_none hc]
      exact h
  | some c =>
      cases hr : c.lockReleased with
      | true =>
          rw [callUnlock_again hc hr]
          exact h
      | false =>
          have hw := h.wf.callUnlock u
          rw [callUnlock_first hc hr] at hw ⊢
          refine ⟨hw, fun t hf => ?_, fun t hf l ty hk => ?_, ?_⟩
          · show t < ((R.locks.setLockReleased u c).unlock c.walletLock .SEND_TX).nextTimer
            rw [unlock_nextTimer]
            exact h.fired_lt t hf
          · rw [holder_unlock] at hk
            split at hk
            · cases hk
            · exact h.fired_gone t hf l ty hk
          · rintro l v ⟨d, hd, hl, hrd, hf⟩
            have hd' := hd
            change ((R.locks.setLockReleased u c).unlock c.walletLock .SEND_TX).closures[v]? = some d at hd'
            rw [unlock_closures] at hd'
            obtain ⟨d₀, hd₀, ht, hl₀, -, hr₀⟩ := closure_of_set hc hd'
            rw [hrd, eq_comm, Bool.or_eq_false_iff, decide_eq_false_iff_not] at hr₀
            refine ⟨d, hd, ?_⟩
            obtain ⟨d₁, hd₁, hh⟩ := h.holds l v ⟨d₀, hd₀, by rw [← hl₀, hl], hr₀.2, by rwa [← ht]⟩
            rw [hd₀] at hd₁
            cases hd₁
            rw [holder_unlock, hl₀, ht, if_neg]
            · exact hh
            · rintro ⟨he, -⟩
              -- two closures with one timer would be one
              rw [he] at hh
              exact hr₀.1 (h.wf.closures.inj v u d₀ c hd₀ hc (h.own_or_free hc hr hin hh))

/-- What one step keeps. -/
theorem Inv.step {R R' : LockRun} {e : LockEvent} (h : R.Inv) (hs : R.step e = some R')
    (hin : InTime R e R') : R'.Inv := by
  cases e with
  | lockSendTx i l =>
      cases hs
      exact h.lockSendTx i l
  | unlock u =>
      cases hs
      exact h.unlock hin
  | fire t =>
      obtain ⟨L, hL, rfl⟩ := Option.map_eq_some_iff.mp hs
      exact h.fire hL
  | advance d =>
      cases hs
      exact h.advance d

theorem Inv.ownRelease {R R' : LockRun} {e : LockEvent} (h : R.Inv) (hs : R.step e = some R')
    (hin : InTime R e R') : OwnRelease R e R' := by
  rintro u c rfl hc
  cases hs
  cases hr : c.lockReleased with
  | true =>
      rw [callUnlock_again hc hr]
      exact ⟨fun l ty t _ hk => hk, fun x hx _ => hx⟩
  | false =>
      rw [callUnlock_first hc hr]
      refine ⟨fun l ty t hne hk => ?_, fun x hx hne => ?_⟩
      · rw [holder_unlock, if_neg]
        · exact hk
        · rintro ⟨rfl, rfl⟩
          exact hne (h.own_or_free hc hr hin hk)
      · have hw : (R.locks.setLockReleased u c).TimersOk :=
          ⟨h.wf.timers.status, h.wf.timers.armed, h.wf.timers.kept, h.wf.timers.ids, h.wf.timers.fresh⟩
        refine (hw.mem_unlock _ _ _).mpr ⟨hx, ?_⟩
        rintro ⟨hl, hty⟩
        have hk := h.wf.timers.armed x hx
        rw [hl, hty] at hk
        exact hne (h.own_or_free hc hr hin hk)

/-- An unlock function that is not in time frees the lock of another acquisition. -/
theorem Inv.inTime {R R' : LockRun} {e : LockEvent} (h : R.Inv) (hs : R.step e = some R')
    (ho : OwnRelease R e R') : InTime R e R' := by
  rintro u c rfl hc hr hf
  cases hs
  cases ht : R.locks.holder c.walletLock .SEND_TX with
  | none =>
      rw [h.wf.timers.status, ht]
      rfl
  | some t =>
      have hne : t ≠ c.timer := by
        rintro rfl
        exact h.fired_gone _ hf _ _ ht
      have hk := (ho u c rfl hc).1 _ _ t hne ht
      rw [callUnlock_first hc hr, holder_unlock, if_pos ⟨rfl, rfl⟩] at hk
      cases hk

/-! ## Runs -/

theorem Inv.along {R : LockRun} (h : R.Inv) (es : List LockEvent) (hin : Along InTime es R) :
    Along (fun R e R' => OwnRelease R e R' ∧ R'.OneHolder) es R := by
  induction es generalizing R with
  | nil => trivial
  | cons e es ih =>
      intro R' hs
      have he := (hin R' hs).1
      exact ⟨⟨h.ownRelease hs he, (h.step hs he).oneHolder⟩, ih (h.step hs he) (hin R' hs).2⟩

theorem Inv.along_inTime {R : LockRun} (h : R.Inv) (es : List LockEvent)
    (ho : Along (fun R e R' => OwnRelease R e R' ∧ R'.OneHolder) es R) : Along InTime es R := by
  induction es generalizing R with
  | nil => trivial
  | cons e es ih =>
      intro R' hs
      have he := h.inTime hs (ho R' hs).1.1
      exact ⟨he, ih (h.step hs he) (ho R' hs).2⟩

/-- Unlock functions release only their own acquisitions, and a lock has one unexpired holder at most,
exactly in the runs where no expired acquisition unlocks a lock that is held. -/
theorem ownRelease_oneHolder_iff_inTime (es : List LockEvent) :
    Along (fun R e R' => OwnRelease R e R' ∧ R'.OneHolder) es {} ↔ Along InTime es {} :=
  ⟨inv_init.along_inTime es, inv_init.along es⟩

/-- Acquisition 0 expires, acquisition 1 takes the lock, the late unlock of 0 frees it, and acquisition 2
takes it too. -/
def lateUnlock : List LockEvent :=
  [.lockSendTx 0 (.wallet 0), .advance DEFAULT_UNLOCK_TIMEOUT, .fire 0, .lockSendTx 1 (.wallet 0), .unlock 0,
    .lockSendTx 2 (.wallet 0)]

theorem lateUnlock_two_holders :
    (∃ R, LockRun.exec lateUnlock {} = some R ∧ R.UnexpiredHolder (.wallet 0) 1 ∧
      R.UnexpiredHolder (.wallet 0) 2) ∧
    ¬ Along (fun R e R' => OwnRelease R e R' ∧ R'.OneHolder) lateUnlock {} := by
  refine ⟨⟨_, rfl, ⟨_, rfl, rfl, rfl, by decide⟩, ⟨_, rfl, rfl, rfl, by decide⟩⟩, fun h => ?_⟩
  obtain ⟨⟨ho, -⟩, -⟩ := ((((h _ rfl).2 _ rfl).2 _ rfl).2 _ rfl).2 _ rfl
  have hk := (ho 0 ⟨.wallet 0, false, 0, 0⟩ rfl (by decide)).1 (.wallet 0) .SEND_TX 1 (by decide) (by decide)
  exact absurd hk (by decide)

end LockRun

end WalletHeadless
