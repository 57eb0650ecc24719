import Mathlib.Logic.Function.Basic
import Mathlib.Tactic.Common
import WalletHeadless.Coop.System
import WalletHeadless.Js.Map

/-!
# `lock.js` and the closures of `lockSendTx`

Every `Lock` object, every timer that `setTimeout` has armed and every closure that `lockSendTx` has
returned, on one clock in milliseconds.

* `Locks.lock`, `Locks.unlock`: the methods of `Lock`; `Locks.fire`: a timer runs its callback;
* `Locks.get`, `Locks.delete`: the registry of `GlobalLock`;
* `Locks.lockSendTxOn`, `Locks.callUnlock`: the rest of `lockSendTx` once it has its `Lock`, and the
  function it returns.

A closure records the timer of its acquisition and the program that took it; the code reads neither.
-/

namespace WalletHeadless

open Function

/-- `lockTypes`. -/
inductive LockType | SEND_TX | HSM
deriving DecidableEq

/-- The default timeout of a lock, in milliseconds. -/
def DEFAULT_UNLOCK_TIMEOUT : Nat := 2 * 60 * 1000

abbrev TimerId := Nat

/-- The state of one `Lock` object. -/
structure Lock where
  lockStatus : LockType → Bool := fun _ => false
  setTimeoutLock : LockType → Option TimerId := fun _ => none

/-- A reference to a `Lock` object: the two of `GlobalLock`, or the `n`-th that `get` has created. -/
inductive LockRef | globalLock | hsmLock | wallet (n : Nat)
deriving DecidableEq

/-- An armed timer: when it fires it unlocks `type` on `lock`. -/
structure Timer where
  id : TimerId
  lock : LockRef
  type : LockType
  deadline : Nat
deriving DecidableEq

/-- The variables a returned unlock function closes over. -/
structure UnlockClosure where
  walletLock : LockRef
  lockReleased : Bool
  timer : TimerId
  owner : Nat
deriving DecidableEq

/-- An unlock function: which closure it is. -/
abbrev UnlockFn := Nat

structure Locks where
  now : Nat := 0
  heap : LockRef → Lock := fun _ => {}
  wallets : Js.Map String Nat := .empty
  created : Nat := 0
  timers : List Timer := []
  nextTimer : Nat := 0
  closures : List UnlockClosure := []

namespace Locks

def setStatus (L : Locks) (l : LockRef) (ty : LockType) (b : Bool) : Locks :=
  { L with heap := update L.heap l { L.heap l with lockStatus := update (L.heap l).lockStatus ty b } }

def setTimer (L : Locks) (l : LockRef) (ty : LockType) (t : Option TimerId) : Locks :=
  { L with heap := update L.heap l { L.heap l with setTimeoutLock := update (L.heap l).setTimeoutLock ty t } }

def clearTimeout (L : Locks) (t : TimerId) : Locks := { L with timers := L.timers.filter fun x => x.id ≠ t }

/-- `clearTimeout` and forget the timer of `type`, if there is one. -/
def clearTimer (L : Locks) (l : LockRef) (ty : LockType) : Locks :=
  match (L.heap l).setTimeoutLock ty with
  | some t => (L.clearTimeout t).setTimer l ty none
  | none => L

/-- `setTimeout(() => this.unlock(type), timeout)`, kept in `setTimeoutLock`. -/
def setTimeout (L : Locks) (l : LockRef) (ty : LockType) (timeout : Nat) : Locks :=
  { L with timers := ⟨L.nextTimer, l, ty, L.now + timeout⟩ :: L.timers, nextTimer := L.nextTimer + 1 }.setTimer
    l ty (some L.nextTimer)

/-- `Lock.unlock`. -/
def unlock (L : Locks) (l : LockRef) (ty : LockType) : Locks := (L.setStatus l ty false).clearTimer l ty

/-- `Lock.lock`. -/
def lock (L : Locks) (l : LockRef) (ty : LockType) (timeout : Nat := DEFAULT_UNLOCK_TIMEOUT) : Bool × Locks :=
  if (L.heap l).lockStatus ty then (false, L)
  else (true, ((L.setStatus l ty true).clearTimer l ty).setTimeout l ty timeout)

/-- A due timer runs its callback. -/
def fire (L : Locks) (t : TimerId) : Option Locks :=
  match L.timers.find? fun x => x.id = t with
  | some x => if x.deadline ≤ L.now then some ((L.clearTimeout t).unlock x.lock x.type) else none
  | none => none

def advance (L : Locks) (d : Nat) : Locks := { L with now := L.now + d }

/-- `GlobalLock.get`. -/
def get (L : Locks) (walletId : String) : LockRef × Locks :=
  match L.wallets.get walletId with
  | some n => (.wallet n, L)
  | none => (.wallet L.created, { L with wallets := L.wallets.set walletId L.created, created := L.created + 1 })

/-- `GlobalLock.delete`. -/
def delete (L : Locks) (walletId : String) : Locks := { L with wallets := L.wallets.delete walletId }

/-- `lockSendTx` from the point where it has its `Lock`. -/
def lockSendTxOn (L : Locks) (owner : Nat) (walletLock : LockRef) : Option UnlockFn × Locks :=
  match L.lock walletLock .SEND_TX with
  | (false, L) => (none, L)
  | (true, L') =>
    (some L.closures.length,
      { L' with closures := L'.closures ++ [⟨walletLock, false, L.nextTimer, owner⟩] })

def setLockReleased (L : Locks) (u : UnlockFn) (c : UnlockClosure) : Locks :=
  { L with closures := L.closures.set u { c with lockReleased := true } }

/-- The function that `lockSendTx` returned. -/
def callUnlock (L : Locks) (u : UnlockFn) : Locks :=
  match L.closures[u]? with
  | some c => if c.lockReleased then L else (L.setLockReleased u c).unlock c.walletLock .SEND_TX
  | none => L

/-! ## Field by field -/

section Fields
variable (L : Locks) (l : LockRef) (ty : LockType)

@[simp] theorem setStatus_timers (b : Bool) : (L.setStatus l ty b).timers = L.timers := rfl
@[simp] theorem setStatus_closures (b : Bool) : (L.setStatus l ty b).closures = L.closures := rfl
@[simp] theorem setStatus_nextTimer (b : Bool) : (L.setStatus l ty b).nextTimer = L.nextTimer := rfl
@[simp] theorem setStatus_now (b : Bool) : (L.setStatus l ty b).now = L.now := rfl

@[simp] theorem clearTimer_closures : (L.clearTimer l ty).closures = L.closures := by
  unfold clearTimer; split <;> rfl

@[simp] theorem clearTimer_nextTimer : (L.clearTimer l ty).nextTimer = L.nextTimer := by
  unfold clearTimer; split <;> rfl

@[simp] theorem clearTimer_now : (L.clearTimer l ty).now = L.now := by
  unfold clearTimer; split <;> rfl

@[simp] theorem clearTimer_wallets : (L.clearTimer l ty).wallets = L.wallets := by
  unfold clearTimer; split <;> rfl

@[simp] theorem unlock_closures : (L.unlock l ty).closures = L.closures := by simp [unlock]
@[simp] theorem unlock_nextTimer : (L.unlock l ty).nextTimer = L.nextTimer := by simp [unlock]
@[simp] theorem unlock_now : (L.unlock l ty).now = L.now := by simp [unlock]
@[simp] theorem unlock_wallets : (L.unlock l ty).wallets = L.wallets := by
  simp [unlock, setStatus]

theorem setTimeoutLock_setStatus (b : Bool) (l' : LockRef) :
    ((L.setStatus l ty b).heap l').setTimeoutLock = (L.heap l').setTimeoutLock := by
  unfold setStatus
  by_cases h : l' = l
  · subst h; simp
  · simp [update_of_ne h]

end Fields

/-- The timer of the acquisition that holds `type` on a lock. -/
def holder (L : Locks) (l : LockRef) (ty : LockType) : Option TimerId := (L.heap l).setTimeoutLock ty

theorem holder_setStatus (L : Locks) (l : LockRef) (ty : LockType) (b : Bool) :
    (L.setStatus l ty b).holder = L.holder := by
  funext l' ty'
  exact congrFun (setTimeoutLock_setStatus L l ty b l') ty'

theorem holder_setTimer (L : Locks) (l l' : LockRef) (ty ty' : LockType) (t : Option TimerId) :
    (L.setTimer l ty t).holder l' ty' = if l' = l ∧ ty' = ty then t else L.holder l' ty' := by
  unfold holder setTimer
  by_cases h : l' = l
  · subst h
    by_cases h' : ty' = ty
    · subst h'; simp
    · simp [h']
  · simp [h]

theorem holder_clearTimer (L : Locks) (l l' : LockRef) (ty ty' : LockType) :
    (L.clearTimer l ty).holder l' ty' = if l' = l ∧ ty' = ty then none else L.holder l' ty' := by
  unfold clearTimer
  split
  next t ht => exact holder_setTimer _ _ _ _ _ _
  next ht =>
    split
    next h => rw [h.1, h.2]; exact ht
    next h => rfl

theorem holder_unlock (L : Locks) (l l' : LockRef) (ty ty' : LockType) :
    (L.unlock l ty).holder l' ty' = if l' = l ∧ ty' = ty then none else L.holder l' ty' := by
  rw [unlock, holder_clearTimer, holder_setStatus]

theorem holder_setTimeout (L : Locks) (l l' : LockRef) (ty ty' : LockType) (d : Nat) :
    (L.setTimeout l ty d).holder l' ty' = if l' = l ∧ ty' = ty then some L.nextTimer else L.holder l' ty' :=
  holder_setTimer _ _ _ _ _ _

end Locks

end WalletHeadless
