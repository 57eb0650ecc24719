import WalletHeadless.Api.Isolation
import WalletHeadless.Sends.Stranded

/-!
# The timers of the locks, in every run

Every acquisition arms a timer of two minutes, so that a lock that is not given back is free again.

* `Locks.Ages`: time goes on, and no timer is moved; each operation is such a step;
* `App.leases_end`: in every run, an acquisition is over two minutes later, whatever the flows do;
* `App.time_frees`: from every state of a run, time alone frees all locks.
-/

namespace WalletHeadless

open Coop Function

namespace Locks

/-- Time goes on, and what is armed meanwhile is due within two minutes. -/
structure Ages (L L' : Locks) : Prop where
  now : L.now ≤ L'.now
  ids : L.nextTimer ≤ L'.nextTimer
  timers : ∀ x ∈ L'.timers, x ∈ L.timers ∨ L.nextTimer ≤ x.id ∧ x.deadline ≤ L'.now + DEFAULT_UNLOCK_TIMEOUT

/-- Every timer is due within two minutes. -/
def Bounded (L : Locks) : Prop := ∀ x ∈ L.timers, x.deadline ≤ L.now + DEFAULT_UNLOCK_TIMEOUT

/-- No timer is due. -/
def Prompt (L : Locks) : Prop := ∀ x ∈ L.timers, L.now < x.deadline

variable {L L' L'' : Locks}

theorem Ages.of_subset (hnow : L.now ≤ L'.now) (hids : L'.nextTimer = L.nextTimer)
    (h : ∀ x ∈ L'.timers, x ∈ L.timers) : L.Ages L' := ⟨hnow, hids.ge, fun x hx => .inl (h x hx)⟩

theorem Ages.refl (L : Locks) : L.Ages L := .of_subset le_rfl rfl fun _ => id

theorem Ages.trans (h : L.Ages L') (h' : L'.Ages L'') : L.Ages L'' where
  now := h.now.trans h'.now
  ids := h.ids.trans h'.ids
  timers x hx := by
    rcases h'.timers x hx with hx | ⟨hid, hd⟩
    · rcases h.timers x hx with hx | ⟨hid, hd⟩
      · exact .inl hx
      · exact .inr ⟨hid, hd.trans (Nat.add_le_add_right h'.now _)⟩
    · exact .inr ⟨h.ids.trans hid, hd⟩

theorem Ages.bounded (h : L.Ages L') (hb : L.Bounded) : L'.Bounded := by
  intro x hx
  rcases h.timers x hx with hx | ⟨-, hd⟩
  · exact (hb x hx).trans (Nat.add_le_add_right h.now _)
  · exact hd

theorem ages_unlock (h : L.TimersOk) (l : LockRef) (ty : LockType) : L.Ages (L.unlock l ty) :=
  .of_subset (L.unlock_now l ty).ge (L.unlock_nextTimer l ty) fun x hx => ((h.mem_unlock l ty x).mp hx).1

theorem ages_lock (h : L.WF) (l : LockRef) (ty : LockType) : L.Ages (L.lock l ty).2 := by
  cases ht : L.holder l ty with
  | some t =>
      rw [lock_held h ht]
      exact .refl L
  | none =>
      rw [lock_free h ht]
      refine ⟨le_rfl, Nat.le_succ _, fun x hx => ?_⟩
      rcases List.mem_cons.mp hx with rfl | hx
      · exact .inr ⟨le_rfl, le_rfl⟩
      · exact .inl hx

theorem ages_get (L : Locks) (walletId : String) : L.Ages (L.get walletId).2 := by
  unfold Locks.get
  split
  · exact .refl L
  · exact .of_subset le_rfl rfl fun _ => id

theorem ages_lockSendTxOn (h : L.WF) (i : Nat) (l : LockRef) : L.Ages (L.lockSendTxOn i l).2 := by
  have hlock := ages_lock h l .SEND_TX
  cases ht : L.holder l .SEND_TX with
  | some t =>
      rw [lockSendTxOn_held h ht]
      exact .refl L
  | none =>
      rw [lockSendTxOn_free h ht]
      rw [lock_free h ht] at hlock
      exact ⟨hlock.now, hlock.ids, hlock.timers⟩

theorem ages_callUnlock (h : L.WF) (u : UnlockFn) : L.Ages (L.callUnlock u) := by
  cases hc : L.closures[u]? with
  | none =>
      rw [callUnlock_none hc]
      exact .refl L
  | some c =>
      cases hr : c.lockReleased with
      | true =>
          rw [callUnlock_again hc hr]
          exact .refl L
      | false =>
          rw [callUnlock_first hc hr]
          have htimers : (L.setLockReleased u c).TimersOk :=
            ⟨h.timers.status, h.timers.armed, h.timers.kept, h.timers.ids, h.timers.fresh⟩
          have hage := ages_unlock htimers c.walletLock .SEND_TX
          exact ⟨hage.now, hage.ids, hage.timers⟩

theorem ages_fire (h : L.WF) {t : TimerId} (hf : L.fire t = some L') : L.Ages L' := by
  obtain ⟨x, -, -, -, rfl⟩ := fire_eq_some h hf
  exact ages_unlock h.timers x.lock x.type

theorem ages_advance (L : Locks) (d : Nat) : L.Ages (L.advance d) := .of_subset (Nat.le_add_right _ _) rfl fun _ => id

/-- An acquisition is over when its two minutes are, and the timers that were due have fired. -/
theorem Ages.ends (h : L.Ages L') (hw : L.WF) (hw' : L'.WF) (hb : L.Bounded)
    (hlate : L.now + DEFAULT_UNLOCK_TIMEOUT ≤ L'.now) (hprompt : L'.Prompt) {l : LockRef} {ty : LockType} {t : TimerId}
    (ht : L.holder l ty = some t) : L'.holder l ty ≠ some t := by
  intro ht'
  obtain ⟨x, hx, rfl, -, -⟩ := hw.timers.kept l ty t ht
  obtain ⟨y, hy, hid, -, -⟩ := hw'.timers.kept l ty x.id ht'
  rcases h.timers y hy with hmem | ⟨hnew, -⟩
  · obtain rfl := hw.timers.ids y hmem x hx hid
    exact absurd (hprompt y hy) (Nat.not_lt.mpr ((hb y hx).trans hlate))
  · exact absurd (hw.timers.fresh x hx) (Nat.not_lt.mpr (hid ▸ hnew))

/-- A lock that is taken has its timer. -/
theorem armed_of_locked (hw : L.WF) {l : LockRef} {ty : LockType} (h : (L.heap l).lockStatus ty = true) :
    ∃ x ∈ L.timers, x.lock = l ∧ x.type = ty := by
  rw [hw.timers.status] at h
  obtain ⟨t, ht⟩ := Option.isSome_iff_exists.mp h
  obtain ⟨x, hx, -, hl, hty⟩ := hw.timers.kept l ty t ht
  exact ⟨x, hx, hl, hty⟩

theorem length_clearTimer (L : Locks) (l : LockRef) (ty : LockType) :
    (L.clearTimer l ty).timers.length ≤ L.timers.length := by
  unfold clearTimer
  split
  · exact List.length_filter_le _ _
  · exact le_rfl

/-- A due timer fires, and is gone. -/
theorem fire_due (hw : L.WF) {x : Timer} (hx : x ∈ L.timers) (hd : x.deadline ≤ L.now) :
    ∃ L', L.fire x.id = some L' ∧ L'.now = L.now ∧ (∀ y ∈ L'.timers, y ∈ L.timers) ∧
      L'.timers.length < L.timers.length := by
  have hfind : L.timers.find? (fun y => y.id = x.id) = some x := by
    obtain ⟨y, hy⟩ := Option.isSome_iff_exists.mp
      (List.find?_isSome (p := fun y : Timer => y.id = x.id) |>.mpr ⟨x, hx, by simp⟩)
    rw [hy]
    exact congrArg some (hw.timers.ids y (List.mem_of_find?_eq_some hy) x hx (by simpa using List.find?_some hy))
  have hfire : L.fire x.id = some ((L.clearTimeout x.id).unlock x.lock x.type) := by
    unfold fire
    rw [hfind]
    exact if_pos hd
  refine ⟨_, hfire, by simp [clearTimeout], ?_, ?_⟩
  · intro y hy
    obtain ⟨z, -, -, -, he⟩ := fire_eq_some hw hfire
    rw [he] at hy
    exact ((hw.timers.mem_unlock z.lock z.type y).mp hy).1
  · refine Nat.lt_of_le_of_lt (length_clearTimer ((L.clearTimeout x.id).setStatus x.lock x.type false) x.lock x.type) ?_
    exact List.length_filter_lt_length_iff_exists.mpr ⟨x, hx, by simp⟩

end Locks

/-! ## The service -/

theorem locks_callOf (i : Nat) (c : Op) (s : Server) : (s.callOf i c).locks = s.locks := by
  cases c with
  | wallet c => cases c <;> rfl
  | hsm c => cases c <;> rfl
  | _ => rfl

/-- Only the calls on the locks change them. -/
theorem locks_performOp {s s' : Server} {i : Nat} {c : Op} {w r : c.Ans} (h : s.performOp i c w = some (r, s')) :
    (∃ d, s'.locks = (s.performLock i d).2) ∨ s'.locks = s.locks := by
  cases c with
  | lock d =>
      cases h
      exact .inl ⟨d, rfl⟩
  | _ => exact .inr ((Server.performOp_untouched h).locks (by simp))

theorem locks_steady : world.Steady fun s => s.locks.WF where
  call i c s h := by
    show (s.callOf i c).locks.WF
    rwa [locks_callOf]
  perform i c w r s s' h hp := by
    rcases locks_performOp hp with ⟨d, he⟩ | he
    · rw [he]
      exact performLock_wf h i d
    · rwa [he]
  ext e s s' h he := (outside_locks h he).1

theorem ages_performLock {s : Server} (h : s.locks.WF) (i : Nat) (c : LockCall) :
    s.locks.Ages (s.performLock i c).2 := by
  have hget (walletId : String) : s.locks.Ages (s.walletLock walletId).2 := by
    unfold Server.walletLock
    split
    · exact .refl _
    · exact Locks.ages_get _ walletId
  cases c with
  | getWalletLock walletId => exact hget walletId
  | lockSendTx walletId => exact (hget walletId).trans (Locks.ages_lockSendTxOn (walletLock_wf h walletId) i _)
  | unlock u => exact Locks.ages_callUnlock h u
  | lockOn l ty => exact Locks.ages_lock h l ty
  | unlockOn l ty => exact Locks.ages_unlock h.timers l ty
  | delete walletId => exact .of_subset le_rfl rfl fun _ => id

theorem ages_frame : world.Frame (fun s => s.locks.WF) (fun _ _ => False) (fun _ => False)
    fun s s' => s.locks.Ages s'.locks where
  refl s := .refl _
  trans s s' s'' h h' := h.trans h'
  call i c s _ _ := by
    show s.locks.Ages (s.callOf i c).locks
    rw [locks_callOf]
    exact .refl _
  perform i c w r s s' h _ hp := by
    rcases locks_performOp hp with ⟨d, he⟩ | he
    · rw [he]
      exact ages_performLock h i d
    · rw [he]
      exact .refl _
  ext e s s' h _ he := by
    obtain ⟨d, -, rfl⟩ | ⟨t, L, -, hL, rfl⟩ | ⟨i, u, d, -, -, -, -, rfl⟩ | ⟨w, u, -, rfl⟩ | ⟨w, u, -, rfl⟩ :=
      Server.outside_cases he
    · exact Locks.ages_advance _ d
    · exact Locks.ages_fire h hL
    · exact .refl _
    · exact .refl _
    · exact .refl _

/-- The locks of the service. -/
abbrev App.locks (S : App) : Locks := S.state.gate.server.locks

/-- A lock that is taken has its timer, which is due within two minutes; and an acquisition of `S` is over in a later
state, when its time has come. -/
structure LeasesEnd (S S' : App) : Prop where
  armed : ∀ l ty, (S.locks.heap l).lockStatus ty = true →
    ∃ x ∈ S.locks.timers, x.lock = l ∧ x.type = ty ∧ x.deadline ≤ S.locks.now + DEFAULT_UNLOCK_TIMEOUT
  ends : S.locks.now + DEFAULT_UNLOCK_TIMEOUT ≤ S'.locks.now → S'.locks.Prompt →
    ∀ l ty t, S.locks.holder l ty = some t → S'.locks.holder l ty ≠ some t

section
variable {L : TxProposalLib} {key : Option String} {ok ok' : App → AppStep → Prop} {s₀ : Api} {S S' : App}

/-- The locks of a new process. -/
def Api.Fresh (s : Api) : Prop := s.gate.server.locks = {}

theorem App.ages (hw : S.locks.WF) (h : Reach api (serve L key) ok S S') : S.locks.Ages S'.locks :=
  (api_frame ages_frame).reach (api_steady locks_steady) (fun i c => by
    cases c with
    | gate c => cases c <;> exact id
    | _ => exact id) (fun e => by cases e <;> exact id) hw h

theorem App.locks_ok (h₀ : s₀.Fresh) (h : App.Run L key ok s₀ S) : S.locks.WF ∧ S.locks.Bounded := by
  have hw : s₀.gate.server.locks.WF := h₀ ▸ Locks.wf_init
  refine ⟨(api_steady locks_steady).reach hw h, (App.ages hw h).bounded ?_⟩
  show s₀.gate.server.locks.Bounded
  rw [h₀]
  intro x hx
  cases hx

theorem App.leases_end (h₀ : s₀.Fresh) (h : App.Run L key ok s₀ S) (h' : Reach api (serve L key) ok' S S') :
    LeasesEnd S S' := by
  obtain ⟨hw, hb⟩ := App.locks_ok h₀ h
  refine ⟨fun l ty hlocked => ?_, fun hlate hprompt l ty t ht => ?_⟩
  · obtain ⟨x, hx, hl, hty⟩ := Locks.armed_of_locked hw hlocked
    exact ⟨x, hx, hl, hty, hb x hx⟩
  · exact (App.ages hw h').ends hw ((api_steady locks_steady).reach hw h') hb hlate hprompt ht

theorem servesOne_fresh : servesOne.Fresh := rfl

/-- Two minutes pass, and the first timer fires. -/
def twoMinutes : List AppStep :=
  [.ext (.outside (.advance DEFAULT_UNLOCK_TIMEOUT)), .ext (.outside (.fire 0))]

theorem builds_locked : (Sys.exec api (serve oneHexLib (some "key")) (fun _ _ => True) builds ⟨servesOne, []⟩).any
    (fun S : App => S.locks.holder (.wallet 0) .SEND_TX = some 0 ∧
      (Sys.exec api (serve oneHexLib (some "key")) (fun _ _ => True) twoMinutes S).any (fun S' : App =>
        S.locks.now + DEFAULT_UNLOCK_TIMEOUT ≤ S'.locks.now ∧ S'.locks.timers = []) = true) = true := by
  decide +kernel

theorem builds_lease : ∃ S S' : App, S.locks.holder (.wallet 0) .SEND_TX = some 0 ∧
    S.locks.now + DEFAULT_UNLOCK_TIMEOUT ≤ S'.locks.now ∧ LeasesEnd S S' := by
  obtain ⟨S, hS, hheld, hlater⟩ := App.run_of_exec builds_locked
  obtain ⟨S', hS', hp⟩ := (Option.any_eq_true _ _).mp hlater
  exact ⟨S, S', hheld, (of_decide_eq_true hp).1, App.leases_end servesOne_fresh hS (Reach.start.exec hS')⟩

/-- Time passes, or a timer that is due fires. -/
def TimeActs : GateEvent → Prop
  | .outside (.advance _) | .outside (.fire _) => True
  | _ => False

/-- The steps in which only time passes. -/
def TimePasses (_ : App) : AppStep → Prop
  | .ext e => TimeActs e
  | _ => False

def App.setLocks (S : App) (L : Locks) : App :=
  ⟨{ S.state with gate := { S.state.gate with server := { S.state.gate.server with locks := L } } }, S.procs⟩

theorem App.step_advance (S : App) (d : Nat) :
    S.step api (serve L key) (.ext (.outside (.advance d))) = some (S.setLocks (S.locks.advance d)) := rfl

theorem App.step_fire (S : App) {t : TimerId} {M : Locks} (h : S.locks.fire t = some M) :
    S.step api (serve L key) (.ext (.outside (.fire t))) = some (S.setLocks M) := by
  have houtside : S.state.gate.server.outside (.fire t) = some { S.state.gate.server with locks := M } :=
    Option.map_eq_some_iff.mpr ⟨M, h, rfl⟩
  have hext : api.ext (.outside (.fire t)) S.state = some (S.setLocks M).state :=
    Option.map_eq_some_iff.mpr ⟨_, Option.map_eq_some_iff.mpr ⟨_, houtside, rfl⟩, rfl⟩
  exact Option.map_eq_some_iff.mpr ⟨_, hext, rfl⟩

/-- The timers that are due can fire, one after the other. -/
theorem App.fire_all (n : Nat) (S : App) (hn : S.locks.timers.length ≤ n) (hw : S.locks.WF)
    (hdue : ∀ x ∈ S.locks.timers, x.deadline ≤ S.locks.now) :
    ∃ S' : App, Reach api (serve L key) TimePasses S S' ∧ S'.procs = S.procs ∧ S'.locks.WF ∧ S'.locks.timers = [] := by
  induction n generalizing S with
  | zero => exact ⟨S, .start, rfl, hw, List.length_eq_zero_iff.mp (Nat.le_zero.mp hn)⟩
  | succ n ih =>
      cases htimers : S.locks.timers with
      | nil => exact ⟨S, .start, rfl, hw, htimers⟩
      | cons x xs =>
          have hx : x ∈ S.locks.timers := htimers ▸ List.mem_cons_self
          obtain ⟨M, hM, hnow, hsub, hlength⟩ := Locks.fire_due hw hx (hdue x hx)
          have hdue' : ∀ y ∈ (S.setLocks M).locks.timers, y.deadline ≤ (S.setLocks M).locks.now := fun y hy =>
            (hdue y (hsub y hy)).trans hnow.ge
          obtain ⟨S', hS', hprocs, hw', hnil⟩ := ih (S.setLocks M) (Nat.le_of_lt_succ (hlength.trans_le hn)) (hw.fire hM) hdue'
          refine ⟨S', ?_, hprocs, hw', hnil⟩
          exact Reach.trans (Reach.step .start (l := .ext (.outside (.fire x.id))) trivial (S.step_fire hM)) hS'

/-- From every state of a run, time alone frees all locks, and does nothing else to the flows. -/
theorem App.time_frees (h₀ : s₀.Fresh) (h : App.Run L key ok s₀ S) :
    ∃ S' : App, Reach api (serve L key) TimePasses S S' ∧ S'.procs = S.procs ∧
      ∀ l ty, (S'.locks.heap l).lockStatus ty = false := by
  obtain ⟨hw, hb⟩ := App.locks_ok h₀ h
  have hadvance : Reach api (serve L key) TimePasses S (S.setLocks (S.locks.advance DEFAULT_UNLOCK_TIMEOUT)) :=
    .step .start (l := .ext (.outside (.advance DEFAULT_UNLOCK_TIMEOUT))) trivial (S.step_advance _)
  obtain ⟨S', hS', hprocs, hw', hnil⟩ : ∃ S' : App, Reach api (serve L key) TimePasses
      (S.setLocks (S.locks.advance DEFAULT_UNLOCK_TIMEOUT)) S' ∧ S'.procs = S.procs ∧ S'.locks.WF ∧ S'.locks.timers = [] :=
    App.fire_all _ _ le_rfl (hw.advance _) fun x hx => hb x hx
  refine ⟨S', hadvance.trans hS', hprocs, fun l ty => ?_⟩
  by_contra hlocked
  obtain ⟨x, hx, -⟩ := Locks.armed_of_locked hw' (Bool.eq_true_of_not_eq_false hlocked)
  rw [hnil] at hx
  cases hx

end

end WalletHeadless
