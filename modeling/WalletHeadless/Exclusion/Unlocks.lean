import WalletHeadless.Exclusion.Restarts

/-!
# The lock that `unlockInputs` releases

`unlockInputs` looks its lock up twice: once to take it, and after its awaits once more to release it.

* `Service.ReleasesOwn`: it releases the lock that it has taken, and keeps none at its end;
* `Service.HoldTaken`: who has taken a lock and not given it back holds it, so nobody else has released it;
* `keepsFound`: the lock of an id changes only while no `unlockInputs` of this id is inside;
* `releasesOwn_of_keepsFound`: the runs of such calls;
* `restart_releases_other`: a stop, a start and a send while `unlockInputs` is inside.
-/

namespace WalletHeadless

open Coop Js Function

/-- The flow has taken the lock that it had looked up, as `unlockInputs` does, and not given it back. -/
def UnlockingOf (p : Proc Op.Ans JsError Unit Request) (walletId : String) : Prop :=
  p.req.target.map Prod.fst = some walletId ∧ ∃ l, Taken p.log (.lock l) ∧ ¬ Given p.log (.lock l)

/-- Every lock that was released by itself is the one that was taken, and a request that has ended has given back all
that it took. -/
structure Service.ReleasesOwn (S : Service) : Prop where
  own : ∀ (i : Nat) (p : Proc Op.Ans JsError Unit Request) (l l' : LockRef), S.procs[i]? = some p →
    Taken p.log (.lock l) → ReleasedOn p.log l' → l' = l
  back : ∀ (i : Nat) (p : Proc Op.Ans JsError Unit Request) (req : Req SwapBody), S.procs[i]? = some p →
    p.req = .unlockInputs req → p.rest.Ended → GivesBack p.log

/-- Each request that has taken a SEND_TX lock and not given it back holds it. -/
def Service.HoldTaken (S : Service) : Prop :=
  ∀ (i : Nat) (p : Proc Op.Ans JsError Unit Request) (a : Acquisition), S.procs[i]? = some p → Taken p.log a →
    ¬ Given p.log a → ∃ l, S.state.locks.Owns i l a

/-- The acquisitions of locks that were looked up. -/
def Acquisition.IsLock : Acquisition → Prop
  | .lock _ => True
  | .closure _ => False

theorem unlockingOf_iff (p : Proc Op.Ans JsError Unit Request) (walletId : String) :
    UnlockingOf p walletId ↔ (lockGhost p).Pins Acquisition.IsLock walletId := by
  constructor
  · rintro ⟨hid, l, hl⟩
    exact ⟨hid, .lock l, trivial, hl⟩
  · rintro ⟨hid, a, hlock, ha⟩
    cases a with
    | lock l => exact ⟨hid, l, ha⟩
    | closure u => exact hlock.elim

def takesLock (e : Event Op.Ans) : Option LockRef :=
  match takes e with
  | some (.lock l) => some l
  | _ => none

theorem takesLock_eq {e : Event Op.Ans} {l : LockRef} : takesLock e = some l ↔ takes e = some (.lock l) := by
  unfold takesLock
  cases takes e with
  | none => simp
  | some a => cases a <;> simp

theorem taken_lock_iff (log : Log) (P : LockRef → Prop) :
    (∃ l ∈ log.filterMap takesLock, P l) ↔ ∃ l, Taken log (.lock l) ∧ P l := by
  simp only [Taken, List.mem_filterMap, takesLock_eq]

instance (p : Proc Op.Ans JsError Unit Request) (walletId : String) : Decidable (UnlockingOf p walletId) :=
  decidable_of_iff (p.req.target.map Prod.fst = some walletId ∧
    ∃ l ∈ p.log.filterMap takesLock, ¬ Given p.log (.lock l)) (and_congr_right' (taken_lock_iff _ _))

/-- A call changes the lock of a wallet id only while no `unlockInputs` of this id is inside. -/
def keepsFound (S : Service) (_ : Nat) (c : Op) (_ : c.Ans) (_ : Server) : Bool :=
  (movesLock c).all fun walletId => S.procs.all fun p => !decide (UnlockingOf p walletId)

theorem keepsFound_iff {S : Service} {i : Nat} {c : Op} {r : c.Ans} {s : Server} : keepsFound S i c r s = true ↔
    ∀ walletId, movesLock c = some walletId → ∀ p ∈ S.procs, ¬ (lockGhost p).Pins Acquisition.IsLock walletId := by
  unfold keepsFound
  cases movesLock c with
  | none => simp
  | some walletId => simp [List.all_eq_true, unlockingOf_iff]

/-! ## The lock that was found -/

/-- The lock that a flow has looked up, or taken after that, is still the lock of its wallet id, and no other lock was
released. -/
structure FlowFound (s : Server) (q : LockGhost) : Prop where
  once : ∀ a b, Taken q.log a → Taken q.log b → a = b
  looked : ∀ l, q.looked = some l → ∃ walletId, q.walletId = some walletId ∧ s.lockFor walletId = some l
  found : ∀ l, q.Held (.lock l) → ∃ walletId, q.walletId = some walletId ∧ s.lockFor walletId = some l
  own : ∀ l, ReleasedOn q.log l → Taken q.log (.lock l)

structure FoundInv (s : Server) (g : Nat → LockGhost) : Prop where
  wf : s.locks.WF
  flows : ∀ i, FlowFound s (g i)

namespace FoundInv

variable {s s' : Server} {g : Nat → LockGhost} {i : Nat}

/-- The locks that flows need stay under their ids. -/
theorem frame (h : FoundInv s g) (hw : s'.locks.WF) (hlock : ∀ j walletId l,
    (g j).Needs Acquisition.IsLock walletId → s.lockFor walletId = some l → s'.lockFor walletId = some l) :
    FoundInv s' g where
  wf := hw
  flows j := by
    refine ⟨(h.flows j).once, fun l hl => ?_, fun l hl => ?_, (h.flows j).own⟩
    · obtain ⟨walletId, hid, hfor⟩ := (h.flows j).looked l hl
      exact ⟨walletId, hid, hlock j walletId l (.inl ⟨hid, by rw [hl]; simp⟩) hfor⟩
    · obtain ⟨walletId, hid, hfor⟩ := (h.flows j).found l hl
      exact ⟨walletId, hid, hlock j walletId l (.inr ⟨hid, .lock l, trivial, hl⟩) hfor⟩

/-- The locks of all ids stay. -/
theorem same (h : FoundInv s g) (hw : s'.locks.WF) (hlock : ∀ walletId l, s.lockFor walletId = some l →
    s'.lockFor walletId = some l) : FoundInv s' g :=
  h.frame hw fun _ walletId l _ => hlock walletId l

/-- Flow `i` goes on. -/
theorem flow (h : FoundInv s g) {q : LockGhost} (hi : FlowFound s q) : FoundInv s (update g i q) where
  wf := h.wf
  flows := (forall_update_iff g fun _ q => FlowFound s q).mpr ⟨hi, fun j _ => h.flows j⟩

/-- A call that neither takes a lock nor releases one by itself. -/
theorem note (h : FoundInv s g) {c : Op} {r : c.Ans} (htakes : takes ⟨c, r⟩ = none)
    (hgives : ∀ l, gives ⟨c, r⟩ ≠ some (.lock l))
    (hfinds : ∀ l, finds ⟨c, r⟩ = some l → ∃ walletId, (g i).walletId = some walletId ∧ s.lockFor walletId = some l) :
    FoundInv s (update g i ((g i).next c r)) := by
  have htaken (a : Acquisition) : Taken ((g i).next c r).log a ↔ Taken (g i).log a := by
    simp [taken_snoc, htakes]
  refine h.flow ⟨fun a b ha hb => ?_, fun l hl => ?_, fun l hl => ?_, fun l hl => ?_⟩
  · exact (h.flows i).once a b ((htaken a).mp ha) ((htaken b).mp hb)
  · rw [LockGhost.next_looked] at hl
    exact hfinds l hl
  · exact (h.flows i).found l ⟨(htaken _).mp hl.1, fun hg => hl.2 ((given_snoc ..).mpr (.inl hg))⟩
  · exact (htaken _).mpr ((h.flows i).own l (((releasedOn_snoc ..).mp hl).resolve_right (hgives l)))

/-- Flow `i` takes a lock: by `lockSendTx`, or the lock of its id, which it had looked up. -/
theorem enters (h : FoundInv s g) {c : Op} {r : c.Ans} {a : Acquisition} (htakes : takes ⟨c, r⟩ = some a)
    (hgives : gives ⟨c, r⟩ = none) (hfinds : finds ⟨c, r⟩ = none) (hout : ∀ b, ¬ Taken (g i).log b)
    (hlock : ∀ l, a = .lock l → ∃ walletId, (g i).walletId = some walletId ∧ s.lockFor walletId = some l) :
    FoundInv s (update g i ((g i).next c r)) := by
  have htaken (b : Acquisition) : Taken ((g i).next c r).log b ↔ b = a := by
    rw [LockGhost.next_log, taken_snoc, htakes, Option.some.injEq, eq_comm (a := a)]
    exact or_iff_right (hout b)
  refine h.flow ⟨fun b b' hb hb' => ?_, fun l hl => ?_, fun l hl => ?_, fun l hl => ?_⟩
  · rw [(htaken b).mp hb, (htaken b').mp hb']
  · rw [LockGhost.next_looked, hfinds] at hl
    cases hl
  · exact hlock l ((htaken _).mp hl.1).symm
  · rcases (releasedOn_snoc ..).mp hl with hl | hl
    · exact absurd ((h.flows i).own l hl) (hout _)
    · rw [hgives] at hl
      cases hl

theorem walletLock (h : FoundInv s g) (walletId : String) :
    FoundInv { s with locks := (s.walletLock walletId).2 } g :=
  h.same (walletLock_wf h.wf walletId) fun _ _ hl => lockFor_of_walletLock hl

theorem locks (h : FoundInv s g) {L : Locks} (hw : L.WF) (hwallets : L.wallets = s.locks.wallets) :
    FoundInv { s with locks := L } g :=
  h.same hw fun walletId l hl => by rw [s.lockFor_locks hwallets, hl]

theorem lockSendTx (h : FoundInv s g) (walletId : String) (hout : ∀ a, ¬ Taken (g i).log a) :
    FoundInv { s with locks := (s.lockSendTx i walletId).2 }
      (update g i ((g i).next (.lock (.lockSendTx walletId)) (s.lockSendTx i walletId).1)) := by
  have h' := h.walletLock walletId
  cases ht : (s.walletLock walletId).2.holder (s.walletLock walletId).1 .SEND_TX with
  | some t =>
      rw [Server.lockSendTx, Locks.lockSendTxOn_held h'.wf ht]
      exact h'.note rfl (fun l hl => by cases hl) fun l hl => by cases hl
  | none =>
      rw [Server.lockSendTx, Locks.lockSendTxOn_free h'.wf ht]
      have hacquired := h'.locks (h'.wf.acquired ht i) rfl
      exact hacquired.enters (a := .closure _) rfl rfl rfl hout fun l hl => by cases hl

/-- A flow that has looked its lock up takes it, if it is free. -/
theorem lockOn (h : FoundInv s g) {l : LockRef} (hl : (g i).looked = some l) (hout : ∀ a, ¬ Taken (g i).log a) :
    FoundInv { s with locks := (s.locks.lock l .SEND_TX).2 }
      (update g i ((g i).next (.lock (.lockOn l .SEND_TX)) (s.locks.lock l .SEND_TX).1)) := by
  obtain ⟨walletId, hid, hfor⟩ := (h.flows i).looked l hl
  cases ht : s.locks.holder l .SEND_TX with
  | some t =>
      rw [Locks.lock_held h.wf ht]
      exact h.note rfl (fun l hl => by cases hl) fun l hl => by cases hl
  | none =>
      rw [Locks.lock_free h.wf ht]
      have h' := h.locks (h.wf.locked ht DEFAULT_UNLOCK_TIMEOUT) rfl
      refine h'.enters (a := .lock l) rfl rfl rfl hout fun l' hl' => ?_
      cases hl'
      exact ⟨walletId, hid, hfor⟩

/-- Flow `i` releases the lock that it has looked up again: it is the one that it holds. -/
theorem unlockOn (h : FoundInv s g) {l l' : LockRef} (hl' : (g i).looked = some l') (hl : (g i).Held (.lock l)) :
    FoundInv s (update g i ((g i).next (.lock (.unlockOn l' .SEND_TX)) ())) := by
  obtain ⟨walletId, hid, hfor⟩ := (h.flows i).found l hl
  obtain ⟨walletId', hid', hfor'⟩ := (h.flows i).looked l' hl'
  cases hid.symm.trans hid'
  cases hfor.symm.trans hfor'
  have htaken (a : Acquisition) : Taken ((g i).next (.lock (.unlockOn l .SEND_TX)) ()).log a ↔ Taken (g i).log a := by
    simp [taken_snoc, takes]
  refine h.flow ⟨fun a b ha hb => ?_, fun k hk => ?_, fun k hk => ?_, fun k hk => ?_⟩
  · exact (h.flows i).once a b ((htaken a).mp ha) ((htaken b).mp hb)
  · rw [LockGhost.next_looked] at hk
    cases hk
  · exact (h.flows i).found k ⟨(htaken _).mp hk.1, fun hg => hk.2 ((given_snoc ..).mpr (.inl hg))⟩
  · rcases (releasedOn_snoc ..).mp hk with hk | hk
    · exact (htaken _).mpr ((h.flows i).own k hk)
    · cases hk
      exact (htaken _).mpr hl.1

/-- A call that has nothing to do with who is inside, while no flow needs a lock that it changes. -/
theorem other (h : FoundInv s g) (hlooked : ∀ j, (g j).looked = none) {c : Op} (hc : OtherOp c) {w r : c.Ans}
    (hp : s.performOp i c w = some (r, s'))
    (hmoves : ∀ walletId, movesLock c = some walletId → ∀ j, ¬ (g j).Pins Acquisition.IsLock walletId) :
    FoundInv s' (update g i ((g i).next c r)) := by
  obtain ⟨hw, -, hfor⟩ := other_locks h.wf hc hp
  have hframe : FoundInv s' g := by
    refine h.frame hw fun j walletId l hneeds hl => ?_
    rcases hneeds with ⟨-, hlook⟩ | hpins
    · exact absurd (hlooked j) hlook
    · rw [hfor walletId fun hm => hmoves walletId hm j hpins, hl]
  refine hframe.note (hc.takes r) (fun l hl => ?_) fun l hl => ?_
  · rw [hc.gives] at hl
    cases hl
  · rw [hc.finds] at hl
    cases hl

theorem perform (h : FoundInv s g) (hr : ∀ j, j ≠ i → (g j).looked = none) {c : Op} (hc : (g i).Allows c)
    {w r : c.Ans} (hp : s.performOp i c w = some (r, s'))
    (hmoves : ∀ walletId, movesLock c = some walletId → ∀ j, j ≠ i → ¬ (g j).Pins Acquisition.IsLock walletId) :
    FoundInv s' (update g i ((g i).next c r)) := by
  have hlooked (hq : (g i).looked = none) (j : Nat) : (g j).looked = none := by
    by_cases hj : j = i
    · rw [hj, hq]
    · exact hr j hj
  cases hc with
  | work hq hc =>
      refine h.other (hlooked hq) hc.plain.other hp fun walletId hm => ?_
      rw [hc.movesLock] at hm
      cases hm
  | other hq hout hc =>
      exact h.other (hlooked hq) hc hp fun walletId hm => not_pins_of_others hout (hmoves walletId hm)
  | take hq hid hout =>
      cases hp
      exact h.lockSendTx _ hout
  | @give u hq htaken =>
      cases hp
      have h' := h.locks (h.wf.callUnlock u) (Locks.callUnlock_wallets _ u)
      exact h'.note rfl (fun l hl => by cases hl) fun l hl => by cases hl
  | look hq hid =>
      cases hp
      refine (h.walletLock _).note rfl (fun l hl => by cases hl) fun l hl => ?_
      cases hl
      exact ⟨_, hid, lockFor_walletLock _⟩
  | takeOn hq hout =>
      cases hp
      exact h.lockOn hq hout
  | @giveOn l l' hq htaken hkept =>
      cases hp
      have h' := h.locks (h.wf.unlock l' .SEND_TX) (Locks.unlock_wallets _ l' .SEND_TX)
      exact h'.unlockOn hq ⟨htaken, hkept⟩

end FoundInv

/-! ## Runs -/

theorem found_guarded : LockGuarded Acquisition.IsLock (fun _ _ => True) FoundInv where
  enter s g i req h := h.flow ⟨fun a b ha => absurd ha (not_taken_nil a), fun l hl => (by cases hl),
    fun l hl => absurd hl.1 (not_taken_nil _), fun l ⟨e, he, _⟩ => (by cases he)⟩
  frame s s' g h hl hh := by
    have hfor (walletId : String) : s'.lockFor walletId = s.lockFor walletId :=
      Server.lockFor_congr (by rw [hl]) (by rw [hh])
    exact h.same (by rw [hl]; exact h.wf) fun walletId l hl' => by rw [hfor, hl']
  advance s g d h := h.locks (h.wf.advance d) rfl
  fire S g t L h _ hL := by
    obtain ⟨x, -, -, -, rfl⟩ := Locks.fire_eq_some h.wf hL
    exact h.locks (h.wf.unlock _ _) (Locks.unlock_wallets _ _ _)
  perform s g i c w r s' h hr ha hp hmoves := h.perform hr ha hp hmoves

theorem foundInv_init {s : Server} (hw : s.locks.WF) : FoundInv s fun _ => {} where
  wf := hw
  flows _ := ⟨fun a b ha => absurd ha (not_taken_nil a), fun l hl => (by cases hl),
    fun l hl => absurd hl.1 (not_taken_nil _), fun l ⟨e, he, _⟩ => (by cases he)⟩

/-- While the lock of a wallet id changes only with no `unlockInputs` of this id inside, each of them releases the lock
that it has taken; and while no timer of a SEND_TX lock fires, nobody releases a lock that another request holds. -/
theorem releasesOwn_of_keepsFound {s₀ : Server} (hw : s₀.locks.WF) {S : Service} :
    (Service.Run (fun S l => S.Meets world Request.handle (fun S i c r s => keepsFound S i c r s = true) l) s₀ S →
      S.ReleasesOwn) ∧
    (Service.Run (fun S l => ExclusionStep S l ∧ S.Meets world Request.handle
      (fun S i c r s => keepsFound S i c r s = true) l) s₀ S → S.HoldTaken) := by
  have hkeeps (S : Service) (i : Nat) (c : Op) (r : c.Ans) (s : Server) (hG : keepsFound S i c r s = true) :=
    keepsFound_iff.mp hG
  constructor
  · intro h
    have hguarded := found_guarded.guarded (G := fun S i c r s => keepsFound S i c r s = true) hkeeps
    obtain ⟨g, hg, -, hI⟩ := hguarded.reach (foundInv_init hw) (h.mono fun _ _ hok => ⟨trivial, hok⟩)
    have hown (i : Nat) (p : Proc Op.Ans JsError Unit Request) (l l' : LockRef) (hp : S.procs[i]? = some p)
        (hl : Taken p.log (.lock l)) (hl' : ReleasedOn p.log l') : l' = l := by
      have hflow := hI.flows i
      rw [LockCoherent.ghost hg hp] at hflow
      cases hflow.once _ _ hl (hflow.own l' hl')
      rfl
    refine ⟨hown, fun i p req hp hreq hend => ?_⟩
    have hsteps := h.steps hp
    rw [hreq] at hsteps
    by_cases htaken : ∃ a, Taken p.log a
    · obtain ⟨l, l', hun⟩ := history_ended hsteps (unlockInputs_unlocked req) hend (fun _ _ => trivial) htaken
      obtain rfl := hown i p l l' hp ((hun.taken _).mpr rfl) hun.released
      exact hun.givesBack
    · exact givesBack_of_not_taken fun a ha => htaken ⟨a, ha⟩
  · intro h
    have hguarded := (exclusion_guarded Acquisition.IsLock fun _ => trivial).guarded
      (G := fun S i c r s => keepsFound S i c r s = true) hkeeps
    obtain ⟨g, hg, -, hI⟩ := hguarded.reach (exclusionInv_init _ hw) h
    intro i p a hp ha hk
    have hheld : (g i).Held a := by
      rw [LockCoherent.ghost hg hp]
      exact ⟨ha, hk⟩
    obtain ⟨l, ho, -⟩ := (hI.flows i).owns a hheld
    exact ⟨l, ho⟩

def unlocks : Request := .unlockInputs { walletId := "w", wallet := 0, body := { partial_tx := "tx" } }

/-- `unlockInputs` ends, and the wallet is stopped and started before the next send. -/
def unlockThenRestart : List Step := [comes unlocks, proceeds 0] ++ stopThenStart ++ [comes nextSend]

theorem unlockThenRestart_kept :
    (Service.exec (fun S l => ExclusionStep S l ∧ S.Meets world Request.handle
      (fun S i c r s => keepsFound S i c r s = true) l) unlockThenRestart (oneWallet none)).any (fun S =>
      (S.Ended 0 ∧ ∃ p ∈ S.procs[0]?, Taken p.log (.lock (.wallet 0))) ∧ ∃ p ∈ S.procs[3]?, InsideOf p "w") = true := by
  decide +kernel

theorem unlockThenRestart_own :
    ∃ S : Service, (S.Ended 0 ∧ ∃ p ∈ S.procs[0]?, Taken p.log (.lock (.wallet 0))) ∧
      (∃ p ∈ S.procs[3]?, InsideOf p "w") ∧ S.ReleasesOwn ∧ S.HoldTaken := by
  obtain ⟨S, hS, htaken, hin⟩ := Service.run_of_exec unlockThenRestart_kept
  exact ⟨S, htaken, hin, (releasesOwn_of_keepsFound Locks.wf_init).1 (hS.mono fun _ _ h => h.2),
    (releasesOwn_of_keepsFound Locks.wf_init).2 hS⟩

/-- The wallet is stopped and started while `unlockInputs` awaits, and a send takes the new lock. -/
def restartInUnlock : List Step := [comes unlocks] ++ stopThenStart ++ [comes nextSend, proceeds 0]

theorem restartInUnlock_locks :
    (Service.exec ExclusionStep restartInUnlock (oneWallet none)).any (fun S =>
      (∃ p ∈ S.procs[0]?, Taken p.log (.lock (.wallet 0)) ∧ ReleasedOn p.log (.wallet 1)) ∧
      (∃ p ∈ S.procs[3]?, Taken p.log (.closure 0) ∧ ¬ Given p.log (.closure 0)) ∧
      (S.state.locks.closures[0]?).map UnlockClosure.walletLock = some (.wallet 1) ∧
      S.state.locks.holder (.wallet 0) .SEND_TX ≠ none ∧ S.state.locks.holder (.wallet 1) .SEND_TX = none) = true := by
  decide +kernel

/-- It keeps the lock that it has taken, and releases the one that the send holds. -/
theorem restart_releases_other :
    ∃ S, Service.Run ExclusionStep (oneWallet none) S ∧
      (∃ p ∈ S.procs[0]?, Taken p.log (.lock (.wallet 0)) ∧ ReleasedOn p.log (.wallet 1)) ∧
      (∃ p ∈ S.procs[3]?, Taken p.log (.closure 0) ∧ ¬ Given p.log (.closure 0)) ∧
      S.state.locks.holder (.wallet 0) .SEND_TX ≠ none ∧ S.state.locks.holder (.wallet 1) .SEND_TX = none ∧
      ¬ S.ReleasesOwn ∧ ¬ S.HoldTaken := by
  obtain ⟨S, hS, ⟨p, hp, htaken, hreleased⟩, ⟨q, hq, htakes, hkept⟩, hclosure, hheld, hfree⟩ :=
    Service.run_of_exec restartInUnlock_locks
  refine ⟨S, hS, ⟨p, hp, htaken, hreleased⟩, ⟨q, hq, htakes, hkept⟩, hheld, hfree, fun h => ?_, fun h => ?_⟩
  · cases h.own 0 p _ _ hp htaken hreleased
  · obtain ⟨l, c, hc, -, rfl, ht⟩ := h 3 q (.closure 0) hq htakes hkept
    rw [hc] at hclosure
    rw [Option.some.inj hclosure, hfree] at ht
    cases ht

end WalletHeadless
