import WalletHeadless.Coop.Ghost
import WalletHeadless.Sends.Disjoint
import WalletHeadless.Sends.Release
import WalletHeadless.Server.Frame

/-!
# The acquisitions of a service

* `ClosuresInv`: a closure that a flow has called after taking it has released its lock;
* `lock_released_iff`: when a handler that takes the SEND_TX lock has ended, it has released its
  acquisition itself exactly when the request is `Request.Clean`;
* `strandedQuery_keeps_lock`: a `sendTx` whose search for utxos fails.
-/

namespace WalletHeadless

open Coop Js Function

/-! ## What is given back is free -/

/-- The closures stay, and stay released. -/
def Locks.Grows (L L' : Locks) : Prop :=
  ∀ (u : UnlockFn) (c : UnlockClosure), L.closures[u]? = some c →
    ∃ d, L'.closures[u]? = some d ∧ (c.lockReleased = true → d.lockReleased = true)

theorem Locks.grows_of_closures {L L' : Locks} (h : L'.closures = L.closures) : L.Grows L' :=
  fun u c hc => ⟨c, by rw [h, hc], id⟩

theorem Locks.grows_callUnlock (L : Locks) (u : UnlockFn) : L.Grows (L.callUnlock u) := by
  intro v c hc
  obtain ⟨d, hd, -, -, -, hr⟩ := Locks.getElem?_callUnlock (u := u) hc
  exact ⟨d, hd, fun h => by rw [hr, h, Bool.or_true]⟩

theorem Locks.lock_closures {L : Locks} (h : L.WF) (l : LockRef) (ty : LockType) (d : Nat) :
    (L.lock l ty d).2.closures = L.closures := by
  cases ht : L.holder l ty with
  | some t => rw [Locks.lock_held h ht]
  | none => rw [Locks.lock_free h ht]; rfl

theorem Locks.grows_lockSendTxOn {L : Locks} (h : L.WF) (i : Nat) (l : LockRef) :
    L.Grows (L.lockSendTxOn i l).2 := by
  cases ht : L.holder l .SEND_TX with
  | some t =>
      rw [Locks.lockSendTxOn_held h ht]
      exact Locks.grows_of_closures rfl
  | none =>
      rw [Locks.lockSendTxOn_free h ht]
      exact fun u c hc => ⟨c, Locks.getElem?_acquired hc, id⟩

theorem performLock_wf {s : Server} (h : s.locks.WF) (i : Nat) (c : LockCall) :
    (s.performLock i c).2.WF := by
  cases c with
  | getWalletLock walletId => exact walletLock_wf h walletId
  | lockSendTx walletId => exact (walletLock_wf h walletId).lockSendTxOn i _
  | unlock u => exact h.callUnlock u
  | lockOn l ty => exact h.lock l ty _
  | unlockOn l ty => exact h.unlock l ty
  | delete walletId => exact h.delete walletId

theorem performLock_grows {s : Server} (h : s.locks.WF) (i : Nat) (c : LockCall) :
    s.locks.Grows (s.performLock i c).2 := by
  cases c with
  | getWalletLock walletId => exact Locks.grows_of_closures (walletLock_sameSend walletId).closures
  | lockSendTx walletId =>
      intro u c hc
      rw [← (walletLock_sameSend (s := s) walletId).closures] at hc
      exact Locks.grows_lockSendTxOn (walletLock_wf h walletId) i _ u c hc
  | unlock u => exact Locks.grows_callUnlock _ u
  | lockOn l ty => exact Locks.grows_of_closures (Locks.lock_closures h l ty _)
  | unlockOn l ty => exact Locks.grows_of_closures (Locks.unlock_closures ..)
  | delete walletId => exact Locks.grows_of_closures rfl

theorem outside_locks {s s' : Server} {e : Outside} (hw : s.locks.WF) (h : s.outside e = some s') :
    s'.locks.WF ∧ s.locks.Grows s'.locks := by
  have hsame : s.locks.Grows s.locks := Locks.grows_of_closures rfl
  obtain ⟨d, -, rfl⟩ | ⟨t, L, -, hL, rfl⟩ | ⟨i, u, d, -, -, -, -, rfl⟩ | ⟨w, u, -, rfl⟩ | ⟨w, u, -, rfl⟩ :=
    Server.outside_cases h
  · exact ⟨hw.advance d, Locks.grows_of_closures rfl⟩
  · obtain ⟨x, -, -, -, rfl⟩ := Locks.fire_eq_some hw hL
    exact ⟨hw.unlock _ _, Locks.grows_of_closures (Locks.unlock_closures ..)⟩
  · exact ⟨hw, hsame⟩
  · exact ⟨hw, hsame⟩
  · exact ⟨hw, hsame⟩

/-- The closures that the logs have taken exist, and those that they have given back are released. -/
structure ClosuresInv (s : Server) (g : Nat → Log) : Prop where
  wf : s.locks.WF
  taken : ∀ i u, Taken (g i) (.closure u) → ∃ c, s.locks.closures[u]? = some c
  given : ∀ i u, Given (g i) (.closure u) →
    ∃ c, s.locks.closures[u]? = some c ∧ c.lockReleased = true

theorem ClosuresInv.grow {s s' : Server} {g : Nat → Log} (h : ClosuresInv s g) (hw : s'.locks.WF)
    (hg : s.locks.Grows s'.locks) : ClosuresInv s' g where
  wf := hw
  taken i u hu := by
    obtain ⟨c, hc⟩ := h.taken i u hu
    obtain ⟨d, hd, -⟩ := hg u c hc
    exact ⟨d, hd⟩
  given i u hu := by
    obtain ⟨c, hc, hr⟩ := h.given i u hu
    obtain ⟨d, hd, hd'⟩ := hg u c hc
    exact ⟨d, hd, hd' hr⟩

theorem takes_lockOn_ne (l : LockRef) (ty : LockType) (r : Bool) (u : UnlockFn) :
    takes ⟨.lock (.lockOn l ty), r⟩ ≠ some (.closure u) := by
  cases ty <;> cases r <;> exact fun h => by cases h

/-- A log grows by one event. -/
theorem ClosuresInv.snoc {s : Server} {g : Nat → Log} (h : ClosuresInv s g) {i : Nat} {e : Event Op.Ans}
    (htakes : ∀ u, takes e = some (.closure u) → ∃ c, s.locks.closures[u]? = some c)
    (hgives : ∀ u, Taken (g i) (.closure u) → gives e = some (.closure u) →
      ∃ c, s.locks.closures[u]? = some c ∧ c.lockReleased = true) :
    ClosuresInv s (update g i (g i ++ [e])) where
  wf := h.wf
  taken j u hu := by
    by_cases hj : j = i
    · subst hj
      rw [update_self] at hu
      exact ((taken_snoc ..).mp hu).elim (h.taken j u) (htakes u)
    · rw [update_of_ne hj] at hu
      exact h.taken j u hu
  given j u hu := by
    by_cases hj : j = i
    · subst hj
      rw [update_self] at hu
      exact ((given_snoc ..).mp hu).elim (h.given j u) fun hu => hgives u hu.1 hu.2
    · rw [update_of_ne hj] at hu
      exact h.given j u hu

theorem ClosuresInv.perform {s s' : Server} {g : Nat → Log} (h : ClosuresInv s g) {i : Nat} {c : Op}
    {w r : c.Ans} (hp : s.performOp i c w = some (r, s')) :
    ClosuresInv s' (update g i (g i ++ [⟨c, r⟩])) := by
  by_cases hc : ∃ d, c = .lock d
  · obtain ⟨d, rfl⟩ := hc
    cases hp
    have hgrow : ClosuresInv { s with locks := (s.performLock i d).2 } g :=
      h.grow (performLock_wf h.wf i d) (performLock_grows h.wf i d)
    cases d with
    | lockSendTx walletId =>
        refine hgrow.snoc (fun u hu => ?_) fun u _ hu => by cases hu
        obtain ⟨v, hv, he⟩ := Option.map_eq_some_iff.mp hu
        cases he
        have hw := walletLock_wf h.wf walletId
        cases ht : (s.walletLock walletId).2.holder (s.walletLock walletId).1 .SEND_TX with
        | some t =>
            rw [Server.performLock, Server.lockSendTx, Locks.lockSendTxOn_held hw ht] at hv
            cases hv
        | none =>
            rw [Server.performLock, Server.lockSendTx, Locks.lockSendTxOn_free hw ht] at hv ⊢
            cases hv
            exact ⟨_, List.getElem?_concat_length ..⟩
    | unlock u =>
        refine hgrow.snoc (fun v hv => by cases hv) fun v htaken hv => ?_
        cases hv
        obtain ⟨c, hc⟩ := h.taken i u htaken
        obtain ⟨d, hd, -, -, -, hr⟩ := Locks.getElem?_callUnlock (u := u) hc
        exact ⟨d, hd, by rw [hr, decide_eq_true rfl, Bool.true_or]⟩
    | lockOn l ty =>
        exact hgrow.snoc (fun u hu => (takes_lockOn_ne l ty _ u hu).elim) fun u _ hu => by cases hu
    | unlockOn l ty => exact hgrow.snoc (fun u hu => by cases hu) fun u _ hu => by cases ty <;> cases hu
    | getWalletLock walletId => exact hgrow.snoc (fun u hu => by cases hu) fun u _ hu => by cases hu
    | delete walletId => exact hgrow.snoc (fun u hu => by cases hu) fun u _ hu => by cases hu
  · have hlocks := (Server.performOp_untouched hp).locks fun d hd => hc ⟨d, hd⟩
    refine (h.grow (by rw [hlocks]; exact h.wf) (Locks.grows_of_closures (by rw [hlocks]))).snoc
      (fun u hu => ?_) fun u _ hu => ?_
    · cases c with
      | lock d => exact (hc ⟨d, rfl⟩).elim
      | _ => cases hu
    · cases c with
      | lock d => exact (hc ⟨d, rfl⟩).elim
      | _ => cases hu

theorem history_wp_true {α : Type} (p : Async α) (log : Log) :
    (history Op.Ans).wp p log (fun _ _ => True) fun _ _ => True := by
  induction p generalizing log with
  | ret a => trivial
  | throw e => trivial
  | op c k ih => exact ⟨trivial, fun r _ => ih r _⟩

theorem closures_sound (ok : Service → Step → Prop) :
    Sound world Request.handle (history Op.Ans) (fun _ => []) [] (fun _ => True) (fun _ => True) ok
      ClosuresInv where
  spawn S g req w hg _ h _ := by
    refine ⟨?_, history_wp_true _ _⟩
    rw [← hg.unborn _ le_rfl, update_eq_self]
    exact h
  call s g i c h _ _ hw := by
    refine ⟨trivial, ?_⟩
    have hi : (history Op.Ans).call (g i) c = g i := rfl
    rw [hi, update_eq_self]
    have hlocks := (Server.callOf_untouched i c s).locks (by rintro d rfl; cases hw)
    have hgrow : ClosuresInv (s.callOf i c) g :=
      h.grow (by rw [hlocks]; exact h.wf) (Locks.grows_of_closures (by rw [hlocks]))
    exact hgrow
  perform s g i q c w r s' h _ _ _ hp := ⟨trivial, h.perform hp⟩
  ext S g e s _ _ h _ he := h.grow (outside_locks h.wf he).1 (outside_locks h.wf he).2
  finish s g i h _ _ := by
    refine ⟨trivial, ?_⟩
    have hi : (history Op.Ans).finish (g i) = g i := rfl
    rw [hi, update_eq_self]
    exact h
  call_sync _ _ _ := rfl
  rests_fresh := trivial

/-! ## Released by the handler -/

/-- The flow has released the acquisition itself. -/
def Service.Released (S : Service) (log : Log) (a : Acquisition) : Prop :=
  Given log a ∧ ∀ u, a = .closure u → ¬ S.state.locks.Holds u

/-- A flow that has ended has released what it took, without its timer, exactly when nothing has thrown in
`sendTx` before its `try` and `unlockInputs` has found the same lock twice. -/
theorem lock_released_iff {ok : Service → Step → Prop} {s₀ : Server} (hw : s₀.locks.WF) {S : Service}
    (h : Service.Run ok s₀ S) {i : Nat} {p : Proc Op.Ans JsError Unit Request} (hp : S.procs[i]? = some p)
    (hreq : p.req.TakesLock) (hend : p.rest.Ended) (htook : ∃ a, Taken p.log a) :
    (∀ a, Taken p.log a → S.Released p.log a) ↔ p.req.Clean p.log := by
  obtain ⟨g, hg, -, hI⟩ := (closures_sound ok).reach
    (⟨hw, fun i u hu => absurd hu (not_taken_nil _), fun i u hu => absurd hu (not_given_nil _)⟩) h
  have hlog : g i = p.log := by
    rw [hg.traced i p hp]
    have hafter : (history Op.Ans).after [] p.log = p.log := history_after _ [] p.log
    cases p.rest <;> exact hafter
  have hfree (u : UnlockFn) (hu : Given p.log (.closure u)) : ¬ S.state.locks.Holds u := by
    intro hholds
    rw [← hlog] at hu
    obtain ⟨c, hc, hr⟩ := hI.given i u hu
    rw [hholds.not_released hI.wf hc] at hr
    cases hr
  refine Iff.trans ⟨fun hrel a ha => (hrel a ha).1, fun hgives a ha => ⟨hgives a ha, ?_⟩⟩
    (history_ended (h.steps hp) (Request.handle_done hreq) hend (fun _ _ => trivial) htook)
  rintro u rfl
  exact hfree u (hgives _ ha)

instance (log : Log) (a : Acquisition) : Decidable (Taken log a) :=
  inferInstanceAs (Decidable (∃ e ∈ log, takes e = some a))

/-- A flow goes on, and the storage fails. -/
def storageFails (i : Nat) : Step :=
  .resume i fun _ c => match c with
    | .lib (.getUtxos _ _) | .wallet (.build _ _) => .error { message := "storage" }
    | c => Op.granted (spending "tx" 0) c

/-- The build of a simple send fails, and its `catch` unlocks. -/
theorem failedBuild_ended :
    (Service.exec (fun _ _ => True) [arrives simpleSend (spending "tx" 0), storageFails 0] (oneWallet none)).any
      (fun S => ∃ p ∈ S.procs[0]?, p.req = simpleSend ∧ p.rest.Ended ∧ Taken p.log (.closure 0)) = true := by
  decide +kernel

theorem failedBuild_released :
    ∃ (S : Service) (p : Proc Op.Ans JsError Unit Request), S.procs[0]? = some p ∧ p.req = simpleSend ∧
      ((∀ a, Taken p.log a → S.Released p.log a) ↔ p.req.Clean p.log) := by
  obtain ⟨S, hS, p, hp, hreq, hend, htaken⟩ := Service.run_of_exec failedBuild_ended
  exact ⟨S, p, hp, hreq, lock_released_iff Locks.wf_init hS hp (by rw [hreq]; trivial) hend ⟨_, htaken⟩⟩

/-- A send that leaves the choice of its inputs to a query. -/
def queried : Request :=
  .sendTx { walletId := "w", wallet := 0, body := { outputs := [{ value := some 1 }], inputs := some [.query []] } }

/-- The search for utxos fails, `sendTx` throws, and the next send is refused. -/
def strandedQuery : List Step :=
  [arrives queried (spending "tx" 0), storageFails 0, storageFails 0, storageFails 0,
    arrives simpleSend (spending "tx" 0)]

theorem strandedQuery_ended :
    (Service.exec (fun _ _ => True) strandedQuery (oneWallet none)).any (fun S =>
      (∃ p ∈ S.procs[0]?, p.req = queried ∧ p.rest.Ended ∧ Taken p.log (.closure 0)) ∧
      S.state.locks.closures[0]? = some ⟨.wallet 0, false, 0, 0⟩ ∧
      S.state.locks.holder (.wallet 0) .SEND_TX = some 0 ∧
      S.state.replies = [(1, ⟨200, .error cantSendTxErrorMessage⟩)]) = true := by
  decide +kernel

/-- `sendTx` has ended, and its acquisition still holds the lock. -/
theorem strandedQuery_keeps_lock :
    ∃ S, Service.Run (fun _ _ => True) (oneWallet none) S ∧ ∃ p, S.procs[0]? = some p ∧ p.req.TakesLock ∧
      p.rest.Ended ∧ Taken p.log (.closure 0) ∧ ¬ S.Released p.log (.closure 0) := by
  obtain ⟨S, hS, ⟨p, hp, hreq, hend, htaken⟩, hc, hheld, -⟩ := Service.run_of_exec strandedQuery_ended
  refine ⟨S, hS, p, hp, by rw [hreq]; trivial, hend, htaken, fun hrel => ?_⟩
  exact hrel.2 0 rfl ⟨_, hc, hheld⟩

end WalletHeadless
