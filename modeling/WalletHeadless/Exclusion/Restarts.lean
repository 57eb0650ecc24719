import WalletHeadless.Exclusion.Invariant
import WalletHeadless.Registry.Moves

/-!
# The critical section and restarts

A stop deletes the lock of its wallet id and its HSM mark, and a start sets the mark: from then on `getWalletLock`
finds another lock, whoever is inside with the old one.

* `Service.Exclusive`: at most one request of a wallet id is inside;
* `keepsLocks`: the lock of an id changes only while no request of this id is inside;
* `exclusive_of_keepsLocks`: the runs of such calls;
* `restart_admits_second`: a send, a stop, a start and a second send.
-/

namespace WalletHeadless

open Coop Js Function

/-- The flow serves a request of the wallet id, and is inside. -/
def InsideOf (p : Proc Op.Ans JsError Unit Request) (walletId : String) : Prop :=
  p.req.target.map Prod.fst = some walletId ∧ Inside p.log

instance (p : Proc Op.Ans JsError Unit Request) (walletId : String) : Decidable (InsideOf p walletId) :=
  inferInstanceAs (Decidable (_ ∧ _))

/-- At most one request of a wallet id is in the SEND_TX critical section. -/
def Service.Exclusive (S : Service) : Prop :=
  ∀ (walletId : String) (i j : Nat) (p q : Proc Op.Ans JsError Unit Request), S.procs[i]? = some p →
    S.procs[j]? = some q → InsideOf p walletId → InsideOf q walletId → i = j

/-- Requests come for registered wallets, and no SEND_TX timer fires. -/
def ExclusionStep (S : Service) : Step → Prop
  | .spawn req _ => ∀ t ∈ req.target, S.state.initializedWallets.get t.1 = some t.2
  | .ext (.fire t) => ¬ S.state.locks.SendTimer t
  | _ => True

instance (S : Service) (l : Step) : Decidable (ExclusionStep S l) :=
  match l with
  | .spawn req _ => inferInstanceAs (Decidable (∀ t ∈ req.target, S.state.initializedWallets.get t.1 = some t.2))
  | .ext (.fire t) => inferInstanceAs (Decidable (¬ S.state.locks.SendTimer t))
  | .ext (.advance _) | .ext (.pick _ _) | .ext (.mark _ _) | .ext (.unmark _ _) => isTrue trivial
  | .resume _ _ => isTrue trivial

/-- A call changes the lock of a wallet id only while no request of this id is inside. -/
def keepsLocks (S : Service) (_ : Nat) (c : Op) (_ : c.Ans) (_ : Server) : Bool :=
  (movesLock c).all fun walletId => S.procs.all fun p => !decide (InsideOf p walletId)

theorem keepsLocks_iff {S : Service} {i : Nat} {c : Op} {r : c.Ans} {s : Server} :
    keepsLocks S i c r s = true ↔ ∀ walletId, movesLock c = some walletId → ∀ p ∈ S.procs, ¬ InsideOf p walletId := by
  unfold keepsLocks
  cases movesLock c with
  | none => simp
  | some walletId => simp [List.all_eq_true]

/-! ## Runs -/

theorem LockGhost.after_log (q : LockGhost) (t : Log) : (lockProtocol.after q t).log = q.log ++ t :=
  lockProtocol.after_log LockGhost.log (fun _ _ => rfl) (fun _ _ _ => rfl) q t

/-- What the ghost state of a flow is: its wallet id and its log. -/
def lockGhost (p : Proc Op.Ans JsError Unit Request) : LockGhost := ⟨p.req.target.map Prod.fst, p.log⟩

abbrev LockCoherent (S : Service) (g : Nat → LockGhost) : Prop :=
  Coherent world lockProtocol LockGhost.enter {} (fun q => q.looked = none) S g

theorem LockCoherent.ghost {S : Service} {g : Nat → LockGhost} (hg : LockCoherent S g) {i : Nat}
    {p : Proc Op.Ans JsError Unit Request} (hp : S.procs[i]? = some p) :
    g i = lockGhost p := by
  have hafter : g i = lockProtocol.after (.enter p.req) p.log := by
    rw [hg.traced i p hp]
    cases p.rest <;> rfl
  have hid : (lockProtocol.after (.enter p.req) p.log).walletId = p.req.target.map Prod.fst :=
    lockProtocol.after_tag LockGhost.walletId (fun _ _ => rfl) (fun _ _ _ => rfl) _ _
  have hlog : (lockProtocol.after (.enter p.req) p.log).log = p.log := LockGhost.after_log _ _
  have hpair : g i = ⟨(lockProtocol.after (.enter p.req) p.log).walletId,
      (lockProtocol.after (.enter p.req) p.log).log⟩ := hafter
  rw [hpair, hid, hlog]
  rfl

theorem LockCoherent.pins {S : Service} {g : Nat → LockGhost} (hg : LockCoherent S g) {firm : Acquisition → Prop}
    {i : Nat} {walletId : String} (hi : (g i).Pins firm walletId) :
    ∃ p ∈ S.procs, (lockGhost p).Pins firm walletId := by
  cases hp : S.procs[i]? with
  | none =>
      rw [hg.unborn i (List.getElem?_eq_none_iff.mp hp)] at hi
      cases hi.1
  | some p =>
      rw [hg.ghost hp] at hi
      exact ⟨p, List.mem_of_getElem? hp, hi⟩

/-- What has to be shown for an invariant of the locks to hold, while the lock of an id changes only when no flow is
inside for it by an acquisition that is `firm`. -/
structure LockGuarded (firm : Acquisition → Prop) (ok : Service → Step → Prop)
    (Inv : Server → (Nat → LockGhost) → Prop) : Prop where
  enter : ∀ s g i req, Inv s g → Inv s (update g i (LockGhost.enter req))
  frame : ∀ s s' g, Inv s g → s'.locks = s.locks → s'.hsmWalletIds = s.hsmWalletIds → Inv s' g
  advance : ∀ s g d, Inv s g → Inv { s with locks := s.locks.advance d } g
  fire : ∀ S g t L, Inv S.state g → ok S (.ext (.fire t)) → S.state.locks.fire t = some L →
    Inv { S.state with locks := L } g
  perform : ∀ s g i c w r s', Inv s g → (∀ j, j ≠ i → (g j).looked = none) → (g i).Allows c →
    s.performOp i c w = some (r, s') →
    (∀ walletId, movesLock c = some walletId → ∀ j, j ≠ i → ¬ (g j).Pins firm walletId) →
    Inv s' (update g i ((g i).next c r))

namespace LockGuarded

variable {firm : Acquisition → Prop} {ok : Service → Step → Prop} {Inv : Server → (Nat → LockGhost) → Prop}
  {G : Service → Nat → (c : Op) → c.Ans → Server → Prop}

theorem guarded (h : LockGuarded firm ok Inv) (hkeeps : ∀ S i c r s, G S i c r s →
      ∀ walletId, movesLock c = some walletId → ∀ p ∈ S.procs, ¬ (lockGhost p).Pins firm walletId) :
    Guarded world Request.handle lockProtocol LockGhost.enter {} (fun q => q.looked = none) (fun q => q.looked = none)
      (fun _ _ => True) ok G Inv where
  spawn S g req w hg hr hI _ := ⟨h.enter _ _ _ _ hI, req.handle_locks⟩
  call s g i c hI hr ha hw := by
    have hrest : (g i).looked = none := by
      cases ha with
      | work hq hc => exact hq
      | other hq hout hc => exact hq
      | _ => cases hw
    refine ⟨hrest, ?_⟩
    rw [show lockProtocol.call (g i) c = g i from rfl, update_eq_self]
    have hlocks := (Server.callOf_untouched i c s).locks (by rintro d rfl; cases hw)
    exact h.frame _ _ _ hI hlocks (Server.hsmWalletIds_callOf ..)
  perform S g₀ s g i q c w r s' hg hagree _ _ hG hI hr ha hc hp := by
    obtain rfl : q = g i := hc
    refine ⟨trivial, h.perform _ _ _ _ _ _ _ hI hr ha hp fun walletId hm j hj hpins => ?_⟩
    rw [hagree j hj] at hpins
    obtain ⟨p, hproc, hpins⟩ := LockCoherent.pins hg hpins
    exact hkeeps S i c w s hG walletId hm p hproc hpins
  ext S g e s hg hr hI hok he := by
    obtain ⟨d, -, rfl⟩ | ⟨t, L, rfl, hL, rfl⟩ | ⟨i, u, d, -, -, -, -, rfl⟩ | ⟨w, u, -, rfl⟩ | ⟨w, u, -, rfl⟩ :=
      Server.outside_cases he
    · exact h.advance _ _ d hI
    · exact h.fire _ _ t L hI hok hL
    · exact h.frame _ _ _ hI rfl rfl
    · exact h.frame _ _ _ hI rfl rfl
    · exact h.frame _ _ _ hI rfl rfl
  finish s g i hI _ hf := ⟨hf, by rw [show lockProtocol.finish (g i) = g i from rfl, update_eq_self]; exact hI⟩
  call_sync _ _ _ := rfl
  rests_fresh := rfl
  of_enter _ := trivial
  of_call _ _ _ _ := trivial
  of_next _ _ _ _ _ := trivial
  of_finish _ _ _ := trivial

end LockGuarded

theorem exclusion_guarded (firm : Acquisition → Prop) (hfirm : ∀ l, firm (.lock l)) :
    LockGuarded firm ExclusionStep (ExclusionInv firm) where
  enter s g i req h := by
    have hout (a : Acquisition) : ¬ (LockGhost.enter req).Held a := fun ha => not_taken_nil a ha.1
    refine h.move h.wf (fun _ => rfl) (fun _ _ _ _ _ ho => ho) (fun _ _ hu => hu) ?_ ?_
    · exact ⟨fun a b ha => absurd ha (not_taken_nil a), fun l hl => (by cases hl), fun a ha => absurd ha (hout a),
        fun u hu => absurd hu (not_given_nil _)⟩
    · exact fun j a b l _ ha => absurd ha (hout a)
  frame s s' g h hl hh := by
    have hfor (walletId : String) : s'.lockFor walletId = s.lockFor walletId :=
      Server.lockFor_congr (by rw [hl]) (by rw [hh])
    refine h.frame (by rw [hl]; exact h.wf) (by rw [hl]; exact .refl _) fun j walletId l _ hl' => ?_
    rw [hfor, hl']
  advance s g d h := h.frame (h.wf.advance d) (Locks.sameSend_advance _ d) fun _ _ _ _ hl => hl
  fire S g t L h hok hL := by
    have ht : ∀ x ∈ S.state.locks.timers, x.id = t → x.type ≠ .SEND_TX :=
      fun x hx hid hty => hok ⟨x, hx, hid, hty⟩
    obtain ⟨x, -, -, -, rfl⟩ := Locks.fire_eq_some h.wf hL
    refine h.frame (h.wf.unlock _ _) (Locks.sameSend_fire_hsm h.wf hL ht) fun j walletId l _ hl => ?_
    rw [S.state.lockFor_locks (Locks.unlock_wallets _ _ _), hl]
  perform s g i c w r s' h hr ha hp hmoves := h.perform hfirm hr ha hp hmoves

theorem exclusionInv_init (firm : Acquisition → Prop) {s : Server} (hw : s.locks.WF) :
    ExclusionInv firm s fun _ => {} where
  wf := hw
  flows i := ⟨fun a b ha => absurd ha (not_taken_nil a), fun l hl => (by cases hl),
    fun a ha => absurd ha.1 (not_taken_nil a), fun u hu => absurd hu (not_given_nil _)⟩
  alone i j a b l ha := absurd ha.1 (not_taken_nil a)

/-- While the lock of a wallet id changes only with no request of this id inside, at most one is inside. -/
theorem exclusive_of_keepsLocks {s₀ : Server} (hw : s₀.locks.WF) {S : Service}
    (h : Service.Run (fun S l => ExclusionStep S l ∧ S.Meets world Request.handle
      (fun S i c r s => keepsLocks S i c r s = true) l) s₀ S) : S.Exclusive := by
  have hguarded := (exclusion_guarded (fun _ => True) fun _ => trivial).guarded
    (G := fun S i c r s => keepsLocks S i c r s = true) fun S i c r s hG walletId hm p hp hpins => by
      obtain ⟨hid, a, -, ha, hk⟩ := hpins
      exact keepsLocks_iff.mp hG walletId hm p hp ⟨hid, a, ha, hk⟩
  obtain ⟨g, hg, -, hI⟩ := hguarded.reach (exclusionInv_init _ hw) h
  have howned (k : Nat) (r : Proc Op.Ans JsError Unit Request) (hr : S.procs[k]? = some r) (walletId : String)
      (hin : InsideOf r walletId) : ∃ a l, (g k).Held a ∧ S.state.locks.Owns k l a ∧ S.state.lockFor walletId = some l := by
    obtain ⟨hid, a, ha⟩ := hin
    have hheld : (g k).Held a := by
      rw [LockCoherent.ghost hg hr]
      exact ha
    obtain ⟨l, ho, hlock⟩ := (hI.flows k).owns a hheld
    obtain ⟨walletId', hid', hl⟩ := hlock trivial
    rw [LockCoherent.ghost hg hr] at hid'
    cases hid.symm.trans hid'
    exact ⟨a, l, hheld, ho, hl⟩
  intro walletId i j p q hp hq hin hin'
  obtain ⟨a, l, ha, hl, hfor⟩ := howned i p hp walletId hin
  obtain ⟨b, l', hb, hl', hfor'⟩ := howned j q hq walletId hin'
  cases hfor.symm.trans hfor'
  exact hI.alone i j a b l ha hb hl hl'

/-- A stop of the wallet and a start under the same id. -/
def stopThenStart : List Step :=
  [comes (.stop "w"), proceeds 1, proceeds 1, proceeds 1, comes startsReadonly, proceeds 2, proceeds 2]

/-- A send through the wallet that the start has created. -/
def nextSend : Request := .simpleSendTx { walletId := "w", wallet := 1, body := { address := "a", value := 1 } }

theorem failedSend_restarted :
    (Service.exec (fun S l => ExclusionStep S l ∧ S.Meets world Request.handle
      (fun S i c r s => keepsLocks S i c r s = true) l)
      ([comes simpleSend, fails 0] ++ stopThenStart ++ [comes nextSend]) (oneWallet none)).any (fun S =>
      (∃ p ∈ S.procs[0]?, Taken p.log (.closure 0)) ∧ ∃ p ∈ S.procs[3]?, InsideOf p "w") = true := by
  decide +kernel

/-- The first send has failed and unlocked before the stop. -/
theorem failedSend_exclusive :
    ∃ S : Service, (∃ p ∈ S.procs[0]?, Taken p.log (.closure 0)) ∧ (∃ p ∈ S.procs[3]?, InsideOf p "w") ∧
      S.Exclusive := by
  obtain ⟨S, hS, htaken, hin⟩ := Service.run_of_exec failedSend_restarted
  exact ⟨S, htaken, hin, exclusive_of_keepsLocks Locks.wf_init hS⟩

theorem slowSend_restarted :
    (Service.exec ExclusionStep ([comes simpleSend] ++ stopThenStart ++ [comes nextSend]) (oneWallet none)).any (fun S =>
      (S.Ended 1 ∧ S.Ended 2) ∧ (∃ p ∈ S.procs[0]?, InsideOf p "w") ∧ ∃ p ∈ S.procs[3]?, InsideOf p "w") = true := by
  decide +kernel

/-- The wallet is stopped and started while a send is inside, and a second send gets in. -/
theorem restart_admits_second :
    ∃ S, Service.Run ExclusionStep (oneWallet none) S ∧ (S.Ended 1 ∧ S.Ended 2) ∧
      (∃ p ∈ S.procs[0]?, InsideOf p "w") ∧ (∃ p ∈ S.procs[3]?, InsideOf p "w") ∧ ¬ S.Exclusive := by
  obtain ⟨S, hS, hend, ⟨p, hp, hin⟩, q, hq, hin'⟩ := Service.run_of_exec slowSend_restarted
  refine ⟨S, hS, hend, ⟨p, hp, hin⟩, ⟨q, hq, hin'⟩, fun h => ?_⟩
  have hsame := h "w" 0 3 p q hp hq hin hin'
  cases hsame

end WalletHeadless
