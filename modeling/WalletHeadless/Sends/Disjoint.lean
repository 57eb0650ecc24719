import WalletHeadless.Sends.Moves

/-!
# Automatic sends never mine the same utxo

* `SendStep`: the steps of a service that serves automatic sends to the wallets it has registered;
* `sends_sound`: the sends follow their protocol and keep `SendsInv`;
* `automaticSends_mine_disjoint`: while no SEND_TX timer fires, the transactions that reach `runFromMining` for one
  wallet id have disjoint inputs.
-/

namespace WalletHeadless

open Coop Js Function

/-- The timer `t` holds a SEND_TX lock. -/
def Locks.SendTimer (L : Locks) (t : TimerId) : Prop := ∃ x ∈ L.timers, x.id = t ∧ x.type = .SEND_TX

/-- The send whose acquisition armed the timer `t` has ended. -/
def Service.Outlived (S : Service) (t : TimerId) : Prop :=
  ∀ c ∈ S.state.locks.closures, c.timer = t → S.Ended c.owner

instance (S : Service) (t : TimerId) : Decidable (S.Outlived t) :=
  inferInstanceAs (Decidable (∀ c ∈ S.state.locks.closures, c.timer = t → S.Ended c.owner))

/-- Automatic sends to registered wallets, whose utxos nobody unmarks; `fires` are the timers that may. -/
def SendStep (fires : Service → TimerId → Prop) (S : Service) : Step → Prop
  | .spawn req _ => AutomaticSend req ∧ ∀ t ∈ req.target, S.state.initializedWallets.get t.1 = some t.2
  | .resume _ _ => True
  | .ext (.fire t) => fires S t
  | .ext (.unmark _ _) => False
  | .ext _ => True

instance (L : Locks) (t : TimerId) : Decidable (L.SendTimer t) :=
  inferInstanceAs (Decidable (∃ x ∈ L.timers, x.id = t ∧ x.type = .SEND_TX))

instance (fires : Service → TimerId → Prop) [∀ S t, Decidable (fires S t)] (S : Service) (l : Step) :
    Decidable (SendStep fires S l) :=
  match l with
  | .spawn req _ => inferInstanceAs (Decidable (AutomaticSend req ∧
      ∀ t ∈ req.target, S.state.initializedWallets.get t.1 = some t.2))
  | .ext (.fire t) => inferInstanceAs (Decidable (fires S t))
  | .ext (.unmark _ _) => isFalse id
  | .resume _ _ | .ext (.advance _) | .ext (.pick _ _) | .ext (.mark _ _) => isTrue trivial

/-- No send is in progress. -/
structure Server.Idle (s : Server) : Prop where
  wf : s.locks.WF
  released : ∀ (u : UnlockFn) (c : UnlockClosure), s.locks.closures[u]? = some c → c.lockReleased = true
  drafts : ∀ i, s.drafts i = none
  mining : s.mining = []

variable {s : Server} {g : Nat → SendGhost} {i : Nat}

theorem Server.Idle.inv (h : s.Idle) : SendsInv s fun _ => ⟨"", 0, .unborn⟩ where
  wf := h.wf
  flows i := h.drafts i
  mined m hm := by
    rw [h.mining] at hm
    cases hm
  disjoint := by
    rw [h.mining]
    exact .nil
  live u c hc hr := by
    rw [h.released u c hc] at hr
    cases hr

/-! ## What no send notices -/

/-- A step on the other parts of the state. -/
theorem SendsInv.unnoticed {s' : Server} (h : SendsInv s g)
    (hwallets : s'.initializedWallets = s.initializedWallets := by rfl)
    (hhsm : s'.hsmWalletIds = s.hsmWalletIds := by rfl) (hlocks : s'.locks = s.locks := by rfl)
    (hselected : s'.selected = s.selected := by rfl) (hdrafts : s'.drafts = s.drafts := by rfl)
    (hmining : s'.mining = s.mining := by rfl) : SendsInv s' g := by
  refine h.quiet (by rw [hlocks]; exact h.wf) (fun i => ?_) hmining (by rw [hlocks])
  refine ⟨hwallets, fun walletId u hl => ?_, fun u hu => by rwa [hlocks], fun x hx => by rwa [hselected],
    by rw [hdrafts]⟩
  rw [Server.HoldsLock, Server.lockFor, hhsm, hlocks]
  exact hl

theorem SendsInv.hsmLock (h : SendsInv s g) {L : Locks} (hw : L.WF)
    (hwallets : L.wallets = s.locks.wallets) (hL : s.locks.SameSend L) : SendsInv { s with locks := L } g :=
  h.quiet hw (frame_locks hwallets hL) rfl hL.closures

/-- The answers to quiet questions. -/
theorem SendsInv.answer (h : SendsInv s g) {c : Op} (hc : QuietOp c) {w r : c.Ans} {s' : Server}
    (hp : s.performOp i c w = some (r, s')) : SendsInv s' g := by
  cases c with
  | wallet c => exact hc.elim
  | settings c => exact hc.elim
  | proposals c => exact hc.elim
  | send r => exact hc.elim
  | tick => cases hp; exact h
  | lib c =>
      obtain ⟨-, he⟩ := Option.ite_none_right_eq_some.mp hp
      cases he
      exact h
  | sleep ms =>
      obtain ⟨-, he⟩ := Option.ite_none_right_eq_some.mp hp
      cases he
      exact h
  | hsm c =>
      cases c with
      | connect => cases w <;> cases hp <;> exact h.unnoticed
      | disconnect => cases w <;> cases hp <;> exact h.unnoticed
  | registry c =>
      cases c with
      | getConfig => cases hp; exact h
      | getTxSignatureMethod => cases hp; exact h
      | _ => exact hc.elim
  | lock c =>
      cases c with
      | lockOn l ty =>
          obtain ⟨rfl, rfl⟩ := hc
          cases hp
          exact h.hsmLock (h.wf.lock _ _ _) (Locks.lock_wallets h.wf _ _ _) (Locks.sameSend_lock_hsm h.wf _ _)
      | unlockOn l ty =>
          obtain ⟨rfl, rfl⟩ := hc
          cases hp
          exact h.hsmLock (h.wf.unlock _ _) (Locks.unlock_wallets _ _ _) (Locks.sameSend_unlock_hsm _ _)
      | _ => exact hc.elim

/-! ## Questions and answers -/

theorem SendsInv.spawn {n : Nat} (h : SendsInv s g) (hn : g n = ⟨"", 0, .unborn⟩)
    {walletId : String} {w : WalletRef} (hreq : s.initializedWallets.get walletId = some w) :
    SendsInv s (update g n ⟨walletId, w, .out⟩) := by
  have hmined (m : Mined) (hm : m ∈ s.mining) : update g n ⟨walletId, w, .out⟩ m.flow = g m.flow := by
    refine update_of_ne ?_ _ _
    rintro rfl
    exact (h.mined m hm).1 (by rw [hn])
  have hfr (j : Nat) : Frame s s j := ⟨rfl, fun _ _ h => h, fun _ h => h, fun _ h => h, rfl⟩
  have hunspent (id : String) (x : Utxo) (hx : s.Unspent g id x) :
      s.Unspent (update g n ⟨walletId, w, .out⟩) id x := by
    intro m hm he
    rw [hmined m hm] at he
    exact hx m hm he
  refine ⟨h.wf, fun j => ?_, fun m hm => ?_, ?_, fun u c hc hr => ?_⟩
  · by_cases hj : j = n
    · subst hj
      rw [FlowOk, update_self]
      have hf := h.flows j
      rw [FlowOk, hn] at hf
      exact ⟨hreq, hf⟩
    · refine (h.flows j).frame (update_of_ne hj _ _) (hfr j) (fun u st _ x hx => hunspent _ x hx)
        fun u tx hp hr => ⟨?_, ?_, ?_⟩
      · rw [update_of_ne hj]
        exact hr.selected
      · rw [update_of_ne hj]
        exact fun x hx => hunspent _ x (hr.unspent x hx)
      · intro k v st hk
        rw [update_of_ne hj]
        by_cases hkn : k = n
        · subst hkn
          rw [update_self] at hk
          cases hk
        · rw [update_of_ne hkn] at hk ⊢
          exact hr.alone k v st hk
  · rw [hmined m hm]
    exact h.mined m hm
  · refine h.disjoint.imp_of_mem fun {m m'} hm hm' hd => ?_
    rw [hmined m hm, hmined m' hm']
    exact hd
  · have hk := h.live u c hc hr
    rwa [update_of_ne]
    intro ho
    rw [ho, hn] at hk
    obtain ⟨st, he⟩ | he := hk <;> cases he

/-- What asking a question that waits does. -/
theorem SendsInv.call (h : SendsInv s g) (hr : ∀ j, j ≠ i → (g j).Rests) {c : Op}
    (ha : (g i).Allows c) (hw : c.waits = true) :
    (sendProtocol.call (g i) c).Rests ∧ SendsInv (s.callOf i c) (update g i (sendProtocol.call (g i) c)) := by
  have hquiet (c : Op) (hc : QuietOp c) (hq : (g i).Rests) (hs : SendsInv (s.callOf i c) g) :
      (sendProtocol.call (g i) c).Rests ∧
        SendsInv (s.callOf i c) (update g i (sendProtocol.call (g i) c)) := by
    rw [sendProtocol_call hc, update_eq_self]
    exact ⟨hq, hs⟩
  cases c with
  | lock c => cases hw
  | registry c => cases hw
  | settings c => exact ha.2.elim
  | proposals c => cases hw
  | send r => cases hw
  | wallet c =>
      cases c with
      | build w b =>
          obtain ⟨rfl, -, u, hp⟩ := ha
          have hcall : sendProtocol.call (g i) (.wallet (.build (g i).wallet b)) =
              { g i with phase := .holding u .picking } := by simp only [sendProtocol, hp, SendPhase.call]
          rw [hcall]
          exact ⟨trivial, h.startDraft hr hp⟩
      | prepareTx w st =>
          obtain ⟨rfl, -, u, hp⟩ := ha
          have hcall : sendProtocol.call (g i) (.wallet (.prepareTx (g i).wallet st)) =
              { g i with phase := .holding u .picking } := by simp only [sendProtocol, hp, SendPhase.call]
          rw [hcall]
          exact ⟨trivial, h.startDraft hr hp⟩
      | updateOutputSelected w tx =>
          obtain ⟨rfl, u, hp⟩ := ha
          have hcall : sendProtocol.call (g i) (.wallet (.updateOutputSelected (g i).wallet tx)) =
              { g i with phase := .holding u (.marking tx) } := by simp only [sendProtocol, hp, SendPhase.call]
          rw [hcall]
          have hi := h.flows i
          rw [FlowOk, hp] at hi
          exact ⟨trivial, h.stage hr hp [] hi.stage⟩
      | runFromMining w tx =>
          obtain ⟨rfl, u, hp⟩ := ha
          have hcall : sendProtocol.call (g i) (.wallet (.runFromMining (g i).wallet tx)) =
              { g i with phase := .released u none } := by simp only [sendProtocol, hp, SendPhase.call]
          rw [hcall]
          exact ⟨trivial, h.mine hr hp⟩
      | _ => exact ha.2.elim
  | hsm c =>
      refine hquiet _ ha.2 ha.1 ?_
      cases c <;> exact h.unnoticed
  | lib c => exact hquiet _ ha.2 ha.1 h
  | sleep ms => exact hquiet _ ha.2 ha.1 h.unnoticed
  | tick => exact hquiet _ ha.2 ha.1 h

/-- A quiet question changes no phase. -/
theorem SendsInv.perform_quiet (h : SendsInv s g) {q : SendGhost} {c : Op} (hc : QuietOp c)
    (hq : q.Rests) (hcall : sendProtocol.call q c = g i) {w r : c.Ans} {s' : Server}
    (hp : s.performOp i c w = some (r, s')) : SendsInv s' (update g i (sendProtocol.next (g i) c r)) := by
  have hn := (sendProtocol_neutral hc hq).2 r
  rw [hcall] at hn
  have hg : q = g i := by rw [← sendProtocol_call (q := q) hc, hcall]
  rw [hn, hg, update_eq_self]
  exact h.answer hc hp

/-- The phase while `c` is open, from the phase before. -/
theorem phase_of_call {q q' : SendGhost} {c : Op} (h : sendProtocol.call q c = q') :
    q'.phase = q.phase.call c ∧ q'.wallet = q.wallet ∧ q'.walletId = q.walletId := by
  subst h
  exact ⟨rfl, rfl, rfl⟩

theorem next_released {q : SendGhost} {u : UnlockFn} {t : Option Transaction} (h : q.phase = .released u t)
    (c : Op) (r : c.Ans) : sendProtocol.next q c r = q := by
  obtain ⟨walletId, w, phase⟩ := q
  subst h
  rfl

theorem SendsInv.perform_build (h : SendsInv s g) (hr : ∀ j, j ≠ i → (g j).Rests) {u : UnlockFn} {w : WalletRef}
    {b : Build} (hb : b.inputs = []) (hp : (g i).phase = .holding u .picking)
    {a r : Except JsError SendTransaction} {s' : Server}
    (ha : s.performWallet i (.build w b) a = some (r, s')) :
    SendGhost.May (g i) (.wallet (.build w b)) r ∧
      SendsInv s' (update g i { g i with phase := .holding u (SendPhase.built r) }) := by
  cases a with
  | error e =>
      cases ha
      exact ⟨trivial, h.endDraft hr hp trivial rfl⟩
  | ok st =>
      obtain ⟨hbuilt, he⟩ := Option.ite_none_right_eq_some.mp ha
      cases he
      refine ⟨hbuilt.1, ?_⟩
      cases ht : st.transaction with
      | none =>
          have hstage : SendPhase.built (.ok st) = .start := by rw [SendPhase.built, ht]; rfl
          rw [hstage]
          exact h.endDraft hr hp trivial rfl
      | some tx =>
          have hstage : SendPhase.built (.ok st) = .prepared tx := by rw [SendPhase.built, ht]; rfl
          rw [hstage]
          refine h.endDraft hr hp (fun x hx => ?_) rfl
          simpa [hb] using hbuilt.2 tx ht x hx

theorem SendsInv.perform_prepareTx (h : SendsInv s g) (hr : ∀ j, j ≠ i → (g j).Rests) {u : UnlockFn}
    {w : WalletRef} {st : SendTransaction} (hst : st.inputs = []) (hp : (g i).phase = .holding u .picking)
    {a r : Except JsError Transaction} {s' : Server}
    (ha : s.performWallet i (.prepareTx w st) a = some (r, s')) :
    SendsInv s' (update g i { g i with phase := .holding u (SendPhase.preparedBy r) }) := by
  cases a with
  | error e =>
      cases ha
      exact h.endDraft hr hp trivial rfl
  | ok tx =>
      obtain ⟨hprep, he⟩ := Option.ite_none_right_eq_some.mp ha
      cases he
      refine h.endDraft hr hp (fun x hx => ?_) rfl
      simpa [hst] using hprep x hx

theorem SendsInv.perform_mark (h : SendsInv s g) (hr : ∀ j, j ≠ i → (g j).Rests) {u : UnlockFn}
    {tx : Transaction} (hp : (g i).phase = .holding u (.marking tx)) {a r : Except JsError Unit} {s' : Server}
    (ha : s.performWallet i (.updateOutputSelected (g i).wallet tx) a = some (r, s')) :
    SendsInv s' (update g i { g i with phase := .holding u (SendPhase.markedBy tx r) }) := by
  have hi := h.flows i
  rw [FlowOk, hp] at hi
  cases a with
  | error e =>
      cases ha
      exact h.stage hr hp [] trivial
  | ok a =>
      cases ha
      exact h.stage hr hp tx.utxos fun x hx => ⟨hi.stage x hx, mem_markAll hx⟩

/-- What an answer does. -/
theorem SendsInv.perform (h : SendsInv s g) (hr : ∀ j, j ≠ i → (g j).Rests) {q : SendGhost} {c : Op}
    (ha : q.Allows c) (hcall : sendProtocol.call q c = g i) {w r : c.Ans} {s' : Server}
    (hp : s.performOp i c w = some (r, s')) :
    SendGhost.May (g i) c r ∧ SendsInv s' (update g i (sendProtocol.next (g i) c r)) := by
  obtain ⟨hphase, hw, hid⟩ := phase_of_call hcall
  cases c with
  | settings c => exact ha.2.elim
  | proposals c => exact ha.2.elim
  | wallet c =>
      cases c with
      | build w' b =>
          obtain ⟨rfl, hb, u, hq⟩ := ha
          rw [hq] at hphase
          simp only [sendProtocol, hphase, SendPhase.call, SendPhase.next]
          exact h.perform_build hr hb hphase hp
      | prepareTx w' st =>
          obtain ⟨rfl, hst, u, hq⟩ := ha
          rw [hq] at hphase
          simp only [sendProtocol, hphase, SendPhase.call, SendPhase.next]
          exact ⟨trivial, h.perform_prepareTx hr hst hphase hp⟩
      | updateOutputSelected w' tx =>
          obtain ⟨rfl, u, hq⟩ := ha
          rw [hq] at hphase
          rw [← hw] at hp
          simp only [sendProtocol, hphase, SendPhase.call, SendPhase.next]
          exact ⟨trivial, h.perform_mark hr hphase hp⟩
      | runFromMining w' tx =>
          obtain ⟨rfl, u, hq⟩ := ha
          cases hp
          rw [hq] at hphase
          rw [next_released hphase, update_eq_self]
          exact ⟨trivial, h⟩
      | _ => exact ha.2.elim
  | lock c =>
      cases c with
      | lockSendTx walletId =>
          obtain ⟨hq, rfl⟩ := ha
          rw [hq] at hphase
          cases hp
          rw [← hid]
          simp only [sendProtocol, hphase, SendPhase.call, SendPhase.next]
          exact ⟨trivial, h.lockSendTx hr hphase⟩
      | unlock u =>
          cases hp
          refine ⟨trivial, ?_⟩
          obtain ⟨st, hq⟩ | hq := ha
          · rw [hq] at hphase
            simp only [sendProtocol, hphase, SendPhase.call, SendPhase.next]
            exact h.unlock hr hphase
          · rw [hq] at hphase
            rw [next_released hphase, update_eq_self]
            show SendsInv { s with locks := s.locks.callUnlock u } g
            rw [callUnlock_released h hphase]
            exact h
      | lockOn l ty => exact ⟨trivial, h.perform_quiet ha.2 ha.1 hcall hp⟩
      | unlockOn l ty => exact ⟨trivial, h.perform_quiet ha.2 ha.1 hcall hp⟩
      | _ => exact ha.2.elim
  | send reply =>
      cases hp
      have hnext : sendProtocol.next (g i) (.send reply) () = g i := by
        unfold sendProtocol
        cases g i with
        | mk walletId w phase => cases phase <;> rfl
      rw [hnext, update_eq_self]
      exact ⟨trivial, h.unnoticed⟩
  | registry c => exact ⟨trivial, h.perform_quiet ha.2 ha.1 hcall hp⟩
  | hsm c => exact ⟨trivial, h.perform_quiet ha.2 ha.1 hcall hp⟩
  | lib c => exact ⟨trivial, h.perform_quiet ha.2 ha.1 hcall hp⟩
  | sleep ms => exact ⟨trivial, h.perform_quiet ha.2 ha.1 hcall hp⟩
  | tick => exact ⟨trivial, h.perform_quiet ha.2 ha.1 hcall hp⟩

/-! ## The outside -/

/-- A utxo that is not marked is in no transaction mined for the wallet id. -/
theorem SendsInv.unspent_of_unmarked (h : SendsInv s g) (hi : (g i).phase ≠ .unborn) {x : Utxo}
    (hx : ((g i).wallet, x) ∉ s.selected) : s.Unspent g (g i).walletId x := by
  intro m hm he hxm
  obtain ⟨hborn, hw, hsel⟩ := h.mined m hm
  have hreg := h.registered hborn
  rw [Server.Registered, he, h.registered hi] at hreg
  refine hx ?_
  rw [Option.some.inj hreg, ← hw]
  exact hsel x hxm

theorem SendsInv.pick (h : SendsInv s g) {x : Utxo} {s' : Server} (hp : s.pick i x = some s') :
    SendsInv s' g := by
  unfold Server.pick at hp
  split at hp
  next d hd =>
    obtain ⟨⟨-, hx⟩, he⟩ := Option.ite_none_right_eq_some.mp hp
    cases he
    refine ⟨h.wf, fun j => ?_, h.mined, h.disjoint, h.live⟩
    by_cases hj : j = i
    · subst hj
      have hf := h.flows j
      unfold FlowOk at hf ⊢
      cases hph : (g j).phase with
      | unborn =>
          rw [hph] at hf
          cases hd.symm.trans hf
      | out =>
          rw [hph] at hf
          cases hd.symm.trans hf.2
      | holding u st =>
          rw [hph] at hf
          rw [hf.drafted d hd] at hx
          have hborn : (g j).phase ≠ .unborn := by
            rw [hph]
            simp
          refine ⟨hf.registered, hf.lock, fun d' hd' => ?_, fun y hy => ?_, ?_⟩
          · rw [Server.addPick_self] at hd'
            cases hd'
            exact hf.drafted d hd
          · rw [Server.picks_addPick hd] at hy
            rcases List.mem_cons.mp hy with rfl | hy
            · exact h.unspent_of_unmarked hborn hx
            · exact hf.unspent y hy
          · exact hf.stage.picked rfl fun y hy => by
              rw [Server.picks_addPick hd]
              exact List.mem_cons_of_mem _ hy
      | released u t =>
          rw [hph] at hf
          exact ⟨hf.1, hf.2.1, fun tx ht => ⟨(hf.2.2 tx ht).selected, (hf.2.2 tx ht).unspent,
            (hf.2.2 tx ht).alone⟩⟩
      | lost u =>
          rw [hph] at hf
          exact hf
    · exact (h.flows j).frame rfl (frame_drafts hj) (fun u st _ y hy => hy)
        fun u tx _ hr => ⟨hr.selected, hr.unspent, hr.alone⟩
  next => cases hp

/-- The ghost states of a service of automatic sends. -/
abbrev SendsCoherent (S : Service) (g : Nat → SendGhost) : Prop :=
  Coherent world sendProtocol SendGhost.enter ⟨"", 0, .unborn⟩ SendGhost.Rests S g

theorem finish_not_holding (q : SendGhost) (u : UnlockFn) (st : Stage) :
    (sendProtocol.finish q).phase ≠ .holding u st := by
  obtain ⟨walletId, w, phase⟩ := q
  cases phase <;> exact fun h => SendPhase.noConfusion h

theorem SendsCoherent.not_holding {S : Service} (hg : SendsCoherent S g) (hi : S.Ended i) (u : UnlockFn)
    (st : Stage) : (g i).phase ≠ .holding u st := by
  intro hp
  cases hpi : S.procs[i]? with
  | none =>
      rw [hg.unborn i (List.getElem?_eq_none_iff.mp hpi)] at hp
      cases hp
  | some p =>
      obtain ⟨q, -, hq⟩ := (hg.resting i p hpi).of_ended (hi p hpi)
      rw [← hq] at hp
      exact finish_not_holding q u st hp

/-- The SEND_TX timer of a send that has ended. -/
theorem SendsInv.expire {S : Service} (hg : SendsCoherent S g) (h : SendsInv S.state g) {x : Timer}
    (hx : x ∈ S.state.locks.timers) (hty : x.type = .SEND_TX) (hend : S.Outlived x.id) :
    SendsInv { S.state with locks := S.state.locks.unlock x.lock x.type } g := by
  refine ⟨h.wf.unlock _ _, fun j => ?_, h.mined, h.disjoint, by rw [Locks.unlock_closures]; exact h.live⟩
  by_cases hlost : ∃ u, (g j).phase = .lost u
  · obtain ⟨u, hu⟩ := hlost
    have hf := h.flows j
    rw [FlowOk, hu] at hf ⊢
    exact hf
  refine (h.flows j).frame rfl ⟨rfl, fun walletId u hl => ?_, fun u hu => ?_, fun _ hx => hx, rfl⟩
    (fun u st _ y hy => hy) fun u tx _ hr => ⟨hr.selected, hr.unspent, hr.alone⟩
  · obtain ⟨l, hl, c, hc, ho, hcl, ht⟩ := hl
    refine ⟨l, ?_, c, by rw [Locks.unlock_closures, hc], ho, hcl, ?_⟩
    · rw [Server.lockFor, Locks.unlock_wallets]
      exact hl
    · rw [Locks.holder_unlock, if_neg, ht]
      rintro ⟨rfl, -⟩
      -- the timer is that of the flow, which holds its lock and has not ended
      have harmed := h.wf.timers.armed x hx
      rw [hty, ht] at harmed
      have hrel : c.lockReleased = false := by
        refine Locks.Holds.not_released h.wf ⟨c, hc, ?_⟩ hc
        rw [hcl, ht]
      obtain ⟨st, hst⟩ | hk := h.live u c hc hrel
      · exact hg.not_holding (hend c (List.mem_of_getElem? hc) (Option.some.inj harmed)) u st hst
      · rw [ho] at hk
        exact hlost ⟨u, hk⟩
  · obtain ⟨c, hc, hc'⟩ := hu
    exact ⟨c, by rw [Locks.unlock_closures, hc], hc'⟩

theorem SendsInv.outside {fires : Service → TimerId → Prop} {S : Service} (hg : SendsCoherent S g)
    (h : SendsInv S.state g) {e : Outside} (hok : SendStep fires S (.ext e))
    (hfires : ∀ t, fires S t → S.state.locks.SendTimer t → S.Outlived t) {s' : Server}
    (he : S.state.outside e = some s') : SendsInv s' g := by
  cases e with
  | advance d =>
      cases he
      exact h.hsmLock (h.wf.advance d) rfl (Locks.sameSend_advance _ d)
  | fire t =>
      obtain ⟨L, hL, rfl⟩ := Option.map_eq_some_iff.mp he
      obtain ⟨x, hx, rfl, -, rfl⟩ := Locks.fire_eq_some h.wf hL
      cases hty : x.type with
      | HSM =>
          exact h.hsmLock (h.wf.unlock _ _) (Locks.unlock_wallets _ _ _) (Locks.sameSend_unlock_hsm _ _)
      | SEND_TX =>
          rw [← hty]
          exact h.expire hg hx hty (hfires _ hok ⟨x, hx, rfl, hty⟩)
  | pick i x => exact h.pick he
  | mark w x =>
      cases he
      exact h.quiet h.wf (frame_markAll w [x]) rfl rfl
  | unmark w x => exact hok.elim

theorem sendProtocol_finish {q : SendGhost} (h : ∀ u st, q.phase ≠ .holding u st) :
    sendProtocol.finish q = q := by
  obtain ⟨walletId, w, phase⟩ := q
  cases phase with
  | holding u st => exact absurd rfl (h u st)
  | _ => rfl

theorem SendsInv.finish (h : SendsInv s g) (hr : ∀ j, j ≠ i → (g j).Rests) (hi : (g i).Rests) :
    (sendProtocol.finish (g i)).Rests ∧ SendsInv s (update g i (sendProtocol.finish (g i))) := by
  cases hp : (g i).phase with
  | holding u st =>
      have hover : sendProtocol.finish (g i) = { g i with phase := .lost u } := by
        simp only [sendProtocol, hp, SendPhase.finish]
      rw [hover]
      refine ⟨trivial, h.move hr (fun _ hn => by cases hn) h.wf (fun j _ => ⟨rfl, fun _ _ h => h,
        fun _ h => h, fun _ h => h, rfl⟩) (fun _ hx => hx) rfl ?_ (h.live_update fun v hv => ?_)⟩
      · rw [FlowOk, update_self]
        exact h.registered (by rw [hp]; simp)
      · rw [keeps_of_holding hp hv]
        exact .inr rfl
  | _ =>
      rw [sendProtocol_finish (by simp [hp]), update_eq_self]
      exact ⟨hi, h⟩

/-! ## Runs -/

/-- The automatic sends keep the invariant, when a SEND_TX timer fires only on a send that has ended. -/
theorem sends_sound {fires : Service → TimerId → Prop}
    (hfires : ∀ S t, fires S t → S.state.locks.SendTimer t → S.Outlived t) :
    Sound world Request.handle sendProtocol SendGhost.enter ⟨"", 0, .unborn⟩ SendGhost.Rests SendGhost.Rests
      (SendStep fires) SendsInv where
  spawn S g req w hg _ h hok := by
    refine ⟨?_, automatic_wp hok.1⟩
    obtain ⟨walletId, w', ht⟩ := hok.1.target
    have henter : SendGhost.enter req = ⟨walletId, w', .out⟩ := by rw [SendGhost.enter, ht]
    rw [henter]
    exact h.spawn (hg.unborn _ le_rfl) (hok.2 _ ht)
  call s g i c h hr ha hw := h.call hr ha hw
  perform s g i q c w r s' h hr ha hcall hp := h.perform hr ha hcall hp
  ext S g e s hg _ h hok he := h.outside hg hok (hfires S) he
  finish s g i h hr hi := h.finish hr hi
  call_sync q c hc := by
    obtain ⟨walletId, w, phase⟩ := q
    cases c with
    | wallet c => cases hc
    | _ => cases phase <;> rfl
  rests_fresh := trivial

theorem SendsCoherent.walletId {S : Service} (hg : SendsCoherent S g) (i : Nat) :
    (g i).walletId = (S.walletId i).getD "" := by
  unfold Service.walletId Service.request
  cases hp : S.procs[i]? with
  | none => rw [hg.unborn i (List.getElem?_eq_none_iff.mp hp)]; rfl
  | some p =>
      rw [hg.traced i p hp, sendProtocol.ghost_tag SendGhost.walletId (fun _ _ => rfl) (fun _ _ _ => rfl)
        fun _ => rfl]
      unfold SendGhost.enter
      cases ht : p.req.target <;> simp [ht]

/-- Two flows of one wallet id never mine the same utxo. -/
def Service.MiningDisjoint (S : Service) : Prop :=
  S.state.mining.Pairwise fun m m' =>
    S.walletId m.flow = S.walletId m'.flow → ∀ x ∈ m.tx.utxos, x ∉ m'.tx.utxos

instance (S : Service) : Decidable S.MiningDisjoint :=
  inferInstanceAs (Decidable (List.Pairwise _ _))

theorem SendsInv.miningDisjoint {S : Service} (hg : SendsCoherent S g) (h : SendsInv S.state g) :
    S.MiningDisjoint :=
  h.disjoint.imp fun hd he => hd (by rw [hg.walletId, hg.walletId, he])

/-- While no SEND_TX timer fires, the transactions of automatic sends that reach `runFromMining` for one
wallet id have disjoint inputs. -/
theorem automaticSends_mine_disjoint {s₀ : Server} (h₀ : s₀.Idle) {S : Service}
    (h : Service.Run (SendStep fun S t => ¬ S.state.locks.SendTimer t) s₀ S) : S.MiningDisjoint := by
  obtain ⟨g, hg, -, hI⟩ := (sends_sound fun S t ht hs => absurd hs ht).reach h₀.inv h
  exact hI.miningDisjoint hg

theorem oneWallet_idle (method : Option SigningMethod) : (oneWallet method).Idle :=
  ⟨Locks.wf_init, by simp [oneWallet], fun _ => rfl, rfl⟩

def simpleSend : Request := .simpleSendTx { walletId := "w", wallet := 0, body := { address := "a", value := 1 } }

/-- The second send comes too early and is refused, the third after the unlock of the first. -/
def threeSends : List Step :=
  [arrives simpleSend (spending "tx0" 0), goesOn 0 (spending "tx0" 0), .ext (.pick 0 (utxo 0)),
    goesOn 0 (spending "tx0" 0), arrives simpleSend (spending "tx1" 1), goesOn 0 (spending "tx0" 0),
    goesOn 0 (spending "tx0" 0), arrives simpleSend (spending "tx2" 2), goesOn 2 (spending "tx2" 2),
    .ext (.pick 2 (utxo 2)), goesOn 0 (spending "tx0" 0), goesOn 2 (spending "tx2" 2),
    goesOn 2 (spending "tx2" 2), goesOn 2 (spending "tx2" 2)]

theorem threeSends_mining :
    (Service.exec (SendStep fun S t => ¬ S.state.locks.SendTimer t) threeSends (oneWallet none)).any
      (fun S => S.state.mining.map Mined.flow = [2, 0]) = true := by decide +kernel

theorem threeSends_mine_disjoint :
    ∃ S : Service, S.state.mining.map Mined.flow = [2, 0] ∧ S.MiningDisjoint := by
  obtain ⟨S, hS, hm⟩ := Service.run_of_exec threeSends_mining
  exact ⟨S, hm, automaticSends_mine_disjoint (oneWallet_idle none) hS⟩

end WalletHeadless
