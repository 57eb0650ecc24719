import WalletHeadless.Coop.Ghost
import WalletHeadless.Proposals.Protocol
import WalletHeadless.Server.Frame

/-!
# Proposals that spend the same utxo

A proposal takes no lock, and other proposals run between the choice of its inputs and their marks.

* `ProposalStep`: the steps of a service of proposals that mark their inputs;
* `ProposalsInv`: the inputs of the proposals in progress, and those of the proposals that have replied;
* `proposals_disjoint`: when nothing is picked that another proposal in progress has picked, the proposals
  of one wallet have disjoint inputs;
* `interleaved_share_input`: two proposals that pick the same utxo before either has marked it.
-/

namespace WalletHeadless

open Coop Js Function

/-! ## Steps -/

/-- Another proposal in progress has picked `u` for the wallet of flow `i`. -/
def Service.PickedFor (S : Service) (i : Nat) (u : Utxo) : Prop :=
  ∃ j < S.procs.length, j ≠ i ∧ ¬ S.Ended j ∧
    (S.state.drafts j).map Draft.wallet = (S.state.drafts i).map Draft.wallet ∧ u ∈ S.state.picks j

instance (S : Service) (i : Nat) (u : Utxo) : Decidable (S.PickedFor i u) :=
  inferInstanceAs (Decidable (∃ j < S.procs.length, _ ∧ _ ∧ _ ∧ _))

/-- Proposals that mark their inputs, which nobody unmarks; `picks` is when a utxo may be picked. -/
def ProposalStep (picks : Service → Nat → Utxo → Prop) (S : Service) : Step → Prop
  | .spawn req _ => MarkedProposal req
  | .ext (.pick i u) => picks S i u
  | .ext (.unmark _ _) => False
  | _ => True

instance (picks : Service → Nat → Utxo → Prop) [∀ S i u, Decidable (picks S i u)] (S : Service) (l : Step) :
    Decidable (ProposalStep picks S l) :=
  match l with
  | .spawn req _ => inferInstanceAs (Decidable (MarkedProposal req))
  | .ext (.pick i u) => inferInstanceAs (Decidable (picks S i u))
  | .ext (.unmark _ _) => isFalse id
  | .resume _ _ | .ext (.advance _) | .ext (.fire _) | .ext (.mark _ _) => isTrue trivial

/-! ## The invariant -/

/-- The draft of flow `i` is for its wallet, and what its transaction spends is picked and marked, or still to be
marked. -/
def ProposalOk (s : Server) (i : Nat) (q : ProposalGhost) : Prop :=
  match q.phase with
  | .out => s.drafts i = none
  | .building => (s.drafts i).map Draft.wallet = some q.wallet
  | .prepared tx unmarked => (s.drafts i).map Draft.wallet = some q.wallet ∧
      ∀ u ∈ tx.utxos, u ∈ s.picks i ∧ (u ∈ unmarked ∨ (q.wallet, u) ∈ s.selected)
  | .done => True

/-- The utxo `u` is marked, and no proposal in progress has picked it. -/
structure Reserved (s : Server) (g : Nat → ProposalGhost) (w : WalletRef) (u : Utxo) : Prop where
  selected : (w, u) ∈ s.selected
  unpicked : ∀ j, (g j).Live → (g j).wallet = w → u ∉ s.picks j

structure ProposalsInv (s : Server) (g : Nat → ProposalGhost) : Prop where
  flows : ∀ i, ProposalOk s i (g i)
  apart : ∀ i j, i ≠ j → (g i).Live → (g j).Live → (g i).wallet = (g j).wallet → ∀ u ∈ s.picks i, u ∉ s.picks j
  replied : ∀ e ∈ s.replies, ∀ tx ∈ e.2.proposed, (g e.1).phase = .done ∧
    ∀ u ∈ tx.utxos, Reserved s g (g e.1).wallet u
  disjoint : s.replies.Pairwise fun e e' => (g e.1).wallet = (g e'.1).wallet →
    ∀ tx ∈ e.2.proposed, ∀ tx' ∈ e'.2.proposed, ∀ u ∈ tx.utxos, u ∉ tx'.utxos

theorem ProposalOk.mono {s s' : Server} {i : Nat} {q : ProposalGhost} (h : ProposalOk s i q)
    (hd : s'.drafts i = s.drafts i) (hs : ∀ x ∈ s.selected, x ∈ s'.selected) : ProposalOk s' i q := by
  have hp : s'.picks i = s.picks i := Server.picks_congr hd
  unfold ProposalOk at h ⊢
  cases hq : q.phase with
  | out =>
      rw [hq] at h
      exact hd.trans h
  | building =>
      rw [hq] at h
      rw [hd]
      exact h
  | prepared tx unmarked =>
      rw [hq] at h
      rw [hd, hp]
      exact ⟨h.1, fun u hu => ⟨(h.2 u hu).1, (h.2 u hu).2.imp_right (hs _)⟩⟩
  | done => trivial

theorem ProposalOk.pick {s : Server} {i : Nat} {q : ProposalGhost} (h : ProposalOk s i q) {d : Draft}
    (hd : s.drafts i = some d) (u : Utxo) : ProposalOk (s.addPick i d u) i q := by
  unfold ProposalOk at h ⊢
  rw [Server.addPick_self, Server.picks_addPick hd]
  cases hq : q.phase with
  | out =>
      rw [hq, hd] at h
      cases h
  | building =>
      rw [hq, hd] at h
      exact h
  | prepared tx unmarked =>
      rw [hq, hd] at h
      exact ⟨h.1, fun v hv => ⟨List.mem_cons_of_mem _ (h.2 v hv).1, (h.2 v hv).2⟩⟩
  | done => trivial

namespace ProposalsInv

variable {s s' : Server} {g : Nat → ProposalGhost} {i : Nat}

/-- A proposal with inputs in its hands has a draft for its wallet. -/
theorem drafted (h : ProposalsInv s g) (hi : (g i).Live) : (s.drafts i).map Draft.wallet = some (g i).wallet := by
  have hf := h.flows i
  unfold ProposalOk at hf
  unfold ProposalGhost.Live at hi
  cases hp : (g i).phase with
  | building =>
      rw [hp] at hf
      exact hf
  | prepared tx unmarked =>
      rw [hp] at hf
      exact hf.1
  | _ =>
      rw [hp] at hi
      exact hi.elim

/-- A step of flow `i` that neither replies nor picks. -/
theorem move (h : ProposalsInv s g) {q : ProposalGhost} (hd : ∀ j, j ≠ i → s'.drafts j = s.drafts j)
    (hs : ∀ x ∈ s.selected, x ∈ s'.selected) (hr : s'.replies = s.replies) (hi : ProposalOk s' i q)
    (hlive : q.Live → ∀ u ∈ s'.picks i, (g i).Live ∧ q.wallet = (g i).wallet ∧ u ∈ s.picks i)
    (hdone : (g i).phase = .done → q = g i) : ProposalsInv s' (update g i q) := by
  have hback {j : Nat} {u : Utxo} (hj : (update g i q j).Live) (hu : u ∈ s'.picks j) :
      (g j).Live ∧ (update g i q j).wallet = (g j).wallet ∧ u ∈ s.picks j := by
    by_cases hij : j = i
    · subst hij
      rw [update_self] at hj ⊢
      exact hlive hj u hu
    · rw [update_of_ne hij] at hj ⊢
      rw [Server.picks_congr (hd j hij)] at hu
      exact ⟨hj, rfl, hu⟩
  have hsame {e : Nat × Reply} (he : (g e.1).phase = .done) : update g i q e.1 = g e.1 := by
    by_cases hij : e.1 = i
    · rw [hij] at he ⊢
      rw [update_self, hdone he]
    · exact update_of_ne hij _ _
  refine ⟨fun j => ?_, fun j k hjk hj hk hw u hu hu' => ?_, ?_, ?_⟩
  · by_cases hij : j = i
    · subst hij
      rwa [update_self]
    · rw [update_of_ne hij]
      exact (h.flows j).mono (hd j hij) hs
  · obtain ⟨hj, hwj, hu⟩ := hback hj hu
    obtain ⟨hk, hwk, hu'⟩ := hback hk hu'
    exact h.apart j k hjk hj hk (by rw [← hwj, ← hwk, hw]) u hu hu'
  · rw [hr]
    intro e he tx htx
    obtain ⟨hdone, hres⟩ := h.replied e he tx htx
    rw [hsame hdone]
    refine ⟨hdone, fun u hu => ⟨hs _ (hres u hu).selected, fun j hj hw hu' => ?_⟩⟩
    obtain ⟨hj, hwj, hu'⟩ := hback hj hu'
    exact (hres u hu).unpicked j hj (by rw [← hwj, hw]) hu'
  · rw [hr]
    refine h.disjoint.imp_of_mem fun {e e'} he he' hd hw tx htx tx' htx' => ?_
    rw [hsame (h.replied e he tx htx).1, hsame (h.replied e' he' tx' htx').1] at hw
    exact hd hw tx htx tx' htx'

/-- A step that leaves the drafts alone and marks at most. -/
theorem frame (h : ProposalsInv s g) (hd : s'.drafts = s.drafts) (hs : ∀ x ∈ s.selected, x ∈ s'.selected)
    (hr : s'.replies = s.replies) : ProposalsInv s' g := by
  have hmove := h.move (i := 0) (q := g 0) (fun j _ => congrFun hd j) hs hr ((h.flows 0).mono (congrFun hd 0) hs)
    (fun hl u hu => ⟨hl, rfl, by rwa [Server.picks, hd] at hu⟩) fun _ => rfl
  rwa [update_eq_self] at hmove

/-! ## Steps of a flow -/

theorem reply (h : ProposalsInv s g) {reply : Reply}
    (hres : ∀ tx ∈ reply.proposed, (g i).phase = .done ∧ ∀ u ∈ tx.utxos, Reserved s g (g i).wallet u)
    (hnew : ∀ tx ∈ reply.proposed, ∀ e ∈ s.replies, (g i).wallet = (g e.1).wallet → ∀ tx' ∈ e.2.proposed,
      ∀ u ∈ tx.utxos, u ∉ tx'.utxos) : ProposalsInv { s with replies := (i, reply) :: s.replies } g := by
  have hkeep {w : WalletRef} {u : Utxo} (hu : Reserved s g w u) :
      Reserved { s with replies := (i, reply) :: s.replies } g w u := ⟨hu.selected, hu.unpicked⟩
  refine ⟨fun j => (h.flows j).mono rfl fun _ hx => hx, h.apart, ?_, ?_⟩
  · intro e he tx htx
    rcases List.mem_cons.mp he with rfl | he
    · exact ⟨(hres tx htx).1, fun u hu => hkeep ((hres tx htx).2 u hu)⟩
    · exact ⟨(h.replied e he tx htx).1, fun u hu => hkeep ((h.replied e he tx htx).2 u hu)⟩
  · exact List.pairwise_cons.mpr ⟨fun e he hw tx htx tx' htx' => hnew tx htx e he hw tx' htx', h.disjoint⟩

/-- A flow replies with the transaction whose inputs it has marked. -/
theorem propose (h : ProposalsInv s g) {w : WalletRef} {tx tx' : Transaction} (hex : String)
    (hi : g i = ⟨w, .prepared tx []⟩) (htx : tx'.utxos = tx.utxos) :
    ProposalsInv { s with replies := (i, ⟨200, .txHex tx' hex⟩) :: s.replies } (update g i ⟨w, .done⟩) := by
  have hok := h.flows i
  have hlive : (g i).Live := by
    rw [hi]
    trivial
  have hwallet : (g i).wallet = w := by rw [hi]
  rw [hi] at hok
  obtain ⟨-, hok⟩ := hok
  have hmove : ProposalsInv s (update g i ⟨w, .done⟩) :=
    h.move (fun _ _ => rfl) (fun _ hx => hx) rfl trivial (fun hl => hl.elim) fun hd => by rw [hi] at hd; cases hd
  have hlive' {j : Nat} (hj : (update g i ⟨w, .done⟩ j).Live) : j ≠ i ∧ update g i ⟨w, .done⟩ j = g j := by
    by_cases hij : j = i
    · subst hij
      rw [update_self] at hj
      exact hj.elim
    · exact ⟨hij, update_of_ne hij _ _⟩
  refine hmove.reply (fun t ht => ?_) fun t ht e he hw t' ht' u hu hu' => ?_
  · cases ht
    rw [update_self, htx]
    refine ⟨rfl, fun u hu => ⟨(hok u hu).2.resolve_left (by simp), fun j hj hw hu' => ?_⟩⟩
    obtain ⟨hij, hj'⟩ := hlive' hj
    rw [hj'] at hj hw
    exact h.apart i j (Ne.symm hij) hlive hj (by rw [hwallet, hw]) u (hok u hu).1 hu'
  · cases ht
    -- what an earlier reply spends was not picked by this flow
    have hne : e.1 ≠ i := by
      intro hei
      have hdone := (h.replied e he t' ht').1
      rw [hei, hi] at hdone
      cases hdone
    rw [update_self, update_of_ne hne] at hw
    rw [htx] at hu
    exact ((h.replied e he t' ht').2 u hu').unpicked i hlive (by rw [hwallet]; exact hw) (hok u hu).1

theorem call (h : ProposalsInv s g) {c : Op} (ha : (g i).Allows c) (hw : c.waits = true) :
    ProposalsInv (s.callOf i c) (update g i (proposalProtocol.call (g i) c)) := by
  generalize hq : g i = q at ha
  cases ha with
  | lib q c =>
      rw [proposalProtocol_call_lib, ← hq, update_eq_self]
      exact h
  | tick q =>
      rw [proposalProtocol_call_tick, ← hq, update_eq_self]
      exact h
  | refuse q hr => cases hw
  | propose w hex htx => cases hw
  | mark w tx u us =>
      show ProposalsInv s (update g i ⟨w, .prepared tx (u :: us)⟩)
      rw [← hq, update_eq_self]
      exact h
  | build w hb =>
      refine h.move (fun j hj => update_of_ne hj _ _) (fun _ hx => hx) rfl ?_ (fun _ u hu => ?_) fun hd => ?_
      · exact congrArg (Option.map Draft.wallet) (Server.startDraft_self s i w)
      · change u ∈ (s.startDraft i w).picks i at hu
        rw [Server.picks_startDraft] at hu
        cases hu
      · rw [hq] at hd
        cases hd

theorem built (h : ProposalsInv s g) {w : WalletRef} {b : Build} (hb : b.inputs = [])
    (hi : g i = ⟨w, .building⟩) {r : Except JsError SendTransaction}
    (hr : ∀ st, r = .ok st → s.Built i b st) :
    ProposalsInv (s.endDraft i) (update g i ⟨w, .built r⟩) := by
  have hlive : (g i).Live := by
    rw [hi]
    trivial
  have hwallet : (g i).wallet = w := by rw [hi]
  have hdraft : ((s.endDraft i).drafts i).map Draft.wallet = some w := by
    rw [← hwallet, ← h.drafted hlive, Server.endDraft_self, Option.map_map]
    rfl
  refine h.move (fun j hj => update_of_ne hj _ _) (fun _ hx => hx) rfl ?_
    (fun _ u hu => ⟨hlive, hwallet.symm, by rwa [Server.picks_endDraft] at hu⟩) fun hd => by rw [hi] at hd; cases hd
  match r, hr with
  | .error e, _ => trivial
  | .ok ⟨_, none⟩, _ => trivial
  | .ok ⟨inputs, some tx⟩, hr =>
      refine ⟨hdraft, fun u hu => ⟨?_, .inl hu⟩⟩
      rw [Server.picks_endDraft]
      rcases (hr _ rfl).2 tx rfl u hu with hin | hu
      · rw [hb] at hin
        cases hin
      · exact hu

theorem marked (h : ProposalsInv s g) {w : WalletRef} {tx : Transaction} {u : Utxo} {us : List Utxo}
    (hi : g i = ⟨w, .prepared tx (u :: us)⟩) :
    ProposalsInv (s.markAll w [u]) (update g i ⟨w, .prepared tx us⟩) := by
  have hok := h.flows i
  have hlive : (g i).Live := by
    rw [hi]
    trivial
  rw [hi] at hok
  refine h.move (fun _ _ => rfl) (fun _ hx => List.mem_append_right _ hx) rfl ⟨hok.1, fun v hv => ?_⟩
    (fun _ v hv => ⟨hlive, by rw [hi], hv⟩) fun hd => by rw [hi] at hd; cases hd
  obtain ⟨hpick, hv⟩ := hok.2 v hv
  refine ⟨hpick, ?_⟩
  rcases hv with hv | hv
  · rcases List.mem_cons.mp hv with rfl | hv
    · exact .inr (List.mem_cons_self ..)
    · exact .inl hv
  · exact .inr (List.mem_append_right _ hv)

/-- A flow that gives up. -/
theorem giveUp (h : ProposalsInv s g) : ProposalsInv s (update g i { g i with phase := .done }) :=
  h.move (fun _ _ => rfl) (fun _ hx => hx) rfl trivial (fun hl => hl.elim) fun hd => by rw [← hd]

theorem perform (h : ProposalsInv s g) {q : ProposalGhost} {c : Op} {w r : c.Ans} (ha : q.Allows c)
    (hc : proposalProtocol.call q c = g i) (hp : s.performOp i c w = some (r, s')) :
    proposalProtocol.may (g i) c r ∧ ProposalsInv s' (update g i (proposalProtocol.next (g i) c r)) := by
  cases ha with
  | lib q c =>
      obtain ⟨hg, he⟩ := Option.ite_none_right_eq_some.mp hp
      cases he
      rw [proposalProtocol_next_lib, update_eq_self]
      exact ⟨hg, h⟩
  | tick q =>
      cases hp
      rw [proposalProtocol_next_tick, update_eq_self]
      exact ⟨trivial, h⟩
  | refuse q hr =>
      cases hp
      rw [proposalProtocol_next_refuse _ hr, update_eq_self]
      exact ⟨trivial, h.reply (fun tx htx => by rw [hr] at htx; cases htx) fun tx htx => by rw [hr] at htx; cases htx⟩
  | propose v hex htx =>
      cases hp
      refine ⟨trivial, ?_⟩
      rw [← hc]
      exact h.propose hex hc.symm htx
  | mark v tx u us =>
      refine ⟨trivial, ?_⟩
      rw [← hc]
      cases w with
      | error e =>
          cases hp
          have hgive := h.giveUp (i := i)
          rw [← hc] at hgive
          exact hgive
      | ok a =>
          cases hp
          exact h.marked hc.symm
  | build v hb =>
      refine ⟨trivial, ?_⟩
      rw [← hc]
      cases w with
      | error e =>
          cases hp
          exact h.built (r := .error e) hb hc.symm fun st hst => by cases hst
      | ok st =>
          obtain ⟨hbuilt, he⟩ := Option.ite_none_right_eq_some.mp hp
          cases he
          exact h.built (r := .ok st) hb hc.symm fun st' hst => Except.ok.inj hst ▸ hbuilt

/-! ## Steps of the outside -/

/-- A utxo is picked that no other proposal in progress has picked. -/
theorem pick (h : ProposalsInv s g) {u : Utxo} {d : Draft} (hd : s.drafts i = some d)
    (hfree : (d.wallet, u) ∉ s.selected)
    (hothers : ∀ j, j ≠ i → (g j).Live → (g j).wallet = d.wallet → u ∉ s.picks j) :
    ProposalsInv (s.addPick i d u) g := by
  have hpicks {j : Nat} {v : Utxo} (hv : v ∈ (s.addPick i d u).picks j) : v ∈ s.picks j ∨ j = i ∧ v = u := by
    by_cases hij : j = i
    · subst hij
      rw [Server.picks_addPick hd] at hv
      rcases List.mem_cons.mp hv with rfl | hv
      · exact .inr ⟨rfl, rfl⟩
      · exact .inl hv
    · rw [Server.picks_addPick_ne hij] at hv
      exact .inl hv
  have hwallet (hi : (g i).Live) : (g i).wallet = d.wallet := by
    have hdraft := h.drafted hi
    rw [hd] at hdraft
    exact (Option.some.inj hdraft).symm
  refine ⟨fun j => ?_, fun j k hjk hj hk hw v hv hv' => ?_, fun e he tx htx => ?_, h.disjoint⟩
  · by_cases hij : j = i
    · subst hij
      exact (h.flows j).pick hd u
    · exact (h.flows j).mono (update_of_ne hij _ _) fun _ hx => hx
  · rcases hpicks hv with hold | ⟨rfl, rfl⟩
    · rcases hpicks hv' with hold' | ⟨rfl, rfl⟩
      · exact h.apart j k hjk hj hk hw v hold hold'
      · exact hothers j hjk hj (by rw [hw, hwallet hk]) hold
    · rcases hpicks hv' with hold' | ⟨rfl, -⟩
      · exact hothers k (Ne.symm hjk) hk (by rw [← hw, hwallet hj]) hold'
      · exact hjk rfl
  · obtain ⟨hdone, hres⟩ := h.replied e he tx htx
    refine ⟨hdone, fun v hv => ⟨(hres v hv).selected, fun j hj hw hv' => ?_⟩⟩
    rcases hpicks hv' with hv' | ⟨rfl, rfl⟩
    · exact (hres v hv).unpicked j hj hw hv'
    · -- what has been replied is marked
      refine hfree ?_
      rw [← hwallet hj, hw]
      exact (hres v hv).selected

end ProposalsInv

/-- The ghost states of a service of proposals. -/
abbrev ProposalsCoherent (S : Service) (g : Nat → ProposalGhost) : Prop :=
  Coherent world proposalProtocol ProposalGhost.enter ⟨0, .out⟩ (fun _ => True) S g

namespace ProposalsCoherent

variable {S : Service} {g : Nat → ProposalGhost} {i : Nat}

/-- A proposal with inputs in its hands has not ended. -/
theorem inProgress (hg : ProposalsCoherent S g) (hi : (g i).Live) : i < S.procs.length ∧ ¬ S.Ended i := by
  have hlt : i < S.procs.length := by
    by_contra hle
    rw [hg.unborn i (Nat.le_of_not_lt hle)] at hi
    exact hi
  refine ⟨hlt, fun hend => ?_⟩
  have hp := List.getElem?_eq_getElem hlt
  obtain ⟨q, -, hq⟩ := (hg.resting i _ hp).of_ended (hend _ hp)
  rw [← hq] at hi
  exact hi

theorem wallet (hg : ProposalsCoherent S g) (i : Nat) : (g i).wallet = (S.wallet i).getD 0 := by
  unfold Service.wallet Service.request
  cases hp : S.procs[i]? with
  | none =>
      rw [hg.unborn i (List.getElem?_eq_none_iff.mp hp)]
      rfl
  | some p =>
      rw [hg.traced i p hp, proposalProtocol.ghost_tag ProposalGhost.wallet (fun _ _ => rfl)
        (fun _ _ _ => rfl) fun _ => rfl]
      rfl

end ProposalsCoherent

/-! ## Runs -/

theorem proposals_sound :
    Sound world Request.handle proposalProtocol ProposalGhost.enter ⟨0, .out⟩ (fun _ => True) (fun _ => True)
      (ProposalStep fun S i u => ¬ S.PickedFor i u) ProposalsInv where
  spawn S g req w hg _ h hok := by
    have hfresh : g S.procs.length = ⟨0, .out⟩ := hg.unborn _ le_rfl
    have hdraft := h.flows S.procs.length
    rw [hfresh] at hdraft
    refine ⟨h.move (fun _ _ => rfl) (fun _ hx => hx) rfl hdraft (fun hl => hl.elim) fun hd => ?_, proposal_wp hok⟩
    rw [hfresh] at hd
    cases hd
  call s g i c h _ ha hw := ⟨trivial, h.call ha hw⟩
  perform s g i q c w r s' h _ ha hc hp := h.perform ha hc hp
  ext S g e s hg _ h hok he := by
    obtain ⟨d, -, rfl⟩ | ⟨t, L, -, -, rfl⟩ | ⟨i, u, d, rfl, hd, -, hfree, rfl⟩ | ⟨w, u, -, rfl⟩ | ⟨w, u, rfl, rfl⟩ :=
      Server.outside_cases he
    · exact h.frame rfl (fun _ hx => hx) rfl
    · exact h.frame rfl (fun _ hx => hx) rfl
    · refine h.pick hd hfree fun j hij hj hw hu => hok ?_
      obtain ⟨hlt, hend⟩ := ProposalsCoherent.inProgress hg hj
      exact ⟨j, hlt, hij, hend, by rw [h.drafted hj, hd, hw]; rfl, hu⟩
    · exact h.frame rfl (fun _ hx => List.mem_append_right _ hx) rfl
    · exact hok.elim
  finish s g i h _ _ := ⟨trivial, h.giveUp⟩
  call_sync q c hc := by
    obtain ⟨w, phase⟩ := q
    cases c with
    | wallet c => cases hc
    | _ => cases phase <;> rfl
  rests_fresh := trivial

/-- Two proposals for one wallet never have the same input. -/
def Service.ProposalsDisjoint (S : Service) : Prop :=
  S.state.replies.Pairwise fun e e' => S.wallet e.1 = S.wallet e'.1 →
    ∀ tx ∈ e.2.proposed, ∀ tx' ∈ e'.2.proposed, ∀ u ∈ tx.utxos, u ∉ tx'.utxos

instance (S : Service) : Decidable S.ProposalsDisjoint :=
  inferInstanceAs (Decidable (List.Pairwise _ _))

/-- No transaction is being built, and nothing has been replied. -/
structure Server.NoProposals (s : Server) : Prop where
  drafts : ∀ i, s.drafts i = none
  replies : s.replies = []

theorem Server.NoProposals.inv {s : Server} (h : s.NoProposals) : ProposalsInv s fun _ => ⟨0, .out⟩ where
  flows := h.drafts
  apart _ _ _ hi := hi.elim
  replied := by rw [h.replies]; simp
  disjoint := by rw [h.replies]; exact .nil

/-- When no utxo is picked that another proposal in progress has picked for the same wallet, the proposals
for one wallet have disjoint inputs. -/
theorem proposals_disjoint {s₀ : Server} (h₀ : s₀.NoProposals) {S : Service}
    (h : Service.Run (ProposalStep fun S i u => ¬ S.PickedFor i u) s₀ S) : S.ProposalsDisjoint := by
  obtain ⟨g, hg, -, hI⟩ := proposals_sound.reach h₀.inv h
  exact hI.disjoint.imp fun hd he => hd (by rw [ProposalsCoherent.wallet hg, ProposalsCoherent.wallet hg, he])

theorem oneWallet_noProposals (method : Option SigningMethod) : (oneWallet method).NoProposals := ⟨fun _ => rfl, rfl⟩

def proposes : Request :=
  .buildTxProposal { walletId := "w", wallet := 0, body := { outputs := [{}], mark_inputs_as_used := some true } }

/-- A proposal has its transaction prepared. -/
def prepares (i : Nat) (tx : Transaction) : Step :=
  .resume i fun _ c => match c with
    | .wallet (.build _ b) => .ok ⟨b.inputs, some tx⟩
    | c => Op.granted tx c

/-- Two proposals are prepared, each with the utxo picked for it, and then mark and reply. -/
def interleaved (n m : Nat) : List Step :=
  [arrives proposes (spending "tx0" n), .ext (.pick 0 (utxo n)), arrives proposes (spending "tx1" m),
    .ext (.pick 1 (utxo m)), prepares 0 (spending "tx0" n), prepares 1 (spending "tx1" m),
    goesOn 0 (spending "tx0" n), goesOn 1 (spending "tx1" m), goesOn 0 (spending "tx0" n),
    goesOn 1 (spending "tx1" m)]

theorem interleaved_replies :
    (Service.exec (ProposalStep fun S i u => ¬ S.PickedFor i u) (interleaved 0 1) (oneWallet none)).any
      (fun S => S.state.replies.map (fun e => e.2.proposed.map Transaction.utxos) =
        [some [utxo 1], some [utxo 0]]) = true := by
  decide +kernel

theorem interleaved_disjoint :
    ∃ S : Service, S.state.replies.map (fun e => e.2.proposed.map Transaction.utxos) =
      [some [utxo 1], some [utxo 0]] ∧ S.ProposalsDisjoint := by
  obtain ⟨S, hS, hr⟩ := Service.run_of_exec interleaved_replies
  exact ⟨S, hr, proposals_disjoint (oneWallet_noProposals none) hS⟩

/-- Two proposals pick the same utxo, and both reply with it. -/
theorem interleaved_share_input :
    ∃ S, Service.Run (ProposalStep fun _ _ _ => True) (oneWallet none) S ∧ ¬ S.ProposalsDisjoint := by
  have hexec : (Service.exec (ProposalStep fun _ _ _ => True) (interleaved 0 0) (oneWallet none)).any
      (fun S => ¬ S.ProposalsDisjoint) = true := by
    decide +kernel
  exact Service.run_of_exec hexec

end WalletHeadless
