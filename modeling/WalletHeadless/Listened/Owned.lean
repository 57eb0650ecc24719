import WalletHeadless.Listened.Stored
import WalletHeadless.Registry.Moves

/-!
# Whose proposals are stored

A handler awaits the swap service between the request and the proposal that it stores.

* `Service.ProposalsOwned`: proposals are stored for registered ids, by requests to the registered wallet;
* `keepsOwners`: the calls that keep it so;
* `proposals_owned`: the runs of such calls;
* `register_outlives_wallet`: a registration that comes back after its wallet has stopped.
-/

namespace WalletHeadless

open Coop Js Function

/-- An id with proposals is registered, and each of them was added by a request to the wallet that is registered
under the id. -/
structure Service.ProposalsOwned (S : Service) : Prop where
  initialized : ∀ walletId, S.state.walletListenedProposals.has walletId = true →
    S.state.initializedWallets.has walletId = true
  added : ∀ walletId w proposalId proposal, S.state.initializedWallets.get walletId = some w →
    S.state.stored walletId proposalId = some proposal →
    S.walletId proposal.addedBy = some walletId ∧ S.wallet proposal.addedBy = some w

/-- The ids of the proposals that are stored for a wallet id. -/
def Server.listened (s : Server) (walletId : String) : List String :=
  ((s.walletListenedProposals.get walletId).bind fun m => s.proposalMaps[m]?).elim [] Js.Map.keys

/-- A proposal is added while the wallet of the request is the one registered under its id, and no wallet is
registered under an id that has proposals. -/
def keepsOwners (S : Service) (i : Nat) (c : Op) (_ : c.Ans) (s : Server) : Bool :=
  match c with
  | .proposals (.addProposal walletId _ _) =>
    s.initializedWallets.has walletId && s.initializedWallets.get walletId = S.wallet i
  | .registry (.setWallet walletId _) => s.listened walletId = []
  | _ => true

theorem Server.stored_of_listened {s : Server} {walletId : String} (h : s.listened walletId = []) (proposalId : String) :
    s.stored walletId proposalId = none := by
  unfold Server.stored
  unfold Server.listened at h
  cases hmap : (s.walletListenedProposals.get walletId).bind fun m => s.proposalMaps[m]? with
  | none => rfl
  | some map =>
      rw [hmap] at h
      rw [Option.bind_some]
      by_contra hne
      obtain ⟨proposal, hproposal⟩ := Option.ne_none_iff_exists'.mp hne
      have hmem : proposalId ∈ map.keys := Js.Map.mem_keys.mpr ⟨proposal, hproposal⟩
      rw [show map.keys = [] from h] at hmem
      cases hmem

/-- The id is registered, and its proposals were added by requests to the wallet. -/
def OwnedBy (s : Server) (g : Nat → RegistryGhost) (walletId : String) : Prop :=
  ∃ w, s.initializedWallets.get walletId = some w ∧ ∀ proposalId proposal,
    s.stored walletId proposalId = some proposal → (g proposal.addedBy).target = some (walletId, w)

structure OwnersInv (s : Server) (g : Nat → RegistryGhost) : Prop where
  maps : s.MapsOk
  owned : ∀ walletId m, s.walletListenedProposals.get walletId = some m →
    (∀ j, (g j).phase ≠ .removing walletId) → OwnedBy s g walletId

theorem RegistryPhase.Rests.ne_removing {p : RegistryPhase} (h : p.Rests) (walletId : String) :
    p ≠ .removing walletId := by
  rintro rfl
  exact h

/-- `s'` has no proposals but those of `s`. -/
structure Server.KeepsFewer (s s' : Server) : Prop where
  maps : s.MapsOk → s'.MapsOk
  listed : ∀ walletId m, s'.walletListenedProposals.get walletId = some m →
    s.walletListenedProposals.get walletId = some m
  stored : s.MapsOk → ∀ walletId proposalId proposal, s'.stored walletId proposalId = some proposal →
    s.stored walletId proposalId = some proposal

namespace Server.KeepsFewer

variable {s s' : Server}

theorem of_eq (h : s'.walletListenedProposals = s.walletListenedProposals ∧ s'.proposalMaps = s.proposalMaps) :
    s.KeepsFewer s' where
  maps hs := hs.congr h
  listed walletId m hm := by rwa [h.1] at hm
  stored _ walletId proposalId proposal hp := by rwa [stored_congr h] at hp

theorem removeListenedProposal (s : Server) (walletId proposalId : String) :
    s.KeepsFewer (s.removeListenedProposal walletId proposalId) where
  maps hs := hs.removeListenedProposal walletId proposalId
  listed id m hm := by rwa [walletListenedProposals_removeListenedProposal] at hm
  stored hs id pid proposal hp := by
    rw [stored_removeListenedProposal hs] at hp
    split at hp
    · cases hp
    · exact hp

/-- A call that neither adds proposals nor forgets those of a wallet. -/
theorem of_performOp {i : Nat} {c : Op} {w r : c.Ans} (hp : s.performOp i c w = some (r, s'))
    (hadd : ∀ walletId proposalId password, c ≠ .proposals (.addProposal walletId proposalId password))
    (hforget : ∀ walletId, c ≠ .proposals (.deleteProposals walletId)) : s.KeepsFewer s' := by
  obtain h | ⟨walletId, proposalId, password, hc, -⟩ | ⟨walletId, proposalId, -, rfl⟩ | ⟨walletId, hc, -⟩ :=
    listed_cases hp
  · exact .of_eq h
  · exact absurd hc (hadd _ _ _)
  · exact .removeListenedProposal s walletId proposalId
  · exact absurd hc (hforget _)

end Server.KeepsFewer

section
variable {s s' : Server} {g : Nat → RegistryGhost} {i : Nat} {walletId : String}

theorem target_update {q : RegistryGhost} (hreq : q.req = (g i).req) (j : Nat) :
    (update g i q j).target = (g j).target :=
  update_tag RegistryGhost.target (by rw [RegistryGhost.target, hreq]; rfl) j

theorem OwnedBy.fewer (h : OwnedBy s g walletId)
    (hw : s'.initializedWallets.get walletId = s.initializedWallets.get walletId)
    (hstored : ∀ proposalId proposal, s'.stored walletId proposalId = some proposal →
      s.stored walletId proposalId = some proposal) : OwnedBy s' g walletId := by
  obtain ⟨w, hget, hadded⟩ := h
  exact ⟨w, hw.trans hget, fun proposalId proposal hp => hadded proposalId proposal (hstored _ _ hp)⟩

theorem OwnedBy.update (h : OwnedBy s g walletId) {q : RegistryGhost} (hreq : q.req = (g i).req) :
    OwnedBy s (Function.update g i q) walletId := by
  obtain ⟨w, hget, hadded⟩ := h
  refine ⟨w, hget, fun proposalId proposal hp => ?_⟩
  rw [target_update hreq]
  exact hadded proposalId proposal hp

end

/-- The wallet of a flow is that of its ghost state. -/
theorem RegistryAgrees.wallet {S : Service} {g : Nat → RegistryGhost} {i : Nat} (ha : RegistryAgrees S g i) {j : Nat}
    {w : WalletRef} (h : S.wallet j = some w) : ∃ walletId, (g j).target = some (walletId, w) := by
  unfold Service.wallet Service.request at h
  cases hp : S.procs[j]? with
  | none =>
      rw [hp] at h
      cases h
  | some p =>
      rw [hp] at h
      obtain ⟨⟨walletId, v⟩, htarget, rfl⟩ := Option.map_eq_some_iff.mp h
      refine ⟨walletId, ?_⟩
      rw [RegistryGhost.target, ha.req j p hp]
      exact htarget

namespace OwnersInv

variable {s s' : Server} {g : Nat → RegistryGhost} {i : Nat}

theorem congr (h : OwnersInv s g) (hw : s'.initializedWallets = s.initializedWallets)
    (hp : s'.walletListenedProposals = s.walletListenedProposals ∧ s'.proposalMaps = s.proposalMaps) :
    OwnersInv s' g where
  maps := h.maps.congr hp
  owned walletId m hm hr := by
    rw [hp.1] at hm
    refine (h.owned walletId m hm hr).fewer (by rw [hw]) fun proposalId proposal hs => ?_
    rwa [Server.stored_congr hp] at hs

/-- Flow `i` goes on. -/
theorem move {q : RegistryGhost} (hreq : q.req = (g i).req) (hmaps : s'.MapsOk)
    (howned : ∀ walletId m, s'.walletListenedProposals.get walletId = some m → q.phase ≠ .removing walletId →
      OwnedBy s' g walletId) : OwnersInv s' (update g i q) where
  maps := hmaps
  owned walletId m hm hphase := by
    refine (howned walletId m hm ?_).update hreq
    have hi := hphase i
    rwa [update_self] at hi

theorem owned_of_rests (h : OwnersInv s g) (hr : ∀ j, j ≠ i → (g j).phase.Rests) {walletId : String}
    (hi : (g i).phase ≠ .removing walletId) {m : ProposalsRef}
    (hm : s.walletListenedProposals.get walletId = some m) : OwnedBy s g walletId := by
  refine h.owned walletId m hm fun j => ?_
  by_cases hj : j = i
  · subst hj
    exact hi
  · exact (hr j hj).ne_removing walletId

/-- Flow `i`, which removes no id, goes on and leaves the registered wallets alone. -/
theorem rephase (h : OwnersInv s g) (hr : ∀ j, j ≠ i → (g j).phase.Rests) {q : RegistryGhost} (hreq : q.req = (g i).req)
    (hi : ∀ walletId, (g i).phase ≠ .removing walletId) (hw : s'.initializedWallets = s.initializedWallets)
    (hp : s.KeepsFewer s') : OwnersInv s' (update g i q) := by
  refine move hreq (hp.maps h.maps) fun walletId m hm _ => ?_
  exact (h.owned_of_rests hr (hi walletId) (hp.listed walletId m hm)).fewer (by rw [hw]) (hp.stored h.maps walletId)

/-- A wallet is registered under an id without proposals. -/
theorem name (h : OwnersInv s g) (hr : ∀ j, j ≠ i → (g j).phase.Rests) (hi : ∀ id, (g i).phase ≠ .removing id)
    {walletId : String} (w : WalletRef) (hno : s.listened walletId = []) {q : RegistryGhost} (hreq : q.req = (g i).req) :
    OwnersInv (s.putWallet walletId w) (update g i q) := by
  refine move hreq ⟨h.maps.bound, h.maps.inj⟩ fun id m hm _ => ?_
  have hget : (s.putWallet walletId w).initializedWallets.get id =
      if id = walletId then some w else s.initializedWallets.get id := Js.Map.get_set _ _ _ _
  by_cases hid : id = walletId
  · subst hid
    refine ⟨w, by rw [hget, if_pos rfl], fun proposalId proposal hp => ?_⟩
    have hnone : (s.putWallet id w).stored id proposalId = none := Server.stored_of_listened hno proposalId
    rw [hnone] at hp
    cases hp
  · exact (h.owned_of_rests hr (hi id) hm).fewer (by rw [hget, if_neg hid]) fun _ _ hp => hp

/-- An id is removed; its proposals follow. -/
theorem remove (h : OwnersInv s g) (hr : ∀ j, j ≠ i → (g j).phase.Rests) (hi : (g i).phase.Rests) (walletId : String)
    {q : RegistryGhost} (hreq : q.req = (g i).req) (hphase : q.phase = .removing walletId) :
    OwnersInv (s.dropWallet walletId) (update g i q) := by
  refine move hreq ⟨h.maps.bound, h.maps.inj⟩ fun id m hm hid => ?_
  have hne : id ≠ walletId := by
    rintro rfl
    exact hid hphase
  exact (h.owned_of_rests hr (hi.ne_removing id) hm).fewer (Js.Map.get_delete_of_ne _ hne) fun _ _ hp => hp

theorem forget (h : OwnersInv s g) (hr : ∀ j, j ≠ i → (g j).phase.Rests) {walletId : String}
    (hi : (g i).phase = .removing walletId) {q : RegistryGhost} (hreq : q.req = (g i).req) :
    OwnersInv (s.deleteProposals walletId) (update g i q) := by
  refine move hreq (h.maps.deleteProposals walletId) fun id m hm _ => ?_
  have hget : (s.deleteProposals walletId).walletListenedProposals.get id =
      if id = walletId then none else s.walletListenedProposals.get id := Js.Map.get_delete _ _ _
  rw [hget] at hm
  obtain ⟨hne, hm⟩ := Option.ite_none_left_eq_some.mp hm
  have hphase : (g i).phase ≠ .removing id := by
    rw [hi]
    rintro ⟨⟩
    exact hne rfl
  refine (h.owned_of_rests hr hphase hm).fewer rfl fun proposalId proposal hp => ?_
  rwa [Server.stored_deleteProposals, if_neg hne] at hp

/-- A proposal is added to the wallet of the request. -/
theorem add (h : OwnersInv s g) (hr : ∀ j, j ≠ i → (g j).phase.Rests) (hi : (g i).phase.Rests) {walletId : String}
    {w : WalletRef} (hw : (g i).target = some (walletId, w)) (hget : s.initializedWallets.get walletId = some w)
    (proposalId password : String) {q : RegistryGhost} (hreq : q.req = (g i).req) :
    OwnersInv (s.addListenedProposal i walletId proposalId password) (update g i q) := by
  have hwallets : (s.addListenedProposal i walletId proposalId password).initializedWallets = s.initializedWallets := by
    unfold Server.addListenedProposal
    split <;> rfl
  refine move hreq (h.maps.addListenedProposal i walletId proposalId password) fun id m hm _ => ?_
  -- the proposals that were there are owned, also when these are the first
  have hold : ∃ v, s.initializedWallets.get id = some v ∧ ∀ pid proposal,
      s.stored id pid = some proposal → (g proposal.addedBy).target = some (id, v) := by
    cases hmap : s.walletListenedProposals.get id with
    | some m => exact h.owned_of_rests hr (hi.ne_removing id) hmap
    | none =>
        obtain rfl | hsome := Server.has_addListenedProposal hm
        · refine ⟨w, hget, fun pid proposal hp => ?_⟩
          rw [Server.stored_of_get_none hmap] at hp
          cases hp
        · rw [hmap] at hsome
          cases hsome
  obtain ⟨v, hv, hadded⟩ := hold
  refine ⟨v, by rw [hwallets, hv], fun pid proposal hp => ?_⟩
  rw [Server.stored_addListenedProposal h.maps] at hp
  split at hp
  next he =>
    cases hp
    rw [he.1] at hv ⊢
    rw [hget] at hv
    cases hv
    exact hw
  next => exact hadded pid proposal hp

theorem perform (h : OwnersInv s g) {S : Service} (ha : RegistryAgrees S g i) {c : Op} {w r : c.Ans}
    (hG : keepsOwners S i c w s = true) (hr : ∀ j, j ≠ i → (g j).phase.Rests) (hc : (g i).Allows c)
    (hp : s.performOp i c w = some (r, s')) : OwnersInv s' (update g i ((g i).next c r)) := by
  have hidle {c : Op} {w r : c.Ans} (hc : RegistryIdle c) (hp : s.performOp i c w = some (r, s')) :
      OwnersInv s' (update g i ((g i).next c r)) := by
    have hfewer : s.KeepsFewer s' := .of_performOp hp (by rintro _ _ _ rfl; exact hc) (by rintro _ rfl; exact hc)
    have hw := (Server.sameWallets_of_idle hc hp).registered
    rw [RegistryGhost.next_idle hc, update_eq_self]
    refine ⟨hfewer.maps h.maps, fun walletId m hm hphase => ?_⟩
    exact (h.owned walletId m (hfewer.listed walletId m hm) hphase).fewer (by rw [hw]) (hfewer.stored h.maps walletId)
  cases hc with
  | quiet hc hw => exact hidle hc hp
  | idle hrest hc => exact hidle hc hp
  | create hreq hrest walletId walletConfig config =>
      have hlisted := (Server.performOp_untouched hp).proposals (by simp)
      cases w <;> cases hp <;> exact h.rephase hr rfl hrest.ne_removing rfl (.of_eq hlisted)
  | name hphase hu walletId =>
      cases hp
      have hno : s.listened walletId = [] := of_decide_eq_true hG
      exact h.name hr (fun id => by rw [hphase]; simp) _ hno rfl
  | key hphase hkey =>
      cases hp
      exact h.rephase hr rfl (fun id => by rw [hphase]; simp) rfl (.of_eq ⟨rfl, rfl⟩)
  | remove hrest walletId =>
      cases hp
      exact h.remove hr hrest walletId rfl rfl
  | forget hphase =>
      cases hp
      exact h.forget hr hphase rfl
  | read hrest hu =>
      cases hp
      exact h.rephase hr rfl hrest.ne_removing rfl (.of_eq ⟨rfl, rfl⟩)
  | importing hrest =>
      cases w <;> cases hp <;> exact h.rephase hr rfl hrest.ne_removing rfl (.of_eq ⟨rfl, rfl⟩)
  | list hrest =>
      cases hp
      exact h.rephase hr rfl hrest.ne_removing rfl (.of_eq ⟨rfl, rfl⟩)
  | add hrest hw proposalId password =>
      cases hp
      have hguard := (Bool.and_eq_true _ _).mp hG
      obtain ⟨v, hv⟩ := Js.Map.has_eq_true.mp hguard.1
      have hwallet : S.wallet i = some v := by
        rw [← hv]
        exact (of_decide_eq_true hguard.2).symm
      obtain ⟨id, htarget⟩ := ha.wallet hwallet
      rw [hw] at htarget
      cases htarget
      exact h.add hr hrest hw hv proposalId password rfl

end OwnersInv

theorem owners_guarded : RegistryGuarded (fun S i c r s => keepsOwners S i c r s = true) OwnersInv where
  spawn s g i req h hi := by
    refine ⟨h.maps, fun walletId m hm hphase => ?_⟩
    obtain ⟨w, hget, hadded⟩ := h.owned walletId m hm fun j hj => by
      have hne : j ≠ i := by
        rintro rfl
        rw [hi] at hj
        cases hj
      exact hphase j (by rw [update_of_ne hne, hj])
    refine ⟨w, hget, fun proposalId proposal hp => ?_⟩
    have htarget := hadded proposalId proposal hp
    have hne : proposal.addedBy ≠ i := by
      intro he
      rw [he, hi] at htarget
      cases htarget
    rw [update_of_ne hne, htarget]
  call s g i c h := h.congr (Server.sameWallets_callOf i c).registered (Server.listed_callOf s i c)
  perform S s g i c w r s' ha hG h hr hc hp := h.perform ha hG hr hc hp
  ext s g e s' h he := h.congr (Server.sameWallets_outside he).registered (Server.listed_outside he)

/-- While each proposal is added to the wallet that is registered under its id, and no wallet is registered under an
id that has proposals, proposals are stored for registered ids and by requests to their wallets. -/
theorem proposals_owned {s₀ : Server} (h₀ : s₀.walletListenedProposals = .empty) {S : Service}
    (h : Service.Run (fun S l => RegistryStep S l ∧ S.Meets world Request.handle
      (fun S i c r s => keepsOwners S i c r s = true) l) s₀ S) : S.ProposalsOwned := by
  have hinit : OwnersInv s₀ fun _ => {} := by
    refine ⟨⟨fun walletId m hm => ?_, fun walletId walletId' m hm _ => ?_⟩, fun walletId m hm _ => ?_⟩ <;>
      (rw [h₀] at hm; cases hm)
  obtain ⟨g, hg, hr, hI⟩ := owners_guarded.reach hinit h
  have howned {walletId : String} {m : ProposalsRef} (hm : S.state.walletListenedProposals.get walletId = some m) :
      OwnedBy S.state g walletId := hI.owned walletId m hm fun j => (hr j).ne_removing walletId
  refine ⟨fun walletId hhas => ?_, fun walletId w proposalId proposal hw hp => ?_⟩
  · obtain ⟨m, hm⟩ := Js.Map.has_eq_true.mp hhas
    obtain ⟨w, hget, -⟩ := howned hm
    exact Js.Map.has_eq_true.mpr ⟨w, hget⟩
  · have hlisted : S.state.walletListenedProposals.get walletId ≠ none := by
      intro hnone
      rw [Server.stored_of_get_none hnone] at hp
      cases hp
    obtain ⟨m, hm⟩ := Option.ne_none_iff_exists'.mp hlisted
    obtain ⟨v, hget, hadded⟩ := howned hm
    rw [hw] at hget
    cases hget
    have htarget : (S.request proposal.addedBy).bind Request.target = some (walletId, w) := by
      rw [← hadded proposalId proposal hp]
      cases hproc : S.procs[proposal.addedBy]? with
      | none =>
          rw [hg.unborn _ (List.getElem?_eq_none_iff.mp hproc), Service.request, hproc]
          rfl
      | some p =>
          rw [RegistryGhost.target, hg.req hproc, Service.request, hproc]
          rfl
    exact ⟨by rw [Service.walletId, htarget]; rfl, by rw [Service.wallet, htarget]; rfl⟩

/-- A proposal is registered with the wallet. -/
def registersWith (w : WalletRef) : Request :=
  .registerProposal { walletId := "w", wallet := w, body := { proposalId := "p", password := some "pass" } }

/-- A wallet is started and a proposal registered with it. -/
def listening : List Step := comes startsReadonly :: List.replicate 2 (proceeds 0) ++ [comes (registersWith 0), proceeds 1]

/-- The wallet stops after the registration, another one is started under its id, and registers the proposal again. -/
def registeredTwice : List Step :=
  listening ++ List.replicate 3 (proceeds 1) ++ comes (.stop "w") :: List.replicate 3 (proceeds 2) ++
    [comes startsReadonly, proceeds 3, proceeds 3, comes (registersWith 1)] ++ List.replicate 4 (proceeds 4)

theorem registeredTwice_stored :
    (Service.exec (fun S l => RegistryStep S l ∧ S.Meets world Request.handle
      (fun S i c r s => keepsOwners S i c r s = true) l) registeredTwice unstarted).any (fun S =>
      S.state.initializedWallets.get "w" = some 1 ∧ S.state.stored "w" "p" = some ⟨"p", "pass", 4⟩) = true := by
  decide +kernel

theorem registeredTwice_owned : ∃ S : Service, S.state.initializedWallets.get "w" = some 1 ∧
    S.state.stored "w" "p" = some ⟨"p", "pass", 4⟩ ∧ S.ProposalsOwned := by
  obtain ⟨S, hS, hget, hstored⟩ := Service.run_of_exec registeredTwice_stored
  exact ⟨S, hget, hstored, proposals_owned rfl hS⟩

/-- The wallet stops while the registration awaits the swap service. -/
def stoppedMeanwhile : List Step :=
  listening ++ comes (.stop "w") :: List.replicate 3 (proceeds 2) ++ List.replicate 3 (proceeds 1)

theorem stoppedMeanwhile_listed :
    (Service.exec RegistryStep stoppedMeanwhile unstarted).any (fun S => (S.Ended 1 ∧ S.Ended 2) ∧
      S.state.initializedWallets.has "w" = false ∧ S.state.walletListenedProposals.has "w" = true) = true := by
  decide +kernel

theorem stoppedMeanwhile_stored :
    (Service.exec RegistryStep (stoppedMeanwhile ++ [comes startsReadonly, proceeds 3, proceeds 3]) unstarted).any
      (fun S => (S.Ended 1 ∧ S.Ended 2 ∧ S.Ended 3) ∧ S.state.initializedWallets.get "w" = some 1 ∧
      S.wallet 1 = some 0 ∧ S.state.stored "w" "p" = some ⟨"p", "pass", 1⟩) = true := by
  decide +kernel

/-- A registration that comes back after its wallet has stopped leaves an entry without a wallet, and the next wallet
of the id has its password. -/
theorem register_outlives_wallet :
    (∃ S, Service.Run RegistryStep unstarted S ∧ (S.Ended 1 ∧ S.Ended 2) ∧
      S.state.initializedWallets.has "w" = false ∧ S.state.walletListenedProposals.has "w" = true ∧
      ¬ S.ProposalsOwned) ∧
    ∃ S, Service.Run RegistryStep unstarted S ∧ (S.Ended 1 ∧ S.Ended 2 ∧ S.Ended 3) ∧
      S.state.initializedWallets.get "w" = some 1 ∧ S.wallet 1 = some 0 ∧
      S.state.stored "w" "p" = some ⟨"p", "pass", 1⟩ ∧ ¬ S.ProposalsOwned := by
  obtain ⟨S, hS, hend, hno, hlisted⟩ := Service.run_of_exec stoppedMeanwhile_listed
  obtain ⟨S', hS', hend', hget, hwallet, hstored⟩ := Service.run_of_exec stoppedMeanwhile_stored
  refine ⟨⟨S, hS, hend, hno, hlisted, fun h => ?_⟩, S', hS', hend', hget, hwallet, hstored, fun h => ?_⟩
  · have hhas := h.initialized "w" hlisted
    rw [hno] at hhas
    cases hhas
  · have hadded : S'.wallet 1 = some 1 := (h.added "w" 1 "p" _ hget hstored).2
    rw [hwallet] at hadded
    cases hadded

end WalletHeadless
