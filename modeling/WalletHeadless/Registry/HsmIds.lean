import WalletHeadless.Registry.Moves

/-!
# The ids of the HSM wallets

* `Service.HsmIdsOk`: an id has in `hsmWalletIds` the key that the wallet registered under it was started with;
* `keepsHsmIds`: the calls that do not part the two maps;
* `hsmIds_ok`: the runs of such calls;
* `stopped_loses_key`: a stop deletes the key of a wallet that stays registered.
-/

namespace WalletHeadless

open Coop Js Function

/-- The HSM key that a wallet was started with. -/
def Service.hsmKey (S : Service) (w : WalletRef) : Option String :=
  ((S.state.creator w).bind S.request).bind Request.hsmKey

/-- `hsmWalletIds` has the ids of the registered wallets that were started with an HSM key, with these keys, and
no others. -/
def Service.HsmIdsOk (S : Service) : Prop :=
  ∀ walletId key, S.state.hsmWalletIds.get walletId = some key ↔
    ∃ w, S.state.initializedWallets.get walletId = some w ∧ S.hsmKey w = some key

/-- No HSM key is deleted, no id that has one is removed, and no wallet without one is registered under such an
id. -/
def keepsHsmIds (S : Service) (i : Nat) (c : Op) (_ : c.Ans) (s : Server) : Bool :=
  match c with
  | .registry (.deleteHsmWallet walletId) => !s.hsmWalletIds.has walletId
  | .registry (.deleteWallet walletId) => !s.hsmWalletIds.has walletId
  | .registry (.setWallet walletId _) =>
    ((S.request i).bind Request.hsmKey).isSome || !s.hsmWalletIds.has walletId
  | _ => true

/-- The HSM key of a wallet, by the ghost state of the flow that created it. -/
def keyOf (s : Server) (g : Nat → RegistryGhost) (w : WalletRef) : Option String :=
  (s.creator w).bind fun i => (g i).hsmKey

structure HsmIdsInv (s : Server) (g : Nat → RegistryGhost) : Prop where
  registered : ∀ walletId w, s.initializedWallets.get walletId = some w → w < s.objects.length
  creators : ∀ w i, s.creator w = some i → (g i).req ≠ none
  made : ∀ i w, (g i).phase = .made w → s.creator w = some i
  named : ∀ i walletId w, (g i).phase = .named walletId w →
    s.initializedWallets.get walletId = some w ∧ s.creator w = some i
  ids : ∀ walletId, (∀ i w, (g i).phase ≠ .named walletId w) →
    s.hsmWalletIds.get walletId = (s.initializedWallets.get walletId).bind (keyOf s g)

theorem hsmKey_update {g : Nat → RegistryGhost} {i : Nat} {q : RegistryGhost} (hreq : q.req = (g i).req) (j : Nat) :
    (update g i q j).hsmKey = (g j).hsmKey :=
  update_tag RegistryGhost.hsmKey (by rw [RegistryGhost.hsmKey, hreq]; rfl) j

namespace HsmIdsInv

variable {s s' : Server} {g : Nat → RegistryGhost} {i : Nat}

theorem congr (h : HsmIdsInv s g) (hs : s.SameWallets s')
    (hk : ∀ walletId, s'.hsmWalletIds.get walletId = s.hsmWalletIds.get walletId) : HsmIdsInv s' g where
  registered walletId w hw := by
    rw [hs.registered] at hw
    rw [hs.length]
    exact h.registered walletId w hw
  creators w j hw := h.creators w j (by rwa [hs.creator] at hw)
  made j w hw := by rw [hs.creator]; exact h.made j w hw
  named j walletId w hw := by rw [hs.registered, hs.creator]; exact h.named j walletId w hw
  ids walletId hn := by
    have hkey : keyOf s' g = keyOf s g := by
      funext w
      rw [keyOf, keyOf, hs.creator]
    rw [hk, hs.registered, hkey]
    exact h.ids walletId hn

/-- Flow `i` goes on while the others rest. -/
theorem move (h : HsmIdsInv s g) (hr : ∀ j, j ≠ i → (g j).phase.Rests) {q : RegistryGhost} (hreq : q.req = (g i).req)
    (hregistered : ∀ walletId w, s'.initializedWallets.get walletId = some w → w < s'.objects.length)
    (hcreator : ∀ w, w < s.objects.length → s'.creator w = s.creator w)
    (hcreators : ∀ w j, s'.creator w = some j → (g j).req ≠ none)
    (hmade : ∀ w, q.phase = .made w → s'.creator w = some i)
    (hnamed : ∀ walletId w, q.phase = .named walletId w →
      s'.initializedWallets.get walletId = some w ∧ s'.creator w = some i)
    (hids : ∀ walletId, (∀ w, q.phase ≠ .named walletId w) →
      s'.hsmWalletIds.get walletId = (s'.initializedWallets.get walletId).bind (keyOf s' g)) :
    HsmIdsInv s' (update g i q) where
  registered := hregistered
  creators w j hw := by
    rw [update_tag RegistryGhost.req hreq]
    exact hcreators w j hw
  made j w hw := by
    by_cases hj : j = i
    · subst hj
      rw [update_self] at hw
      exact hmade w hw
    · rw [update_of_ne hj] at hw
      have hold := h.made j w hw
      rw [hcreator w ?_]
      · exact hold
      · by_contra hlt
        rw [Server.creator, List.getElem?_eq_none (Nat.le_of_not_lt hlt)] at hold
        cases hold
  named j walletId w hw := by
    by_cases hj : j = i
    · subst hj
      rw [update_self] at hw
      exact hnamed walletId w hw
    · rw [update_of_ne hj] at hw
      exact absurd hw ((hr j hj).ne_named walletId w)
  ids walletId hn := by
    have hkey : keyOf s' (update g i q) = keyOf s' g := by
      funext w
      simp only [keyOf, hsmKey_update hreq]
    rw [hkey]
    refine hids walletId fun w hw => hn i w ?_
    rw [update_self]
    exact hw

/-- No flow is about to give a key when flow `i` is not. -/
theorem ne_named_of_rests (hr : ∀ j, j ≠ i → (g j).phase.Rests) (hi : ∀ walletId w, (g i).phase ≠ .named walletId w)
    (j : Nat) (walletId : String) (w : WalletRef) : (g j).phase ≠ .named walletId w := by
  by_cases hj : j = i
  · subst hj
    exact hi walletId w
  · exact (hr j hj).ne_named walletId w

/-- Flow `i` goes on and leaves the wallets alone. -/
theorem rephase (h : HsmIdsInv s g) (hr : ∀ j, j ≠ i → (g j).phase.Rests) {q : RegistryGhost} (hreq : q.req = (g i).req)
    (hq : q.phase = (g i).phase ∨ q.phase = .idle) (hi : ∀ walletId w, (g i).phase ≠ .named walletId w) :
    HsmIdsInv s (update g i q) := by
  refine h.move hr hreq h.registered (fun _ _ => rfl) h.creators (fun w hw => ?_) (fun walletId w hw => ?_)
    fun walletId _ => h.ids walletId fun j w hw => ?_
  · obtain he | he := hq
    · exact h.made i w (he ▸ hw)
    · rw [he] at hw
      cases hw
  · obtain he | he := hq
    · exact absurd (he ▸ hw) (hi walletId w)
    · rw [he] at hw
      cases hw
  · exact ne_named_of_rests hr hi j walletId w hw

/-- While no flow is about to give a key. -/
theorem ids_of_rests (h : HsmIdsInv s g) (hr : ∀ j, j ≠ i → (g j).phase.Rests)
    (hi : ∀ walletId w, (g i).phase ≠ .named walletId w) (walletId : String) :
    s.hsmWalletIds.get walletId = (s.initializedWallets.get walletId).bind (keyOf s g) := by
  exact h.ids walletId fun j w => ne_named_of_rests hr hi j walletId w

/-- A call that has nothing to do with the registry, or deletes a key that is not there. -/
theorem idle (h : HsmIdsInv s g) {S : Service} {c : Op} (hc : RegistryIdle c) {w r : c.Ans}
    (hG : keepsHsmIds S i c w s = true) (hp : s.performOp i c w = some (r, s')) : HsmIdsInv s' g := by
  refine h.congr (Server.sameWallets_of_idle hc hp) fun walletId => ?_
  by_cases hd : ∃ id, c = .registry (.deleteHsmWallet id)
  · obtain ⟨id, rfl⟩ := hd
    cases hp
    have hno : s.hsmWalletIds.get id = none := Js.Map.has_eq_false.mp (by simpa [keepsHsmIds] using hG)
    show (s.hsmWalletIds.delete id).get walletId = _
    rw [Js.Map.get_delete]
    split
    next he => rw [he, hno]
    next => rfl
  · rw [Server.hsmWalletIds_of_idle hc (fun id he => hd ⟨id, he⟩) hp]

theorem create (h : HsmIdsInv s g) (hr : ∀ j, j ≠ i → (g j).phase.Rests) (hi : (g i).phase.Rests)
    (hreq : (g i).req ≠ none) (walletId : String) (object : Nat) {q : RegistryGhost} (hq : q.req = (g i).req)
    (hphase : q.phase = .made s.objects.length) :
    HsmIdsInv { s with objects := s.objects ++ [{ walletId := walletId, creator := i, configObject := object }] }
      (update g i q) := by
  have hold {w : WalletRef} (hw : w < s.objects.length) : Server.creator { s with
      objects := s.objects ++ [{ walletId := walletId, creator := i, configObject := object }] } w = s.creator w := by
    rw [Server.creator_newWallet, if_neg (Nat.ne_of_lt hw)]
  refine h.move hr hq (fun id w hw => ?_) (fun w hw => hold hw) (fun w j hw => ?_) (fun w hw => ?_) (fun id w hw => ?_)
    fun id _ => ?_
  · have hlt := h.registered id w hw
    rw [List.length_append]
    exact Nat.lt_add_right _ hlt
  · rw [Server.creator_newWallet] at hw
    split at hw
    · cases hw
      exact hreq
    · exact h.creators w j hw
  · rw [hphase] at hw
    cases hw
    rw [Server.creator_newWallet, if_pos rfl]
  · rw [hphase] at hw
    cases hw
  · show s.hsmWalletIds.get id = (s.initializedWallets.get id).bind _
    rw [h.ids_of_rests hr (fun id w => hi.ne_named id w) id]
    cases hget : s.initializedWallets.get id with
    | none => rfl
    | some w =>
        show keyOf s g w = keyOf _ g w
        rw [keyOf, keyOf, hold (h.registered id w hget)]

/-- A wallet is registered; its key, if it has one, follows. -/
theorem name (h : HsmIdsInv s g) (hr : ∀ j, j ≠ i → (g j).phase.Rests) {w : WalletRef} (hi : (g i).phase = .made w)
    {walletId : String} (hkey : (g i).hsmKey = none → s.hsmWalletIds.get walletId = none) {q : RegistryGhost}
    (hq : q.req = (g i).req) (hphase : q.phase = if (g i).hsmKey.isSome then .named walletId w else .idle) :
    HsmIdsInv (s.putWallet walletId w) (update g i q) := by
  have hw := h.made i w hi
  have hlt : w < s.objects.length := by
    by_contra hle
    rw [Server.creator, List.getElem?_eq_none (Nat.le_of_not_lt hle)] at hw
    cases hw
  refine h.move hr hq (fun id v hv => ?_) (fun _ _ => rfl) h.creators (fun v hv => ?_) (fun id v hv => ?_) fun id hid => ?_
  · rw [show (s.putWallet walletId w).initializedWallets = s.initializedWallets.set walletId w from rfl,
      Js.Map.get_set] at hv
    split at hv
    · cases hv
      exact hlt
    · exact h.registered id v hv
  · rw [hphase] at hv
    split at hv <;> cases hv
  · rw [hphase] at hv
    split at hv
    · cases hv
      exact ⟨Js.Map.get_set_self _ _ _, hw⟩
    · cases hv
  · show s.hsmWalletIds.get id = ((s.initializedWallets.set walletId w).get id).bind (keyOf s g)
    rw [Js.Map.get_set]
    split
    next he =>
      subst he
      cases hk : (g i).hsmKey with
      | some key =>
          rw [hk] at hphase
          exact absurd hphase (hid w)
      | none =>
          show s.hsmWalletIds.get id = (s.creator w).bind fun j => (g j).hsmKey
          rw [hkey hk, hw]
          exact hk.symm
    next he =>
      have hrests : ∀ id v, (g i).phase ≠ .named id v := by
        intro id v hv
        rw [hi] at hv
        cases hv
      exact h.ids_of_rests hr hrests id

/-- A wallet gets its key. -/
theorem key (h : HsmIdsInv s g) (hr : ∀ j, j ≠ i → (g j).phase.Rests) {walletId : String} {w : WalletRef}
    (hi : (g i).phase = .named walletId w) {key : String} (hkey : (g i).hsmKey = some key) {q : RegistryGhost}
    (hq : q.req = (g i).req) (hphase : q.phase = .idle) :
    HsmIdsInv { s with hsmWalletIds := s.hsmWalletIds.set walletId key } (update g i q) := by
  obtain ⟨hget, hw⟩ := h.named i walletId w hi
  refine h.move hr hq h.registered (fun _ _ => rfl) h.creators (fun v hv => ?_) (fun id v hv => ?_) fun id _ => ?_
  · rw [hphase] at hv
    cases hv
  · rw [hphase] at hv
    cases hv
  · show (s.hsmWalletIds.set walletId key).get id = (s.initializedWallets.get id).bind (keyOf s g)
    rw [Js.Map.get_set]
    split
    next he =>
      rw [he, hget]
      show some key = (s.creator w).bind fun j => (g j).hsmKey
      rw [hw]
      exact hkey.symm
    next he =>
      refine h.ids id fun j v hv => ?_
      by_cases hj : j = i
      · subst hj
        rw [hi] at hv
        cases hv
        exact he rfl
      · have hrest := hr j hj
        rw [hv] at hrest
        exact hrest.elim

/-- An id without a key is removed. -/
theorem remove (h : HsmIdsInv s g) (hr : ∀ j, j ≠ i → (g j).phase.Rests) (hi : (g i).phase.Rests) {walletId : String}
    (hno : s.hsmWalletIds.get walletId = none) {q : RegistryGhost} (hq : q.req = (g i).req)
    (hphase : q.phase = .removing walletId) : HsmIdsInv (s.dropWallet walletId) (update g i q) := by
  refine h.move hr hq (fun id v hv => ?_) (fun _ _ => rfl) h.creators (fun v hv => ?_) (fun id v hv => ?_) fun id _ => ?_
  · rw [show (s.dropWallet walletId).initializedWallets = s.initializedWallets.delete walletId from rfl,
      Js.Map.get_delete] at hv
    split at hv
    · cases hv
    · exact h.registered id v hv
  · rw [hphase] at hv
    cases hv
  · rw [hphase] at hv
    cases hv
  · show s.hsmWalletIds.get id = ((s.initializedWallets.delete walletId).get id).bind (keyOf s g)
    rw [Js.Map.get_delete]
    split
    next he => rw [he, hno]; rfl
    next => exact h.ids_of_rests hr (fun id w => hi.ne_named id w) id

theorem perform (h : HsmIdsInv s g) {S : Service} (ha : RegistryAgrees S g i) {c : Op} {w r : c.Ans}
    (hG : keepsHsmIds S i c w s = true) (hr : ∀ j, j ≠ i → (g j).phase.Rests) (hc : (g i).Allows c)
    (hp : s.performOp i c w = some (r, s')) : HsmIdsInv s' (update g i ((g i).next c r)) := by
  have hcalm {c : Op} {w r : c.Ans} (hc : RegistryIdle c) (hG : keepsHsmIds S i c w s = true)
      (hp : s.performOp i c w = some (r, s')) : HsmIdsInv s' (update g i ((g i).next c r)) := by
    rw [RegistryGhost.next_idle hc, update_eq_self]
    exact h.idle hc hG hp
  have hsame {c : Op} {r : c.Ans} (hs : s.SameWallets s') (hk : s'.hsmWalletIds = s.hsmWalletIds)
      (hi : ∀ walletId w, (g i).phase ≠ .named walletId w)
      (hq : ((g i).next c r).phase = (g i).phase ∨ ((g i).next c r).phase = .idle) :
      HsmIdsInv s' (update g i ((g i).next c r)) :=
    (h.congr hs fun _ => by rw [hk]).rephase hr rfl hq hi
  cases hc with
  | quiet hc hw => exact hcalm hc hG hp
  | idle hrest hc => exact hcalm hc hG hp
  | create hreq hrest walletId walletConfig config =>
      cases w with
      | error e =>
          cases hp
          exact h.rephase hr rfl (.inl rfl) fun id w => hrest.ne_named id w
      | ok w =>
          cases hp
          exact h.create hr hrest hreq walletId config.object rfl rfl
  | name hphase hu walletId =>
      cases hp
      refine h.name hr hphase (fun hnone => ?_) rfl rfl
      have hreq : (S.request i).bind Request.hsmKey = none := by
        cases hproc : S.procs[i]? with
        | none => rw [Service.request, hproc]; rfl
        | some p =>
            rw [RegistryGhost.hsmKey, ha.req i p hproc] at hnone
            rw [Service.request, hproc]
            exact hnone
      have hhas : s.hsmWalletIds.has walletId = false := by
        have hguard : (((S.request i).bind Request.hsmKey).isSome || !s.hsmWalletIds.has walletId) = true := hG
        rw [hreq] at hguard
        simpa using hguard
      exact Js.Map.has_eq_false.mp hhas
  | key hphase hkey =>
      cases hp
      exact h.key hr hphase hkey rfl rfl
  | remove hrest walletId =>
      cases hp
      have hno : s.hsmWalletIds.get walletId = none := Js.Map.has_eq_false.mp (by simpa [keepsHsmIds] using hG)
      exact h.remove hr hrest hno rfl rfl
  | forget hphase =>
      have hu := Server.performOp_untouched hp
      exact hsame (.of_eq (hu.wallets (by simp)) (hu.objects (by simp) (by simp))) (hu.registry (by simp)).1
        (fun id w => by rw [hphase]; simp) (.inr rfl)
  | read hrest hu =>
      cases hp
      exact hsame (.of_eq rfl rfl) rfl (fun id w => hrest.ne_named id w) (.inl rfl)
  | importing hrest =>
      cases w <;> cases hp <;> exact hsame (.of_eq rfl rfl) rfl (fun id w => hrest.ne_named id w) (.inl rfl)
  | list hrest =>
      cases hp
      exact hsame (.of_eq rfl rfl) rfl (fun id w => hrest.ne_named id w) (.inl rfl)
  | add hrest hw proposalId password =>
      have hu := Server.performOp_untouched hp
      exact hsame (.of_eq (hu.wallets (by simp)) (hu.objects (by simp) (by simp))) (hu.registry (by simp)).1
        (fun id w => hrest.ne_named id w) (.inl rfl)

end HsmIdsInv

theorem hsmIds_guarded :
    RegistryGuarded (fun S i c r s => keepsHsmIds S i c r s = true) HsmIdsInv where
  spawn s g i req h hi := by
    have hphase (j : Nat) : (update g i (RegistryGhost.enter req) j).phase = (g j).phase :=
      update_tag RegistryGhost.phase (by rw [hi]; rfl) j
    have hkey : keyOf s (update g i (RegistryGhost.enter req)) = keyOf s g := by
      funext w
      cases hw : s.creator w with
      | none => simp only [keyOf, hw, Option.bind_none]
      | some j =>
          have hj : j ≠ i := by
            rintro rfl
            exact h.creators w j hw (by rw [hi])
          simp only [keyOf, hw, Option.bind_some, update_of_ne hj]
    refine ⟨h.registered, fun w j hw => ?_, fun j w hw => h.made j w (hphase j ▸ hw), fun j id w hw =>
      h.named j id w (hphase j ▸ hw), fun id hid => ?_⟩
    · have hj : j ≠ i := by
        rintro rfl
        exact h.creators w j hw (by rw [hi])
      rw [update_of_ne hj]
      exact h.creators w j hw
    · rw [hkey]
      exact h.ids id fun j w hw => hid j w ((hphase j).trans hw)
  call s g i c h := h.congr (Server.sameWallets_callOf i c) fun _ => by rw [Server.hsmWalletIds_callOf]
  perform S s g i c w r s' ha hG h hr hc hp := h.perform ha hG hr hc hp
  ext s g e s' h he := h.congr (Server.sameWallets_outside he) fun _ => by rw [Server.hsmWalletIds_outside he]

/-- No wallet has been created. -/
structure Server.NoWallets (s : Server) : Prop where
  registered : s.initializedWallets = .empty
  hsm : s.hsmWalletIds = .empty
  objects : s.objects = []

theorem Server.NoWallets.hsmIdsInv {s : Server} (h : s.NoWallets) : HsmIdsInv s fun _ => {} where
  registered walletId w hw := by rw [h.registered] at hw; cases hw
  creators w i hw := by rw [Server.creator, h.objects] at hw; cases hw
  made i w hw := by cases hw
  named i walletId w hw := by cases hw
  ids walletId _ := by rw [h.registered, h.hsm]; rfl

/-- While no HSM key is deleted, no id with a key is removed and no other wallet is registered under such an id,
`hsmWalletIds` has the registered HSM wallets with their keys and no others. -/
theorem hsmIds_ok {s₀ : Server} (h₀ : s₀.NoWallets) {S : Service}
    (h : Service.Run (fun S l => RegistryStep S l ∧ S.Meets world Request.handle
      (fun S i c r s => keepsHsmIds S i c r s = true) l) s₀ S) : S.HsmIdsOk := by
  obtain ⟨g, hg, hr, hI⟩ := hsmIds_guarded.reach h₀.hsmIdsInv h
  have hkey (w : WalletRef) : keyOf S.state g w = S.hsmKey w := by
    cases hw : S.state.creator w with
    | none => simp only [keyOf, Service.hsmKey, hw, Option.bind_none]
    | some j =>
        have hghost : (g j).req = S.request j := by
          cases hp : S.procs[j]? with
          | none => exact absurd (by rw [hg.unborn j (List.getElem?_eq_none_iff.mp hp)]) (hI.creators w j hw)
          | some p => rw [hg.req hp, Service.request, hp]; rfl
        simp only [keyOf, Service.hsmKey, hw, Option.bind_some, RegistryGhost.hsmKey, hghost]
  intro walletId key
  rw [hI.ids walletId fun j w hw => (hr j).ne_named walletId w hw, Option.bind_eq_some_iff]
  simp only [hkey]

/-- An HSM wallet is started. -/
def startedHsm : List Step := comes startsWithHsm :: List.replicate 15 (proceeds 0)

/-- Another wallet is started and stopped. -/
def secondStopped : List Step :=
  startedHsm ++ [comes (.start { walletId := some "v", xpubkey := some "xpub" }), proceeds 1, proceeds 1,
    comes (.stop "v"), proceeds 2, proceeds 2, proceeds 2]

theorem secondStopped_registered :
    (Service.exec (fun S l => RegistryStep S l ∧ S.Meets world Request.handle
      (fun S i c r s => keepsHsmIds S i c r s = true) l) secondStopped unstarted).any (fun S =>
      S.state.initializedWallets.keys = ["w"] ∧ S.state.hsmWalletIds.get "w" = some "key") = true := by
  decide +kernel

theorem secondStopped_ok :
    ∃ S : Service, S.state.initializedWallets.keys = ["w"] ∧ S.state.hsmWalletIds.get "w" = some "key" ∧ S.HsmIdsOk := by
  obtain ⟨S, hS, hkeys, hkey⟩ := Service.run_of_exec secondStopped_registered
  exact ⟨S, hkeys, hkey, hsmIds_ok ⟨rfl, rfl, rfl⟩ hS⟩

/-- The HSM wallet is told to stop, and does not. -/
def stopFails : List Step := startedHsm ++ [comes (.stop "w"), fails 1, proceeds 1]

theorem stopFails_state :
    (Service.exec RegistryStep stopFails unstarted).any (fun S => (S.Ended 0 ∧ S.Ended 1) ∧
      S.state.initializedWallets.get "w" = some 0 ∧ S.hsmKey 0 = some "key" ∧
      S.state.hsmWalletIds.get "w" = none) = true := by
  decide +kernel

/-- The server changes, all wallets stop, and a wallet without HSM key is started. -/
def stoppedAll : List Step :=
  startedHsm ++ [comes (.reloadConfig 5), imports 1 (withHsm "other")] ++ List.replicate 7 (proceeds 1) ++
    [comes startsReadonly, proceeds 2, proceeds 2]

theorem stoppedAll_state :
    (Service.exec RegistryStep stoppedAll unstarted).any (fun S => (S.Ended 1 ∧ S.Ended 2) ∧
      S.state.initializedWallets.get "w" = some 1 ∧ S.hsmKey 1 = none ∧
      S.state.hsmWalletIds.get "w" = some "key") = true := by
  decide +kernel

/-- A stop that fails leaves an HSM wallet registered without its key, and `stopAllWallets` leaves its key to the
next wallet of the id. -/
theorem stopped_loses_key :
    (∃ S, Service.Run RegistryStep unstarted S ∧ (S.Ended 0 ∧ S.Ended 1) ∧
      S.state.initializedWallets.get "w" = some 0 ∧ S.hsmKey 0 = some "key" ∧ S.state.hsmWalletIds.get "w" = none ∧
      ¬ S.HsmIdsOk) ∧
    ∃ S, Service.Run RegistryStep unstarted S ∧ (S.Ended 1 ∧ S.Ended 2) ∧
      S.state.initializedWallets.get "w" = some 1 ∧ S.hsmKey 1 = none ∧ S.state.hsmWalletIds.get "w" = some "key" ∧
      ¬ S.HsmIdsOk := by
  obtain ⟨S, hS, hend, hget, hkey, hids⟩ := Service.run_of_exec stopFails_state
  obtain ⟨S', hS', hend', hget', hkey', hids'⟩ := Service.run_of_exec stoppedAll_state
  refine ⟨⟨S, hS, hend, hget, hkey, hids, fun h => ?_⟩, S', hS', hend', hget', hkey', hids', fun h => ?_⟩
  · have hsome := (h "w" "key").mpr ⟨0, hget, hkey⟩
    rw [hids] at hsome
    cases hsome
  · obtain ⟨w, hw, hkey⟩ := (h "w" "key").mp hids'
    rw [hget'] at hw
    cases hw
    rw [hkey'] at hkey
    cases hkey

end WalletHeadless
