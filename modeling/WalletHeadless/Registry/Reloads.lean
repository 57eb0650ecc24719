import WalletHeadless.Registry.Moves

/-!
# Reloads that stop all wallets

* `Service.StoppedAll`: a reload that had to stop the wallets of the configuration it found has completed;
* `keepsStopped`: no wallet of such a configuration is registered once the ids have been listed;
* `stoppedAll_none_registered`: no wallet of the old configuration is registered then;
* `pendingStart_outlives_reload`: a start that is pending while all wallets stop.
-/

namespace WalletHeadless

open Coop Js Function

/-- The reload of flow `j` has completed, and had to stop the wallets of the configuration it found. -/
def Service.StoppedAll (S : Service) (j : Nat) (oldConfig : Config) : Prop :=
  ∃ p ∈ S.procs[j]?, p.req.Reloads = true ∧ p.rest.Returned ∧ (Reload.of p.log).oldConfig = some oldConfig ∧
    ∃ newConfig ∈ (Reload.of p.log).newConfig, (reloadAction oldConfig newConfig).stopAllWallets = true

instance (S : Service) (j : Nat) (oldConfig : Config) : Decidable (S.StoppedAll j oldConfig) :=
  inferInstanceAs (Decidable (∃ p ∈ S.procs[j]?, p.req.Reloads = true ∧ p.rest.Returned ∧
    (Reload.of p.log).oldConfig = some oldConfig ∧
    ∃ newConfig ∈ (Reload.of p.log).newConfig, (reloadAction oldConfig newConfig).stopAllWallets = true))

/-- The reload removes the id, or has nothing to do with the wallet. -/
def Reload.removes (u : Reload) (walletId : String) (object : Option Nat) : Bool :=
  match u.oldConfig, u.listed with
  | some oldConfig, some walletIds => object != some oldConfig.object || walletIds.contains walletId
  | _, _ => true

/-- While a reload removes the ids that it has listed, and afterwards, no wallet that was started with the
configuration it found is registered under another id. -/
def keepsStopped (S : Service) (_ : Nat) (c : Op) (_ : c.Ans) (s : Server) : Bool :=
  match c with
  | .registry (.setWallet walletId w) => S.procs.all fun p => (Reload.of p.log).removes walletId (s.configObject w)
  | _ => true

structure ReloadsInv (s : Server) (g : Nat → RegistryGhost) : Prop where
  registered : ∀ walletId w, s.initializedWallets.get walletId = some w → w < s.objects.length
  made : ∀ i w, (g i).phase = .made w → w < s.objects.length
  stale : ∀ j walletId w, s.initializedWallets.get walletId = some w →
    (g j).reload.removes walletId (s.configObject w) = true

namespace ReloadsInv

variable {s s' : Server} {g : Nat → RegistryGhost} {i : Nat}

theorem congr (h : ReloadsInv s g) (hs : s.SameWallets s') : ReloadsInv s' g where
  registered walletId w hw := by
    rw [hs.registered] at hw
    rw [hs.length]
    exact h.registered walletId w hw
  made j w hw := by rw [hs.length]; exact h.made j w hw
  stale j walletId w hw := by
    rw [hs.registered] at hw
    rw [hs.configObject]
    exact h.stale j walletId w hw

/-- Flow `i` goes on. -/
theorem move (h : ReloadsInv s g) {q : RegistryGhost} (hlength : s.objects.length ≤ s'.objects.length)
    (hconfig : ∀ w, w < s.objects.length → s'.configObject w = s.configObject w)
    (hmade : ∀ w, q.phase = .made w → w < s'.objects.length)
    (hnew : ∀ walletId w, s'.initializedWallets.get walletId = some w →
      s.initializedWallets.get walletId = some w ∨ w < s.objects.length ∧
        ∀ j, j ≠ i → (g j).reload.removes walletId (s.configObject w) = true)
    (hreload : ∀ walletId w, s'.initializedWallets.get walletId = some w →
      q.reload.removes walletId (s.configObject w) = true) : ReloadsInv s' (update g i q) := by
  have hold {walletId : String} {w : WalletRef} (hw : s'.initializedWallets.get walletId = some w) :
      w < s.objects.length := by
    rcases hnew walletId w hw with hw | ⟨hw, -⟩
    · exact h.registered walletId w hw
    · exact hw
  refine ⟨fun walletId w hw => Nat.lt_of_lt_of_le (hold hw) hlength, fun j w hw => ?_, fun j walletId w hw => ?_⟩
  · by_cases hj : j = i
    · subst hj
      rw [update_self] at hw
      exact hmade w hw
    · rw [update_of_ne hj] at hw
      exact Nat.lt_of_lt_of_le (h.made j w hw) hlength
  · rw [hconfig w (hold hw)]
    by_cases hj : j = i
    · subst hj
      rw [update_self]
      exact hreload walletId w hw
    · rw [update_of_ne hj]
      rcases hnew walletId w hw with hw | ⟨-, hw⟩
      · exact h.stale j walletId w hw
      · exact hw j hj

/-- Flow `i` goes on and leaves the wallets alone. -/
theorem rephase (h : ReloadsInv s g) {q : RegistryGhost} (hphase : ∀ w, q.phase = .made w → (g i).phase = .made w)
    (hreload : ∀ walletId w, s.initializedWallets.get walletId = some w →
      q.reload.removes walletId (s.configObject w) = true) : ReloadsInv s (update g i q) :=
  h.move le_rfl (fun _ _ => rfl) (fun w hw => h.made i w (hphase w hw)) (fun _ _ hw => .inl hw) hreload

theorem create (h : ReloadsInv s g) (o : HathorWallet) {q : RegistryGhost}
    (hphase : q.phase = .made s.objects.length) (hreload : q.reload = (g i).reload) :
    ReloadsInv { s with objects := s.objects ++ [o] } (update g i q) := by
  refine h.move (by simp) (fun w hw => ?_) (fun w hw => ?_) (fun _ _ hw => .inl hw) fun walletId w hw => ?_
  · rw [Server.configObject_newWallet, if_neg (Nat.ne_of_lt hw)]
  · rw [hphase] at hw
    cases hw
    simp
  · rw [hreload]
    exact h.stale i walletId w hw

/-- A start registers its wallet. -/
theorem name (h : ReloadsInv s g) {walletId : String} {w : WalletRef} (hi : (g i).phase = .made w)
    (hguard : ∀ j, j ≠ i → (g j).reload.removes walletId (s.configObject w) = true) {q : RegistryGhost}
    (hphase : ∀ v, q.phase ≠ .made v) (hreload : q.reload = {}) : ReloadsInv (s.putWallet walletId w) (update g i q) := by
  refine h.move le_rfl (fun _ _ => rfl) (fun v hv => absurd hv (hphase v)) (fun id v hv => ?_) fun id v _ => ?_
  · rw [show (s.putWallet walletId w).initializedWallets = s.initializedWallets.set walletId w from rfl,
      Js.Map.get_set] at hv
    split at hv
    next he =>
      cases hv
      rw [he]
      exact .inr ⟨h.made i w hi, hguard⟩
    next => exact .inl hv
  · rw [hreload]
    rfl

/-- A wallet is removed, by a reload from its list. -/
theorem remove (h : ReloadsInv s g) (walletId : String) {q : RegistryGhost} (hphase : ∀ v, q.phase ≠ .made v)
    (hreload : q.reload = (g i).reload.next (.registry (.deleteWallet walletId)) ()) :
    ReloadsInv (s.dropWallet walletId) (update g i q) := by
  have hget {id : String} {v : WalletRef} (hv : (s.dropWallet walletId).initializedWallets.get id = some v) :
      id ≠ walletId ∧ s.initializedWallets.get id = some v := by
    rw [show (s.dropWallet walletId).initializedWallets = s.initializedWallets.delete walletId from rfl,
      Js.Map.get_delete] at hv
    split at hv
    · cases hv
    next he => exact ⟨he, hv⟩
  refine h.move le_rfl (fun _ _ => rfl) (fun v hv => absurd hv (hphase v)) (fun id v hv => .inl (hget hv).2) fun id v hv => ?_
  obtain ⟨hne, hv⟩ := hget hv
  have hstale := h.stale i id v hv
  rw [hreload]
  unfold Reload.removes at hstale ⊢
  simp only [Reload.next]
  cases hold : (g i).reload.oldConfig with
  | none => rfl
  | some oldConfig =>
      cases hlisted : (g i).reload.listed with
      | none => rfl
      | some walletIds =>
          rw [hold, hlisted] at hstale
          simpa [List.mem_erase_of_ne hne] using hstale

theorem perform (h : ReloadsInv s g) {S : Service} (ha : RegistryAgrees S g i) {c : Op} {w r : c.Ans}
    (hG : keepsStopped S i c w s = true) (hc : (g i).Allows c) (hp : s.performOp i c w = some (r, s')) :
    ReloadsInv s' (update g i ((g i).next c r)) := by
  have hcalm {c : Op} {w r : c.Ans} (hc : RegistryIdle c) (hp : s.performOp i c w = some (r, s')) :
      ReloadsInv s' (update g i ((g i).next c r)) := by
    rw [RegistryGhost.next_idle hc, update_eq_self]
    exact h.congr (Server.sameWallets_of_idle hc hp)
  have hsame {c : Op} {r : c.Ans} (hs : s.SameWallets s')
      (hphase : ((g i).next c r).phase = (g i).phase ∨ ((g i).next c r).phase = .idle)
      (hreload : ((g i).next c r).reload.removes = (g i).reload.removes) :
      ReloadsInv s' (update g i ((g i).next c r)) := by
    refine (h.congr hs).rephase (fun v hv => ?_) fun walletId v hv => ?_
    · rcases hphase with he | he
      · exact he ▸ hv
      · rw [he] at hv
        cases hv
    · rw [hreload]
      exact (h.congr hs).stale i walletId v hv
  cases hc with
  | quiet hc hw => exact hcalm hc hp
  | idle hrest hc => exact hcalm hc hp
  | create hreq hrest walletId walletConfig config =>
      cases w with
      | error e =>
          cases hp
          exact h.rephase (fun _ hw => hw) fun walletId w hw => h.stale i walletId w hw
      | ok w =>
          cases hp
          exact h.create _ rfl rfl
  | name hphase hu walletId =>
      cases hp
      refine h.name hphase (fun j hj => ?_) (fun v hv => ?_) hu
      · cases hproc : S.procs[j]? with
        | none => rw [ha.unborn j hj hproc]; rfl
        | some p =>
            rw [ha.reload j p hj hproc]
            exact List.all_eq_true.mp hG p (List.mem_of_getElem? hproc)
      · simp only [RegistryGhost.next, RegistryGhost.nextPhase] at hv
        split at hv <;> cases hv
  | key hphase hkey =>
      cases hp
      exact hsame (.of_eq rfl rfl) (.inr rfl) rfl
  | remove hrest walletId =>
      cases hp
      exact h.remove walletId (fun v hv => by cases hv) rfl
  | forget hphase =>
      have hu := Server.performOp_untouched hp
      exact hsame (.of_eq (hu.wallets (by simp)) (hu.objects (by simp) (by simp))) (.inr rfl) rfl
  | read hrest hu =>
      cases hp
      refine h.rephase (fun _ hw => hw) fun walletId w hw => ?_
      have hlisted : (g i).reload.listed = none := by rw [hu]
      simp only [Reload.removes, RegistryGhost.next, Reload.next, hlisted]
      split
      next he => cases he
      next => rfl
  | importing hrest =>
      have hu := Server.performOp_untouched hp
      have hs : s.SameWallets s' := .of_eq (hu.wallets (by simp)) (hu.objects (by simp) (by simp))
      cases r with
      | error e => exact hsame hs (.inl rfl) rfl
      | ok config => exact hsame hs (.inl rfl) rfl
  | list hrest =>
      cases hp
      refine h.rephase (fun _ hw => hw) fun walletId w hw => ?_
      have hmem : walletId ∈ s.initializedWallets.keys := Js.Map.mem_keys.mpr ⟨w, hw⟩
      simp only [Reload.removes, RegistryGhost.next, Reload.next]
      split
      next hlisted =>
        cases hlisted
        simp [hmem]
      next => rfl
  | add hrest hw proposalId password =>
      have hu := Server.performOp_untouched hp
      exact hsame (.of_eq (hu.wallets (by simp)) (hu.objects (by simp) (by simp))) (.inl rfl) rfl

end ReloadsInv

theorem reloads_guarded : RegistryGuarded (fun S i c r s => keepsStopped S i c r s = true) ReloadsInv where
  spawn s g i req h hi := by
    refine h.rephase (fun w hw => ?_) fun walletId w _ => rfl
    cases hw
  call s g i c h := h.congr (Server.sameWallets_callOf i c)
  perform S s g i c w r s' ha hG h _ hc hp := h.perform ha hG hc hp
  ext s g e s' h he := h.congr (Server.sameWallets_outside he)

theorem Server.reloadsInv {s : Server}
    (h : ∀ walletId w, s.initializedWallets.get walletId = some w → w < s.objects.length) :
    ReloadsInv s fun _ => {} where
  registered := h
  made i w hw := by cases hw
  stale _ _ _ _ := rfl

/-- While no wallet with the configuration that a reload found is registered under an id that the reload does not
remove, a reload that has completed and had to stop all wallets leaves none of that configuration. -/
theorem stoppedAll_none_registered {s₀ : Server}
    (h₀ : ∀ walletId w, s₀.initializedWallets.get walletId = some w → w < s₀.objects.length) {S : Service}
    (h : Service.Run (fun S l => RegistryStep S l ∧ S.Meets world Request.handle
      (fun S i c r s => keepsStopped S i c r s = true) l) s₀ S) {j : Nat} {oldConfig : Config}
    (hj : S.StoppedAll j oldConfig) (walletId : String) (w : WalletRef)
    (hw : S.state.initializedWallets.get walletId = some w) : S.state.configObject w ≠ some oldConfig.object := by
  obtain ⟨g, hg, -, hI⟩ := reloads_guarded.reach (Server.reloadsInv h₀) h
  obtain ⟨⟨req, log, rest⟩, hproc, hreq, hrest, hold, newConfig, hnew, hstop⟩ := hj
  have hlisted : (Reload.of log).listed = some [] := by
    have hsteps := h.steps hproc
    cases req with
    | reloadConfig rounds =>
        have hreload : (registryProtocol.after (RegistryGhost.enter (.reloadConfig rounds)) log).reload = Reload.of log :=
          RegistryGhost.after_reload _ _
        have hend := registryProtocol.wp_steps hsteps (reloadConfig_registry rounds) (hg.told j _ hproc)
        cases rest with
        | ret a =>
            rw [← hreload]
            exact hend.2 oldConfig newConfig (hreload ▸ hold) (hreload ▸ hnew) hstop
        | _ => exact hrest.elim
    | _ => cases hreq
  have hstale := hI.stale j walletId w hw
  rw [hg.reload hproc, Reload.removes, hold, hlisted] at hstale
  simpa using hstale

/-- A start is pending when a reload comes, and registers its wallet before the reload stops all wallets. -/
def startBeforeStop : List Step :=
  [comes startsReadonly, comes (.reloadConfig 5), imports 1 (withHsm "other"), proceeds 0, proceeds 0] ++
    List.replicate 7 (proceeds 1)

theorem startBeforeStop_stopped :
    (Service.exec (fun S l => RegistryStep S l ∧ S.Meets world Request.handle
      (fun S i c r s => keepsStopped S i c r s = true) l) startBeforeStop unstarted).any (fun S =>
      S.state.objects.map HathorWallet.configObject = [0] ∧ S.StoppedAll 1 (withHsm "")) = true := by
  decide +kernel

theorem startBeforeStop_none : ∃ S : Service, S.state.objects.map HathorWallet.configObject = [0] ∧
    ∀ walletId w, S.state.initializedWallets.get walletId = some w → S.state.configObject w ≠ some 0 := by
  obtain ⟨S, hS, hobjects, hstopped⟩ := Service.run_of_exec startBeforeStop_stopped
  exact ⟨S, hobjects, stoppedAll_none_registered (fun _ _ hw => by cases hw) hS hstopped⟩

/-- The same, but the wallet starts only when the reload has completed. -/
def startAfterStop : List Step :=
  [comes startsReadonly, comes (.reloadConfig 5), imports 1 (withHsm "other")] ++ List.replicate 5 (proceeds 1) ++
    [proceeds 0, proceeds 0]

theorem startAfterStop_registered :
    (Service.exec RegistryStep startAfterStop unstarted).any (fun S => S.StoppedAll 1 (withHsm "") ∧
      S.state.initializedWallets.get "w" = some 0 ∧ S.state.configObject 0 = some (withHsm "").object) = true := by
  decide +kernel

/-- A wallet whose start is pending while all wallets stop is registered afterwards, with the old configuration. -/
theorem pendingStart_outlives_reload : ∃ S, Service.Run RegistryStep unstarted S ∧ S.StoppedAll 1 (withHsm "") ∧
    ∃ w, S.state.initializedWallets.get "w" = some w ∧ S.state.configObject w = some (withHsm "").object := by
  obtain ⟨S, hS, hstopped, hget, hconfig⟩ := Service.run_of_exec startAfterStop_registered
  exact ⟨S, hS, hstopped, 0, hget, hconfig⟩

end WalletHeadless
