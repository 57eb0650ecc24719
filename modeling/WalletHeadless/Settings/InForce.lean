import WalletHeadless.Settings.Moves

/-!
# The configuration in force

* `replacingSucceeds`: no step fails of a reload that has set a configuration aside;
* `Service.InForce`: the configuration in force when all reloads have ended;
* `inForce_of_settled`: it is the new one of the last reload that succeeded, or else the one before;
* `failedReload_leaves_none`: after a failed import there is none, and the next reload fails.
-/

namespace WalletHeadless

open Coop Js

/-- No step fails of a reload that has set a configuration aside. -/
def replacingSucceeds (_ : Service) (i : Nat) (c : Op) (r : c.Ans) (s : Server) : Bool :=
  s.replaced.all fun e => e.1 ≠ i || !c.crashes e.2 r

theorem inForce_guarded (config₀ : Config) :
    SettingsGuarded True (fun S i c r s => replacingSucceeds S i c r s = true) (SettingsInv config₀) where
  spawn s g i req h hi := h.spawn hi req
  same s s' g h hs := h.congr hs
  perform S s g i c w r s' hG h hr ha hp := by
    refine ⟨fun _ oldConfig haside => ?_, h.perform hr ha hp⟩
    rw [Server.crashes_performOp oldConfig hp]
    simpa using List.all_eq_true.mp hG _ (h.replaced i oldConfig haside)

/-! ## When all reloads have ended -/

def Service.ReloadsEnded (S : Service) : Prop := ∀ p ∈ S.procs, p.req.Reloads = true → p.rest.Ended

instance (S : Service) : Decidable S.ReloadsEnded :=
  inferInstanceAs (Decidable (∀ p ∈ S.procs, p.req.Reloads = true → p.rest.Ended))

/-- A reload has thrown because its change is not recoverable. -/
def Service.NonRecoverable (S : Service) : Prop :=
  ∃ p ∈ S.procs, p.req.Reloads = true ∧ ∃ e ∈ p.rest.thrown, e.kind = .NonRecoverableConfigChangeError

instance (S : Service) : Decidable S.NonRecoverable :=
  inferInstanceAs (Decidable (∃ p ∈ S.procs, p.req.Reloads = true ∧
    ∃ e ∈ p.rest.thrown, e.kind = .NonRecoverableConfigChangeError))

/-- The configuration can be read: it is the one that the last successful reload has imported, and `config₀` when none
has succeeded. Every reload that found a configuration has succeeded. -/
structure Service.InForce (S : Service) (config₀ : Config) : Prop where
  getConfig : ∀ i r, (S.state.performRegistry i .getConfig r).1 = .ok (S.state.latest config₀)
  imported : ∀ i config, (i, config) ∈ S.state.configs → ∃ p ∈ S.procs[i]?, p.req.Reloads = true ∧ p.rest.Returned ∧
    ∃ oldConfig newConfig, (Reload.of p.log).oldConfig = some oldConfig ∧
      (Reload.of p.log).newConfig = some newConfig ∧ config = (seedsCompared oldConfig newConfig).2
  succeeded : ∀ i p, S.procs[i]? = some p → p.req.Reloads = true → p.rest.Returned →
    ∃ config, (i, config) ∈ S.state.configs
  found : ∀ p ∈ S.procs, p.req.Reloads = true → (Reload.of p.log).oldConfig ≠ none → p.rest.Returned

theorem Service.performRegistry_getConfig {s : Server} {config : Config} (h : s.config = some config) (i : Nat)
    (r : Except JsError Config) : (s.performRegistry i .getConfig r).1 = .ok config := by
  show s.config.elim (Except.error Server.unavailableConfig) Except.ok = .ok config
  rw [h]
  rfl

/-- While no step fails of a reload that has set a configuration aside, the configuration in force is the new one of
the last reload that has succeeded, or else the one before, when all reloads have ended and none has thrown that the
change is not recoverable. -/
theorem inForce_of_settled {s₀ : Server} {config₀ : Config} (h₀ : s₀.config = some config₀) (hconfigs : s₀.configs = [])
    {S : Service} (h : Service.Run (fun S l => RegistryStep S l ∧ S.Meets world Request.handle
      (fun S i c r s => replacingSucceeds S i c r s = true) l) s₀ S)
    (hend : S.ReloadsEnded) (hrec : ¬ S.NonRecoverable) : S.InForce config₀ := by
  obtain ⟨g, hg, -, hI⟩ := (inForce_guarded config₀).reach (Server.settingsInv h₀ hconfigs) h
  have hflow (i : Nat) (p : Proc Op.Ans JsError Unit Request) (hp : S.procs[i]? = some p) (hreq : p.req.Reloads = true) :
      p.rest.Returned ∧ (g i).phase = .applied ∨ ∃ e ∈ p.rest.thrown, (g i).Failed True e := by
    rw [hg.traced i p hp, SettingsGhost.ghost_eq]
    exact reload_ended hreq (h.steps hp) (hg.told i p hp) (hend p (List.mem_of_getElem? hp) hreq)
  have hghost (i : Nat) (p : Proc Op.Ans JsError Unit Request) (hp : S.procs[i]? = some p) :
      (g i).oldConfig = (Reload.of p.log).oldConfig ∧ (g i).newConfig = (Reload.of p.log).newConfig := by
    rw [hg.traced i p hp, SettingsGhost.ghost_eq]
    exact SettingsGhost.after_enter p.req p.log
  have hold (i : Nat) (p : Proc Op.Ans JsError Unit Request) (hp : S.procs[i]? = some p) (hreq : p.req.Reloads = true)
      (hold : (g i).oldConfig ≠ none) : p.rest.Returned ∧ (g i).phase = .applied := by
    rcases hflow i p hp hreq with hdone | ⟨e, he, hfailed⟩
    · exact hdone
    · exact absurd ⟨p, List.mem_of_getElem? hp, hreq, e, he, hfailed.2 trivial hold⟩ hrec
  have hpresent : S.state.config = some (S.state.latest config₀) := by
    cases hc : S.state.config with
    | some config => exact congrArg some (hI.latest config hc)
    | none =>
        obtain ⟨i, hreplaces⟩ := hI.absent hc
        obtain ⟨p, hp, hreq⟩ := hI.born hg (by rw [hreplaces.1]; simp)
        have happlied := (hold i p hp hreq hreplaces.2).2
        rw [hreplaces.1] at happlied
        cases happlied
  refine ⟨fun i r => Service.performRegistry_getConfig hpresent i r, fun i config hi => ?_, fun i p hp hreq hret => ?_,
    fun p hp hreq hfound => ?_⟩
  · obtain ⟨happlied, oldConfig, newConfig, hfound, hnew, he⟩ := hI.imported i config hi
    obtain ⟨p, hp, hreq⟩ := hI.born hg (by rw [happlied]; simp)
    have hret := (hold i p hp hreq (by rw [hfound]; simp)).1
    exact ⟨p, hp, hreq, hret, oldConfig, newConfig, (hghost i p hp).1 ▸ hfound, (hghost i p hp).2 ▸ hnew, he⟩
  · rcases hflow i p hp hreq with ⟨-, happlied⟩ | ⟨e, he, -⟩
    · exact hI.applied i happlied
    · cases hrest : p.rest with
      | throw e => rw [hrest] at hret; exact hret.elim
      | ret a => rw [hrest] at he; cases he
      | op c k => rw [hrest] at he; cases he
  · obtain ⟨i, hi⟩ := List.getElem?_of_mem hp
    exact (hold i p hi hreq (by rw [(hghost i p hi).1]; exact hfound)).1

/-- Two reloads that overlap: the second finds no configuration. -/
def reloadsOverlap : List Step :=
  [comes (.reloadConfig 5), comes (.reloadConfig 5), imports 0 (withHsm "other"), imports 1 (withHsm "")] ++
    List.replicate 3 (proceeds 1) ++ List.replicate 5 (proceeds 0)

theorem reloadsOverlap_ended :
    (Service.exec (fun S l => RegistryStep S l ∧ S.Meets world Request.handle
      (fun S i c r s => replacingSucceeds S i c r s = true) l) reloadsOverlap unstarted).any (fun S =>
      S.state.config.map Config.server = some "other" ∧ S.ReloadsEnded ∧ ¬ S.NonRecoverable) = true := by
  decide +kernel

theorem reloadsOverlap_inForce : ∃ S : Service, S.state.config.map Config.server = some "other" ∧
    S.InForce (withHsm "") := by
  obtain ⟨S, hS, hserver, hend, hrec⟩ := Service.run_of_exec reloadsOverlap_ended
  exact ⟨S, hserver, inForce_of_settled rfl rfl hS hend hrec⟩

/-- The import of a reload fails; another reload comes afterwards. -/
def reloadAfterFailure : List Step :=
  [comes (.reloadConfig 5), fails 0, proceeds 0, proceeds 0, comes (.reloadConfig 5), imports 1 (withHsm "")] ++
    List.replicate 3 (proceeds 1)

theorem reloadAfterFailure_ended :
    (Service.exec RegistryStep reloadAfterFailure unstarted).any (fun S => S.ReloadsEnded ∧ ¬ S.NonRecoverable ∧
      S.state.config = none ∧ (S.procs.filterMap fun p => p.rest.thrown.map JsError.kind) = [.Error, .TypeError]) = true := by
  decide +kernel

/-- After a failed reload no configuration can be read any more, and the next reload fails too. -/
theorem failedReload_leaves_none : ∃ S, Service.Run RegistryStep unstarted S ∧ S.ReloadsEnded ∧ ¬ S.NonRecoverable ∧
    (∀ i r, (S.state.performRegistry i .getConfig r).1 = .error Server.unavailableConfig) ∧
    (S.procs.filterMap fun p => p.rest.thrown.map JsError.kind) = [.Error, .TypeError] ∧ ¬ S.InForce (withHsm "") := by
  obtain ⟨S, hS, hend, hrec, hnone, hthrown⟩ := Service.run_of_exec reloadAfterFailure_ended
  have hget (i : Nat) (r : Except JsError Config) :
      (S.state.performRegistry i .getConfig r).1 = .error Server.unavailableConfig := by
    show S.state.config.elim (Except.error Server.unavailableConfig) Except.ok = .error Server.unavailableConfig
    rw [hnone]
    rfl
  refine ⟨S, hS, hend, hrec, hget, hthrown, fun h => ?_⟩
  have hforce := h.getConfig 0 (.error Server.unavailableConfig)
  rw [hget] at hforce
  cases hforce

end WalletHeadless
