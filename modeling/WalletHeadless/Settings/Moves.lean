import WalletHeadless.Registry.Moves
import WalletHeadless.Settings.Protocol

/-!
# What the calls do to the configuration

* `Server.SameSettings`: the configurations and the settings of `wallet-lib` stay;
* `sameSettings_of_idle`, `sameSettings_callOf`, `sameSettings_outside`: where this is so;
* `SettingsGuarded`, `SettingsGuarded.reach`: an invariant of the configuration in every state that is reached;
* `SettingsInv`: at most one reload has set a configuration aside, and none is in force exactly while it works;
* `reload_ended`: how a reload ends.
-/

namespace WalletHeadless

open Coop Js Function

/-- The configurations stay, and the settings of `wallet-lib`. -/
structure Server.SameSettings (s s' : Server) : Prop where
  config : s'.config = s.config
  configs : s'.configs = s.configs
  replaced : s'.replaced = s.replaced
  hathorLib : s'.hathorLib = s.hathorLib

theorem Server.sameSettings_of_idle {s s' : Server} {i : Nat} {c : Op} (hc : SettingsIdle c) {w r : c.Ans}
    (hp : s.performOp i c w = some (r, s')) : s.SameSettings s' := by
  have hu := Server.performOp_untouched hp
  cases c with
  | settings c =>
      have he : (s.performSettings i c w).2 = s' := congrArg Prod.snd (Option.some.inj hp)
      rw [← he]
      cases c with
      | started | setStarted => exact ⟨rfl, rfl, rfl, rfl⟩
      | _ => exact hc.elim
  | _ => exact ⟨hu.config (by simp), (hu.settings (by simp)).1, (hu.settings (by simp)).2.1, hu.hathorLib (by simp)⟩

theorem Server.sameSettings_callOf (s : Server) (i : Nat) (c : Op) : s.SameSettings (s.callOf i c) := by
  have hu := Server.callOf_untouched i c s
  cases c with
  | settings c => exact ⟨rfl, rfl, rfl, rfl⟩
  | _ => exact ⟨hu.config (by simp), (hu.settings (by simp)).1, (hu.settings (by simp)).2.1, hu.hathorLib (by simp)⟩

theorem Server.sameSettings_outside {s s' : Server} {e : Outside} (h : s.outside e = some s') : s.SameSettings s' := by
  obtain ⟨d, -, rfl⟩ | ⟨t, L, -, -, rfl⟩ | ⟨i, u, d, -, -, -, -, rfl⟩ | ⟨w, u, -, rfl⟩ | ⟨w, u, -, rfl⟩ :=
    outside_cases h <;> exact ⟨rfl, rfl, rfl, rfl⟩

/-- Only the seeds and the multisig configuration matter for whether two configurations can be compared. -/
theorem seedsChanged_congr (oldConfig : Config) (seeds : List (String × String)) {newConfig newConfig' : Config}
    (hseeds : newConfig'.seeds = newConfig.seeds) (hmultisig : newConfig'.multisig = newConfig.multisig) :
    (seedsChanged oldConfig seeds newConfig').isOk = (seedsChanged oldConfig seeds newConfig).isOk := by
  induction seeds generalizing newConfig newConfig' with
  | nil => rfl
  | cons seed seeds ih =>
      have hat : newConfig'.multisigAt seed.1 = newConfig.multisigAt seed.1 := by
        rw [Config.multisigAt, hmultisig, Config.multisigAt]
      have hsorted (multisig : MultiSigConfig) : (sortPubkeys seed.1 multisig newConfig').multisig =
          (sortPubkeys seed.1 multisig newConfig).multisig := by
        simp only [sortPubkeys, hmultisig]
      unfold seedsChanged
      rw [hat, hseeds]
      split
      · rfl
      · split
        · rfl
        · split
          · exact ih hseeds hmultisig
          · split
            · rfl
            · split
              · rfl
              · split
                · split
                  · rfl
                  · exact ih hseeds (hsorted _)
                · rfl

theorem incomparable_object (oldConfig newConfig : Config) (n : Nat) :
    incomparable oldConfig { newConfig with object := n } = incomparable oldConfig newConfig := by
  have hcompare : (compareSeeds oldConfig { newConfig with object := n }).isOk = (compareSeeds oldConfig newConfig).isOk :=
    seedsChanged_congr _ _ rfl rfl
  rw [incomparable, incomparable, hcompare]
  rfl

/-- The world fails a step when the outside does. -/
theorem Server.crashes_performOp {s s' : Server} {i : Nat} {c : Op} {w r : c.Ans} (oldConfig : Config)
    (hp : s.performOp i c w = some (r, s')) : c.crashes oldConfig r = c.crashes oldConfig w := by
  cases c with
  | settings c =>
      have he : (s.performSettings i c w).1 = r := congrArg Prod.fst (Option.some.inj hp)
      rw [← he]
      cases c with
      | importConfig =>
          cases w with
          | error e => rfl
          | ok newConfig => exact incomparable_object oldConfig newConfig s.nextConfig
      | setLib cell value => cases w <;> rfl
      | _ => rfl
  | wallet c =>
      cases c with
      | stop v => cases w <;> cases hp <;> rfl
      | _ => rfl
  | lib c =>
      obtain ⟨-, he⟩ := Option.ite_none_right_eq_some.mp hp
      cases he
      rfl
  | _ => rfl

/-- What has to be shown for an invariant of the configuration to hold while all calls meet `G`. -/
structure SettingsGuarded (careful : Prop) (G : Service → Nat → (c : Op) → c.Ans → Server → Prop)
    (Inv : Server → (Nat → SettingsGhost) → Prop) : Prop where
  spawn : ∀ s g i req, Inv s g → g i = {} → Inv s (update g i (SettingsGhost.enter req))
  same : ∀ s s' g, Inv s g → s.SameSettings s' → Inv s' g
  perform : ∀ S s g i c w r s', G S i c w s → Inv s g → (∀ j, j ≠ i → (g j).phase ≠ .reading) → (g i).Allows c →
    s.performOp i c w = some (r, s') →
    (careful → ∀ oldConfig, (g i).HasSetAside oldConfig → c.crashes oldConfig r = false) ∧
      Inv s' (update g i ((g i).next c r))

namespace SettingsGuarded

variable {careful : Prop} {G : Service → Nat → (c : Op) → c.Ans → Server → Prop}
  {Inv : Server → (Nat → SettingsGhost) → Prop}

theorem guarded (h : SettingsGuarded careful G Inv) :
    Guarded world Request.handle (settingsProtocol careful) SettingsGhost.enter {} (fun q => q.phase ≠ .reading)
      (fun q => q.phase ≠ .reading) (fun _ _ => True) RegistryStep G Inv where
  spawn S g req w hg _ hI hok := ⟨h.spawn _ _ _ _ hI (hg.unborn _ le_rfl), settings_wp hok⟩
  call s g i c hI _ ha hw := by
    have hrest : (g i).phase ≠ .reading := by
      cases ha with
      | idle hq hc => exact hq
      | importing hq => exact SettingsGhost.replacing_ne hq
      | _ => cases hw
    refine ⟨hrest, ?_⟩
    rw [show (settingsProtocol careful).call (g i) c = g i from rfl, update_eq_self]
    exact h.same _ _ _ hI (s.sameSettings_callOf i c)
  perform S g₀ s g i q c w r s' _ _ _ _ hG hI hr ha hc hp := by
    obtain rfl : q = g i := hc
    exact h.perform S s g i c w r s' hG hI hr ha hp
  ext S g e s _ _ hI _ he := h.same _ _ _ hI (Server.sameSettings_outside he)
  finish s g i hI _ hf :=
    ⟨hf, by rw [show (settingsProtocol careful).finish (g i) = g i from rfl, update_eq_self]; exact hI⟩
  call_sync _ _ _ := rfl
  rests_fresh := by simp
  of_enter _ := trivial
  of_call _ _ _ _ := trivial
  of_next _ _ _ _ _ := trivial
  of_finish _ _ _ := trivial

/-- In every state reached by steps whose calls meet `G` the invariant holds. -/
theorem reach [∀ S i c r s, Decidable (G S i c r s)] (h : SettingsGuarded careful G Inv) {s₀ : Server} {S : Service}
    (h₀ : Inv s₀ fun _ => {})
    (hS : Service.Run (fun S l => RegistryStep S l ∧ S.Meets world Request.handle G l) s₀ S) :
    ∃ g, Coherent world (settingsProtocol careful) SettingsGhost.enter {} (fun q => q.phase ≠ .reading) S g ∧
      (∀ j, (g j).phase ≠ .reading) ∧ Inv S.state g :=
  h.guarded.reach h₀ hS

end SettingsGuarded

/-! ## Which configuration is in force -/

/-- The configuration that was put in force last, `config` when none was. -/
def Server.latest (s : Server) (config : Config) : Config := (s.configs.head?.map Prod.snd).getD config

structure SettingsInv (config₀ : Config) (s : Server) (g : Nat → SettingsGhost) : Prop where
  unique : ∀ i j, (g i).Replaces → (g j).Replaces → i = j
  absent : s.config = none → ∃ i, (g i).Replaces
  present : ∀ i, (g i).Replaces → s.config = none
  reading : ∀ i, (g i).phase = .reading → (g i).oldConfig = s.config
  replaced : ∀ i config, (g i).HasSetAside config → (i, config) ∈ s.replaced
  reloads : ∀ i, (g i).phase ≠ .idle → (g i).reloads = true
  applied : ∀ i, (g i).phase = .applied → ∃ config, (i, config) ∈ s.configs
  imported : ∀ i config, (i, config) ∈ s.configs → (g i).phase = .applied ∧ ∃ oldConfig newConfig,
    (g i).oldConfig = some oldConfig ∧ (g i).newConfig = some newConfig ∧ config = (seedsCompared oldConfig newConfig).2
  latest : ∀ config, s.config = some config → config = s.latest config₀

namespace SettingsInv

variable {config₀ : Config} {s s' : Server} {g : Nat → SettingsGhost} {i : Nat}

theorem congr (h : SettingsInv config₀ s g) (hs : s.SameSettings s') : SettingsInv config₀ s' g where
  unique := h.unique
  absent hn := h.absent (hs.config ▸ hn)
  present j hj := by rw [hs.config]; exact h.present j hj
  reading j hj := by rw [hs.config]; exact h.reading j hj
  replaced j config hj := by rw [hs.replaced]; exact h.replaced j config hj
  reloads := h.reloads
  applied j hj := by rw [hs.configs]; exact h.applied j hj
  imported j config hj := h.imported j config (hs.configs ▸ hj)
  latest config hc := by
    rw [Server.latest, hs.configs]
    exact h.latest config (hs.config ▸ hc)

/-- The reload that has set a configuration aside puts its own in force, and none is left. -/
theorem none_replaces (h : SettingsInv config₀ s g) (hi : (g i).Replaces) (j : Nat) :
    ¬ (update g i { g i with phase := .applied } j).Replaces :=
  (forall_update_iff g fun _ q => ¬ q.Replaces).mpr
    ⟨fun hj => (by cases hj.1), fun j hij hj => hij (h.unique j i hj hi)⟩ j

/-- Flow `i` goes on in a state with the same configurations. -/
theorem rephase (h : SettingsInv config₀ s g) {q : SettingsGhost}
    (haside : ∀ config, q.HasSetAside config ↔ (g i).HasSetAside config)
    (hreading : q.phase = .reading → q.oldConfig = s.config) (hreloads : q.phase ≠ .idle → q.reloads = true)
    (happlied : (g i).phase ≠ .applied) (hq : q.phase ≠ .applied) : SettingsInv config₀ s (update g i q) := by
  have hasides : ∀ j config, (update g i q j).HasSetAside config ↔ (g j).HasSetAside config :=
    (forall_update_iff g fun j q => ∀ config, q.HasSetAside config ↔ (g j).HasSetAside config).mpr
      ⟨haside, fun _ _ _ => Iff.rfl⟩
  have hall (j : Nat) : (update g i q j).Replaces ↔ (g j).Replaces := by
    rw [SettingsGhost.replaces_iff, SettingsGhost.replaces_iff]
    exact exists_congr (hasides j)
  refine ⟨fun j k hj hk => h.unique j k ((hall j).mp hj) ((hall k).mp hk), fun hn => ?_,
    fun j hj => h.present j ((hall j).mp hj), ?_, fun j config hj => h.replaced j config ((hasides j config).mp hj), ?_, ?_, ?_,
    h.latest⟩
  · obtain ⟨j, hj⟩ := h.absent hn
    exact ⟨j, (hall j).mpr hj⟩
  · exact (forall_update_iff g fun _ q => q.phase = .reading → q.oldConfig = s.config).mpr
      ⟨hreading, fun j _ => h.reading j⟩
  · exact (forall_update_iff g fun _ q => q.phase ≠ .idle → q.reloads = true).mpr ⟨hreloads, fun j _ => h.reloads j⟩
  · exact (forall_update_iff g fun j q => q.phase = .applied → _).mpr ⟨fun hj => absurd hj hq, fun j _ => h.applied j⟩
  · refine (forall_update_iff g fun j q => ∀ config, (j, config) ∈ s.configs → q.phase = .applied ∧ ∃ old new,
      q.oldConfig = some old ∧ q.newConfig = some new ∧ config = (seedsCompared old new).2).mpr
      ⟨fun config hj => ?_, fun j _ => h.imported j⟩
    exact absurd (h.imported i config hj).1 happlied

/-- A reload sets the configuration aside that it has read. -/
theorem aside (h : SettingsInv config₀ s g) (hi : (g i).phase = .reading)
    (hrest : ∀ j, j ≠ i → (g j).phase ≠ .reading) :
    SettingsInv config₀ { s with
      config := none, replaced := s.config.elim s.replaced fun config => (i, config) :: s.replaced }
      (update g i { g i with phase := .replacing }) := by
  have hread := h.reading i hi
  have hreplaces : ∀ j, (update g i { g i with phase := .replacing } j).Replaces →
      j = i ∧ s.config ≠ none ∨ j ≠ i ∧ (g j).Replaces :=
    (forall_update_iff g fun j q => q.Replaces → j = i ∧ s.config ≠ none ∨ j ≠ i ∧ (g j).Replaces).mpr
      ⟨fun hj => .inl ⟨rfl, hread ▸ hj.2⟩, fun j hij hj => .inr ⟨hij, hj⟩⟩
  refine ⟨fun j k hj hk => ?_, fun _ => ?_, fun _ _ => rfl, ?_, ?_, ?_, ?_, ?_, fun _ hc => by cases hc⟩
  · -- a configuration is there to be set aside only while no reload has done so
    rcases hreplaces j hj with ⟨hij, hs⟩ | ⟨-, hj'⟩ <;> rcases hreplaces k hk with ⟨hik, hs'⟩ | ⟨-, hk'⟩
    · rw [hij, hik]
    · exact absurd (h.present k hk') hs
    · exact absurd (h.present j hj') hs'
    · exact h.unique j k hj' hk'
  · by_cases hs : s.config = none
    · obtain ⟨j, hj⟩ := h.absent hs
      have hij : j ≠ i := by
        rintro rfl
        rw [SettingsGhost.Replaces, hi] at hj
        cases hj.1
      exact ⟨j, by rw [update_of_ne hij]; exact hj⟩
    · exact ⟨i, by rw [update_self]; exact ⟨rfl, hread ▸ hs⟩⟩
  · exact (forall_update_iff g fun _ q => q.phase = .reading → q.oldConfig = none).mpr
      ⟨fun hj => (by cases hj), fun j hij hj => absurd hj (hrest j hij)⟩
  · refine (forall_update_iff g fun j q => ∀ config, q.HasSetAside config → (j, config) ∈ _).mpr
      ⟨fun config hj => ?_, fun j _ config hj => ?_⟩
    · rw [show s.config = some config from hread ▸ hj.2]
      exact List.mem_cons_self
    · rw [h.present j (SettingsGhost.replaces_iff.mpr ⟨config, hj⟩)]
      exact h.replaced j config hj
  · exact (forall_update_iff g fun _ q => q.phase ≠ .idle → q.reloads = true).mpr
      ⟨fun _ => h.reloads i (by rw [hi]; simp), fun j _ => h.reloads j⟩
  · exact (forall_update_iff g fun j q => q.phase = .applied → ∃ config, (j, config) ∈ s.configs).mpr
      ⟨fun hj => (by cases hj), fun j _ => h.applied j⟩
  · refine (forall_update_iff g fun j q => ∀ config, (j, config) ∈ s.configs → q.phase = .applied ∧ ∃ old new,
      q.oldConfig = some old ∧ q.newConfig = some new ∧ config = (seedsCompared old new).2).mpr
      ⟨fun config hj => ?_, fun j _ => h.imported j⟩
    have himported := (h.imported i config hj).1
    rw [hi] at himported
    cases himported

/-- A reload puts its configuration in force. -/
theorem apply (h : SettingsInv config₀ s g) {oldConfig newConfig : Config} (hi : (g i).phase = .replacing)
    (hold : (g i).oldConfig = some oldConfig) (hnew : (g i).newConfig = some newConfig)
    (hrest : ∀ j, j ≠ i → (g j).phase ≠ .reading) :
    SettingsInv config₀ { s with
      config := some (seedsCompared oldConfig newConfig).2
      configs := (i, (seedsCompared oldConfig newConfig).2) :: s.configs }
      (update g i { g i with phase := .applied }) := by
  have hnone := h.none_replaces ⟨hi, by rw [hold]; simp⟩
  refine ⟨fun j _ hj => absurd hj (hnone j), fun hn => (by cases hn), fun j hj => absurd hj (hnone j), ?_,
    fun j config hj => absurd (SettingsGhost.replaces_iff.mpr ⟨config, hj⟩) (hnone j), ?_, ?_, ?_, fun config hc => ?_⟩
  · exact (forall_update_iff g fun _ q => q.phase = .reading → _).mpr
      ⟨fun hj => (by cases hj), fun j hij hj => absurd hj (hrest j hij)⟩
  · exact (forall_update_iff g fun _ q => q.phase ≠ .idle → q.reloads = true).mpr
      ⟨fun _ => h.reloads i (by rw [hi]; simp), fun j _ => h.reloads j⟩
  · refine (forall_update_iff g fun j q => q.phase = .applied → _).mpr ⟨fun _ => ⟨_, List.mem_cons_self⟩, fun j _ hj => ?_⟩
    obtain ⟨config, hc⟩ := h.applied j hj
    exact ⟨config, List.mem_cons_of_mem _ hc⟩
  · refine (forall_update_iff g fun j q => ∀ config, (j, config) ∈ _ → q.phase = .applied ∧ ∃ old new,
      q.oldConfig = some old ∧ q.newConfig = some new ∧ config = (seedsCompared old new).2).mpr
      ⟨fun config hj => ?_, fun j hij config hj => ?_⟩
    · rcases List.mem_cons.mp hj with he | hmem
      · cases he
        exact ⟨rfl, oldConfig, newConfig, hold, hnew, rfl⟩
      · have himported := (h.imported i config hmem).1
        rw [hi] at himported
        cases himported
    · rcases List.mem_cons.mp hj with he | hmem
      · exact absurd (congrArg Prod.fst he) hij
      · exact h.imported j config hmem
  · cases hc
    rfl

theorem perform (h : SettingsInv config₀ s g) (hrest : ∀ j, j ≠ i → (g j).phase ≠ .reading) {c : Op} {w r : c.Ans}
    (hc : (g i).Allows c) (hp : s.performOp i c w = some (r, s')) :
    SettingsInv config₀ s' (update g i ((g i).next c r)) := by
  cases hc with
  | idle hq hc =>
      rw [SettingsGhost.next_idle hc, update_eq_self]
      exact h.congr (Server.sameSettings_of_idle hc hp)
  | read hq hreloads =>
      cases hp
      have hnot (config : Config) : ¬ (g i).HasSetAside config := fun hr => by
        rw [SettingsGhost.HasSetAside, hq] at hr
        cases hr.1
      refine h.rephase (fun config => ⟨fun hr => (by cases hr.1), fun hr => absurd hr (hnot config)⟩) (fun _ => rfl)
        (fun _ => hreloads) ?_ ?_
      · rw [hq]
        simp
      · simp [SettingsGhost.next]
  | aside hq =>
      cases hp
      exact h.aside hq hrest
  | importing hq =>
      have hreloads : (g i).reloads = true := h.reloads i (by rw [hq]; simp)
      cases w with
      | error e =>
          cases hp
          rw [show (g i).next (.settings .importConfig) (.error e) = g i from rfl, update_eq_self]
          exact h
      | ok config =>
          cases hp
          have hs : s.SameSettings { s with nextConfig := s.nextConfig + 1 } := ⟨rfl, rfl, rfl, rfl⟩
          refine (h.congr hs).rephase (fun _ => Iff.rfl) (fun hr => ?_) (fun _ => hreloads) ?_ ?_
          · rw [show ((g i).next _ _).phase = (g i).phase from rfl, hq] at hr
            cases hr
          · rw [hq]
            simp
          · show (g i).phase ≠ .applied
            rw [hq]
            simp
  | set hq cell value =>
      have hreloads : (g i).reloads = true := h.reloads i (by rw [hq.1]; simp)
      have happlied : (g i).phase ≠ .applied := by
        rw [hq.1]
        simp
      cases w with
      | error e =>
          cases hp
          rw [show (g i).next (.settings (.setLib cell value)) (.error e) = g i from rfl, update_eq_self]
          exact h
      | ok u =>
          cases hp
          refine SettingsInv.rephase ?_ (fun _ => Iff.rfl) (fun hr => ?_) (fun _ => hreloads) happlied happlied
          · exact { h with }
          · rw [show ((g i).next _ _).phase = (g i).phase from rfl, hq.1] at hr
            cases hr
  | apply hq hold hnew hsets =>
      cases hp
      exact h.apply hq hold hnew hrest

end SettingsInv

theorem Server.settingsInv {s : Server} {config₀ : Config} (h₀ : s.config = some config₀) (hconfigs : s.configs = []) :
    SettingsInv config₀ s fun _ => {} := by
  have hnot : ¬ ({} : SettingsGhost).Replaces := fun hr => by cases hr.1
  refine ⟨fun i j hi _ => absurd hi hnot, fun hn => ?_, fun i hi => absurd hi hnot, fun i hi => (by cases hi),
    fun i config hi => (by cases hi.1), fun i hi => absurd rfl hi, fun i hi => (by cases hi), fun i config hi => ?_,
    fun config hc => ?_⟩
  · rw [h₀] at hn
    cases hn
  · rw [hconfigs] at hi
    cases hi
  · rw [h₀] at hc
    cases hc
    rw [Server.latest, hconfigs]
    rfl

theorem SettingsInv.spawn {config₀ : Config} {s : Server} {g : Nat → SettingsGhost} {i : Nat}
    (h : SettingsInv config₀ s g) (hi : g i = {}) (req : Request) :
    SettingsInv config₀ s (update g i (SettingsGhost.enter req)) := by
  have hnot (config : Config) : ¬ (g i).HasSetAside config := fun hr => by rw [hi] at hr; cases hr.1
  refine h.rephase (fun config => ⟨fun hr => (by cases hr.1), fun hr => absurd hr (hnot config)⟩) (fun hr => (by cases hr))
    (fun hr => absurd rfl hr) ?_ (by simp [SettingsGhost.enter])
  rw [hi]
  simp

/-! ## Reloads that have ended -/

section
variable {careful : Prop}

theorem SettingsGhost.ghost_eq {req : Request} {log : Log} {rest : Async Unit} :
    (settingsProtocol careful).ghost (SettingsGhost.enter req) log rest =
      (settingsProtocol careful).after (SettingsGhost.enter req) log := by
  cases rest <;> rfl

/-- How a reload ends, seen from its ghost state. -/
theorem reload_ended {req : Request} (hreq : req.Reloads = true) {log : Log} {rest : Async Unit}
    (h : Steps req.handle log rest) (ht : (settingsProtocol careful).Told (SettingsGhost.enter req) log)
    (hend : rest.Ended) :
    rest.Returned ∧ ((settingsProtocol careful).after (SettingsGhost.enter req) log).phase = .applied ∨
      ∃ e ∈ rest.thrown, ((settingsProtocol careful).after (SettingsGhost.enter req) log).Failed careful e := by
  cases req with
  | reloadConfig rounds =>
      have hwp := (settingsProtocol careful).wp_steps h (reloadConfig_settings rounds) ht
      cases rest with
      | ret a => exact .inl ⟨trivial, hwp⟩
      | throw e => exact .inr ⟨e, rfl, hwp⟩
      | op c k => exact hend.elim
  | _ => cases hreq

/-- A flow that has read the configuration is a reload. -/
theorem SettingsInv.born {config₀ : Config} {S : Service} {g : Nat → SettingsGhost} {final : SettingsGhost → Prop}
    (h : SettingsInv config₀ S.state g)
    (hg : Coherent world (settingsProtocol careful) SettingsGhost.enter {} final S g) {i : Nat}
    (hi : (g i).phase ≠ .idle) : ∃ p, S.procs[i]? = some p ∧ p.req.Reloads = true := by
  cases hp : S.procs[i]? with
  | none =>
      rw [hg.unborn i (List.getElem?_eq_none_iff.mp hp)] at hi
      exact absurd rfl hi
  | some p =>
      have hreloads := h.reloads i hi
      rw [hg.traced i p hp, SettingsGhost.ghost_eq, SettingsGhost.after_reloads] at hreloads
      exact ⟨p, rfl, hreloads⟩

end

end WalletHeadless
