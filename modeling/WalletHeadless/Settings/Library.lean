import WalletHeadless.Settings.Moves

/-!
# The settings of `wallet-lib` after reloads

* `setAll`, `setAll_libSets`: the settings after the setters that a configuration asks for;
* `libOf`: the settings of a process that has started and was given configurations one after the other;
* `LibInv`: the settings follow the configurations that were put in force;
* `Server.StartedWith`: a process that has started with a configuration;
* `hathorLib_eq_fresh_iff`: when the settings are those of a process started with the last configuration;
* `removedUrl_stays`: a removed address of the mining service stays.
-/

namespace WalletHeadless

open Coop Js Function

/-! ## The setters -/

/-- The settings after setters have been called. -/
def setAll (L : LibCell → Option String) (sets : List (LibCell × String)) : LibCell → Option String :=
  sets.foldl (fun L e => update L e.1 (some e.2)) L

theorem setAll_append (L : LibCell → Option String) (sets sets' : List (LibCell × String)) :
    setAll L (sets ++ sets') = setAll (setAll L sets) sets' := List.foldl_append

/-- What the setters of a configuration give to a setting: two of them are not called when their field is not
there. -/
def LibCell.given (config : Config) : LibCell → Option String
  | txMiningUrl => truthy config.txMiningUrl
  | txMiningApiKey => truthy config.txMiningApiKey
  | swapServiceBaseUrl => some (swapServiceUrl config)
  | serverUrl => some config.server
  | network => some config.network

theorem setAll_libSets (L : LibCell → Option String) (config : Config) (cell : LibCell) :
    setAll L (libSets config) cell = (cell.given config).or (L cell) := by
  unfold setAll libSets
  cases hurl : truthy config.txMiningUrl <;> cases hkey : truthy config.txMiningApiKey <;> cases cell <;>
    simp [update, LibCell.given, hurl, hkey]

theorem given_seedsChanged {oldConfig : Config} {seeds : List (String × String)} {config : Config} {r : Bool × Config}
    (h : seedsChanged oldConfig seeds config = .ok r) : LibCell.given r.2 = LibCell.given config := by
  induction seeds generalizing config with
  | nil =>
      cases h
      rfl
  | cons seed seeds ih =>
      have hsorted (multisig : MultiSigConfig) :
          LibCell.given (sortPubkeys seed.1 multisig config) = LibCell.given config := by
        funext cell
        cases cell <;> rfl
      unfold seedsChanged at h
      split at h
      · cases h
      · split at h
        · cases h
          rfl
        · split at h
          · exact ih h
          · split at h
            · cases h
              rfl
            · split at h
              · cases h
                rfl
              · split at h
                · split at h
                  · cases h
                    exact hsorted _
                  · exact (ih h).trans (hsorted _)
                · cases h

/-- The comparison of the seeds leaves what is given alone. -/
theorem given_seedsCompared (oldConfig newConfig : Config) :
    LibCell.given (seedsCompared oldConfig newConfig).2 = LibCell.given newConfig := by
  unfold seedsCompared
  cases h : compareSeeds oldConfig newConfig with
  | error e => rfl
  | ok r =>
      refine (given_seedsChanged h).trans ?_
      funext cell
      cases cell <;> rfl

/-- When the library is not set again, the new configuration gives what the old one gave. -/
theorem given_of_reconfigLib {oldConfig newConfig : Config}
    (h : (reloadAction oldConfig newConfig).reconfigLib = false) :
    LibCell.given (seedsCompared oldConfig newConfig).2 = LibCell.given oldConfig := by
  unfold reloadAction at h
  generalize (seedsCompared oldConfig newConfig).2 = config at h ⊢
  simp only [actionFor, Bool.or_eq_false_iff, bne_eq_false_iff_eq] at h
  obtain ⟨⟨hserver, hnetwork⟩, ⟨hurl, hswap⟩, hkey⟩ := h
  funext cell
  cases cell with
  | txMiningUrl => simp only [LibCell.given, hurl]
  | txMiningApiKey => simp only [LibCell.given, hkey]
  | swapServiceBaseUrl => simp only [LibCell.given, swapServiceUrl, hswap, hnetwork]
  | serverUrl => simp only [LibCell.given, hserver]
  | network => simp only [LibCell.given, hnetwork]

/-- The settings of a process that has started with `config₀` and was given other configurations, the last first. -/
def libOf (config₀ : Config) : List Config → LibCell → Option String
  | [] => setAll (fun _ => none) (libSets config₀)
  | config :: configs => setAll (libOf config₀ configs) (libSets config)

/-- A setting comes from the last configuration that gives it. -/
theorem libOf_apply (config₀ : Config) (configs : List Config) (cell : LibCell) :
    libOf config₀ configs cell = (configs ++ [config₀]).findSome? cell.given := by
  induction configs with
  | nil =>
      rw [libOf, setAll_libSets]
      cases h : cell.given config₀ <;> simp [h]
  | cons config configs ih =>
      rw [libOf, setAll_libSets]
      cases h : cell.given config <;> simp [h, ih]

theorem libOf_congr {config₀ config₀' : Config} {configs configs' : List Config}
    (h : (configs ++ [config₀]).map LibCell.given = (configs' ++ [config₀']).map LibCell.given) :
    libOf config₀ configs = libOf config₀' configs' := by
  funext cell
  have hmap (configs : List Config) :
      configs.findSome? cell.given = (configs.map LibCell.given).findSome? fun given => given cell := by
    rw [List.findSome?_map]
    rfl
  rw [libOf_apply, libOf_apply, hmap, hmap, h]

/-- Setters that give what was given last change nothing. -/
theorem libOf_settled {config₀ config : Config} {configs : List Config}
    (h : LibCell.given config = LibCell.given (configs.head?.getD config₀)) :
    setAll (libOf config₀ configs) (libSets config) = libOf config₀ configs := by
  funext cell
  rw [setAll_libSets, h]
  cases configs with
  | nil =>
      rw [libOf_apply]
      cases hcell : cell.given config₀ <;> simp [hcell]
  | cons config' configs =>
      rw [libOf_apply]
      cases hcell : cell.given config' <;> simp [hcell]

/-! ## The settings in a run -/

/-- The configurations that were put in force, the last first. -/
def Server.puts (s : Server) : List Config := s.configs.map Prod.snd

/-- The settings follow the configurations, and the setters that the reload in progress has called. -/
structure LibInv (config₀ : Config) (s : Server) (g : Nat → SettingsGhost) : Prop where
  reading : ∀ i, (g i).phase = .reading → (g i).sets = []
  found : ∀ i, (g i).Replaces → (g i).oldConfig = some (s.latest config₀)
  settled : (∀ i, ¬ (g i).Replaces) → s.hathorLib = libOf config₀ s.puts
  setting : ∀ i, (g i).Replaces → s.hathorLib = setAll (libOf config₀ s.puts) (g i).sets

namespace LibInv

variable {config₀ : Config} {s s' : Server} {g : Nat → SettingsGhost} {i : Nat}

theorem congr (h : LibInv config₀ s g) (hs : s.SameSettings s') : LibInv config₀ s' g where
  reading := h.reading
  found j hj := by
    rw [Server.latest, hs.configs]
    exact h.found j hj
  settled hn := by
    rw [hs.hathorLib, Server.puts, hs.configs]
    exact h.settled hn
  setting j hj := by
    rw [hs.hathorLib, Server.puts, hs.configs]
    exact h.setting j hj

/-- Flow `i` goes on and calls no setter. -/
theorem rephase (h : LibInv config₀ s g) {q : SettingsGhost} (hreplaces : q.Replaces ↔ (g i).Replaces)
    (hold : (g i).Replaces → q.oldConfig = (g i).oldConfig ∧ q.sets = (g i).sets)
    (hreading : q.phase = .reading → q.sets = []) : LibInv config₀ s (update g i q) := by
  refine ⟨(forall_update_iff g fun _ q => q.phase = .reading → q.sets = []).mpr ⟨hreading, fun j _ => h.reading j⟩, ?_,
    fun hn => h.settled fun j hj => ?_, ?_⟩
  · refine (forall_update_iff g fun _ q => q.Replaces → q.oldConfig = _).mpr ⟨fun hj => ?_, fun j _ => h.found j⟩
    have hi := hreplaces.mp hj
    rw [(hold hi).1]
    exact h.found i hi
  · by_cases hij : j = i
    · subst hij
      exact hn j (by rw [update_self]; exact hreplaces.mpr hj)
    · exact hn j (by rwa [update_of_ne hij])
  · refine (forall_update_iff g fun _ q => q.Replaces → s.hathorLib = setAll _ q.sets).mpr
      ⟨fun hj => ?_, fun j _ => h.setting j⟩
    have hi := hreplaces.mp hj
    rw [(hold hi).2]
    exact h.setting i hi

/-- A reload sets the configuration aside that it has read. -/
theorem aside (h : LibInv config₀ s g) (hI : SettingsInv config₀ s g) (hi : (g i).phase = .reading)
    (hrest : ∀ j, j ≠ i → (g j).phase ≠ .reading) :
    LibInv config₀ { s with
      config := none, replaced := s.config.elim s.replaced fun config => (i, config) :: s.replaced }
      (update g i { g i with phase := .replacing }) := by
  have hread := hI.reading i hi
  have hlib (hs : s.config ≠ none) : s.hathorLib = libOf config₀ s.puts :=
    h.settled fun j hj => hs (hI.present j hj)
  refine ⟨?_, ?_, fun hn => hlib fun hs => ?_, ?_⟩
  · exact (forall_update_iff g fun _ q => q.phase = .reading → q.sets = []).mpr
      ⟨fun hj => (by cases hj), fun j hij hj => absurd hj (hrest j hij)⟩
  · refine (forall_update_iff g fun _ q => q.Replaces → q.oldConfig = _).mpr ⟨fun hj => ?_, fun j _ => h.found j⟩
    obtain ⟨config, hconfig⟩ := Option.ne_none_iff_exists'.mp hj.2
    have hs : s.config = some config := hread.symm.trans hconfig
    rw [show (g i).oldConfig = some config from hconfig, hI.latest config hs]
    rfl
  · obtain ⟨j, hj⟩ := hI.absent hs
    have hij : j ≠ i := by
      rintro rfl
      rw [SettingsGhost.Replaces, hi] at hj
      cases hj.1
    exact hn j (by rwa [update_of_ne hij])
  · refine (forall_update_iff g fun _ q => q.Replaces → s.hathorLib = setAll (libOf config₀ s.puts) q.sets).mpr
      ⟨fun hj => ?_, fun j _ => h.setting j⟩
    show s.hathorLib = setAll (libOf config₀ s.puts) (g i).sets
    rw [h.reading i hi, hlib (by rw [← hread]; exact hj.2)]
    rfl

/-- The reload in progress calls a setter. -/
theorem set (h : LibInv config₀ s g) (hI : SettingsInv config₀ s g) (hi : (g i).Replaces) (cell : LibCell)
    (value : String) : LibInv config₀ { s with hathorLib := update s.hathorLib cell (some value) }
      (update g i { g i with sets := (g i).sets ++ [(cell, value)] }) := by
  refine ⟨?_, ?_, fun hn => absurd (by rwa [update_self]) (hn i), ?_⟩
  · exact (forall_update_iff g fun _ q => q.phase = .reading → q.sets = []).mpr
      ⟨fun hj => absurd hj (SettingsGhost.replacing_ne hi.1), fun j _ => h.reading j⟩
  · exact (forall_update_iff g fun _ q => q.Replaces → q.oldConfig = _).mpr ⟨fun _ => h.found i hi, fun j _ => h.found j⟩
  · refine (forall_update_iff g fun _ q => q.Replaces → _ = setAll (libOf config₀ s.puts) q.sets).mpr
      ⟨fun _ => ?_, fun j hij hj => absurd (hI.unique j i hj hi) hij⟩
    rw [setAll_append, ← h.setting i hi]
    rfl

/-- A reload puts its configuration in force. -/
theorem apply (h : LibInv config₀ s g) (hI : SettingsInv config₀ s g) {oldConfig newConfig : Config}
    (hi : (g i).phase = .replacing) (hold : (g i).oldConfig = some oldConfig)
    (hsets : (g i).sets =
      if (reloadAction oldConfig newConfig).reconfigLib then libSets (seedsCompared oldConfig newConfig).2 else [])
    (hrest : ∀ j, j ≠ i → (g j).phase ≠ .reading) :
    LibInv config₀ { s with
      config := some (seedsCompared oldConfig newConfig).2
      configs := (i, (seedsCompared oldConfig newConfig).2) :: s.configs }
      (update g i { g i with phase := .applied }) := by
  have hreplaces : (g i).Replaces := ⟨hi, by rw [hold]; simp⟩
  have hnone := hI.none_replaces hreplaces
  refine ⟨?_, fun j hj => absurd hj (hnone j), fun _ => ?_, fun j hj => absurd hj (hnone j)⟩
  · exact (forall_update_iff g fun _ q => q.phase = .reading → q.sets = []).mpr
      ⟨fun hj => (by cases hj), fun j hij hj => absurd hj (hrest j hij)⟩
  · show s.hathorLib = setAll (libOf config₀ s.puts) (libSets (seedsCompared oldConfig newConfig).2)
    rw [h.setting i hreplaces, hsets]
    cases hlib : (reloadAction oldConfig newConfig).reconfigLib with
    | true => rfl
    | false =>
        have hlatest : oldConfig = s.puts.head?.getD config₀ := by
          have hfound := h.found i hreplaces
          rw [hold] at hfound
          rw [Option.some.inj hfound, Server.latest, Server.puts, List.head?_map]
        refine (libOf_settled ?_).symm
        rw [given_of_reconfigLib hlib, hlatest]

theorem perform (h : LibInv config₀ s g) (hI : SettingsInv config₀ s g) (hrest : ∀ j, j ≠ i → (g j).phase ≠ .reading)
    {c : Op} {w r : c.Ans} (hc : (g i).Allows c) (hp : s.performOp i c w = some (r, s')) :
    LibInv config₀ s' (update g i ((g i).next c r)) := by
  cases hc with
  | idle hq hc =>
      rw [SettingsGhost.next_idle hc, update_eq_self]
      exact h.congr (Server.sameSettings_of_idle hc hp)
  | read hq hreloads hsets =>
      cases hp
      have hnot : ¬ (g i).Replaces := fun hr => by rw [SettingsGhost.Replaces, hq] at hr; cases hr.1
      exact h.rephase ⟨fun hr => (by cases hr.1), fun hr => absurd hr hnot⟩ (fun hr => absurd hr hnot) fun _ => hsets
  | aside hq =>
      cases hp
      exact h.aside hI hq hrest
  | importing hq =>
      have hne : (g i).phase ≠ .reading := SettingsGhost.replacing_ne hq
      cases w with
      | error e =>
          cases hp
          rw [show (g i).next (.settings .importConfig) (.error e) = g i from rfl, update_eq_self]
          exact h
      | ok config =>
          cases hp
          have hs : s.SameSettings { s with nextConfig := s.nextConfig + 1 } := ⟨rfl, rfl, rfl, rfl⟩
          exact (h.congr hs).rephase Iff.rfl (fun _ => ⟨rfl, rfl⟩) fun hr => absurd hr hne
  | set hq cell value =>
      cases w with
      | error e =>
          cases hp
          rw [show (g i).next (.settings (.setLib cell value)) (.error e) = g i from rfl, update_eq_self]
          exact h
      | ok u =>
          cases hp
          exact h.set hI hq cell value
  | apply hq hold hnew hsets =>
      cases hp
      exact h.apply hI hq hold hsets hrest

end LibInv

theorem library_guarded (config₀ : Config) : SettingsGuarded False (fun _ _ _ _ _ => True)
    fun s g => SettingsInv config₀ s g ∧ LibInv config₀ s g where
  spawn s g i req h hi := by
    have hnot : ¬ (g i).Replaces := fun hr => by rw [hi] at hr; cases hr.1
    exact ⟨h.1.spawn hi req, h.2.rephase ⟨fun hr => (by cases hr.1), fun hr => absurd hr hnot⟩
      (fun hr => absurd hr hnot) fun _ => rfl⟩
  same s s' g h hs := ⟨h.1.congr hs, h.2.congr hs⟩
  perform S s g i c w r s' _ h hr ha hp := ⟨fun hf => hf.elim, h.1.perform hr ha hp, h.2.perform h.1 hr ha hp⟩

/-! ## A process that starts -/

/-- The contents of a configuration object. -/
def Config.contents (config : Config) : Config := { config with object := 0 }

theorem given_of_contents {config config' : Config} (h : config.contents = config'.contents) :
    LibCell.given config = LibCell.given config' := by
  have hcontents (config : Config) : LibCell.given config.contents = LibCell.given config := by
    funext cell
    cases cell <;> rfl
  rw [← hcontents config, h, hcontents]

/-- A new process has started with `config`. -/
def Server.StartedWith (config : Config) (f : Server) : Prop :=
  (∃ t, world.Ends 0 startProcess {} t (.ok ()) f) ∧ f.config.map Config.contents = some config.contents

section
variable {i : Nat} {s : Server}

theorem setLib_alone (cell : LibCell) (value : String) :
    (world.alone i).wp (setLib cell value) s
      (fun _ s' => s' = { s with hathorLib := setAll s.hathorLib [(cell, value)] }) fun _ _ => True := by
  refine (Protocol.wp_attempt ..).mpr (World.alone_askNow rfl fun r s' hr => ⟨fun _ he => ?_, fun _ _ => trivial⟩)
  subst he
  cases hr
  rfl

/-- One setter after the other. -/
theorem setLibs_alone {x y : Async Unit} {sets rest : List (LibCell × String)}
    (hx : (world.alone i).wp x s (fun _ s' => s' = { s with hathorLib := setAll s.hathorLib sets }) fun _ _ => True)
    (hy : ∀ s : Server, (world.alone i).wp y s
      (fun _ s' => s' = { s with hathorLib := setAll s.hathorLib rest }) fun _ _ => True) :
    (world.alone i).wp (x >>= fun _ => y) s
      (fun _ s' => s' = { s with hathorLib := setAll s.hathorLib (sets ++ rest) }) fun _ _ => True := by
  refine (Protocol.wp_bind ..).mpr (Protocol.wp_mono _ hx ?_ fun _ _ h => h)
  rintro _ _ rfl
  refine Protocol.wp_mono _ (hy _) (fun _ s' h => ?_) fun _ _ h => h
  rw [h, setAll_append]

theorem initHathorLib_alone (config : Config) :
    (world.alone i).wp (initHathorLib config) s
      (fun _ s' => s' = { s with hathorLib := setAll s.hathorLib (libSets config) }) fun _ _ => True := by
  have htruthy (cell : LibCell) (value : Option String) (s : Server) : (world.alone i).wp (setLibTruthy cell value) s
      (fun _ s' => s' = { s with hathorLib := setAll s.hathorLib ((truthy value).map fun v => (cell, v)).toList })
      fun _ _ => True := by
    unfold setLibTruthy
    cases truthy value with
    | some v => exact setLib_alone _ _
    | none => exact rfl
  rw [libSets, List.append_assoc]
  exact setLibs_alone (htruthy _ _ s) fun _ => setLibs_alone (htruthy _ _ _) fun _ =>
    setLibs_alone (setLib_alone _ _) fun _ => setLibs_alone (setLib_alone _ _) fun _ => setLib_alone _ _

theorem startProcess_alone : (world.alone i).wp startProcess {}
    (fun _ s' => ∃ config, s'.config = some config ∧ s'.hathorLib = libOf config []) fun _ _ => True := by
  have hsetup : (world.alone i).wp setupConfig {}
      (fun _ s' => ∃ config, s'.config = some config ∧ s'.hathorLib = fun _ => none) fun _ _ => True := by
    refine (Protocol.wp_bind ..).mpr (World.alone_askNow rfl fun r s' hr => ?_)
    cases hr
    refine (Protocol.wp_bind ..).mpr (wp_await_alone ((Protocol.wp_attempt ..).mpr (World.alone_ask fun r s' hr =>
      ⟨fun config he => ?_, fun _ _ => trivial⟩)))
    subst he
    have hs : s' = { ({} : Server) with nextConfig := 2 } := (congrArg Prod.snd (Option.some.inj hr)).symm
    subst hs
    refine (Protocol.wp_bind ..).mpr (World.alone_askNow rfl fun r s' hr => ?_)
    cases hr
    refine World.alone_askNow rfl fun r s' hr => ?_
    cases hr
    exact ⟨_, rfl, rfl⟩
  refine (Protocol.wp_bind ..).mpr (Protocol.wp_mono _ (wp_await_alone hsetup) (fun _ s hs => ?_) fun _ _ h => h)
  obtain ⟨config, hconfig, hlib⟩ := hs
  refine (Protocol.wp_bind ..).mpr ((Protocol.wp_attempt ..).mpr (World.alone_askNow rfl fun r s' hr =>
    ⟨fun config' he => ?_, fun _ _ => trivial⟩))
  subst he
  have hr : some (s.config.elim (Except.error Server.unavailableConfig) Except.ok, s) = some (Except.ok config', s') := hr
  rw [hconfig] at hr
  cases hr
  refine Protocol.wp_mono _ (initHathorLib_alone config) ?_ fun _ _ h => h
  rintro _ _ rfl
  exact ⟨config, hconfig, by rw [hlib]; rfl⟩

end

theorem Server.StartedWith.hathorLib {config : Config} {f : Server} (h : f.StartedWith config) :
    ∃ config', f.config = some config' ∧ LibCell.given config' = LibCell.given config ∧ f.hathorLib = libOf config' [] := by
  obtain ⟨⟨t, hends⟩, hcontents⟩ := h
  obtain ⟨config', hconfig, hlib⟩ := hends.post startProcess_alone
  rw [hconfig] at hcontents
  exact ⟨config', hconfig, given_of_contents (Option.some.inj hcontents), hlib⟩

/-! ## After the reloads -/

/-- The configurations that the reloads have imported and put in force, the last first. -/
def Service.reloaded (S : Service) : List Config :=
  S.state.configs.filterMap fun e => S.procs[e.1]?.bind fun p => (Reload.of p.log).newConfig

/-- The field is in the last configuration, or in none. -/
def LastOrNever (field : Config → Nullable String) (config₀ : Config) (configs : List Config) : Prop :=
  truthy (field (configs.headD config₀)) ≠ none ∨ ∀ config ∈ configs ++ [config₀], truthy (field config) = none

/-- The first that gives a value is the head, or none does. -/
theorem findSome_eq_head_iff {A B : Type} (f : A → Option B) (a : A) (as : List A) :
    (as ++ [a]).findSome? f = f (as.headD a) ↔ f (as.headD a) ≠ none ∨ ∀ b ∈ as ++ [a], f b = none := by
  cases as with
  | nil => cases h : f a <;> simp [h]
  | cons b as =>
      cases h : f b with
      | some c => simp [h]
      | none => simp [h, or_imp, forall_and]

/-- What the reloads have put in force is what they have imported, for the settings. -/
theorem given_reloaded {config₀ : Config} {S : Service} {g : Nat → SettingsGhost} (hI : SettingsInv config₀ S.state g)
    (hg : ∀ i p, S.procs[i]? = some p → (g i).newConfig = (Reload.of p.log).newConfig)
    (hborn : ∀ i, (g i).phase ≠ .idle → ∃ p, S.procs[i]? = some p) :
    S.reloaded.map LibCell.given = S.state.puts.map LibCell.given := by
  have hlist (configs : List (Nat × Config)) (h : ∀ e ∈ configs, e ∈ S.state.configs) :
      (configs.filterMap fun e => S.procs[e.1]?.bind fun p => (Reload.of p.log).newConfig).map LibCell.given =
        (configs.map Prod.snd).map LibCell.given := by
    induction configs with
    | nil => rfl
    | cons e configs ih =>
        obtain ⟨happlied, oldConfig, newConfig, -, hnew, he⟩ := hI.imported e.1 e.2 (h e List.mem_cons_self)
        obtain ⟨p, hp⟩ := hborn e.1 (by rw [happlied]; simp)
        have hread : (S.procs[e.1]?.bind fun p => (Reload.of p.log).newConfig) = some newConfig := by
          rw [hp, ← hnew, hg e.1 p hp]
          rfl
        simp only [List.filterMap_cons, hread, List.map_cons, ih fun e he => h e (List.mem_cons_of_mem _ he), he,
          given_seedsCompared]
  exact hlist _ fun e he => he

/-- When all reloads have succeeded, the settings of `wallet-lib` are those of a process started with the last
configuration if and only if each of the two fields whose setter is called for a field that is there only is in
the last configuration, or in none. -/
theorem hathorLib_eq_fresh_iff {config₀ : Config} {f₀ s₀ f : Server} (h₀ : f₀.StartedWith config₀)
    (hconfig : s₀.config = f₀.config) (hlib : s₀.hathorLib = f₀.hathorLib) (hconfigs : s₀.configs = [])
    {S : Service} (h : Service.Run RegistryStep s₀ S)
    (hdone : ∀ p ∈ S.procs, p.req.Reloads = true → p.rest.Returned) (hf : f.StartedWith (S.reloaded.headD config₀)) :
    S.state.hathorLib = f.hathorLib ↔
      LastOrNever Config.txMiningUrl config₀ S.reloaded ∧ LastOrNever Config.txMiningApiKey config₀ S.reloaded := by
  obtain ⟨start, hstart, hgiven, hlib₀⟩ := h₀.hathorLib
  have hL₀ : LibInv start s₀ fun _ => {} := by
    have hnot : ¬ ({} : SettingsGhost).Replaces := fun hr => by cases hr.1
    refine ⟨fun i hi => (by cases hi), fun i hi => absurd hi hnot, fun _ => ?_, fun i hi => absurd hi hnot⟩
    rw [Server.puts, hconfigs, hlib, hlib₀]
    rfl
  obtain ⟨g, hg, -, hI, hL⟩ := (library_guarded start).reach
    ⟨Server.settingsInv (hconfig.trans hstart) hconfigs, hL₀⟩ h.meets_true
  have hsettled (i : Nat) : ¬ (g i).Replaces := by
    intro hreplaces
    obtain ⟨p, hp, hreq⟩ := hI.born hg (by rw [hreplaces.1]; simp)
    have hret := hdone p (List.mem_of_getElem? hp) hreq
    have hend : p.rest.Ended := by
      cases hrest : p.rest with
      | op c k => rw [hrest] at hret; exact hret.elim
      | _ => trivial
    rcases reload_ended hreq (h.steps hp) (hg.told i p hp) hend with ⟨-, happlied⟩ | ⟨e, he, -⟩
    · rw [← SettingsGhost.ghost_eq, ← hg.traced i p hp, hreplaces.1] at happlied
      cases happlied
    · cases hrest : p.rest with
      | throw e => rw [hrest] at hret; exact hret.elim
      | ret a => rw [hrest] at he; cases he
      | op c k => rw [hrest] at he; cases he
  have hrun : S.state.hathorLib = libOf config₀ S.reloaded := by
    rw [hL.settled hsettled]
    refine libOf_congr ?_
    have hnew (i : Nat) (p : Proc Op.Ans JsError Unit Request) (hp : S.procs[i]? = some p) :
        (g i).newConfig = (Reload.of p.log).newConfig := by
      rw [hg.traced i p hp, SettingsGhost.ghost_eq]
      exact (SettingsGhost.after_enter p.req p.log).2
    have hborn (i : Nat) (hi : (g i).phase ≠ .idle) : ∃ p, S.procs[i]? = some p :=
      (hI.born hg hi).imp fun _ hp => hp.1
    simp only [List.map_append, List.map_cons, List.map_nil, given_reloaded hI hnew hborn, hgiven]
  obtain ⟨last, -, hlast, hfresh⟩ := hf.hathorLib
  have hcell (cell : LibCell) : S.state.hathorLib cell = f.hathorLib cell ↔
      cell.given (S.reloaded.headD config₀) ≠ none ∨ ∀ config ∈ S.reloaded ++ [config₀], cell.given config = none := by
    have hone : f.hathorLib cell = cell.given (S.reloaded.headD config₀) := by
      rw [hfresh, libOf_apply, List.nil_append, ← hlast]
      cases hgives : cell.given last <;> simp [hgives]
    rw [hrun, libOf_apply, hone]
    exact findSome_eq_head_iff _ _ _
  constructor
  · intro he
    exact ⟨(hcell .txMiningUrl).mp (congrFun he _), (hcell .txMiningApiKey).mp (congrFun he _)⟩
  · rintro ⟨hurl, hkey⟩
    funext cell
    refine (hcell cell).mpr ?_
    cases cell with
    | txMiningUrl => exact hurl
    | txMiningApiKey => exact hkey
    | _ => exact .inl (by simp [LibCell.given])

/-- The state of a process that has started with `config`, when all its calls succeed. -/
def startedState (config : Config) : Server :=
  ((world.runAlone 0 (imported config 0) startProcess {}).map fun e => e.2.2).getD {}

theorem startedWith_startedState {config : Config}
    (h : (world.runAlone 0 (imported config 0) startProcess {}).any (fun e => e.2.1.isOk ∧
      e.2.2.config.map Config.contents = some config.contents) = true) : (startedState config).StartedWith config := by
  obtain ⟨⟨t, x, f⟩, hrun, hp⟩ := (Option.any_eq_true _ _).mp h
  obtain ⟨hok, hcontents⟩ := of_decide_eq_true hp
  have hstate : startedState config = f := by
    rw [startedState, hrun]
    rfl
  rw [hstate]
  cases x with
  | error e => cases hok
  | ok u => exact ⟨⟨t, World.ends_of_runAlone world_settled hrun⟩, hcontents⟩

def withUrl (txMiningUrl : Nullable String) : Config :=
  { network := "mainnet", server := "node", txMiningUrl := txMiningUrl }

/-- A process that has started with an address of the mining service, and has reloaded nothing. -/
def startedWithUrl : Server := { startedState (withUrl "url") with configs := [] }

/-- A reload that gives another address. -/
def reloadsUrl (txMiningUrl : Nullable String) : List Step :=
  [comes (.reloadConfig 5), imports 0 (withUrl txMiningUrl)] ++ List.replicate 4 (proceeds 0)

theorem reloadsUrl_reloaded (txMiningUrl : Nullable String) (h : txMiningUrl = "other" ∨ txMiningUrl = .undefined) :
    (Service.exec RegistryStep (reloadsUrl txMiningUrl) startedWithUrl).any (fun S =>
      (∀ p ∈ S.procs, p.req.Reloads = true → p.rest.Returned) ∧
      S.reloaded.map Config.contents = [withUrl txMiningUrl] ∧
        S.state.hathorLib .txMiningUrl = some (txMiningUrl.get?.getD "url")) = true := by
  rcases h with rfl | rfl
  · decide +kernel
  · decide +kernel

theorem startedWith_withUrl (txMiningUrl : Nullable String)
    (h : txMiningUrl = "url" ∨ txMiningUrl = "other" ∨ txMiningUrl = .undefined) :
    (startedState (withUrl txMiningUrl)).StartedWith (withUrl txMiningUrl) := by
  refine startedWith_startedState ?_
  rcases h with rfl | rfl | rfl
  · decide +kernel
  · decide +kernel
  · decide +kernel

theorem headD_of_contents {config : Config} (config₀ : Config) {configs : List Config}
    (h : configs.map Config.contents = [config]) :
    (configs.headD config₀).contents = config ∧ ∀ c ∈ configs, c.contents = config := by
  obtain ⟨c, rfl, rfl⟩ := List.map_eq_singleton_iff.mp h
  exact ⟨rfl, by simp⟩

/-- A changed address of the mining service is in force after the reload. -/
theorem changedUrl_eq_fresh : ∃ S, Service.Run RegistryStep startedWithUrl S ∧
    S.state.hathorLib = (startedState (withUrl "other")).hathorLib := by
  obtain ⟨S, hS, hdone, hreloaded, -⟩ := Service.run_of_exec (reloadsUrl_reloaded "other" (.inl rfl))
  obtain ⟨hlast, hall⟩ := headD_of_contents (withUrl "url") hreloaded
  have hfresh := startedWith_withUrl "other" (.inr (.inl rfl))
  have hconfig : startedWithUrl.config = (startedState (withUrl "url")).config := rfl
  have hlib : startedWithUrl.hathorLib = (startedState (withUrl "url")).hathorLib := rfl
  refine ⟨S, hS, (hathorLib_eq_fresh_iff (startedWith_withUrl "url" (.inl rfl)) hconfig hlib rfl hS hdone
    ⟨hfresh.1, hlast.symm ▸ hfresh.2⟩).mpr ⟨.inl ?_, .inr fun config hconfig => ?_⟩⟩
  · rw [show (S.reloaded.headD (withUrl "url")).txMiningUrl = "other" from congrArg Config.txMiningUrl hlast]
    decide
  · rcases List.mem_append.mp hconfig with hmem | hmem
    · rw [show config.txMiningApiKey = .undefined from congrArg Config.txMiningApiKey (hall config hmem)]
      rfl
    · obtain rfl := List.mem_singleton.mp hmem
      rfl

/-- The address of the mining service stays when it is removed, and is not there after a fresh start. -/
theorem removedUrl_stays : ∃ (S : Service) (f : Server), Service.Run RegistryStep startedWithUrl S ∧
    (∀ p ∈ S.procs, p.req.Reloads = true → p.rest.Returned) ∧ f.StartedWith (S.reloaded.headD (withUrl "url")) ∧
    S.state.hathorLib .txMiningUrl = some "url" ∧ f.hathorLib .txMiningUrl = none := by
  obtain ⟨S, hS, hdone, hreloaded, hlib⟩ := Service.run_of_exec (reloadsUrl_reloaded .undefined (.inr rfl))
  have hlast := headD_of_contents (withUrl "url") hreloaded
  have hstarted := startedWith_withUrl .undefined (.inr (.inr rfl))
  refine ⟨S, startedState (withUrl .undefined), hS, hdone, ⟨hstarted.1, ?_⟩, hlib, ?_⟩
  · rw [hlast.1]
    exact hstarted.2
  · decide +kernel

end WalletHeadless
