import WalletHeadless.Registry.Protocol

/-!
# What a reload does with the configuration

A reload reads the configuration, sets it aside at once, calls the setters of `wallet-lib` when it has to, and puts
the new one in force when all its steps have succeeded. The other handlers only read it.

* `SettingsPhase`, `SettingsGhost`: where a handler is, the configurations that it has found and imported, and the
  setters that it has called;
* `libSets`: the setters that a configuration asks for;
* `Op.fails`, `Op.crashes`: the answers that fail a reload;
* `settingsProtocol`: the order of the calls; with care, no step fails of a reload that has set a configuration aside;
* `settings_wp`: the handlers follow the protocol; `reloadConfig_settings`: with care, a reload that fails found no
  configuration, or the change is not recoverable.
-/

namespace WalletHeadless

open Coop Js
open Prog (uses_ask)

/-- A reload has just read the configuration, has set it aside, or has put its own in force. -/
inductive SettingsPhase
  | idle
  | reading
  | replacing
  | applied
deriving DecidableEq

structure SettingsGhost where
  reloads : Bool := false
  phase : SettingsPhase := .idle
  oldConfig : Option Config := none
  newConfig : Option Config := none
  sets : List (LibCell × String) := []

/-- The setters that `initHathorLib` calls, with their values. -/
def libSets (config : Config) : List (LibCell × String) :=
  ((truthy config.txMiningUrl).map fun url => (LibCell.txMiningUrl, url)).toList ++
    ((truthy config.txMiningApiKey).map fun key => (LibCell.txMiningApiKey, key)).toList ++
    [(.swapServiceBaseUrl, swapServiceUrl config), (.serverUrl, config.server), (.network, config.network)]

/-- The calls that neither change a configuration nor read or import one. -/
def SettingsIdle : Op → Prop
  | .settings .config | .settings (.setConfig _) | .settings .importConfig | .settings (.setLib ..) => False
  | _ => True

theorem CalmOp.settingsIdle {c : Op} (h : CalmOp c) : SettingsIdle c := by
  cases c with
  | settings c => exact h.elim
  | _ => trivial

/-- The answers that fail a step of a reload; a step that never ends has none. -/
def Op.fails : (c : Op) → c.Ans → Bool
  | .settings .importConfig, .error _ => true
  | .settings (.setLib ..), .error _ => true
  | .lib (.seedValid _), .error e => e.kind != .InvalidWords
  | .lib (.removeAllListeners _), .error _ => true
  | .lib .forever, _ => true
  | .wallet (.stop _), .error _ => true
  | _, _ => false

/-- The answers that fail a reload which has found `oldConfig`. -/
def Op.crashes (oldConfig : Config) : (c : Op) → c.Ans → Bool
  | .settings .importConfig, .ok newConfig => incomparable oldConfig newConfig
  | c, r => c.fails r

namespace SettingsGhost

/-- The reload has set a configuration aside. -/
def Replaces (q : SettingsGhost) : Prop := q.phase = .replacing ∧ q.oldConfig ≠ none

/-- It is `config` that the reload has set aside. -/
def HasSetAside (q : SettingsGhost) (config : Config) : Prop := q.phase = .replacing ∧ q.oldConfig = some config

theorem replaces_iff {q : SettingsGhost} : q.Replaces ↔ ∃ config, q.HasSetAside config := by
  simp [Replaces, HasSetAside, Option.ne_none_iff_exists']

inductive Allows : SettingsGhost → Op → Prop
  | idle {q : SettingsGhost} {c : Op} (hq : q.phase ≠ .reading) (hc : SettingsIdle c) : Allows q c
  | read {q : SettingsGhost} (hq : q.phase = .idle) (hreloads : q.reloads = true) (hsets : q.sets = []) :
      Allows q (.settings .config)
  | aside {q : SettingsGhost} (hq : q.phase = .reading) : Allows q (.settings (.setConfig none))
  | importing {q : SettingsGhost} (hq : q.phase = .replacing) : Allows q (.settings .importConfig)
  | set {q : SettingsGhost} (hq : q.Replaces) (cell : LibCell) (value : String) :
      Allows q (.settings (.setLib cell value))
  | apply {q : SettingsGhost} {oldConfig newConfig : Config} (hq : q.phase = .replacing)
      (hold : q.oldConfig = some oldConfig) (hnew : q.newConfig = some newConfig)
      (hsets : q.sets =
        if (reloadAction oldConfig newConfig).reconfigLib then libSets (seedsCompared oldConfig newConfig).2 else []) :
      Allows q (.settings (.setConfig (some (seedsCompared oldConfig newConfig).2)))

def next (q : SettingsGhost) : (c : Op) → c.Ans → SettingsGhost
  | .settings .config, oldConfig => { q with phase := .reading, oldConfig := oldConfig }
  | .settings (.setConfig none), _ => { q with phase := .replacing }
  | .settings .importConfig, .ok newConfig => { q with newConfig := some newConfig }
  | .settings (.setLib cell value), .ok _ => { q with sets := q.sets ++ [(cell, value)] }
  | .settings (.setConfig (some _)), _ => { q with phase := .applied }
  | _, _ => q

/-- The ghost state in which a request enters. -/
def enter (req : Request) : SettingsGhost := { reloads := req.Reloads }

theorem next_idle {c : Op} (hc : SettingsIdle c) (q : SettingsGhost) (r : c.Ans) : q.next c r = q := by
  cases c with
  | settings c => cases c <;> first | rfl | exact hc.elim
  | _ => rfl

end SettingsGhost

/-- The protocol of the calls; with care, no step fails of a reload that has set a configuration aside. -/
def settingsProtocol (careful : Prop) : Protocol Op.Ans SettingsGhost where
  allows := SettingsGhost.Allows
  may q c r := careful → ∀ oldConfig, q.HasSetAside oldConfig → c.crashes oldConfig r = false
  next := SettingsGhost.next

section
variable {careful : Prop}

/-- What the ghost state has read is what the log says. -/
theorem SettingsGhost.after_reload {q : SettingsGhost} {u : Reload} (hold : q.oldConfig = u.oldConfig)
    (hnew : q.newConfig = u.newConfig) (log : Log) :
    ((settingsProtocol careful).after q log).oldConfig = (log.foldl (fun u e => u.next e.1 e.2) u).oldConfig ∧
      ((settingsProtocol careful).after q log).newConfig = (log.foldl (fun u e => u.next e.1 e.2) u).newConfig := by
  induction log generalizing q u with
  | nil => exact ⟨hold, hnew⟩
  | cons e log ih =>
      obtain ⟨c, r⟩ := e
      have hstep : (q.next c r).oldConfig = (u.next c r).oldConfig ∧ (q.next c r).newConfig = (u.next c r).newConfig := by
        cases c with
        | settings c =>
            cases c with
            | config => exact ⟨rfl, hnew⟩
            | setConfig config => cases config <;> exact ⟨hold, hnew⟩
            | importConfig =>
                cases r with
                | error e => exact ⟨hold, hnew⟩
                | ok config => exact ⟨hold, rfl⟩
            | setLib cell value => cases r <;> exact ⟨hold, hnew⟩
            | _ => exact ⟨hold, hnew⟩
        | registry c => cases c <;> exact ⟨hold, hnew⟩
        | _ => exact ⟨hold, hnew⟩
      exact ih hstep.1 hstep.2

theorem SettingsGhost.after_enter (req : Request) (log : Log) :
    ((settingsProtocol careful).after (SettingsGhost.enter req) log).oldConfig = (Reload.of log).oldConfig ∧
      ((settingsProtocol careful).after (SettingsGhost.enter req) log).newConfig = (Reload.of log).newConfig :=
  SettingsGhost.after_reload rfl rfl log

theorem SettingsGhost.after_reloads (q : SettingsGhost) (log : Log) :
    ((settingsProtocol careful).after q log).reloads = q.reloads := by
  refine (settingsProtocol careful).after_tag SettingsGhost.reloads (fun _ _ => rfl) (fun q c r => ?_) q log
  cases c with
  | settings c =>
      cases c with
      | setConfig config => cases config <;> rfl
      | importConfig => cases r <;> rfl
      | setLib cell value => cases r <;> rfl
      | _ => rfl
  | _ => rfl

/-! ## The reload -/

/-- A reload has failed; with care, nothing was set aside, or the change is not recoverable. -/
def SettingsGhost.Failed (careful : Prop) (e : JsError) (q : SettingsGhost) : Prop :=
  q.phase = .replacing ∧ (careful → q.oldConfig ≠ none → e.kind = .NonRecoverableConfigChangeError)

section
variable {q : SettingsGhost}

theorem SettingsGhost.failed_of_may {e : JsError} (hq : q.phase = .replacing) {c : Op} {r : c.Ans}
    (hmay : careful → ∀ oldConfig, q.HasSetAside oldConfig → c.crashes oldConfig r = false)
    (hcrashes : ∀ oldConfig, q.oldConfig = some oldConfig → c.crashes oldConfig r = true) : q.Failed careful e := by
  refine ⟨hq, fun hcareful hold => ?_⟩
  obtain ⟨oldConfig, hold⟩ := Option.ne_none_iff_exists'.mp hold
  have hcrash := hcrashes oldConfig hold
  rw [hmay hcareful oldConfig ⟨hq, hold⟩] at hcrash
  cases hcrash

theorem SettingsGhost.replacing_ne (hq : q.phase = .replacing) : q.phase ≠ .reading := by
  rw [hq]
  simp

theorem SettingsGhost.Failed.ne {e : JsError} (h : q.Failed careful e) : q.phase ≠ .reading :=
  SettingsGhost.replacing_ne h.1

/-- A call that may fail leaves the ghost state alone. -/
theorem wp_settingsIdle {c : Op} (hq : q.phase = .replacing) {post : c.Ans → SettingsGhost → Prop}
    {fail : JsError → SettingsGhost → Prop} (h : ∀ r,
      (careful → ∀ oldConfig, q.HasSetAside oldConfig → c.crashes oldConfig r = false) → post r q)
    (hc : SettingsIdle c := by trivial) :
    (settingsProtocol careful).wp (Prog.ask c) q post fail := by
  refine ⟨.idle (SettingsGhost.replacing_ne hq) hc, fun r hr => ?_⟩
  show post r (q.next c r)
  rw [SettingsGhost.next_idle hc]
  exact h r hr

theorem wp_awaitSettings {α : Type} {x : Async α} {post : α → SettingsGhost → Prop}
    {fail : JsError → SettingsGhost → Prop}
    (h : (settingsProtocol careful).wp x q (fun a q => q.phase ≠ .reading ∧ post a q) fun e q => q.phase ≠ .reading ∧ fail e q) :
    (settingsProtocol careful).wp (await x) q post fail :=
  (wp_await_iff ..).mpr (Protocol.wp_mono _ h (fun _ _ h => ⟨.idle h.1 trivial, fun _ _ => h.2⟩)
    fun _ _ h => ⟨.idle h.1 trivial, fun _ _ => h.2⟩)

theorem setLib_settings (cell : LibCell) (value : String) (hq : q.Replaces) :
    (settingsProtocol careful).wp (setLib cell value) q (fun _ q' => q' = { q with sets := q.sets ++ [(cell, value)] })
      fun e q' => q'.Failed careful e := by
  refine (Protocol.wp_attempt ..).mpr ⟨.set hq cell value, fun r hr => ⟨fun _ he => ?_, fun e he => ?_⟩⟩
  · subst he
    rfl
  · subst he
    exact SettingsGhost.failed_of_may hq.1 hr fun _ _ => rfl

theorem setLibs_settings {α : Type} {x y : Async α} {sets : List (LibCell × String)} (hq : q.Replaces)
    (hx : (settingsProtocol careful).wp x q (fun _ q' => q' = { q with sets := q.sets ++ sets }) fun e q' => q'.Failed careful e)
    {rest : List (LibCell × String)}
    (hy : ∀ q : SettingsGhost, q.Replaces → (settingsProtocol careful).wp y q
      (fun _ q' => q' = { q with sets := q.sets ++ rest }) fun e q' => q'.Failed careful e) :
    (settingsProtocol careful).wp (x >>= fun _ => y) q
      (fun _ q' => q' = { q with sets := q.sets ++ (sets ++ rest) }) fun e q' => q'.Failed careful e := by
  refine (Protocol.wp_bind ..).mpr (Protocol.wp_mono _ hx ?_ fun _ _ h => h)
  rintro _ _ rfl
  refine Protocol.wp_mono _ (hy { q with sets := q.sets ++ sets } hq) (fun _ q' h => ?_) fun _ _ h => h
  rw [h, List.append_assoc]

theorem initHathorLib_settings (config : Config) (hq : q.Replaces) :
    (settingsProtocol careful).wp (initHathorLib config) q (fun _ q' => q' = { q with sets := q.sets ++ libSets config })
      fun e q' => q'.Failed careful e := by
  have htruthy (cell : LibCell) (value : Option String) (q : SettingsGhost) (hq : q.Replaces) :
      (settingsProtocol careful).wp (setLibTruthy cell value) q
        (fun _ q' => q' = { q with sets := q.sets ++ ((truthy value).map fun v => (cell, v)).toList })
        fun e q' => q'.Failed careful e := by
    unfold setLibTruthy
    cases truthy value with
    | some v => exact setLib_settings _ _ hq
    | none =>
        show q = { q with sets := q.sets ++ [] }
        rw [List.append_nil]
  rw [libSets, List.append_assoc]
  exact setLibs_settings hq (htruthy _ _ q hq) fun _ hq => setLibs_settings hq (htruthy _ _ _ hq) fun _ hq =>
    setLibs_settings hq (setLib_settings _ _ hq) fun _ hq => setLibs_settings hq (setLib_settings _ _ hq) fun _ hq =>
      setLib_settings _ _ hq

theorem stopFrom_settings (rounds index : Nat) (hq : q.phase = .replacing) :
    (settingsProtocol careful).wp (stopFrom rounds index) q (fun _ q' => q' = q) fun e q' => q'.Failed careful e := by
  induction rounds generalizing index with
  | zero =>
      refine (Protocol.wp_bind ..).mpr ((Protocol.wp_attempt ..).mpr (wp_settingsIdle hq fun r hr => ?_))
      exact ⟨fun _ _ => SettingsGhost.failed_of_may hq hr fun _ _ => rfl,
        fun _ _ => SettingsGhost.failed_of_may hq hr fun _ _ => rfl⟩
  | succ rounds ih =>
      refine (Protocol.wp_bind ..).mpr (wp_settingsIdle hq fun next _ => ?_)
      split
      · exact rfl
      next w next _ =>
        refine (Protocol.wp_bind ..).mpr ((Protocol.wp_attempt ..).mpr (wp_settingsIdle hq fun r hr =>
          ⟨fun _ _ => ?_, fun e he => ?_⟩))
        · refine (Protocol.wp_bind ..).mpr ((Protocol.wp_attempt ..).mpr (wp_settingsIdle hq fun r hr =>
            ⟨fun _ _ => ih next, fun e he => ?_⟩))
          subst he
          exact SettingsGhost.failed_of_may hq hr fun _ _ => rfl
        · subst he
          exact SettingsGhost.failed_of_may hq hr fun _ _ => rfl

theorem removeWallets_settings (walletIds : List String) (hq : q.phase = .replacing) :
    (settingsProtocol careful).wp (removeWallets walletIds) q (fun _ q' => q' = q) fun _ _ => False := by
  induction walletIds with
  | nil => exact rfl
  | cons walletId walletIds ih =>
      refine (Protocol.wp_bind ..).mpr (wp_settingsIdle hq fun _ _ => ?_)
      refine (Protocol.wp_bind ..).mpr (wp_settingsIdle hq fun _ _ => ?_)
      refine (Protocol.wp_bind ..).mpr (wp_awaitSettings (wp_settingsIdle hq fun _ _ => ?_))
      exact ⟨SettingsGhost.replacing_ne hq, ih⟩

theorem stopAllWallets_settings (rounds : Nat) (hq : q.phase = .replacing) :
    (settingsProtocol careful).wp (stopAllWallets rounds) q (fun _ q' => q' = q) fun e q' => q'.Failed careful e := by
  refine (Protocol.wp_bind ..).mpr (Protocol.wp_mono _ (stopFrom_settings rounds 0 hq) ?_ fun _ _ h => h)
  rintro _ _ rfl
  refine (Protocol.wp_bind ..).mpr (wp_settingsIdle hq fun walletIds _ => ?_)
  exact Protocol.wp_mono _ (removeWallets_settings walletIds hq) (fun _ _ h => h) fun _ _ h => h.elim

theorem seedsValid_settings (seeds : List (String × String)) (hq : q.phase = .replacing) :
    (settingsProtocol careful).wp (seedsValid seeds) q (fun _ q' => q' = q) fun e q' => q'.Failed careful e := by
  induction seeds with
  | nil => exact rfl
  | cons seed seeds ih =>
      have hvalid (valid : Bool) : (settingsProtocol careful).wp (if valid then seedsValid seeds else return false) q
          (fun _ q' => q' = q) fun e q' => q'.Failed careful e :=
        (Protocol.wp_ite ..).mpr ⟨fun _ => ih, fun _ => rfl⟩
      refine (Protocol.wp_bind ..).mpr ((Protocol.wp_tryCatch ..).mpr ((Protocol.wp_attempt ..).mpr
        (wp_settingsIdle hq fun r hr => ⟨fun valid _ => hvalid valid, fun e he => ?_⟩)))
      refine (Protocol.wp_ite ..).mpr ⟨fun _ => hvalid false, fun hkind => ?_⟩
      subst he
      exact SettingsGhost.failed_of_may hq hr fun _ _ => by simpa [Op.crashes, Op.fails] using hkind

theorem updateConfig_settings (rounds : Nat) (action : ConfigReloadAction) (config : Config) (hq : q.Replaces) :
    (settingsProtocol careful).wp (updateConfig rounds action config) q
      (fun _ q' => action.nonRecoverable = false ∧
        q' = { q with sets := q.sets ++ if action.reconfigLib then libSets config else [] })
      fun e q' => q'.Failed careful e := by
  refine (Protocol.wp_ite ..).mpr ⟨fun _ => ⟨hq.1, fun _ _ => rfl⟩, fun hn => ?_⟩
  have hn : action.nonRecoverable = false := by simpa using hn
  have hlib : (settingsProtocol careful).wp (if action.reconfigLib then initHathorLib config else pure ()) q
      (fun _ q' => action.nonRecoverable = false ∧
        q' = { q with sets := q.sets ++ if action.reconfigLib then libSets config else [] })
      fun e q' => q'.Failed careful e := by
    refine (Protocol.wp_ite ..).mpr ⟨fun hlib => ?_, fun hlib => ⟨hn, ?_⟩⟩
    · rw [if_pos hlib]
      exact Protocol.wp_mono _ (initHathorLib_settings config hq) (fun _ _ h => ⟨hn, h⟩) fun _ _ h => h
    · rw [if_neg hlib, List.append_nil]
  refine (Protocol.wp_bind ..).mpr ((Protocol.wp_ite ..).mpr ⟨fun _ => ?_, fun _ => hlib⟩)
  refine wp_awaitSettings (Protocol.wp_mono _ (stopAllWallets_settings rounds hq.1) ?_ fun e q' h => ⟨h.ne, h⟩)
  rintro _ _ rfl
  exact ⟨SettingsGhost.replacing_ne hq.1, hlib⟩

/-- A reload puts its configuration in force; with care, when it fails it found none, or the change is not
recoverable. -/
theorem reload_settings (rounds : Nat) (hq : q.phase = .idle) (hreloads : q.reloads = true) (hsets : q.sets = []) :
    (settingsProtocol careful).wp (reload rounds) q (fun _ q => q.phase = .applied) fun e q => q.Failed careful e := by
  refine (Protocol.wp_bind ..).mpr ⟨.read hq hreloads hsets, fun oldConfig _ => ?_⟩
  refine (Protocol.wp_bind ..).mpr ⟨.aside rfl, fun _ _ => ?_⟩
  let qOld : SettingsGhost := { q with phase := .replacing, oldConfig := oldConfig }
  have hold : qOld.phase = .replacing := rfl
  show (settingsProtocol careful).wp _ qOld _ _
  refine (Protocol.wp_bind ..).mpr (wp_awaitSettings ((Protocol.wp_attempt ..).mpr ⟨.importing hold, fun r hr =>
    ⟨fun newConfig he => ?_, fun e he => ?_⟩⟩))
  · subst he
    let qNew : SettingsGhost := { qOld with newConfig := some newConfig }
    have hnew : qNew.phase = .replacing := rfl
    have hne : qNew.phase ≠ .reading := SettingsGhost.replacing_ne hnew
    show qNew.phase ≠ .reading ∧ (settingsProtocol careful).wp _ qNew _ _
    refine ⟨hne, (Protocol.wp_bind ..).mpr (wp_awaitSettings ?_)⟩
    cases oldConfig with
    | none => exact ⟨hne, hnew, fun _ h => absurd rfl h⟩
    | some oldConfig =>
        have hreplaces : qNew.Replaces := ⟨rfl, by simp [qNew, qOld]⟩
        have hupdate (action : ConfigReloadAction) (config : Config) (ha : action.nonRecoverable = false →
            action = reloadAction oldConfig newConfig ∧ config = (seedsCompared oldConfig newConfig).2) :
            (settingsProtocol careful).wp (do
              await (updateConfig rounds action config)
              setConfig (some config)) qNew (fun _ q => q.phase = .applied) fun e q => q.Failed careful e := by
          refine (Protocol.wp_bind ..).mpr (wp_awaitSettings (Protocol.wp_mono _
            (updateConfig_settings rounds action config hreplaces) (fun _ q' h => ?_) fun e q' h => ⟨h.ne, h⟩))
          obtain ⟨hn, rfl⟩ := h
          refine ⟨hne, ?_, fun _ _ => rfl⟩
          obtain ⟨rfl, rfl⟩ := ha hn
          refine .apply hnew rfl rfl ?_
          show q.sets ++ _ = _
          rw [hsets, List.nil_append]
        refine analizeConfig_wp ⟨hne, hupdate _ _ (by simp)⟩ (fun hcrash e => ?_) ?_
        · refine ⟨hne, SettingsGhost.failed_of_may hold hr fun old hfound => ?_⟩
          cases hfound
          exact hcrash
        refine Protocol.wp_mono _ (seedsValid_settings _ hnew) (fun valid q' h => ?_) fun e q' h => ⟨h.ne, h⟩
        subst h
        exact ⟨fun _ => ⟨hne, hupdate _ _ fun _ => ⟨rfl, rfl⟩⟩, fun _ => ⟨hne, hupdate _ _ (by simp)⟩⟩
  · subst he
    exact ⟨SettingsGhost.replacing_ne hold, SettingsGhost.failed_of_may hold hr fun _ _ => rfl⟩

theorem reloadConfig_settings (rounds : Nat) :
    (settingsProtocol careful).wp (reloadConfig rounds) (SettingsGhost.enter (.reloadConfig rounds))
      (fun _ q => q.phase = .applied) fun e q => q.Failed careful e := by
  refine (Protocol.wp_bind ..).mpr (wp_awaitSettings (Protocol.wp_mono _ (reload_settings rounds rfl rfl rfl)
    (fun _ q h => ?_) fun e q h => ⟨h.ne, h⟩))
  have hne : q.phase ≠ .reading := by
    rw [h]
    simp
  exact ⟨hne, .idle hne trivial, fun _ _ => h⟩

end

/-! ## The handlers follow the protocol -/

/-- The other handlers leave the configuration alone. -/
theorem others_settings {req : Request} (h : req.ManagesRegistry) (hreloads : req.Reloads = false) :
    (settingsProtocol careful).Keeps (fun q => q.phase = .idle) req.handle := by
  have hidle (c : Op) (hc : SettingsIdle c) :
      (settingsProtocol careful).Keeps (fun q => q.phase = .idle) (Prog.ask c : Async c.Ans) := by
    intro q hq
    refine ⟨.idle (by rw [hq]; simp) hc, fun r _ => ?_⟩
    show (q.next c r).phase = .idle
    rw [SettingsGhost.next_idle hc]
    exact hq
  refine h.keeps hreloads (fun c hc => hidle c hc.settingsIdle) (fun walletId walletConfig config mode => ?_)
    (fun walletId => ?_) (fun _ _ _ _ _ => hidle _ trivial) fun _ _ _ _ => hidle _ trivial
  · refine Protocol.keeps_of_uses (startWallet_uses ..) fun c hc => hidle c ?_
    cases c with
    | settings c => exact hc.elim
    | _ => trivial
  · refine Protocol.keeps_of_uses (stopWallet_uses walletId) fun c hc => hidle c ?_
    cases c with
    | settings c => exact hc.elim
    | _ => trivial

theorem settings_wp {req : Request} (h : req.ManagesRegistry) :
    (settingsProtocol careful).wp req.handle (SettingsGhost.enter req) (fun _ q => q.phase ≠ .reading)
      fun _ q => q.phase ≠ .reading := by
  cases hreloads : req.Reloads with
  | false =>
      have hne (q : SettingsGhost) (hq : q.phase = .idle) : q.phase ≠ .reading := by
        rw [hq]
        simp
      exact Protocol.wp_mono _ (others_settings h hreloads _ rfl) (fun _ q => hne q) fun _ q => hne q
  | true =>
      cases req with
      | reloadConfig rounds =>
          refine Protocol.wp_mono _ (reloadConfig_settings rounds) (fun _ q hq => ?_) fun _ q hq => ?_
          · rw [hq]
            simp
          · exact hq.ne
      | _ => cases hreloads

end

end WalletHeadless
