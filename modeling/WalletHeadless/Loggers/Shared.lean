import WalletHeadless.Services.Logger

/-!
# The variable that all loggers share

`buildLogger` puts whatever it builds in the variable that `buildAppLogger` reads.

* `Logging.Proper`, `Law`: what every call should return, and leave alone;
* `Undisturbed`: nobody asks for the logger of the application after a logger of a service was built;
* `LoggersInv`, `perform_builds`, `perform_quiet`: what a call does to the variable and to the loggers;
* `law_iff_undisturbed`; `walletLogger_for_app`: a wallet is initialized, and its logger is returned for the application.
-/

namespace WalletHeadless

open Js

/-! ## What the calls should do -/

/-- The call asks for the logger of the application. -/
def LoggerCall.asksApp : LoggerCall → Bool
  | .buildAppLogger _ => true
  | .getLogger req => req.wallet.isNone
  | _ => false

namespace Logging

/-- The service that the messages of a logger carry. -/
def serviceOf (s : Logging) (l : LoggerRef) : Option String := (s.loggers[l]?).map Logger.service

/-- The service of a request for a wallet. -/
def walletServiceOf (s : Logging) (walletId : String) : String :=
  if s.walletLoggers.has walletId then walletService walletId else uninitializedService walletId

/-- The service of the logger that a call should return. -/
def dueService (s : Logging) : LoggerCall → String
  | .buildServiceLogger service => sanitizeLogInput service
  | .initializeWalletLogger walletId => walletService walletId
  | .getLogger req => req.wallet.elim "wallet" s.walletServiceOf
  | _ => "wallet"

/-- A call returns a logger of the right service, always the same one for the application, and leaves the loggers of the
others as they are. -/
structure Proper (s : Logging) (app : LoggerRef) (c : LoggerCall) : Prop where
  due : ∀ l, (s.perform c).1 = some (.ok l) → (s.perform c).2.serviceOf l = some (s.dueService c)
  same : c.asksApp = true → (s.perform c).1 = some (.ok app)
  loggers : ∀ l < s.loggers.length, (s.perform c).2.loggers[l]? = s.loggers[l]?
  wallets : ∀ walletId, (∀ start, c ≠ .started walletId start) → c ≠ .stopped walletId →
    (s.perform c).2.walletLoggers.get walletId = s.walletLoggers.get walletId

/-- Every call of a sequence is proper. -/
def Law (app : LoggerRef) : Logging → List LoggerCall → Prop
  | _, [] => True
  | s, c :: cs => s.Proper app c ∧ Law app (s.perform c).2 cs

/-- The call builds a logger of a service. -/
def builds (s : Logging) : LoggerCall → Bool
  | .buildServiceLogger _ | .initializeWalletLogger _ => s.config.isSome
  | .getLogger req => req.wallet.any fun walletId => s.config.isSome && !s.walletLoggers.has walletId
  | _ => false

/-- Nobody asks for the logger of the application after a logger of a service was built. -/
def Undisturbed : Logging → List LoggerCall → Prop
  | _, [] => True
  | s, c :: cs => (s.builds c = true → ∀ c' ∈ cs, c'.asksApp = false) ∧ Undisturbed (s.perform c).2 cs

/-! ## What the calls do -/

/-- The logger of the application and those of the wallets carry their services. -/
structure LoggersInv (s : Logging) (app : LoggerRef) : Prop where
  app : s.serviceOf app = some "wallet"
  initialized : ∀ e ∈ s.initialized, s.serviceOf e.2 = some (walletService e.1)
  registered : ∀ walletId l, s.walletLoggers.get walletId = some l → s.serviceOf l = some (walletService walletId)

section Build
variable {s : Logging} {app : LoggerRef} (config : LogConfig) (service : String)

theorem serviceOf_new (stream : Bool) :
    (s.buildLogger config service stream).2.serviceOf s.loggers.length = some service := by
  simp [buildLogger, serviceOf]

theorem loggers_old (stream : Bool) {l : LoggerRef} (hl : l < s.loggers.length) :
    (s.buildLogger config service stream).2.loggers[l]? = s.loggers[l]? := List.getElem?_append_left hl

theorem serviceOf_old (stream : Bool) {l : LoggerRef} {name : String} (h : s.serviceOf l = some name) :
    (s.buildLogger config service stream).2.serviceOf l = some name := by
  have hl : l < s.loggers.length := by
    obtain ⟨logger, hlogger, -⟩ := Option.map_eq_some_iff.mp h
    exact (List.getElem?_eq_some_iff.mp hlogger).1
  rw [serviceOf, loggers_old config service stream hl]
  exact h

theorem LoggersInv.buildLogger (h : s.LoggersInv app) (stream : Bool) :
    (s.buildLogger config service stream).2.LoggersInv app where
  app := serviceOf_old config service stream h.app
  initialized e he := serviceOf_old config service stream (h.initialized e he)
  registered walletId l hl := serviceOf_old config service stream (h.registered walletId l hl)

/-- `buildServiceLogger` throws or returns a new logger of the service. -/
theorem buildServiceLogger_cases (s : Logging) (service : String) :
    s.config = none ∧ (∃ e, (s.buildServiceLogger service).1 = .error e) ∧ (s.buildServiceLogger service).2 = s ∨
    ∃ config, s.config = some config ∧ (s.buildServiceLogger service).1 = .ok s.loggers.length ∧
      (s.buildServiceLogger service).2 = (s.buildLogger config (sanitizeLogInput service)).2 := by
  unfold buildServiceLogger
  cases s.config with
  | none => exact .inl ⟨rfl, ⟨_, rfl⟩, rfl⟩
  | some config => exact .inr ⟨config, rfl, rfl, rfl⟩

end Build

section Perform
variable {s : Logging} {app cur : LoggerRef}

/-- What is known after a call: the invariant, the variable, and what the call returns and leaves alone. -/
structure Performed (s : Logging) (app cur : LoggerRef) (c : LoggerCall) : Prop where
  inv : (s.perform c).2.LoggersInv app
  logger : (s.perform c).2.logger = some (if s.builds c then s.loggers.length else cur)
  asked : c.asksApp = true → (s.perform c).1 = some (.ok cur) ∧ (s.perform c).2 = s
  due : c.asksApp = false → ∀ l, (s.perform c).1 = some (.ok l) → (s.perform c).2.serviceOf l = some (s.dueService c)
  loggers : ∀ l < s.loggers.length, (s.perform c).2.loggers[l]? = s.loggers[l]?
  wallets : ∀ walletId, (∀ start, c ≠ .started walletId start) → c ≠ .stopped walletId →
    (s.perform c).2.walletLoggers.get walletId = s.walletLoggers.get walletId

/-- A call that returns nothing new and keeps the variable and the loggers. -/
theorem Performed.of_quiet {c : LoggerCall} {s' : Logging} (he : (s.perform c).2 = s') (hinv : s'.LoggersInv app)
    (hlogger : s'.logger = some cur) (hl : s'.loggers = s.loggers) (hb : s.builds c = false)
    (hasked : c.asksApp = true → (s.perform c).1 = some (.ok cur) ∧ s' = s)
    (hdue : c.asksApp = false → ∀ l, (s.perform c).1 = some (.ok l) → s'.serviceOf l = some (s.dueService c))
    (hwallets : ∀ walletId, (∀ start, c ≠ .started walletId start) → c ≠ .stopped walletId →
      s'.walletLoggers.get walletId = s.walletLoggers.get walletId) : s.Performed app cur c := by
  subst he
  refine ⟨hinv, ?_, hasked, hdue, fun l _ => by rw [hl], hwallets⟩
  rw [hlogger, hb]
  rfl

/-- A call that builds a logger of a service and returns it. -/
theorem Performed.of_build {c : LoggerCall} {s' : Logging} (config : LogConfig) {service : String}
    (hr : (s.perform c).1 = some (.ok s.loggers.length)) (he : (s.perform c).2 = s') (hinv : s'.LoggersInv app)
    (hlogger : s'.logger = some s.loggers.length) (hl : s'.loggers = (s.buildLogger config service).2.loggers)
    (hw : s'.walletLoggers = s.walletLoggers) (hb : s.builds c = true) (ha : c.asksApp = false)
    (hdue : s.dueService c = service) : s.Performed app cur c := by
  subst he
  refine ⟨hinv, ?_, fun happ => ?_, fun _ l hres => ?_, fun l hlt => ?_, fun walletId _ _ => by rw [hw]⟩
  · rw [hlogger, hb]
    rfl
  · rw [ha] at happ
    cases happ
  · rw [hr] at hres
    cases hres
    rw [hdue, serviceOf, hl]
    exact serviceOf_new config _ false
  · rw [hl]
    exact loggers_old config service false hlt

theorem performed_buildServiceLogger (h : s.LoggersInv app) (hcur : s.logger = some cur) (service : String) :
    s.Performed app cur (.buildServiceLogger service) := by
  obtain ⟨hconfig, ⟨e, he⟩, hs⟩ | ⟨config, hconfig, hr, hs⟩ := s.buildServiceLogger_cases service
  · refine .of_quiet hs h hcur rfl (by simp [builds, hconfig]) (fun happ => by cases happ) (fun _ l hl => ?_)
      fun _ _ _ => rfl
    cases he.symm.trans (Option.some.inj hl)
  · exact .of_build config (congrArg some hr) hs (h.buildLogger config _ false) rfl rfl rfl (by simp [builds, hconfig]) rfl rfl

theorem performed_initializeWalletLogger (h : s.LoggersInv app) (hcur : s.logger = some cur) (walletId : String) :
    s.Performed app cur (.initializeWalletLogger walletId) := by
  cases hconfig : s.config with
  | none =>
      have hr : s.perform (.initializeWalletLogger walletId) =
          (some (.error { kind := .UnavailableConfigError, message := "" }), s) := by
        simp [perform, initializeWalletLogger, buildServiceLogger, hconfig]
      refine .of_quiet (congrArg Prod.snd hr) h hcur rfl (by simp [builds, hconfig]) (fun happ => by cases happ)
        (fun _ l hl => ?_) fun _ _ _ => rfl
      cases (congrArg Prod.fst hr).symm.trans hl
  | some config =>
      have hr : s.perform (.initializeWalletLogger walletId) = (some (.ok s.loggers.length),
          { (s.buildLogger config (walletService walletId)).2 with
            initialized := (walletId, s.loggers.length) :: s.initialized }) := by
        simp [perform, initializeWalletLogger, buildServiceLogger, hconfig, buildLogger, walletService]
      have hinv := h.buildLogger config (walletService walletId) false
      refine .of_build config (congrArg Prod.fst hr) (congrArg Prod.snd hr)
        ⟨hinv.app, fun e he => ?_, hinv.registered⟩ rfl rfl rfl (by simp [builds, hconfig]) rfl rfl
      rcases List.mem_cons.mp he with rfl | he
      · exact serviceOf_new config _ false
      · exact hinv.initialized e he

theorem performed_getLogger (h : s.LoggersInv app) (hcur : s.logger = some cur) (req : LogReq) :
    s.Performed app cur (.getLogger req) := by
  cases hw : req.wallet with
  | none =>
      have happ : s.perform (.getLogger req) = (some (.ok cur), s) := by
        simp [perform, getLogger, hw, buildAppLogger, hcur]
      refine .of_quiet (congrArg Prod.snd happ) h hcur rfl (by simp [builds, hw]) (fun _ => ⟨congrArg Prod.fst happ, rfl⟩)
        (fun hn => ?_) fun _ _ _ => rfl
      simp [LoggerCall.asksApp, hw] at hn
  | some walletId =>
      have hask : (LoggerCall.getLogger req).asksApp = false := by simp [LoggerCall.asksApp, hw]
      cases hget : s.walletLoggers.get walletId with
      | some l =>
          have hr : s.perform (.getLogger req) = (some (.ok l), s) := by simp [perform, getLogger, hw, hget]
          refine .of_quiet (congrArg Prod.snd hr) h hcur rfl (by simp [builds, hw, Map.has, hget])
            (fun happ => by rw [hask] at happ; cases happ) (fun _ l' hl' => ?_) fun _ _ _ => rfl
          cases (congrArg Prod.fst hr).symm.trans hl'
          simp [dueService, hw, walletServiceOf, Map.has, hget, h.registered walletId l hget]
      | none =>
          have hr : s.perform (.getLogger req) = s.perform (.buildServiceLogger s!"uninitialized_wallet({walletId})") := by
            simp [perform, getLogger, hw, hget]
          obtain ⟨hconfig, ⟨e, he⟩, hs⟩ | ⟨config, hconfig, hok, hs⟩ :=
            s.buildServiceLogger_cases s!"uninitialized_wallet({walletId})"
          · refine .of_quiet ((congrArg Prod.snd hr).trans hs) h hcur rfl (by simp [builds, hw, hconfig])
              (fun happ => by rw [hask] at happ; cases happ) (fun _ l hl => ?_) fun _ _ _ => rfl
            rw [hr] at hl
            cases he.symm.trans (Option.some.inj hl)
          · refine .of_build config ((congrArg Prod.fst hr).trans (congrArg some hok)) ((congrArg Prod.snd hr).trans hs)
              (h.buildLogger config _ false) rfl rfl rfl (by simp [builds, hw, hconfig, Map.has, hget]) hask ?_
            simp [dueService, hw, walletServiceOf, Map.has, hget, uninitializedService]

theorem performed_started (h : s.LoggersInv app) (hcur : s.logger = some cur) (walletId : String) (start : Nat) :
    s.Performed app cur (.started walletId start) := by
  have hset : (s.setWalletLogger walletId start).LoggersInv app ∧
      (s.setWalletLogger walletId start).logger = s.logger ∧ (s.setWalletLogger walletId start).loggers = s.loggers ∧
      ∀ other, other ≠ walletId → (s.setWalletLogger walletId start).walletLoggers.get other = s.walletLoggers.get other := by
    unfold setWalletLogger
    split
    next l hl =>
      refine ⟨⟨h.app, h.initialized, fun other l' hl' => ?_⟩, rfl, rfl, fun other hother => Map.get_set_of_ne _ _ hother⟩
      rw [Map.get_set] at hl'
      split at hl'
      next he =>
        cases hl'
        have hmem := List.mem_of_getElem? hl
        simp only [initializedFor, List.mem_map, List.mem_filter, decide_eq_true_eq] at hmem
        obtain ⟨e, ⟨he', hid⟩, rfl⟩ := hmem
        rw [he, ← hid]
        exact h.initialized e he'
      next => exact h.registered other l' hl'
    next => exact ⟨h, rfl, rfl, fun _ _ => rfl⟩
  obtain ⟨hinv, hlogger, hl, hother⟩ := hset
  exact .of_quiet rfl hinv (hlogger.trans hcur) hl rfl (fun happ => by cases happ) (fun _ l hl => by cases hl)
    fun other hn _ => hother other fun he => hn start (by rw [he])

theorem performed (h : s.LoggersInv app) (hcur : s.logger = some cur) (c : LoggerCall) : s.Performed app cur c := by
  cases c with
  | buildAppLogger config =>
      have happ : s.perform (.buildAppLogger config) = (some (.ok cur), s) := by simp [perform, buildAppLogger, hcur]
      exact .of_quiet (congrArg Prod.snd happ) h hcur rfl rfl (fun _ => ⟨congrArg Prod.fst happ, rfl⟩)
        (fun hn => by cases hn) fun _ _ _ => rfl
  | buildServiceLogger service => exact performed_buildServiceLogger h hcur service
  | initializeWalletLogger walletId => exact performed_initializeWalletLogger h hcur walletId
  | getLogger req => exact performed_getLogger h hcur req
  | started walletId start => exact performed_started h hcur walletId start
  | stopped walletId =>
      refine .of_quiet rfl ⟨h.app, h.initialized, fun other l hl => ?_⟩ hcur rfl rfl (fun happ => by cases happ)
        (fun _ l hl => by cases hl) fun other _ hn => Map.get_delete_of_ne _ fun he => hn (by rw [he])
      change (s.walletLoggers.delete walletId).get other = some l at hl
      rw [Map.get_delete] at hl
      split at hl
      · cases hl
      · exact h.registered other l hl
  | reloaded config =>
      exact .of_quiet rfl ⟨h.app, h.initialized, h.registered⟩ hcur rfl rfl (fun hn => by cases hn)
        (fun _ l hl => by cases hl) fun _ _ _ => rfl

theorem dueService_of_asksApp (s : Logging) {c : LoggerCall} (h : c.asksApp = true) : s.dueService c = "wallet" := by
  cases c with
  | buildAppLogger config => rfl
  | getLogger req =>
      have hnone : req.wallet = none := by simpa [LoggerCall.asksApp] using h
      simp [dueService, hnone]
  | _ => cases h

theorem proper_iff (h : s.LoggersInv app) (hcur : s.logger = some cur) (c : LoggerCall) :
    s.Proper app c ↔ (c.asksApp = true → cur = app) := by
  have hp := performed h hcur c
  constructor
  · intro hproper happ
    have hsame := hproper.same happ
    rw [(hp.asked happ).1] at hsame
    exact Except.ok.inj (Option.some.inj hsame)
  · intro hsame
    refine ⟨fun l hl => ?_, fun happ => ?_, hp.loggers, hp.wallets⟩
    · cases happ : c.asksApp with
      | false => exact hp.due happ l hl
      | true =>
          have hl' := (hp.asked happ).1.symm.trans hl
          cases hl'
          rw [(hp.asked happ).2, dueService_of_asksApp s happ, hsame happ]
          exact h.app
    · rw [← hsame happ]
      exact (hp.asked happ).1

theorem law_iff (h : s.LoggersInv app) (hcur : s.logger = some cur) (cs : List LoggerCall) :
    Law app s cs ↔ (cur ≠ app → ∀ c ∈ cs, c.asksApp = false) ∧ s.Undisturbed cs := by
  induction cs generalizing s cur with
  | nil => simp [Law, Undisturbed]
  | cons c cs ih =>
      have hp := performed h hcur c
      have hnew : s.loggers.length ≠ app := by
        obtain ⟨logger, hlogger, -⟩ := Option.map_eq_some_iff.mp h.app
        exact ((List.getElem?_eq_some_iff.mp hlogger).1).ne'
      rw [Law, Undisturbed, proper_iff h hcur, ih hp.inv hp.logger]
      cases hb : s.builds c <;> cases ha : c.asksApp <;> simp [ha, hnew] <;> tauto

end Perform

/-- The process after its first call, which builds the logger of the application. -/
def appStarted (inForce : Option LogConfig) (config : LogConfig) : Logging :=
  (({ config := inForce } : Logging).perform (.buildAppLogger (some config))).2

/-- In a sequence of calls that starts with `buildAppLogger(config)`, every call is proper exactly when nobody asks for
the logger of the application after a logger of a service was built. -/
theorem law_iff_undisturbed (inForce : Option LogConfig) (config : LogConfig) (cs : List LoggerCall) :
    (({ config := inForce } : Logging).perform (.buildAppLogger (some config))).1 = some (.ok 0) ∧
      (Law 0 (appStarted inForce config) cs ↔ (appStarted inForce config).Undisturbed cs) := by
  refine ⟨rfl, ?_⟩
  have hinv : (appStarted inForce config).LoggersInv 0 :=
    ⟨rfl, fun e he => (by cases he), fun walletId l hl => (by cases hl)⟩
  rw [law_iff hinv (show (appStarted inForce config).logger = some 0 from rfl)]
  simp

/-- A wallet is initialized, and then the application asks for its logger. -/
theorem walletLogger_for_app :
    ¬ Law 0 (appStarted (some {}) {}) [.initializeWalletLogger "w", .buildAppLogger none] := by
  intro h
  have hsame := h.2.1.same rfl
  cases hsame

end Logging

end WalletHeadless
