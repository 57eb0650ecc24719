import WalletHeadless.Js.Map
import WalletHeadless.Types

/-!
# `logger.js` and `logger.service.js`

A logger is the place of a `winston` object among those that were created. The module keeps one of them in its
variable `logger`, and `walletLoggers` those of the started wallets.

* `buildLogger`, `buildAppLogger`, `buildServiceLogger`;
* `initializeWalletLogger`, `getLogger`;
* `LoggerCall`, `Logging.perform`: the calls of the process, one after the other.
-/

namespace WalletHeadless

open Js

/-- A file that the messages go to as well. -/
structure LogFile where
  filename : String
  level : String
deriving DecidableEq

/-- What the loggers read of the configuration. -/
structure LogConfig where
  consoleLevel : Option String := none
  logging : List LogFile := []
deriving DecidableEq

/-- A `winston` logger; that of the application is given the stream that `morgan` writes to. -/
structure Logger where
  service : String
  consoleLevel : String
  files : List LogFile
  stream : Bool := false
deriving DecidableEq

abbrev LoggerRef := Nat

/-- What a request says of its wallet. -/
structure LogReq where
  walletId : Option String := none
  xWalletId : Option String := none
  bodyWalletId : Option String := none
deriving DecidableEq

/-- The variables of both modules, the objects that they refer to, the configuration in force, and the loggers that were
made for the starts of each wallet. -/
structure Logging where
  logger : Option LoggerRef := none
  loggers : List Logger := []
  walletLoggers : Map String LoggerRef := .empty
  config : Option LogConfig := none
  initialized : List (String × LoggerRef) := []

/-- `String(input).replace(/\n|\r/g, '')`. -/
def sanitizeLogInput (input : String) : String :=
  String.ofList (input.toList.filter fun c => c ≠ Char.ofNat 10 ∧ c ≠ Char.ofNat 13)

def walletService (walletId : String) : String := sanitizeLogInput s!"wallet({walletId})"

def uninitializedService (walletId : String) : String := sanitizeLogInput s!"uninitialized_wallet({walletId})"

namespace Logging

/-- The logger that is built is also put in the variable of the module. -/
def buildLogger (s : Logging) (config : LogConfig) (defaultService : String) (stream : Bool := false) :
    LoggerRef × Logging :=
  (s.loggers.length,
    { s with
      logger := some s.loggers.length
      loggers := s.loggers ++ [⟨defaultService, (truthy config.consoleLevel).getD "info", config.logging, stream⟩] })

def buildAppLogger (s : Logging) (config : Option LogConfig := none) : Except JsError LoggerRef × Logging :=
  match s.logger with
  | some logger => (.ok logger, s)
  | none =>
    match config with
    | some config => ((.ok (s.buildLogger config "wallet" true).1), (s.buildLogger config "wallet" true).2)
    | none =>
      (.error { kind := .TypeError, message := "Cannot read properties of undefined (reading \x27consoleLevel\x27)" }, s)

def buildServiceLogger (s : Logging) (service : String) : Except JsError LoggerRef × Logging :=
  match s.config with
  | some config =>
    (.ok (s.buildLogger config (sanitizeLogInput service)).1, (s.buildLogger config (sanitizeLogInput service)).2)
  | none => (.error { kind := .UnavailableConfigError, message := "" }, s)

def initializeWalletLogger (s : Logging) (walletId : String) : Except JsError LoggerRef × Logging :=
  match s.buildServiceLogger s!"wallet({walletId})" with
  | (.ok logger, s) => (.ok logger, { s with initialized := (walletId, logger) :: s.initialized })
  | r => r

end Logging

/-- The wallet of a request. -/
def LogReq.wallet (req : LogReq) : Option String :=
  ((truthy req.walletId).or (truthy req.xWalletId)).or (truthy req.bodyWalletId)

def Logging.getLogger (s : Logging) (req : LogReq) : Except JsError LoggerRef × Logging :=
  match req.wallet with
  | none => s.buildAppLogger
  | some walletId =>
    match s.walletLoggers.get walletId with
    | some logger => (.ok logger, s)
    | none => s.buildServiceLogger s!"uninitialized_wallet({walletId})"

/-! ## The calls of the process -/

/-- The calls of the builders. A start puts the logger that it has initialized in `walletLoggers`, a stop takes it out, and a
reload of the configuration takes it away and brings a new one. -/
inductive LoggerCall
  | buildAppLogger (config : Option LogConfig)
  | buildServiceLogger (service : String)
  | initializeWalletLogger (walletId : String)
  | getLogger (req : LogReq)
  | started (walletId : String) (start : Nat)
  | stopped (walletId : String)
  | reloaded (config : Option LogConfig)
deriving DecidableEq

namespace Logging

/-- The loggers that were initialized for a wallet. -/
def initializedFor (s : Logging) (walletId : String) : List LoggerRef :=
  (s.initialized.filter fun e => e.1 = walletId).map Prod.snd

/-- `walletLoggers.set(walletId, logger)` in a start of the wallet. -/
def setWalletLogger (s : Logging) (walletId : String) (start : Nat) : Logging :=
  match (s.initializedFor walletId)[start]? with
  | some logger => { s with walletLoggers := s.walletLoggers.set walletId logger }
  | none => s

/-- The logger that a call returns, if it returns one, and what it leaves. -/
def perform (s : Logging) : LoggerCall → Option (Except JsError LoggerRef) × Logging
  | .buildAppLogger config => (some (s.buildAppLogger config).1, (s.buildAppLogger config).2)
  | .buildServiceLogger service => (some (s.buildServiceLogger service).1, (s.buildServiceLogger service).2)
  | .initializeWalletLogger walletId =>
    (some (s.initializeWalletLogger walletId).1, (s.initializeWalletLogger walletId).2)
  | .getLogger req => (some (s.getLogger req).1, (s.getLogger req).2)
  | .started walletId start => (none, s.setWalletLogger walletId start)
  | .stopped walletId => (none, { s with walletLoggers := s.walletLoggers.delete walletId })
  | .reloaded config => (none, { s with config := config })

end Logging

end WalletHeadless
