import WalletHeadless.Js.Text
import WalletHeadless.Services.Signing
import WalletHeadless.Services.Wallets

/-!
# `settings.js`

* `setupConfig`, `startProcess`: the configuration of a new process;
* `analizeConfig`: what a change of the configuration asks for;
* `updateConfig`, `reload`: the change is made.
-/

namespace WalletHeadless

open Coop Js

def setupConfig : Async Unit := do
  if ← started then throw { message := "Cannot setup the configuration twice." }
  else do
    let config ← await importConfig
    setConfig (some config)
    setStarted

/-- The start of the process: the configuration, and `wallet-lib` by `createApp`. -/
def startProcess : Async Unit := do
  await setupConfig
  let config ← getConfig
  initHathorLib config

/-! ## What has changed -/

structure ConfigReloadAction where
  stopAllWallets : Bool := false
  reconfigLib : Bool := false
  nonRecoverable : Bool := false
deriving DecidableEq

/-- The fields that a running process cannot change. -/
def fixedChanged (oldConfig newConfig : Config) : Bool :=
  oldConfig.http_port != newConfig.http_port ||
  oldConfig.http_bind_address != newConfig.http_bind_address ||
  oldConfig.http_api_key != newConfig.http_api_key ||
  oldConfig.consoleLevel != newConfig.consoleLevel ||
  oldConfig.httpLogFormat != newConfig.httpLogFormat ||
  oldConfig.enabled_plugins.map (sortedJoin "#") != newConfig.enabled_plugins.map (sortedJoin "#") ||
  oldConfig.hsmHost != newConfig.hsmHost ||
  oldConfig.hsmUsername != newConfig.hsmUsername ||
  oldConfig.hsmPassword != newConfig.hsmPassword ||
  oldConfig.fireblocksUrl != newConfig.fireblocksUrl ||
  oldConfig.fireblocksApiKey != newConfig.fireblocksApiKey ||
  oldConfig.fireblocksApiSecret != newConfig.fireblocksApiSecret ||
  oldConfig.fireblocksApiSecretFile != newConfig.fireblocksApiSecretFile

/-- The public keys of `seedKey`, in the entry `multisig`, are sorted in place. -/
def sortPubkeys (seedKey : String) (multisig : MultiSigConfig) (config : Config) : Config :=
  { config with multisig := config.multisig.map fun entries =>
      entries.set seedKey { multisig with pubkeys := multisig.pubkeys.map sorted } }

/-- The loop over the old seeds: whether the wallets have to stop, and the new configuration as the comparisons
leave it; or the error of a field that cannot be read. -/
def seedsChanged (oldConfig : Config) : List (String × String) → Config → Except JsError (Bool × Config)
  | [], newConfig => .ok (false, newConfig)
  | (seedKey, oldSeed) :: seeds, newConfig =>
    match newConfig.seeds with
    | none => .error (undefinedField seedKey)
    | some newSeeds =>
      -- what an object inherits is no string, and differs from the old seed as well
      if newSeeds.get seedKey ≠ some oldSeed then .ok (true, newConfig)
      else match oldConfig.multisigAt seedKey with
        | none => seedsChanged oldConfig seeds newConfig
        | some oldMultisig =>
          match newConfig.multisigAt seedKey with
          | none => .ok (true, newConfig)
          | some newMultisig =>
            if newMultisig.total ≠ oldMultisig.total ∨ newMultisig.numSignatures ≠ oldMultisig.numSignatures then
              .ok (true, newConfig)
            else match newMultisig.pubkeys, oldMultisig.pubkeys with
              | some newPubkeys, some oldPubkeys =>
                if sortedJoin ";" newPubkeys ≠ sortedJoin ";" oldPubkeys then
                  .ok (true, sortPubkeys seedKey newMultisig newConfig)
                else seedsChanged oldConfig seeds (sortPubkeys seedKey newMultisig newConfig)
              | _, _ => .error (undefinedField "sort")

/-- The loop over the new seeds: whether all of them are valid. -/
def seedsValid : List (String × String) → Async Bool
  | [] => return true
  | (_, seed) :: seeds => do
    let valid ← tryCatch (seedValid seed) fun err =>
      if err.kind = .InvalidWords then return false else throw err
    if valid then seedsValid seeds else return false

/-- The action for a change whose seeds are valid; `shouldStop` says that the wallets have to stop. -/
def actionFor (oldConfig newConfig : Config) (shouldStop : Bool) : ConfigReloadAction where
  stopAllWallets := shouldStop ||
    (oldConfig.server != newConfig.server || oldConfig.network != newConfig.network) ||
    (oldConfig.tokenUid != newConfig.tokenUid || oldConfig.gapLimit != newConfig.gapLimit ||
      oldConfig.connectionTimeout != newConfig.connectionTimeout)
  reconfigLib := (oldConfig.server != newConfig.server || oldConfig.network != newConfig.network) ||
    (oldConfig.txMiningUrl != newConfig.txMiningUrl || oldConfig.atomicSwapService != newConfig.atomicSwapService ||
      oldConfig.txMiningApiKey != newConfig.txMiningApiKey)

/-- `Object.entries(config.seeds)`, where there are seeds. -/
def Config.seedEntries (config : Config) : List (String × String) := config.seeds.elim [] Map.entries

/-- Whether the wallets have to stop because of the seeds, and the new configuration with what was sorted in
place. -/
def compareSeeds (oldConfig newConfig : Config) : Except JsError (Bool × Config) :=
  seedsChanged oldConfig oldConfig.seedEntries
    { newConfig with enabled_plugins := newConfig.enabled_plugins.map sorted }

/-- The same, where all fields can be read. -/
def seedsCompared (oldConfig newConfig : Config) : Bool × Config :=
  (compareSeeds oldConfig newConfig).toOption.getD (false, newConfig)

/-- The action for a change that a running process can make. -/
def reloadAction (oldConfig newConfig : Config) : ConfigReloadAction :=
  actionFor oldConfig (seedsCompared oldConfig newConfig).2 (seedsCompared oldConfig newConfig).1

/-- The imported configuration cannot be compared with the old one. -/
def incomparable (oldConfig newConfig : Config) : Bool :=
  !fixedChanged oldConfig newConfig && !(compareSeeds oldConfig newConfig).isOk

/-- Reading a field of `null`. -/
def nullField (field : String) : JsError :=
  { kind := .TypeError, message := s!"Cannot read properties of null (reading \x27{field}\x27)" }

/-- `_analizeConfig`: the action, and the new configuration with what was sorted in place. -/
def analizeConfig (oldConfig : Option Config) (newConfig : Config) : Async (ConfigReloadAction × Config) :=
  match oldConfig with
  | none => throw (nullField "http_port")
  | some oldConfig =>
    if fixedChanged oldConfig newConfig then return ({ nonRecoverable := true }, newConfig)
    else do
      let (shouldStop, newConfig) ← Prog.orThrow (compareSeeds oldConfig newConfig)
      if ← seedsValid newConfig.seedEntries then return (actionFor oldConfig newConfig shouldStop, newConfig)
      else return ({ stopAllWallets := shouldStop, nonRecoverable := true }, newConfig)

def nonRecoverableConfigChange : JsError := { kind := .NonRecoverableConfigChangeError, message := "" }

def updateConfig (rounds : Nat) (action : ConfigReloadAction) (config : Config) : Async Unit := do
  if action.nonRecoverable then throw nonRecoverableConfigChange
  else do
    (if action.stopAllWallets then await (stopAllWallets rounds) else pure ())
    if action.reconfigLib then initHathorLib config else pure ()

/-- `reloadConfig` of `settings.js`. -/
def reload (rounds : Nat) : Async Unit := do
  let oldConfig ← currentConfig
  setConfig none
  let newConfig ← await importConfig
  let (action, newConfig) ← await (analizeConfig oldConfig newConfig)
  await (updateConfig rounds action newConfig)
  setConfig (some newConfig)

end WalletHeadless
