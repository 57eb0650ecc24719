import WalletHeadless.Server.Ops

/-!
# `wallets.service.js` and `wallet.helper.js`

* `getReadonlyWalletConfig`, `getWalletConfigFromSeed`;
* `startWallet`, `stopWallet`, `stopAllWallets`;
* `initHathorLib`.
-/

namespace WalletHeadless

open Coop Js

def DEFAULT_PASSWORD : String := "123"

def DEFAULT_PIN : String := "123"

def SWAP_SERVICE_MAINNET_BASE_URL : String := "https://atomic-swap-service.hathor.network/"

def SWAP_SERVICE_TESTNET_BASE_URL : String := "https://atomic-swap-service.testnet.hathor.network/"

/-- The address of the swap service: the explicit one, else that of the network. -/
def swapServiceUrl (config : Config) : String :=
  (truthy config.atomicSwapService).getD
    (if config.network = "mainnet" then SWAP_SERVICE_MAINNET_BASE_URL else SWAP_SERVICE_TESTNET_BASE_URL)

/-- A setter that is called for a field that is there only. -/
def setLibTruthy (cell : LibCell) (value : Option String) : Async Unit :=
  match truthy value with
  | some value => setLib cell value
  | none => pure ()

def initHathorLib (config : Config) : Async Unit := do
  setLibTruthy .txMiningUrl config.txMiningUrl
  setLibTruthy .txMiningApiKey config.txMiningApiKey
  setLib .swapServiceBaseUrl (swapServiceUrl config)
  setLib .serverUrl config.server
  setLib .network config.network

def getReadonlyWalletConfig (xpub : String) (multisigData : Option MultisigData := none)
    (scanPolicy : Option ScanPolicy := none) : WalletConfig :=
  { xpub := some xpub, password := DEFAULT_PASSWORD, pinCode := DEFAULT_PIN, multisig := multisigData,
    scanPolicy := scanPolicy }

def passphraseNotAllowed : JsError :=
  { kind := .WalletStartError, message := "Failed to start wallet. To use a passphrase you must explicitly allow it in the configuration file. Using a passphrase completely changes the addresses of your wallet, only use it if you know what you are doing." }

def getWalletConfigFromSeed (seed : Seed) (multisigData : Option MultisigData)
    (passphrase : Option String) (allowPassphrase : Bool) (scanPolicy : Option ScanPolicy) :
    Async WalletConfig := do
  let words ← tryCatch (wordsValid seed) fun e =>
    if e.kind = .InvalidWords then
      throw { kind := .WalletStartError, message := s!"Invalid seed: {e.message}" }
    else throw e
  let walletConfig : WalletConfig :=
    { seed := some words, password := DEFAULT_PASSWORD, pinCode := DEFAULT_PIN, multisig := multisigData,
      scanPolicy := scanPolicy }
  match truthy passphrase with
  | none => return walletConfig
  | some passphrase =>
    if allowPassphrase then return { walletConfig with passphrase := some passphrase }
    else throw passphraseNotAllowed

/-- The mode under a name, where the object of the modes has or inherits one. -/
def historySyncMode : String → Option HistorySyncMode
  | "polling_http_api" => some .POLLING_HTTP_API
  | "xpub_stream_ws" => some .XPUB_STREAM_WS
  | "manual_stream_ws" => some .MANUAL_STREAM_WS
  | name => if name ∈ inherited then some (.inherited name) else none

/-- The mode for the history of a new wallet. -/
def syncMode (walletConfig : WalletConfig) (config : Config) (option : Option String) : HistorySyncMode :=
  -- multisig, and scan policies other than `gap-limit`, cannot use the streaming modes
  if walletConfig.multisig.isSome then .POLLING_HTTP_API
  else match walletConfig.scanPolicy with
    | some (.indexLimit _ _) => .POLLING_HTTP_API
    | _ => (((truthy option).or config.history_sync_mode).bind historySyncMode).getD .XPUB_STREAM_WS

/-- The logger, the connection and the object of the wallet are made of the configuration at once. -/
def startWallet (walletId : String) (walletConfig : WalletConfig) (config : Config)
    (hsmKeyName : Option String := none) (historySyncMode : Option String := none) : Async Unit := do
  if walletConfig.connection then throw { message := "Invalid parameter for startWallet helper" }
  else do
    let hydratedWalletConfig :=
      { walletConfig with connection := true, tokenUid := (truthy config.tokenUid).or walletConfig.tokenUid }
    let wallet ← newWallet walletId hydratedWalletConfig config
    setHistorySyncMode wallet (syncMode hydratedWalletConfig config historySyncMode)
    (match config.gapLimit.get?.filter (· ≠ 0) with
      | some gapLimit => setGapLimit wallet gapLimit
      | none => pure ())
    walletStart wallet
    setWallet walletId wallet
    setLogger walletId
    match truthy hsmKeyName with
    | some key => setHsmWallet walletId key
    | none => pure ()

/-- `removeAllWalletProposals` of `atomic-swap.service.js`. -/
def removeAllWalletProposals (walletId : String) : Async Unit := deleteProposals walletId

def stopWallet (walletId : String) : Async Unit := do
  match ← getWallet walletId with
  | none => return
  | some wallet => do
    let isHsm ← hasHsmWallet walletId
    (if isHsm then deleteHsmWallet walletId else pure ())
    walletStop wallet
    deleteWallet walletId
    deleteLogger walletId
    lockDelete walletId
    await (removeAllWalletProposals walletId)

/-- The loop over `initializedWallets.values()`, from a place of the map on. The map may grow while a wallet
stops: `rounds` bounds the rounds that the loop takes, and one that would take more waits forever. -/
def stopFrom : Nat → Nat → Async Unit
  | 0, _ => forever
  | rounds + 1, index => do
    match ← nextWallet index with
    | none => return
    | some (wallet, next) => do
      walletStop wallet
      removeAllListeners wallet
      stopFrom rounds next

/-- The loop over the ids that are left. -/
def removeWallets : List String → Async Unit
  | [] => pure ()
  | walletId :: walletIds => do
    deleteWallet walletId
    deleteLogger walletId
    await (removeAllWalletProposals walletId)
    removeWallets walletIds

def stopAllWallets (rounds : Nat) : Async Unit := do
  stopFrom rounds 0
  let walletIds ← walletIds
  removeWallets walletIds

end WalletHeadless
