import WalletHeadless.Services.Hsm
import WalletHeadless.Services.Fireblocks
import WalletHeadless.Services.Settings
import WalletHeadless.Services.Wallets

/-!
# The handlers that start and stop a wallet

`start` and `reloadConfig` of `index.controller.js`, `startHsmWallet` of `hsm.controller.js`, `startFireblocksWallet` of
`fireblocks.controller.js` and `stop` of `wallet.controller.js`.
-/

namespace WalletHeadless

open Coop Js

def WALLET_ALREADY_STARTED : String := "WALLET_ALREADY_STARTED"

def GAP_LIMIT : Int := 20

/-- `res.send({ success: false, message })`. -/
def sendMessage (message : String) : Async Unit := send (.message message none)

/-- The reply when the wallet id is in use. -/
def alreadyStarted (walletId : String) : Async Unit :=
  send (.message s!"Failed to start wallet with wallet id {walletId}" (some WALLET_ALREADY_STARTED))

/-! ## `index.controller.js` -/

/-- The body of `/start`; the numbers are what `parseInt` makes of the fields. -/
structure StartBody where
  walletId : Option String := none
  xpubkey : Option String := none
  seedKey : Option String := none
  seed : Option String := none
  passphrase : Option String := none
  multisig : Option Bool := none
  multisigKey : Option String := none
  scanPolicy : Option String := none
  policyStartIndex : Option Int := none
  policyEndIndex : Option Int := none
  gapLimit : Option Int := none
  precalculatedAddresses : Bool := false
  preCalculatedAddresses : List String := []
  history_sync_mode : Option String := none
deriving DecidableEq

/-- A number that is not falsy, or the default. -/
def orDefault (n : Option Int) (d : Int) : Int := (n.filter (· ≠ 0)).getD d

/-- The key of the multisig configuration that a start names. -/
def StartBody.usedKey (body : StartBody) : String := ((truthy body.seedKey).or body.multisigKey).getD "undefined"

/-- The multisig configuration of a start, or the message of its refusal. -/
def multisigOf (body : StartBody) (config : Config) : Except String (Option MultisigData) :=
  if body.multisig.getD false then
    let multisigKey := body.usedKey
    match config.multisigAt multisigKey with
    | none => .error s!"{multisigKey} is not configured for multisig."
    | some ⟨.value total, .value numSignatures, some pubkeys⟩ =>
      if total ≠ 0 ∧ numSignatures ≠ 0 ∧ pubkeys.length = total ∧ numSignatures ≤ total then
        .ok (some ⟨numSignatures, pubkeys⟩)
      else .error s!"Improperly configured multisig for seed {multisigKey}."
    | some _ => .error s!"Improperly configured multisig for seed {multisigKey}."
  else .ok none

/-- The address scanning policy of a start, or the message of its refusal. -/
def scanPolicyOf (body : StartBody) : Except String (Option ScanPolicy) :=
  match body.scanPolicy with
  | none => .ok none
  | some "index-limit" =>
    let startIndex := orDefault body.policyStartIndex 0
    .ok (some (.indexLimit startIndex (orDefault body.policyEndIndex startIndex)))
  | some "gap-limit" => .ok (some (.gapLimit (orDefault body.gapLimit GAP_LIMIT)))
  | some policy => .error s!"Address scanning policy {policy} is not supported."

/-- `config.seeds[seedKey]`, and whether there is one, be it inherited. -/
def seedAt (config : Config) (seedKey : String) : Except JsError (Option Seed) :=
  match config.seeds with
  | none => .error { kind := .TypeError, message := s!"Cannot use \x27in\x27 operator to search for \x27{seedKey}\x27 in undefined" }
  | some seeds =>
    .ok (((seeds.get seedKey).map .words).or (if seedKey ∈ inherited then some (.inherited seedKey) else none))

/-- The wallet configuration of a start, or the message of its refusal. -/
def walletConfigOf (body : StartBody) (config : Config) (multisigData : Option MultisigData)
    (scanPolicy : Option ScanPolicy) : Async (Except String WalletConfig) :=
  match body.xpubkey with
  | some xpub => return .ok (getReadonlyWalletConfig xpub multisigData scanPolicy)
  | none => do
    match ← Prog.orThrow (body.seedKey.elim (.ok (body.seed.map .words)) (seedAt config)) with
    | none => return .error "Seed not found."
    | some seed =>
      tryCatch (Except.ok <$> getWalletConfigFromSeed seed multisigData body.passphrase
          config.allowPassphrase scanPolicy) fun e =>
        if e.kind = .WalletStartError then return .error e.message else throw e

/-- What is wrong with the keys of a body. -/
def keysRefused (body : StartBody) : Option String :=
  if body.xpubkey.isNone ∧ body.seedKey.isNone ∧ body.seed.isNone then
    some "Parameter 'seedKey', 'seed' or 'xpubkey' is required."
  else if body.seedKey.isSome ∧ body.seed.isSome then
    some "You can't have both 'seedKey' and 'seed' in the body."
  else if (body.seedKey.isSome ∨ body.seed.isSome) ∧ body.xpubkey.isSome then
    some "You can't start a readonly wallet and send a seed in the same request."
  else none

/-- `start` once the wallet id is known to be free. -/
def startFree (walletId : String) (body : StartBody) (config : Config) : Async Unit :=
  match multisigOf body config with
  | .error message => sendMessage message
  | .ok multisigData =>
    match scanPolicyOf body with
    | .error message => sendMessage message
    | .ok scanPolicy => do
      match ← walletConfigOf body config multisigData scanPolicy with
      | .error message => sendMessage message
      | .ok walletConfig => do
        let preCalculatedAddresses := if body.precalculatedAddresses then body.preCalculatedAddresses else []
        let walletConfig := { walletConfig with preCalculatedAddresses := preCalculatedAddresses }
        tryCatch (do
          await (startWallet walletId walletConfig config none (truthy body.history_sync_mode))
          send .ok) fun _ =>
          sendMessage s!"Failed to start wallet with wallet id {walletId}"

def start (body : StartBody) : Async Unit := do
  let config ← getConfig
  match keysRefused body with
  | some message => sendMessage message
  | none =>
    match body.walletId with
    | none => sendMessage "Parameter 'wallet-id' is required."
    | some walletId => do
      match ← getWallet walletId with
      | some _ => alreadyStarted walletId
      | none => startFree walletId body config

/-- `reloadConfig` of `index.controller.js`. -/
def reloadConfig (rounds : Nat) : Async Unit := do
  await (reload rounds)
  send .ok

/-! ## `hsm.controller.js` -/

structure StartHsmBody where
  walletId : Option String := none
  hsmKey : Option String := none
deriving DecidableEq

/-- `setExternalTxSigningMethod` on what `initializedWallets.get(walletId)` returns. -/
def registerSigningMethod (walletId : String) (method : SigningMethod) : Async Unit := do
  match ← getWallet walletId with
  | none => throw (undefinedField "setExternalTxSigningMethod")
  | some wallet => setExternalTxSigningMethod wallet method

/-- The end of `startHsmWallet`, once the xpub is known. -/
def startWithXPub (walletId hsmKeyName xPub : String) : Async Unit := do
  let walletConfig := getReadonlyWalletConfig xPub
  let config ← getConfig
  tryCatch (do
    await (startWallet walletId walletConfig config (some hsmKeyName))
    registerSigningMethod walletId (.hsm hsmKeyName)
    send .ok) fun _ =>
    sendStatus 500 (.message s!"Failed to start wallet with wallet id {walletId} and key {hsmKeyName}" none)

/-- `startHsmWallet` over an open connection. -/
def startConnected (walletId hsmKeyName : String) : Async Unit := do
  match ← await (isKeyValidXpriv hsmKeyName) with
  | some reason => do
    sendMessage reason
    await hsmDisconnect
  | none => do
    let xPub ← tryCatch (do
      await (deriveMainKeysFromRoot hsmKeyName)
      Except.ok <$> await (getXPubFromKey hsmKeyName)) fun e => return .error e
    match xPub with
    | .error e => do
      sendMessage s!"Unexpected error on HSM xPub derivation: {e.message}"
      await hsmDisconnect
    | .ok xPub => do
      await hsmDisconnect
      startWithXPub walletId hsmKeyName xPub

def startHsmWallet (body : StartHsmBody) : Async Unit :=
  match truthy body.walletId with
  | none => sendMessage "Parameter 'wallet-id' is required."
  | some walletId => do
    match ← getWallet walletId with
    | some _ => alreadyStarted walletId
    | none =>
      match truthy body.hsmKey with
      | none => sendMessage "Parameter 'hsm-key' is required."
      | some hsmKeyName => do
        match ← tryCatch (Except.ok <$> await hsmConnect) fun e => return .error e with
        | .error e =>
          -- the connection is in use by another request, there is nothing to close
          if e.kind = .HsmError then sendMessage e.message
          else do
            sendMessage s!"Unexpected error on HSM connection: {e.message}"
            await hsmDisconnect
        | .ok _ => startConnected walletId hsmKeyName

/-! ## `fireblocks.controller.js` -/

structure StartFireblocksBody where
  walletId : Option String := none
  xpub : Option String := none
deriving DecidableEq

def fireblocksConfigured (config : Config) : Bool :=
  (truthy config.fireblocksUrl).isSome && (truthy config.fireblocksApiKey).isSome &&
    ((truthy config.fireblocksApiSecret).isSome || (truthy config.fireblocksApiSecretFile).isSome)

/-- The comparison of the public keys of the first address: none, or the reply that refuses. -/
def checkFireblocksKey (xpub : String) : Async (Option Reply) :=
  tryCatch (do
    let addressPubkeyInfo ← await (getAddressPubkeyInfo 0)
    let localPublicKey ← getPublicKeyFromXpub xpub
    if addressPubkeyInfo ≠ localPublicKey then
      return some ⟨200, .message "Fireblocks api generated a public key different from local public key." none⟩
    else return none) fun error =>
    return some ⟨500, .message
      s!"Could not validate Fireblocks client config, received error: {error.message}" none⟩

/-- `startFireblocksWallet` once the wallet id is known to be free. -/
def startFireblocksFree (walletId xpub : String) : Async Unit := do
  let config ← getConfig
  if fireblocksConfigured config then do
    startClient
    match ← checkFireblocksKey xpub with
    | some reply => sendStatus reply.status reply.body
    | none =>
      tryCatch (do
        await (startWallet walletId (getReadonlyWalletConfig xpub) config)
        registerSigningMethod walletId .fireblocks
        send .ok) fun _ =>
        sendStatus 500 (.message s!"Failed to start wallet with wallet id {walletId}" none)
  else sendMessage "Fireblocks client is not configured."

def startFireblocksWallet (body : StartFireblocksBody) : Async Unit :=
  match truthy body.walletId, truthy body.xpub with
  | none, _ => sendMessage "Parameter 'wallet-id' is required."
  | some _, none => sendMessage "Parameter 'xpub' is required."
  | some walletId, some xpub => do
    match ← getWallet walletId with
    | some _ => alreadyStarted walletId
    | none => startFireblocksFree walletId xpub

/-! ## `wallet.controller.js` -/

def stop (walletId : String) : Async Unit := do
  await (stopWallet walletId)
  send .ok

end WalletHeadless
