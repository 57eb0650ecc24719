import WalletHeadless.Services.Signing

/-!
# `hsm.service.js`

* `hsmConnect`, `hsmDisconnect`: the connection and the HSM lock;
* `isKeyValidXpriv`, `hsmKeyExists`, `deriveMainKeysFromRoot`, `getXPubFromKey`: the keys of a wallet;
* `HsmSession.signTx`, `hsmSignTx`: the signing method of an HSM wallet.
-/

namespace WalletHeadless

open Coop Js

def hsmBusyErrorMessage : String :=
  "You already have a connection open with the HSM. Please wait until it's closed to try again."

/-- `hsm.constants.ERR_OBJ_ALREADY_EXISTS`. -/
def ERR_OBJ_ALREADY_EXISTS : Nat := 5022

/-- `hsm.constants.ERR_CANNOT_OPEN_OBJ`. -/
def ERR_CANNOT_OPEN_OBJ : Nat := 5004

/-- `hsm.enums.BCHAIN_SECURE_BIP32_INDEX.BASE`. -/
def SECURE_BIP32_INDEX_BASE : Nat := 0x80000000

def HATHOR_BIP44_CODE : Nat := 280

def delay (ms : Nat) : Async Unit := sleep ms

def getBip32Keyname (keyname : String) (pathIndex : Nat) (index : Nat := 0) : String :=
  match pathIndex with
  | 0 => keyname
  | 1 => s!"{keyname}_bip44"
  | 2 => s!"{keyname}_coinHTR"
  | 3 => s!"{keyname}_htrAcct"
  | 4 => s!"{keyname}_htrChange0"
  | _ => s!"{keyname}_HAddr_{index}"

def getAcctKeyname (keyname : String) : String := getBip32Keyname keyname 3

def getChangeKeyname (keyname : String) : String := getBip32Keyname keyname 4

/-- The version byte of the network. -/
def derivationVersion (config : Config) : DerivationVersion :=
  if config.network = "mainnet" then .BIP32_HTR_MAIN_NET else .BIP32_HTR_TEST_NET

/-! ## The connection -/

def hsmConnect : Async Unit := do
  let config ← getConfig
  match truthy config.hsmHost, truthy config.hsmUsername, truthy config.hsmPassword with
  | some host, some username, some password => do
    -- only one connection is open at any given moment
    let canStart ← lockOn .globalLock .HSM
    if canStart then connect host username password
    else throw { kind := .HsmError, message := hsmBusyErrorMessage }
  | _, _, _ => throw { kind := .HsmError, message := "HSM integration is not configured" }

def hsmDisconnect : Async Unit := do
  disconnect
  unlockOn .globalLock .HSM

/-! ## Keys -/

/-- What `isKeyValidXpriv` finds: nothing against the key, or a reason. -/
def isKeyValidXpriv (hsmKeyName : String) : Async (Option String) := do
  let keyInfo ← tryCatch (Except.ok <$> getKeyInfo hsmKeyName) fun e =>
    return .error (if e.errorCode = some 5004 then "Key does not exist on HSM."
      else s!"Unexpected error on key retrieval: {e.message}")
  match keyInfo with
  | .error reason => return some reason
  | .ok keyInfo =>
    if keyInfo.type ≠ .BIP32_XPRV then return some "hsm-key is not a valid xPriv."
    -- `in` looks for an index of the array of the two versions
    else if ¬ keyInfo.ver < 2 then return some "hsm-key is not a valid Hathor xPriv."
    else return none

def hsmKeyExists (keyname : String) : Async Bool :=
  tryCatch (do
    let _ ← getKeyInfo keyname
    return true) fun e => do
    if e.errorCode = some ERR_CANNOT_OPEN_OBJ then do
      await (delay 500)
      return false
    else throw e

def HTR_CKD_BIP_KEYNAME : String := "HTR_BIP_KEY"

def HTR_CKD_COIN_KEYNAME : String := "HTR_COIN_KEY"

/-- The derivation from the root to the account path. -/
def deriveAcctKey (version : DerivationVersion) (hsmKeyName : String) : Async Unit := do
  createBip32ChildKeyDerivation version (SECURE_BIP32_INDEX_BASE + 44) false true hsmKeyName
    HTR_CKD_BIP_KEYNAME
  createBip32ChildKeyDerivation version (SECURE_BIP32_INDEX_BASE + HATHOR_BIP44_CODE) false true
    HTR_CKD_BIP_KEYNAME HTR_CKD_COIN_KEYNAME
  createBip32ChildKeyDerivation version SECURE_BIP32_INDEX_BASE false false HTR_CKD_COIN_KEYNAME
    (getAcctKeyname hsmKeyName)

/-- `deriveMainKeysFromRoot` with the version of the network. -/
def deriveMainKeysFromRoot (hsmKeyName : String) : Async Unit := do
  let acctPathKeyname := getAcctKeyname hsmKeyName
  let changePathKeyname := getChangeKeyname hsmKeyName
  let acctPathExists ← await (hsmKeyExists acctPathKeyname)
  let config ← getConfig
  let version := derivationVersion config
  (if acctPathExists then pure () else deriveAcctKey version hsmKeyName)
  let changePathExists ← await (hsmKeyExists changePathKeyname)
  if changePathExists then pure ()
  else createBip32ChildKeyDerivation version 0 false false acctPathKeyname changePathKeyname

def getXPubFromKey (hsmKeyName : String) : Async String := getPubKey (getAcctKeyname hsmKeyName)

/-! ## Signing -/

namespace HsmSession

/-- The name of an address key, and `addressKeys`: the names of the address keys that the session has. -/
def getAddressKeyName (rootKey : String) (addressKeys : Js.Map Nat String) (index : Nat) :
    Async (String × Js.Map Nat String) :=
  match addressKeys.get index with
  | some addressKeyName => pure (addressKeyName, addressKeys)
  | none => do
    let config ← getConfig
    let addressKeyName := getBip32Keyname rootKey 5 index
    tryCatch (createBip32ChildKeyDerivation (derivationVersion config) index false true
        (getChangeKeyname rootKey) addressKeyName) fun err => do
      await (delay 500)
      -- the address key was already derived
      if err.errorCode = some ERR_OBJ_ALREADY_EXISTS then pure () else throw err
    return (addressKeyName, addressKeys.set index addressKeyName)

/-- A signature without the parity byte before its DER encoding. -/
def withoutParity (signature : Buffer) : Buffer :=
  if signature.head? ≠ some 0x30 then signature.drop 1 else signature

def getSignature (rootKey : String) (addressKeys : Js.Map Nat String) (dataToSignHash : Buffer)
    (addressIndex : Nat) : Async (Buffer × Js.Map Nat String) := do
  let (htrKeyName, addressKeys) ← await (getAddressKeyName rootKey addressKeys addressIndex)
  let signature ← sign dataToSignHash htrKeyName
  return (withoutParity signature, addressKeys)

/-- `signTx` of a session with these `addressKeys`, and what they are then. -/
def signTx (rootKey : String) (addressKeys : Js.Map Nat String) (tx : Transaction) (w : WalletRef) :
    Async (SignatureData × Js.Map Nat String) := do
  let (inputSignatures, addressKeys) ← ownInputs w (fun keys inputIndex addressIndex pubkey => do
    let (signature, keys) ← await (getSignature rootKey keys tx.dataToSignHash addressIndex)
    return ((⟨inputIndex, addressIndex, signature, pubkey⟩ : InputSignature), keys)) 0 tx.inputs addressKeys
  match ← callerIndex tx w with
  | none => return (⟨inputSignatures, none⟩, addressKeys)
  | some index => do
    let (signature, addressKeys) ← await (getSignature rootKey addressKeys tx.dataToSignHash index)
    if tx.isNanoContract then do
      let pubkeyHex ← getAddressPubkey w index
      let callerSignature ← createInputData signature (Buffer.fromHex pubkeyHex)
      return (⟨inputSignatures, some callerSignature⟩, addressKeys)
    else return (⟨inputSignatures, some signature⟩, addressKeys)

end HsmSession

def hsmStartSession : Async Unit := await hsmConnect

/-- The method that `hsmSignTxMethodBuilder` returns. -/
def hsmSignTx (hsmKeyName : String) (tx : Transaction) (w : WalletRef) : Async SignatureData := do
  await hsmStartSession
  let (signatureData, _) ← await (HsmSession.signTx hsmKeyName .empty tx w)
  await hsmDisconnect
  return signatureData

end WalletHeadless
