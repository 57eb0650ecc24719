import WalletHeadless.Coop.Program
import WalletHeadless.Locks.Lock
import WalletHeadless.Types

/-!
# What handlers ask of the rest of the process

A handler is an `Async` program over the calls below. A call that waits stands for an `await`: other
handlers run before it is answered. Calls of `wallet-lib`, of the HSM library and of Fireblocks that
change nothing the handlers share are a `LibCall`.

* `LockCall`, `RegistryCall`, `ProposalsCall`: the singletons of the process, answered at once;
* `SettingsCall`: the configuration and the settings of `wallet-lib`;
* `WalletCall`, `HsmCall`: the calls that pick, mark and spend utxos, start and stop wallets, open and
  close the HSM connection;
* `Op`, `Op.Ans`, `Async`.
-/

namespace WalletHeadless

open Coop Js

/-! ## Calls without a shared effect -/

inductive LibCall
  | isAddressMine (wallet : WalletRef) (address : String)
  | getUtxos (wallet : WalletRef) (query : Query)
  | enableDebugMode (wallet : WalletRef)
  | disableDebugMode (wallet : WalletRef)
  | setGapLimit (wallet : WalletRef) (gapLimit : Nat)
  | setHistorySyncMode (wallet : WalletRef) (mode : HistorySyncMode)
  | getMultisigData (wallet : WalletRef)
  | assemblePartialTransaction (wallet : WalletRef) (txHex : String) (signatures : List String)
  | prepareToSend (tx : Transaction)
  | fromPartialTx (wallet : WalletRef) (partialTx : String)
  | getProposalTx (proposal : String)
  | getDataToSign (tx : Transaction)
  | newPartialTxInputData (hash : String) (inputsLen : Nat)
  /-- The answer is the object with the signatures added. -/
  | addSignatures (inputData sig : String)
  | isComplete (proposal inputData : String)
  | prepareProposalTx (proposal inputData : String)
  | deserializePartialTx (wallet : WalletRef) (partialTx : String)
  | createTransactionFromData (data : Transaction)
  | createTxFromHex (wallet : WalletRef) (txHex : String)
  | toHex (tx : Transaction)
  | getConfigurationString (hash name symbol : String)
  | signTransaction (wallet : WalletRef) (tx : Transaction)
  | wordsValid (seed : Seed)
  | getPublicKeyFromXpub (xpub : String)
  | getSpentTx (wallet : WalletRef) (input : Input)
  | getAddressInfo (wallet : WalletRef) (address : String)
  | getAddressPubkey (wallet : WalletRef) (index : Nat)
  | getNanoContractCaller (tx : Transaction)
  | getAddressFromPubkey (pubkey : String)
  | createInputData (signature pubkey : Buffer)
  | getKeyInfo (keyName : String)
  | createBip32ChildKeyDerivation (version : DerivationVersion) (index : Nat) (exportable temporary : Bool)
      (parentKeyName childKeyName : String)
  | getPubKey (keyName : String)
  | sign (dataToSignHash : Buffer) (keyName : String)
  | readApiSecretFile (path : String)
  | postRawTransaction (dataToSignHash : Buffer) (indices : List Nat)
  | getTxStatusByExternalId (txId : String)
  | getAddressPubkeyInfo (index : Nat)
  | seedValid (seed : String)
  | removeAllListeners (wallet : WalletRef)
  | newPartialTxProposal (wallet : WalletRef)
  | getTx (wallet : WalletRef) (txId : String)
  | canUseUtxo (wallet : WalletRef) (utxo : Utxo)
  | getAddressIndex (wallet : WalletRef) (address : Option String)
  | getAddressPathForIndex (wallet : WalletRef) (index : Nat)
  | addReceive (proposal token : String) (value : Nat) (timelock : Option Nat) (address : Option String)
  | serialize (proposal : String)
  | partialTxComplete (proposal : String)
  | swapCreate (partialTx password : String)
  | swapGet (proposalId password : String)
  | swapUpdate (params : SwapUpdate)
  /-- What is never answered. -/
  | forever
deriving DecidableEq

namespace LibCall

@[reducible] def Result : LibCall → Type
  | isAddressMine .. => Bool
  | getUtxos .. => UtxosDetails
  | getMultisigData _ => MultisigData
  | assemblePartialTransaction .. => Transaction
  | fromPartialTx .. => String
  | getProposalTx _ => Transaction
  | getDataToSign _ => Buffer
  | newPartialTxInputData .. => String
  | addSignatures .. => String
  | isComplete .. => Bool
  | prepareProposalTx .. => Transaction
  | deserializePartialTx .. => Transaction
  | createTransactionFromData _ => Transaction
  | createTxFromHex .. => Transaction
  | toHex _ => String
  | getConfigurationString .. => String
  | wordsValid _ => String
  | getPublicKeyFromXpub _ => String
  | getSpentTx .. => Option SpentTx
  | getAddressInfo .. => Option Nat
  | getAddressPubkey .. => String
  | getNanoContractCaller _ => String
  | getAddressFromPubkey _ => String
  | createInputData .. => Buffer
  | getKeyInfo _ => KeyInfo
  | getPubKey _ => String
  | sign .. => Buffer
  | readApiSecretFile _ => Option String
  | getTxStatusByExternalId _ => FbTxInfo
  | getAddressPubkeyInfo _ => String
  | seedValid _ => Bool
  | newPartialTxProposal _ => String
  | getTx .. => Option (List TxOut)
  | canUseUtxo .. => Bool
  | getAddressIndex .. => Option Nat
  | getAddressPathForIndex .. => String
  | serialize _ => String
  | partialTxComplete _ => Bool
  | swapCreate .. => SwapCreated
  | swapGet .. => Option SwapProposal
  | swapUpdate _ => Bool
  | _ => Unit

/-- Whether the call returns a promise. -/
def waits : LibCall → Bool
  | enableDebugMode _ | disableDebugMode _ | setHistorySyncMode .. | prepareToSend _ | fromPartialTx ..
  | getProposalTx _ | getDataToSign _ | newPartialTxInputData .. | addSignatures .. | isComplete ..
  | prepareProposalTx .. | deserializePartialTx .. | createTransactionFromData _ | createTxFromHex ..
  | toHex _ | getConfigurationString .. | wordsValid _
  | getPublicKeyFromXpub _ | getNanoContractCaller _ | getAddressFromPubkey _ | createInputData ..
  | readApiSecretFile _ | seedValid _ | removeAllListeners _ | newPartialTxProposal _ | serialize _
  | partialTxComplete _ => false
  | _ => true

end LibCall

/-! ## Calls on shared state -/

/-- The calls on locks. -/
inductive LockCall
  | getWalletLock (walletId : String)
  | lockSendTx (walletId : String)
  | unlock (u : UnlockFn)
  | lockOn (walletLock : LockRef) (type : LockType)
  | unlockOn (walletLock : LockRef) (type : LockType)
  | delete (walletId : String)
deriving DecidableEq

@[reducible] def LockCall.Result : LockCall → Type
  | getWalletLock _ => LockRef
  | lockSendTx _ => Option UnlockFn
  | lockOn .. => Bool
  | _ => Unit

/-- The calls on the maps of `wallets.service`, on wallet objects and on the configuration. -/
inductive RegistryCall
  | getConfig
  | getWallet (walletId : String)
  | setWallet (walletId : String) (wallet : WalletRef)
  | deleteWallet (walletId : String)
  | hasHsmWallet (walletId : String)
  | setHsmWallet (walletId hsmKeyName : String)
  | deleteHsmWallet (walletId : String)
  | newWallet (walletId : String) (walletConfig : WalletConfig) (config : Config)
  | setExternalTxSigningMethod (wallet : WalletRef) (method : SigningMethod)
  | getTxSignatureMethod (wallet : WalletRef)
  | setLogger (walletId : String)
  | deleteLogger (walletId : String)
  /-- The step of an iterator over the wallets that has come to the place `index`. -/
  | nextWallet (index : Nat)
  | walletIds
deriving DecidableEq

@[reducible] def RegistryCall.Result : RegistryCall → Type
  | getConfig => Except JsError Config
  | getWallet _ => Option WalletRef
  | hasHsmWallet _ => Bool
  | newWallet .. => Except JsError WalletRef
  | getTxSignatureMethod _ => Option SigningMethod
  | nextWallet _ => Option (WalletRef × Nat)
  | walletIds => List String
  | _ => Unit

/-- The calls on `_config`, the `import` of the configuration file, and the setters of `wallet-lib`. -/
inductive SettingsCall
  | started
  | setStarted
  | config
  | setConfig (config : Option Config)
  | importConfig
  | setLib (cell : LibCell) (value : String)
deriving DecidableEq

@[reducible] def SettingsCall.Result : SettingsCall → Type
  | started => Bool
  | setStarted => Unit
  | config => Option Config
  | setConfig _ => Unit
  | importConfig => Except JsError Config
  | setLib .. => Except JsError Unit

/-- A proposal of the map of a wallet, and the flow that has put it there. -/
structure ListenedProposal where
  id : String
  password : String
  addedBy : Nat
deriving DecidableEq

/-- A map of the proposals of a wallet. -/
abbrev ProposalsRef := Nat

/-- The calls on `walletListenedProposals` and on the maps in it, and the toggle of the swap service. -/
inductive ProposalsCall
  | featureToggle
  | getProposals (walletId : String)
  | getProposal (proposals : ProposalsRef) (proposalId : String)
  | proposalIds (proposals : ProposalsRef)
  | addProposal (walletId proposalId password : String)
  | removeProposal (walletId proposalId : String)
  | deleteProposals (walletId : String)
deriving DecidableEq

@[reducible] def ProposalsCall.Result : ProposalsCall → Type
  | featureToggle => Bool
  | getProposals _ => Option ProposalsRef
  | getProposal .. => Option ListenedProposal
  | proposalIds _ => List String
  | _ => Unit

/-- The calls that pick, mark and spend utxos, and that start and stop a wallet. -/
inductive WalletCall
  | build (wallet : WalletRef) (b : Build)
  | prepareTx (wallet : WalletRef) (sendTx : SendTransaction)
  | updateOutputSelected (wallet : WalletRef) (tx : Transaction)
  | markUtxoSelected (wallet : WalletRef) (utxo : Utxo) (mark : Bool) (ttl : Option Nat)
  /-- The answer is the utxos that the proposal has got. -/
  | addSend (wallet : WalletRef) (proposal token : String) (value : Nat) (utxos : List OfferedUtxo)
      (changeAddress : Option String) (markAsSelected : Bool)
  | runFromMining (wallet : WalletRef) (tx : Transaction)
  | start (wallet : WalletRef)
  | stop (wallet : WalletRef)
deriving DecidableEq

@[reducible] def WalletCall.Result : WalletCall → Type
  | build .. => SendTransaction
  | prepareTx .. => Transaction
  | runFromMining .. => Transaction
  | addSend .. => List Utxo
  | _ => Unit

/-- The HSM connection is a singleton of the library. -/
inductive HsmCall
  | connect (host username password : String)
  | disconnect
deriving DecidableEq

inductive Op
  | lock (c : LockCall)
  | registry (c : RegistryCall)
  | settings (c : SettingsCall)
  | proposals (c : ProposalsCall)
  | wallet (c : WalletCall)
  | hsm (c : HsmCall)
  | lib (c : LibCall)
  | sleep (ms : Nat)
  | tick
  | send (reply : Reply)
deriving DecidableEq

@[reducible] def Op.Ans : Op → Type
  | lock c => c.Result
  | registry c => c.Result
  | settings c => c.Result
  | proposals c => c.Result
  | wallet c => Except JsError c.Result
  | hsm _ => Except JsError Unit
  | lib c => Except JsError c.Result
  | _ => Unit

abbrev Async (α : Type) := Prog Op.Ans JsError α

/-! ## Answers -/

/-- The answer of a library that grants every call; `tx` is the transaction it builds. -/
def LibCall.granted (tx : Transaction) : (c : LibCall) → c.Result
  | isAddressMine .. | isComplete .. | seedValid _ | canUseUtxo .. | partialTxComplete _
  | swapUpdate _ => true
  | getUtxos .. => ⟨0, []⟩
  | getMultisigData _ => ⟨0, []⟩
  | assemblePartialTransaction .. | getProposalTx _ | prepareProposalTx .. | deserializePartialTx ..
  | createTxFromHex .. => tx
  | createTransactionFromData data => data
  | getSpentTx .. | getAddressInfo .. | readApiSecretFile _ | getTx .. | getAddressIndex .. => none
  | swapCreate partialTx _ => ⟨true, partialTx⟩
  | swapGet proposalId _ => some { proposalId := proposalId, partialTx := "" }
  | createInputData signature pubkey => signature ++ pubkey
  | getDataToSign _ => []
  | newPartialTxInputData hash _ => hash
  | addSignatures inputData _ => inputData
  | getKeyInfo _ => ⟨.BIP32_XPRV, 0⟩
  | sign dataToSignHash _ => dataToSignHash
  | getTxStatusByExternalId txId => ⟨txId, "COMPLETED", some []⟩
  | fromPartialTx .. | toHex _ | getConfigurationString .. | wordsValid _ | getPublicKeyFromXpub _
  | getAddressPubkey .. | getNanoContractCaller _ | getAddressFromPubkey _ | getPubKey _
  | getAddressPubkeyInfo _ | newPartialTxProposal _ | getAddressPathForIndex .. | serialize _ => ""
  | enableDebugMode _ | disableDebugMode _ | setGapLimit .. | setHistorySyncMode .. | prepareToSend _
  | signTransaction .. | createBip32ChildKeyDerivation .. | postRawTransaction ..
  | removeAllListeners _ | addReceive .. | forever => ()

/-- The answers when every call succeeds; what the process answers by itself is not proposed. -/
def Op.granted (tx : Transaction) : (c : Op) → c.Ans
  | lib c => .ok (c.granted tx)
  | wallet (.build _ b) => .ok ⟨b.inputs, none⟩
  | wallet (.prepareTx _ _) | wallet (.runFromMining _ _) => .ok tx
  | wallet (.addSend ..) => .ok []
  | wallet (.updateOutputSelected _ _) | wallet (.markUtxoSelected ..) | wallet (.start _)
  | wallet (.stop _) => .ok ()
  | hsm _ => .ok ()
  | lock (.getWalletLock _) => .globalLock
  | lock (.lockSendTx _) => none
  | lock (.lockOn _ _) => false
  | lock (.unlock _) | lock (.unlockOn _ _) | lock (.delete _) => ()
  | registry .getConfig => .error { message := "" }
  | registry (.newWallet ..) => .ok 0
  | registry (.getWallet _) | registry (.getTxSignatureMethod _) | registry (.nextWallet _) => none
  | registry (.hasHsmWallet _) => false
  | registry .walletIds => []
  | registry (.setWallet _ _) | registry (.deleteWallet _) | registry (.setHsmWallet _ _)
  | registry (.deleteHsmWallet _) | registry (.setExternalTxSigningMethod _ _) | registry (.setLogger _)
  | registry (.deleteLogger _) => ()
  | settings .started => false
  | settings .config => none
  | settings .importConfig => .ok { network := "mainnet" }
  | settings .setStarted | settings (.setConfig _) => ()
  | settings (.setLib ..) => .ok ()
  | proposals .featureToggle => false
  | proposals (.getProposals _) | proposals (.getProposal ..) => none
  | proposals (.proposalIds _) => []
  | proposals (.addProposal ..) | proposals (.removeProposal ..) | proposals (.deleteProposals _) => ()
  | sleep _ | tick | send _ => ()

/-- The answers when the calls that can throw do. -/
def Op.failed : (c : Op) → c.Ans
  | lib _ | wallet _ | hsm _ | settings .importConfig | settings (.setLib ..) | registry (.newWallet ..) =>
    .error { message := "" }
  | c => c.granted { hash := "", inputs := [] }

/-! ## The calls by name -/

def ask (c : Op) : Async c.Ans := Prog.ask c

/-- The turn that `await` yields at the end of an async function. -/
def tick : Async Unit := ask .tick

/-- `await p` for a function `p` of this program: its caller goes on in a later turn. -/
def await {α : Type} (p : Async α) : Async α := do
  let a ← tryCatch p fun e => do
    tick
    throw e
  tick
  return a

def lib (c : LibCall) : Async c.Result := Prog.attempt (ask (.lib c))

theorem eval_await {α : Type} (answers : (c : Op) → c.Ans) (p : Async α) :
    (await p).eval answers = p.eval answers := by
  show Prog.eval answers (Prog.bind (Prog.catches p _) _) = _
  rw [Prog.eval_bind, Prog.eval_catches]
  cases p.eval answers <;> rfl

theorem eval_lib (answers : (c : Op) → c.Ans) (c : LibCall) : (lib c).eval answers = answers (.lib c) :=
  Prog.eval_attempt_ask answers _ _ rfl

def isAddressMine (w : WalletRef) (address : String) : Async Bool := lib (.isAddressMine w address)
def getUtxos (w : WalletRef) (query : Query) : Async UtxosDetails := lib (.getUtxos w query)
def enableDebugMode (w : WalletRef) : Async Unit := lib (.enableDebugMode w)
def disableDebugMode (w : WalletRef) : Async Unit := lib (.disableDebugMode w)
def setGapLimit (w : WalletRef) (gapLimit : Nat) : Async Unit := lib (.setGapLimit w gapLimit)
def setHistorySyncMode (w : WalletRef) (mode : HistorySyncMode) : Async Unit :=
  lib (.setHistorySyncMode w mode)
def getMultisigData (w : WalletRef) : Async MultisigData := lib (.getMultisigData w)
def prepareToSend (tx : Transaction) : Async Unit := lib (.prepareToSend tx)
def fromPartialTx (w : WalletRef) (partialTx : String) : Async String := lib (.fromPartialTx w partialTx)
def getProposalTx (proposal : String) : Async Transaction := lib (.getProposalTx proposal)
def getDataToSign (tx : Transaction) : Async Buffer := lib (.getDataToSign tx)
def newPartialTxInputData (hash : String) (inputsLen : Nat) : Async String :=
  lib (.newPartialTxInputData hash inputsLen)
def addSignatures (inputData sig : String) : Async String := lib (.addSignatures inputData sig)
def isComplete (proposal inputData : String) : Async Bool := lib (.isComplete proposal inputData)
def prepareProposalTx (proposal inputData : String) : Async Transaction :=
  lib (.prepareProposalTx proposal inputData)
def deserializePartialTx (w : WalletRef) (partialTx : String) : Async Transaction :=
  lib (.deserializePartialTx w partialTx)
def createTransactionFromData (data : Transaction) : Async Transaction := lib (.createTransactionFromData data)
def createTxFromHex (w : WalletRef) (txHex : String) : Async Transaction := lib (.createTxFromHex w txHex)
def toHex (tx : Transaction) : Async String := lib (.toHex tx)
def getConfigurationString (hash name symbol : String) : Async String :=
  lib (.getConfigurationString hash name symbol)
def signTransaction (w : WalletRef) (tx : Transaction) : Async Unit := lib (.signTransaction w tx)
def wordsValid (seed : Seed) : Async String := lib (.wordsValid seed)
def getPublicKeyFromXpub (xpub : String) : Async String := lib (.getPublicKeyFromXpub xpub)
def getSpentTx (w : WalletRef) (input : Input) : Async (Option SpentTx) := lib (.getSpentTx w input)
def getAddressInfo (w : WalletRef) (address : String) : Async (Option Nat) := lib (.getAddressInfo w address)
def getAddressPubkey (w : WalletRef) (index : Nat) : Async String := lib (.getAddressPubkey w index)
def getNanoContractCaller (tx : Transaction) : Async String := lib (.getNanoContractCaller tx)
def getAddressFromPubkey (pubkey : String) : Async String := lib (.getAddressFromPubkey pubkey)
def createInputData (signature pubkey : Buffer) : Async Buffer := lib (.createInputData signature pubkey)
def getKeyInfo (keyName : String) : Async KeyInfo := lib (.getKeyInfo keyName)
def createBip32ChildKeyDerivation (version : DerivationVersion) (index : Nat)
    (exportable temporary : Bool) (parentKeyName childKeyName : String) : Async Unit :=
  lib (.createBip32ChildKeyDerivation version index exportable temporary parentKeyName childKeyName)
def getPubKey (keyName : String) : Async String := lib (.getPubKey keyName)
def sign (dataToSignHash : Buffer) (keyName : String) : Async Buffer := lib (.sign dataToSignHash keyName)
def readApiSecretFile (path : String) : Async (Option String) := lib (.readApiSecretFile path)
def postRawTransaction (dataToSignHash : Buffer) (indices : List Nat) : Async Unit :=
  lib (.postRawTransaction dataToSignHash indices)
def getTxStatusByExternalId (txId : String) : Async FbTxInfo := lib (.getTxStatusByExternalId txId)
def getAddressPubkeyInfo (index : Nat) : Async String := lib (.getAddressPubkeyInfo index)

def seedValid (seed : String) : Async Bool := lib (.seedValid seed)
def removeAllListeners (w : WalletRef) : Async Unit := lib (.removeAllListeners w)
def newPartialTxProposal (w : WalletRef) : Async String := lib (.newPartialTxProposal w)
def getTx (w : WalletRef) (txId : String) : Async (Option (List TxOut)) := lib (.getTx w txId)
def canUseUtxo (w : WalletRef) (utxo : Utxo) : Async Bool := lib (.canUseUtxo w utxo)
def getAddressIndex (w : WalletRef) (address : Option String) : Async (Option Nat) :=
  lib (.getAddressIndex w address)
def getAddressPathForIndex (w : WalletRef) (index : Nat) : Async String := lib (.getAddressPathForIndex w index)
def addReceive (proposal token : String) (value : Nat) (timelock : Option Nat) (address : Option String) :
    Async Unit := lib (.addReceive proposal token value timelock address)
def serialize (proposal : String) : Async String := lib (.serialize proposal)
def partialTxComplete (proposal : String) : Async Bool := lib (.partialTxComplete proposal)
def swapCreate (partialTx password : String) : Async SwapCreated := lib (.swapCreate partialTx password)
def swapGet (proposalId password : String) : Async (Option SwapProposal) := lib (.swapGet proposalId password)
def swapUpdate (params : SwapUpdate) : Async Bool := lib (.swapUpdate params)

def forever {α : Type} : Async α := do
  lib .forever
  throw { message := "" }

def getWalletLock (walletId : String) : Async LockRef := ask (.lock (.getWalletLock walletId))
def lockSendTx (walletId : String) : Async (Option UnlockFn) := ask (.lock (.lockSendTx walletId))
def unlock (u : UnlockFn) : Async Unit := ask (.lock (.unlock u))
def lockOn (l : LockRef) (type : LockType) : Async Bool := ask (.lock (.lockOn l type))
def unlockOn (l : LockRef) (type : LockType) : Async Unit := ask (.lock (.unlockOn l type))
def lockDelete (walletId : String) : Async Unit := ask (.lock (.delete walletId))

def getConfig : Async Config := Prog.attempt (ask (.registry .getConfig))
def getWallet (walletId : String) : Async (Option WalletRef) := ask (.registry (.getWallet walletId))
def setWallet (walletId : String) (w : WalletRef) : Async Unit :=
  ask (.registry (.setWallet walletId w))
def deleteWallet (walletId : String) : Async Unit := ask (.registry (.deleteWallet walletId))
def hasHsmWallet (walletId : String) : Async Bool := ask (.registry (.hasHsmWallet walletId))
def setHsmWallet (walletId hsmKeyName : String) : Async Unit :=
  ask (.registry (.setHsmWallet walletId hsmKeyName))
def deleteHsmWallet (walletId : String) : Async Unit := ask (.registry (.deleteHsmWallet walletId))
def newWallet (walletId : String) (walletConfig : WalletConfig) (config : Config) : Async WalletRef :=
  Prog.attempt (ask (.registry (.newWallet walletId walletConfig config)))
def setExternalTxSigningMethod (w : WalletRef) (method : SigningMethod) : Async Unit :=
  ask (.registry (.setExternalTxSigningMethod w method))
def getTxSignatureMethod (w : WalletRef) : Async (Option SigningMethod) :=
  ask (.registry (.getTxSignatureMethod w))

def setLogger (walletId : String) : Async Unit := ask (.registry (.setLogger walletId))
def deleteLogger (walletId : String) : Async Unit := ask (.registry (.deleteLogger walletId))
def nextWallet (index : Nat) : Async (Option (WalletRef × Nat)) := ask (.registry (.nextWallet index))
def walletIds : Async (List String) := ask (.registry .walletIds)

def started : Async Bool := ask (.settings .started)
def setStarted : Async Unit := ask (.settings .setStarted)
def currentConfig : Async (Option Config) := ask (.settings .config)
def setConfig (config : Option Config) : Async Unit := ask (.settings (.setConfig config))
def importConfig : Async Config := Prog.attempt (ask (.settings .importConfig))
def setLib (cell : LibCell) (value : String) : Async Unit := Prog.attempt (ask (.settings (.setLib cell value)))

def featureToggle : Async Bool := ask (.proposals .featureToggle)
def getProposals (walletId : String) : Async (Option ProposalsRef) := ask (.proposals (.getProposals walletId))
def getProposal (m : ProposalsRef) (proposalId : String) : Async (Option ListenedProposal) :=
  ask (.proposals (.getProposal m proposalId))
def proposalIds (m : ProposalsRef) : Async (List String) := ask (.proposals (.proposalIds m))
def addProposal (walletId proposalId password : String) : Async Unit :=
  ask (.proposals (.addProposal walletId proposalId password))
def removeProposal (walletId proposalId : String) : Async Unit :=
  ask (.proposals (.removeProposal walletId proposalId))
def deleteProposals (walletId : String) : Async Unit := ask (.proposals (.deleteProposals walletId))

def buildWith (w : WalletRef) (b : Build) : Async SendTransaction :=
  Prog.attempt (ask (.wallet (.build w b)))
def prepareInputs (w : WalletRef) (sendTx : SendTransaction) : Async Transaction :=
  Prog.attempt (ask (.wallet (.prepareTx w sendTx)))
def updateOutputSelected (w : WalletRef) (tx : Transaction) : Async Unit :=
  Prog.attempt (ask (.wallet (.updateOutputSelected w tx)))
def markUtxoSelected (w : WalletRef) (utxo : Utxo) (mark : Bool) (ttl : Option Nat) : Async Unit :=
  Prog.attempt (ask (.wallet (.markUtxoSelected w utxo mark ttl)))
def addSend (w : WalletRef) (proposal token : String) (value : Nat) (utxos : List OfferedUtxo)
    (changeAddress : Option String) (markAsSelected : Bool) : Async Unit := do
  let _ ← Prog.attempt (ask (.wallet (.addSend w proposal token value utxos changeAddress markAsSelected)))
  return
def runFromMining (w : WalletRef) (tx : Transaction) : Async Transaction :=
  Prog.attempt (ask (.wallet (.runFromMining w tx)))
def walletStart (w : WalletRef) : Async Unit := Prog.attempt (ask (.wallet (.start w)))
def walletStop (w : WalletRef) : Async Unit := Prog.attempt (ask (.wallet (.stop w)))

def connect (host username password : String) : Async Unit :=
  Prog.attempt (ask (.hsm (.connect host username password)))
def disconnect : Async Unit := Prog.attempt (ask (.hsm .disconnect))

def sleep (ms : Nat) : Async Unit := ask (.sleep ms)
def send (body : ReplyBody) : Async Unit := ask (.send ⟨200, body⟩)
def sendStatus (status : Nat) (body : ReplyBody) : Async Unit := ask (.send ⟨status, body⟩)

end WalletHeadless
