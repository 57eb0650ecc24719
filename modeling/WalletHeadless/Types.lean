import Mathlib.Data.List.Sort
import WalletHeadless.Js.Buffer
import WalletHeadless.Js.Map

/-!
# The data of the service

Errors, transactions, the objects of `wallet-lib` as the controllers see them, the configuration and
the replies. Amounts are natural numbers of the smallest unit, an absent or `undefined` field is
`none`, and an object whose fields no handler reads is a `String`.
-/

namespace WalletHeadless

open Js

/-- The classes of errors that the handlers tell apart. -/
inductive ErrorKind
  | Error
  | TypeError
  | HsmError
  | WalletStartError
  | UnavailableConfigError
  | NonRecoverableConfigChangeError
  | SwapServiceError
  | InvalidWords
deriving DecidableEq

/-- A thrown error: `errorCode` is set by the HSM library, `responseCode` is `response.data.code` and
`responseStatus` is `response.status`, where there is a response. -/
structure JsError where
  kind : ErrorKind := .Error
  message : String
  errorCode : Option Nat := none
  responseCode : Option Nat := none
  isAxiosError : Bool := false
  responseStatus : Option Nat := none
deriving DecidableEq

/-- A `HathorWallet` object. -/
abbrev WalletRef := Nat

structure Utxo where
  txId : String
  index : Nat
deriving DecidableEq

structure Input where
  hash : String
  index : Nat
  data : Option Buffer := none
  tx_id : Option String := none
deriving DecidableEq

structure Output where
  value : Nat
  tokenData : Nat
  token_data : Option Nat := none
deriving DecidableEq

/-- A transaction with what `getDataToSignHash()` and `isNanoContract()` compute of it; `signatures` is the property
that `signTx` reads. -/
structure Transaction where
  hash : String
  version : Nat := 1
  inputs : List Input
  outputs : List Output := []
  name : String := ""
  symbol : String := ""
  dataToSignHash : Buffer := []
  isNanoContract : Bool := false
  pubkey : Buffer := []
  signatures : Option String := none
deriving DecidableEq

/-- The outputs that a transaction spends. -/
def Transaction.utxos (tx : Transaction) : List Utxo := tx.inputs.map fun i => ⟨i.hash, i.index⟩

/-- A `SendTransaction` object: the inputs it was given and the transaction it has prepared. -/
structure SendTransaction where
  inputs : List Utxo := []
  transaction : Option Transaction := none
deriving DecidableEq

/-! ## Arguments of `wallet-lib` -/

/-- The options of a search for utxos. -/
abbrev Query := List (String × String)

structure UtxoDetail where
  tx_id : String
  index : Nat
  amount : Nat
deriving DecidableEq

/-- The answer of `wallet.getUtxos`. -/
structure UtxosDetails where
  total_amount_available : Nat
  utxos : List UtxoDetail
deriving DecidableEq

/-- An output as a request gives it. -/
structure OutputParam where
  address : Option String := none
  value : Option Nat := none
  token : Option String := none
  type : Option String := none
  data : Option String := none
  timelock : Option Nat := none
deriving DecidableEq

structure CreateTokenOptions where
  address : Option String := none
  changeAddress : Option String := none
  createMint : Option Bool := none
  mintAuthorityAddress : Option String := none
  allowExternalMintAuthorityAddress : Option Bool := none
  createMelt : Option Bool := none
  meltAuthorityAddress : Option String := none
  allowExternalMeltAuthorityAddress : Option Bool := none
  data : Option (List String) := none
  tokenVersion : Option Nat := none
deriving DecidableEq

/-- The options of a mint or a melt. -/
structure AuthorityOptions where
  address : Option String := none
  changeAddress : Option String := none
  createAnother : Option Bool := none
  authorityAddress : Option String := none
  allowExternalAuthorityAddress : Option Bool := none
  unshiftData : Option Bool := none
  data : Option (List String) := none
deriving DecidableEq

structure NanoData where
  blueprintId : Option String := none
  ncId : Option String := none
  actions : List String := []
  args : List String := []
deriving DecidableEq

structure NanoOptions where
  maxFee : Option Nat := none
  contractPaysFees : Option Bool := none
deriving DecidableEq

/-- A transaction template: the utxos its raw inputs name, and its other instructions. -/
structure TxTemplate where
  rawInputs : List Utxo := []
  instructions : List String := []
deriving DecidableEq

/-- The calls of `wallet-lib` that build a transaction or a `SendTransaction`. -/
inductive Build
  | sendTransactionInstance (address : String) (value : Nat) (token : String)
      (changeAddress : Option String)
  | sendManyOutputsSendTransaction (outputs : List OutputParam) (inputs : List Utxo)
      (changeAddress : Option String)
  | createNewTokenSendTransaction (name symbol : String) (amount : Nat) (options : CreateTokenOptions)
  | mintTokensSendTransaction (token : String) (amount : Nat) (options : AuthorityOptions)
  | meltTokensSendTransaction (token : String) (amount : Nat) (options : AuthorityOptions)
  | consolidateUtxosSendTransaction (destinationAddress : String) (options : Query)
  | createNFTSendTransaction (name symbol : String) (amount : Nat) (data : String)
      (options : CreateTokenOptions)
  | createNanoContractTransaction (method : String) (address : String) (data : NanoData)
      (options : NanoOptions)
  | createNanoContractCreateTokenTransaction (method : String) (address : String) (data : NanoData)
      (createTokenOptions : String) (options : NanoOptions)
  | createOnChainBlueprintTransaction (code address : String)
  | buildTxTemplate (template : TxTemplate) (signTx : Bool)
  | prepareTxData (outputs : List OutputParam) (inputs : List Utxo) (changeAddress : Option String)
  | prepareCreateNewToken (name symbol : String) (amount : Nat) (options : CreateTokenOptions)
  | prepareMintTokensData (token : String) (amount : Nat) (options : AuthorityOptions)
  | prepareMeltTokensData (token : String) (amount : Nat) (options : AuthorityOptions)
deriving DecidableEq

namespace Build

/-- The inputs that the caller has chosen. -/
def inputs : Build → List Utxo
  | sendManyOutputsSendTransaction _ inputs _ => inputs
  | prepareTxData _ inputs _ => inputs
  | buildTxTemplate template _ => template.rawInputs
  | _ => []

/-- Whether the transaction built is signed: the calls of a proposal pass `signTx: false`. -/
def signs : Build → Bool
  | buildTxTemplate _ signTx => signTx
  | prepareTxData .. | prepareCreateNewToken .. | prepareMintTokensData .. | prepareMeltTokensData .. => false
  | _ => true

end Build

/-- The modes, and what the object of the modes inherits under another name. -/
inductive HistorySyncMode | POLLING_HTTP_API | XPUB_STREAM_WS | MANUAL_STREAM_WS | inherited (name : String)
deriving DecidableEq

structure MultisigData where
  numSignatures : Nat
  pubkeys : List String
deriving DecidableEq

inductive ScanPolicy
  | indexLimit (startIndex endIndex : Int)
  | gapLimit (gapLimit : Int)
deriving DecidableEq

structure WalletConfig where
  xpub : Option String := none
  seed : Option String := none
  passphrase : Option String := none
  password : String
  pinCode : String
  multisig : Option MultisigData := none
  scanPolicy : Option ScanPolicy := none
  preCalculatedAddresses : List String := []
  connection : Bool := false
  tokenUid : Option String := none
deriving DecidableEq

/-- A property of an object that is not checked when it is read: it may be absent, or `null`. -/
inductive Nullable (α : Type)
  | undefined
  | null
  | value (a : α)
deriving DecidableEq

namespace Nullable

variable {α β : Type}

def get? : Nullable α → Option α
  | value a => some a
  | _ => none

def map (f : α → β) : Nullable α → Nullable β
  | undefined => undefined
  | null => null
  | value a => value (f a)

instance : Coe (Nullable α) (Option α) := ⟨get?⟩

instance : Coe α (Nullable α) := ⟨value⟩

end Nullable

/-- An entry of `multisig`: the configuration is not checked when it is read, so the fields may be missing. -/
structure MultiSigConfig where
  total : Nullable Nat := .undefined
  numSignatures : Nullable Nat := .undefined
  pubkeys : Option (List String) := none
deriving DecidableEq

/-- The configuration; `object` tells apart the objects that `import` has returned. -/
structure Config where
  object : Nat := 0
  network : String
  server : String := ""
  http_port : Nullable Nat := .undefined
  http_bind_address : Nullable String := .undefined
  http_api_key : Nullable String := .undefined
  consoleLevel : Nullable String := .undefined
  httpLogFormat : Nullable String := .undefined
  enabled_plugins : Nullable (List String) := .undefined
  connectionTimeout : Nullable Nat := .undefined
  txMiningUrl : Nullable String := .undefined
  txMiningApiKey : Nullable String := .undefined
  atomicSwapService : Nullable String := .undefined
  seeds : Option (Map String String) := none
  multisig : Option (Map String MultiSigConfig) := none
  tokenUid : Nullable String := .undefined
  gapLimit : Nullable Nat := .undefined
  allowPassphrase : Bool := false
  confirmFirstAddress : Bool := false
  history_sync_mode : Option String := none
  hsmHost : Nullable String := .undefined
  hsmUsername : Nullable String := .undefined
  hsmPassword : Nullable String := .undefined
  fireblocksUrl : Nullable String := .undefined
  fireblocksApiKey : Nullable String := .undefined
  fireblocksApiSecret : Nullable String := .undefined
  fireblocksApiSecretFile : Nullable String := .undefined
deriving DecidableEq

/-- What is taken for the words of a wallet: a string, or what the object of the seeds inherits under a name. -/
inductive Seed
  | words (words : String)
  | inherited (name : String)
deriving DecidableEq

/-- `config.multisig && config.multisig[key]`; what every object inherits has none of the fields of an entry. -/
def Config.multisigAt (config : Config) (key : String) : Option MultiSigConfig :=
  config.multisig.bind fun multisig => (multisig.get key).or (if key ∈ inherited then some {} else none)

/-- The settings of `wallet-lib` that are the same for all wallets, each written by its own setter. -/
inductive LibCell
  | txMiningUrl
  | txMiningApiKey
  | swapServiceBaseUrl
  | serverUrl
  | network
deriving DecidableEq

/-! ## Atomic swaps -/

/-- An output of a transaction in the history of the wallet. -/
structure TxOut where
  value : Nat
  address : Option String
  timelock : Option Nat := none
  token : String
  isMint : Bool := false
  isMelt : Bool := false
deriving DecidableEq

/-- A utxo that is offered in a proposal. -/
structure OfferedUtxo where
  txId : String
  index : Nat
  value : Nat
  address : Option String
  timelock : Option Nat
  tokenId : String
  authorities : Nat
  addressPath : String
deriving DecidableEq

structure TokenToSend where
  token : Option String := none
  value : Nat
deriving DecidableEq

structure TokenToReceive where
  token : Option String := none
  value : Nat
  timelock : Option Nat := none
  address : Option String := none
deriving DecidableEq

/-- The answer of `swapService.create`. -/
structure SwapCreated where
  success : Bool
  id : String
deriving DecidableEq

/-- The answer of `swapService.get`. -/
structure SwapProposal where
  proposalId : String
  partialTx : String
  version : Nat := 0
deriving DecidableEq

/-- The parameters of `swapService.update`. -/
structure SwapUpdate where
  proposalId : String
  password : String
  partialTx : String
  version : Option Nat := none
  signatures : Option String := none
deriving DecidableEq

/-! ## Signing -/

/-- The methods that `setExternalTxSigningMethod` registers. -/
inductive SigningMethod
  | hsm (hsmKeyName : String)
  | fireblocks
deriving DecidableEq

/-- A spent transaction: the decoded address of each output. -/
structure SpentTx where
  outputs : List (Option String)
deriving DecidableEq

structure InputSignature where
  inputIndex : Nat
  addressIndex : Nat
  signature : Buffer
  pubkey : Buffer
deriving DecidableEq

structure SignatureData where
  inputSignatures : List InputSignature
  ncCallerSignature : Option Buffer
deriving DecidableEq

/-- An object with the fields that a Fireblocks signature has. -/
structure FireblocksSignature where
  r : Option String
  s : Option String
deriving DecidableEq

structure SignedMessage where
  content : String
  derivationPath : List Nat
  signature : FireblocksSignature
  publicKey : String
deriving DecidableEq

/-- The answer of Fireblocks about a transaction. -/
structure FbTxInfo where
  id : String
  status : String
  signedMessages : Option (List SignedMessage)
deriving DecidableEq

/-- Whether a key is of the type `BLOCKCHAIN_KEYS.BIP32_XPRV`. -/
inductive KeyType | BIP32_XPRV | other
deriving DecidableEq

structure KeyInfo where
  type : KeyType
  ver : Nat
deriving DecidableEq

/-- `hsm.enums.VERSION_OPTIONS`, as far as it is used. -/
inductive DerivationVersion | BIP32_HTR_MAIN_NET | BIP32_HTR_TEST_NET
deriving DecidableEq

/-! ## Replies -/

inductive ReplyBody
  | ok
  | tx (tx : Transaction)
  | token (configurationString : String) (tx : Transaction)
  | consolidated (txId : String)
  | txHex (tx : Transaction) (hex : String)
  | error (error : String)
  | errorToken (error : String) (token : String)
  | message (message : String) (errorCode : Option String)
  | invalid (error : String)
  | swap (data : String) (isComplete : Bool) (createdProposalId : Option String)
  | swapProposal (proposal : SwapProposal)
  | swapTx (txHex : String)
  | swapProposals (proposals : List String)
deriving DecidableEq

/-- The body has `success: true`. -/
def ReplyBody.success : ReplyBody → Bool
  | error _ | errorToken _ _ | message _ _ | invalid _ => false
  | _ => true

/-- `res.status(status).send(body)`. -/
structure Reply where
  status : Nat := 200
  body : ReplyBody
deriving DecidableEq

/-- A value that is not falsy, as in `field || null`. -/
def truthy (s : Option String) : Option String := s.filter (· ≠ "")

end WalletHeadless
