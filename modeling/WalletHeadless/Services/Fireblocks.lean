import WalletHeadless.Services.Signing

/-!
# `fireblocks.service.js`

* `fireblocksSignatureToDER`;
* `sendRawTransaction`: submit a transaction to be signed and poll for its status, 600 times at most;
* `getTxSignatures`, `fireblocksSigner`: the signing method of a Fireblocks wallet.
-/

namespace WalletHeadless

open Coop Js

def TX_ALREADY_EXISTS_ERROR_CODE : Nat := 1438

/-- What `Buffer.from(undefined)` throws. -/
def undefinedBuffer : JsError :=
  { kind := .TypeError, message := "The first argument must be of type string or an instance of Buffer, ArrayBuffer, or Array or an Array-like Object. Received undefined" }

/-- `Buffer.from(string, 'hex')` of a value that may be `undefined`. -/
def bufferFromHex : Option String → Except JsError Buffer
  | some s => .ok (Buffer.fromHex s)
  | none => .error undefinedBuffer

/-- `!!(buffer[0] & 0x80)`. -/
def negative (b : Buffer) : Bool := b.head?.any fun x => x &&& 0x80 != 0

/-- A zero byte before an integer whose sign bit is set. -/
def padded (b : Buffer) : Buffer := if negative b then 0x00 :: b else b

def fireblocksSignatureToDER (sig : FireblocksSignature) : Except JsError Buffer := do
  let r ← bufferFromHex sig.r
  let s ← bufferFromHex sig.s
  let rbuf := padded r
  let sbuf := padded s
  let rlen := rbuf.length
  let slen := sbuf.length
  let length := 2 + rlen + 2 + slen
  return [0x30, UInt8.ofNat length, 0x02, UInt8.ofNat rlen] ++ rbuf ++ [0x02, UInt8.ofNat slen] ++ sbuf

/-- A `Buffer` read as a signature: it has neither `r` nor `s`. -/
def bufferFields (_ : Buffer) : FireblocksSignature := ⟨none, none⟩

/-- The loop of `sendRawTransaction`, with the number of polls that are left. -/
def pollTxStatus (txId : String) : Nat → Async FbTxInfo
  | 0 => throw { message := "Transaction signing timeout" }
  | n + 1 => do
    sleep 1000
    let txInfo ← getTxStatusByExternalId txId
    if txInfo.status = "COMPLETED" ∨ txInfo.status = "FAILED" then return txInfo
    else pollTxStatus txId n

def sendRawTransaction (dataToSignHash : Buffer) (indices : List Nat) : Async FbTxInfo := do
  tryCatch (postRawTransaction dataToSignHash indices) fun e =>
    -- the transaction was already submitted
    if e.responseCode = some TX_ALREADY_EXISTS_ERROR_CODE then pure () else throw e
  pollTxStatus (Buffer.toHex dataToSignHash) 600

/-- An input to be signed. -/
structure SigningIndex where
  inputIndex : Nat
  addressIndex : Nat
  pubkey : Buffer
deriving DecidableEq

/-- A signature in the table by address index. -/
structure SignedEntry where
  signature : Buffer
  content : String
  publicKey : String
deriving DecidableEq

/-- An index that is neither `null` nor `0`. -/
def truthyIndex (i : Option Nat) : Option Nat := i.filter (· ≠ 0)

section Errors
variable (id hash : String)

def noSignatures : JsError :=
  { message := s!"Fireblocks did not return signatures for the transaction({id}); external-id: ({hash})" }

def inconsistentSignatures : JsError :=
  { message := s!"Fireblocks returned inconsistent signatures in transaction({id}); external-id: ({hash})" }

def noSignatureFor (index : Nat) : JsError :=
  { message := s!"Fireblocks did not return signature for address index {index} in transaction({id}); external-id: ({hash})" }

def wrongPublicKey : JsError :=
  { message := s!"Fireblocks signature does not match locally generated public key in transaction({id}); external-id: ({hash})" }

end Errors

/-- One message of the response goes into the table, unless its address is there already. -/
def addSignedMessage (id hash : String) (table : Js.Map (Option Nat) SignedEntry) (item : SignedMessage) :
    Except JsError (Js.Map (Option Nat) SignedEntry) :=
  if item.content ≠ hash then .error (inconsistentSignatures id hash)
  else if table.has item.derivationPath[4]? then .ok table
  else do
    let der ← fireblocksSignatureToDER item.signature
    return table.set item.derivationPath[4]? ⟨der, item.content, item.publicKey⟩

def signedMessagesObj (id hash : String) (items : List SignedMessage) :
    Except JsError (Js.Map (Option Nat) SignedEntry) :=
  items.foldlM (addSignedMessage id hash) .empty

/-- The signature of one input, from the table. -/
def inputSignature (id hash : String) (table : Js.Map (Option Nat) SignedEntry) (data : SigningIndex) :
    Except JsError InputSignature :=
  match table.get (some data.addressIndex) with
  | none => .error (noSignatureFor id hash data.addressIndex)
  | some sig =>
    if sig.publicKey ≠ Buffer.toHex data.pubkey then .error (wrongPublicKey id hash)
    else .ok ⟨data.inputIndex, data.addressIndex, sig.signature, data.pubkey⟩

/-- The signature of the caller: an index of `0` is falsy. -/
def ncCallerSignature (w : WalletRef) (tx : Transaction) (id : String)
    (table : Js.Map (Option Nat) SignedEntry) (ncCallerIndex : Option Nat) : Async (Option Buffer) := do
  let hash := Buffer.toHex tx.dataToSignHash
  match truthyIndex ncCallerIndex with
  | none => return none
  | some index =>
    match table.get (some index) with
    | none => throw (noSignatureFor id hash index)
    | some sig => do
      let pubkeyHex ← getAddressPubkey w index
      if sig.publicKey ≠ pubkeyHex then throw (wrongPublicKey id hash)
      else if tx.isNanoContract then do
        let signature ← Prog.orThrow (fireblocksSignatureToDER (bufferFields sig.signature))
        some <$> createInputData signature (Buffer.fromHex sig.publicKey)
      else some <$> Prog.orThrow (fireblocksSignatureToDER (bufferFields sig.signature))

/-- The inputs of the wallet, with their address indices and public keys. -/
def signingIndices (w : WalletRef) (tx : Transaction) : Async (List SigningIndex) := do
  let (signing, _) ← ownInputs w (fun _ inputIndex addressIndex pubkey =>
    pure (⟨inputIndex, addressIndex, pubkey⟩, ())) 0 tx.inputs ()
  return signing

def getTxSignatures (tx : Transaction) (w : WalletRef) : Async SignatureData := do
  let hash := Buffer.toHex tx.dataToSignHash
  let signing ← signingIndices w tx
  let ncCallerIndex ← callerIndex tx w
  let indices := signing.map SigningIndex.addressIndex ++ (truthyIndex ncCallerIndex).toList
  let fbTxInfo ← await (sendRawTransaction tx.dataToSignHash indices)
  match fbTxInfo.signedMessages with
  | none => throw (noSignatures fbTxInfo.id hash)
  | some items => do
    let table ← Prog.orThrow (signedMessagesObj fbTxInfo.id hash items)
    let inputSignatures ← Prog.orThrow (signing.mapM (inputSignature fbTxInfo.id hash table))
    let callerSignature ← ncCallerSignature w tx fbTxInfo.id table ncCallerIndex
    return ⟨inputSignatures, callerSignature⟩

/-- `startClient`: the configuration, and the file of the secret where there is one. -/
def startClient : Async Unit := do
  let config ← getConfig
  match truthy config.fireblocksApiSecretFile with
  | none => return
  | some path => do
    let _ ← readApiSecretFile path
    return

/-- The method that `buildFireblocksSignerMethod` returns. -/
def fireblocksSigner (tx : Transaction) (w : WalletRef) : Async SignatureData := do
  startClient
  getTxSignatures tx w

end WalletHeadless
