import WalletHeadless.Helpers.Tx

/-!
# `decodeTx`

The handler of `/decode` only reads: it is a function of the transaction to decode and of what the wallet and the
full node know of the transactions that it spends.

* `FoundTx`: a transaction of the wallet history or of the full node; `TxSource`: where it is looked up;
* `getToken`, `decodeInput`, `decodeOutput`, `decodeTx`.
-/

namespace WalletHeadless.Decode

open Js

/-- The bits of the token data that are the index of the token; the highest bit marks an authority. -/
def TOKEN_INDEX_MASK : Nat := 127

/-- An entry of `tokens`: a uid, or an object with one. -/
inductive TokenEntry
  | uid (uid : String)
  | object (uid name symbol : String)
deriving DecidableEq

/-- An output of a transaction that was found. -/
structure FoundOutput where
  value : Nat
  token_data : Nat
  token : Option String := none
  script : String := ""
  address : Option String := none
deriving DecidableEq

structure FoundTx where
  tokens : List TokenEntry
  outputs : List FoundOutput
deriving DecidableEq

/-- The answer of `wallet.getFullTxById`. -/
structure FullTx where
  success : Bool
  tx : Option FoundTx := none
deriving DecidableEq

/-- What `decodeTx` asks of the wallet. -/
structure TxSource where
  getTx : String → Except JsError (Option FoundTx)
  getFullTxById : String → Except JsError FullTx
  isAddressMine : String → Bool

/-- `getTx` of `tx.helper.js`: the wallet history first, then the full node. -/
def getTx (env : TxSource) (id : String) : Except JsError (Option FoundTx) := do
  match ← env.getTx id with
  | some tx => return some tx
  | none =>
    match env.getFullTxById id with
    | .ok response => return if response.success then response.tx else none
    | .error _ => return none

/-- `getToken`: the token of an output of `txObj`; `none` is `undefined`. -/
def getToken (utxo : FoundOutput) (txObj : FoundTx) : Option TokenEntry :=
  match truthy utxo.token with
  | some token => some (.uid token)
  | none =>
    if utxo.token_data = 0 then some (.uid NATIVE_TOKEN_UID)
    else
      match utxo.token_data &&& TOKEN_INDEX_MASK with
      | 0 => none
      | tokenIndex + 1 => txObj.tokens[tokenIndex]?

/-! ## The transaction to decode -/

/-- A script that the wallet can parse. -/
inductive DecodedScript
  | data (data : String)
  | address (base58 : String) (timelock : Option Nat)
deriving DecidableEq

structure TxOutput where
  value : Nat
  tokenData : Nat
  script : String := ""
  decodedScript : Option DecodedScript
deriving DecidableEq

structure Tx where
  version : Nat := 1
  tokens : List String
  inputs : List Input
  outputs : List TxOutput
deriving DecidableEq

structure DecodedInput where
  txId : String
  index : Nat
  address : Option String
  token : Option TokenEntry
  value : Nat
  token_data : Nat
  script : String
  signed : Bool
  mine : Bool
deriving DecidableEq

structure DecodedOutput where
  value : Nat
  token_data : Nat
  script : String
  decoded : DecodedScript
  mine : Bool
  token : Option TokenEntry
deriving DecidableEq

structure DecodedTx where
  version : Nat
  tokens : List String
  inputs : List DecodedInput
  outputs : List DecodedOutput
  completeSignatures : Bool
deriving DecidableEq

def inputNotFound (txId : String) : JsError := { message := s!"Could not find input transaction for txId {txId}" }

def nullField (field : String) : JsError :=
  { kind := .TypeError, message := s!"Cannot read properties of null (reading \x27{field}\x27)" }

def decodeInput (env : TxSource) (input : Input) : Except JsError DecodedInput := do
  match ← getTx env input.hash with
  | none => throw (inputNotFound input.hash)
  | some tx =>
    match tx.outputs[input.index]? with
    | none => throw (undefinedField "decoded")
    | some utxo =>
      return {
        txId := input.hash, index := input.index, address := utxo.address, token := getToken utxo tx,
        value := utxo.value, token_data := utxo.token_data, script := utxo.script, signed := input.data.isSome,
        mine := utxo.address.any env.isAddressMine }

/-- `tx.tokens[output.getTokenIndex()]`, for an output that is not of HTR. -/
def outputToken (tx : Tx) (output : TxOutput) : Option TokenEntry :=
  if output.tokenData ≠ 0 then
    match output.tokenData &&& TOKEN_INDEX_MASK with
    | 0 => none
    | tokenIndex + 1 => tx.tokens[tokenIndex]?.map .uid
  else some (.uid NATIVE_TOKEN_UID)

def decodeOutput (env : TxSource) (tx : Tx) (output : TxOutput) : Except JsError DecodedOutput :=
  match output.decodedScript with
  | none => .error (nullField "getType")
  | some decoded =>
    .ok {
      value := output.value, token_data := output.tokenData, script := output.script, decoded := decoded,
      token := outputToken tx output
      mine :=
        match decoded with
        | .data _ => false
        | .address base58 _ => env.isAddressMine base58 }

/-- `decodeTx`, up to the balance. -/
def decodeTx (env : TxSource) (tx : Tx) : Except JsError DecodedTx := do
  let inputs ← tx.inputs.mapM (decodeInput env)
  let outputs ← tx.outputs.mapM (decodeOutput env tx)
  return {
    version := tx.version, tokens := tx.tokens, inputs := inputs, outputs := outputs
    completeSignatures := !inputs.isEmpty && inputs.all DecodedInput.signed }

end WalletHeadless.Decode
