import WalletHeadless.Js.Map
import WalletHeadless.Js.Sort
import WalletHeadless.Types

/-!
# `tx-proposal.controller.js`: signatures and input data

Both handlers run without an interruption once they have what they need of the wallet, so they are functions of the
library and of the validated body.

* `TxProposalLib`: what `wallet-lib` does with transactions, keys and scripts;
* `addSignatures`, `getInputData`.
-/

namespace WalletHeadless

open Js

/-- The functions of `wallet-lib`; without an index, the public key of an xpub is that of the xpub itself. -/
structure TxProposalLib where
  createTxFromHex : String → Except JsError Transaction
  toHex : Transaction → String
  getPublicKeyFromXpub : String → Option Nat → Except JsError Buffer
  createInputData : Buffer → Buffer → Buffer
  createP2SHRedeemScript : List String → Nat → Nat → Except JsError Buffer
  getP2SHInputData : List Buffer → Buffer → Except JsError Buffer

/-- The body of a reply. -/
inductive TxProposalReply
  | txHex (txHex : String)
  | inputData (inputData : String)
  | error (error : String)
deriving DecidableEq

/-! ## `addSignatures` -/

/-- An entry of `signatures`. -/
structure AddedSignature where
  index : Nat
  data : String
deriving DecidableEq

namespace TxProposal

/-- `tx.inputs[signature.index].setData(Buffer.from(signature.data, 'hex'))`. -/
def setInputData (tx : Transaction) (signature : AddedSignature) : Except JsError Transaction :=
  match tx.inputs[signature.index]? with
  | none =>
    .error { kind := .TypeError, message := "Cannot read properties of undefined (reading \x27setData\x27)" }
  | some input =>
    .ok { tx with inputs := tx.inputs.set signature.index { input with data := some (Buffer.fromHex signature.data) } }

def addSignatures (L : TxProposalLib) (txHex : String) (signatures : List AddedSignature) :
    Except JsError TxProposalReply := do
  let tx ← L.createTxFromHex txHex
  let tx ← signatures.foldlM setInputData tx
  return .txHex (L.toHex tx)

/-! ## `getInputData` -/

structure AccessData where
  xpubkey : String
  multisigData : Option MultisigData

/-- The body, by the schema that accepts it; `signatures` maps xpubs to signatures. -/
inductive InputDataBody
  | p2pkh (index : Nat) (signature : String)
  | p2sh (index : Nat) (signatures : Map String String)

/-- The signatures of a request, sorted by the public keys of their signers. -/
def sortedSigs (L : TxProposalLib) (signatures : Map String String) : Except JsError (List Buffer) := do
  let signers ← signatures.entries.mapM fun v => do
    let pubkey ← L.getPublicKeyFromXpub v.1 none
    return (pubkey.toHex, Buffer.fromHex v.2)
  return (sortBy Prod.fst signers).map Prod.snd

def getInputData (L : TxProposalLib) (accessData : AccessData) : InputDataBody → Except JsError TxProposalReply
  | .p2pkh index signature => do
    let pubkey ← L.getPublicKeyFromXpub accessData.xpubkey (some index)
    return .inputData (L.createInputData (Buffer.fromHex signature) pubkey).toHex
  | .p2sh index signatures =>
    match accessData.multisigData with
    | none => return .error "wallet is not MultiSig"
    | some multisigData =>
      if signatures.keys.all fun xpub => multisigData.pubkeys.contains xpub then do
        let sigs ← sortedSigs L signatures
        let redeemScript ← L.createP2SHRedeemScript multisigData.pubkeys multisigData.numSignatures index
        let inputData ← L.getP2SHInputData sigs redeemScript
        return .inputData inputData.toHex
      else return .error "signature from unknown signer"

end TxProposal

end WalletHeadless
