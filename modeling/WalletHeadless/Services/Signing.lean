import WalletHeadless.Server.Ops

/-!
# What the external signers share

`HsmSession.signTx` and `getTxSignatures` walk over the inputs of a transaction in the same way, and
find the address of the caller of a nano contract or a blueprint in the same way.
-/

namespace WalletHeadless

open Js

def ON_CHAIN_BLUEPRINTS_VERSION : Nat := 6

/-- Reading a field of `undefined`. -/
def undefinedField (field : String) : JsError :=
  { kind := .TypeError, message := s!"Cannot read properties of undefined (reading \x27{field}\x27)" }

/-- The loop over `storage.getSpentTxs(tx.inputs)`: `each` is run, with a state, for the unsigned inputs
that spend an output of the wallet. -/
def ownInputs {σ α : Type} (w : WalletRef) (each : σ → Nat → Nat → Buffer → Async (α × σ)) :
    Nat → List Input → σ → Async (List α × σ)
  | _, [], keys => pure ([], keys)
  | inputIndex, input :: inputs, keys => do
    match ← getSpentTx w input with
    | none => ownInputs w each (inputIndex + 1) inputs keys
    | some spentTx =>
      -- this input is already signed
      if input.data.isSome then ownInputs w each (inputIndex + 1) inputs keys
      else match spentTx.outputs[input.index]? with
        | none => throw (undefinedField "decoded")
        | some address =>
          match truthy address with
          | none => ownInputs w each (inputIndex + 1) inputs keys
          | some address =>
            match ← getAddressInfo w address with
            | none => ownInputs w each (inputIndex + 1) inputs keys
            | some addressIndex =>
              let pubkeyHex ← getAddressPubkey w addressIndex
              let (a, keys) ← each keys inputIndex addressIndex (Buffer.fromHex pubkeyHex)
              let (as, keys) ← ownInputs w each (inputIndex + 1) inputs keys
              return (a :: as, keys)

/-- The address that calls the nano contract or creates the blueprint. -/
def callerAddress (tx : Transaction) : Async (Option String) := do
  let address ← (if tx.isNanoContract then some <$> getNanoContractCaller tx else pure none)
  if tx.version = ON_CHAIN_BLUEPRINTS_VERSION then
    some <$> getAddressFromPubkey (Buffer.toHex tx.pubkey)
  else return address

/-- The index of the caller, if its address belongs to the wallet. -/
def callerIndex (tx : Transaction) (w : WalletRef) : Async (Option Nat) := do
  match ← callerAddress tx with
  | none => return none
  | some address => getAddressInfo w address

end WalletHeadless
