import WalletHeadless.Fireblocks.Signature

/-!
# The signature of the caller of a nano contract

`getTxSignatures` leaves out the caller whose index is `0`, and for every other index it encodes the
encoding of the signature a second time, which throws.

* `CallerSigned`: the signature of the caller is there and is made of the DER encoding;
* `not_callerSigned`: it never is.
-/

namespace WalletHeadless

open Coop Js

/-- `getTxSignatures` returns a signature of the caller that is made of the DER encoding of `sig`: wrapped
with the public key for a nano contract, as it is for a blueprint. -/
def CallerSigned (answers : Nat → (c : Op) → c.Ans) (tx : Transaction) (w : WalletRef) (sig : FireblocksSignature)
    (publicKey : String) : Prop :=
  ∃ data der c, ((getTxSignatures tx w).run answers).2 = .ok data ∧ fireblocksSignatureToDER sig = .ok der ∧
    (if tx.isNanoContract then
      ⟨.lib (.createInputData der (Buffer.fromHex publicKey)), .ok c⟩ ∈ ((getTxSignatures tx w).run answers).1
    else c = der) ∧
    data.ncCallerSignature = some c

/-- A `Buffer` is not a signature that can be encoded. -/
theorem fireblocksSignatureToDER_buffer (b : Buffer) (der : Buffer) :
    fireblocksSignatureToDER (bufferFields b) ≠ .ok der := by
  intro h
  cases h

theorem ncCallerSignature_run {answers : Nat → (c : Op) → c.Ans} {w : WalletRef} {tx : Transaction} {id : String}
    {table : Js.Map (Option Nat) SignedEntry} {index : Option Nat} {c : Option Buffer}
    (h : ((ncCallerSignature w tx id table index).run answers).2 = .ok c) : c = none := by
  unfold ncCallerSignature at h
  split at h
  next => cases h; rfl
  next index _ =>
    split at h
    next => cases h
    next sig _ =>
      obtain ⟨pubkeyHex, answers, -, h⟩ := Prog.run_bind_ok h
      split at h
      · cases h
      · split at h
        · obtain ⟨signature, answers, hs, -⟩ := Prog.run_bind_ok h
          rw [Prog.run_orThrow] at hs
          exact absurd hs (fireblocksSignatureToDER_buffer _ _)
        · obtain ⟨signature, answers, hs, -⟩ := Prog.run_bind_ok h
          rw [Prog.run_orThrow] at hs
          exact absurd hs (fireblocksSignatureToDER_buffer _ _)

theorem getTxSignatures_run {answers : Nat → (c : Op) → c.Ans} {tx : Transaction} {w : WalletRef}
    {data : SignatureData} (h : ((getTxSignatures tx w).run answers).2 = .ok data) :
    data.ncCallerSignature = none := by
  unfold getTxSignatures at h
  obtain ⟨signing, answers, -, h⟩ := Prog.run_bind_ok h
  obtain ⟨index, answers, -, h⟩ := Prog.run_bind_ok h
  obtain ⟨info, answers, -, h⟩ := Prog.run_bind_ok h
  split at h
  · cases h
  · obtain ⟨table, answers, -, h⟩ := Prog.run_bind_ok h
    obtain ⟨inputs, answers, -, h⟩ := Prog.run_bind_ok h
    obtain ⟨c, answers, hc, h⟩ := Prog.run_bind_ok h
    cases h
    exact ncCallerSignature_run hc

/-- Whatever the storage and Fireblocks answer, the signature of the caller is missing. -/
theorem not_callerSigned (answers : Nat → (c : Op) → c.Ans) (tx : Transaction) (w : WalletRef)
    (sig : FireblocksSignature) (publicKey : String) : ¬ CallerSigned answers tx w sig publicKey := by
  rintro ⟨data, der, c, h, -, -, hc⟩
  rw [getTxSignatures_run h] at hc
  cases hc

/-- A nano contract without inputs, its caller at index `i`, and a response with the signature of `i`. -/
def callerTx : Transaction := { hash := "tx", inputs := [], dataToSignHash := [0xab], isNanoContract := true }

def callerSignature : FireblocksSignature := ⟨some wideHex, some wideHex⟩

def callerInfo (i : Nat) : FbTxInfo :=
  ⟨"id", "COMPLETED", some [⟨"ab", [44, 280, 0, 0, i], callerSignature, "02"⟩]⟩

def callerLib (i : Nat) : (c : LibCall) → Except JsError c.Result
  | .getNanoContractCaller _ => .ok "address"
  | .getAddressInfo _ _ => .ok (some i)
  | .getAddressPubkey _ _ => .ok "02"
  | .postRawTransaction _ _ => .ok ()
  | .getTxStatusByExternalId _ => .ok (callerInfo i)
  | c => .ok (c.granted callerTx)

def callerEnv (i : Nat) : (c : Op) → c.Ans
  | .lib c => callerLib i c
  | c => c.granted callerTx

/-- The caller at index `0` gets no signature, and the caller at index `1` an error. -/
theorem caller_unsigned :
    ((getTxSignatures callerTx 0).run fun _ => callerEnv 0).2 = .ok ⟨[], none⟩ ∧
      ((getTxSignatures callerTx 0).run fun _ => callerEnv 1).2 = .error undefinedBuffer ∧
      ¬ CallerSigned (fun _ => callerEnv 0) callerTx 0 callerSignature "02" ∧
      ¬ CallerSigned (fun _ => callerEnv 1) callerTx 0 callerSignature "02" := by
  have h₀ : ((getTxSignatures callerTx 0).run fun _ => callerEnv 0).2 = .ok ⟨[], none⟩ := by rfl
  have h₁ : ((getTxSignatures callerTx 0).run fun _ => callerEnv 1).2 = .error undefinedBuffer := by rfl
  refine ⟨h₀, h₁, ?_, ?_⟩
  · rintro ⟨data, der, c, h, -, -, hc⟩
    rw [h₀] at h
    cases h
    cases hc
  · rintro ⟨data, der, c, h, -⟩
    rw [h₁] at h
    cases h

end WalletHeadless
