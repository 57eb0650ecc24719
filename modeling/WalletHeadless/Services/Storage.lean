import WalletHeadless.Services.Asks

/-!
# The storage that a signer reads

* `Storage`, `Storage.owned`: what the storage knows, and the unsigned inputs of the wallet;
* `Storage.wp_ownInputs`: the loop of a signer does something for each of these inputs, in order.
-/

namespace WalletHeadless

open Coop Js

/-- What the storage of a wallet knows. -/
structure Storage where
  spentTx : Input → Option SpentTx
  addressIndex : String → Option Nat
  pubkey : Nat → String

namespace Storage

/-- The answers that the storage can give: any call may fail. -/
def Tells (st : Storage) : (c : Op) → c.Ans → Prop
  | .lib (.getSpentTx _ input), .ok r => r = st.spentTx input
  | .lib (.getAddressInfo _ address), .ok r => r = st.addressIndex address
  | .lib (.getAddressPubkey _ index), .ok r => r = st.pubkey index
  | _, _ => True

/-- An unsigned input, when the address of the output it spends belongs to the wallet. -/
def own (st : Storage) (inputIndex : Nat) (input : Input) : Option SigningIndex :=
  if input.data.isSome then none
  else (st.spentTx input).bind fun spentTx => (spentTx.outputs[input.index]?).bind fun address =>
    (truthy address).bind fun address => (st.addressIndex address).map fun addressIndex =>
      ⟨inputIndex, addressIndex, Buffer.fromHex (st.pubkey addressIndex)⟩

/-- These inputs from the index `n` on, in order. -/
def ownedFrom (st : Storage) : Nat → List Input → List SigningIndex
  | _, [] => []
  | n, input :: inputs => (st.own n input).toList ++ st.ownedFrom (n + 1) inputs

/-- The unsigned inputs of the wallet, in the order of the transaction. -/
def owned (st : Storage) (tx : Transaction) : List SigningIndex := st.ownedFrom 0 tx.inputs

end Storage

/-- The calls that read the storage. -/
def LibCall.ReadsStorage : LibCall → Prop
  | getSpentTx .. | getAddressInfo .. | getAddressPubkey .. => True
  | _ => False

namespace Storage

section
variable {Q σ α : Type} {P : Protocol Op.Ans Q} {st : Storage} {w : WalletRef} {I : σ → Q → Prop}
  {fail : JsError → Q → Prop}

/-- What a call reads of the storage. -/
theorem wp_read (hreads : ∀ c : LibCall, c.ReadsStorage → ∀ keys, P.Keeps (I keys) (Prog.ask (ε := JsError) (.lib c)))
    (htells : ∀ c : LibCall, c.ReadsStorage → ∀ q r, P.may q (.lib c) r → st.Tells (.lib c) r)
    (hfail : ∀ keys q e, I keys q → fail e q) {c : LibCall} (hc : c.ReadsStorage) {keys : σ} {q : Q} (h : I keys q)
    {post : c.Result → Q → Prop} (hpost : ∀ a q, st.Tells (.lib c) (.ok a) → I keys q → post a q) :
    P.wp (lib c) q post fail := by
  obtain ⟨hallows, hnext⟩ := hreads c hc keys q h
  refine (Protocol.wp_attempt ..).mpr ⟨hallows, fun r hr => ⟨fun a ha => ?_, fun e _ => hfail keys _ e (hnext r hr)⟩⟩
  exact hpost a _ (ha ▸ htells c hc _ r hr) (hnext r hr)

/-- The loop of a signer, which keeps `I` and gets an `R` from `each`, for the unsigned inputs of the wallet in order. -/
theorem wp_ownInputs {each : σ → Nat → Nat → Buffer → Async (α × σ)} {R : SigningIndex → α → Prop}
    (hreads : ∀ c : LibCall, c.ReadsStorage → ∀ keys, P.Keeps (I keys) (Prog.ask (ε := JsError) (.lib c)))
    (htells : ∀ c : LibCall, c.ReadsStorage → ∀ q r, P.may q (.lib c) r → st.Tells (.lib c) r)
    (hfail : ∀ keys q e, I keys q → fail e q)
    (heach : ∀ keys (d : SigningIndex) q, I keys q → P.wp (each keys d.inputIndex d.addressIndex d.pubkey) q
      (fun res q => R d res.1 ∧ I res.2 q) fail)
    (n : Nat) (inputs : List Input) {keys : σ} {q : Q} (h : I keys q) :
    P.wp (ownInputs w each n inputs keys) q
      (fun res q => List.Forall₂ R (st.ownedFrom n inputs) res.1 ∧ I res.2 q) fail := by
  induction inputs generalizing n keys q with
  | nil => exact ⟨.nil, h⟩
  | cons input inputs ih =>
      have hskip (q : Q) (h : I keys q) (hnone : st.own n input = none) :
          P.wp (ownInputs w each (n + 1) inputs keys) q
            (fun res q => List.Forall₂ R (st.ownedFrom n (input :: inputs)) res.1 ∧ I res.2 q) fail := by
        have hrest : st.ownedFrom n (input :: inputs) = st.ownedFrom (n + 1) inputs := by
          simp [Storage.ownedFrom, hnone]
        rw [hrest]
        exact ih (n + 1) h
      unfold ownInputs
      refine (Protocol.wp_bind ..).mpr (wp_read (c := .getSpentTx w input) hreads htells hfail trivial h
        fun spentTx q hspent h => ?_)
      cases hs : spentTx with
      | none => exact hskip q h (by simp [Storage.own, ← show spentTx = st.spentTx input from hspent, hs])
      | some spent =>
          have hspent' : st.spentTx input = some spent := by rw [← hs]; exact hspent.symm
          refine (Protocol.wp_ite ..).mpr ⟨fun hdata => hskip q h (by simp [Storage.own, hdata]), fun hdata => ?_⟩
          cases hout : spent.outputs[input.index]? with
          | none => exact hfail keys q _ h
          | some decoded =>
              cases haddress : truthy decoded with
              | none =>
                  simp only [haddress]
                  exact hskip q h (by simp [Storage.own, hdata, hspent', hout, haddress])
              | some address =>
                  simp only [haddress]
                  refine (Protocol.wp_bind ..).mpr (wp_read (c := .getAddressInfo w address) hreads htells hfail
                    trivial h fun index q hindex h => ?_)
                  cases hi : index with
                  | none =>
                      refine hskip q h ?_
                      have hnone : st.addressIndex address = none := by rw [← hi]; exact hindex.symm
                      simp [Storage.own, hdata, hspent', hout, haddress, hnone]
                  | some addressIndex =>
                      have hsome : st.addressIndex address = some addressIndex := by rw [← hi]; exact hindex.symm
                      refine (Protocol.wp_bind ..).mpr (wp_read (c := .getAddressPubkey w addressIndex)
                        hreads htells hfail trivial h fun pubkeyHex q hpubkey h => ?_)
                      have hpubkey : pubkeyHex = st.pubkey addressIndex := hpubkey
                      let d : SigningIndex := ⟨n, addressIndex, Buffer.fromHex pubkeyHex⟩
                      have hown : st.own n input = some d := by
                        simp [d, Storage.own, hdata, hspent', hout, haddress, hsome, hpubkey]
                      refine (Protocol.wp_bind ..).mpr (Protocol.wp_mono _ (heach keys d q h) (fun res q hres => ?_)
                        fun _ _ h => h)
                      refine (Protocol.wp_bind ..).mpr (Protocol.wp_mono _ (ih (n + 1) hres.2) (fun rest q hrest => ?_)
                        fun _ _ h => h)
                      refine ⟨?_, hrest.2⟩
                      have hcons : st.ownedFrom n (input :: inputs) = d :: st.ownedFrom (n + 1) inputs := by
                        simp [Storage.ownedFrom, hown]
                      rw [hcons]
                      exact .cons hres.1 hrest.1

end

end Storage

end WalletHeadless
