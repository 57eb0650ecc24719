import WalletHeadless.Controllers.TxProposal

/-!
# The order of the signatures of a multisig input

The handler sorts the signatures by the account-level public keys of their signers, and `wallet-lib` sorts the public
keys of the redeem script by those of all signers.

* `KeysAndScripts`, `KeysAndScripts.Documents`: what `wallet-lib` makes of keys and signatures;
* `sortedSigs_eq`: the signatures in their order;
* `inputData_in_order`: they come in the order of their signers in the redeem script.
-/

namespace WalletHeadless

open Js

/-- The account-level public key of an xpub, the one derived for an address, the bytes that push data on the stack, and
the script for a number of signatures of given public keys. -/
structure KeysAndScripts where
  accountKey : String → Buffer
  derived : String → Nat → Buffer
  push : Buffer → Buffer
  script : Nat → List Buffer → Buffer

namespace KeysAndScripts

variable (K : KeysAndScripts)

/-- The key by which the signers are sorted. -/
def accountHex (xpub : String) : String := (K.accountKey xpub).toHex

/-- The redeem script has the derived public keys in the order of the account-level ones, and the input data is the
signatures in the order given and the redeem script. -/
structure Documents (L : TxProposalLib) : Prop where
  redeemScript : ∀ xpubs numSignatures index s, L.createP2SHRedeemScript xpubs numSignatures index = .ok s →
    s = K.script numSignatures ((sortBy K.accountHex xpubs).map fun xpub => K.derived xpub index)
  inputData : ∀ sigs s data, L.getP2SHInputData sigs s = .ok data → data = sigs.flatMap K.push ++ K.push s

/-- The xpubs of the configuration have account-level public keys, all different. -/
structure Configures (L : TxProposalLib) (multisigData : MultisigData) : Prop where
  known : ∀ xpub ∈ multisigData.pubkeys, L.getPublicKeyFromXpub xpub none = .ok (K.accountKey xpub)
  distinct : (multisigData.pubkeys.map K.accountKey).Nodup

/-- The input data has all signatures, in the order that their signers have in the redeem script. -/
def InOrder (multisigData : MultisigData) (index : Nat) (signatures : Map String String) (data : Buffer) : Prop :=
  ∃ (order : List String) (signers : List (String × String)),
    order.Perm multisigData.pubkeys ∧ signers.Perm signatures.entries ∧ (signers.map Prod.fst).Sublist order ∧
    data = (signers.map fun v => Buffer.fromHex v.2).flatMap K.push ++
      K.push (K.script multisigData.numSignatures (order.map fun xpub => K.derived xpub index))

end KeysAndScripts

theorem mapM_ok {A B : Type} {f : A → Except JsError B} {g : A → B} {l : List A} (h : ∀ a ∈ l, f a = .ok (g a)) :
    l.mapM f = .ok (l.map g) := by
  induction l with
  | nil => rfl
  | cons a l ih =>
      rw [List.mapM_cons, h a (by simp), ih fun b hb => h b (by simp [hb])]
      rfl

section InputData
variable {L : TxProposalLib} {K : KeysAndScripts} {multisigData : MultisigData} {signatures : Map String String}

/-- The signers of a request, in the order of their account-level public keys. -/
def KeysAndScripts.signers (K : KeysAndScripts) (signatures : Map String String) : List (String × String) :=
  sortBy (fun v => K.accountHex v.1) signatures.entries

theorem KeysAndScripts.Configures.accountHex_nodup (h : K.Configures L multisigData) :
    (multisigData.pubkeys.map K.accountHex).Nodup := by
  have hmap := h.distinct.map Buffer.toHex_injective
  rwa [List.map_map] at hmap

/-- The signers have different keys. -/
theorem KeysAndScripts.Configures.signers_nodup (h : K.Configures L multisigData)
    (hsub : signatures.keys ⊆ multisigData.pubkeys) : (signatures.keys.map K.accountHex).Nodup := by
  refine List.Nodup.map_on (fun x hx y hy hxy => ?_) signatures.nodup
  exact List.inj_on_of_nodup_map h.accountHex_nodup (hsub hx) (hsub hy) hxy

theorem sortedSigs_eq (h : K.Configures L multisigData) (hsub : signatures.keys ⊆ multisigData.pubkeys) :
    TxProposal.sortedSigs L signatures = .ok ((K.signers signatures).map fun v => Buffer.fromHex v.2) := by
  have hmap : (signatures.entries.mapM fun v => do
      let pubkey ← L.getPublicKeyFromXpub v.1 none
      return (pubkey.toHex, Buffer.fromHex v.2)) =
        .ok (signatures.entries.map fun v => (K.accountHex v.1, Buffer.fromHex v.2)) := by
    refine mapM_ok fun v hv => ?_
    rw [h.known v.1 (hsub (List.mem_map_of_mem hv))]
    rfl
  unfold TxProposal.sortedSigs
  rw [hmap]
  show Except.ok _ = _
  rw [sortBy_map, List.map_map]
  rfl

/-- The order of the keys in a request does not matter. -/
theorem signers_of_perm (h : K.Configures L multisigData) (hsub : signatures.keys ⊆ multisigData.pubkeys)
    {signatures' : Map String String} (hperm : signatures'.entries.Perm signatures.entries) :
    K.signers signatures' = K.signers signatures := by
  refine (sortBy_of_perm hperm.symm ?_).symm
  have hnodup := h.signers_nodup hsub
  rwa [Map.keys, List.map_map] at hnodup

theorem signers_inOrder (hL : K.Documents L) (h : K.Configures L multisigData)
    (hsub : signatures.keys ⊆ multisigData.pubkeys) {index : Nat} {s data : Buffer}
    (hs : L.createP2SHRedeemScript multisigData.pubkeys multisigData.numSignatures index = .ok s)
    (hdata : L.getP2SHInputData ((K.signers signatures).map fun v => Buffer.fromHex v.2) s = .ok data) :
    K.InOrder multisigData index signatures data := by
  refine ⟨sortBy K.accountHex multisigData.pubkeys, K.signers signatures, perm_sortBy _ _, perm_sortBy _ _, ?_, ?_⟩
  · have hfst : (K.signers signatures).map Prod.fst = sortBy K.accountHex signatures.keys :=
      (sortBy_map K.accountHex Prod.fst signatures.entries).symm
    rw [hfst]
    exact sublist_sortBy hsub (h.signers_nodup hsub) h.accountHex_nodup
  · rw [hL.inputData _ _ _ hdata, hL.redeemScript _ _ _ _ hs]

end InputData

/-- The input data of a multisig input has the signatures of the request in the order of their signers in the redeem
script, in whatever order the request names them; a signer who is not configured is refused. -/
theorem inputData_in_order {L : TxProposalLib} {K : KeysAndScripts} (hL : K.Documents L) {accessData : TxProposal.AccessData}
    {multisigData : MultisigData} (hm : accessData.multisigData = some multisigData) (h : K.Configures L multisigData)
    (index : Nat) (signatures : Map String String) :
    (signatures.keys ⊆ multisigData.pubkeys →
      (∀ signatures' : Map String String, signatures'.entries.Perm signatures.entries →
        TxProposal.getInputData L accessData (.p2sh index signatures') =
          TxProposal.getInputData L accessData (.p2sh index signatures)) ∧
      ∀ reply, TxProposal.getInputData L accessData (.p2sh index signatures) = .ok reply →
        ∃ data, reply = .inputData data.toHex ∧ K.InOrder multisigData index signatures data) ∧
    (¬ signatures.keys ⊆ multisigData.pubkeys →
      TxProposal.getInputData L accessData (.p2sh index signatures) = .ok (.error "signature from unknown signer")) := by
  have hknown (signatures : Map String String) (hsub : signatures.keys ⊆ multisigData.pubkeys) :
      TxProposal.getInputData L accessData (.p2sh index signatures) = (do
        let redeemScript ← L.createP2SHRedeemScript multisigData.pubkeys multisigData.numSignatures index
        let data ← L.getP2SHInputData ((K.signers signatures).map fun v => Buffer.fromHex v.2) redeemScript
        return .inputData data.toHex) := by
    unfold TxProposal.getInputData
    simp only [hm]
    rw [if_pos (List.all_eq_true.mpr fun xpub hx => by simpa using hsub hx), sortedSigs_eq h hsub]
    rfl
  refine ⟨fun hsub => ⟨fun signatures' hperm => ?_, fun reply hreply => ?_⟩, fun hsub => ?_⟩
  · have hsub' : signatures'.keys ⊆ multisigData.pubkeys := fun x hx => hsub ((hperm.map Prod.fst).mem_iff.mp hx)
    rw [hknown _ hsub, hknown _ hsub', signers_of_perm h hsub hperm]
  · rw [hknown _ hsub] at hreply
    cases hs : L.createP2SHRedeemScript multisigData.pubkeys multisigData.numSignatures index with
    | error e =>
        rw [hs] at hreply
        cases hreply
    | ok s =>
        rw [hs] at hreply
        change (L.getP2SHInputData _ s >>= fun data => pure _) = _ at hreply
        cases hdata : L.getP2SHInputData ((K.signers signatures).map fun v => Buffer.fromHex v.2) s with
        | error e =>
            rw [hdata] at hreply
            cases hreply
        | ok data =>
            rw [hdata] at hreply
            cases hreply
            exact ⟨data, rfl, signers_inOrder hL h hsub hs hdata⟩
  · unfold TxProposal.getInputData
    simp only [hm]
    rw [if_neg fun hall => hsub fun xpub hx => by simpa using List.all_eq_true.mp hall xpub hx]
    rfl

/-! ## A request of two signers of three -/

def letterKey (xpub : String) : Buffer := xpub.toList.map fun c => UInt8.ofNat c.toNat

/-- The length of the bytes and the bytes. -/
def pushBytes (b : Buffer) : Buffer := UInt8.ofNat b.length :: b

def scriptBytes (numSignatures : Nat) (pubkeys : List Buffer) : Buffer :=
  UInt8.ofNat (80 + numSignatures) :: (pubkeys.flatMap pushBytes ++ [UInt8.ofNat (80 + pubkeys.length), 174])

def letters : KeysAndScripts where
  accountKey := letterKey
  derived xpub index := letterKey xpub ++ [UInt8.ofNat index]
  push := pushBytes
  script := scriptBytes

/-- A library whose public keys are the letters of the xpubs. -/
def lettersLib : TxProposalLib where
  createTxFromHex _ := .error { message := "" }
  toHex _ := ""
  getPublicKeyFromXpub xpub _ := .ok (letterKey xpub)
  createInputData signature pubkey := signature ++ pubkey
  createP2SHRedeemScript xpubs numSignatures index :=
    .ok (scriptBytes numSignatures ((sortBy letters.accountHex xpubs).map fun xpub => letters.derived xpub index))
  getP2SHInputData sigs s :=
    if s.head? = some (UInt8.ofNat (80 + sigs.length)) then .ok (sigs.flatMap pushBytes ++ pushBytes s)
    else .error { message := "Signatures are incompatible with redeemScript" }

theorem letters_documents : letters.Documents lettersLib where
  redeemScript xpubs numSignatures index s h := (Except.ok.inj h).symm
  inputData sigs s data h := by
    unfold lettersLib at h
    dsimp only at h
    split at h
    · exact (Except.ok.inj h).symm
    · cases h

def threeSigners : MultisigData := ⟨2, ["b", "c", "a"]⟩

theorem letters_configures : letters.Configures lettersLib threeSigners where
  known _ _ := rfl
  distinct := by decide

def signedByCAndA : Map String String := (Map.empty.set "c" "0c").set "a" "0a"

theorem signedByCAndA_inOrder : ∃ data,
    TxProposal.getInputData lettersLib ⟨"", some threeSigners⟩ (.p2sh 0 signedByCAndA) = .ok (.inputData data.toHex) ∧
      letters.InOrder threeSigners 0 signedByCAndA data := by
  have hm : (⟨"", some threeSigners⟩ : TxProposal.AccessData).multisigData = some threeSigners := rfl
  have h := inputData_in_order letters_documents hm letters_configures 0 signedByCAndA
  obtain ⟨data, hdata, horder⟩ := (h.1 (by decide)).2 _ rfl
  exact ⟨data, by rw [← hdata]; rfl, horder⟩

end WalletHeadless
