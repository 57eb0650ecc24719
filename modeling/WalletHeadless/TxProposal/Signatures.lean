import WalletHeadless.Controllers.TxProposal

/-!
# Signatures added to a transaction

* `lastFor`, `withSignatures`: the transaction with the last entry for each input;
* `foldlM_setInputData`, `foldlM_setInputData_error`: the loop of the handler;
* `AddsSignatures`, `addsSignatures_iff`: where the handler does what it is for; `unsigned_throws`: where it throws.
-/

namespace WalletHeadless

open Js

/-! ## The transaction with its signatures -/

/-- The last entry for an input. -/
def lastFor (index : Nat) (signatures : List AddedSignature) : Option AddedSignature :=
  signatures.reverse.find? fun s => s.index = index

/-- The transaction in which the inputs that the entries name have their data, and nothing else is different. -/
def withSignatures (tx : Transaction) (signatures : List AddedSignature) : Transaction :=
  { tx with inputs := tx.inputs.mapIdx fun i input =>
      (lastFor i signatures).elim input fun s => { input with data := some (Buffer.fromHex s.data) } }

theorem lastFor_append (index : Nat) (first second : List AddedSignature) :
    lastFor index (first ++ second) = (lastFor index second).or (lastFor index first) := by
  rw [lastFor, List.reverse_append, List.find?_append]
  rfl

theorem of_lastFor {signatures : List AddedSignature} {index : Nat} {s : AddedSignature}
    (h : lastFor index signatures = some s) : s ∈ signatures ∧ s.index = index := by
  unfold lastFor at h
  exact ⟨List.mem_reverse.mp (List.mem_of_find?_eq_some h), by simpa using List.find?_some h⟩

theorem lastFor_eq_some {signatures : List AddedSignature} (hnodup : (signatures.map AddedSignature.index).Nodup)
    {index : Nat} {s : AddedSignature} : lastFor index signatures = some s ↔ s ∈ signatures ∧ s.index = index := by
  refine ⟨of_lastFor, ?_⟩
  rintro ⟨hs, rfl⟩
  have hsome : (lastFor s.index signatures).isSome = true :=
    List.find?_isSome.mpr ⟨s, List.mem_reverse.mpr hs, decide_eq_true rfl⟩
  obtain ⟨r, hr⟩ := Option.isSome_iff_exists.mp hsome
  rw [hr, List.inj_on_of_nodup_map hnodup (of_lastFor hr).1 hs (of_lastFor hr).2]

/-- Entries for different inputs have no order. -/
theorem lastFor_of_perm {signatures signatures' : List AddedSignature} (h : signatures.Perm signatures')
    (hnodup : (signatures.map AddedSignature.index).Nodup) (index : Nat) :
    lastFor index signatures = lastFor index signatures' := by
  ext s
  rw [lastFor_eq_some hnodup, lastFor_eq_some (((h.map _).nodup_iff).mp hnodup), h.mem_iff]

@[simp] theorem length_withSignatures (tx : Transaction) (signatures : List AddedSignature) :
    (withSignatures tx signatures).inputs.length = tx.inputs.length := List.length_mapIdx

theorem withSignatures_nil (tx : Transaction) : withSignatures tx [] = tx := by
  have hsame : tx.inputs.mapIdx (fun _ input => input) = tx.inputs := List.ext_getElem (by simp) (by simp)
  show { tx with inputs := tx.inputs.mapIdx fun _ input => input } = tx
  rw [hsame]

/-- Signatures added one after the other are added at once. -/
theorem withSignatures_append (tx : Transaction) (first second : List AddedSignature) :
    withSignatures (withSignatures tx first) second = withSignatures tx (first ++ second) := by
  simp only [withSignatures, List.mapIdx_mapIdx, lastFor_append]
  congr 2
  funext i input
  cases hsecond : lastFor i second <;> cases hfirst : lastFor i first <;> simp [Function.comp, *]

theorem withSignatures_of_perm {signatures signatures' : List AddedSignature} (h : signatures.Perm signatures')
    (hnodup : (signatures.map AddedSignature.index).Nodup) (tx : Transaction) :
    withSignatures tx signatures = withSignatures tx signatures' := by
  simp only [withSignatures, lastFor_of_perm h hnodup]

/-! ## The loop -/

theorem setInputData_eq {tx : Transaction} {s : AddedSignature} (h : s.index < tx.inputs.length) :
    TxProposal.setInputData tx s = .ok (withSignatures tx [s]) := by
  have hset : tx.inputs.set s.index { tx.inputs[s.index] with data := some (Buffer.fromHex s.data) } =
      (withSignatures tx [s]).inputs := by
    refine List.ext_getElem (by simp) fun i hi _ => ?_
    simp only [List.getElem_set, withSignatures, List.getElem_mapIdx, lastFor, List.reverse_singleton,
      List.find?_singleton, decide_eq_true_eq]
    split
    next he =>
      subst he
      rfl
    next => rfl
  simp only [TxProposal.setInputData, List.getElem?_eq_getElem h, hset]
  rfl

theorem setInputData_error {tx : Transaction} {s : AddedSignature} (h : tx.inputs.length ≤ s.index) :
    ∃ e, TxProposal.setInputData tx s = .error e := by
  simp [TxProposal.setInputData, List.getElem?_eq_none h]

theorem foldlM_setInputData {tx : Transaction} {signatures : List AddedSignature}
    (h : ∀ s ∈ signatures, s.index < tx.inputs.length) :
    signatures.foldlM TxProposal.setInputData tx = .ok (withSignatures tx signatures) := by
  induction signatures generalizing tx with
  | nil => rw [withSignatures_nil]; rfl
  | cons s signatures ih =>
      rw [List.foldlM_cons, setInputData_eq (h s (by simp))]
      show signatures.foldlM TxProposal.setInputData (withSignatures tx [s]) = _
      rw [ih fun s' hs' => by simpa using h s' (by simp [hs']), withSignatures_append]
      rfl

theorem foldlM_setInputData_error {tx : Transaction} {signatures : List AddedSignature} {s : AddedSignature}
    (hs : s ∈ signatures) (h : tx.inputs.length ≤ s.index) :
    ∃ e, signatures.foldlM TxProposal.setInputData tx = .error e := by
  induction signatures generalizing tx with
  | nil => cases hs
  | cons s' signatures ih =>
      rw [List.foldlM_cons]
      by_cases hs' : s'.index < tx.inputs.length
      · rw [setInputData_eq hs']
        refine ih ((List.mem_cons.mp hs).resolve_left ?_) (by simpa using h)
        rintro rfl
        omega
      · obtain ⟨e, he⟩ := setInputData_error (not_lt.mp hs')
        rw [he]
        exact ⟨e, rfl⟩

/-! ## The handler -/

/-- What the handler is for: it answers with the signed transaction, or with an error when there is none; entries for
different inputs come in any order, and in one call or in several, as long as the library reads its own hex. -/
structure AddsSignatures (L : TxProposalLib) (txHex : String) (signatures : List AddedSignature) : Prop where
  added : ∀ tx, L.createTxFromHex txHex = .ok tx → (∀ s ∈ signatures, s.index < tx.inputs.length) →
    TxProposal.addSignatures L txHex signatures = .ok (.txHex (L.toHex (withSignatures tx signatures)))
  refused : (∀ tx, L.createTxFromHex txHex = .ok tx → ∃ s ∈ signatures, tx.inputs.length ≤ s.index) →
    ∃ error, TxProposal.addSignatures L txHex signatures = .ok (.error error)
  anyOrder : ∀ signatures', signatures.Perm signatures' → (signatures.map AddedSignature.index).Nodup →
    TxProposal.addSignatures L txHex signatures' = TxProposal.addSignatures L txHex signatures
  severalCalls : ∀ first second tx, signatures = first ++ second → L.createTxFromHex txHex = .ok tx →
    L.createTxFromHex (L.toHex (withSignatures tx first)) = .ok (withSignatures tx first) →
    ∃ hex, TxProposal.addSignatures L txHex first = .ok (.txHex hex) ∧
      TxProposal.addSignatures L hex second = TxProposal.addSignatures L txHex signatures

section Handler
variable {L : TxProposalLib} {txHex : String} {signatures : List AddedSignature}

theorem addSignatures_eq {tx : Transaction} (htx : L.createTxFromHex txHex = .ok tx)
    (h : ∀ s ∈ signatures, s.index < tx.inputs.length) :
    TxProposal.addSignatures L txHex signatures = .ok (.txHex (L.toHex (withSignatures tx signatures))) := by
  unfold TxProposal.addSignatures
  rw [htx]
  show (signatures.foldlM TxProposal.setInputData tx >>= fun tx => pure (TxProposalReply.txHex (L.toHex tx))) = _
  rw [foldlM_setInputData h]
  rfl

/-- The handler throws when the hex does not decode, or when it names an input that is not there. -/
theorem addSignatures_error
    (h : ∀ tx, L.createTxFromHex txHex = .ok tx → ∃ s ∈ signatures, tx.inputs.length ≤ s.index) :
    ∃ e, TxProposal.addSignatures L txHex signatures = .error e := by
  unfold TxProposal.addSignatures
  cases htx : L.createTxFromHex txHex with
  | error e => exact ⟨e, rfl⟩
  | ok tx =>
      obtain ⟨s, hs, hlen⟩ := h tx htx
      obtain ⟨e, he⟩ := foldlM_setInputData_error hs hlen
      refine ⟨e, ?_⟩
      show (signatures.foldlM TxProposal.setInputData tx >>= fun tx => pure (TxProposalReply.txHex (L.toHex tx))) = _
      rw [he]
      rfl

end Handler

/-- The handler does what it is for exactly when the hex decodes and the entries name inputs of the transaction. -/
theorem addsSignatures_iff (L : TxProposalLib) (txHex : String) (signatures : List AddedSignature) :
    AddsSignatures L txHex signatures ↔
      ∃ tx, L.createTxFromHex txHex = .ok tx ∧ ∀ s ∈ signatures, s.index < tx.inputs.length := by
  constructor
  · intro h
    by_contra hn
    push Not at hn
    obtain ⟨error, hreply⟩ := h.refused hn
    obtain ⟨e, he⟩ := addSignatures_error hn
    rw [he] at hreply
    cases hreply
  · rintro ⟨tx, htx, hin⟩
    have hsame {tx' : Transaction} (htx' : L.createTxFromHex txHex = .ok tx') : tx' = tx :=
      Except.ok.inj (htx'.symm.trans htx)
    refine ⟨fun tx' htx' hin' => addSignatures_eq htx' hin', fun hout => ?_, fun signatures' hperm hnodup => ?_,
      fun first second tx' happ htx' hround => ?_⟩
    · obtain ⟨s, hs, hlen⟩ := hout tx htx
      exact absurd (hin s hs) (not_lt.mpr hlen)
    · rw [addSignatures_eq htx hin, addSignatures_eq htx fun s hs => hin s (hperm.mem_iff.mpr hs),
        withSignatures_of_perm hperm hnodup]
    · obtain rfl := hsame htx'
      subst happ
      refine ⟨_, addSignatures_eq htx fun s hs => hin s (List.mem_append_left _ hs), ?_⟩
      rw [addSignatures_eq hround fun s hs => by simpa using hin s (List.mem_append_right _ hs), withSignatures_append,
        addSignatures_eq htx hin]

/-! ## A transaction with one input -/

def oneInput : Transaction := { hash := "", inputs := [{ hash := "utxo", index := 0 }] }

/-- A library that decodes one hex. -/
def oneHexLib : TxProposalLib where
  createTxFromHex txHex := if txHex = "00" then .ok oneInput else .error { message := "Invalid transaction." }
  toHex _ := "00"
  getPublicKeyFromXpub _ _ := .error { message := "" }
  createInputData signature pubkey := signature ++ pubkey
  createP2SHRedeemScript _ _ _ := .error { message := "" }
  getP2SHInputData _ _ := .error { message := "" }

/-- An input that is not there, and a hex that does not decode, make the handler throw. -/
theorem unsigned_throws : ¬ AddsSignatures oneHexLib "00" [⟨1, "af"⟩] ∧
    ¬ AddsSignatures oneHexLib "0099aaff" [⟨0, "af"⟩] := by
  refine ⟨fun h => ?_, fun h => ?_⟩
  · obtain ⟨error, hreply⟩ := h.refused fun tx htx => ⟨_, List.mem_singleton_self _, by cases htx; decide⟩
    cases hreply
  · obtain ⟨error, hreply⟩ := h.refused fun tx htx => by cases htx
    cases hreply

end WalletHeadless
