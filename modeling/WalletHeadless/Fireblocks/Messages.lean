import WalletHeadless.Fireblocks.Signature
import WalletHeadless.Services.Storage

/-!
# The signatures that a Fireblocks response gives

`getTxSignatures` against a storage that answers as it will and a response whose messages are whatever
Fireblocks sends.

* `response`: the answer about the transaction that a trace holds;
* `SignedBy`: an entry of the result comes from a message of the response;
* `getTxSignatures_signs`: it returns one such entry for each of these inputs, or it throws.
-/

namespace WalletHeadless

open Coop Js

/-! ## The response -/

def statusAnswer : Event Op.Ans → Option FbTxInfo
  | ⟨.lib (.getTxStatusByExternalId _), .ok info⟩ => some info
  | _ => none

/-- The last answer about the transaction. -/
def response (log : Log) : Option FbTxInfo := (log.filterMap statusAnswer).getLast?

theorem response_snoc_some {log : Log} {e : Event Op.Ans} {info : FbTxInfo} (h : statusAnswer e = some info) :
    response (log ++ [e]) = some info := by
  simp [response, List.filterMap_append, h]

theorem response_snoc_none {log : Log} {e : Event Op.Ans} (h : statusAnswer e = none) :
    response (log ++ [e]) = response log := by
  simp [response, List.filterMap_append, h]

/-- The calls that do not ask about the transaction. -/
def NoStatus : Op → Prop
  | .lib (.getTxStatusByExternalId _) => False
  | _ => True

theorem statusAnswer_none {c : Op} (h : NoStatus c) (r : c.Ans) : statusAnswer ⟨c, r⟩ = none := by
  unfold statusAnswer
  split
  next he =>
    cases he
    exact h.elim
  next => rfl

/-- The messages of the response. -/
def signedMessages (log : Log) : Option (List SignedMessage) := (response log).bind FbTxInfo.signedMessages

/-! ## The entries -/

/-- An entry of the result: the DER form of a message about the hash, for the index and the key of the input. -/
def SignedBy (hash : String) (items : List SignedMessage) (data : SigningIndex) (sig : InputSignature) : Prop :=
  sig.inputIndex = data.inputIndex ∧ sig.addressIndex = data.addressIndex ∧ sig.pubkey = data.pubkey ∧
    ∃ m ∈ items, m.content = hash ∧ m.derivationPath[4]? = some data.addressIndex ∧
      m.publicKey = Buffer.toHex data.pubkey ∧ fireblocksSignatureToDER m.signature = .ok sig.signature

/-- One entry for each unsigned input of the wallet, in order, each from a message of the response. -/
def Signs (st : Storage) (tx : Transaction) (log : Log) (sigs : List InputSignature) : Prop :=
  ∃ items, signedMessages log = some items ∧
    List.Forall₂ (SignedBy (Buffer.toHex tx.dataToSignHash) items) (st.owned tx) sigs

/-- The entry of the table for an index comes from a message. -/
def FromMessage (hash : String) (items : List SignedMessage) (index : Option Nat) (entry : SignedEntry) : Prop :=
  ∃ m ∈ items, m.content = hash ∧ m.derivationPath[4]? = index ∧ m.publicKey = entry.publicKey ∧
    fireblocksSignatureToDER m.signature = .ok entry.signature

theorem addSignedMessage_from {id hash : String} {items : List SignedMessage} {item : SignedMessage}
    {table table' : Js.Map (Option Nat) SignedEntry} (hitem : item ∈ items)
    (htable : ∀ index entry, table.get index = some entry → FromMessage hash items index entry)
    (h : addSignedMessage id hash table item = .ok table') (index : Option Nat) (entry : SignedEntry)
    (hget : table'.get index = some entry) : FromMessage hash items index entry := by
  unfold addSignedMessage at h
  split at h
  next => cases h
  next hcontent =>
    split at h
    next =>
      cases h
      exact htable index entry hget
    next =>
      cases hder : fireblocksSignatureToDER item.signature with
      | error e =>
          rw [hder] at h
          cases h
      | ok der =>
          rw [hder] at h
          cases h
          rw [Js.Map.get_set] at hget
          split at hget
          next hi =>
            cases hget
            exact ⟨item, hitem, not_not.mp hcontent, hi.symm, rfl, hder⟩
          next => exact htable index entry hget

theorem foldlM_from {id hash : String} {items rest : List SignedMessage}
    {table table' : Js.Map (Option Nat) SignedEntry} (hrest : rest ⊆ items)
    (htable : ∀ index entry, table.get index = some entry → FromMessage hash items index entry)
    (h : rest.foldlM (addSignedMessage id hash) table = .ok table') (index : Option Nat) (entry : SignedEntry)
    (hget : table'.get index = some entry) : FromMessage hash items index entry := by
  induction rest generalizing table with
  | nil =>
      cases h
      exact htable index entry hget
  | cons item rest ih =>
      rw [List.foldlM_cons] at h
      cases hadd : addSignedMessage id hash table item with
      | error e =>
          rw [hadd] at h
          cases h
      | ok table₁ =>
          rw [hadd] at h
          have hitem : item ∈ items := hrest (by simp)
          exact ih (fun m hm => hrest (by simp [hm])) (addSignedMessage_from hitem htable hadd) h

/-- Every entry of the table comes from a message of the response. -/
theorem signedMessagesObj_from {id hash : String} {items : List SignedMessage}
    {table : Js.Map (Option Nat) SignedEntry} (h : signedMessagesObj id hash items = .ok table)
    {index : Option Nat} {entry : SignedEntry} (hget : table.get index = some entry) :
    FromMessage hash items index entry :=
  foldlM_from (fun _ hm => hm) (fun _ _ hnone => by cases hnone) h index entry hget

theorem inputSignature_signedBy {id hash : String} {items : List SignedMessage}
    {table : Js.Map (Option Nat) SignedEntry} (htable : signedMessagesObj id hash items = .ok table)
    {data : SigningIndex} {sig : InputSignature} (h : inputSignature id hash table data = .ok sig) :
    SignedBy hash items data sig := by
  unfold inputSignature at h
  split at h
  next => cases h
  next entry hget =>
    split at h
    next => cases h
    next hkey =>
      cases h
      obtain ⟨m, hm, hcontent, hindex, hpublic, hder⟩ := signedMessagesObj_from htable hget
      exact ⟨rfl, rfl, rfl, m, hm, hcontent, hindex, hpublic.trans (not_not.mp hkey), hder⟩

/-- The outcomes of a `mapM`, one for each element. -/
theorem forall₂_of_mapM {α β ε : Type} {f : α → Except ε β} {xs : List α} {ys : List β}
    (h : xs.mapM f = .ok ys) : List.Forall₂ (fun x y => f x = .ok y) xs ys := by
  induction xs generalizing ys with
  | nil =>
      cases h
      exact .nil
  | cons x xs ih =>
      rw [List.mapM_cons] at h
      cases hx : f x with
      | error e =>
          rw [hx] at h
          cases h
      | ok y =>
          rw [hx] at h
          cases hxs : xs.mapM f with
          | error e =>
              simp only [hxs] at h
              cases h
          | ok rest =>
              simp only [hxs] at h
              cases h
              exact .cons hx (ih hxs)

/-! ## `getTxSignatures` -/

section
variable {st : Storage} {w : WalletRef} {α β : Type} {log : Log}

/-- The loop of `getTxSignatures` finds the unsigned inputs of the wallet. -/
theorem wp_ownInputs_tells (n : Nat) (inputs : List Input) (log : Log) :
    (historyOf st.Tells).wp (ownInputs w (fun (_ : Unit) inputIndex addressIndex pubkey =>
      pure ((⟨inputIndex, addressIndex, pubkey⟩ : SigningIndex), ())) n inputs ()) log
      (fun r _ => r.1 = st.ownedFrom n inputs) fun _ _ => True := by
  have hloop : (historyOf st.Tells).wp (ownInputs w (fun (_ : Unit) inputIndex addressIndex pubkey =>
      pure ((⟨inputIndex, addressIndex, pubkey⟩ : SigningIndex), ())) n inputs ()) log
      (fun r _ => List.Forall₂ Eq (st.ownedFrom n inputs) r.1 ∧ True) fun _ _ => True := by
    refine Storage.wp_ownInputs (I := fun (_ : Unit) (_ : Log) => True) ?_ ?_ ?_ ?_ n inputs trivial
    · exact fun _ _ _ _ _ => ⟨trivial, fun _ _ => trivial⟩
    · exact fun _ _ _ _ h => h
    · exact fun _ _ _ _ => trivial
    · exact fun _ _ _ _ => ⟨rfl, trivial⟩
  refine Protocol.wp_mono _ hloop (fun r _ h => ?_) fun _ _ h => h
  have heq := h.1
  rw [List.forall₂_eq_eq_eq] at heq
  exact heq.symm

/-- The poll ends with the answer it has read last. -/
theorem wp_pollTxStatus (txId : String) (n : Nat) (log : Log) :
    (historyOf st.Tells).wp (pollTxStatus txId n) log (fun info log => response log = some info)
      fun _ _ => True := by
  induction n generalizing log with
  | zero => trivial
  | succ n ih =>
      refine (Protocol.wp_bind ..).mpr ⟨trivial, fun _ _ => (Protocol.wp_bind ..).mpr ?_⟩
      refine wp_lib_history (fun info _ => ?_) fun _ => trivial
      exact (Protocol.wp_ite ..).mpr ⟨fun _ => response_snoc_some rfl, fun _ => ih _⟩

/-- What asks nothing about the transaction keeps the response. -/
theorem wp_noStatus {p : Async α} (hp : p.Uses NoStatus) {r : Option FbTxInfo} (hr : response log = r) :
    (historyOf st.Tells).wp p log (fun _ log => response log = r) fun _ log => response log = r :=
  hp.wp_inv (I := fun log => response log = r) (fun _ c hc h => ⟨trivial, fun a => by
    show response (_ ++ [⟨c, a⟩]) = r
    rw [response_snoc_none (statusAnswer_none hc a)]
    exact h⟩) hr

theorem lib_noStatus {c : LibCall} (hc : NoStatus (.lib c)) : (lib c).Uses NoStatus :=
  (Prog.uses_ask (c := Op.lib c) hc).attempt

theorem ncCallerSignature_noStatus (tx : Transaction) (id : String) (table : Js.Map (Option Nat) SignedEntry)
    (index : Option Nat) : (ncCallerSignature w tx id table index).Uses NoStatus := by
  unfold ncCallerSignature
  dsimp only
  split
  · exact uses_pure _
  · split
    · exact uses_throwThe _
    · refine uses_bind (lib_noStatus trivial) fun pubkeyHex => uses_ite (uses_throwThe _) (uses_ite ?_ ?_)
      · exact uses_bind (Prog.uses_orThrow _ _) fun signature => uses_map (lib_noStatus trivial)
      · exact uses_map (Prog.uses_orThrow _ _)

theorem wp_getTxSignatures (tx : Transaction) :
    (historyOf st.Tells).wp (getTxSignatures tx w) [] (fun data log => Signs st tx log data.inputSignatures)
      fun _ _ => True := by
  refine (Protocol.wp_bind ..).mpr ((Protocol.wp_bind ..).mpr ?_)
  refine Protocol.wp_mono _ (wp_ownInputs_tells 0 tx.inputs []) (fun signing log hsigning => ?_) fun _ _ _ => trivial
  have hcaller : (callerIndex tx w).Uses fun _ => True := (callerIndex_uses tx w).mono fun _ _ => trivial
  refine (Protocol.wp_bind ..).mpr (Protocol.wp_mono _ (hcaller.wp_inv (I := fun _ => True)
    (fun _ _ _ _ => ⟨trivial, fun _ => trivial⟩) trivial) (fun index log _ => ?_) fun _ _ _ => trivial)
  have hpost : (lib (.postRawTransaction tx.dataToSignHash
      (signing.1.map SigningIndex.addressIndex ++ (truthyIndex index).toList))).Uses fun _ => True :=
    (lib_quiet _).mono fun _ _ => trivial
  have hsend : (historyOf st.Tells).wp (sendRawTransaction tx.dataToSignHash
      (signing.1.map SigningIndex.addressIndex ++ (truthyIndex index).toList)) log
      (fun info log => response log = some info) fun _ _ => True := by
    refine (Protocol.wp_bind ..).mpr (Protocol.wp_mono _ ((uses_tryCatch hpost fun _ =>
      uses_ite (uses_pure ()) (uses_throwThe _)).wp_inv (I := fun _ => True)
        (fun _ _ _ _ => ⟨trivial, fun _ => trivial⟩) trivial) (fun _ log _ => ?_) fun _ _ _ => trivial)
    exact wp_pollTxStatus _ _ log
  refine (Protocol.wp_bind ..).mpr (wp_await_history (Protocol.wp_mono _ hsend (fun info log hinfo => ?_)
    fun _ _ _ => trivial))
  have hresponse : response (log ++ [⟨.tick, ()⟩]) = some info := by
    rw [response_snoc_none rfl]
    exact hinfo
  cases hitems : info.signedMessages with
  | none => trivial
  | some items =>
      refine (Protocol.wp_bind ..).mpr ((Protocol.wp_orThrow ..).mpr ⟨fun table htable => ?_, fun _ _ => trivial⟩)
      refine (Protocol.wp_bind ..).mpr ((Protocol.wp_orThrow ..).mpr ⟨fun sigs hsigs => ?_, fun _ _ => trivial⟩)
      refine (Protocol.wp_bind ..).mpr (Protocol.wp_mono _ (wp_noStatus
        (ncCallerSignature_noStatus tx _ table index) hresponse) (fun _ log hlog => ?_) fun _ _ _ => trivial)
      refine ⟨items, by rw [signedMessages, hlog]; exact hitems, ?_⟩
      have hall := forall₂_of_mapM hsigs
      rw [hsigning] at hall
      exact hall.imp fun _ _ h => inputSignature_signedBy htable h

end

/-- Whatever the storage and Fireblocks answer, `getTxSignatures` returns one entry for each unsigned input
of the wallet, made of a message of the response, and throws where there are no such entries. -/
theorem getTxSignatures_signs (st : Storage) (tx : Transaction) (w : WalletRef)
    (answers : Nat → (c : Op) → c.Ans) (hst : ∀ n c, st.Tells c (answers n c)) :
    (∀ data, ((getTxSignatures tx w).run answers).2 = .ok data →
      Signs st tx ((getTxSignatures tx w).run answers).1 data.inputSignatures) ∧
    ((¬ ∃ sigs, Signs st tx ((getTxSignatures tx w).run answers).1 sigs) →
      ∃ e, ((getTxSignatures tx w).run answers).2 = .error e) := by
  have htold : ∀ e ∈ ((getTxSignatures tx w).run answers).1, st.Tells e.1 e.2 := by
    intro e he
    obtain ⟨n, hn⟩ := Prog.of_mem_run he
    rw [hn]
    exact hst n e.1
  have hwp := (historyOf st.Tells).wp_steps ((getTxSignatures tx w).steps_run answers) (wp_getTxSignatures tx)
    (history_told htold [])
  rw [history_after] at hwp
  have hret : ∀ data, ((getTxSignatures tx w).run answers).2 = .ok data →
      Signs st tx ((getTxSignatures tx w).run answers).1 data.inputSignatures := by
    intro data hdata
    rw [hdata] at hwp
    exact hwp
  refine ⟨hret, fun hno => ?_⟩
  cases hr : ((getTxSignatures tx w).run answers).2 with
  | ok data => exact absurd ⟨_, hret data hr⟩ hno
  | error e => exact ⟨e, rfl⟩

/-- Three inputs, the second of them signed; the others spend outputs of the address with index `3`. -/
def sharedTx : Transaction :=
  { hash := "tx", dataToSignHash := [0xab],
    inputs := [{ hash := "a", index := 0 }, { hash := "b", index := 0, data := some [1] }, { hash := "c", index := 0 }] }

def sharedStorage : Storage where
  spentTx _ := some ⟨[some "address"]⟩
  addressIndex _ := some 3
  pubkey _ := "02"

/-- A message for the index `9`, and two for the index `3`. -/
def sharedInfo : FbTxInfo :=
  ⟨"id", "COMPLETED", some [⟨"ab", [44, 280, 0, 0, 9], ⟨some "01", some "02"⟩, "03"⟩,
    ⟨"ab", [44, 280, 0, 0, 3], ⟨some wideHex, some wideHex⟩, "02"⟩,
    ⟨"ab", [44, 280, 0, 0, 3], ⟨some "01", some "02"⟩, "02"⟩]⟩

def sharedLib : (c : LibCall) → Except JsError c.Result
  | .getSpentTx _ input => .ok (sharedStorage.spentTx input)
  | .getAddressInfo _ address => .ok (sharedStorage.addressIndex address)
  | .getAddressPubkey _ index => .ok (sharedStorage.pubkey index)
  | .getTxStatusByExternalId _ => .ok sharedInfo
  | c => .ok (c.granted sharedTx)

def sharedEnv : (c : Op) → c.Ans
  | .lib c => sharedLib c
  | c => c.granted sharedTx

theorem sharedEnv_tells (c : Op) : sharedStorage.Tells c (sharedEnv c) := by
  unfold Storage.Tells
  split <;> simp_all [sharedEnv, sharedLib]

theorem shared_signed :
    ∃ data, ((getTxSignatures sharedTx 0).run fun _ => sharedEnv).2 = .ok data ∧
      data.inputSignatures.map InputSignature.inputIndex = [0, 2] ∧
      Signs sharedStorage sharedTx ((getTxSignatures sharedTx 0).run fun _ => sharedEnv).1 data.inputSignatures := by
  have hsigns := (getTxSignatures_signs sharedStorage sharedTx 0 (fun _ => sharedEnv)
    fun _ c => sharedEnv_tells c).1
  exact ⟨_, rfl, rfl, hsigns _ rfl⟩

end WalletHeadless
