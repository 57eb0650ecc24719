import WalletHeadless.Hsm.KeyStore
import WalletHeadless.Services.Storage

/-!
# The signatures that an HSM session gives

* `Callers`: what `wallet-lib` says of the caller of a transaction;
* `Hsm.addressKey`: the key of an address index; `addressKey_eq`: on an HSM with the keys of some root keys;
* `Hsm.Session`: the keys that the HSM has in the course of a session;
* `wp_getSignature`: the signature of an address key, whatever names the session holds;
* `SignedInput`, `Calls`: what is asked of the signatures;
* `wp_signTx`, `signTx_signs`.
-/

namespace WalletHeadless

open Coop Js Keys

theorem keyName_level {root : String} {l l' : KeyLevel} (h : keyName root l = keyName root l') : l = l' := by
  have happend : root.toList ++ l.suffix = root.toList ++ l'.suffix := by
    rw [← toList_keyName, ← toList_keyName, h]
  exact KeyLevel.suffix_injective (List.append_cancel_left happend)

/-- What `wallet-lib` finds in a transaction: the address of the caller of a nano contract, and that of a public key. -/
structure Callers where
  nanoContractCaller : Transaction → String
  addressOfPubkey : String → String

namespace Callers

def Tells (callers : Callers) : (c : Op) → c.Ans → Prop
  | .lib (.getNanoContractCaller tx), .ok address => address = callers.nanoContractCaller tx
  | .lib (.getAddressFromPubkey pubkey), .ok address => address = callers.addressOfPubkey pubkey
  | _, _ => True

/-- The address that calls the nano contract or creates the blueprint. -/
def caller (callers : Callers) (tx : Transaction) : Option String :=
  if tx.version = ON_CHAIN_BLUEPRINTS_VERSION then some (callers.addressOfPubkey (Buffer.toHex tx.pubkey))
  else if tx.isNanoContract then some (callers.nanoContractCaller tx)
  else none

end Callers

namespace Hsm

variable {Key : Type} {H : Hsm Key} {s : Store String Key} {root : String}

/-- The key of an address index on an HSM: the one that has been derived before, or the child of the change key. -/
def addressKey (H : Hsm Key) (s : Store String Key) (root : String) (index : Nat) : Option Key :=
  match s (keyName root (.address index)) with
  | some e => some e.key
  | none => (s (keyName root .change)).map fun e => H.child e.key index

/-- With the keys of root keys none of which is named as a key below another, this is the key at the end of its path. -/
theorem addressKey_eq {roots : Set String} (hroots : RootsApart roots) (hroot : root ∈ roots)
    (hs : s.Respects (H.Meant roots)) {index : Nat} (hindex : index < 0x80000000) {key : Key}
    (h : H.addressKey s root index = some key) : key = H.keyAt root (.address index) := by
  have hvalid : (KeyLevel.address index).Valid := hindex
  unfold addressKey at h
  split at h
  next e he =>
    cases h
    exact (meant_keyName hroots hroot hvalid (by rintro ⟨⟩)).mp (hs _ e he)
  next =>
    obtain ⟨e, he, rfl⟩ := Option.map_eq_some_iff.mp h
    rw [(meant_keyName hroots hroot (by decide) (by rintro ⟨⟩)).mp (hs _ e he), keyAt_address]

/-- The keys that the HSM has in the course of a session that starts with the keys `s₀`. -/
structure Session (H : Hsm Key) (s₀ : Store String Key) (root : String) (s : Store String Key) : Prop where
  change : s (keyName root .change) = s₀ (keyName root .change)
  address : ∀ index e, s (keyName root (.address index)) = some e → H.addressKey s₀ root index = some e.key
  grows : ∀ index, s (keyName root (.address index)) = none → s₀ (keyName root (.address index)) = none

theorem session_start (H : Hsm Key) (s₀ : Store String Key) (root : String) : H.Session s₀ root s₀ := by
  refine ⟨rfl, fun index e he => ?_, fun _ h => h⟩
  rw [addressKey, he]

variable {s₀ : Store String Key}

theorem Session.derive (h : H.Session s₀ root s) {index : Nat} {e : Entry Key}
    (hfree : s (keyName root (.address index)) = none) (he : s (keyName root .change) = some e) :
    H.Session s₀ root (Function.update s (keyName root (.address index)) (some ⟨H.child e.key index, true⟩)) := by
  refine ⟨?_, fun i e' he' => ?_, fun i hnone => ?_⟩
  · rw [Function.update_of_ne fun heq => absurd (keyName_level heq) (by rintro ⟨⟩)]
    exact h.change
  · by_cases hi : keyName root (.address i) = keyName root (.address index)
    · cases keyName_level hi
      rw [Function.update_self] at he'
      cases he'
      rw [addressKey, h.grows index hfree, ← h.change, he]
      rfl
    · rw [Function.update_of_ne hi] at he'
      exact h.address i e' he'
  · by_cases hi : keyName root (.address i) = keyName root (.address index)
    · rw [hi, Function.update_self] at hnone
      cases hnone
    · rw [Function.update_of_ne hi] at hnone
      exact h.grows i hnone

/-! ## One signature -/

/-- A DER signature is left as it is, and without the parity byte before it. -/
theorem withoutParity_der {key : Key} {hash der signature : Buffer} (hder : H.Signs key hash der)
    (h : signature = der ∨ ∃ v, v ≠ 0x30 ∧ signature = v :: der) : HsmSession.withoutParity signature = der := by
  rcases h with rfl | ⟨v, hv, rfl⟩
  · exact if_neg (not_not.mpr (H.der key hash _ hder))
  · refine if_pos ?_
    simpa using hv

/-- The signature of an address key, whatever names the session holds. -/
theorem wp_getSignature {keys : Js.Map Nat String} (hkeys : Named root keys) (hash : Buffer) (index : Nat)
    (hs : H.Session s₀ root s) :
    (H.keeping (H.Session s₀ root)).wp (HsmSession.getSignature root keys hash index) s
      (fun res s' => (∃ key, H.addressKey s₀ root index = some key ∧ H.Signs key hash res.1) ∧ Named root res.2 ∧
        H.Session s₀ root s')
      fun _ => H.Session s₀ root := by
  refine (Protocol.wp_bind ..).mpr (wp_await (Protocol.wp_mono _
    (wp_getAddressKeyName hkeys index (fun s e hs hfree he => hs.derive hfree he) hs) (fun res s' h => ⟨h.2, ?_⟩)
    fun _ _ h => ⟨h, h⟩))
  obtain ⟨⟨hname, hkeys'⟩, hs'⟩ := h
  refine (Protocol.wp_bind ..).mpr ((Protocol.wp_attempt ..).mpr ⟨hs', fun r hr => ⟨fun signature ha => ?_, fun _ _ => ?_⟩⟩)
  · subst ha
    obtain ⟨e, he, der, hder, hsignature⟩ : ∃ e, s' res.1 = some e ∧ ∃ der, H.Signs e.key hash der ∧
      (signature = der ∨ ∃ v, v ≠ 0x30 ∧ signature = v :: der) := hr
    rw [hname] at he
    refine ⟨⟨e.key, hs'.address index e he, ?_⟩, hkeys', hs'⟩
    show H.Signs _ _ (HsmSession.withoutParity signature)
    rw [withoutParity_der hder hsignature]
    exact hder
  · exact hs'

/-! ## `signTx` -/

/-- An entry for an unsigned input of the wallet: its address index and public key, and a signature of the key of that
index. -/
structure SignedInput (H : Hsm Key) (s₀ : Store String Key) (root : String) (tx : Transaction) (d : SigningIndex)
    (sig : InputSignature) :
    Prop where
  inputIndex : sig.inputIndex = d.inputIndex
  addressIndex : sig.addressIndex = d.addressIndex
  pubkey : sig.pubkey = d.pubkey
  signature : ∃ key, H.addressKey s₀ root d.addressIndex = some key ∧ H.Signs key tx.dataToSignHash sig.signature

/-- The wallet is the caller of the transaction. -/
def Calls (st : Storage) (callers : Callers) (tx : Transaction) : Prop :=
  ∃ address, callers.caller tx = some address ∧ (st.addressIndex address).isSome

/-- The calls of a session, with the storage of a wallet and what `wallet-lib` says of callers. -/
def session (H : Hsm Key) (s₀ : Store String Key) (st : Storage) (callers : Callers) (root : String) :
    Protocol Op.Ans (Store String Key) :=
  (H.keeping (H.Session s₀ root)).restrict fun c r => st.Tells c r ∧ callers.Tells c r

section
variable {st : Storage} {callers : Callers} {α : Type}

theorem wp_session_lib {c : LibCall} (hc : Underived (.lib c)) (hs : H.Session s₀ root s)
    {post : c.Result → Store String Key → Prop}
    (hpost : ∀ a, st.Tells (.lib c) (.ok a) → callers.Tells (.lib c) (.ok a) → post a s) :
    (H.session s₀ st callers root).wp (lib c) s post fun _ => H.Session s₀ root := by
  refine (Protocol.wp_attempt ..).mpr ⟨hs, fun r hr => ?_⟩
  have hsame : (H.session s₀ st callers root).next s (.lib c) r = s := next_of_underived hc r
  refine ⟨fun a ha => ?_, fun _ _ => ?_⟩
  · subst ha
    show post a ((H.session s₀ st callers root).next s (.lib c) (.ok a))
    rw [hsame]
    exact hpost a hr.2.1 hr.2.2
  · show H.Session s₀ root ((H.session s₀ st callers root).next s (.lib c) r)
    rwa [hsame]

/-- The index of the caller, if it is an address of the wallet. -/
theorem wp_callerIndex (tx : Transaction) (w : WalletRef) (hs : H.Session s₀ root s) :
    (H.session s₀ st callers root).wp (callerIndex tx w) s
      (fun index s' => s' = s ∧ index = (callers.caller tx).bind st.addressIndex)
      fun _ => H.Session s₀ root := by
  have hnano : (H.session s₀ st callers root).wp
      (if tx.isNanoContract then some <$> getNanoContractCaller tx else pure none) s
      (fun address s' => s' = s ∧ address = if tx.isNanoContract then some (callers.nanoContractCaller tx) else none)
      fun _ => H.Session s₀ root := by
    refine (Protocol.wp_ite ..).mpr ⟨fun h => ?_, fun h => ⟨rfl, (if_neg h).symm⟩⟩
    refine (Protocol.wp_map ..).mpr (wp_session_lib (c := .getNanoContractCaller tx) trivial hs
      fun address _ haddress => ⟨rfl, ?_⟩)
    rw [if_pos h]
    exact congrArg some haddress
  have haddress : (H.session s₀ st callers root).wp (callerAddress tx) s
      (fun address s' => s' = s ∧ address = callers.caller tx) fun _ => H.Session s₀ root := by
    refine (Protocol.wp_bind ..).mpr (Protocol.wp_mono _ hnano (fun address s' h => ?_) fun _ _ h => h)
    obtain ⟨rfl, rfl⟩ := h
    refine (Protocol.wp_ite ..).mpr ⟨fun h => ?_, fun h => ⟨rfl, (if_neg h).symm⟩⟩
    refine (Protocol.wp_map ..).mpr (wp_session_lib (c := .getAddressFromPubkey _) trivial hs
      fun address _ haddress => ⟨rfl, ?_⟩)
    rw [Callers.caller, if_pos h]
    exact congrArg some haddress
  refine (Protocol.wp_bind ..).mpr (Protocol.wp_mono _ haddress (fun address s' h => ?_) fun _ _ h => h)
  obtain ⟨rfl, rfl⟩ := h
  cases callers.caller tx with
  | none => exact ⟨rfl, rfl⟩
  | some address => exact wp_session_lib (c := .getAddressInfo w address) trivial hs fun index hindex _ => ⟨rfl, hindex⟩

theorem wp_signTx {keys : Js.Map Nat String} (hkeys : Named root keys) (tx : Transaction) (w : WalletRef)
    (hs : H.Session s₀ root s) :
    (H.session s₀ st callers root).wp (HsmSession.signTx root keys tx w) s
      (fun res _ => List.Forall₂ (H.SignedInput s₀ root tx) (st.owned tx) res.1.inputSignatures ∧
        (res.1.ncCallerSignature.isSome ↔ Calls st callers tx) ∧ Named root res.2)
      fun _ => H.Session s₀ root := by
  have hsignature {keys : Js.Map Nat String} (hkeys : Named root keys) (index : Nat) (s : Store String Key)
      (hs : H.Session s₀ root s) :
      (H.session s₀ st callers root).wp (await (HsmSession.getSignature root keys tx.dataToSignHash index)) s
        (fun res s' => (∃ key, H.addressKey s₀ root index = some key ∧ H.Signs key tx.dataToSignHash res.1) ∧ Named root res.2 ∧
          H.Session s₀ root s')
        fun _ => H.Session s₀ root :=
    Protocol.wp_restrict _ (wp_await (Protocol.wp_mono _ (wp_getSignature hkeys tx.dataToSignHash index hs)
      (fun _ _ h => ⟨h.2.2, h⟩) fun _ _ h => ⟨h, h⟩))
  have hinputs : (H.session s₀ st callers root).wp (ownInputs w (fun keys inputIndex addressIndex pubkey => do
        let signed ← await (HsmSession.getSignature root keys tx.dataToSignHash addressIndex)
        return ((⟨inputIndex, addressIndex, signed.1, pubkey⟩ : InputSignature), signed.2)) 0 tx.inputs keys) s
      (fun res s' => List.Forall₂ (H.SignedInput s₀ root tx) (st.ownedFrom 0 tx.inputs) res.1 ∧
        Named root res.2 ∧ H.Session s₀ root s')
      fun _ => H.Session s₀ root := by
    refine Storage.wp_ownInputs (I := fun keys s => Named root keys ∧ H.Session s₀ root s) ?_ ?_ ?_ ?_ 0
      tx.inputs ⟨hkeys, hs⟩
    · intro c hc keys s h
      have hread : Underived (.lib c) := by cases c <;> trivial
      refine ⟨h.2, fun r _ => ?_⟩
      show Named root keys ∧ H.Session s₀ root (H.next s (.lib c) r)
      rwa [next_of_underived hread]
    · exact fun _ _ _ _ h => h.2.1
    · exact fun _ _ _ h => h.2
    · intro keys d s h
      refine (Protocol.wp_bind ..).mpr (Protocol.wp_mono _ (hsignature h.1 d.addressIndex s h.2) (fun res s' h' => ?_)
        fun _ _ h => h)
      exact ⟨⟨rfl, rfl, rfl, h'.1⟩, h'.2⟩
  refine (Protocol.wp_bind ..).mpr (Protocol.wp_mono _ hinputs (fun signed s' h' => ?_) fun _ _ h => h)
  obtain ⟨hsigned, hkeys', hs'⟩ := h'
  refine (Protocol.wp_bind ..).mpr (Protocol.wp_mono _ (wp_callerIndex tx w hs') (fun index s'' h' => ?_) fun _ _ h => h)
  obtain ⟨rfl, hindex⟩ := h'
  cases index with
  | none =>
      refine ⟨hsigned, iff_of_false (by rintro ⟨⟩) ?_, hkeys'⟩
      rintro ⟨address, haddress, hsome⟩
      rw [haddress, Option.bind_some] at hindex
      rw [← hindex] at hsome
      cases hsome
  | some index =>
      have hcalls : Calls st callers tx := by
        obtain ⟨address, haddress, hsome⟩ := Option.bind_eq_some_iff.mp hindex.symm
        exact ⟨address, haddress, by rw [hsome]; rfl⟩
      refine (Protocol.wp_bind ..).mpr (Protocol.wp_mono _ (hsignature hkeys' index _ hs') (fun res s₃ h₃ => ?_)
        fun _ _ h => h)
      obtain ⟨-, hkeys₃, hs₃⟩ := h₃
      refine (Protocol.wp_ite ..).mpr ⟨fun _ => ?_, fun _ => ⟨hsigned, iff_of_true rfl hcalls, hkeys₃⟩⟩
      refine (Protocol.wp_bind ..).mpr (wp_session_lib (c := .getAddressPubkey w index) trivial hs₃ fun _ _ _ => ?_)
      exact (Protocol.wp_bind ..).mpr (wp_session_lib (c := .createInputData _ _) trivial hs₃
        fun _ _ _ => ⟨hsigned, iff_of_true rfl hcalls, hkeys₃⟩)

end

end Hsm

/-- If `signTx` returns, there is one signature of the hash for each unsigned input of the wallet, in order and by the key of its
address index, and one for the caller exactly when the wallet is the caller. On an HSM with the keys of root keys none of which
is named as a key below another, the key of an address index is the one that is derived at it. -/
theorem signTx_signs {Key : Type} (H : Hsm Key) (s : Store String Key) (root : String) {keys keys' : Js.Map Nat String}
    (hkeys : Named root keys) (st : Storage) (callers : Callers) (tx : Transaction) (w : WalletRef) {log : Log}
    {data : SignatureData} (hrun : Steps (HsmSession.signTx root keys tx w) log (.ret (data, keys')))
    (htold : H.Told s log) (hst : ∀ e ∈ log, st.Tells e.1 e.2 ∧ callers.Tells e.1 e.2) :
    List.Forall₂ (H.SignedInput s root tx) (st.owned tx) data.inputSignatures ∧
      (data.ncCallerSignature.isSome ↔ Hsm.Calls st callers tx) ∧
      ∀ roots : Set String, RootsApart roots → root ∈ roots → s.Respects (H.Meant roots) → ∀ index < 0x80000000, ∀ key,
        H.addressKey s root index = some key → key = H.keyAt root (.address index) := by
  have htold : (H.session s st callers root).Told s log :=
    Protocol.restrict_told _ ((H.keeping_told _).mpr htold) hst
  obtain ⟨hsigned, hcaller, -⟩ := Protocol.wp_steps _ hrun (Hsm.wp_signTx hkeys tx w (H.session_start s root)) htold
  exact ⟨hsigned, hcaller, fun roots hroots hroot hs index hindex key h => Hsm.addressKey_eq hroots hroot hs hindex h⟩

/-! A nano contract of the wallet with three inputs, the second of them signed; the others share an address. -/

def nanoTx : Transaction where
  hash := "tx"
  dataToSignHash := [0xab]
  isNanoContract := true
  inputs := [{ hash := "a", index := 0 }, { hash := "b", index := 0, data := some [1] }, { hash := "c", index := 0 }]

def thirdAddress : Storage where
  spentTx _ := some ⟨[some "address"]⟩
  addressIndex _ := some 3
  pubkey _ := "02"

def oneCaller : Callers where
  nanoContractCaller _ := "caller"
  addressOfPubkey _ := ""

/-- The change key of one root key. -/
def changeKey : Store String (String × List Nat) := fun name =>
  if name = "first_htrChange0" then some ⟨pathHsm.keyAt "first" .change, false⟩ else none

theorem changeKey_respects : changeKey.Respects (pathHsm.Meant {"first", "second"}) := by
  intro name e he
  unfold changeKey at he
  split at he
  next hname =>
    cases he
    exact .inr (.inr ⟨"first", .inl rfl, .change, by decide, hname.trans (by decide), rfl⟩)
  next => cases he

/-- The answers of an HSM that puts a parity byte before its signatures. -/
def signing : (c : Op) → c.Ans
  | .registry .getConfig => .ok { network := "mainnet" }
  | .lib (.getSpentTx _ input) => .ok (thirdAddress.spentTx input)
  | .lib (.getAddressInfo _ address) => .ok (thirdAddress.addressIndex address)
  | .lib (.getAddressPubkey _ index) => .ok (thirdAddress.pubkey index)
  | .lib (.getNanoContractCaller tx) => .ok (oneCaller.nanoContractCaller tx)
  | .lib (.sign hash _) => .ok (1 :: 0x30 :: 3 :: hash)
  | c => c.granted { hash := "", inputs := [] }

theorem signing_tells (c : Op) : thirdAddress.Tells c (signing c) ∧ oneCaller.Tells c (signing c) := by
  cases c with
  | lib c => cases c <;> first | exact ⟨trivial, trivial⟩ | exact ⟨rfl, trivial⟩ | exact ⟨trivial, rfl⟩
  | _ => exact ⟨trivial, trivial⟩

def nanoRun : Log × Except JsError (SignatureData × Js.Map Nat String) :=
  (HsmSession.signTx "first" .empty nanoTx 0).run fun _ => signing

def nanoSigned : SignatureData where
  inputSignatures := [⟨0, 3, [0x30, 3, 0xab], [2]⟩, ⟨2, 3, [0x30, 3, 0xab], [2]⟩]
  ncCallerSignature := some [0x30, 3, 0xab, 2]

theorem nanoRun_signs :
    List.Forall₂ (pathHsm.SignedInput changeKey "first" nanoTx) (thirdAddress.owned nanoTx) nanoSigned.inputSignatures ∧
      (nanoSigned.ncCallerSignature.isSome ↔ Hsm.Calls thirdAddress oneCaller nanoTx) ∧
      ∃ key, pathHsm.addressKey changeKey "first" 3 = some key ∧ key = pathHsm.keyAt "first" (.address 3) := by
  have hout : nanoRun.2 = .ok (nanoSigned, Js.Map.empty.set 3 "first_HAddr_3") := by decide +kernel
  have hrun := Prog.steps_run (HsmSession.signTx "first" .empty nanoTx 0) fun _ => signing
  have htold : pathHsm.Told changeKey nanoRun.1 := by
    refine ⟨trivial, trivial, trivial, trivial, rfl, trivial, ?_, trivial, trivial, trivial, trivial, trivial, trivial, ?_,
      trivial, trivial, trivial, trivial, ?_, trivial, trivial, trivial, trivial⟩
    all_goals exact ⟨_, rfl, _, rfl, .inr ⟨1, by decide, rfl⟩⟩
  have hst : ∀ e ∈ nanoRun.1, thirdAddress.Tells e.1 e.2 ∧ oneCaller.Tells e.1 e.2 := by
    intro e he
    obtain ⟨_, hanswer⟩ := Prog.of_mem_run he
    rw [hanswer]
    exact signing_tells e.1
  have hrun : Steps (HsmSession.signTx "first" .empty nanoTx 0) nanoRun.1
      (.ret (nanoSigned, Js.Map.empty.set 3 "first_HAddr_3")) := by
    rw [show (.ret (nanoSigned, Js.Map.empty.set 3 "first_HAddr_3") : Async (SignatureData × Js.Map Nat String)) =
      Prog.orThrow nanoRun.2 by rw [hout]; rfl]
    exact hrun
  obtain ⟨hsigned, hcaller, hkey⟩ := signTx_signs pathHsm changeKey "first" (fun _ _ h => by cases h) thirdAddress
    oneCaller nanoTx 0 hrun htold hst
  exact ⟨hsigned, hcaller, _, rfl, hkey _ otherRoots_apart (.inl rfl) changeKey_respects 3 (by decide) _ rfl⟩

end WalletHeadless
