import WalletHeadless.Hsm.Names
import WalletHeadless.Keys.Store
import WalletHeadless.Services.Asks

/-!
# The HSM as a store of keys

* `Hsm`: what an HSM does with keys; `Hsm.keyAt`: the key at a level below a root key;
* `Hsm.keeping`: a program that derives keys and signs with them, and what it finds kept at each call;
* `wp_createBip32ChildKeyDerivation`: one derivation;
* `wp_getAddressKeyName`: the name of an address key;
* `names_apart_iff`: names of at most 32 characters, no two keys with one name, and no address key mistaken for another,
  exactly when no root key is named as a key below another.
-/

namespace WalletHeadless

open Coop Js Keys

/-- An HSM with keys of the type `Key`. -/
structure Hsm (Key : Type) where
  child : Key → Nat → Key
  rootKey : String → Key
  /-- `Signs key hash der`: a DER signature of the key. -/
  Signs : Key → Buffer → Buffer → Prop
  /-- DER starts a sequence with `0x30`. -/
  der : ∀ key hash signature, Signs key hash signature → signature.head? = some 0x30
  /-- The errors of a derivation that has stored its key all the same. -/
  stored : JsError → Bool

namespace Hsm

variable {Key : Type}

/-- The key at a level below a root key. -/
def keyAt (H : Hsm Key) (root : String) (l : KeyLevel) : Key := descend H.child (H.rootKey root) l.path

theorem keyAt_address (H : Hsm Key) (root : String) (index : Nat) :
    H.keyAt root (.address index) = H.child (H.keyAt root .change) index := rfl

/-- The answers that an HSM with these keys can give: any call may fail. -/
def May (H : Hsm Key) (s : Store String Key) : (c : Op) → c.Ans → Prop
  | .lib (.getKeyInfo name), .ok _ => ∃ e, s name = some e
  | .lib (.createBip32ChildKeyDerivation _ i _ temporary parent name), .ok _ =>
    (s.derive H.child parent i temporary name).isSome
  | .lib (.createBip32ChildKeyDerivation _ _ _ _ _ name), .error e =>
    e.errorCode = some ERR_OBJ_ALREADY_EXISTS → ∃ e, s name = some e
  | .lib (.sign hash name), .ok signature =>
    -- with a parity byte before it, or without
    ∃ e, s name = some e ∧ ∃ der, H.Signs e.key hash der ∧ (signature = der ∨ ∃ v, v ≠ 0x30 ∧ signature = v :: der)
  | _, _ => True

/-- The keys after an answer. -/
def next (H : Hsm Key) (s : Store String Key) : (c : Op) → c.Ans → Store String Key
  | .lib (.createBip32ChildKeyDerivation _ i _ temporary parent name), .ok _ =>
    (s.derive H.child parent i temporary name).getD s
  | .lib (.createBip32ChildKeyDerivation _ i _ temporary parent name), .error e =>
    if H.stored e then (s.derive H.child parent i temporary name).getD s else s
  | _, _ => s

/-- A program on the HSM, which finds `inv` at each of its calls. -/
def keeping (H : Hsm Key) (inv : Store String Key → Prop) : Protocol Op.Ans (Store String Key) where
  allows s _ := inv s
  may := H.May
  next := H.next

/-- The answers of a trace are those of the HSM. -/
def Told (H : Hsm Key) (s : Store String Key) (t : Log) : Prop := (H.keeping fun _ => True).Told s t

/-- The keys after a trace. -/
def after (H : Hsm Key) (s : Store String Key) (t : Log) : Store String Key := (H.keeping fun _ => True).after s t

theorem keeping_after (H : Hsm Key) (inv : Store String Key → Prop) (s : Store String Key) (t : Log) :
    (H.keeping inv).after s t = H.after s t := by
  induction t generalizing s with
  | nil => rfl
  | cons e t ih => exact ih (H.next s e.1 e.2)

theorem keeping_told (H : Hsm Key) (inv : Store String Key → Prop) {s : Store String Key} {t : Log} :
    (H.keeping inv).Told s t ↔ H.Told s t := by
  induction t generalizing s with
  | nil => exact Iff.rfl
  | cons e t ih => exact and_congr_right fun _ => ih

/-- What `wp` says of a trace. -/
theorem wp_trace {H : Hsm Key} {inv : Store String Key → Prop} {α : Type} {p p' : Async α} {s : Store String Key}
    {t : Log} {post : α → Store String Key → Prop} {fail : JsError → Store String Key → Prop}
    (hp : (H.keeping inv).wp p s post fail) (ht : Steps p t p') (htold : H.Told s t) :
    (H.keeping inv).wp p' (H.after s t) post fail := by
  rw [← H.keeping_after inv]
  exact Protocol.wp_steps _ ht hp ((H.keeping_told inv).mpr htold)

/-- The calls that derive no key. -/
def Underived : Op → Prop
  | .lib (.createBip32ChildKeyDerivation ..) => False
  | _ => True

variable {H : Hsm Key} {inv : Store String Key → Prop} {s : Store String Key} {α : Type}

theorem next_of_underived {c : Op} (hc : Underived c) (r : c.Ans) : H.next s c r = s := by
  unfold next
  split
  · exact hc.elim
  · exact hc.elim
  · rfl

/-- What derives no key leaves the keys as they are. -/
theorem wp_underived {p : Async α} (hp : p.Uses Underived) (hs : inv s) {post : α → Store String Key → Prop}
    {fail : JsError → Store String Key → Prop} (hpost : ∀ a, post a s) (hfail : ∀ e, fail e s) :
    (H.keeping inv).wp p s post fail :=
  (hp.mono fun _ hc => ⟨hs, fun r => next_of_underived hc r⟩).wp hpost hfail

theorem wp_await {p : Async α} {post : α → Store String Key → Prop} {fail : JsError → Store String Key → Prop}
    (hp : (H.keeping inv).wp p s (fun a s' => inv s' ∧ post a s') fun e s' => inv s' ∧ fail e s') :
    (H.keeping inv).wp (await p) s post fail :=
  (wp_await_iff ..).mpr (Protocol.wp_mono _ hp (fun _ _ h => ⟨h.1, fun _ _ => h.2⟩)
    fun _ _ h => ⟨h.1, fun _ _ => h.2⟩)

/-- A derivation succeeds, fails, or fails when its key is stored; it never fails for an existing key when there is none. -/
theorem wp_createBip32ChildKeyDerivation {version : DerivationVersion} {i : Nat} {exportable temporary : Bool}
    {parent name : String} (hs : inv s) {post : Unit → Store String Key → Prop}
    {fail : JsError → Store String Key → Prop}
    (hpost : ∀ e, s name = none → s parent = some e →
      post () (Function.update s name (some ⟨H.child e.key i, temporary⟩)))
    (hfail : ∀ err, (err.errorCode = some ERR_OBJ_ALREADY_EXISTS → ∃ e, s name = some e) → fail err s)
    (hlate : ∀ err e, s name = none → s parent = some e →
      (err.errorCode = some ERR_OBJ_ALREADY_EXISTS → ∃ e, s name = some e) →
      fail err (Function.update s name (some ⟨H.child e.key i, temporary⟩))) :
    (H.keeping inv).wp (createBip32ChildKeyDerivation version i exportable temporary parent name) s post fail := by
  refine (Protocol.wp_attempt ..).mpr ⟨hs, fun r hr => ⟨fun a ha => ?_, fun err herr => ?_⟩⟩
  · subst ha
    obtain ⟨s', hs'⟩ := Option.isSome_iff_exists.mp (show (s.derive H.child parent i temporary name).isSome from hr)
    obtain ⟨hfree, e, he, rfl⟩ := Store.derive_eq_some.mp hs'
    show post () ((s.derive H.child parent i temporary name).getD s)
    rw [hs', Option.getD_some]
    exact hpost e hfree he
  · subst herr
    have hcode : err.errorCode = some ERR_OBJ_ALREADY_EXISTS → ∃ e, s name = some e := hr
    show fail err (if H.stored err then (s.derive H.child parent i temporary name).getD s else s)
    split
    · cases hs' : s.derive H.child parent i temporary name with
      | none => exact hfail err hcode
      | some s' =>
          obtain ⟨hfree, e, he, rfl⟩ := Store.derive_eq_some.mp hs'
          exact hlate err e hfree he hcode
    · exact hfail err hcode

/-! ## Address keys -/

end Hsm

/-- The names of a session are those of address keys. -/
def Named (root : String) (keys : Js.Map Nat String) : Prop :=
  ∀ index name, keys.get index = some name → name = keyName root (.address index)

theorem Named.set {root : String} {keys : Js.Map Nat String} (h : Named root keys) (index : Nat) :
    Named root (keys.set index (keyName root (.address index))) := by
  intro i name hname
  rw [Js.Map.get_set] at hname
  split at hname
  next hi =>
    subst hi
    exact (Option.some.inj hname).symm
  next => exact h i name hname

theorem getConfig_underived : getConfig.Uses Hsm.Underived :=
  (Prog.uses_ask (c := Op.registry .getConfig) trivial).attempt

theorem delay_underived (ms : Nat) : (await (delay ms)).Uses Hsm.Underived :=
  uses_await trivial (Prog.uses_ask trivial)

namespace Hsm

variable {Key : Type} {H : Hsm Key} {inv : Store String Key → Prop} {s : Store String Key}

/-- `getAddressKeyName` keeps what the derivation of the address key keeps. -/
theorem wp_getAddressKeyName {root : String} {keys : Js.Map Nat String} (hkeys : Named root keys) (index : Nat)
    (hderive : ∀ s e, inv s → s (keyName root (.address index)) = none → s (keyName root .change) = some e →
      inv (Function.update s (keyName root (.address index)) (some ⟨H.child e.key index, true⟩)))
    (hs : inv s) :
    (H.keeping inv).wp (HsmSession.getAddressKeyName root keys index) s
      (fun res s' => (res.1 = keyName root (.address index) ∧ Named root res.2) ∧ inv s') fun _ => inv := by
  unfold HsmSession.getAddressKeyName
  split
  next name hname => exact ⟨⟨hkeys index name hname, hkeys⟩, hs⟩
  next hnone =>
    refine (Protocol.wp_bind ..).mpr (wp_underived getConfig_underived hs (fun config => ?_) fun _ => hs)
    -- after an error, the name is returned when the key exists
    have hcaught (err : JsError) (s : Store String Key) (hs : inv s) :
        (H.keeping inv).wp (do
          await (delay 500)
          if err.errorCode = some ERR_OBJ_ALREADY_EXISTS then pure () else throw err : Async Unit) s
          (fun _ => inv) fun _ => inv :=
      wp_underived (uses_bind (delay_underived 500) fun _ => uses_ite (uses_pure _) (uses_throwThe _)) hs
        (fun _ => hs) fun _ => hs
    refine (Protocol.wp_bind ..).mpr (Protocol.wp_mono _ ((Protocol.wp_tryCatch ..).mpr ?_)
      (fun _ s' hs' => ⟨⟨rfl, hkeys.set index⟩, hs'⟩) fun _ _ h => h)
    exact wp_createBip32ChildKeyDerivation hs (fun e hfree he => hderive s e hs hfree he)
      (fun err _ => hcaught err s hs) fun err e hfree he _ => hcaught err _ (hderive s e hs hfree he)

/-! ## Names -/

/-- What the names on an HSM are meant for that has these root keys and the keys derived from them. -/
def Meant (H : Hsm Key) (roots : Set String) (name : String) (key : Key) : Prop :=
  name = HTR_CKD_BIP_KEYNAME ∨ name = HTR_CKD_COIN_KEYNAME ∨
    ∃ root ∈ roots, ∃ l : KeyLevel, l.Valid ∧ name = keyName root l ∧ key = H.keyAt root l

/-- What is asked of the names that the keys below the root keys get. -/
structure NamesApart (H : Hsm Key) (roots : Set String) : Prop where
  length : ∀ root ∈ roots, ∀ l : KeyLevel, l.Valid → Js.length (keyName root l) ≤ 32
  distinct : ∀ root ∈ roots, ∀ root' ∈ roots, ∀ l l' : KeyLevel, l.Valid → l'.Valid →
    keyName root l = keyName root' l' → root = root' ∧ l = l'
  /-- An address key that is found on the HSM by its name is the one that is looked for. -/
  address : ∀ root ∈ roots, ∀ index < 0x80000000, ∀ keys, Named root keys → ∀ s : Store String Key,
    s.Respects (H.Meant roots) → ∀ t res, Steps (HsmSession.getAddressKeyName root keys index) t (.ret res) →
      H.Told s t → ∀ e, H.after s t res.1 = some e → e.key = H.keyAt root (.address index)

end Hsm

/-- No root key is named as a key below another. -/
def RootsApart (roots : Set String) : Prop :=
  ∀ root ∈ roots, ∀ root' ∈ roots, ∀ l : KeyLevel, l.Valid → l ≠ .root → root'.toList ≠ root.toList ++ l.suffix

theorem distinct_of_rootsApart {roots : Set String} (h : RootsApart roots) {root root' : String} (hroot : root ∈ roots)
    (hroot' : root' ∈ roots) {l l' : KeyLevel} (hl : l.Valid) (hl' : l'.Valid)
    (heq : keyName root l = keyName root' l') : root = root' ∧ l = l' := by
  rcases keyName_eq heq with heq | ⟨hne, rfl⟩ | ⟨hne, rfl⟩
  · exact heq
  · exact absurd (toList_keyName root l) (h root hroot _ hroot' l hl hne)
  · exact absurd (toList_keyName root' l') (h root' hroot' _ hroot l' hl' hne)

theorem Hsm.meant_keyName {Key : Type} {H : Hsm Key} {roots : Set String} (h : RootsApart roots) {root : String}
    (hroot : root ∈ roots) {l : KeyLevel} (hl : l.Valid) (hne : l ≠ .root) {key : Key} :
    H.Meant roots (keyName root l) key ↔ key = H.keyAt root l := by
  constructor
  · rintro (hbip | hcoin | ⟨root', hroot', l', hl', heq, rfl⟩)
    · exact absurd hbip (keyName_ne hne).1
    · exact absurd hcoin (keyName_ne hne).2
    · obtain ⟨rfl, rfl⟩ := distinct_of_rootsApart h hroot hroot' hl hl' heq
      rfl
  · rintro rfl
    exact .inr (.inr ⟨root, hroot, l, hl, rfl, rfl⟩)

/-- The names of keys are short enough, no two keys share one and no address key is mistaken for another key, exactly when
no root key is named as a key below another. -/
theorem names_apart_iff {Key : Type} (H : Hsm Key) (roots : Set String)
    (hroots : ∀ root ∈ roots, validateKeyName (some root) = .ok ()) : H.NamesApart roots ↔ RootsApart roots := by
  constructor
  · intro h root hroot root' hroot' l hl hne heq
    have hname : keyName root' .root = keyName root l := by
      refine String.toList_inj.mp ?_
      rw [toList_keyName, toList_keyName, ← heq]
      exact List.append_nil _
    exact hne (h.distinct root' hroot' root hroot .root l (by decide) hl hname).2.symm
  · intro h
    refine ⟨fun root hroot l hl => ?_, fun root hroot root' hroot' l l' hl hl' heq =>
      distinct_of_rootsApart h hroot hroot' hl hl' heq, ?_⟩
    · have hlength := length_of_validateKeyName (hroots root hroot)
      have hsuffix := l.length_suffix hl
      rw [length_keyName]
      omega
    · intro root hroot index hindex keys hkeys s hs t res hrun htold e he
      have haddress : (KeyLevel.address index).Valid := hindex
      have hderive (s : Store String Key) (e : Entry Key) (hs : s.Respects (H.Meant roots))
          (_ : s (keyName root (.address index)) = none) (he : s (keyName root .change) = some e) :
          Store.Respects (Function.update s (keyName root (.address index)) (some ⟨H.child e.key index, true⟩))
            (H.Meant roots) := by
        refine hs.update ((Hsm.meant_keyName h hroot haddress (by rintro ⟨⟩)).mpr ?_)
        rw [(Hsm.meant_keyName h hroot (by decide) (by rintro ⟨⟩)).mp (hs _ e he), Hsm.keyAt_address]
      obtain ⟨⟨hname, -⟩, hs'⟩ := Hsm.wp_trace (Hsm.wp_getAddressKeyName hkeys index hderive hs) hrun htold
      rw [hname] at he
      exact (Hsm.meant_keyName h hroot haddress (by rintro ⟨⟩)).mp (hs' _ e he)

/-! Keys that know their root key and their path. -/

def pathHsm : Hsm (String × List Nat) where
  child key i := (key.1, key.2 ++ [i])
  rootKey root := (root, [])
  Signs key hash signature := signature = 0x30 :: UInt8.ofNat (key.2.getLast?.getD 0) :: hash
  der _ _ _ h := by rw [h]; rfl
  stored _ := false

theorem otherRoots_apart : RootsApart {"first", "second"} := by
  have hlength : ∀ root ∈ ({"first", "second"} : Set String), 5 ≤ root.toList.length ∧ root.toList.length ≤ 6 := by
    rintro root (rfl | rfl) <;> decide
  intro root hroot root' hroot' l _ hne heq
  obtain ⟨c, cs, hsuffix, -⟩ := l.suffix_eq_cons hne
  have hlong : 6 ≤ l.suffix.length := by
    cases l with
    | root => exact absurd rfl hne
    | address index =>
        rw [KeyLevel.suffix, List.length_append]
        exact Nat.le_trans (by decide) (Nat.le_add_right _ _)
    | _ => decide
  have h := congrArg List.length heq
  rw [List.length_append] at h
  have hroot := hlength root hroot
  have hroot' := hlength root' hroot'
  omega

theorem otherRoots_namesApart : pathHsm.NamesApart {"first", "second"} :=
  (names_apart_iff pathHsm {"first", "second"} (by rintro root (rfl | rfl) <;> decide)).mpr otherRoots_apart

/-- Two root keys, and the change key of the first; the second has the name of its address 1. -/
def addressTaken : Store String (String × List Nat) := fun name =>
  if name = "abc" ∨ name = "abc_HAddr_1" then some ⟨(name, []), false⟩
  else if name = "abc_htrChange0" then some ⟨pathHsm.keyAt "abc" .change, false⟩
  else none

/-- The answers when the key to be derived exists. -/
def keyExists : (c : Op) → c.Ans
  | .registry .getConfig => .ok { network := "mainnet" }
  | .lib (.createBip32ChildKeyDerivation ..) =>
    .error { message := "ERR_OBJ_ALREADY_EXISTS", errorCode := some ERR_OBJ_ALREADY_EXISTS }
  | c => c.granted { hash := "", inputs := [] }

/-- The run that looks for the key of the first address. -/
def takenRun : Log × Except JsError (String × Js.Map Nat String) :=
  (HsmSession.getAddressKeyName "abc" .empty 1).run fun _ => keyExists

/-- A root key is taken for an address key of another one. -/
theorem root_taken_for_address :
    validateKeyName (some "abc") = .ok () ∧ validateKeyName (some "abc_HAddr_1") = .ok () ∧
      keyName "abc" (.address 1) = keyName "abc_HAddr_1" .root ∧
      addressTaken.Respects (pathHsm.Meant {"abc", "abc_HAddr_1"}) ∧
      takenRun.2.map Prod.fst = .ok "abc_HAddr_1" ∧ pathHsm.Told addressTaken takenRun.1 ∧
      pathHsm.after addressTaken takenRun.1 "abc_HAddr_1" = some ⟨("abc_HAddr_1", []), false⟩ ∧
      ¬ pathHsm.NamesApart {"abc", "abc_HAddr_1"} := by
  refine ⟨by decide, by decide, by decide, fun name e he => ?_, by decide +kernel, ?_, by decide +kernel, fun h => ?_⟩
  · unfold addressTaken at he
    split at he
    next hroot =>
      cases he
      rcases hroot with rfl | rfl
      · exact .inr (.inr ⟨"abc", by simp, .root, by decide, rfl, rfl⟩)
      · exact .inr (.inr ⟨"abc_HAddr_1", by simp, .root, by decide, rfl, rfl⟩)
    next =>
      obtain ⟨rfl, he⟩ := Option.ite_none_right_eq_some.mp he
      cases he
      exact .inr (.inr ⟨"abc", by simp, .change, by decide, rfl, rfl⟩)
  · exact ⟨trivial, fun _ => ⟨_, rfl⟩, trivial, trivial, trivial⟩
  · have hname := h.distinct "abc" (by simp) "abc_HAddr_1" (by simp) (.address 1) .root (by decide) (by decide) (by decide)
    exact absurd hname.2 (by decide)

end WalletHeadless
