import WalletHeadless.Js.Number
import WalletHeadless.Js.Text
import WalletHeadless.Services.Hsm

/-!
# The names of the keys on the HSM

* `validateKeyName`: the names of root keys that `create-hsm-wallet.js` accepts;
* `KeyLevel`, `keyName`: the levels of a path, and the name of a key at each;
* `length_keyName`: how long it is;
* `keyName_ne`: it is none of the names that every derivation of an account key uses;
* `keyName_eq`: two keys have one name only if one of them is a root key.
-/

namespace WalletHeadless

open Js

def validateKeyName (keyName : Option String) : Except JsError Unit :=
  match keyName.filter fun keyName => 3 ≤ Js.length keyName with
  | none => .error { message := "Invalid key name. Usage: node create-hsm-wallet.js <key-name>" }
  | some keyName =>
    if 15 < Js.length keyName then .error { message := "Key name is too long. It must be up to 15 characters." }
    else if keyName.toList.all fun c => c.isAlphanum || c = '_' then .ok ()
    else .error { message := "Key name can only contain alphanumeric characters and underscores." }

theorem length_of_validateKeyName {keyName : String} (h : validateKeyName (some keyName) = .ok ()) :
    Js.length keyName ≤ 15 := by
  unfold validateKeyName at h
  split at h
  next => cases h
  next name hname =>
    obtain ⟨hsome, -⟩ := Option.filter_eq_some_iff.mp hname
    obtain rfl := Option.some.inj hsome
    split at h
    next => cases h
    next hlength => exact Nat.not_lt.mp hlength

/-! ## Levels -/

inductive KeyLevel
  | root
  | bip44
  | coin
  | account
  | change
  | address (index : Nat)
deriving DecidableEq

namespace KeyLevel

def pathIndex : KeyLevel → Nat
  | root => 0
  | bip44 => 1
  | coin => 2
  | account => 3
  | change => 4
  | address _ => 5

def index : KeyLevel → Nat
  | address index => index
  | _ => 0

/-- The child indices from the root key on. -/
def path : KeyLevel → List Nat
  | root => []
  | bip44 => [SECURE_BIP32_INDEX_BASE + 44]
  | coin => [SECURE_BIP32_INDEX_BASE + 44, SECURE_BIP32_INDEX_BASE + HATHOR_BIP44_CODE]
  | account => [SECURE_BIP32_INDEX_BASE + 44, SECURE_BIP32_INDEX_BASE + HATHOR_BIP44_CODE, SECURE_BIP32_INDEX_BASE]
  | change => [SECURE_BIP32_INDEX_BASE + 44, SECURE_BIP32_INDEX_BASE + HATHOR_BIP44_CODE, SECURE_BIP32_INDEX_BASE, 0]
  | address index =>
    [SECURE_BIP32_INDEX_BASE + 44, SECURE_BIP32_INDEX_BASE + HATHOR_BIP44_CODE, SECURE_BIP32_INDEX_BASE, 0, index]

/-- The indices of addresses are not hardened. -/
def Valid (l : KeyLevel) : Prop := l.index < 0x80000000

instance (l : KeyLevel) : Decidable l.Valid := inferInstanceAs (Decidable (_ < _))

/-- What follows the name of the root key. -/
def suffix : KeyLevel → List Char
  | root => []
  | bip44 => ['_', 'b', 'i', 'p', '4', '4']
  | coin => ['_', 'c', 'o', 'i', 'n', 'H', 'T', 'R']
  | account => ['_', 'h', 't', 'r', 'A', 'c', 'c', 't']
  | change => ['_', 'h', 't', 'r', 'C', 'h', 'a', 'n', 'g', 'e', '0']
  | address index => ['_', 'H', 'A', 'd', 'd', 'r', '_'] ++ Nat.toDigits 10 index

end KeyLevel

/-- The name of a key: that of its root key, and its level. -/
def keyName (root : String) (l : KeyLevel) : String := getBip32Keyname root l.pathIndex l.index

theorem toList_keyName (root : String) (l : KeyLevel) : (keyName root l).toList = root.toList ++ l.suffix := by
  cases l with
  | root => exact (List.append_nil _).symm
  | address index =>
      show (root ++ "_HAddr_" ++ Nat.repr index).toList = _
      rw [String.toList_append, String.toList_append, Nat.toList_repr, List.append_assoc]
      rfl
  | bip44 => exact String.toList_append
  | coin => exact String.toList_append
  | account => exact String.toList_append
  | change => exact String.toList_append

/-! ## Lengths -/

theorem KeyLevel.length_suffix {l : KeyLevel} (h : l.Valid) : l.suffix.length ≤ 17 := by
  cases l with
  | address index =>
      have hdigits : (Nat.toDigits 10 index).length ≤ 10 :=
        (Nat.length_toDigits_le_iff (by decide) (by decide)).mpr (Nat.lt_trans h (by decide))
      rw [KeyLevel.suffix, List.length_append]
      show 7 + _ ≤ 17
      omega
  | _ => decide

theorem forall_of_all {l : List Char} {p : Char → Prop} [DecidablePred p] (h : l.all (fun c => decide (p c)) = true) :
    ∀ c ∈ l, p c := fun c hc => of_decide_eq_true (List.all_eq_true.mp h c hc)

theorem KeyLevel.ascii_suffix (l : KeyLevel) : ∀ c ∈ l.suffix, c.toNat < 0x10000 := by
  cases l with
  | address index =>
      intro c hc
      have hword : ∀ c ∈ ['_', 'H', 'A', 'd', 'd', 'r', '_'], c.toNat < 0x10000 := forall_of_all (by decide)
      rcases List.mem_append.mp hc with hc | hc
      · exact hword c hc
      · have hdigit := toNat_of_isDigit (Nat.isDigit_of_mem_toDigits (by decide) (by decide) hc)
        omega
  | _ => exact forall_of_all (by decide)

/-- A name is as long as its root key's name and its suffix. -/
theorem length_keyName (root : String) (l : KeyLevel) :
    Js.length (keyName root l) = Js.length root + l.suffix.length := by
  have hunits : ∀ cs : List Char, (∀ c ∈ cs, c.toNat < 0x10000) → (cs.flatMap utf16).length = cs.length := by
    intro cs hcs
    induction cs with
    | nil => rfl
    | cons c cs ih =>
        rw [List.flatMap_cons, List.length_append, ih fun c' hc' => hcs c' (by simp [hc']), utf16,
          if_pos (hcs c (by simp)), List.length_singleton, List.length_cons, Nat.add_comm]
  unfold Js.length units
  rw [toList_keyName, List.flatMap_append, List.length_append, hunits _ l.ascii_suffix]

/-! ## Distinct names -/

namespace KeyLevel

/-- A suffix is an underscore and a letter, which tells the levels apart. -/
theorem suffix_eq_cons {l : KeyLevel} (h : l ≠ root) : ∃ c cs, l.suffix = '_' :: c :: cs ∧ c.isDigit = false := by
  cases l with
  | root => exact absurd rfl h
  | _ => exact ⟨_, _, rfl, rfl⟩

theorem suffix_injective {l l' : KeyLevel} (h : l.suffix = l'.suffix) : l = l' := by
  cases l with
  | address index =>
      cases l' with
      | address index' =>
          have hdigits : Nat.toDigits 10 index = Nat.toDigits 10 index' := List.append_cancel_left h
          rw [← Nat.ofDigitChars_ten_toDigits (n := index), hdigits, Nat.ofDigitChars_ten_toDigits]
      | _ => simp [suffix] at h
  | _ => cases l' <;> first | rfl | simp [suffix] at h

/-- The end of a suffix is a suffix only if it is the whole. -/
theorem suffix_of_suffix {l l' : KeyLevel} {m : List Char} (h : l.suffix = m ++ l'.suffix) (hl' : l' ≠ root) :
    m = [] := by
  obtain ⟨c, cs, hsuffix, hc⟩ := suffix_eq_cons hl'
  rw [hsuffix] at h
  cases l with
  | root => simp [suffix] at h
  | address index =>
      -- the other underscore has a digit after it
      cases m with
      | nil => rfl
      | cons a m =>
          have hrest : ['H', 'A', 'd', 'd', 'r'] ++ '_' :: Nat.toDigits 10 index = m ++ '_' :: c :: cs :=
            (List.cons_eq_cons.mp h).2
          obtain ⟨-, -, hdigits⟩ := (List.append_cons_inj_of_notMem (by decide)
            Nat.underscore_not_in_toDigits).mp hrest
          have hdigit : c ∈ Nat.toDigits 10 index := by simp [hdigits]
          rw [Nat.isDigit_of_mem_toDigits (by decide) (by decide) hdigit] at hc
          cases hc
  | _ =>
      have hnil : [] ++ _ = m ++ '_' :: c :: cs := h
      exact ((List.append_cons_inj_of_notMem (by simp) (by decide)).mp hnil).1.symm

/-- A suffix has a small letter. -/
theorem exists_isLower {l : KeyLevel} (h : l ≠ root) : ∃ c ∈ l.suffix, c.isLower = true := by
  cases l with
  | root => exact absurd rfl h
  | bip44 => exact ⟨'b', by decide, rfl⟩
  | coin => exact ⟨'c', by decide, rfl⟩
  | account => exact ⟨'h', by decide, rfl⟩
  | change => exact ⟨'h', by decide, rfl⟩
  | address index => exact ⟨'d', by simp [suffix], rfl⟩

end KeyLevel

/-- No key below a root key has the name of a key that only serves to derive the account key. -/
theorem keyName_ne {root : String} {l : KeyLevel} (h : l ≠ .root) :
    keyName root l ≠ HTR_CKD_BIP_KEYNAME ∧ keyName root l ≠ HTR_CKD_COIN_KEYNAME := by
  obtain ⟨c, hc, hlower⟩ := KeyLevel.exists_isLower h
  have hmem : c ∈ (keyName root l).toList := by
    rw [toList_keyName]
    exact List.mem_append_right _ hc
  have hbip : ∀ c ∈ HTR_CKD_BIP_KEYNAME.toList, c.isLower = false := forall_of_all (by decide)
  have hcoin : ∀ c ∈ HTR_CKD_COIN_KEYNAME.toList, c.isLower = false := forall_of_all (by decide)
  constructor
  · intro heq
    rw [heq] at hmem
    exact absurd hlower (ne_true_of_eq_false (hbip c hmem))
  · intro heq
    rw [heq] at hmem
    exact absurd hlower (ne_true_of_eq_false (hcoin c hmem))

/-- Two keys have one name only if one of them is a root key. -/
theorem keyName_eq {root root' : String} {l l' : KeyLevel} (h : keyName root l = keyName root' l') :
    root = root' ∧ l = l' ∨ l ≠ .root ∧ root' = keyName root l ∨ l' ≠ .root ∧ root = keyName root' l' := by
  have happend : root.toList ++ l.suffix = root'.toList ++ l'.suffix := by
    rw [← toList_keyName, ← toList_keyName, h]
  by_cases hl : l = .root
  · subst hl
    by_cases hl' : l' = .root
    · subst hl'
      exact .inl ⟨h, rfl⟩
    · exact .inr (.inr ⟨hl', h⟩)
  · by_cases hl' : l' = .root
    · subst hl'
      exact .inr (.inl ⟨hl, h.symm⟩)
    · have hempty : ∃ m, (root'.toList = root.toList ++ m ∨ root.toList = root'.toList ++ m) ∧ m = [] := by
        rcases List.append_eq_append_iff.mp happend with ⟨m, hroot, hm⟩ | ⟨m, hroot, hm⟩
        · exact ⟨m, .inl hroot, KeyLevel.suffix_of_suffix hm hl'⟩
        · exact ⟨m, .inr hroot, KeyLevel.suffix_of_suffix hm hl⟩
      obtain ⟨m, hroots, rfl⟩ := hempty
      have hroots : root = root' := by
        rcases hroots with hroot | hroot
        · exact (String.toList_inj.mp (hroot.trans (List.append_nil _))).symm
        · exact String.toList_inj.mp (hroot.trans (List.append_nil _))
      subst hroots
      exact .inl ⟨rfl, KeyLevel.suffix_injective (List.append_cancel_left happend)⟩

end WalletHeadless
