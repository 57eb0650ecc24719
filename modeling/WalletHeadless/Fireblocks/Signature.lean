import WalletHeadless.Der.Strict
import WalletHeadless.Services.Fireblocks

/-!
# `fireblocksSignatureToDER` and strict DER

The function prepends a zero byte where the sign bit is set, but keeps the zero bytes that a fixed-width
integer starts with.

* `StrictDER sig r s`: the encoding of `sig` is strict and spells `(r, s)`;
* `strictDER_iff`: when it is.
-/

namespace WalletHeadless

open Js

/-- The order of secp256k1. -/
def SECP256K1_ORDER : Nat := 0xfffffffffffffffffffffffffffffffebaaedce6af48a03bbfd25e8cd0364141

/-- `fireblocksSignatureToDER` returns strict DER that spells `(r, s)`. -/
def StrictDER (sig : FireblocksSignature) (r s : Nat) : Prop :=
  ∃ der, fireblocksSignatureToDER sig = .ok der ∧ Der.decode der = some (r, s)

theorem fireblocksSignatureToDER_eq (r s : String) :
    fireblocksSignatureToDER ⟨some r, some s⟩ =
      .ok (Der.sequence (padded (Buffer.fromHex r)) (padded (Buffer.fromHex s))) := by
  have hlen (a b : Buffer) : 2 + a.length + 2 + b.length = (Der.integer a ++ Der.integer b).length := by
    simp only [Der.integer, List.length_append, List.length_cons]
    omega
  simp only [fireblocksSignatureToDER, bufferFromHex, hlen]
  simp [Der.sequence, Der.integer, bind, Except.bind, pure, Except.pure]

/-- The sign bit of a byte. -/
theorem signBit (x : UInt8) : (x &&& 0x80 != 0) = decide (128 ≤ x.toNat) := by
  have h : ∀ n : Fin 256, (UInt8.ofNat n &&& 0x80 != 0) = decide (128 ≤ (UInt8.ofNat n).toNat) := by
    decide +kernel
  have hx : UInt8.ofNat x.toNat = x := UInt8.ofNat_toNat
  have := h ⟨x.toNat, x.toNat_lt⟩
  rwa [hx] at this

theorem padded_eq (b : Buffer) : padded b = if 128 ≤ (b.headD 0).toNat then 0x00 :: b else b := by
  unfold padded negative
  cases b with
  | nil => rfl
  | cons x b => by_cases h : 128 ≤ x.toNat <;> simp [signBit, h]

theorem beValue_padded (b : Buffer) : Der.beValue (padded b) = Der.beValue b := by
  unfold padded
  split
  · rw [Der.beValue_cons]
    simp
  · rfl

theorem length_padded_le (b : Buffer) : (padded b).length ≤ b.length + 1 := by
  unfold padded
  split <;> simp

/-- The bytes of 64 digits. -/
theorem fromHex_of_isHex {str : String} {n : Nat} (h : IsHex 64 str n) :
    (Buffer.fromHex str).length = 32 ∧ Der.beValue (Buffer.fromHex str) = n := by
  obtain ⟨ds, hds, hlen, rfl⟩ := h
  exact foldl_hexBytes 32 hds hlen 0

theorem minimal_padded {str : String} {n : Nat} (h : IsHex 64 str n) :
    Der.minimal (padded (Buffer.fromHex str)) ↔ 2 ^ 247 ≤ n := by
  obtain ⟨hlen, rfl⟩ := fromHex_of_isHex h
  rw [padded_eq, Der.minimal_pad_iff (by omega), hlen]
  norm_num

/-- The encoding is strict exactly when neither integer needs fewer than its 32 bytes. -/
theorem strictDER_iff {rHex sHex : String} {r s : Nat} (hr : IsHex 64 rHex r) (hs : IsHex 64 sHex s) :
    StrictDER ⟨some rHex, some sHex⟩ r s ↔ 2 ^ 247 ≤ r ∧ 2 ^ 247 ≤ s := by
  obtain ⟨hrlen, hrv⟩ := fromHex_of_isHex hr
  obtain ⟨hslen, hsv⟩ := fromHex_of_isHex hs
  have hlen : (padded (Buffer.fromHex rHex)).length + (padded (Buffer.fromHex sHex)).length < 124 := by
    have := length_padded_le (Buffer.fromHex rHex)
    have := length_padded_le (Buffer.fromHex sHex)
    omega
  rw [← minimal_padded hr, ← minimal_padded hs]
  constructor
  · rintro ⟨der, hder, hdec⟩
    rw [fireblocksSignatureToDER_eq] at hder
    cases hder
    rw [Der.decode_sequence hlen] at hdec
    split at hdec
    next hm => exact hm
    next => cases hdec
  · intro hm
    refine ⟨_, fireblocksSignatureToDER_eq rHex sHex, ?_⟩
    rw [Der.decode_sequence hlen, if_pos hm, beValue_padded, beValue_padded, hrv, hsv]

/-- A signature of the digits of one, and one of the largest digits below the order that start with `f`. -/
def oneHex : String := "0000000000000000000000000000000000000000000000000000000000000001"

def wideHex : String := "f000000000000000000000000000000000000000000000000000000000000001"

theorem isHex_oneHex : IsHex 64 oneHex 1 := ⟨_, rfl, by decide +kernel, by decide +kernel⟩

theorem isHex_wideHex : IsHex 64 wideHex (15 * 2 ^ 252 + 1) := ⟨_, rfl, by decide +kernel, by decide +kernel⟩

theorem strictDER_wide : StrictDER ⟨some wideHex, some wideHex⟩ (15 * 2 ^ 252 + 1) (15 * 2 ^ 252 + 1) :=
  (strictDER_iff isHex_wideHex isHex_wideHex).mpr (by norm_num)

/-- `r = 1` keeps 31 zero bytes. -/
theorem not_strictDER_one :
    1 ∈ Set.Ico 1 SECP256K1_ORDER ∧ 15 * 2 ^ 252 + 1 ∈ Set.Ico 1 SECP256K1_ORDER ∧ IsHex 64 oneHex 1 ∧
      IsHex 64 wideHex (15 * 2 ^ 252 + 1) ∧
      (∀ der, fireblocksSignatureToDER ⟨some oneHex, some wideHex⟩ = .ok der → Der.decode der = none) ∧
      ¬ StrictDER ⟨some oneHex, some wideHex⟩ 1 (15 * 2 ^ 252 + 1) := by
  have hdec : ∀ der, fireblocksSignatureToDER ⟨some oneHex, some wideHex⟩ = .ok der → Der.decode der = none := by
    intro der hder
    rw [fireblocksSignatureToDER_eq] at hder
    cases hder
    decide +kernel
  refine ⟨by norm_num [SECP256K1_ORDER], by norm_num [SECP256K1_ORDER], isHex_oneHex, isHex_wideHex, hdec, ?_⟩
  rintro ⟨der, hder, h⟩
  rw [hdec der hder] at h
  cases h

end WalletHeadless
