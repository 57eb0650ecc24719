import Mathlib.Tactic.Common
import Mathlib.Tactic.NormNum

/-!
# Strict DER of a pair of integers

The strict decoder of a signature: a SEQUENCE of two INTEGERs with short lengths that leave nothing
over, each INTEGER nonnegative and without a leading zero byte that the sign bit does not need.

* `decode`: the decoder; `minimal`: the contents of an INTEGER that it accepts;
* `decode_sequence`: what it makes of two contents with their headers.
-/

namespace Der

/-- The number that big-endian bytes spell. -/
def beValue (bytes : List UInt8) : Nat := bytes.foldl (fun n b => 256 * n + b.toNat) 0

/-- The contents of a nonnegative INTEGER in as few bytes as possible. -/
def minimal : List UInt8 → Bool
  | [] => false
  | [x] => decide (x.toNat < 128)
  | x :: y :: _ => decide (x.toNat < 128) && decide (x.toNat = 0 → 128 ≤ y.toNat)

/-- One INTEGER, and what follows it. -/
def readInteger : List UInt8 → Option (Nat × List UInt8)
  | tag :: len :: rest =>
    if tag = 0x02 ∧ len.toNat < 128 ∧ len.toNat ≤ rest.length ∧ minimal (rest.take len.toNat) then
      some (beValue (rest.take len.toNat), rest.drop len.toNat)
    else none
  | _ => none

/-- Two INTEGERs and nothing else. -/
def readPair (bytes : List UInt8) : Option (Nat × Nat) :=
  (readInteger bytes).bind fun (r, rest) =>
    (readInteger rest).bind fun (s, rest) => if rest = [] then some (r, s) else none

def decode : List UInt8 → Option (Nat × Nat)
  | tag :: len :: rest =>
    if tag = 0x30 ∧ len.toNat < 128 ∧ len.toNat = rest.length then readPair rest else none
  | _ => none

/-- Contents with the header of an INTEGER. -/
def integer (content : List UInt8) : List UInt8 := 0x02 :: UInt8.ofNat content.length :: content

/-- Two contents with the headers of their INTEGERs and of the SEQUENCE. -/
def sequence (r s : List UInt8) : List UInt8 :=
  0x30 :: UInt8.ofNat (integer r ++ integer s).length :: (integer r ++ integer s)

theorem toNat_ofNat_length {n : Nat} (h : n < 128) : (UInt8.ofNat n).toNat = n := by
  rw [UInt8.toNat_ofNat']
  exact Nat.mod_eq_of_lt (by omega)

theorem readInteger_integer {content : List UInt8} (h : content.length < 128) (rest : List UInt8) :
    readInteger (integer content ++ rest) =
      if minimal content then some (beValue content, rest) else none := by
  have hl := toNat_ofNat_length h
  simp [integer, readInteger, hl, h]

theorem readPair_integers {r s : List UInt8} (hr : r.length < 128) (hs : s.length < 128) :
    readPair (integer r ++ integer s) =
      if minimal r ∧ minimal s then some (beValue r, beValue s) else none := by
  have h := readInteger_integer hs []
  rw [List.append_nil] at h
  unfold readPair
  rw [readInteger_integer hr]
  cases minimal r with
  | false => simp
  | true =>
      cases hm : minimal s with
      | false => simp [h, hm]
      | true => simp [h, hm]

theorem decode_sequence {r s : List UInt8} (h : r.length + s.length < 124) :
    decode (sequence r s) = if minimal r ∧ minimal s then some (beValue r, beValue s) else none := by
  have hlen : (integer r ++ integer s).length = r.length + s.length + 4 := by
    simp only [integer, List.length_append, List.length_cons]
    omega
  have hl := toNat_ofNat_length (n := (integer r ++ integer s).length) (by omega)
  rw [sequence, decode, if_pos ⟨rfl, by omega, hl⟩]
  exact readPair_integers (by omega) (by omega)

/-! ## Leading bytes -/

theorem foldl_beValue (bytes : List UInt8) (a : Nat) :
    bytes.foldl (fun n b => 256 * n + b.toNat) a = 256 ^ bytes.length * a + beValue bytes := by
  induction bytes generalizing a with
  | nil => simp [beValue]
  | cons b bytes ih =>
      have h : beValue (b :: bytes) = 256 ^ bytes.length * b.toNat + beValue bytes := by
        rw [beValue, List.foldl_cons, ih]
        simp
      rw [List.foldl_cons, ih, h, List.length_cons, Nat.pow_succ, Nat.mul_add, Nat.mul_assoc]
      omega

theorem beValue_cons (b : UInt8) (bytes : List UInt8) :
    beValue (b :: bytes) = 256 ^ bytes.length * b.toNat + beValue bytes := by
  rw [beValue, List.foldl_cons, foldl_beValue]
  simp

theorem beValue_lt (bytes : List UInt8) : beValue bytes < 256 ^ bytes.length := by
  induction bytes with
  | nil => simp [beValue]
  | cons b bytes ih =>
      rw [beValue_cons, List.length_cons, Nat.pow_succ]
      have hb : 256 ^ bytes.length * b.toNat ≤ 256 ^ bytes.length * 255 :=
        Nat.mul_le_mul_left _ (Nat.le_of_lt_succ b.toNat_lt)
      omega

/-- Padded with a zero byte where the sign bit is set, contents are minimal exactly when they do not start
with a byte that could be left out. -/
theorem minimal_pad_iff {b : List UInt8} (h : 2 ≤ b.length) :
    minimal (if 128 ≤ (b.headD 0).toNat then 0x00 :: b else b) ↔
      128 * 256 ^ (b.length - 2) ≤ beValue b := by
  match b, h with
  | x :: y :: rest, _ =>
    have hy := beValue_lt rest
    have hy' := beValue_lt (y :: rest)
    rw [beValue_cons, beValue_cons]
    rw [beValue_cons, List.length_cons, Nat.pow_succ] at hy'
    rw [List.headD_cons, show (x :: y :: rest).length - 2 = rest.length from rfl, List.length_cons, Nat.pow_succ]
    have hpos : 0 < 256 ^ rest.length := Nat.pow_pos (by omega)
    generalize 256 ^ rest.length = p at *
    have hx : p * 256 * x.toNat = 256 * (p * x.toNat) := by
      rw [Nat.mul_comm p, Nat.mul_assoc]
    by_cases hneg : 128 ≤ x.toNat
    · have : p * 128 ≤ p * x.toNat := Nat.mul_le_mul_left _ hneg
      have hm : minimal (0x00 :: x :: y :: rest) := by simp [minimal, hneg]
      rw [if_pos hneg]
      exact iff_of_true hm (by omega)
    · rw [if_neg hneg]
      by_cases hx0 : x.toNat = 0
      · have hm : minimal (x :: y :: rest) ↔ 128 ≤ y.toNat := by simp [minimal, hx0]
        rw [hm, hx0]
        constructor
        · intro hy128
          have : p * 128 ≤ p * y.toNat := Nat.mul_le_mul_left _ hy128
          omega
        · intro hle
          by_contra hlt
          have : p * y.toNat ≤ p * 127 := Nat.mul_le_mul_left _ (by omega)
          omega
      · have hm : minimal (x :: y :: rest) := by
          simp only [minimal, hx0, Bool.and_eq_true, decide_eq_true_eq]
          exact ⟨by omega, fun h => h.elim⟩
        have : p * 1 ≤ p * x.toNat := Nat.mul_le_mul_left _ (by omega)
        exact iff_of_true hm (by omega)

end Der
