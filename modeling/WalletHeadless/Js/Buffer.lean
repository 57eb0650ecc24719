import Mathlib.Tactic.Common

/-!
# JavaScript's `Buffer`, as far as hexadecimal goes

A `Buffer` is the list of its bytes. `Buffer.from(string, 'hex')` decodes pairs of digits up to the
first pair that is not one; `toString('hex')` writes two lower-case digits a byte.
-/

namespace Js

abbrev Buffer := List UInt8

/-- The value of a hexadecimal digit. -/
def hexDigit (c : Char) : Option Nat :=
  if '0' ≤ c ∧ c ≤ '9' then some (c.toNat - '0'.toNat)
  else if 'a' ≤ c ∧ c ≤ 'f' then some (c.toNat - 'a'.toNat + 10)
  else if 'A' ≤ c ∧ c ≤ 'F' then some (c.toNat - 'A'.toNat + 10)
  else none

def hexBytes : List Char → Buffer
  | a :: b :: cs =>
    match hexDigit a, hexDigit b with
    | some x, some y => UInt8.ofNat (16 * x + y) :: hexBytes cs
    | _, _ => []
  | _ => []

/-- `Buffer.from(string, 'hex')`. -/
def Buffer.fromHex (s : String) : Buffer := hexBytes s.toList

def hexChar (n : Nat) : Char := if n < 10 then Char.ofNat (n + 48) else Char.ofNat (n + 87)

/-- `toString('hex')`. -/
def Buffer.toHex (b : Buffer) : String :=
  String.ofList (b.flatMap fun x => [hexChar (x.toNat / 16), hexChar (x.toNat % 16)])

/-- `s` is `k` hexadecimal digits that spell `n`. -/
def IsHex (k : Nat) (s : String) (n : Nat) : Prop :=
  ∃ ds, s.toList.mapM hexDigit = some ds ∧ ds.length = k ∧ ds.foldl (fun n d => 16 * n + d) 0 = n

theorem hexDigit_lt {c : Char} {d : Nat} (h : hexDigit c = some d) : d < 16 := by
  unfold hexDigit at h
  split at h
  next hc =>
    have h₁ : c.toNat ≤ '9'.toNat := hc.2
    have h₂ : '9'.toNat - '0'.toNat = 9 := by decide
    cases h
    omega
  next =>
    split at h
    next hc =>
      have h₁ : c.toNat ≤ 'f'.toNat := hc.2
      have h₂ : 'f'.toNat - 'a'.toNat = 5 := by decide
      cases h
      omega
    next =>
      split at h
      next hc =>
        have h₁ : c.toNat ≤ 'F'.toNat := hc.2
        have h₂ : 'F'.toNat - 'A'.toNat = 5 := by decide
        cases h
        omega
      next => cases h

/-- Decoding an even number of digits, as digits and as bytes. -/
theorem foldl_hexBytes (k : Nat) {cs : List Char} {ds : List Nat} (h : cs.mapM hexDigit = some ds)
    (hk : ds.length = 2 * k) (a : Nat) :
    (hexBytes cs).length = k ∧
      (hexBytes cs).foldl (fun n b => 256 * n + b.toNat) a = ds.foldl (fun n d => 16 * n + d) a := by
  induction k generalizing cs ds a with
  | zero =>
      obtain rfl : ds = [] := List.eq_nil_of_length_eq_zero hk
      cases cs with
      | nil => exact ⟨rfl, rfl⟩
      | cons c cs => simp [List.mapM_cons, Option.bind_eq_some_iff] at h
  | succ k ih =>
      match cs with
      | [] =>
          simp only [List.mapM_nil, Option.pure_def, Option.some.injEq] at h
          subst h
          simp at hk
      | [c] =>
          simp only [List.mapM_cons, List.mapM_nil, Option.pure_def, Option.bind_eq_bind,
            Option.bind_eq_some_iff, Option.some.injEq] at h
          obtain ⟨d, -, rest, rfl, rfl⟩ := h
          simp at hk
          omega
      | c₁ :: c₂ :: cs =>
          simp only [List.mapM_cons, Option.pure_def, Option.bind_eq_bind, Option.bind_eq_some_iff,
            Option.some.injEq] at h
          obtain ⟨x, hx, -, ⟨y, hy, rest, hrest, rfl⟩, rfl⟩ := h
          have hxl := hexDigit_lt hx
          have hyl := hexDigit_lt hy
          have hb : (UInt8.ofNat (16 * x + y)).toNat = 16 * x + y := by
            rw [UInt8.toNat_ofNat']
            exact Nat.mod_eq_of_lt (by omega)
          simp only [List.length_cons] at hk
          obtain ⟨h₁, h₂⟩ := ih hrest (by omega) (256 * a + (16 * x + y))
          rw [hexBytes, hx, hy]
          refine ⟨by rw [List.length_cons, h₁], ?_⟩
          rw [List.foldl_cons, hb, h₂, List.foldl_cons, List.foldl_cons]
          congr 1
          omega

end Js
