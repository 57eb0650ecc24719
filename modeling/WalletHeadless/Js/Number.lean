import WalletHeadless.Js.Buffer

/-!
# JavaScript's integers as texts

* `signed`: an integer literal, decimal digits after an optional sign;
* `stringToBigInt`: the integer that `BigInt` reads in a string;
* `isInt`: `validator.isInt`.
-/

namespace Js

/-! ## Literals -/

/-- Decimal digits, at least one. -/
def decimal (cs : List Char) : Option Nat :=
  if cs ≠ [] ∧ cs.all Char.isDigit then some (Nat.ofDigitChars 10 cs 0) else none

/-- Digits after an optional sign; leading zeros are allowed. -/
def signed : List Char → Option Int
  | '-' :: cs => (decimal cs).map fun n : Nat => -(n : Int)
  | '+' :: cs => (decimal cs).map fun n : Nat => (n : Int)
  | cs => (decimal cs).map fun n : Nat => (n : Int)

theorem decimal_eq_some {cs : List Char} {n : Nat} (h : decimal cs = some n) :
    cs ≠ [] ∧ (∀ c ∈ cs, c.isDigit = true) ∧ n = Nat.ofDigitChars 10 cs 0 := by
  unfold decimal at h
  split at h
  next hcs =>
    cases h
    exact ⟨hcs.1, List.all_eq_true.mp hcs.2, rfl⟩
  next => cases h

@[simp] theorem signed_minus (cs : List Char) : signed ('-' :: cs) = (decimal cs).map fun n : Nat => -(n : Int) := by
  simp [signed]

theorem signed_cons_of_isDigit {c : Char} {cs : List Char} (h : c.isDigit = true) :
    signed (c :: cs) = (decimal (c :: cs)).map fun n : Nat => (n : Int) := by
  have hminus : c ≠ '-' := by
    rintro rfl
    cases h
  have hplus : c ≠ '+' := by
    rintro rfl
    cases h
  unfold signed
  split
  next heq => exact absurd (List.cons_eq_cons.mp heq).1 hminus
  next heq => exact absurd (List.cons_eq_cons.mp heq).1 hplus
  next => rfl

theorem decimal_toDigits (n : Nat) : decimal (Nat.toDigits 10 n) = some n := by
  have hdigits : (Nat.toDigits 10 n).all Char.isDigit = true :=
    List.all_eq_true.mpr fun c hc => Nat.isDigit_of_mem_toDigits (by decide) (by decide) hc
  rw [decimal, if_pos ⟨Nat.toDigits_ne_nil, hdigits⟩, Nat.ofDigitChars_ten_toDigits]

theorem signed_toDigits (n : Nat) : signed (Nat.toDigits 10 n) = some (n : Int) := by
  cases hcs : Nat.toDigits 10 n with
  | nil => exact absurd hcs Nat.toDigits_ne_nil
  | cons c cs =>
      have hc : c ∈ Nat.toDigits 10 n := by rw [hcs]; simp
      rw [signed_cons_of_isDigit (Nat.isDigit_of_mem_toDigits (by decide) (by decide) hc), ← hcs, decimal_toDigits]
      rfl

/-- An integer is read back from its text. -/
theorem signed_toString (n : Int) : signed (toString n).toList = some n := by
  cases n with
  | ofNat n =>
      show signed (Nat.repr n).toList = _
      rw [Nat.toList_repr, signed_toDigits]
      rfl
  | negSucc n =>
      have htext : (toString (Int.negSucc n)).toList = '-' :: (Nat.toDigits 10 (n + 1)) := by
        show ("-" ++ Nat.repr (n + 1)).toList = _
        rw [String.toList_append, Nat.toList_repr]
        rfl
      rw [htext, signed_minus, decimal_toDigits]
      rfl

/-! ## `BigInt` -/

/-- White space and line terminators. -/
def isSpace (c : Char) : Bool :=
  c.toNat ∈ [0x9, 0xA, 0xB, 0xC, 0xD, 0x20, 0xA0, 0x1680, 0x2028, 0x2029, 0x202F, 0x205F, 0x3000, 0xFEFF] ||
    0x2000 ≤ c.toNat && c.toNat ≤ 0x200A

def trim (cs : List Char) : List Char := ((cs.dropWhile isSpace).reverse.dropWhile isSpace).reverse

/-- The radix of a literal `0x…`, `0o…` or `0b…`. -/
def radixOf (c : Char) : Option Nat :=
  if c = 'x' ∨ c = 'X' then some 16
  else if c = 'o' ∨ c = 'O' then some 8
  else if c = 'b' ∨ c = 'B' then some 2
  else none

/-- Digits of a radix, at least one. -/
def digitsOf (radix : Nat) (cs : List Char) : Option Nat :=
  if cs = [] then none
  else (cs.mapM fun c => (hexDigit c).filter (· < radix)).map fun ds => ds.foldl (fun n d => radix * n + d) 0

/-- `BigInt(string)`: white space around the literal does not count, and nothing reads as zero. -/
def stringToBigInt (s : String) : Option Int :=
  match trim s.toList with
  | [] => some 0
  | '0' :: c :: cs =>
    match radixOf c with
    | some radix => (digitsOf radix cs).map fun n : Nat => (n : Int)
    | none => signed ('0' :: c :: cs)
  | cs => signed cs

theorem toNat_of_isDigit {c : Char} (h : c.isDigit = true) : 48 ≤ c.toNat ∧ c.toNat ≤ 57 := by
  unfold Char.isDigit at h
  rw [Bool.and_eq_true, decide_eq_true_eq, decide_eq_true_eq] at h
  exact h

theorem isSpace_of_isDigit {c : Char} (h : c.isDigit = true) : isSpace c = false := by
  have hc := toNat_of_isDigit h
  unfold isSpace
  rw [Bool.or_eq_false_iff]
  constructor
  · rw [decide_eq_false_iff_not]
    intro hmem
    simp at hmem
    omega
  · simp
    omega

theorem radixOf_of_isDigit {c : Char} (h : c.isDigit = true) : radixOf c = none := by
  have hne : ∀ d : Char, 57 < d.toNat → c ≠ d := by
    rintro d hd rfl
    exact absurd (toNat_of_isDigit h).2 (Nat.not_le.mpr hd)
  simp [radixOf, hne 'x' (by decide), hne 'X' (by decide), hne 'o' (by decide), hne 'O' (by decide),
    hne 'b' (by decide), hne 'B' (by decide)]

theorem isSpace_of_signed {cs : List Char} {n : Int} (h : signed cs = some n) {c : Char} (hc : c ∈ cs) :
    isSpace c = false := by
  have hdecimal : ∀ {ds : List Char} {f : Nat → Int}, (decimal ds).map f = some n → ∀ d ∈ ds, isSpace d = false := by
    intro ds f hds d hd
    obtain ⟨k, hk, -⟩ := Option.map_eq_some_iff.mp hds
    exact isSpace_of_isDigit ((decimal_eq_some hk).2.1 d hd)
  unfold signed at h
  split at h
  next =>
    rcases List.mem_cons.mp hc with rfl | hc
    · decide
    · exact hdecimal h c hc
  next =>
    rcases List.mem_cons.mp hc with rfl | hc
    · decide
    · exact hdecimal h c hc
  next => exact hdecimal h c hc

theorem dropWhile_of_forall {cs : List Char} (h : ∀ c ∈ cs, isSpace c = false) : cs.dropWhile isSpace = cs := by
  cases cs with
  | nil => rfl
  | cons c cs => rw [List.dropWhile_cons, h c (by simp)]; rfl

theorem trim_of_forall {cs : List Char} (h : ∀ c ∈ cs, isSpace c = false) : trim cs = cs := by
  rw [trim, dropWhile_of_forall h, dropWhile_of_forall fun c hc => h c (List.mem_reverse.mp hc), List.reverse_reverse]

/-- `BigInt` reads an integer literal as it stands. -/
theorem stringToBigInt_of_signed {s : String} {n : Int} (h : signed s.toList = some n) :
    stringToBigInt s = some n := by
  have htrim := trim_of_forall fun c hc => isSpace_of_signed h hc
  unfold stringToBigInt
  rw [htrim]
  split
  next hnil =>
    rw [hnil] at h
    cases h
  next c cs hcs =>
    rw [hcs] at h
    have hdigit : c.isDigit = true := by
      rw [signed_cons_of_isDigit (by decide)] at h
      obtain ⟨k, hk, -⟩ := Option.map_eq_some_iff.mp h
      exact (decimal_eq_some hk).2.1 c (by simp)
    rw [radixOf_of_isDigit hdigit]
    exact h
  next => exact h

/-! ## `validator.isInt` -/

/-- `validator.isInt(str, { min })`: an integer literal that is not below `min`. -/
def isInt (min : Option Int) (s : String) : Bool := (signed s.toList).any fun n => min.all fun m => m ≤ n

theorem isInt_eq_true {m : Int} {s : String} : isInt (some m) s = true ↔ ∃ n, signed s.toList = some n ∧ m ≤ n := by
  rw [isInt, Option.any_eq_true]
  simp

end Js
