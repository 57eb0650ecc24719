import Mathlib.Tactic.Common
import WalletHeadless.Js.Number

/-!
# The amounts of a request

The amounts and output values of a request are checked as texts and read as integers.

* `JsonValue`: a value in the body of a request; `JsonValue.text`: `String(value)`;
* `bigIntCoercibleSchema`, `bigIntSanitizer`, `bigIntValidator`: `schemas.js`;
* `AmountField`: the amounts that the routes require, and what a handler receives of each;
* `receives_iff`.
-/

namespace WalletHeadless

open Js

/-! ## Values -/

/-- A number: the integer that it is, if it is one, and `String(number)`. A text that is an integer literal is the
text of an integer, and a positive literal of a positive one. -/
structure JsNumber where
  value : Option Int
  text : String
  ofText : ∀ n, signed text.toList = some n → ∃ m, value = some m ∧ (1 ≤ n → 1 ≤ m)

/-- An integer whose text has all its digits. -/
def JsNumber.ofInt (n : Int) : JsNumber where
  value := some n
  text := toString n
  ofText k hk := ⟨n, rfl, by rw [signed_toString] at hk; cases hk; exact id⟩

/-- A value of a parsed body; large integers are parsed as `BigInt`s. -/
inductive JsonValue
  | undefined
  | null
  | bool (b : Bool)
  | number (x : JsNumber)
  | bigint (n : Int)
  | string (s : String)
  | array (items : List JsonValue)
  | object

namespace JsonValue

mutual

/-- `String(value)`. -/
def text : JsonValue → String
  | undefined => "undefined"
  | null => "null"
  | bool b => if b then "true" else "false"
  | number x => x.text
  | bigint n => toString n
  | string s => s
  | array items => ",".intercalate (texts items)
  | object => "[object Object]"

/-- The texts of the items of an array. -/
def texts : List JsonValue → List String
  | [] => []
  | undefined :: items => "" :: texts items
  | null :: items => "" :: texts items
  | value :: items => text value :: texts items

end

def isArray : JsonValue → Bool
  | array _ => true
  | _ => false

/-- The integer that a value denotes, as `BigInt` reads a `bigint`, a number or a string. -/
def integer : JsonValue → Option Int
  | number x => x.value
  | bigint n => some n
  | string s => stringToBigInt s
  | _ => none

end JsonValue

/-! ## `schemas.js` -/

/-- What a handler finds under the name of the field. -/
inductive Received
  | undefined
  | null
  | bigint (n : Int)
deriving DecidableEq

/-- `bigIntCoercibleSchema`: a `bigint`, a number or a string, as `BigInt` reads it. -/
def bigIntCoercibleSchema (value : JsonValue) : Option Int := value.integer

def bigIntSanitizer (value : JsonValue) : Received :=
  match value with
  | .undefined => .undefined
  | .null => .null
  | value =>
    match bigIntCoercibleSchema value with
    | some n => .bigint n
    | none => .undefined

def bigIntValidator (min : Option Int) (value : JsonValue) : Bool := isInt min value.text

/-! ## The routes -/

/-- The required amounts and the values of outputs. -/
inductive AmountField
  | simpleSendTxValue
  | sendTxOutputValue
  | txProposalOutputValue
  | p2shOutputValue
  | p2shCreateTokenAmount
  | p2shMintTokensAmount
  | p2shMeltTokensAmount
  | swapSendValue
  | swapReceiveValue
  | mintTokensAmount
  | meltTokensAmount
  | createNftAmount
  | createTokenAmount
deriving DecidableEq

/-- `custom(bigIntValidator({ min: 1 })).customSanitizer(bigIntSanitizer)`: nothing is received of a value that is
refused. -/
def sanitizedAmount (value : JsonValue) : Option Received :=
  if bigIntValidator (some 1) value then some (bigIntSanitizer value) else none

/-- `createTokenOptions.parse`, for the field `amount`. -/
def parsedAmount (value : JsonValue) : Option Received := (bigIntCoercibleSchema value).map .bigint

def AmountField.receive : AmountField → JsonValue → Option Received
  | createTokenAmount => parsedAmount
  | _ => sanitizedAmount

/-- A handler that is reached receives the integer that the value denotes, and it is positive. -/
def AmountField.Receives (field : AmountField) (value : JsonValue) : Prop :=
  ∀ received, field.receive value = some received →
    ∃ n, received = .bigint n ∧ 1 ≤ n ∧ value.integer = some n

/-- No array is taken for the integer of its only item; the amount of a token is not below one. -/
def AmountField.Supplied : AmountField → JsonValue → Prop
  | createTokenAmount, value => ∀ n, value.integer = some n → 1 ≤ n
  | _, value => value.isArray = true → bigIntValidator (some 1) value = false

/-! ## What is received -/

theorem validated_integer {value : JsonValue} (h : bigIntValidator (some 1) value = true)
    (harray : value.isArray = false) : ∃ n, value.integer = some n ∧ 1 ≤ n := by
  obtain ⟨n, hn, hle⟩ := isInt_eq_true.mp h
  cases value with
  | number x =>
      obtain ⟨m, hm, hpos⟩ := x.ofText n hn
      exact ⟨m, hm, hpos hle⟩
  | bigint k =>
      have hn : signed (toString k).toList = some n := hn
      rw [signed_toString] at hn
      cases hn
      exact ⟨n, rfl, hle⟩
  | string s => exact ⟨n, stringToBigInt_of_signed hn, hle⟩
  | array items => cases harray
  | bool b => cases b <;> cases hn
  | _ => cases hn

theorem sanitizer_of_integer {value : JsonValue} {n : Int} (h : value.integer = some n) :
    bigIntSanitizer value = .bigint n := by
  unfold bigIntSanitizer bigIntCoercibleSchema
  split
  next => cases h
  next => cases h
  next => rw [h]

theorem sanitizedAmount_iff (value : JsonValue) :
    (∀ received, sanitizedAmount value = some received →
        ∃ n, received = .bigint n ∧ 1 ≤ n ∧ value.integer = some n) ↔
      (value.isArray = true → bigIntValidator (some 1) value = false) := by
  constructor
  · intro h harray
    by_contra hvalid
    rw [Bool.not_eq_false] at hvalid
    cases value with
    | array items =>
        obtain ⟨n, hn, -⟩ := h .undefined (if_pos hvalid)
        cases hn
    | _ => cases harray
  · intro h received hreceived
    unfold sanitizedAmount at hreceived
    split at hreceived
    next hvalid =>
      have harray : value.isArray = false := by
        by_contra harray
        rw [Bool.not_eq_false] at harray
        rw [h harray] at hvalid
        cases hvalid
      obtain ⟨n, hn, hle⟩ := validated_integer hvalid harray
      rw [sanitizer_of_integer hn] at hreceived
      cases hreceived
      exact ⟨n, rfl, hle, hn⟩
    next => cases hreceived

theorem parsedAmount_iff (value : JsonValue) :
    (∀ received, parsedAmount value = some received →
        ∃ n, received = .bigint n ∧ 1 ≤ n ∧ value.integer = some n) ↔
      ∀ n, value.integer = some n → 1 ≤ n := by
  unfold parsedAmount bigIntCoercibleSchema
  constructor
  · intro h n hn
    obtain ⟨m, hm, hle, -⟩ := h (.bigint n) (by rw [hn]; rfl)
    cases hm
    exact hle
  · intro h received hreceived
    obtain ⟨n, hn, rfl⟩ := Option.map_eq_some_iff.mp hreceived
    exact ⟨n, rfl, h n hn, hn⟩

/-- What a handler receives is the positive integer that was supplied, except for an array that looks like one and,
where a token is created, for an integer below one. -/
theorem receives_iff (field : AmountField) (value : JsonValue) : field.Receives value ↔ field.Supplied value := by
  cases field with
  | createTokenAmount => exact parsedAmount_iff value
  | _ => exact sanitizedAmount_iff value

/-- An array with the text of an integer, and a token of which nothing is created. -/
theorem array_and_zero_received :
    (bigIntValidator (some 1) (.array [.string "5"]) = true ∧
        bigIntSanitizer (.array [.string "5"]) = .undefined ∧
        ¬ AmountField.mintTokensAmount.Receives (.array [.string "5"])) ∧
      AmountField.createTokenAmount.receive (.number (.ofInt 0)) = some (.bigint 0) ∧
        ¬ AmountField.createTokenAmount.Receives (.number (.ofInt 0)) := by
  refine ⟨⟨by decide, rfl, fun h => ?_⟩, rfl, fun h => ?_⟩
  · obtain ⟨n, hn, -⟩ := h .undefined rfl
    cases hn
  · obtain ⟨n, hn, hle, -⟩ := h (.bigint 0) rfl
    cases hn
    exact absurd hle (by decide)

end WalletHeadless
