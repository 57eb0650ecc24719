import Mathlib.Data.List.Lex
import WalletHeadless.Js.Buffer
import WalletHeadless.Js.Text

/-!
# Sorting by a key

* `unitsLE_iff`, `units_injective`: the order of strings is the lexicographic order of their code units, which tell
  strings apart;
* `Buffer.toHex_injective`;
* `sortBy`, `sortBy_of_perm`, `sublist_sortBy`: sorting by keys that are all different.
-/

namespace Js

theorem unitsLE_iff {xs ys : List Nat} : unitsLE xs ys = true ↔ xs ≤ ys := by
  rw [← not_lt]
  induction xs generalizing ys with
  | nil => simp [unitsLE]
  | cons x xs ih =>
      cases ys with
      | nil => simp [unitsLE]
      | cons y ys =>
          rw [List.cons_lt_cons_iff, not_or, not_and, not_lt, ← ih]
          simp only [unitsLE, Bool.or_eq_true, decide_eq_true_eq, Bool.and_eq_true, beq_iff_eq]
          constructor
          · rintro (h | ⟨rfl, h⟩)
            · exact ⟨h.le, fun he => absurd he h.ne'⟩
            · exact ⟨le_rfl, fun _ => h⟩
          · rintro ⟨hle, h⟩
            exact hle.lt_or_eq.imp_right fun he => ⟨he, h he.symm⟩

/-- A character is its first code units, whatever follows. -/
theorem utf16_append_inj {c d : Char} {xs ys : List Nat} (h : utf16 c ++ xs = utf16 d ++ ys) : c = d ∧ xs = ys := by
  have hc := c.valid
  have hd := d.valid
  rw [Char.ext_iff, ← UInt32.toNat_inj]
  change c.toNat = d.toNat ∧ xs = ys
  unfold UInt32.isValidChar Nat.isValidChar at hc hd
  change c.toNat < _ ∨ _ < c.toNat ∧ c.toNat < _ at hc
  change d.toNat < _ ∨ _ < d.toNat ∧ d.toNat < _ at hd
  unfold utf16 at h
  split at h <;> split at h
  · simp only [List.cons_append, List.nil_append, List.cons.injEq] at h
    exact h
  · simp only [List.cons_append, List.nil_append, List.cons.injEq] at h
    omega
  · simp only [List.cons_append, List.nil_append, List.cons.injEq] at h
    omega
  · simp only [List.cons_append, List.nil_append, List.cons.injEq] at h
    refine ⟨by omega, h.2.2⟩

theorem utf16_ne_nil (c : Char) : utf16 c ≠ [] := by
  unfold utf16
  split <;> simp

theorem flatMap_utf16_inj {cs ds : List Char} (h : cs.flatMap utf16 = ds.flatMap utf16) : cs = ds := by
  induction cs generalizing ds with
  | nil =>
      cases ds with
      | nil => rfl
      | cons d ds => simp [utf16_ne_nil] at h
  | cons c cs ih =>
      cases ds with
      | nil => simp [utf16_ne_nil] at h
      | cons d ds =>
          rw [List.flatMap_cons, List.flatMap_cons] at h
          obtain ⟨rfl, hrest⟩ := utf16_append_inj h
          rw [ih hrest]

theorem units_injective : Function.Injective units := fun _ _ h => String.toList_inj.mp (flatMap_utf16_inj h)

/-! ## Hexadecimal -/

theorem hexChar_inj {m n : Nat} (hm : m < 16) (hn : n < 16) (h : hexChar m = hexChar n) : m = n := by
  have hall : ∀ m < 16, ∀ n < 16, hexChar m = hexChar n → m = n := by decide
  exact hall m hm n hn h

theorem Buffer.toHex_injective : Function.Injective Buffer.toHex := by
  intro b c h
  have hchars := String.ofList_injective h
  clear h
  induction b generalizing c with
  | nil =>
      cases c with
      | nil => rfl
      | cons y c => simp at hchars
  | cons x b ih =>
      cases c with
      | nil => simp at hchars
      | cons y c =>
          simp only [List.flatMap_cons, List.cons_append, List.nil_append, List.cons.injEq] at hchars
          obtain ⟨hhigh, hlow, hrest⟩ := hchars
          have hx := x.toNat_lt
          have hy := y.toNat_lt
          have h₁ := hexChar_inj (by omega) (by omega) hhigh
          have h₂ := hexChar_inj (by omega) (by omega) hlow
          rw [ih hrest, UInt8.toNat_inj.mp (show x.toNat = y.toNat by omega)]

/-! ## `_.sortBy` -/

variable {A : Type}

/-- The order of two values by their keys. -/
def KeyLE (key : A → String) (a b : A) : Prop := unitsLE (units (key a)) (units (key b)) = true

instance (key : A → String) : DecidableRel (KeyLE key) := fun _ _ => inferInstanceAs (Decidable (_ = true))

/-- `_.sortBy(l, key)`: values with equal keys keep their order. -/
def sortBy (key : A → String) (l : List A) : List A := l.insertionSort (KeyLE key)

theorem keyLE_iff {key : A → String} {a b : A} : KeyLE key a b ↔ units (key a) ≤ units (key b) := unitsLE_iff

instance (key : A → String) : Std.Total (KeyLE key) :=
  ⟨fun a b => by simpa only [keyLE_iff] using le_total (units (key a)) (units (key b))⟩

instance (key : A → String) : IsTrans A (KeyLE key) :=
  ⟨fun _ _ _ hab hbc => keyLE_iff.mpr ((keyLE_iff.mp hab).trans (keyLE_iff.mp hbc))⟩

theorem perm_sortBy (key : A → String) (l : List A) : (sortBy key l).Perm l := List.perm_insertionSort _ l

theorem sortBy_map {B : Type} (key : B → String) (f : A → B) (l : List A) :
    sortBy key (l.map f) = (sortBy (fun a => key (f a)) l).map f :=
  (List.map_insertionSort (r := KeyLE fun a => key (f a)) (s := KeyLE key) f l fun _ _ _ _ => Iff.rfl).symm

/-- Keys that are all different come in strict order. -/
theorem pairwise_sortBy {key : A → String} {l : List A} (h : (l.map key).Nodup) :
    (sortBy key l).Pairwise fun a b => units (key a) < units (key b) := by
  have hne : (sortBy key l).Pairwise fun a b => key a ≠ key b :=
    List.pairwise_map.mp ((((perm_sortBy key l).map key).nodup_iff).mpr h)
  refine ((List.pairwise_insertionSort (r := KeyLE key) l).and hne).imp fun {a b} hab => ?_
  exact lt_of_le_of_ne (keyLE_iff.mp hab.1) fun he => hab.2 (units_injective he)

instance (key : A → String) : Std.Antisymm fun a b : A => units (key a) < units (key b) :=
  ⟨fun _ _ hab hba => absurd hab hba.asymm⟩

/-- The order of the values does not matter. -/
theorem sortBy_of_perm {key : A → String} {l l' : List A} (h : l.Perm l') (hkeys : (l.map key).Nodup) :
    sortBy key l = sortBy key l' :=
  List.Perm.eq_of_pairwise' (pairwise_sortBy hkeys) (pairwise_sortBy (((h.map key).nodup_iff).mp hkeys))
    (((perm_sortBy key l).trans h).trans (perm_sortBy key l').symm)

/-- Some of the values come in the order that they have among all. -/
theorem sublist_sortBy {key : A → String} {l l' : List A} (h : l ⊆ l') (hkeys : (l.map key).Nodup)
    (hkeys' : (l'.map key).Nodup) : (sortBy key l).Sublist (sortBy key l') := by
  refine List.sublist_of_subperm_of_pairwise ?_ (pairwise_sortBy hkeys) (pairwise_sortBy hkeys')
  have hnodup : (sortBy key l).Nodup := (perm_sortBy key l).nodup_iff.mpr (List.Nodup.of_map key hkeys)
  refine List.subperm_of_subset hnodup fun a ha => ?_
  exact (perm_sortBy key l').mem_iff.mpr (h ((perm_sortBy key l).mem_iff.mp ha))

end Js
