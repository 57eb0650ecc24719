import Mathlib.Data.List.Nodup

/-!
# JavaScript's `Map`

A `Map` iterates over its entries in the order in which their keys were first set; setting a key again
keeps its place. `Js.Map K V` is the list of the entries with the proof that no key occurs twice. An object
that is used as a map from strings is one too, with its entries in the order of `Object.entries`.
-/

namespace Js

/-- A `Map`: its entries in insertion order. -/
structure Map (K V : Type) where
  entries : List (K × V)
  nodup : (entries.map Prod.fst).Nodup
deriving DecidableEq

/-- The names that every object inherits: reading one of them gives something although the object does not have it. -/
def inherited : List String :=
  ["constructor", "__proto__", "__defineGetter__", "__defineSetter__", "__lookupGetter__", "__lookupSetter__",
    "hasOwnProperty", "isPrototypeOf", "propertyIsEnumerable", "toLocaleString", "toString", "valueOf"]

namespace Map

variable {K V : Type}

def empty : Map K V := ⟨[], List.nodup_nil⟩

instance : Inhabited (Map K V) := ⟨empty⟩

def keys (m : Map K V) : List K := m.entries.map Prod.fst

variable [DecidableEq K]

def get (m : Map K V) (k : K) : Option V := (m.entries.find? fun e => e.1 = k).map Prod.snd

def has (m : Map K V) (k : K) : Bool := (m.get k).isSome

/-- The entries after `set(k, v)`. -/
def setEntries (k : K) (v : V) : List (K × V) → List (K × V)
  | [] => [(k, v)]
  | e :: es => if e.1 = k then (k, v) :: es else e :: setEntries k v es

theorem mem_setEntries_keys {k x : K} {v : V} {es : List (K × V)}
    (h : x ∈ (setEntries k v es).map Prod.fst) : x = k ∨ x ∈ es.map Prod.fst := by
  induction es with
  | nil => simpa [setEntries] using h
  | cons e es ih =>
      unfold setEntries at h
      split at h
      · simp only [List.map_cons, List.mem_cons] at h ⊢
        tauto
      · simp only [List.map_cons, List.mem_cons] at h ⊢
        rcases h with rfl | h
        · exact .inr (.inl rfl)
        · exact (ih h).imp_right .inr

theorem nodup_setEntries (k : K) (v : V) {es : List (K × V)} (h : (es.map Prod.fst).Nodup) :
    ((setEntries k v es).map Prod.fst).Nodup := by
  induction es with
  | nil => simp [setEntries]
  | cons e es ih =>
      rw [List.map_cons, List.nodup_cons] at h
      unfold setEntries
      split
      next hk =>
        rw [List.map_cons, List.nodup_cons]
        exact ⟨by rw [← hk]; exact h.1, h.2⟩
      next hk =>
        rw [List.map_cons, List.nodup_cons]
        refine ⟨fun hm => ?_, ih h.2⟩
        rcases mem_setEntries_keys hm with he | he
        · exact hk he
        · exact h.1 he

def set (m : Map K V) (k : K) (v : V) : Map K V := ⟨setEntries k v m.entries, nodup_setEntries k v m.nodup⟩

def delete (m : Map K V) (k : K) : Map K V :=
  ⟨m.entries.filter fun e => e.1 ≠ k, m.nodup.sublist (List.filter_sublist.map _)⟩

@[simp] theorem get_empty (k : K) : (empty : Map K V).get k = none := rfl

theorem find?_setEntries_self (k : K) (v : V) (es : List (K × V)) :
    (setEntries k v es).find? (fun e => e.1 = k) = some (k, v) := by
  induction es with
  | nil => simp [setEntries]
  | cons e es ih =>
      unfold setEntries
      split <;> simp_all

theorem find?_setEntries_of_ne {k x : K} (v : V) (h : x ≠ k) (es : List (K × V)) :
    (setEntries k v es).find? (fun e => e.1 = x) = es.find? fun e => e.1 = x := by
  induction es with
  | nil => simp [setEntries, Ne.symm h]
  | cons e es ih =>
      unfold setEntries
      split
      next hk =>
        subst hk
        rw [List.find?_cons_of_neg (by simpa using Ne.symm h), List.find?_cons_of_neg (by simpa using Ne.symm h)]
      next hk => simp only [List.find?_cons, ih]

@[simp] theorem get_set_self (m : Map K V) (k : K) (v : V) : (m.set k v).get k = some v := by
  simp [get, set, find?_setEntries_self]

theorem get_set_of_ne (m : Map K V) {k x : K} (v : V) (h : x ≠ k) : (m.set k v).get x = m.get x := by
  simp [get, set, find?_setEntries_of_ne v h]

theorem get_set (m : Map K V) (k x : K) (v : V) :
    (m.set k v).get x = if x = k then some v else m.get x := by
  split
  next h => rw [h, get_set_self]
  next h => exact get_set_of_ne m v h

theorem get_delete (m : Map K V) (k x : K) : (m.delete k).get x = if x = k then none else m.get x := by
  unfold get delete
  rw [List.find?_filter]
  split
  next h =>
    subst h
    simp
  next h =>
    congr 2
    funext e
    by_cases he : e.1 = x
    · simp [he, h]
    · simp [he]

theorem get_delete_of_ne (m : Map K V) {k x : K} (h : x ≠ k) : (m.delete k).get x = m.get x := by
  rw [get_delete, if_neg h]

@[simp] theorem get_delete_self (m : Map K V) (k : K) : (m.delete k).get k = none := by simp [get_delete]

theorem has_eq_true {m : Map K V} {k : K} : m.has k = true ↔ ∃ v, m.get k = some v := Option.isSome_iff_exists

theorem has_eq_false {m : Map K V} {k : K} : m.has k = false ↔ m.get k = none := by
  rw [has, Option.isSome_eq_false_iff, Option.isNone_iff_eq_none]

theorem mem_keys {m : Map K V} {k : K} : k ∈ m.keys ↔ ∃ v, m.get k = some v := by
  constructor
  · intro h
    obtain ⟨e, he, rfl⟩ := List.mem_map.mp h
    rw [← has_eq_true, has, get, Option.isSome_map, List.find?_isSome]
    exact ⟨e, he, by simp⟩
  · rintro ⟨v, hv⟩
    obtain ⟨e, he, rfl⟩ := Option.map_eq_some_iff.mp hv
    have hk := List.find?_some he
    exact List.mem_map.mpr ⟨e, List.mem_of_find?_eq_some he, by simpa using hk⟩

theorem mem_entries {m : Map K V} {k : K} {v : V} : (k, v) ∈ m.entries ↔ m.get k = some v := by
  constructor
  · intro h
    obtain ⟨v', hv'⟩ := mem_keys.mp (List.mem_map.mpr ⟨(k, v), h, rfl⟩)
    obtain ⟨e, he, rfl⟩ := Option.map_eq_some_iff.mp hv'
    have hk : e.1 = k := by simpa using List.find?_some he
    have := List.inj_on_of_nodup_map m.nodup (List.mem_of_find?_eq_some he) h hk
    rw [hv', this]
  · intro h
    obtain ⟨e, he, rfl⟩ := Option.map_eq_some_iff.mp h
    have hk : e.1 = k := by simpa using List.find?_some he
    exact hk ▸ List.mem_of_find?_eq_some he

omit [DecidableEq K] in
theorem eq_of_entries {m m' : Map K V} (h : m.entries = m'.entries) : m = m' := by
  cases m
  cases m'
  cases h
  rfl

theorem delete_of_get_eq_none {m : Map K V} {k : K} (h : m.get k = none) : m.delete k = m := by
  refine eq_of_entries (List.filter_eq_self.mpr fun e he => ?_)
  have hk := List.find?_eq_none.mp (Option.map_eq_none_iff.mp h) e he
  simpa using hk

/-- Delete the keys one after the other. -/
def deleteAll (m : Map K V) (ks : List K) : Map K V := ks.foldl delete m

theorem get_deleteAll (m : Map K V) (ks : List K) (k : K) :
    (m.deleteAll ks).get k = if k ∈ ks then none else m.get k := by
  induction ks generalizing m with
  | nil => simp [deleteAll]
  | cons x ks ih =>
      show ((m.delete x).deleteAll ks).get k = _
      rw [ih, get_delete]
      by_cases hk : k = x
      · simp [hk]
      · simp [hk]

theorem deleteAll_eq_self_iff {m : Map K V} {ks : List K} : m.deleteAll ks = m ↔ ∀ k ∈ ks, m.get k = none := by
  constructor
  · intro h k hk
    rw [← h, get_deleteAll, if_pos hk]
  · intro h
    induction ks with
    | nil => rfl
    | cons k ks ih =>
        show (m.delete k).deleteAll ks = m
        rw [delete_of_get_eq_none (h k (by simp))]
        exact ih fun x hx => h x (by simp [hx])

end Map

end Js
