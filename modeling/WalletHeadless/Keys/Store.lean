import Mathlib.Logic.Function.Basic

/-!
# A store of derived keys

A store holds keys by name, for good or as long as a session lasts. A key is derived from one that is there, under a
name that is free.

* `Store.derive`: the store with a child of a key; `derive_eq_some`;
* `Store.Fades`: the end of a session, at which temporary keys may vanish;
* `descend`: the key at the end of a path;
* `Store.Respects`: every key is one that its name is meant for; `Respects.update`, `Respects.fades`.
-/

namespace Keys

structure Entry (Key : Type) where
  key : Key
  temporary : Bool
deriving DecidableEq

/-- The keys by name. -/
abbrev Store (Name Key : Type) := Name → Option (Entry Key)

variable {Name Key : Type}

/-- The key at the end of a path of child indices. -/
def descend (child : Key → Nat → Key) (key : Key) (path : List Nat) : Key := path.foldl child key

namespace Store

/-- At the end of a session, temporary keys may vanish. -/
def Fades (s s' : Store Name Key) : Prop :=
  ∀ name, s' name = s name ∨ s' name = none ∧ ∃ e, s name = some e ∧ e.temporary = true

/-- Every key is one that its name is meant for. -/
def Respects (s : Store Name Key) (meant : Name → Key → Prop) : Prop := ∀ name e, s name = some e → meant name e.key

theorem Respects.fades {s s' : Store Name Key} {meant : Name → Key → Prop} (h : s.Respects meant)
    (hs : s.Fades s') : s'.Respects meant := by
  intro name e he
  rcases hs name with heq | ⟨hnone, -⟩
  · exact h name e (heq ▸ he)
  · rw [hnone] at he
    cases he

variable [DecidableEq Name]

theorem Respects.update {s : Store Name Key} {meant : Name → Key → Prop} (h : s.Respects meant) {name : Name}
    {e : Entry Key} (he : meant name e.key) : Respects (Function.update s name (some e)) meant := by
  intro x e' he'
  by_cases hx : x = name
  · subst hx
    rw [Function.update_self] at he'
    cases he'
    exact he
  · rw [Function.update_of_ne hx] at he'
    exact h x e' he'

/-- The store with the child `i` of the key `parent` under `name`: the parent must be there, and the name free. -/
def derive (child : Key → Nat → Key) (s : Store Name Key) (parent : Name) (i : Nat) (temporary : Bool)
    (name : Name) : Option (Store Name Key) :=
  if s name = none then
    (s parent).map fun e => Function.update s name (some ⟨child e.key i, temporary⟩)
  else none

variable {child : Key → Nat → Key} {s s' : Store Name Key} {parent name : Name} {i : Nat} {temporary : Bool}

theorem derive_eq_some : s.derive child parent i temporary name = some s' ↔
    s name = none ∧ ∃ e, s parent = some e ∧ s' = Function.update s name (some ⟨child e.key i, temporary⟩) := by
  unfold derive
  rw [Option.ite_none_right_eq_some, Option.map_eq_some_iff]
  simp only [eq_comm]

end Store

end Keys
