import Mathlib.Tactic.Common

/-!
# Asynchronous programs as trees of questions

A function that runs between suspension points of a cooperative scheduler is the tree of what it asks
of the rest of the world, in order: `ret a` and `throw e` end it, `op c k` asks `c` and goes on with
`k r` when the answer is `r`.

* `Prog.bind`, `Prog.catches`, `Prog.andFinally`: sequencing, `try … catch`, `try … finally`;
* `Prog.eval w p`: the outcome of `p` alone, when the world answers by `w`; `Prog.run p w`: its trace and its
  outcome, when the answers come one after the other;
* `Steps p t p'`: `p` asks and is told the events `t` and is then `p'`;
* `Prog.Uses A p`: everything that `p` can ask is in `A`.
-/

namespace Coop

/-- A program that asks questions `c : Op` with answers in `Ans c`. -/
inductive Prog {Op : Type} (Ans : Op → Type) (ε α : Type) : Type
  | ret (a : α)
  | throw (e : ε)
  | op (c : Op) (k : Ans c → Prog Ans ε α)

/-- A question with its answer. -/
abbrev Event {Op : Type} (Ans : Op → Type) := (c : Op) × Ans c

variable {Op : Type} {Ans : Op → Type} {ε α β γ : Type}

namespace Prog

def bind : Prog Ans ε α → (α → Prog Ans ε β) → Prog Ans ε β
  | ret a, f => f a
  | throw e, _ => throw e
  | op c k, f => op c fun r => (k r).bind f

/-- `try p catch e => h e`. -/
def catches : Prog Ans ε α → (ε → Prog Ans ε α) → Prog Ans ε α
  | ret a, _ => ret a
  | throw e, h => h e
  | op c k, h => op c fun r => (k r).catches h

/-- `try p finally f`: an error of `f` replaces the outcome of `p`. -/
def andFinally : Prog Ans ε α → Prog Ans ε Unit → Prog Ans ε α
  | ret a, f => f.bind fun _ => ret a
  | throw e, f => f.bind fun _ => throw e
  | op c k, f => op c fun r => (k r).andFinally f

instance : Monad (Prog Ans ε) where
  pure := ret
  bind := bind

instance : MonadExceptOf ε (Prog Ans ε) where
  throw := throw
  tryCatch := catches

/-- Ask `c` and return the answer. -/
def ask (c : Op) : Prog Ans ε (Ans c) := op c ret

/-- Throw what an answer throws. -/
def orThrow : Except ε α → Prog Ans ε α
  | .ok a => ret a
  | .error e => throw e

/-- Ask a question whose answer may be an error, and throw it. -/
def attempt (p : Prog Ans ε (Except ε α)) : Prog Ans ε α := p.bind orThrow

/-- `p` has returned or thrown. -/
def Ended : Prog Ans ε α → Prop
  | op _ _ => False
  | _ => True

instance (p : Prog Ans ε α) : Decidable p.Ended :=
  match p with
  | ret _ | throw _ => isTrue trivial
  | op _ _ => isFalse id

/-- `p` has returned. -/
def Returned : Prog Ans ε α → Prop
  | ret _ => True
  | _ => False

instance (p : Prog Ans ε α) : Decidable p.Returned :=
  match p with
  | ret _ => isTrue trivial
  | throw _ | op _ _ => isFalse id

/-- What `p` has thrown. -/
def thrown : Prog Ans ε α → Option ε
  | throw e => some e
  | _ => none

@[simp] theorem ended_ret (a : α) : (ret a : Prog Ans ε α).Ended := trivial

@[simp] theorem ended_throw (e : ε) : (throw e : Prog Ans ε α).Ended := trivial

@[simp] theorem not_ended_op (c : Op) (k : Ans c → Prog Ans ε α) : ¬ (op c k).Ended := id

theorem bind_eq (p : Prog Ans ε α) (f : α → Prog Ans ε β) : p >>= f = p.bind f := rfl

theorem tryCatch_eq (p : Prog Ans ε α) (h : ε → Prog Ans ε α) :
    MonadExcept.tryCatch p h = p.catches h := rfl

/-! ## Evaluation by an oracle -/

/-- The outcome of `p` when every question `c` is answered by `w c`. -/
def eval (w : (c : Op) → Ans c) : Prog Ans ε α → Except ε α
  | ret a => .ok a
  | throw e => .error e
  | op c k => (k (w c)).eval w

theorem eval_bind (w : (c : Op) → Ans c) (p : Prog Ans ε α) (f : α → Prog Ans ε β) :
    (p.bind f).eval w = (p.eval w).bind fun a => (f a).eval w := by
  induction p with
  | ret a => rfl
  | throw e => rfl
  | op c k ih => exact ih (w c)

/-- The value of a sequence comes from a value of its first part. -/
theorem eval_bind_ok {w : (c : Op) → Ans c} {p : Prog Ans ε α} {f : α → Prog Ans ε β} {b : β}
    (h : (p >>= f).eval w = .ok b) : ∃ a, p.eval w = .ok a ∧ (f a).eval w = .ok b := by
  rw [bind_eq, eval_bind] at h
  cases hp : p.eval w with
  | error e =>
      rw [hp] at h
      cases h
  | ok a =>
      rw [hp] at h
      exact ⟨a, rfl, h⟩

theorem eval_orThrow (w : (c : Op) → Ans c) (r : Except ε α) : (orThrow r : Prog Ans ε α).eval w = r := by
  cases r <;> rfl

theorem eval_attempt_ask (w : (c : Op) → Ans c) (p : Prog Ans ε (Except ε α)) (r : Except ε α)
    (h : p.eval w = .ok r) : p.attempt.eval w = r := by
  rw [attempt, eval_bind, h]
  cases r <;> rfl

theorem eval_catches (w : (c : Op) → Ans c) (p : Prog Ans ε α) (h : ε → Prog Ans ε α) :
    (p.catches h).eval w = match p.eval w with
      | .ok a => .ok a
      | .error e => (h e).eval w := by
  induction p with
  | ret a => rfl
  | throw e => rfl
  | op c k ih => exact ih (w c)

/-! ## What a program can ask -/

/-- Every question of `p`, whatever it is told, is in `A`. -/
def Uses (A : Op → Prop) : Prog Ans ε α → Prop
  | ret _ => True
  | throw _ => True
  | op c k => A c ∧ ∀ r, (k r).Uses A

@[simp] theorem uses_ret (A : Op → Prop) (a : α) : (ret a : Prog Ans ε α).Uses A := trivial

@[simp] theorem uses_throw (A : Op → Prop) (e : ε) : (throw e : Prog Ans ε α).Uses A := trivial

theorem Uses.bind {A : Op → Prop} {p : Prog Ans ε α} {f : α → Prog Ans ε β} (hp : p.Uses A)
    (hf : ∀ a, (f a).Uses A) : (p.bind f).Uses A := by
  induction p with
  | ret a => exact hf a
  | throw e => trivial
  | op c k ih => exact ⟨hp.1, fun r => ih r (hp.2 r)⟩

theorem Uses.catches {A : Op → Prop} {p : Prog Ans ε α} {h : ε → Prog Ans ε α} (hp : p.Uses A)
    (hh : ∀ e, (h e).Uses A) : (p.catches h).Uses A := by
  induction p with
  | ret a => trivial
  | throw e => exact hh e
  | op c k ih => exact ⟨hp.1, fun r => ih r (hp.2 r)⟩

theorem Uses.andFinally {A : Op → Prop} {p : Prog Ans ε α} {f : Prog Ans ε Unit} (hp : p.Uses A)
    (hf : f.Uses A) : (p.andFinally f).Uses A := by
  induction p with
  | ret a => exact hf.bind fun _ => trivial
  | throw e => exact hf.bind fun _ => trivial
  | op c k ih => exact ⟨hp.1, fun r => ih r (hp.2 r)⟩

theorem uses_ask {A : Op → Prop} {c : Op} (h : A c) : (ask c : Prog Ans ε (Ans c)).Uses A :=
  ⟨h, fun _ => trivial⟩

theorem uses_orThrow (A : Op → Prop) (r : Except ε α) : (orThrow r : Prog Ans ε α).Uses A := by
  cases r <;> trivial

theorem Uses.attempt {A : Op → Prop} {p : Prog Ans ε (Except ε α)} (hp : p.Uses A) : p.attempt.Uses A :=
  hp.bind fun r => uses_orThrow A r

theorem Uses.mono {A B : Op → Prop} (hAB : ∀ c, A c → B c) {p : Prog Ans ε α} (hp : p.Uses A) :
    p.Uses B := by
  induction p with
  | ret a => trivial
  | throw e => trivial
  | op c k ih => exact ⟨hAB c hp.1, fun r => ih r (hp.2 r)⟩

end Prog

/-! ## Traces -/

/-- `p` asks and is told `t`, and is then `p'`. -/
inductive Steps : Prog Ans ε α → List (Event Ans) → Prog Ans ε α → Prop
  | nil (p : Prog Ans ε α) : Steps p [] p
  | cons (c : Op) (k : Ans c → Prog Ans ε α) (r : Ans c) {t : List (Event Ans)} {p : Prog Ans ε α}
      (h : Steps (k r) t p) : Steps (.op c k) (⟨c, r⟩ :: t) p

/-- The trace and the outcome of `p` when its `n`-th question `c` is answered by `w n c`. -/
def Prog.run : Prog Ans ε α → (Nat → (c : Op) → Ans c) → List (Event Ans) × Except ε α
  | ret a, _ => ([], .ok a)
  | throw e, _ => ([], .error e)
  | op c k, w => (⟨c, w 0 c⟩ :: ((k (w 0 c)).run fun n => w (n + 1)).1, ((k (w 0 c)).run fun n => w (n + 1)).2)

theorem Prog.steps_run (p : Prog Ans ε α) (w : Nat → (c : Op) → Ans c) :
    Steps p (p.run w).1 (orThrow (p.run w).2) := by
  induction p generalizing w with
  | ret a => exact .nil _
  | throw e => exact .nil _
  | op c k ih => exact .cons c k (w 0 c) (ih (w 0 c) _)

theorem Prog.of_mem_run {p : Prog Ans ε α} {w : Nat → (c : Op) → Ans c} {e : Event Ans} (h : e ∈ (p.run w).1) :
    ∃ n, e.2 = w n e.1 := by
  induction p generalizing w with
  | ret a => cases h
  | throw e => cases h
  | op c k ih =>
      rcases List.mem_cons.mp h with rfl | h
      · exact ⟨0, rfl⟩
      · obtain ⟨n, hn⟩ := ih (w 0 c) h
        exact ⟨n + 1, hn⟩

/-- The value of a sequence comes from a value of its first part. -/
theorem Prog.run_bind_ok {w : Nat → (c : Op) → Ans c} {p : Prog Ans ε α} {f : α → Prog Ans ε β} {b : β}
    (h : ((p >>= f).run w).2 = .ok b) : ∃ a w', (p.run w).2 = .ok a ∧ ((f a).run w').2 = .ok b := by
  induction p generalizing w with
  | ret a => exact ⟨a, w, rfl, h⟩
  | throw e => cases h
  | op c k ih => exact ih (w 0 c) h

theorem Prog.run_orThrow (w : Nat → (c : Op) → Ans c) (r : Except ε α) :
    ((orThrow r : Prog Ans ε α).run w).2 = r := by
  cases r <;> rfl

theorem Steps.trans {p q r : Prog Ans ε α} {t u : List (Event Ans)} (h : Steps p t q) (h' : Steps q u r) :
    Steps p (t ++ u) r := by
  induction h with
  | nil p => exact h'
  | cons c k a _ ih => exact .cons c k a (ih h')

/-- An event of `q` comes after one of `p`. -/
def Follows (p q : Event Ans → Prop) (t : List (Event Ans)) : Prop :=
  ∃ u e v, t = u ++ e :: v ∧ (∃ e' ∈ u, p e') ∧ q e

theorem not_follows_nil {p q : Event Ans → Prop} : ¬ Follows p q [] := by
  rintro ⟨u, e, v, h, -⟩
  simp at h

theorem Follows.mem {p q : Event Ans → Prop} {t : List (Event Ans)} (h : Follows p q t) :
    (∃ e ∈ t, p e) ∧ ∃ e ∈ t, q e := by
  obtain ⟨u, e, v, rfl, ⟨e', he', hp⟩, hq⟩ := h
  exact ⟨⟨e', by simp [he'], hp⟩, e, by simp, hq⟩

theorem Follows.mono {p p' q : Event Ans → Prop} {t : List (Event Ans)} (h : Follows p q t)
    (hp : ∀ e, p e → p' e) : Follows p' q t := by
  obtain ⟨u, e, v, rfl, ⟨e', he', he⟩, hq⟩ := h
  exact ⟨u, e, v, rfl, ⟨e', he', hp e' he⟩, hq⟩

theorem follows_snoc {p q : Event Ans → Prop} {t : List (Event Ans)} {e : Event Ans} :
    Follows p q (t ++ [e]) ↔ Follows p q t ∨ (∃ e' ∈ t, p e') ∧ q e := by
  constructor
  · rintro ⟨u, e', v, h, hp, hq⟩
    rcases List.eq_nil_or_concat v with rfl | ⟨v', e'', rfl⟩
    · obtain ⟨rfl, he⟩ := List.append_inj' h rfl
      rw [List.singleton_inj.mp he]
      exact .inr ⟨hp, hq⟩
    · rw [List.concat_eq_append, ← List.cons_append, ← List.append_assoc] at h
      obtain ⟨rfl, -⟩ := List.append_inj' h rfl
      exact .inl ⟨u, e', v', rfl, hp, hq⟩
  · rintro (⟨u, e', v, rfl, hp, hq⟩ | ⟨hp, hq⟩)
    · exact ⟨u, e', v ++ [e], by simp, hp, hq⟩
    · exact ⟨t, e, [], rfl, hp, hq⟩

theorem follows_cons {p q : Event Ans → Prop} {e : Event Ans} {t : List (Event Ans)} :
    Follows p q (e :: t) ↔ (p e ∧ ∃ e' ∈ t, q e') ∨ Follows p q t := by
  constructor
  · rintro ⟨u, e', v, h, ⟨e₀, he₀, hp⟩, hq⟩
    cases u with
    | nil => cases he₀
    | cons a u =>
        obtain ⟨rfl, rfl⟩ := List.cons_eq_cons.mp h
        rcases List.mem_cons.mp he₀ with rfl | he₀
        · exact .inl ⟨hp, e', by simp, hq⟩
        · exact .inr ⟨u, e', v, rfl, ⟨e₀, he₀, hp⟩, hq⟩
  · rintro (⟨hp, e', he', hq⟩ | ⟨u, e', v, rfl, ⟨e₀, he₀, hp⟩, hq⟩)
    · obtain ⟨u, v, rfl⟩ := List.append_of_mem he'
      exact ⟨e :: u, e', v, rfl, ⟨e, by simp, hp⟩, hq⟩
    · exact ⟨e :: u, e', v, rfl, ⟨e₀, by simp [he₀], hp⟩, hq⟩

instance decidableFollows (p q : Event Ans → Prop) [DecidablePred p] [DecidablePred q] :
    (t : List (Event Ans)) → Decidable (Follows p q t)
  | [] => isFalse not_follows_nil
  | _ :: t =>
    haveI := decidableFollows p q t
    decidable_of_iff _ follows_cons.symm

end Coop
