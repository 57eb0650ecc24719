import Mathlib.Logic.Function.Basic
import WalletHeadless.Coop.Protocol

/-!
# A cooperative scheduler

A `World` answers the questions of the programs on a state `σ`: a question that does not `wait` is
answered at once, a question that waits suspends its program, and the scheduler may run any other
program before it is answered. Between two suspensions nothing else runs.

* `Sys.step`: a new program arrives, a suspended one is answered and runs to its next suspension, or
  the outside acts on the state by itself;
* `Reach W body ok S₀ S`: `S` is reached from `S₀` by steps that meet `ok`;
* `Reach.steps`: the log of every program is a trace of it;
* `World.restrict`, `Sys.Meets`: the steps of which every question that is answered meets a condition.
-/

namespace Coop

open Prog

variable {Op : Type} {Ans : Op → Type} {ε α σ Ext ρ Q : Type}

/-- What answers the questions of the programs. -/
structure World (Ans : Op → Type) (σ Ext : Type) where
  /-- Whether a question suspends the program that asks it. -/
  waits : Op → Bool
  /-- What asking a question that waits does at once. -/
  call : Nat → Op → σ → σ
  /-- The answer to a question of program `i` when the outside proposes `w`. -/
  perform : Nat → (c : Op) → Ans c → σ → Option (Ans c × σ)
  /-- What the outside does by itself. -/
  ext : Ext → σ → Option σ

/-- What the outside proposes for the questions of one step, in the order they come. -/
abbrev Proposal (Ans : Op → Type) := Nat → (c : Op) → Ans c

/-- A program in the system: the request it serves, what it has asked and been told, what is left. -/
structure Proc (Ans : Op → Type) (ε α ρ : Type) where
  req : ρ
  log : List (Event Ans)
  rest : Prog Ans ε α

structure Sys (Ans : Op → Type) (ε α σ ρ : Type) where
  state : σ
  procs : List (Proc Ans ε α ρ)

inductive Label (Ans : Op → Type) (ρ Ext : Type) where
  | spawn (req : ρ) (w : Proposal Ans)
  | resume (i : Nat) (w : Proposal Ans)
  | ext (e : Ext)

/-- Run program `i` up to its next suspension or its end. -/
def settle (W : World Ans σ Ext) (i : Nat) :
    Prog Ans ε α → Proposal Ans → σ → Option (List (Event Ans) × Prog Ans ε α × σ)
  | .ret a, _, s => some ([], .ret a, s)
  | .throw e, _, s => some ([], .throw e, s)
  | .op c k, w, s =>
    if W.waits c then some ([], .op c k, W.call i c s)
    else (W.perform i c (w 0 c) s).bind fun (r, s') =>
      (settle W i (k r) (fun n => w (n + 1)) s').map fun (t, p, s'') => (⟨c, r⟩ :: t, p, s'')

namespace Sys

/-- Answer a suspended program and run it up to its next suspension. -/
def resumeWith (W : World Ans σ Ext) (S : Sys Ans ε α σ ρ) (i : Nat) (w : Proposal Ans) (req : ρ)
    (log : List (Event Ans)) : Prog Ans ε α → Option (Sys Ans ε α σ ρ)
  | .op c k => (W.perform i c (w 0 c) S.state).bind fun (r, s) =>
      (settle W i (k r) (fun n => w (n + 1)) s).map fun (t, p, s') =>
        ⟨s', S.procs.set i ⟨req, log ++ ⟨c, r⟩ :: t, p⟩⟩
  | _ => none

def step (W : World Ans σ Ext) (body : ρ → Prog Ans ε α) :
    Label Ans ρ Ext → Sys Ans ε α σ ρ → Option (Sys Ans ε α σ ρ)
  | .spawn req w, S => (settle W S.procs.length (body req) w S.state).map fun (t, p, s) =>
      ⟨s, S.procs ++ [⟨req, t, p⟩]⟩
  | .resume i w, S => S.procs[i]?.bind fun p => S.resumeWith W i w p.req p.log p.rest
  | .ext e, S => (W.ext e S.state).map fun s => ⟨s, S.procs⟩

/-- Take the steps one after the other, as long as they meet `ok`. -/
def exec (W : World Ans σ Ext) (body : ρ → Prog Ans ε α) (ok : Sys Ans ε α σ ρ → Label Ans ρ Ext → Prop)
    [∀ S l, Decidable (ok S l)] :
    List (Label Ans ρ Ext) → Sys Ans ε α σ ρ → Option (Sys Ans ε α σ ρ)
  | [], S => some S
  | l :: ls, S => if ok S l then (step W body l S).bind (exec W body ok ls) else none

end Sys

/-- `S` is reached from `S₀` by steps that meet `ok`. -/
inductive Reach (W : World Ans σ Ext) (body : ρ → Prog Ans ε α)
    (ok : Sys Ans ε α σ ρ → Label Ans ρ Ext → Prop) (S₀ : Sys Ans ε α σ ρ) : Sys Ans ε α σ ρ → Prop
  | start : Reach W body ok S₀ S₀
  | step {S S' : Sys Ans ε α σ ρ} {l : Label Ans ρ Ext} (h : Reach W body ok S₀ S) (hok : ok S l)
      (hs : S.step W body l = some S') : Reach W body ok S₀ S'

theorem Reach.mono {W : World Ans σ Ext} {body : ρ → Prog Ans ε α}
    {ok ok' : Sys Ans ε α σ ρ → Label Ans ρ Ext → Prop} {S₀ S : Sys Ans ε α σ ρ}
    (hok : ∀ S l, ok S l → ok' S l) (h : Reach W body ok S₀ S) : Reach W body ok' S₀ S := by
  induction h with
  | start => exact .start
  | step _ hl hs ih => exact .step ih (hok _ _ hl) hs

theorem Reach.exec {W : World Ans σ Ext} {body : ρ → Prog Ans ε α}
    {ok : Sys Ans ε α σ ρ → Label Ans ρ Ext → Prop} [∀ S l, Decidable (ok S l)] {S₀ S S' : Sys Ans ε α σ ρ}
    {ls : List (Label Ans ρ Ext)} (h : Reach W body ok S₀ S) (hs : S.exec W body ok ls = some S') :
    Reach W body ok S₀ S' := by
  induction ls generalizing S with
  | nil =>
      cases hs
      exact h
  | cons l ls ih =>
      obtain ⟨hl, hs⟩ := Option.ite_none_right_eq_some.mp hs
      obtain ⟨S₁, h₁, hs⟩ := Option.bind_eq_some_iff.mp hs
      exact ih (h.step hl h₁) hs

/-! ## Logs -/

theorem steps_of_settle {W : World Ans σ Ext} {i : Nat} {p p' : Prog Ans ε α} {w : Proposal Ans}
    {s s' : σ} {t : List (Event Ans)} (h : settle W i p w s = some (t, p', s')) : Steps p t p' := by
  induction p generalizing w s t with
  | ret a => cases h; exact .nil _
  | throw e => cases h; exact .nil _
  | op c k ih =>
      unfold settle at h
      split at h
      · cases h; exact .nil _
      · obtain ⟨⟨r, s₁⟩, -, h⟩ := Option.bind_eq_some_iff.mp h
        obtain ⟨⟨t₁, p₁, s₂⟩, h₁, h₂⟩ := Option.map_eq_some_iff.mp h
        cases h₂
        exact .cons c k r (ih r h₁)

theorem resumeWith_eq_some {W : World Ans σ Ext} {S S' : Sys Ans ε α σ ρ} {i : Nat} {w : Proposal Ans}
    {req : ρ} {log : List (Event Ans)} {p : Prog Ans ε α}
    (h : S.resumeWith W i w req log p = some S') :
    ∃ c k r s t p' s', p = .op c k ∧ W.perform i c (w 0 c) S.state = some (r, s) ∧
      settle W i (k r) (fun n => w (n + 1)) s = some (t, p', s') ∧
      S' = ⟨s', S.procs.set i ⟨req, log ++ ⟨c, r⟩ :: t, p'⟩⟩ := by
  cases p with
  | ret a => cases h
  | throw e => cases h
  | op c k =>
      obtain ⟨⟨r, s⟩, hr, h⟩ := Option.bind_eq_some_iff.mp h
      obtain ⟨⟨t, p', s'⟩, ht, h⟩ := Option.map_eq_some_iff.mp h
      exact ⟨c, k, r, s, t, p', s', rfl, hr, ht, h.symm⟩

/-- What a step does, by the kind of the step. -/
theorem step_cases {W : World Ans σ Ext} {body : ρ → Prog Ans ε α} {S S' : Sys Ans ε α σ ρ}
    {l : Label Ans ρ Ext} (h : S.step W body l = some S') :
    (∃ req w t p s, l = .spawn req w ∧ settle W S.procs.length (body req) w S.state = some (t, p, s) ∧
      S' = ⟨s, S.procs ++ [⟨req, t, p⟩]⟩) ∨
    (∃ i w req log c k r s t p s', l = .resume i w ∧ S.procs[i]? = some ⟨req, log, .op c k⟩ ∧
      W.perform i c (w 0 c) S.state = some (r, s) ∧
      settle W i (k r) (fun n => w (n + 1)) s = some (t, p, s') ∧
      S' = ⟨s', S.procs.set i ⟨req, log ++ ⟨c, r⟩ :: t, p⟩⟩) ∨
    ∃ e s, l = .ext e ∧ W.ext e S.state = some s ∧ S' = ⟨s, S.procs⟩ := by
  cases l with
  | spawn req w =>
      obtain ⟨⟨t, p, s⟩, ht, h⟩ := Option.map_eq_some_iff.mp h
      exact .inl ⟨req, w, t, p, s, rfl, ht, h.symm⟩
  | resume i w =>
      obtain ⟨⟨req, log, p⟩, hp, h⟩ := Option.bind_eq_some_iff.mp h
      obtain ⟨c, k, r, s, t, p', s', rfl, hr, ht, rfl⟩ := resumeWith_eq_some h
      exact .inr (.inl ⟨i, w, req, log, c, k, r, s, t, p', s', rfl, hp, hr, ht, rfl⟩)
  | ext e =>
      obtain ⟨s, hs, h⟩ := Option.map_eq_some_iff.mp h
      exact .inr (.inr ⟨e, s, rfl, hs, h.symm⟩)

theorem getElem?_snoc {A : Type} {l : List A} {a b : A} {i : Nat} (h : (l ++ [a])[i]? = some b) :
    l[i]? = some b ∨ i = l.length ∧ b = a := by
  by_cases hi : i < l.length
  · exact .inl (by rwa [List.getElem?_append_left hi] at h)
  · rw [List.getElem?_append_right (by omega), List.getElem?_singleton] at h
    split at h
    · exact .inr ⟨by omega, (Option.some.inj h).symm⟩
    · cases h

theorem getElem?_set_cases {A : Type} {l : List A} {a b : A} {i j : Nat} (h : (l.set i a)[j]? = some b) :
    i = j ∧ b = a ∨ i ≠ j ∧ l[j]? = some b := by
  by_cases hij : i = j
  · subst hij
    rw [List.getElem?_set_self (by simpa using (List.getElem?_eq_some_iff.mp h).1)] at h
    exact .inl ⟨rfl, (Option.some.inj h).symm⟩
  · exact .inr ⟨hij, by rwa [List.getElem?_set_ne hij] at h⟩

/-- The log of every program is a trace of it. -/
theorem Reach.steps {W : World Ans σ Ext} {body : ρ → Prog Ans ε α}
    {ok : Sys Ans ε α σ ρ → Label Ans ρ Ext → Prop} {s₀ : σ} {S : Sys Ans ε α σ ρ}
    (h : Reach W body ok ⟨s₀, []⟩ S) {i : Nat} {p : Proc Ans ε α ρ} (hp : S.procs[i]? = some p) :
    Steps (body p.req) p.log p.rest := by
  induction h generalizing i p with
  | start => simp at hp
  | step _ _ hs ih =>
      obtain ⟨req, w, t, p', s, -, ht, rfl⟩ | ⟨j, w, req, log, c, k, r, s, t, p', s', -, hj, -, ht, rfl⟩ |
        ⟨e, s, -, -, rfl⟩ := step_cases hs
      · rcases getElem?_snoc hp with hp | ⟨-, rfl⟩
        · exact ih hp
        · exact steps_of_settle ht
      · rcases getElem?_set_cases hp with ⟨rfl, rfl⟩ | ⟨-, hp⟩
        · exact (ih hj).trans (.cons c k r (steps_of_settle ht))
        · exact ih hp
      · exact ih hp

/-! ## Conditions on the questions of a step -/

/-- The world that answers only what meets `G`, a condition on the flow, the question, the proposed answer and
the state. -/
def World.restrict (W : World Ans σ Ext) (G : Nat → (c : Op) → Ans c → σ → Prop)
    [∀ i c r s, Decidable (G i c r s)] : World Ans σ Ext :=
  { W with perform := fun i c r s => if G i c r s then W.perform i c r s else none }

/-- Every question that is answered in the step meets `G`, which may look at the system before the step. -/
def Sys.Meets (W : World Ans σ Ext) (body : ρ → Prog Ans ε α)
    (G : Sys Ans ε α σ ρ → Nat → (c : Op) → Ans c → σ → Prop) [∀ S i c r s, Decidable (G S i c r s)]
    (S : Sys Ans ε α σ ρ) (l : Label Ans ρ Ext) : Prop :=
  (S.step (W.restrict (G S)) body l).isSome = true

instance (W : World Ans σ Ext) (body : ρ → Prog Ans ε α)
    (G : Sys Ans ε α σ ρ → Nat → (c : Op) → Ans c → σ → Prop) [∀ S i c r s, Decidable (G S i c r s)]
    (S : Sys Ans ε α σ ρ) (l : Label Ans ρ Ext) : Decidable (S.Meets W body G l) :=
  inferInstanceAs (Decidable (_ = true))

section Restrict
variable {W : World Ans σ Ext} {G : Nat → (c : Op) → Ans c → σ → Prop} [∀ i c r s, Decidable (G i c r s)]

theorem restrict_perform {i : Nat} {c : Op} {w r : Ans c} {s s' : σ}
    (h : (W.restrict G).perform i c w s = some (r, s')) : G i c w s ∧ W.perform i c w s = some (r, s') :=
  Option.ite_none_right_eq_some.mp h

theorem settle_restrict {i : Nat} {p p' : Prog Ans ε α} {w : Proposal Ans} {s s' : σ} {t : List (Event Ans)}
    (h : settle (W.restrict G) i p w s = some (t, p', s')) : settle W i p w s = some (t, p', s') := by
  induction p generalizing w s t with
  | ret a => exact h
  | throw e => exact h
  | op c k ih =>
      unfold settle at h ⊢
      split at h
      next hw => rwa [if_pos (show W.waits c = true from hw)]
      next hw =>
        rw [if_neg (show ¬ W.waits c = true from hw)]
        obtain ⟨⟨r, s₁⟩, hr, h⟩ := Option.bind_eq_some_iff.mp h
        obtain ⟨⟨t₁, p₁, s₂⟩, h₁, he⟩ := Option.map_eq_some_iff.mp h
        cases he
        exact Option.bind_eq_some_iff.mpr ⟨_, (restrict_perform hr).2,
          Option.map_eq_some_iff.mpr ⟨_, ih r h₁, rfl⟩⟩

theorem step_restrict {body : ρ → Prog Ans ε α} {S S' : Sys Ans ε α σ ρ} {l : Label Ans ρ Ext}
    (h : S.step (W.restrict G) body l = some S') : S.step W body l = some S' := by
  obtain ⟨req, w, t, p, s, rfl, ht, rfl⟩ | ⟨i, w, req, log, c, k, r, s, t, p, s', rfl, hi, hp, ht, rfl⟩ |
    ⟨e, s, rfl, he, rfl⟩ := step_cases h
  · exact Option.map_eq_some_iff.mpr ⟨_, settle_restrict ht, rfl⟩
  · refine Option.bind_eq_some_iff.mpr ⟨_, hi, ?_⟩
    exact Option.bind_eq_some_iff.mpr ⟨_, (restrict_perform hp).2,
      Option.map_eq_some_iff.mpr ⟨_, settle_restrict ht, rfl⟩⟩
  · exact Option.map_eq_some_iff.mpr ⟨_, he, rfl⟩

end Restrict

/-- A step that meets `G` is a step of the world restricted to `G`. -/
theorem Sys.Meets.step {W : World Ans σ Ext} {body : ρ → Prog Ans ε α}
    {G : Sys Ans ε α σ ρ → Nat → (c : Op) → Ans c → σ → Prop} [∀ S i c r s, Decidable (G S i c r s)]
    {S S' : Sys Ans ε α σ ρ} {l : Label Ans ρ Ext} (h : S.Meets W body G l) (hs : S.step W body l = some S') :
    S.step (W.restrict (G S)) body l = some S' := by
  obtain ⟨S'', hS''⟩ := Option.isSome_iff_exists.mp h
  rw [step_restrict hS''] at hs
  rw [hS'', hs]

theorem restrict_true (W : World Ans σ Ext) : (W.restrict fun _ _ _ _ => True) = W := by
  simp [World.restrict]

/-- Every step meets the condition that asks for nothing. -/
theorem Reach.meets_true {W : World Ans σ Ext} {body : ρ → Prog Ans ε α}
    {ok : Sys Ans ε α σ ρ → Label Ans ρ Ext → Prop} {S₀ S : Sys Ans ε α σ ρ} (h : Reach W body ok S₀ S) :
    Reach W body (fun S l => ok S l ∧ S.Meets W body (fun _ _ _ _ _ => True) l) S₀ S := by
  induction h with
  | start => exact .start
  | step _ hok hs ih =>
      refine .step ih ⟨hok, ?_⟩ hs
      rw [Sys.Meets, restrict_true, hs]
      rfl

end Coop
