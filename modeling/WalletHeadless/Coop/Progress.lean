import WalletHeadless.Coop.Causes

/-!
# Programs that can go on

No program waits for another: where a question can be answered, after acts of the outside if it waits, a program can be
brought to its end by its own turns.

* `World.Answers`: the questions can be answered, but for some that wait;
* `OwnTurn`, `OldTurn`: a turn of one program, and one of those that are there;
* `World.Answers.ends`: the program reaches its end, or one of these questions, and no other program moves;
* `World.Answers.drains`: so do all programs that are there.
-/

namespace Coop

open Prog

variable {Op : Type} {Ans : Op → Type} {ε α σ Ext ρ : Type}

/-- A question that does not wait is answered at once, and one that waits after an act of `E` at most; `stuck` are
questions that wait. -/
structure World.Answers (W : World Ans σ Ext) (Inv : σ → Prop) (E : Ext → Prop) (stuck : Op → Prop) : Prop where
  now : ∀ i c s, Inv s → W.waits c = false → ∃ w r s', W.perform i c w s = some (r, s')
  later : ∀ i c s, Inv s → W.waits c = true → ¬ stuck c →
    ∃ s₁, (s₁ = s ∨ ∃ e, E e ∧ W.ext e s = some s₁) ∧ ∃ w r s', W.perform i c w s₁ = some (r, s')

/-- An act of `E`, or a turn of program `i`. -/
def OwnTurn (E : Ext → Prop) (i : Nat) (_ : Sys Ans ε α σ ρ) : Label Ans ρ Ext → Prop
  | .spawn _ _ => False
  | .resume j _ => j = i
  | .ext e => E e

/-- An act of `E`, or a turn of a program that is there. -/
def OldTurn (E : Ext → Prop) (_ : Sys Ans ε α σ ρ) : Label Ans ρ Ext → Prop
  | .spawn _ _ => False
  | .resume _ _ => True
  | .ext e => E e

/-- The program has ended, or asks what `stuck` says. -/
def Finished (stuck : Op → Prop) (p : Prog Ans ε α) : Prop := p.Ended ∨ ∃ c k, p = .op c k ∧ stuck c

namespace World.Answers

variable {W : World Ans σ Ext} {Inv : σ → Prop} {E : Ext → Prop} {stuck : Op → Prop}

/-- A proposal that starts with `w` for the question `c`. -/
theorem exists_proposal (w₀ : (c : Op) → Ans c) (c : Op) (w : Ans c) (w' : Proposal Ans) :
    ∃ v : Proposal Ans, v 0 c = w ∧ (fun n => v (n + 1)) = w' := by
  classical
  refine ⟨fun n => n.casesOn (Function.update w₀ c w) w', ?_, rfl⟩
  exact Function.update_self c w w₀

/-- A program can take its turn. -/
theorem settles (h : W.Answers Inv E stuck) (hinv : W.Steady Inv) (w₀ : (c : Op) → Ans c) (i : Nat) (p : Prog Ans ε α)
    {s : σ} (hI : Inv s) : ∃ w t p' s', settle W i p w s = some (t, p', s') := by
  induction p generalizing s with
  | ret a => exact ⟨fun _ => w₀, [], .ret a, s, rfl⟩
  | throw e => exact ⟨fun _ => w₀, [], .throw e, s, rfl⟩
  | op c k ih =>
      cases hwaits : W.waits c with
      | true => exact ⟨fun _ => w₀, [], .op c k, W.call i c s, by simp [settle, hwaits]⟩
      | false =>
          obtain ⟨w, r, s₁, hr⟩ := h.now i c s hI hwaits
          obtain ⟨w', t, p', s', ht⟩ := ih r (hinv.perform i c w r s s₁ hI hr)
          obtain ⟨v, hv, hv'⟩ := exists_proposal w₀ c w w'
          refine ⟨v, ⟨c, r⟩ :: t, p', s', ?_⟩
          simp [settle, hwaits, hv, hr, hv', ht]

variable {body : ρ → Prog Ans ε α}

/-- What the programs that a program may become reach by their own turns. -/
theorem ends_of_steps (h : W.Answers Inv E stuck) (hinv : W.Steady Inv) (w₀ : (c : Op) → Ans c) (i : Nat)
    (p : Prog Ans ε α) : ∀ t p', Steps p t p' → (∀ c k, p' = .op c k → W.waits c = true) →
      ∀ (S : Sys Ans ε α σ ρ) (q : Proc Ans ε α ρ), Inv S.state → S.procs[i]? = some q → q.rest = p' →
        ∃ S' q', Reach W body (OwnTurn E i) S S' ∧ S'.procs = S.procs.set i q' ∧ Finished stuck q'.rest := by
  have hdone (S : Sys Ans ε α σ ρ) (q : Proc Ans ε α ρ) (hq : S.procs[i]? = some q) (hfinished : Finished stuck q.rest) :
      ∃ S' q', Reach W body (OwnTurn E i) S S' ∧ S'.procs = S.procs.set i q' ∧ Finished stuck q'.rest := by
    obtain ⟨hi, rfl⟩ := List.getElem?_eq_some_iff.mp hq
    exact ⟨S, _, .start, (List.set_getElem_self hi).symm, hfinished⟩
  induction p with
  | ret a =>
      rintro t p' (_ | _) hwaits S q hI hq rfl'
      exact hdone S q hq (.inl (by rw [rfl']; trivial))
  | throw e =>
      rintro t p' (_ | _) hwaits S q hI hq rfl'
      exact hdone S q hq (.inl (by rw [rfl']; trivial))
  | op c k ih =>
      rintro t p' (_ | ⟨_, _, r, hsteps⟩) hwaits S q hI hq hrest
      · by_cases hstuck : stuck c
        · exact hdone S q hq (.inr ⟨c, k, hrest, hstuck⟩)
        -- an act of the outside, if it is needed, and then the turn of the program
        obtain ⟨s₁, hs₁, w, r, s₂, hr⟩ := h.later i c S.state hI (hwaits c k rfl) hstuck
        have hgo : Inv s₁ ∧ Reach W body (OwnTurn E i) S ⟨s₁, S.procs⟩ := by
          rcases hs₁ with rfl | ⟨e, he, hext⟩
          · exact ⟨hI, .start⟩
          · exact ⟨hinv.ext e _ _ hI hext, Reach.step .start (l := .ext e) he (Option.map_eq_some_iff.mpr ⟨_, hext, rfl⟩)⟩
        obtain ⟨hI₁, hreach⟩ := hgo
        have hI₂ := hinv.perform i c w r s₁ s₂ hI₁ hr
        obtain ⟨w', t, p, s₃, ht⟩ := h.settles hinv w₀ i (k r) hI₂
        obtain ⟨v, hv, hv'⟩ := exists_proposal w₀ c w w'
        have hstep : Sys.step W body (.resume i v) ⟨s₁, S.procs⟩ =
            some ⟨s₃, S.procs.set i ⟨q.req, q.log ++ ⟨c, r⟩ :: t, p⟩⟩ := by
          simp [Sys.step, hq, hrest, Sys.resumeWith, hv, hr, hv', ht]
        have hlen := (List.getElem?_eq_some_iff.mp hq).1
        obtain ⟨S', q', hreach', hprocs, hfinished⟩ := ih r t p (steps_of_settle ht) (fun c k => waits_of_settle ht)
          ⟨s₃, S.procs.set i ⟨q.req, q.log ++ ⟨c, r⟩ :: t, p⟩⟩ _ (hinv.settle hI₂ ht) (List.getElem?_set_self hlen) rfl
        refine ⟨S', q', (hreach.step (l := .resume i v) rfl hstep).trans hreach', ?_, hfinished⟩
        rw [hprocs, List.set_set]
      · exact ih r _ _ hsteps hwaits S q hI hq hrest

/-- A program reaches its end by its own turns, and no other program moves. -/
theorem ends (h : W.Answers Inv E stuck) (hinv : W.Steady Inv) (w₀ : (c : Op) → Ans c) {S : Sys Ans ε α σ ρ}
    (hwaits : ∀ (i : Nat) (p : Proc Ans ε α ρ), S.procs[i]? = some p → ∀ c k, p.rest = .op c k → W.waits c = true)
    (hI : Inv S.state) {i : Nat} {p : Proc Ans ε α ρ} (hp : S.procs[i]? = some p) :
    ∃ S' p', Reach W body (OwnTurn E i) S S' ∧ S'.procs = S.procs.set i p' ∧ Finished stuck p'.rest :=
  h.ends_of_steps hinv w₀ i p.rest [] p.rest (.nil _) (hwaits i p hp) S p hI hp rfl

/-- All programs that are there reach their ends, and no other comes. -/
theorem drains (h : W.Answers Inv E stuck) (hinv : W.Steady Inv) (w₀ : (c : Op) → Ans c) {s₀ : σ}
    {ok : Sys Ans ε α σ ρ → Label Ans ρ Ext → Prop} {S : Sys Ans ε α σ ρ} (hS : Reach W body ok ⟨s₀, []⟩ S)
    (hI : Inv s₀) : ∃ S', Reach W body (OldTurn E) S S' ∧ S'.procs.length = S.procs.length ∧
      ∀ p ∈ S'.procs, Finished stuck p.rest := by
  -- one after the other: the first `n` have ended
  have hprefix (n : Nat) : n ≤ S.procs.length → ∃ S', Reach W body (OldTurn E) S S' ∧
      S'.procs.length = S.procs.length ∧ ∀ i < n, ∀ p, S'.procs[i]? = some p → Finished stuck p.rest := by
    induction n with
    | zero => exact fun _ => ⟨S, .start, rfl, fun i hi => absurd hi (Nat.not_lt_zero i)⟩
    | succ n ih =>
        intro hn
        obtain ⟨S₁, hreach, hlen, hfinished⟩ := ih (Nat.le_of_succ_le hn)
        have hrun : Reach W body (fun _ _ => True) ⟨s₀, []⟩ S₁ :=
          Reach.trans (Reach.mono (fun _ _ _ => trivial) hS) (Reach.mono (fun _ _ _ => trivial) hreach)
        have hlt : n < S₁.procs.length := by omega
        have hends : ∃ S' p', Reach W body (OwnTurn E n) S₁ S' ∧ S'.procs = S₁.procs.set n p' ∧ Finished stuck p'.rest :=
          h.ends hinv w₀ (fun i p hp c k => hrun.waits hp) (hinv.reach hI hrun) (List.getElem?_eq_getElem hlt)
        obtain ⟨S', p', hreach', hprocs, hp'⟩ := hends
        refine ⟨S', hreach.trans (Reach.mono (fun S l hl => ?_) hreach'), ?_, fun i hi p hp => ?_⟩
        · cases l with
          | spawn req w => exact hl
          | resume j w => trivial
          | ext e => exact hl
        · rw [hprocs, List.length_set, hlen]
        · rw [hprocs] at hp
          rcases getElem?_set_cases hp with ⟨rfl, rfl⟩ | ⟨hne, hp⟩
          · exact hp'
          · exact hfinished i (by omega) p hp
  obtain ⟨S', hreach, hlen, hfinished⟩ := hprefix _ (Nat.le_refl _)
  refine ⟨S', hreach, hlen, fun p hp => ?_⟩
  obtain ⟨i, hi, rfl⟩ := List.getElem_of_mem hp
  exact hfinished i (hlen ▸ hi) _ (List.getElem?_eq_getElem hi)

end World.Answers

end Coop
