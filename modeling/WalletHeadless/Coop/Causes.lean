import WalletHeadless.Coop.Ghost

/-!
# Who has changed the shared state

Most questions keep the shared state in a frame. When a step leaves the frame, and is no act of the outside, the program
that takes its turn asks one of the others.

* `World.Steady`: what every question and every act of the outside keeps; `Steady.reach`: every run keeps it;
* `Asked B t p`: a program that has asked `t`, and is now `p`, has asked a question of `B`; `Asked.allowed`: its ghost
  state has allowed it;
* `Reach.waits`: between two steps, a program has ended or waits;
* `World.Frame W Inv B E R`: the questions that are not in `B`, and the acts that are not in `E`, lead to a state that `R`
  relates to the one before; `Frame.step`: a step out of the frame has its cause;
* `Reach.attributed`: what a step has left to its program is still its own when the run goes on.
-/

namespace Coop

open Prog

variable {Op : Type} {Ans : Op → Type} {ε α σ Ext ρ Q : Type}

/-! ## What is kept -/

/-- What every question and every act of the outside keeps. -/
structure World.Steady (W : World Ans σ Ext) (Inv : σ → Prop) : Prop where
  call : ∀ i c s, Inv s → Inv (W.call i c s)
  perform : ∀ i c w r s s', Inv s → W.perform i c w s = some (r, s') → Inv s'
  ext : ∀ e s s', Inv s → W.ext e s = some s' → Inv s'

namespace World.Steady

variable {W : World Ans σ Ext} {Inv : σ → Prop}

theorem settle (h : W.Steady Inv) {i : Nat} {p p' : Prog Ans ε α} {w : Proposal Ans} {s s' : σ} {t : List (Event Ans)}
    (hI : Inv s) (hs : Coop.settle W i p w s = some (t, p', s')) : Inv s' := by
  induction p generalizing w s t with
  | ret a =>
      cases hs
      exact hI
  | throw e =>
      cases hs
      exact hI
  | op c k ih =>
      unfold Coop.settle at hs
      split at hs
      · cases hs
        exact h.call i c s hI
      · obtain ⟨⟨r, s₁⟩, hr, hs⟩ := Option.bind_eq_some_iff.mp hs
        obtain ⟨⟨t₁, p₁, s₂⟩, h₁, he⟩ := Option.map_eq_some_iff.mp hs
        cases he
        exact ih r (h.perform i c _ r s s₁ hI hr) h₁

theorem reach (h : W.Steady Inv) {body : ρ → Prog Ans ε α} {ok : Sys Ans ε α σ ρ → Label Ans ρ Ext → Prop}
    {S₀ S : Sys Ans ε α σ ρ} (hI : Inv S₀.state) (hr : Reach W body ok S₀ S) : Inv S.state := by
  induction hr with
  | start => exact hI
  | step _ _ hs ih =>
      obtain ⟨req, w, t, p, s, -, ht, rfl⟩ | ⟨i, w, req, log, c, k, r, s, t, p, s', -, -, hp, ht, rfl⟩ |
        ⟨e, s, -, he, rfl⟩ := step_cases hs
      · exact h.settle ih ht
      · exact h.settle (h.perform i c _ r _ _ ih hp) ht
      · exact h.ext e _ _ ih he

end World.Steady

/-! ## What is asked -/

/-- A question of `B` is in the log, or the program waits for its answer. -/
def Asked (B : Op → Prop) (t : List (Event Ans)) (p : Prog Ans ε α) : Prop :=
  (∃ e ∈ t, B e.1) ∨ ∃ c k, p = .op c k ∧ B c

theorem Asked.cons {B : Op → Prop} {t : List (Event Ans)} {p : Prog Ans ε α} (e : Event Ans) (h : Asked B t p) :
    Asked B (e :: t) p := h.imp_left fun ⟨e', he', hB⟩ => ⟨e', List.mem_cons_of_mem e he', hB⟩

theorem Asked.append {B : Op → Prop} {t : List (Event Ans)} {p : Prog Ans ε α} (u : List (Event Ans))
    (h : Asked B t p) : Asked B (u ++ t) p := h.imp_left fun ⟨e, he, hB⟩ => ⟨e, List.mem_append_right u he, hB⟩

/-- A question that has been asked was allowed, in the ghost state of that moment. -/
theorem Asked.allowed {P : Protocol Ans Q} {B : Op → Prop} {p p' : Prog Ans ε α} {t : List (Event Ans)}
    (h : Asked B t p') (hs : Steps p t p') {q : Q} {post : α → Q → Prop} {fail : ε → Q → Prop}
    (hp : P.wp p q post fail) (ht : P.Told q t) : ∃ u c, u <+: t ∧ P.allows (P.after q u) c ∧ B c := by
  rcases h with ⟨e, he, hB⟩ | ⟨c, k, rfl, hB⟩
  · obtain ⟨u, v, rfl⟩ := List.append_of_mem he
    exact ⟨u, e.1, List.prefix_append u _, P.wp_allows hs hp ((P.told_append ..).mp ht).1, hB⟩
  · exact ⟨t, c, List.prefix_rfl, (P.wp_steps hs hp ht).1, hB⟩

/-- A turn ends with a question that waits. -/
theorem waits_of_settle {W : World Ans σ Ext} {i : Nat} {p p' : Prog Ans ε α} {w : Proposal Ans} {s s' : σ}
    {t : List (Event Ans)} (h : settle W i p w s = some (t, p', s')) {c : Op} {k : Ans c → Prog Ans ε α}
    (hp : p' = .op c k) : W.waits c = true := by
  induction p generalizing w s t with
  | ret a => cases h; cases hp
  | throw e => cases h; cases hp
  | op c k ih =>
      unfold settle at h
      split at h
      next hwaits =>
        cases h
        cases hp
        exact hwaits
      next =>
        obtain ⟨⟨r, s₁⟩, -, h⟩ := Option.bind_eq_some_iff.mp h
        obtain ⟨⟨t₁, p₁, s₂⟩, h₁, he⟩ := Option.map_eq_some_iff.mp h
        cases he
        exact ih r h₁

/-- Between two steps, a program has ended or waits. -/
theorem Reach.waits {W : World Ans σ Ext} {body : ρ → Prog Ans ε α}
    {ok : Sys Ans ε α σ ρ → Label Ans ρ Ext → Prop} {s₀ : σ} {S : Sys Ans ε α σ ρ} (h : Reach W body ok ⟨s₀, []⟩ S)
    {i : Nat} {p : Proc Ans ε α ρ} (hi : S.procs[i]? = some p) {c : Op} {k : Ans c → Prog Ans ε α}
    (hp : p.rest = .op c k) : W.waits c = true := by
  induction h generalizing i p with
  | start => simp at hi
  | step _ _ hs ih =>
      obtain ⟨req, w, t, p', s, -, ht, rfl⟩ | ⟨j, w, req, log, c', k', r, s, t, p', s', -, -, -, ht, rfl⟩ |
        ⟨e, s, -, -, rfl⟩ := step_cases hs
      · rcases getElem?_snoc hi with hi | ⟨-, rfl⟩
        · exact ih hi hp
        · exact waits_of_settle ht hp
      · rcases getElem?_set_cases hi with ⟨rfl, rfl⟩ | ⟨-, hi⟩
        · exact waits_of_settle ht hp
        · exact ih hi hp
      · exact ih hi hp

/-- What a program has asked. -/
theorem Steps.uses {A : Op → Prop} {p p' : Prog Ans ε α} {t : List (Event Ans)} (h : Steps p t p') (hp : p.Uses A) :
    (∀ e ∈ t, A e.1) ∧ p'.Uses A := by
  induction h with
  | nil p => exact ⟨by simp, hp⟩
  | cons c k r _ ih =>
      obtain ⟨hlog, hrest⟩ := ih (hp.2 r)
      exact ⟨by simpa using ⟨hp.1, hlog⟩, hrest⟩

/-! ## What changes -/

/-- Where `Inv` holds, what is neither a question of `B` nor an act of `E` leads from a state to one that `R` relates to
it. -/
structure World.Frame (W : World Ans σ Ext) (Inv : σ → Prop) (B : Nat → Op → Prop) (E : Ext → Prop)
    (R : σ → σ → Prop) : Prop where
  refl : ∀ s, R s s
  trans : ∀ s s' s'', R s s' → R s' s'' → R s s''
  call : ∀ i c s, Inv s → ¬ B i c → R s (W.call i c s)
  perform : ∀ i c w r s s', Inv s → ¬ B i c → W.perform i c w s = some (r, s') → R s s'
  ext : ∀ e s s', Inv s → ¬ E e → W.ext e s = some s' → R s s'

/-- The program that takes its turn in a step; `n` programs are there before. -/
def Label.flow (n : Nat) : Label Ans ρ Ext → Option Nat
  | .spawn _ _ => some n
  | .resume i _ => some i
  | .ext _ => none

/-- The step is an act of `E`, or the turn of a program that meets `A` after it. -/
def Sys.Caused (S S' : Sys Ans ε α σ ρ) (l : Label Ans ρ Ext) (E : Ext → Prop)
    (A : Nat → Proc Ans ε α ρ → Prop) : Prop :=
  (∃ e, l = .ext e ∧ E e) ∨ ∃ i p, l.flow S.procs.length = some i ∧ S'.procs[i]? = some p ∧ A i p

theorem Sys.Caused.mono {S S' : Sys Ans ε α σ ρ} {l : Label Ans ρ Ext} {E : Ext → Prop}
    {A A' : Nat → Proc Ans ε α ρ → Prop} (h : S.Caused S' l E A)
    (hA : ∀ i p, S'.procs[i]? = some p → A i p → A' i p) : S.Caused S' l E A' := by
  rcases h with h | ⟨i, p, hi, hp, hAp⟩
  · exact .inl h
  · exact .inr ⟨i, p, hi, hp, hA i p hp hAp⟩

namespace World.Frame

variable {W : World Ans σ Ext} {Inv : σ → Prop} {R : σ → σ → Prop} {B : Nat → Op → Prop} {E : Ext → Prop}

theorem settle (h : W.Frame Inv B E R) (hinv : W.Steady Inv) {i : Nat} {p p' : Prog Ans ε α} {w : Proposal Ans}
    {s s' : σ} {t : List (Event Ans)} (hI : Inv s) (hs : Coop.settle W i p w s = some (t, p', s'))
    (hB : ¬ Asked (B i) t p') : R s s' := by
  induction p generalizing w s t with
  | ret a =>
      cases hs
      exact h.refl _
  | throw e =>
      cases hs
      exact h.refl _
  | op c k ih =>
      unfold Coop.settle at hs
      split at hs
      · cases hs
        exact h.call i c s hI fun hc => hB (.inr ⟨c, k, rfl, hc⟩)
      · obtain ⟨⟨r, s₁⟩, hr, hs⟩ := Option.bind_eq_some_iff.mp hs
        obtain ⟨⟨t₁, p₁, s₂⟩, h₁, he⟩ := Option.map_eq_some_iff.mp hs
        cases he
        refine h.trans s s₁ s' (h.perform i c _ r s s₁ hI (fun hc => hB (.inl ⟨⟨c, r⟩, List.mem_cons_self, hc⟩)) hr) ?_
        exact ih r (hinv.perform i c _ r s s₁ hI hr) h₁ fun hB' => hB (hB'.cons _)

/-- A step stays in the frame, or has a cause. -/
theorem step (h : W.Frame Inv B E R) (hinv : W.Steady Inv) {body : ρ → Prog Ans ε α} {S S' : Sys Ans ε α σ ρ}
    {l : Label Ans ρ Ext} (hI : Inv S.state) (hs : S.step W body l = some S') (hR : ¬ R S.state S'.state) :
    S.Caused S' l E fun i p => Asked (B i) p.log p.rest := by
  obtain ⟨req, w, t, p, s, rfl, ht, rfl⟩ | ⟨i, w, req, log, c, k, r, s, t, p, s', rfl, hi, hp, ht, rfl⟩ |
    ⟨e, s, rfl, he, rfl⟩ := step_cases hs
  · refine .inr ⟨_, ⟨req, t, p⟩, rfl, by simp, ?_⟩
    by_contra hB
    exact hR (h.settle hinv hI ht hB)
  · have hlen := (List.getElem?_eq_some_iff.mp hi).1
    refine .inr ⟨i, ⟨req, log ++ ⟨c, r⟩ :: t, p⟩, rfl, by simp [hlen], ?_⟩
    by_contra hB
    have hlast := h.settle hinv (hinv.perform i c _ r _ _ hI hp) ht fun hB' => hB ((hB'.cons _).append _)
    exact hR (h.trans _ _ _ (h.perform i c _ r _ _ hI (fun hc => hB (.inl ⟨⟨c, r⟩, by simp, hc⟩)) hp) hlast)
  · refine .inl ⟨e, rfl, ?_⟩
    by_contra hE
    exact hR (h.ext e _ _ hI hE he)

/-- What no question and no act leaves, a run does not leave. -/
theorem reach (h : W.Frame Inv B E R) (hinv : W.Steady Inv) (hB : ∀ i c, ¬ B i c) (hE : ∀ e, ¬ E e)
    {body : ρ → Prog Ans ε α} {ok : Sys Ans ε α σ ρ → Label Ans ρ Ext → Prop} {S₀ S : Sys Ans ε α σ ρ}
    (hI : Inv S₀.state) (hr : Reach W body ok S₀ S) : R S₀.state S.state := by
  induction hr with
  | start => exact h.refl _
  | step hr _ hs ih =>
      refine h.trans _ _ _ ih ?_
      by_contra hR
      rcases h.step hinv (hinv.reach hI hr) hs hR with ⟨e, -, he⟩ | ⟨i, p, -, -, hasked⟩
      · exact hE e he
      · rcases hasked with ⟨e, -, he⟩ | ⟨c, k, -, hc⟩
        · exact hB i _ he
        · exact hB i c hc

end World.Frame

/-! ## Runs -/

theorem Reach.trans {W : World Ans σ Ext} {body : ρ → Prog Ans ε α}
    {ok : Sys Ans ε α σ ρ → Label Ans ρ Ext → Prop} {S₀ S S' : Sys Ans ε α σ ρ} (h : Reach W body ok S₀ S)
    (h' : Reach W body ok S S') : Reach W body ok S₀ S' := by
  induction h' with
  | start => exact h
  | step _ hok hs ih => exact ih.step hok hs

/-- A program stays in the system, and its log grows. -/
theorem step_grows {W : World Ans σ Ext} {body : ρ → Prog Ans ε α} {S S' : Sys Ans ε α σ ρ} {l : Label Ans ρ Ext}
    (hs : S.step W body l = some S') {i : Nat} {p : Proc Ans ε α ρ} (hp : S.procs[i]? = some p) :
    ∃ p', S'.procs[i]? = some p' ∧ p'.req = p.req ∧ p.log <+: p'.log := by
  have hlen := (List.getElem?_eq_some_iff.mp hp).1
  obtain ⟨req, w, t, q, s, -, -, rfl⟩ | ⟨j, w, req, log, c, k, r, s, t, q, s', -, hj, -, -, rfl⟩ | ⟨e, s, -, -, rfl⟩ :=
    step_cases hs
  · exact ⟨p, by rw [List.getElem?_append_left hlen, hp], rfl, List.prefix_rfl⟩
  · by_cases hij : j = i
    · subst hij
      obtain rfl := Option.some.inj (hj.symm.trans hp)
      exact ⟨_, List.getElem?_set_self hlen, rfl, List.prefix_append _ _⟩
    · exact ⟨p, by rw [List.getElem?_set_ne hij, hp], rfl, List.prefix_rfl⟩
  · exact ⟨p, hp, rfl, List.prefix_rfl⟩

/-- What a step leaves to its program is still its own when the run goes on. -/
theorem Reach.attributed {W : World Ans σ Ext} {body : ρ → Prog Ans ε α}
    {ok : Sys Ans ε α σ ρ → Label Ans ρ Ext → Prop} {S₀ S : Sys Ans ε α σ ρ} {M : σ → Prop}
    {A : Nat → ρ → List (Event Ans) → Prop} (hmono : ∀ i req t u, t <+: u → A i req t → A i req u)
    (hstep : ∀ S S' l, Reach W body ok S₀ S → S.step W body l = some S' → M S'.state → ¬ M S.state →
      ∃ i p, S'.procs[i]? = some p ∧ A i p.req p.log)
    (h : Reach W body ok S₀ S) (hM : M S.state) : M S₀.state ∨ ∃ i p, S.procs[i]? = some p ∧ A i p.req p.log := by
  induction h with
  | start => exact .inl hM
  | @step S S' l hr _ hs ih =>
      by_cases hbefore : M S.state
      · rcases ih hbefore with h₀ | ⟨i, p, hp, hA⟩
        · exact .inl h₀
        · obtain ⟨p', hp', hreq, hlog⟩ := step_grows hs hp
          exact .inr ⟨i, p', hp', by rw [hreq]; exact hmono i _ _ _ hlog hA⟩
      · exact .inr (hstep S S' l hr hs hM hbefore)

end Coop
