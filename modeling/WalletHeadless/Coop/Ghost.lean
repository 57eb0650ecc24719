import WalletHeadless.Coop.System

/-!
# The rule of ghost states

Each program of a system carries a ghost state that follows a `Protocol`, and an invariant ties the ghost
states to the shared state. Since nothing else runs between two suspensions, an allowed question has to
keep the invariant only when every other program rests.

* `Resting`: a program that has ended or waits, seen from its ghost state;
* `Coherent S g`: `g` gives the ghost states of the programs of `S`;
* `Turns`: the obligations for the turns of one program; `Turns.settle`: they keep the invariant;
* `Guarded`, `Guarded.step`, `Guarded.reach`: the invariant holds in every state that is reached by steps whose
  questions meet a condition;
* `Sound`, `Sound.reach`: the same without a condition.
-/

namespace Coop

open Prog Function

variable {Op : Type} {Ans : Op → Type} {ε α σ Ext ρ Q : Type}

/-- `p` has ended in a final ghost state, or it waits and every answer leads on. -/
def Resting (W : World Ans σ Ext) (P : Protocol Ans Q) (final : Q → Prop) : Prog Ans ε α → Q → Prop
  | .ret _, q => ∃ q₀, final q₀ ∧ P.finish q₀ = q
  | .throw _, q => ∃ q₀, final q₀ ∧ P.finish q₀ = q
  | .op c k, q => (∃ q₀, P.allows q₀ c ∧ P.call q₀ c = q) ∧ W.waits c = true ∧
    ∀ r, P.may q c r → P.wp (k r) (P.next q c r) (fun _ => final) (fun _ => final)

theorem Resting.of_ended {W : World Ans σ Ext} {P : Protocol Ans Q} {final : Q → Prop}
    {p : Prog Ans ε α} {q : Q} (h : Resting W P final p q) (hp : p.Ended) :
    ∃ q₀, final q₀ ∧ P.finish q₀ = q := by
  cases p with
  | ret a => exact h
  | throw e => exact h
  | op c k => exact hp.elim

/-- `g` gives the ghost states of the programs of `S`, which follow from what each asked and was told, as it may
be, and `fresh` to those that are still to come. -/
structure Coherent (W : World Ans σ Ext) (P : Protocol Ans Q) (enter : ρ → Q) (fresh : Q)
    (final : Q → Prop) (S : Sys Ans ε α σ ρ) (g : Nat → Q) : Prop where
  resting : ∀ i p, S.procs[i]? = some p → Resting W P final p.rest (g i)
  traced : ∀ i p, S.procs[i]? = some p → g i = P.ghost (enter p.req) p.log p.rest
  told : ∀ (i : Nat) (p : Proc Ans ε α ρ), S.procs[i]? = some p → P.Told (enter p.req) p.log
  unborn : ∀ i, S.procs.length ≤ i → g i = fresh

/-- What a step of program `i` does not change of its ghost state. -/
theorem update_tag {T : Type} (tag : Q → T) {g : Nat → Q} {i : Nat} {q : Q} (h : tag q = tag (g i)) (j : Nat) :
    tag (update g i q j) = tag (g j) := by
  by_cases hj : j = i
  · subst hj
    rw [update_self, h]
  · rw [update_of_ne hj]

/-! ## The turns of one program -/

/-- What has to be shown for the turns of program `i` to keep `Inv`: a question that waits is answered only when
the program is `born`. -/
structure Turns (W : World Ans σ Ext) (P : Protocol Ans Q) (rests final : Q → Prop) (i : Nat) (born : Prop)
    (Inv : σ → (Nat → Q) → Prop) : Prop where
  call : ∀ s g c, Inv s g → (∀ j, j ≠ i → rests (g j)) → P.allows (g i) c → W.waits c = true →
    rests (P.call (g i) c) ∧ Inv (W.call i c s) (update g i (P.call (g i) c))
  perform : ∀ s g q c w r s', Inv s g → (∀ j, j ≠ i → rests (g j)) → (W.waits c = true → born) →
    P.allows q c → P.call q c = g i → W.perform i c w s = some (r, s') →
    P.may (g i) c r ∧ Inv s' (update g i (P.next (g i) c r))
  finish : ∀ s g, Inv s g → (∀ j, j ≠ i → rests (g j)) → final (g i) →
    rests (P.finish (g i)) ∧ Inv s (update g i (P.finish (g i)))
  call_sync : ∀ q c, W.waits c = false → P.call q c = q

/-- A run up to the next suspension keeps the invariant and ends at rest. -/
theorem Turns.settle {W : World Ans σ Ext} {P : Protocol Ans Q} {rests final : Q → Prop} {i : Nat} {born : Prop}
    {Inv : σ → (Nat → Q) → Prop} (h : Turns W P rests final i born Inv) {p p' : Prog Ans ε α}
    {w : Proposal Ans} {s s' : σ} {g : Nat → Q} {t : List (Event Ans)} (hI : Inv s g)
    (hr : ∀ j, j ≠ i → rests (g j)) (hp : P.wp p (g i) (fun _ => final) (fun _ => final))
    (hs : Coop.settle W i p w s = some (t, p', s')) :
    Inv s' (update g i (P.ghost (g i) t p')) ∧ Resting W P final p' (P.ghost (g i) t p') ∧
      rests (P.ghost (g i) t p') ∧ P.Told (g i) t := by
  induction p generalizing w s g t with
  | ret a =>
      cases hs
      obtain ⟨hq, hI'⟩ := h.finish _ g hI hr hp
      exact ⟨hI', ⟨g i, hp, rfl⟩, hq, trivial⟩
  | throw e =>
      cases hs
      obtain ⟨hq, hI'⟩ := h.finish _ g hI hr hp
      exact ⟨hI', ⟨g i, hp, rfl⟩, hq, trivial⟩
  | op c k ih =>
      unfold Coop.settle at hs
      split at hs
      next hw =>
        cases hs
        obtain ⟨hq, hI'⟩ := h.call s g c hI hr hp.1 hw
        exact ⟨hI', ⟨⟨g i, hp.1, rfl⟩, hw, hp.2⟩, hq, trivial⟩
      next hw =>
        obtain ⟨⟨r, s₁⟩, hr₁, hs⟩ := Option.bind_eq_some_iff.mp hs
        obtain ⟨⟨t₁, p₁, s₂⟩, hs₁, he⟩ := Option.map_eq_some_iff.mp hs
        cases he
        have hc := h.call_sync (g i) c (by simpa using hw)
        obtain ⟨hm, hI'⟩ := h.perform s g (g i) c _ r s₁ hI hr (fun hw' => absurd hw' hw) hp.1 hc hr₁
        have hp' := hp.2 r (by rwa [hc])
        rw [hc] at hp'
        obtain ⟨h₁, h₂, h₃, h₄⟩ := ih r (g := update g i (P.next (g i) c r)) hI'
          (fun j hj => by rw [update_of_ne hj]; exact hr j hj) (by rwa [update_self]) hs₁
        rw [update_idem, update_self] at h₁
        rw [update_self] at h₂ h₃ h₄
        have hg : P.ghost (g i) (⟨c, r⟩ :: t₁) p' = P.ghost (P.next (g i) c r) t₁ p' := by
          cases p' <;> simp only [Protocol.ghost, Protocol.after, hc]
        rw [hg]
        refine ⟨h₁, h₂, h₃, ?_⟩
        show P.may (P.call (g i) c) c r ∧ P.Told (P.next (P.call (g i) c) c r) t₁
        rw [hc]
        exact ⟨hm, h₄⟩

/-! ## Reachable states -/

/-- What has to be shown for the invariant `Inv` to hold in every state that is reached by steps whose
questions meet `G`. The ghost state of a program stays `Of` its request. -/
structure Guarded (W : World Ans σ Ext) (body : ρ → Prog Ans ε α) (P : Protocol Ans Q) (enter : ρ → Q)
    (fresh : Q) (rests final : Q → Prop) (Of : ρ → Q → Prop)
    (ok : Sys Ans ε α σ ρ → Label Ans ρ Ext → Prop)
    (G : Sys Ans ε α σ ρ → Nat → (c : Op) → Ans c → σ → Prop) (Inv : σ → (Nat → Q) → Prop) : Prop where
  spawn : ∀ S g req w, Coherent W P enter fresh final S g → (∀ j, rests (g j)) → Inv S.state g →
    ok S (.spawn req w) →
    Inv S.state (update g S.procs.length (enter req)) ∧
      P.wp (body req) (enter req) (fun _ => final) (fun _ => final)
  call : ∀ s g i c, Inv s g → (∀ j, j ≠ i → rests (g j)) → P.allows (g i) c → W.waits c = true →
    rests (P.call (g i) c) ∧ Inv (W.call i c s) (update g i (P.call (g i) c))
  perform : ∀ S g₀ s g i q c w r s', Coherent W P enter fresh final S g₀ → (∀ j, j ≠ i → g j = g₀ j) →
    (∀ p, S.procs[i]? = some p → Of p.req (g i)) → (W.waits c = true → ∃ p, S.procs[i]? = some p) →
    G S i c w s → Inv s g → (∀ j, j ≠ i → rests (g j)) → P.allows q c → P.call q c = g i → W.perform i c w s = some (r, s') →
    P.may (g i) c r ∧ Inv s' (update g i (P.next (g i) c r))
  ext : ∀ S g e s, Coherent W P enter fresh final S g → (∀ j, rests (g j)) → Inv S.state g →
    ok S (.ext e) → W.ext e S.state = some s → Inv s g
  finish : ∀ s g i, Inv s g → (∀ j, j ≠ i → rests (g j)) → final (g i) →
    rests (P.finish (g i)) ∧ Inv s (update g i (P.finish (g i)))
  call_sync : ∀ q c, W.waits c = false → P.call q c = q
  rests_fresh : rests fresh
  of_enter : ∀ req, Of req (enter req)
  of_call : ∀ req q c, Of req q → Of req (P.call q c)
  of_next : ∀ req q c r, Of req q → Of req (P.next q c r)
  of_finish : ∀ req q, Of req q → Of req (P.finish q)

namespace Guarded

variable {W : World Ans σ Ext} {body : ρ → Prog Ans ε α} {P : Protocol Ans Q} {enter : ρ → Q} {fresh : Q}
  {rests final : Q → Prop} {Of : ρ → Q → Prop} {ok : Sys Ans ε α σ ρ → Label Ans ρ Ext → Prop}
  {G : Sys Ans ε α σ ρ → Nat → (c : Op) → Ans c → σ → Prop} {Inv : σ → (Nat → Q) → Prop}

theorem of_ghost (h : Guarded W body P enter fresh rests final Of ok G Inv) {req : ρ} {q : Q} (hq : Of req q)
    (t : List (Event Ans)) (p : Prog Ans ε α) : Of req (P.ghost q t p) := by
  have hafter : Of req (P.after q t) := P.after_inv (h.of_call req) (h.of_next req) hq t
  cases p with
  | ret a => exact h.of_finish req _ hafter
  | throw e => exact h.of_finish req _ hafter
  | op c k => exact h.of_call req _ c hafter

/-- The ghost state of a program belongs to its request. -/
theorem of_coherent (h : Guarded W body P enter fresh rests final Of ok G Inv) {S : Sys Ans ε α σ ρ}
    {g : Nat → Q} (hg : Coherent W P enter fresh final S g) {i : Nat} {p : Proc Ans ε α ρ}
    (hp : S.procs[i]? = some p) : Of p.req (g i) := by
  rw [hg.traced i p hp]
  exact h.of_ghost (h.of_enter p.req) p.log p.rest

/-- The turns of program `i` from the system `S`, in the world that refuses what does not meet `G`. -/
theorem turns [∀ S i c r s, Decidable (G S i c r s)] (h : Guarded W body P enter fresh rests final Of ok G Inv)
    {S : Sys Ans ε α σ ρ} {g₀ : Nat → Q} (hg : Coherent W P enter fresh final S g₀) (i : Nat) :
    Turns (W.restrict (G S)) P rests final i (∃ p, S.procs[i]? = some p) fun s g =>
      Inv s g ∧ (∀ j, j ≠ i → g j = g₀ j) ∧ ∀ p, S.procs[i]? = some p → Of p.req (g i) where
  call s g c hI hr ha hw := by
    obtain ⟨hI, hagree, hof⟩ := hI
    obtain ⟨hq, hI'⟩ := h.call s g i c hI hr ha hw
    refine ⟨hq, hI', fun j hj => ?_, fun p hp => ?_⟩
    · rw [update_of_ne hj]
      exact hagree j hj
    · rw [update_self]
      exact h.of_call _ _ c (hof p hp)
  perform s g q c w r s' hI hr hborn ha hc hp := by
    obtain ⟨hI, hagree, hof⟩ := hI
    obtain ⟨hG, hp⟩ := restrict_perform hp
    obtain ⟨hm, hI'⟩ := h.perform S g₀ s g i q c w r s' hg hagree hof hborn hG hI hr ha hc hp
    refine ⟨hm, hI', fun j hj => ?_, fun p hp => ?_⟩
    · rw [update_of_ne hj]
      exact hagree j hj
    · rw [update_self]
      exact h.of_next _ _ c r (hof p hp)
  finish s g hI hr hf := by
    obtain ⟨hI, hagree, hof⟩ := hI
    obtain ⟨hq, hI'⟩ := h.finish s g i hI hr hf
    refine ⟨hq, hI', fun j hj => ?_, fun p hp => ?_⟩
    · rw [update_of_ne hj]
      exact hagree j hj
    · rw [update_self]
      exact h.of_finish _ _ (hof p hp)
  call_sync := h.call_sync

/-- A step keeps the invariant, and the programs at rest. -/
theorem step [∀ S i c r s, Decidable (G S i c r s)] (h : Guarded W body P enter fresh rests final Of ok G Inv)
    {S S' : Sys Ans ε α σ ρ} {g : Nat → Q} (hg : Coherent W P enter fresh final S g) (hr : ∀ j, rests (g j))
    (hI : Inv S.state g) {l : Label Ans ρ Ext} (hok : ok S l) (hmeets : S.Meets W body G l)
    (hs : S.step W body l = some S') :
    ∃ g', Coherent W P enter fresh final S' g' ∧ (∀ j, rests (g' j)) ∧ Inv S'.state g' := by
  obtain ⟨req, w, t, p, s, rfl, ht, rfl⟩ | ⟨i, w, req, log, c, k, r, s, t, p, s', rfl, hi, hp, ht, rfl⟩ |
    ⟨e, s, rfl, he, rfl⟩ := step_cases (hmeets.step hs)
  · obtain ⟨hI', hwp⟩ := h.spawn _ g req w hg hr hI hok
    obtain ⟨⟨h₁, -⟩, h₂, h₃, h₄⟩ := (h.turns hg _).settle ⟨hI', fun j hj => update_of_ne hj _ _, by simp⟩
      (fun j hj => by rw [update_of_ne hj]; exact hr j) (by rwa [update_self]) ht
    rw [update_idem, update_self] at h₁
    rw [update_self] at h₂ h₃ h₄
    refine ⟨_, ⟨fun i p' hp' => ?_, fun i p' hp' => ?_, fun i p' hp' => ?_, fun i hi => ?_⟩, fun j => ?_, h₁⟩
    · rcases getElem?_snoc hp' with hp' | ⟨rfl, rfl⟩
      · have hi := (List.getElem?_eq_some_iff.mp hp').1
        rw [update_of_ne (by omega)]
        exact hg.resting i p' hp'
      · rw [update_self]
        exact h₂
    · rcases getElem?_snoc hp' with hp' | ⟨rfl, rfl⟩
      · have hi := (List.getElem?_eq_some_iff.mp hp').1
        rw [update_of_ne (by omega)]
        exact hg.traced i p' hp'
      · rw [update_self]
    · rcases getElem?_snoc hp' with hp' | ⟨rfl, rfl⟩
      · exact hg.told i p' hp'
      · exact h₄
    · simp only [List.length_append, List.length_singleton] at hi
      rw [update_of_ne (by omega)]
      exact hg.unborn i (by omega)
    · rw [update_apply]
      split
      · exact h₃
      · exact hr j
  · obtain ⟨⟨q₀, ha, hc⟩, -, hk⟩ := hg.resting i _ hi
    obtain ⟨hm, hI'⟩ := (h.turns hg i).perform _ g q₀ c _ r s ⟨hI, fun _ _ => rfl, fun p hp => h.of_coherent hg hp⟩
      (fun j _ => hr j) (fun _ => ⟨_, hi⟩) ha hc hp
    obtain ⟨⟨h₁, -⟩, h₂, h₃, h₄⟩ := (h.turns hg i).settle hI'
      (fun j hj => by rw [update_of_ne hj]; exact hr j) (by rw [update_self]; exact hk r hm) ht
    rw [update_idem, update_self] at h₁
    rw [update_self] at h₂ h₃ h₄
    have hgi : g i = P.call (P.after (enter req) log) c := hg.traced i _ hi
    refine ⟨_, ⟨fun j p' hp' => ?_, fun j p' hp' => ?_, fun j p' hp' => ?_, fun j hj => ?_⟩, fun j => ?_, h₁⟩
    · rcases getElem?_set_cases hp' with ⟨rfl, rfl⟩ | ⟨hij, hp'⟩
      · rw [update_self]
        exact h₂
      · rw [update_of_ne (Ne.symm hij)]
        exact hg.resting j p' hp'
    · rcases getElem?_set_cases hp' with ⟨rfl, rfl⟩ | ⟨hij, hp'⟩
      · have hlog : P.after (enter req) (log ++ ⟨c, r⟩ :: t) = P.after (P.next (g i) c r) t := by
          rw [hgi, P.after_append]
          rfl
        rw [update_self]
        cases p <;> simp only [Protocol.ghost, hlog]
      · rw [update_of_ne (Ne.symm hij)]
        exact hg.traced j p' hp'
    · rcases getElem?_set_cases hp' with ⟨rfl, rfl⟩ | ⟨hij, hp'⟩
      · refine (P.told_append ..).mpr ⟨hg.told i _ hi, ?_, ?_⟩
        · rwa [← hgi]
        · rwa [← hgi]
      · exact hg.told j p' hp'
    · have hi' := (List.getElem?_eq_some_iff.mp hi).1
      simp only [List.length_set] at hj
      rw [update_of_ne (by omega)]
      exact hg.unborn j hj
    · rw [update_apply]
      split
      · exact h₃
      · exact hr j
  · exact ⟨g, ⟨hg.resting, hg.traced, hg.told, hg.unborn⟩, hr, h.ext _ g e s hg hr hI hok he⟩

/-- The invariant stays, from any state on. -/
theorem reach_from [∀ S i c r s, Decidable (G S i c r s)] (h : Guarded W body P enter fresh rests final Of ok G Inv)
    {S₀ S : Sys Ans ε α σ ρ} {g₀ : Nat → Q} (hg : Coherent W P enter fresh final S₀ g₀) (hr : ∀ j, rests (g₀ j))
    (hI : Inv S₀.state g₀) (hS : Reach W body (fun S l => ok S l ∧ S.Meets W body G l) S₀ S) :
    ∃ g, Coherent W P enter fresh final S g ∧ (∀ j, rests (g j)) ∧ Inv S.state g := by
  induction hS with
  | start => exact ⟨g₀, hg, hr, hI⟩
  | step _ hok hs ih =>
      obtain ⟨g, hg, hr, hI⟩ := ih
      exact h.step hg hr hI hok.1 hok.2 hs

/-- In every reachable state the programs have ghost states, all at rest, and the invariant holds. -/
theorem reach [∀ S i c r s, Decidable (G S i c r s)] (h : Guarded W body P enter fresh rests final Of ok G Inv)
    {s₀ : σ} {S : Sys Ans ε α σ ρ} (h₀ : Inv s₀ fun _ => fresh)
    (hS : Reach W body (fun S l => ok S l ∧ S.Meets W body G l) ⟨s₀, []⟩ S) :
    ∃ g, Coherent W P enter fresh final S g ∧ (∀ j, rests (g j)) ∧ Inv S.state g :=
  h.reach_from ⟨by simp, by simp, by simp, fun _ _ => rfl⟩ (fun _ => h.rests_fresh) h₀ hS

end Guarded

/-- What has to be shown for the invariant `Inv` to hold in every reachable state. -/
structure Sound (W : World Ans σ Ext) (body : ρ → Prog Ans ε α) (P : Protocol Ans Q) (enter : ρ → Q)
    (fresh : Q) (rests final : Q → Prop) (ok : Sys Ans ε α σ ρ → Label Ans ρ Ext → Prop)
    (Inv : σ → (Nat → Q) → Prop) : Prop where
  spawn : ∀ S g req w, Coherent W P enter fresh final S g → (∀ j, rests (g j)) → Inv S.state g →
    ok S (.spawn req w) →
    Inv S.state (update g S.procs.length (enter req)) ∧
      P.wp (body req) (enter req) (fun _ => final) (fun _ => final)
  call : ∀ s g i c, Inv s g → (∀ j, j ≠ i → rests (g j)) → P.allows (g i) c → W.waits c = true →
    rests (P.call (g i) c) ∧ Inv (W.call i c s) (update g i (P.call (g i) c))
  perform : ∀ s g i q c w r s', Inv s g → (∀ j, j ≠ i → rests (g j)) → P.allows q c →
    P.call q c = g i → W.perform i c w s = some (r, s') →
    P.may (g i) c r ∧ Inv s' (update g i (P.next (g i) c r))
  ext : ∀ S g e s, Coherent W P enter fresh final S g → (∀ j, rests (g j)) → Inv S.state g →
    ok S (.ext e) → W.ext e S.state = some s → Inv s g
  finish : ∀ s g i, Inv s g → (∀ j, j ≠ i → rests (g j)) → final (g i) →
    rests (P.finish (g i)) ∧ Inv s (update g i (P.finish (g i)))
  call_sync : ∀ q c, W.waits c = false → P.call q c = q
  rests_fresh : rests fresh

namespace Sound

variable {W : World Ans σ Ext} {body : ρ → Prog Ans ε α} {P : Protocol Ans Q} {enter : ρ → Q} {fresh : Q}
  {rests final : Q → Prop} {ok : Sys Ans ε α σ ρ → Label Ans ρ Ext → Prop} {Inv : σ → (Nat → Q) → Prop}

theorem guarded (h : Sound W body P enter fresh rests final ok Inv) :
    Guarded W body P enter fresh rests final (fun _ _ => True) ok (fun _ _ _ _ _ => True) Inv where
  spawn := h.spawn
  call := h.call
  perform _ _ s g i q c w r s' _ _ _ _ _ := h.perform s g i q c w r s'
  ext := h.ext
  finish := h.finish
  call_sync := h.call_sync
  rests_fresh := h.rests_fresh
  of_enter _ := trivial
  of_call _ _ _ _ := trivial
  of_next _ _ _ _ _ := trivial
  of_finish _ _ _ := trivial

/-- In every reachable state the programs have ghost states, all at rest, and the invariant holds. -/
theorem reach (h : Sound W body P enter fresh rests final ok Inv) {s₀ : σ} {S : Sys Ans ε α σ ρ}
    (h₀ : Inv s₀ fun _ => fresh) (hS : Reach W body ok ⟨s₀, []⟩ S) :
    ∃ g, Coherent W P enter fresh final S g ∧ (∀ j, rests (g j)) ∧ Inv S.state g :=
  h.guarded.reach h₀ hS.meets_true

end Sound

end Coop
