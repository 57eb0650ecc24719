import WalletHeadless.Coop.System

/-!
# A program that runs alone

When no other program runs, a program acts on the state of the world by its own questions. The state is then
its ghost state: `World.alone W i` is the protocol whose ghost state is the state of the world.

* `World.Ends`: a program, alone from a state, ends with an outcome in another;
* `World.Ends.post`: what `wp` says of it;
* `World.runAlone`: the run when every question is given its answer; `World.ends_of_runAlone`: it is one;
* `Sys.Alone`: the steps of a system with one program, among which the outside may act as well;
* `World.Ties`, `World.Ties.reach`: what ties the state to the log of that program.
-/

namespace Coop

open Prog

variable {Op : Type} {Ans : Op → Type} {ε α β σ Ext : Type}

/-- What program `i` does before its question is answered. -/
def World.callAlone (W : World Ans σ Ext) (i : Nat) (c : Op) (s : σ) : σ := if W.waits c then W.call i c s else s

/-- The state of the world while program `i` alone acts on it. -/
def World.alone (W : World Ans σ Ext) (i : Nat) : Protocol Ans σ where
  allows _ _ := True
  call s c := W.callAlone i c s
  may s c r := ∃ s', W.perform i c r s = some (r, s')
  next s c r := ((W.perform i c r s).map Prod.snd).getD s

/-- Program `i` asks and is told `t`, alone from the state `s`, and ends with the outcome `x` in the state `s'`. -/
def World.Ends (W : World Ans σ Ext) (i : Nat) (p : Prog Ans ε α) (s : σ) (t : List (Event Ans))
    (x : Except ε α) (s' : σ) : Prop :=
  Steps p t (Prog.orThrow x) ∧ (W.alone i).Told s t ∧ (W.alone i).after s t = s'

theorem World.Ends.post {W : World Ans σ Ext} {i : Nat} {p : Prog Ans ε α} {s s' : σ} {t : List (Event Ans)}
    {Post : α → σ → Prop} {Fail : ε → σ → Prop} {a : α} (h : W.Ends i p s t (.ok a) s')
    (hp : (W.alone i).wp p s Post Fail) : Post a s' := by
  obtain ⟨hs, ht, rfl⟩ := h
  exact (W.alone i).wp_steps hs hp ht

/-- `wp` of a question, by what the world does. -/
theorem World.alone_ask {W : World Ans σ Ext} {i : Nat} {c : Op} {s : σ} {Post : Ans c → σ → Prop}
    {Fail : ε → σ → Prop} (h : ∀ r s', W.perform i c r (W.callAlone i c s) = some (r, s') → Post r s') :
    (W.alone i).wp (ask c) s Post Fail := by
  refine ⟨trivial, fun r hr => ?_⟩
  obtain ⟨s', hs'⟩ : ∃ s', W.perform i c r (W.callAlone i c s) = some (r, s') := hr
  show Post r (((W.perform i c r (W.callAlone i c s)).map Prod.snd).getD (W.callAlone i c s))
  rw [hs']
  exact h r s' hs'

/-- A question that does not wait. -/
theorem World.alone_askNow {W : World Ans σ Ext} {i : Nat} {c : Op} (hw : W.waits c = false) {s : σ}
    {Post : Ans c → σ → Prop} {Fail : ε → σ → Prop}
    (h : ∀ r s', W.perform i c r s = some (r, s') → Post r s') : (W.alone i).wp (ask c) s Post Fail := by
  refine World.alone_ask fun r s' hr => h r s' ?_
  rwa [World.callAlone, hw] at hr

/-- Alone, a question keeps what the world keeps. -/
theorem World.alone_keeps {W : World Ans σ Ext} {i : Nat} {I : σ → Prop} {c : Op}
    (hcall : ∀ s, I s → I (W.call i c s)) (h : ∀ r s s', I s → W.perform i c r s = some (r, s') → I s') :
    (W.alone i).Keeps I (ask c : Prog Ans ε (Ans c)) := by
  intro s hs
  refine World.alone_ask fun r s' hr => h r _ s' ?_ hr
  unfold World.callAlone
  split
  · exact hcall s hs
  · exact hs

/-! ## Runs -/

/-- The run of program `i`, alone from a state, when a question `c` is answered by `w c`. -/
def World.runAlone (W : World Ans σ Ext) (i : Nat) (w : (c : Op) → Ans c) :
    Prog Ans ε α → σ → Option (List (Event Ans) × Except ε α × σ)
  | .ret a, s => some ([], .ok a, s)
  | .throw e, s => some ([], .error e, s)
  | .op c k, s => (W.perform i c (w c) (W.callAlone i c s)).bind fun (r, s') =>
      (W.runAlone i w (k r) s').map fun (t, x, s'') => (⟨c, r⟩ :: t, x, s'')

/-- An answer that the world gives is one that it can be given. -/
def World.Settled (W : World Ans σ Ext) : Prop :=
  ∀ i c w r s s', W.perform i c w s = some (r, s') → W.perform i c r s = some (r, s')

theorem World.ends_of_runAlone {W : World Ans σ Ext} (hW : W.Settled) {i : Nat} {w : (c : Op) → Ans c}
    {p : Prog Ans ε α} {s s' : σ} {t : List (Event Ans)} {x : Except ε α}
    (h : W.runAlone i w p s = some (t, x, s')) : W.Ends i p s t x s' := by
  induction p generalizing s t with
  | ret a =>
      cases h
      exact ⟨.nil _, trivial, rfl⟩
  | throw e =>
      cases h
      exact ⟨.nil _, trivial, rfl⟩
  | op c k ih =>
      obtain ⟨⟨r, s₁⟩, hr, h⟩ := Option.bind_eq_some_iff.mp h
      obtain ⟨⟨t₁, x₁, s₂⟩, h₁, he⟩ := Option.map_eq_some_iff.mp h
      cases he
      have hr := hW _ _ _ _ _ _ hr
      obtain ⟨hs, ht, ha⟩ := ih r h₁
      have hnext : (W.alone i).next ((W.alone i).call s c) c r = s₁ := by
        show ((W.perform i c r (W.callAlone i c s)).map Prod.snd).getD _ = s₁
        rw [hr]
        rfl
      refine ⟨.cons c k r hs, ⟨⟨s₁, hr⟩, ?_⟩, ?_⟩
      · rw [hnext]
        exact ht
      · show (W.alone i).after ((W.alone i).next ((W.alone i).call s c) c r) t₁ = s'
        rw [hnext]
        exact ha

/-- Program `i` returns `a` in the state `s'` when every question `c` is answered by `w c`. -/
def World.Returns (W : World Ans σ Ext) (i : Nat) (w : (c : Op) → Ans c) (p : Prog Ans ε α) (s : σ) (a : α)
    (s' : σ) : Prop := ∃ t, W.runAlone i w p s = some (t, .ok a, s')

section Returns
variable {W : World Ans σ Ext} {i : Nat} {w : (c : Op) → Ans c} {s s' s'' : σ}

theorem returns_ret (a : α) : W.Returns i w (.ret a : Prog Ans ε α) s a s := ⟨[], rfl⟩

/-- A program that asks returns what it returns after the answer. -/
theorem returns_op_iff {c : Op} {k : Ans c → Prog Ans ε α} {a : α} :
    W.Returns i w (.op c k) s a s' ↔
      ∃ r s₁, W.perform i c (w c) (W.callAlone i c s) = some (r, s₁) ∧ W.Returns i w (k r) s₁ a s' := by
  constructor
  · rintro ⟨t, ht⟩
    obtain ⟨⟨r, s₁⟩, hr, h⟩ := Option.bind_eq_some_iff.mp ht
    obtain ⟨⟨t₁, x₁, s₂⟩, h₁, he⟩ := Option.map_eq_some_iff.mp h
    cases he
    exact ⟨r, s₁, hr, t₁, h₁⟩
  · rintro ⟨r, s₁, hr, t, ht⟩
    exact ⟨⟨c, r⟩ :: t, Option.bind_eq_some_iff.mpr ⟨_, hr, Option.map_eq_some_iff.mpr ⟨_, ht, rfl⟩⟩⟩

theorem not_returns_throw (e : ε) (a : α) : ¬ W.Returns i w (.throw e : Prog Ans ε α) s a s' := by
  rintro ⟨t, ht⟩
  cases ht

theorem returns_ask {c : Op} {r : Ans c} (h : W.perform i c (w c) (W.callAlone i c s) = some (r, s')) :
    W.Returns i w (ask c : Prog Ans ε (Ans c)) s r s' := returns_op_iff.mpr ⟨r, s', h, returns_ret r⟩

theorem returns_bind {p : Prog Ans ε α} {f : α → Prog Ans ε β} {a : α} {b : β} (hp : W.Returns i w p s a s')
    (hf : W.Returns i w (f a) s' b s'') : W.Returns i w (p >>= f) s b s'' := by
  rw [bind_eq]
  induction p generalizing s with
  | ret a =>
      obtain ⟨t, ht⟩ := hp
      cases ht
      exact hf
  | throw e => exact absurd hp (not_returns_throw e _)
  | op c k ih =>
      obtain ⟨r, s₁, hr, h⟩ := returns_op_iff.mp hp
      exact returns_op_iff.mpr ⟨r, s₁, hr, ih r h⟩

theorem returns_catches {p : Prog Ans ε α} {h : ε → Prog Ans ε α} {a : α} (hp : W.Returns i w p s a s') :
    W.Returns i w (MonadExcept.tryCatch p h) s a s' := by
  rw [tryCatch_eq]
  induction p generalizing s with
  | ret a => exact hp
  | throw e => exact absurd hp (not_returns_throw e _)
  | op c k ih =>
      obtain ⟨r, s₁, hr, h⟩ := returns_op_iff.mp hp
      exact returns_op_iff.mpr ⟨r, s₁, hr, ih r h⟩

theorem returns_attempt {p : Prog Ans ε (Except ε α)} {a : α} (hp : W.Returns i w p s (.ok a) s') :
    W.Returns i w p.attempt s a s' := returns_bind hp (returns_ret a)

theorem World.Returns.ends (hW : W.Settled) {p : Prog Ans ε α} {a : α} (h : W.Returns i w p s a s') :
    ∃ t, W.Ends i p s t (.ok a) s' := by
  obtain ⟨t, ht⟩ := h
  exact ⟨t, World.ends_of_runAlone hW ht⟩

end Returns

/-! ## A system with one program -/

/-- One program comes, and the outside does only what is calm. -/
def Sys.Alone (calm : Ext → Prop) (S : Sys Ans ε α σ ρ) : Label Ans ρ Ext → Prop
  | .spawn _ _ => S.procs = []
  | .resume _ _ => True
  | .ext e => calm e

instance (calm : Ext → Prop) [DecidablePred calm] (S : Sys Ans ε α σ ρ) (l : Label Ans ρ Ext) :
    Decidable (Sys.Alone calm S l) :=
  match l with
  | .spawn _ _ => decidable_of_iff (S.procs.isEmpty = true) List.isEmpty_iff
  | .resume _ _ => isTrue trivial
  | .ext e => inferInstanceAs (Decidable (calm e))

/-- What ties the state to the log of the one program that acts on it. -/
structure World.Ties (W : World Ans σ Ext) (calm : Ext → Prop) (I : σ → List (Event Ans) → Prop) : Prop where
  call : ∀ i c s t, I s t → I (W.call i c s) t
  perform : ∀ i c w r s s' t, I s t → W.perform i c w s = some (r, s') → I s' (t ++ [⟨c, r⟩])
  ext : ∀ e s s' t, I s t → calm e → W.ext e s = some s' → I s' t

namespace World.Ties

variable {W : World Ans σ Ext} {calm : Ext → Prop} {I : σ → List (Event Ans) → Prop}

theorem settle (h : W.Ties calm I) {i : Nat} {p p' : Prog Ans ε α} {w : Proposal Ans} {s s' : σ}
    {t u : List (Event Ans)} (hI : I s t) (hs : Coop.settle W i p w s = some (u, p', s')) : I s' (t ++ u) := by
  induction p generalizing w s t u with
  | ret a =>
      cases hs
      rwa [List.append_nil]
  | throw e =>
      cases hs
      rwa [List.append_nil]
  | op c k ih =>
      unfold Coop.settle at hs
      split at hs
      · cases hs
        rw [List.append_nil]
        exact h.call _ _ _ _ hI
      · obtain ⟨⟨r, s₁⟩, hr, hs⟩ := Option.bind_eq_some_iff.mp hs
        obtain ⟨⟨u₁, p₁, s₂⟩, h₁, he⟩ := Option.map_eq_some_iff.mp hs
        cases he
        have hrest := ih r (h.perform _ _ _ _ _ _ _ hI hr) h₁
        rwa [List.append_assoc] at hrest

/-- In every state that is reached with one program, its log is tied to the state. -/
theorem reach (h : W.Ties calm I) {body : ρ → Prog Ans ε α} {s₀ : σ} {S : Sys Ans ε α σ ρ} (h₀ : I s₀ [])
    (hS : Reach W body (Sys.Alone calm) ⟨s₀, []⟩ S) :
    S.procs = [] ∧ I S.state [] ∨ ∃ p, S.procs = [p] ∧ I S.state p.log := by
  induction hS with
  | start => exact .inl ⟨rfl, h₀⟩
  | step _ hok hs ih =>
      obtain ⟨req, w, t, p, s, rfl, ht, rfl⟩ | ⟨i, w, req, log, c, k, r, s, t, p, s', rfl, hi, hp, ht, rfl⟩ |
        ⟨e, s, rfl, he, rfl⟩ := step_cases hs
      · obtain ⟨-, hI⟩ | ⟨p', hp', -⟩ := ih
        · have hnone := show _ = [] from hok
          refine .inr ⟨⟨req, t, p⟩, by rw [hnone, List.nil_append], ?_⟩
          exact h.settle hI ht
        · rw [show _ = [] from hok] at hp'
          cases hp'
      · obtain ⟨hnil, -⟩ | ⟨p', hp', hI⟩ := ih
        · rw [hnil] at hi
          cases hi
        · -- the one program goes on
          rw [hp'] at hi ⊢
          obtain ⟨hlt, he⟩ := List.getElem?_eq_some_iff.mp hi
          obtain rfl : i = 0 := by simpa using hlt
          have he : p' = ⟨req, log, .op c k⟩ := he
          subst he
          refine .inr ⟨_, rfl, ?_⟩
          have hlog := h.settle (h.perform _ _ _ _ _ _ _ hI hp) ht
          rwa [List.append_assoc] at hlog
      · obtain ⟨hnil, hI⟩ | ⟨p', hp', hI⟩ := ih
        · exact .inl ⟨hnil, h.ext _ _ _ _ hI hok he⟩
        · exact .inr ⟨p', hp', h.ext _ _ _ _ hI hok he⟩

end World.Ties

end Coop
