import WalletHeadless.Coop.Conclusion

/-!
# Programs that are led by their traces

* `logging`: a program may ask what its trace allows;
* `Computes`: for the answers that may come, a program computes what a function does; `computes_bind`,
  `computes_mapM`: along the program's own structure.
-/

namespace Coop

variable {Op : Type} {Ans : Op → Type} {ε α β Q : Type}

/-! ## What the trace allows -/

/-- What a program may ask after its trace, when the answers meet `told`. -/
def logging (allows : List (Event Ans) → Op → Prop) (told : (c : Op) → Ans c → Prop := fun _ _ => True) :
    Protocol Ans (List (Event Ans)) where
  allows := allows
  may _ := told
  next t c r := t ++ [⟨c, r⟩]

section
variable {allows : List (Event Ans) → Op → Prop} {told : (c : Op) → Ans c → Prop} {p p' : Prog Ans ε α}
  {t u : List (Event Ans)} {e : Event Ans}

theorem logging_after (t u : List (Event Ans)) : (logging allows told).after t u = t ++ u :=
  (logging allows told).after_log id (fun _ _ => rfl) (fun _ _ _ => rfl) t u

/-- The trace only grows. -/
theorem logging_extends {post : α → List (Event Ans) → Prop} {fail : ε → List (Event Ans) → Prop}
    (h : (logging allows told).wp p t post fail) (hu : u <+: t) :
    (logging allows told).wp p t (fun a t' => u <+: t' ∧ post a t') fun e t' => u <+: t' ∧ fail e t' := by
  induction p generalizing t with
  | ret a => exact ⟨hu, h⟩
  | throw e => exact ⟨hu, h⟩
  | op c k ih => exact ⟨h.1, fun r hr => ih r (h.2 r hr) (hu.trans (List.prefix_append t [⟨c, r⟩]))⟩

/-- A program whose questions the trace allows, whatever it is. -/
theorem logging_of_uses {A : Op → Prop} (hp : p.Uses A) (hA : ∀ t c, A c → allows t c) (t : List (Event Ans)) :
    (logging allows told).wp p t (fun _ _ => True) fun _ _ => True :=
  hp.wp_inv (I := fun _ => True) (fun t c hc _ => ⟨hA t c hc, fun _ => trivial⟩) trivial

/-- What was asked was allowed by the trace that was there. -/
theorem logging_allows (h : Steps p (t ++ e :: u) p') {post : α → List (Event Ans) → Prop}
    {fail : ε → List (Event Ans) → Prop} (hp : (logging allows told).wp p [] post fail) (ht : ∀ e ∈ t, told e.1 e.2) :
    allows t e.1 := by
  have hallows := (logging allows told).wp_allows h hp (Protocol.told_of_mem _ (fun e he _ => ht e he) _)
  rwa [logging_after] at hallows

end

/-! ## Functions -/

namespace Protocol

/-- `p` computes `r` for the answers that may come, but for failures that meet `F`. -/
def Computes (P : Protocol Ans Q) (F : ε → Q → Prop) (p : Prog Ans ε α) (r : Except ε α) : Prop :=
  ∀ q, P.wp p q (fun a _ => r = .ok a) fun e q' => r = .error e ∨ F e q'

section Computes
variable {P : Protocol Ans Q} {F : ε → Q → Prop} {p : Prog Ans ε α} {r : Except ε α}

theorem computes_pure (a : α) : P.Computes F (pure a) (.ok a) := fun _ => rfl

theorem computes_throw (e : ε) : P.Computes F (MonadExcept.throw e : Prog Ans ε α) (.error e) := fun _ => .inl rfl

theorem computes_bind {f : α → Prog Ans ε β} {g : α → Except ε β} (hp : P.Computes F p r)
    (hf : ∀ a, r = .ok a → P.Computes F (f a) (g a)) : P.Computes F (p >>= f) (r >>= g) := by
  intro q
  refine (wp_bind ..).mpr (wp_mono _ (hp q) (fun a q' ha => ?_) fun e q' he => ?_)
  · subst ha
    exact hf a rfl q'
  · rcases he with rfl | he
    · exact .inl rfl
    · exact .inr he

theorem computes_mapM {f : α → Prog Ans ε β} {g : α → Except ε β} (h : ∀ a, P.Computes F (f a) (g a)) (as : List α) :
    P.Computes F (as.mapM f) (as.mapM g) := by
  induction as with
  | nil => exact computes_pure []
  | cons a as ih =>
      rw [List.mapM_cons, List.mapM_cons]
      exact computes_bind (h a) fun b _ => computes_bind ih fun bs _ => computes_pure (b :: bs)

end Computes

end Protocol

end Coop
