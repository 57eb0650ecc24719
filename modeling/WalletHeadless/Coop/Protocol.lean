import WalletHeadless.Coop.Program

/-!
# Protocols: the ghost state of a program

A `Protocol` follows one program by a ghost state: which questions the state `allows`, the state `call`
while the question is open, the answers that `may` come, the state `next` after an answer, and the state
`finish` once the program has ended.

* `Protocol.wp P p q post fail`: from the ghost state `q`, `p` asks only what `P` allows, returns only
  into `post` and throws only into `fail`, for every answer that may come;
* `wp_bind`, `wp_catches`, `wp_andFinally`: `wp` along the program's own structure;
* `Prog.Uses.wp`, `Prog.Uses.wp_inv`: a program whose questions leave the ghost state, or what it
  satisfies, alone;
* `Keeps`: a program keeps an invariant of the ghost state;
* `wp_steps`, `wp_allows`: `wp` along a trace;
* `restrict`: fewer answers;
* `history`: the ghost state that is the whole trace.
-/

namespace Coop

open Prog

variable {Op : Type} {Ans : Op → Type} {ε α β Q : Type}

/-- The rules by which a ghost state follows a program. -/
structure Protocol (Ans : Op → Type) (Q : Type) where
  allows : Q → Op → Prop
  call : Q → Op → Q := fun q _ => q
  may : Q → (c : Op) → Ans c → Prop := fun _ _ _ => True
  next : Q → (c : Op) → Ans c → Q
  finish : Q → Q := fun q => q

namespace Protocol

variable (P : Protocol Ans Q)

def wp : Prog Ans ε α → Q → (α → Q → Prop) → (ε → Q → Prop) → Prop
  | .ret a, q, post, _ => post a q
  | .throw e, q, _, fail => fail e q
  | .op c k, q, post, fail =>
    P.allows q c ∧ ∀ r, P.may (P.call q c) c r → wp (k r) (P.next (P.call q c) c r) post fail

theorem wp_ret (a : α) (q : Q) (post : α → Q → Prop) (fail : ε → Q → Prop) :
    P.wp (.ret a) q post fail ↔ post a q := Iff.rfl

theorem wp_pure (a : α) (q : Q) (post : α → Q → Prop) (fail : ε → Q → Prop) :
    P.wp (pure a) q post fail ↔ post a q := Iff.rfl

theorem wp_monadThrow (e : ε) (q : Q) (post : α → Q → Prop) (fail : ε → Q → Prop) :
    P.wp (MonadExcept.throw e) q post fail ↔ fail e q := Iff.rfl

theorem wp_bind (p : Prog Ans ε α) (f : α → Prog Ans ε β) (q : Q) (post : β → Q → Prop)
    (fail : ε → Q → Prop) :
    P.wp (p >>= f) q post fail ↔ P.wp p q (fun a q' => P.wp (f a) q' post fail) fail := by
  rw [bind_eq]
  induction p generalizing q with
  | ret a => rfl
  | throw e => rfl
  | op c k ih => exact and_congr_right fun _ => forall_congr' fun r => imp_congr_right fun _ => ih r _

theorem wp_map (p : Prog Ans ε α) (f : α → β) (q : Q) (post : β → Q → Prop) (fail : ε → Q → Prop) :
    P.wp (f <$> p) q post fail ↔ P.wp p q (fun a => post (f a)) fail :=
  P.wp_bind p (fun a => pure (f a)) q post fail

theorem wp_catches (p : Prog Ans ε α) (h : ε → Prog Ans ε α) (q : Q) (post : α → Q → Prop)
    (fail : ε → Q → Prop) :
    P.wp (p.catches h) q post fail ↔ P.wp p q post (fun e q' => P.wp (h e) q' post fail) := by
  induction p generalizing q with
  | ret a => rfl
  | throw e => rfl
  | op c k ih => exact and_congr_right fun _ => forall_congr' fun r => imp_congr_right fun _ => ih r _

theorem wp_tryCatch (p : Prog Ans ε α) (h : ε → Prog Ans ε α) (q : Q) (post : α → Q → Prop)
    (fail : ε → Q → Prop) :
    P.wp (MonadExcept.tryCatch p h) q post fail ↔
      P.wp p q post (fun e q' => P.wp (h e) q' post fail) :=
  P.wp_catches p h q post fail

theorem wp_andFinally (p : Prog Ans ε α) (f : Prog Ans ε Unit) (q : Q) (post : α → Q → Prop)
    (fail : ε → Q → Prop) :
    P.wp (p.andFinally f) q post fail ↔
      P.wp p q (fun a q' => P.wp f q' (fun _ => post a) fail)
        (fun e q' => P.wp f q' (fun _ => fail e) fail) := by
  induction p generalizing q with
  | ret a => exact P.wp_bind f (fun _ => ret a) q post fail
  | throw e => exact P.wp_bind f (fun _ => Prog.throw e) q post fail
  | op c k ih => exact and_congr_right fun _ => forall_congr' fun r => imp_congr_right fun _ => ih r _

theorem wp_orThrow (r : Except ε α) (q : Q) (post : α → Q → Prop) (fail : ε → Q → Prop) :
    P.wp (orThrow r) q post fail ↔ (∀ a, r = .ok a → post a q) ∧ ∀ e, r = .error e → fail e q := by
  cases r with
  | ok a => simp [orThrow, wp]
  | error e => simp [orThrow, wp]

theorem wp_attempt (p : Prog Ans ε (Except ε α)) (q : Q) (post : α → Q → Prop) (fail : ε → Q → Prop) :
    P.wp p.attempt q post fail ↔
      P.wp p q (fun r q' => (∀ a, r = .ok a → post a q') ∧ ∀ e, r = .error e → fail e q') fail := by
  unfold attempt
  rw [← bind_eq, wp_bind]
  simp only [wp_orThrow]

theorem wp_ite (c : Prop) [Decidable c] (p p' : Prog Ans ε α) (q : Q) (post : α → Q → Prop)
    (fail : ε → Q → Prop) :
    P.wp (if c then p else p') q post fail ↔
      (c → P.wp p q post fail) ∧ (¬ c → P.wp p' q post fail) := by
  split <;> simp [*]

theorem wp_mono {p : Prog Ans ε α} {q : Q} {post post' : α → Q → Prop} {fail fail' : ε → Q → Prop}
    (h : P.wp p q post fail) (hpost : ∀ a q', post a q' → post' a q')
    (hfail : ∀ e q', fail e q' → fail' e q') : P.wp p q post' fail' := by
  induction p generalizing q with
  | ret a => exact hpost a q h
  | throw e => exact hfail e q h
  | op c k ih => exact ⟨h.1, fun r hr => ih r (h.2 r hr)⟩

end Protocol

/-- The questions that leave the ghost state `q` alone. -/
def Protocol.Neutral (P : Protocol Ans Q) (q : Q) (c : Op) : Prop :=
  P.allows q c ∧ ∀ r, P.next (P.call q c) c r = q

theorem Prog.Uses.wp {P : Protocol Ans Q} {q : Q} {p : Prog Ans ε α} (hp : p.Uses (P.Neutral q))
    {post : α → Q → Prop} {fail : ε → Q → Prop} (hpost : ∀ a, post a q) (hfail : ∀ e, fail e q) :
    P.wp p q post fail := by
  induction p with
  | ret a => exact hpost a
  | throw e => exact hfail e
  | op c k ih =>
      refine ⟨hp.1.1, fun r _ => ?_⟩
      rw [hp.1.2 r]
      exact ih r (hp.2 r)

/-- A program whose questions keep what the ghost state satisfies. -/
theorem Prog.Uses.wp_inv {P : Protocol Ans Q} {A : Op → Prop} {I : Q → Prop} {p : Prog Ans ε α}
    (hp : p.Uses A) (hA : ∀ q c, A c → I q → P.allows q c ∧ ∀ r, I (P.next (P.call q c) c r)) {q : Q}
    (hq : I q) : P.wp p q (fun _ => I) (fun _ => I) := by
  induction p generalizing q with
  | ret a => exact hq
  | throw e => exact hq
  | op c k ih => exact ⟨(hA q c hp.1 hq).1, fun r _ => ih r (hp.2 r) ((hA q c hp.1 hq).2 r)⟩

/-! ## Invariants -/

namespace Protocol

/-- From a ghost state that meets `I`, `p` returns and throws only into states that meet it. -/
def Keeps (P : Protocol Ans Q) (I : Q → Prop) (p : Prog Ans ε α) : Prop :=
  ∀ q, I q → P.wp p q (fun _ => I) fun _ => I

section Keeps
variable {P : Protocol Ans Q} {I : Q → Prop} {p p' : Prog Ans ε α}

theorem keeps_pure (a : α) : P.Keeps I (pure a : Prog Ans ε α) := fun _ h => h

theorem keeps_throw (e : ε) : P.Keeps I (MonadExcept.throw e : Prog Ans ε α) := fun _ h => h

theorem keeps_ask {c : Op} (ha : ∀ q, I q → P.allows q c)
    (hn : ∀ q r, I q → P.may (P.call q c) c r → I (P.next (P.call q c) c r)) :
    P.Keeps I (ask c : Prog Ans ε (Ans c)) := fun q h => ⟨ha q h, fun r hr => hn q r h hr⟩

theorem keeps_bind {f : α → Prog Ans ε β} (hp : P.Keeps I p) (hf : ∀ a, P.Keeps I (f a)) :
    P.Keeps I (p >>= f) := fun q h =>
  (wp_bind ..).mpr (wp_mono _ (hp q h) (fun a q h => hf a q h) fun _ _ h => h)

theorem keeps_map {f : α → β} (hp : P.Keeps I p) : P.Keeps I (f <$> p) :=
  keeps_bind hp fun a => keeps_pure (f a)

theorem keeps_tryCatch {h : ε → Prog Ans ε α} (hp : P.Keeps I p) (hh : ∀ e, P.Keeps I (h e)) :
    P.Keeps I (MonadExcept.tryCatch p h) := fun q hq =>
  (wp_tryCatch ..).mpr (wp_mono _ (hp q hq) (fun _ _ h => h) fun e q hq => hh e q hq)

theorem keeps_ite {c : Prop} [Decidable c] (hp : P.Keeps I p) (hp' : P.Keeps I p') :
    P.Keeps I (if c then p else p') := by
  split
  · exact hp
  · exact hp'

theorem keeps_orThrow (r : Except ε α) : P.Keeps I (orThrow r) := by
  cases r with
  | ok a => exact fun _ h => h
  | error e => exact fun _ h => h

theorem keeps_attempt {p : Prog Ans ε (Except ε α)} (hp : P.Keeps I p) : P.Keeps I p.attempt :=
  keeps_bind hp keeps_orThrow

theorem keeps_of_uses {A : Op → Prop} (hp : p.Uses A) (hA : ∀ c, A c → P.Keeps I (ask c : Prog Ans ε (Ans c))) :
    P.Keeps I p := by
  induction p with
  | ret a => exact fun _ h => h
  | throw e => exact fun _ h => h
  | op c k ih =>
      intro q h
      obtain ⟨ha, hn⟩ := hA c hp.1 q h
      exact ⟨ha, fun r hr => ih r (hp.2 r) _ (hn r hr)⟩

end Keeps

end Protocol

/-! ## Along a trace -/

namespace Protocol

variable (P : Protocol Ans Q)

/-- The ghost state after a trace. -/
def after : Q → List (Event Ans) → Q
  | q, [] => q
  | q, ⟨c, r⟩ :: t => after (P.next (P.call q c) c r) t

/-- Every answer of the trace is one that may come. -/
def Told : Q → List (Event Ans) → Prop
  | _, [] => True
  | q, ⟨c, r⟩ :: t => P.may (P.call q c) c r ∧ Told (P.next (P.call q c) c r) t

theorem after_append (q : Q) (t u : List (Event Ans)) : P.after q (t ++ u) = P.after (P.after q t) u := by
  induction t generalizing q with
  | nil => rfl
  | cons e t ih => exact ih _

theorem told_append (q : Q) (t u : List (Event Ans)) :
    P.Told q (t ++ u) ↔ P.Told q t ∧ P.Told (P.after q t) u := by
  induction t generalizing q with
  | nil => simp [Told, after]
  | cons e t ih => simp only [List.cons_append, Told, after, ih, and_assoc]

theorem wp_steps {p p' : Prog Ans ε α} {t : List (Event Ans)} (h : Steps p t p') {q : Q}
    {post : α → Q → Prop} {fail : ε → Q → Prop} (hp : P.wp p q post fail) (ht : P.Told q t) :
    P.wp p' (P.after q t) post fail := by
  induction h generalizing q with
  | nil p => exact hp
  | cons c k r _ ih => exact ih (hp.2 r ht.1) ht.2

/-- A program asks what is allowed. -/
theorem wp_allows {p p' : Prog Ans ε α} {t u : List (Event Ans)} {e : Event Ans} (h : Steps p (t ++ e :: u) p')
    {q : Q} {post : α → Q → Prop} {fail : ε → Q → Prop} (hp : P.wp p q post fail) (ht : P.Told q t) :
    P.allows (P.after q t) e.1 := by
  induction t generalizing p q with
  | nil =>
      cases h with
      | cons c k r _ => exact hp.1
  | cons e' t ih =>
      cases h with
      | cons c k r h => exact ih h (hp.2 r ht.1) ht.2

/-- The ghost state of a program that has asked and been told `t`, and is then `p`. -/
def ghost (q : Q) (t : List (Event Ans)) : Prog Ans ε α → Q
  | .ret _ => P.finish (P.after q t)
  | .throw _ => P.finish (P.after q t)
  | .op c _ => P.call (P.after q t) c

/-- What every question and every answer keeps. -/
theorem after_inv {I : Q → Prop} (hcall : ∀ q c, I q → I (P.call q c))
    (hnext : ∀ q c r, I q → I (P.next q c r)) {q : Q} (h : I q) (t : List (Event Ans)) : I (P.after q t) := by
  induction t generalizing q with
  | nil => exact h
  | cons e t ih => exact ih (hnext _ _ _ (hcall _ _ h))

/-- A tag that no question and no answer changes. -/
theorem after_tag {T : Type} (tag : Q → T) (hcall : ∀ q c, tag (P.call q c) = tag q)
    (hnext : ∀ q c r, tag (P.next q c r) = tag q) (q : Q) (t : List (Event Ans)) :
    tag (P.after q t) = tag q :=
  P.after_inv (I := fun q' => tag q' = tag q) (fun q' c h => (hcall q' c).trans h)
    (fun q' c r h => (hnext q' c r).trans h) rfl t

/-- A log to which every answer is added. -/
theorem after_log (log : Q → List (Event Ans)) (hcall : ∀ q c, log (P.call q c) = log q)
    (hnext : ∀ q c r, log (P.next q c r) = log q ++ [⟨c, r⟩]) (q : Q) (t : List (Event Ans)) :
    log (P.after q t) = log q ++ t := by
  induction t generalizing q with
  | nil => exact (List.append_nil _).symm
  | cons e t ih =>
      calc log (P.after (P.next (P.call q e.1) e.1 e.2) t)
          = log (P.next (P.call q e.1) e.1 e.2) ++ t := ih _
        _ = log q ++ [e] ++ t := by rw [hnext, hcall]
        _ = log q ++ e :: t := List.append_assoc _ [e] t

theorem ghost_tag {T : Type} (tag : Q → T) (hcall : ∀ q c, tag (P.call q c) = tag q)
    (hnext : ∀ q c r, tag (P.next q c r) = tag q) (hover : ∀ q, tag (P.finish q) = tag q) (q : Q)
    (t : List (Event Ans)) (p : Prog Ans ε α) : tag (P.ghost q t p) = tag q := by
  cases p with
  | ret a => rw [ghost, hover, P.after_tag tag hcall hnext q t]
  | throw e => rw [ghost, hover, P.after_tag tag hcall hnext q t]
  | op c k => rw [ghost, hcall, P.after_tag tag hcall hnext q t]

/-- The answers that may come and meet `told`. -/
def restrict (told : (c : Op) → Ans c → Prop) : Protocol Ans Q :=
  { P with may := fun q c r => P.may q c r ∧ told c r }

theorem wp_restrict {told : (c : Op) → Ans c → Prop} {p : Prog Ans ε α} {q : Q} {post : α → Q → Prop}
    {fail : ε → Q → Prop} (h : P.wp p q post fail) : (P.restrict told).wp p q post fail := by
  induction p generalizing q with
  | ret a => exact h
  | throw e => exact h
  | op c k ih => exact ⟨h.1, fun r hr => ih r (h.2 r hr.1)⟩

theorem restrict_told {told : (c : Op) → Ans c → Prop} {q : Q} {t : List (Event Ans)} (h : P.Told q t)
    (htold : ∀ e ∈ t, told e.1 e.2) : (P.restrict told).Told q t := by
  induction t generalizing q with
  | nil => trivial
  | cons e t ih => exact ⟨⟨h.1, htold e (by simp)⟩, ih h.2 fun e' he => htold e' (by simp [he])⟩

theorem told_of_mem {t : List (Event Ans)} (h : ∀ e ∈ t, ∀ q, P.may q e.1 e.2) (q : Q) : P.Told q t := by
  induction t generalizing q with
  | nil => trivial
  | cons e t ih => exact ⟨h e (by simp) _, ih (fun e' he => h e' (by simp [he])) _⟩

theorem told_of_may (hP : ∀ q c r, P.may q c r) (q : Q) (t : List (Event Ans)) : P.Told q t :=
  P.told_of_mem (fun e _ q => hP q e.1 e.2) q

end Protocol

/-! ## The whole trace -/

/-- The ghost state that is all that was asked and told, when the answers meet `told`. -/
def historyOf (told : (c : Op) → Ans c → Prop) : Protocol Ans (List (Event Ans)) where
  allows _ _ := True
  may _ := told
  next t c r := t ++ [⟨c, r⟩]

abbrev history (Ans : Op → Type) : Protocol Ans (List (Event Ans)) := historyOf fun _ _ => True

theorem history_after (told : (c : Op) → Ans c → Prop) (t u : List (Event Ans)) :
    (historyOf told).after t u = t ++ u :=
  (historyOf told).after_log id (fun _ _ => rfl) (fun _ _ _ => rfl) t u

theorem history_told {told : (c : Op) → Ans c → Prop} {u : List (Event Ans)}
    (h : ∀ e ∈ u, told e.1 e.2) (t : List (Event Ans)) : (historyOf told).Told t u := by
  induction u generalizing t with
  | nil => trivial
  | cons e u ih => exact ⟨h e (by simp), ih (fun e' he => h e' (by simp [he])) _⟩

/-- The trace only grows. -/
theorem history_extends {told : (c : Op) → Ans c → Prop} {p : Prog Ans ε α} {t : List (Event Ans)}
    {post : α → List (Event Ans) → Prop} {fail : ε → List (Event Ans) → Prop} (h : (historyOf told).wp p t post fail)
    {u : List (Event Ans)} (hu : u <+: t) :
    (historyOf told).wp p t (fun a t' => u <+: t' ∧ post a t') (fun e t' => u <+: t' ∧ fail e t') := by
  induction p generalizing t with
  | ret a => exact ⟨hu, h⟩
  | throw e => exact ⟨hu, h⟩
  | op c k ih => exact ⟨trivial, fun r hr => ih r (h.2 r hr) (hu.trans (List.prefix_append t [⟨c, r⟩]))⟩

/-- What holds of the trace of a program at its end. -/
theorem history_ended {told : (c : Op) → Ans c → Prop} {p p' : Prog Ans ε α} {t : List (Event Ans)}
    (h : Steps p t p') {F : List (Event Ans) → Prop}
    (hp : (historyOf told).wp p [] (fun _ => F) (fun _ => F)) (hend : p'.Ended)
    (ht : ∀ e ∈ t, told e.1 e.2) : F t := by
  have hwp := (historyOf told).wp_steps h hp (history_told ht [])
  rw [history_after] at hwp
  cases p' with
  | ret a => exact hwp
  | throw e => exact hwp
  | op c k => exact hend.elim

end Coop
