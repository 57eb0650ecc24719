import WalletHeadless.Coop.Progress
import WalletHeadless.Locks.Leases

/-!
# No lock stays taken

* `api_answers`: each call can be answered, a pause after its time;
* `App.quiesces`: the requests are brought to their ends, and then time frees the locks.
-/

namespace WalletHeadless

open Coop Function

/-- The mark of a loop that takes more rounds than were said: that of `stopAllWallets` over the wallets, that of
`getAddresses` over the addresses, and that of `getLockedUTXOs` over the utxos. -/
def Endless (c : ApiOp) : Prop := c = .gate (.server (.lib .forever))

/-- Time passes. -/
def Advances (e : GateEvent) : Prop := ∃ d, e = .outside (.advance d)

theorem LibCall.gives_error {c : LibCall} (hc : c ≠ .forever) (e : JsError) : c.gives (.error e) = true := by
  cases c with
  | forever => exact absurd rfl hc
  | _ => rfl

/-- The answer of a call that fails, if it may. -/
def Op.refused : (c : Op) → c.Ans
  | .lib _ | .wallet _ => .error { message := "" }
  | c => c.granted { hash := "", inputs := [] }

/-- A call that is no pause is answered. -/
theorem Server.performOp_some (i : Nat) (c : Op) (s : Server) (hc : c ≠ .lib .forever) (hsleep : ∀ ms, c ≠ .sleep ms) :
    ∃ r s', s.performOp i c c.refused = some (r, s') := by
  cases c with
  | wallet c => cases c <;> exact ⟨_, _, rfl⟩
  | lib c => exact ⟨_, _, if_pos (LibCall.gives_error (fun h => hc (congrArg _ h)) _)⟩
  | sleep ms => exact absurd rfl (hsleep ms)
  | _ => exact ⟨_, _, rfl⟩

def ApiOp.refused : (c : ApiOp) → c.Ans
  | .gate (.server c) => c.refused
  | .gate (.getAddressAtIndex ..) | .read _ => .error { message := "" }
  | c => c.granted

theorem Api.performOp_some (i : Nat) (c : ApiOp) (s : Api) (hc : ¬ Endless c)
    (hsleep : ∀ ms, c ≠ .gate (.server (.sleep ms))) : ∃ r s', s.performOp i c c.refused = some (r, s') := by
  have hcall : ∃ r gate, s.performCall i c c.refused = some (r, gate) := by
    cases c with
    | gate c =>
        cases c with
        | server c =>
            obtain ⟨r, s', hs'⟩ := Server.performOp_some i c s.gate.server (fun h => hc (by rw [h]; rfl))
              fun ms h => hsleep ms (by rw [h])
            exact ⟨r, _, Option.map_eq_some_iff.mpr ⟨_, hs', rfl⟩⟩
        | _ => exact ⟨_, _, rfl⟩
    | _ => exact ⟨_, _, rfl⟩
  obtain ⟨r, gate, hcall⟩ := hcall
  exact ⟨r, _, Option.map_eq_some_iff.mpr ⟨_, hcall, rfl⟩⟩

theorem api_answers : api.Answers (fun _ => True) Advances Endless where
  now i c s _ hwaits := by
    refine ⟨c.refused, s.performOp_some i c (fun h => ?_) fun ms h => ?_⟩
    · rw [h] at hwaits
      cases hwaits
    · rw [h] at hwaits
      cases hwaits
  later i c s _ _ hc := by
    by_cases hsleep : ∃ ms, c = .gate (.server (.sleep ms))
    · obtain ⟨ms, rfl⟩ := hsleep
      let wakes := s.gate.server.wakes i
      refine ⟨_, .inr ⟨.outside (.advance wakes), ⟨_, rfl⟩, rfl⟩, (), (), ?_⟩
      refine ⟨_, Option.map_eq_some_iff.mpr ⟨_, Option.map_eq_some_iff.mpr ⟨_, if_pos ?_, rfl⟩, rfl⟩⟩
      exact Nat.le_add_left _ _
    · exact ⟨s, .inl rfl, c.refused, s.performOp_some i c hc fun ms h => hsleep ⟨ms, h⟩⟩

theorem api_steady_true : api.Steady fun _ => True :=
  ⟨fun _ _ _ _ => trivial, fun _ _ _ _ _ _ _ _ => trivial, fun _ _ _ _ _ => trivial⟩

section
variable {L : TxProposalLib} {key : Option String} {ok : App → AppStep → Prop} {s₀ : Api} {S : App}

/-- From every state of a run all requests come to their ends and all locks are freed, without a new request. -/
theorem App.quiesces (h₀ : s₀.Fresh) (h : App.Run L key ok s₀ S) :
    ∃ S' : App, Reach api (serve L key) (OldTurn TimeActs) S S' ∧
      S'.procs.length = S.procs.length ∧ (∀ p ∈ S'.procs, Finished Endless p.rest) ∧
      ∀ l ty, (S'.locks.heap l).lockStatus ty = false := by
  obtain ⟨S₁, hS₁, hlen, hfinished⟩ := api_answers.drains api_steady_true ApiOp.refused h trivial
  have hrun : App.Run L key (fun _ _ => True) s₀ S₁ :=
    Reach.trans (Reach.mono (fun _ _ _ => trivial) h) (Reach.mono (fun _ _ _ => trivial) hS₁)
  obtain ⟨S', hS', hprocs, hfree⟩ := App.time_frees h₀ hrun
  refine ⟨S', Reach.trans (Reach.mono (fun S l hl => ?_) hS₁) (Reach.mono (fun S l hl => ?_) hS'), ?_, ?_, hfree⟩
  · cases l with
    | spawn req w => exact hl
    | resume i w => trivial
    | ext e =>
        obtain ⟨d, rfl⟩ := hl
        trivial
  · cases l with
    | ext e => exact hl
    | _ => exact hl.elim
  · rw [hprocs, hlen]
  · rw [hprocs]
    exact hfinished

end

/-- The request that sends has taken the lock. -/
theorem builds_pending : (Sys.exec api (serve oneHexLib (some "key")) (fun _ _ => True) builds ⟨servesOne, []⟩).any
    (fun S : App => S.locks.holder (.wallet 0) .SEND_TX = some 0) = true := by
  decide +kernel

theorem builds_quiesces : ∃ S S' : App, S.locks.holder (.wallet 0) .SEND_TX = some 0 ∧
    Reach api (serve oneHexLib (some "key")) (OldTurn TimeActs) S S' ∧ (∀ p ∈ S'.procs, Finished Endless p.rest) ∧
    ∀ l ty, (S'.locks.heap l).lockStatus ty = false := by
  obtain ⟨S, hS, hheld⟩ := App.run_of_exec builds_pending
  obtain ⟨S', hreach, -, hfinished, hfree⟩ := App.quiesces servesOne_fresh hS
  exact ⟨S, S', hheld, hreach, hfinished, hfree⟩

end WalletHeadless
