import WalletHeadless.Server.Requests
import WalletHeadless.Starts.Registry

/-!
# One running wallet for each id

* `starts_sound`: the starts and stops keep `StartsInv`, when those of one id do not overlap;
* `wallets_one_running`: each running wallet is then the registered one, with its own signing method;
* `overlapping_runs_unregistered`: two starts of one id that overlap.
-/

namespace WalletHeadless

open Coop Js Function

/-- Starts and stops: while the id is free no start of it is in progress when another comes, and while it
is in use no stop. -/
def StartStep (S : Service) : Step → Prop
  | .spawn req _ => req.ManagesWallets ∧
      (∀ walletId ∈ req.startId, S.state.initializedWallets.get walletId = none →
        ∀ p ∈ S.procs, p.req.startId = some walletId → p.rest.Ended) ∧
      ∀ walletId ∈ req.stopId, S.state.initializedWallets.get walletId ≠ none →
        ∀ p ∈ S.procs, p.req.stopId = some walletId → p.rest.Ended
  | _ => True

abbrev StartsCoherent (S : Service) (g : Nat → StartGhost) : Prop :=
  Coherent world startProtocol StartGhost.enter ⟨"", .done⟩ (fun q => q.phase.Ends) S g

/-- A flow with something to do has not ended. -/
theorem StartsCoherent.in_progress {S : Service} {g : Nat → StartGhost} (hg : StartsCoherent S g) {i : Nat}
    (hi : (g i).phase ≠ .done) :
    ∃ p ∈ S.procs, g i = startProtocol.after (StartGhost.enter p.req) p.log ∧ ¬ p.rest.Ended := by
  cases hp : S.procs[i]? with
  | none =>
      rw [hg.unborn i (List.getElem?_eq_none_iff.mp hp)] at hi
      exact absurd rfl hi
  | some p =>
      have hend : ¬ p.rest.Ended := by
        intro hend
        obtain ⟨q, -, hq⟩ := (hg.resting i p hp).of_ended hend
        rw [← hq] at hi
        exact hi rfl
      refine ⟨p, List.mem_of_getElem? hp, ?_, hend⟩
      rw [hg.traced i p hp]
      cases hrest : p.rest with
      | op c k => rfl
      | _ =>
          rw [hrest] at hend
          exact absurd trivial hend

theorem StartGhost.after_walletId (q : StartGhost) (t : Log) : (startProtocol.after q t).walletId = q.walletId :=
  startProtocol.after_tag StartGhost.walletId (fun _ _ => rfl) (fun _ _ _ => rfl) q t

theorem StartsCoherent.starts {S : Service} {g : Nat → StartGhost} (hg : StartsCoherent S g) {i : Nat}
    (hi : (g i).phase.Starts) :
    ∃ p ∈ S.procs, p.req.startId = some (g i).walletId ∧ ¬ p.rest.Ended := by
  obtain ⟨p, hp, hq, hend⟩ := hg.in_progress (i := i) (by intro hd; rw [hd] at hi; exact hi)
  refine ⟨p, hp, ?_, hend⟩
  rw [hq] at hi ⊢
  rw [StartGhost.after_walletId]
  cases hst : p.req.startId with
  | some walletId => simp only [StartGhost.enter, hst]
  | none =>
      have henter : (StartGhost.enter p.req).phase.OfStop := by
        rw [StartGhost.enter, hst]
        cases p.req.stopId <;> trivial
      have hstop := startProtocol.after_inv (I := fun q => q.phase.OfStop) (fun _ _ h => h)
        (fun q c r h => (StartGhost.nextPhase_keeps _ c r).2 h) henter p.log
      generalize startProtocol.after (StartGhost.enter p.req) p.log = q at hi hstop
      cases hph : q.phase <;> rw [hph] at hi hstop <;> first | exact hi.elim | exact hstop.elim

theorem StartsCoherent.stops {S : Service} {g : Nat → StartGhost} (hg : StartsCoherent S g) {i : Nat}
    (hi : (g i).phase.Stops) :
    ∃ p ∈ S.procs, p.req.stopId = some (g i).walletId ∧ ¬ p.rest.Ended := by
  obtain ⟨p, hp, hq, hend⟩ := hg.in_progress (i := i) (by intro hd; rw [hd] at hi; exact hi)
  refine ⟨p, hp, ?_, hend⟩
  rw [hq] at hi ⊢
  rw [StartGhost.after_walletId]
  have hno (henter : (StartGhost.enter p.req).phase.OfStart) : False := by
    have hstart := startProtocol.after_inv (I := fun q => q.phase.OfStart) (fun _ _ h => h)
      (fun q c r h => (StartGhost.nextPhase_keeps _ c r).1 h) henter p.log
    generalize startProtocol.after (StartGhost.enter p.req) p.log = q at hi hstart
    cases hph : q.phase <;> rw [hph] at hi hstart <;> first | exact hi.elim | exact hstart.elim
  cases hst : p.req.startId with
  | some walletId => exact (hno (by rw [StartGhost.enter, hst]; trivial)).elim
  | none =>
      cases hsp : p.req.stopId with
      | some walletId => simp only [StartGhost.enter, hst, hsp]
      | none => exact (hno (by rw [StartGhost.enter, hst, hsp]; trivial)).elim

namespace StartsInv

variable {s s' : Server} {g : Nat → StartGhost} {i : Nat}

theorem idle (h : StartsInv s g) {c : Op} (hc : StartIdle c) {w r : c.Ans}
    (hp : s.performOp i c w = some (r, s')) : StartsInv s' g := by
  by_cases hreg : ∃ d, c = .registry d
  · obtain ⟨d, rfl⟩ := hreg
    have he : (s.performRegistry i d w).2 = s' := congrArg Prod.snd (Option.some.inj hp)
    rw [← he]
    cases d with
    | getWallet _ | setWallet _ _ | deleteWallet _ | newWallet _ _ | setExternalTxSigningMethod _ _ => exact hc.elim
    | _ => exact h.congr rfl rfl
  · have hu := Server.performOp_untouched hp
    refine h.congr (hu.wallets fun d hd => hreg ⟨d, hd⟩) (hu.objects (fun d hd => hreg ⟨d, hd⟩) fun v => ?_)
    constructor <;> rintro rfl <;> exact hc

theorem may_idle {q : StartGhost} {c : Op} {r : c.Ans} (hc : StartIdle c) : startProtocol.may q c r := by
  unfold startProtocol
  dsimp only
  split
  · exact hc.elim
  · trivial

theorem call (h : StartsInv s g) {c : Op} (ha : (g i).Allows c) (hw : c.waits = true) :
    (g i).phase.Rests ∧ StartsInv (s.callOf i c) g := by
  have hcall : StartsInv (s.callOf i c) g := by
    cases c with
    | wallet c => cases c <;> exact h.congr rfl rfl
    | hsm c => cases c <;> exact h.congr rfl rfl
    | _ => exact h.congr rfl rfl
  refine ⟨?_, hcall⟩
  generalize g i = q at ha
  cases ha with
  | quiet hc hw' => rw [hw'] at hw; cases hw
  | idle hq hc => exact hq
  | run | halt => trivial
  | _ => cases hw

theorem perform (h : StartsInv s g) (hr : ∀ j, j ≠ i → (g j).phase.Rests) {c : Op} {w r : c.Ans}
    (ha : (g i).Allows c) (hp : s.performOp i c w = some (r, s')) :
    startProtocol.may (g i) c r ∧ StartsInv s' (update g i ((g i).next c r)) := by
  generalize hi : g i = q at ha
  cases ha with
  | quiet hc hw => exact ⟨may_idle hc, by rw [StartGhost.next_idle hc, ← hi, update_eq_self]; exact h.idle hc hp⟩
  | idle hq hc => exact ⟨may_idle hc, by rw [StartGhost.next_idle hc, ← hi, update_eq_self]; exact h.idle hc hp⟩
  | look walletId =>
      cases hp
      exact ⟨trivial, h.look hr hi⟩
  | create walletId walletConfig config =>
      refine ⟨trivial, ?_⟩
      cases w with
      | error e =>
          cases hp
          exact h.finish hr hi (by simp)
      | ok w =>
          cases hp
          exact h.create hr hi config.object
  | run walletId w' =>
      refine ⟨trivial, ?_⟩
      cases w with
      | error e =>
          cases hp
          exact h.finish hr hi (by simp)
      | ok w =>
          cases hp
          exact h.run hr hi
  | register walletId w' =>
      cases hp
      exact ⟨trivial, h.register hr hi⟩
  | find walletId w' =>
      cases hp
      have hf := h.flows i
      simp only [StartOk, hi] at hf
      refine ⟨?_, ?_⟩
      · show s.initializedWallets.get walletId = none ∨ s.initializedWallets.get walletId = some w'
        cases hget : s.initializedWallets.get walletId with
        | none => exact .inl rfl
        | some v => exact .inr (congrArg some (hf.1 v hget))
      · rw [show StartGhost.next ⟨walletId, .registered w'⟩ (.registry (.getWallet walletId)) _ = g i from hi.symm,
          update_eq_self]
        exact h
  | sign walletId w' method =>
      cases hp
      refine ⟨trivial, ?_⟩
      rw [show StartGhost.next ⟨walletId, .registered w'⟩ (.registry (.setExternalTxSigningMethod w' method)) () = g i
        from hi.symm, update_eq_self]
      exact h.sign hr hi method
  | search walletId =>
      cases hp
      exact ⟨trivial, h.search hr hi⟩
  | halt walletId w' =>
      refine ⟨trivial, ?_⟩
      cases w with
      | error e =>
          cases hp
          exact h.finish hr hi (by simp)
      | ok w =>
          cases hp
          exact h.halt hr hi
  | forget walletId w' =>
      cases hp
      exact ⟨trivial, h.forget hr hi⟩

end StartsInv

/-- A request comes. -/
theorem StartsCoherent.spawn {S : Service} {g : Nat → StartGhost} (hg : StartsCoherent S g)
    (hr : ∀ j, (g j).phase.Rests) (h : StartsInv S.state g) {req : Request} {w : Proposal Op.Ans}
    (hok : StartStep S (.spawn req w)) : StartsInv S.state (update g S.procs.length (StartGhost.enter req)) := by
  have hfresh : g S.procs.length = ⟨"", .done⟩ := hg.unborn _ le_rfl
  refine h.move (fun j _ => hr j) (fun _ _ _ => .inl rfl) (fun _ o ho => ⟨o, ho, rfl, rfl⟩) ?_ (fun hs => ?_)
    (fun hs => ?_) h.registered
    (fun v o hv ho => .inl ((h.running_of_rests (fun j _ => hr j) hv ho).resolve_right (by rw [hfresh]; simp)))
    h.signed
  · unfold StartOk
    rw [update_self]
    unfold StartGhost.enter
    cases hst : req.startId with
    | some walletId =>
        intro hfree j hj hs he
        rw [update_of_ne hj] at hs he
        obtain ⟨p, hp, hid, hend⟩ := hg.starts hs
        exact hend (hok.2.1 walletId hst hfree p hp (hid.trans (congrArg some he)))
    | none =>
        cases hsp : req.stopId with
        | some walletId =>
            intro hused j hj hs he
            rw [update_of_ne hj] at hs he
            obtain ⟨p, hp, hid, hend⟩ := hg.stops hs
            exact hend (hok.2.2 walletId hsp hused p hp (hid.trans (congrArg some he)))
        | none => trivial
  · unfold StartGhost.enter at hs
    split at hs <;> exact hs.elim
  · unfold StartGhost.enter at hs
    split at hs <;> exact hs.elim

theorem starts_sound :
    Sound world Request.handle startProtocol StartGhost.enter ⟨"", .done⟩ (fun q => q.phase.Rests)
      (fun q => q.phase.Ends) StartStep StartsInv where
  spawn S g req w hg hr h hok := ⟨StartsCoherent.spawn hg hr h hok, starts_wp hok.1⟩
  call s g i c h _ ha hw := by
    obtain ⟨hrest, hcall⟩ := h.call ha hw
    exact ⟨hrest, by rw [show startProtocol.call (g i) c = g i from rfl, update_eq_self]; exact hcall⟩
  perform s g i q c w r s' h hr ha hq hp := by
    cases hq
    exact h.perform hr ha hp
  ext S g e s hg _ h _ he := by
    obtain ⟨d, -, rfl⟩ | ⟨t, L, -, -, rfl⟩ | ⟨i, u, d, -, -, -, -, rfl⟩ | ⟨w, u, -, rfl⟩ | ⟨w, u, -, rfl⟩ :=
      Server.outside_cases he <;> exact h.congr rfl rfl
  finish s g i h hr hi := by
    refine ⟨trivial, h.finish hr rfl fun w hw => ?_⟩
    rw [hw] at hi
    exact hi
  call_sync _ _ _ := rfl
  rests_fresh := trivial

theorem Server.WalletsOk.inv {s : Server} (h : s.WalletsOk) : StartsInv s fun _ => ⟨"", .done⟩ where
  flows _ := trivial
  starts _ _ hi := hi.elim
  stops _ _ hi := hi.elim
  registered := h.registered
  running w o hw ho := .inl (h.running w o hw ho)
  signed := h.signed

theorem StartsInv.walletsOk {s : Server} {g : Nat → StartGhost} (h : StartsInv s g)
    (hr : ∀ j, (g j).phase.Rests) : s.WalletsOk where
  registered := h.registered
  running w o hw ho := by
    obtain hget | ⟨i, hi⟩ := h.running w o hw ho
    · exact hget
    · have hrest := hr i
      rw [hi] at hrest
      exact hrest.elim
  signed := h.signed

/-- While the starts of an id do not overlap, nor its stops, each running wallet is the one registered under
its id, and its signing method was set by the start that created it. -/
theorem wallets_one_running {s₀ : Server} (h₀ : s₀.WalletsOk) {S : Service}
    (h : Service.Run StartStep s₀ S) : S.state.WalletsOk := by
  obtain ⟨g, -, hr, hI⟩ := starts_sound.reach h₀.inv h
  exact hI.walletsOk hr

instance (S : Service) (l : Step) : Decidable (StartStep S l) :=
  match l with
  | .spawn req _ => inferInstanceAs (Decidable (req.ManagesWallets ∧ _ ∧ _))
  | .resume _ _ | .ext _ => isTrue trivial

theorem unstarted_ok : unstarted.WalletsOk where
  registered _ _ h := by cases h
  running _ _ h := by cases h
  signed _ h := by cases h

/-- A wallet is started, stopped and started again. -/
def restarted : List Step :=
  [comes startsReadonly, proceeds 0, proceeds 0, comes (.stop "w"), proceeds 1, proceeds 1, proceeds 1,
    comes startsReadonly, proceeds 2]

theorem restarted_running :
    (Service.exec StartStep restarted unstarted).any
      (fun S => S.state.objects.map HathorWallet.running = [false, true]) = true := by
  decide +kernel

theorem restarted_ok :
    ∃ S : Service, S.state.objects.map HathorWallet.running = [false, true] ∧ S.state.WalletsOk := by
  obtain ⟨S, hS, hr⟩ := Service.run_of_exec restarted_running
  exact ⟨S, hr, wallets_one_running unstarted_ok hS⟩

/-- The second start comes while the wallet of the first is starting. -/
def overlapping : List Step := [comes startsReadonly, comes startsReadonly, proceeds 0, proceeds 1]

theorem overlapping_objects :
    (Service.exec (fun _ _ => True) overlapping unstarted).any (fun S =>
      (∀ p ∈ S.procs, p.req.ManagesWallets) ∧ S.state.objects[0]? = some ⟨"w", 0, 0, true, none, []⟩ ∧
      S.state.initializedWallets.get "w" = some 1) = true := by
  decide +kernel

/-- A start comes while the wallet of an HSM start is starting. -/
def overlappingHsm : List Step :=
  comes startsWithHsm :: (List.replicate 13 (proceeds 0) ++ [comes startsReadonly, proceeds 0, proceeds 1, proceeds 0])

theorem overlappingHsm_objects :
    (Service.exec (fun _ _ => True) overlappingHsm unstarted).any (fun S =>
      (∀ p ∈ S.procs, p.req.ManagesWallets) ∧
      S.state.objects[1]? = some ⟨"w", 1, 0, true, some (.hsm "key"), [0]⟩) = true := by
  decide +kernel

/-- A started wallet is overwritten and left running, and a signing method is set on the wallet of another
start. -/
theorem overlapping_runs_unregistered :
    (∃ S, Service.Run (fun _ _ => True) unstarted S ∧ (∀ p ∈ S.procs, p.req.ManagesWallets) ∧
      ∃ o, S.state.objects[0]? = some o ∧ o.running = true ∧ S.state.initializedWallets.get o.walletId = some 1) ∧
    (∃ S, Service.Run (fun _ _ => True) unstarted S ∧ (∀ p ∈ S.procs, p.req.ManagesWallets) ∧
      ∃ o, S.state.objects[1]? = some o ∧ o.creator = 1 ∧ 0 ∈ o.setters) ∧
    ∃ S, Service.Run (fun _ _ => True) unstarted S ∧ ¬ S.state.WalletsOk := by
  obtain ⟨S, hS, hreq, hobj, hget⟩ := Service.run_of_exec overlapping_objects
  obtain ⟨S', hS', hreq', hobj'⟩ := Service.run_of_exec overlappingHsm_objects
  refine ⟨⟨S, hS, hreq, _, hobj, rfl, hget⟩, ⟨S', hS', hreq', _, hobj', rfl, by simp⟩, S, hS, fun h => ?_⟩
  have hrun := h.running 0 _ hobj rfl
  rw [hget] at hrun
  cases hrun

end WalletHeadless
