import WalletHeadless.Hsm.Connection
import WalletHeadless.Hsm.Signing
import WalletHeadless.Locks.WellFormed
import WalletHeadless.Server.Frame

/-!
# One connection at a time

* `HsmInv`: one flow at most has the HSM lock, and the connections are those of its phase;
* `connections_exclusive`: while the lock of a flow with a connection does not expire, no other flow opens
  one, and a flow closes only its own;
* `slowKey_shares_hsm`: a start whose lock expires while the HSM derives its keys.
-/

namespace WalletHeadless

open Coop Js Function

/-- The connections that a flow is opening. -/
def HsmPhase.pending (i : Nat) : HsmPhase → List Nat
  | connecting => [i]
  | _ => []

/-- The connections that a flow has open. -/
def HsmPhase.held (i : Nat) : HsmPhase → List Nat
  | connected | closing true => [i]
  | _ => []

theorem HsmPhase.lists_of_not_owns {p : HsmPhase} (h : ¬ p.Owns) (i : Nat) : p.pending i = [] ∧ p.held i = [] := by
  cases p <;> first | exact ⟨rfl, rfl⟩ | exact absurd trivial h

def Locks.HsmLocked (L : Locks) : Prop := (L.heap .globalLock).lockStatus .HSM = true

structure HsmInv (s : Server) (g : Nat → HsmPhase) : Prop where
  loaded : s.config.isSome
  alone : ∀ i j, (g i).Owns → (g j).Owns → i = j
  locked : ∀ i, (g i).Owns → s.locks.HsmLocked
  lists : ∀ i, (∀ j, j ≠ i → ¬ (g j).Owns) →
    s.connecting = (g i).pending i ∧ s.connections = (g i).held i
  closes : ∀ d ∈ s.disconnects, ∀ j ∈ d.connections, j = d.flow

namespace HsmInv

variable {s s' : Server} {g : Nat → HsmPhase} {i : Nat}

/-- A flow that has the lock is alone, and the connections are its own. -/
theorem owner (h : HsmInv s g) {p : HsmPhase} (hp : g i = p) (hown : p.Owns) :
    (∀ j, j ≠ i → ¬ (g j).Owns) ∧ s.locks.HsmLocked ∧ s.connecting = p.pending i ∧ s.connections = p.held i := by
  subst hp
  have ho (j : Nat) (hj : j ≠ i) : ¬ (g j).Owns := fun hg => hj (h.alone j i hg hown)
  exact ⟨ho, h.locked i hown, h.lists i ho⟩

/-- The phase of one flow changes while no other flow has the lock. -/
theorem move (h : HsmInv s g) (ho : ∀ j, j ≠ i → ¬ (g j).Owns) {p : HsmPhase} (hc : s'.config = s.config)
    (hl : p.Owns → s'.locks.HsmLocked) (hpending : s'.connecting = p.pending i)
    (hheld : s'.connections = p.held i) (hd : ∀ d ∈ s'.disconnects, ∀ j ∈ d.connections, j = d.flow) :
    HsmInv s' (update g i p) where
  loaded := by rw [hc]; exact h.loaded
  alone := by
    have hi (j : Nat) (hj : (update g i p j).Owns) : j = i := by
      by_contra hne
      rw [update_of_ne hne] at hj
      exact ho j hne hj
    exact fun j k hj hk => (hi j hj).trans (hi k hk).symm
  locked j hj := by
    by_cases hne : j = i
    · subst hne
      rw [update_self] at hj
      exact hl hj
    · rw [update_of_ne hne] at hj
      exact absurd hj (ho j hne)
  lists j hj := by
    by_cases hne : j = i
    · subst hne
      rw [update_self]
      exact ⟨hpending, hheld⟩
    · have hp : ¬ p.Owns := fun hp => hj i (Ne.symm hne) (by rwa [update_self])
      obtain ⟨h₁, h₂⟩ := HsmPhase.lists_of_not_owns hp i
      obtain ⟨h₃, h₄⟩ := HsmPhase.lists_of_not_owns (ho j hne) j
      rw [update_of_ne hne, h₃, h₄, hpending, hheld, h₁, h₂]
      exact ⟨rfl, rfl⟩
  closes := hd

/-- A step that leaves the connection and its lock alone. -/
theorem frame (h : HsmInv s g) (hc : s'.config = s.config) (hl : s.locks.HsmLocked → s'.locks.HsmLocked)
    (hs : s'.connecting = s.connecting ∧ s'.connections = s.connections ∧ s'.disconnects = s.disconnects) :
    HsmInv s' g where
  loaded := by rw [hc]; exact h.loaded
  alone := h.alone
  locked i hi := hl (h.locked i hi)
  lists := by rw [hs.1, hs.2.1]; exact h.lists
  closes := by rw [hs.2.2]; exact h.closes

theorem idle (h : HsmInv s g) {c : Op} (hc : HsmIdle c) (hu : Server.Untouched c s s') : HsmInv s' g := by
  have hlock (d : LockCall) : c ≠ .lock d := by rintro rfl; exact hc
  have hhsm (d : HsmCall) : c ≠ .hsm d := by rintro rfl; exact hc
  have hsettings (d : SettingsCall) : c ≠ .settings d := by rintro rfl; exact hc
  exact h.frame (hu.config hsettings) (fun hl => by rwa [hu.locks hlock]) (hu.hsm hhsm)

/-! ## Steps -/

/-- A flow asks to disconnect while no connection of another is open. -/
theorem closes_cons (h : HsmInv s g) (hs : ∀ j ∈ s.connections, j = i) :
    ∀ d ∈ (⟨i, s.connections⟩ : Disconnect) :: s.disconnects, ∀ j ∈ d.connections, j = d.flow :=
  List.forall_mem_cons.mpr ⟨hs, h.closes⟩

theorem call (h : HsmInv s g) {c : Op} (ha : (g i).Allows c) (hw : c.waits = true) :
    ((g i).call c).Rests ∧ HsmInv (s.callOf i c) (update g i ((g i).call c)) := by
  generalize hp : g i = p at ha
  cases ha with
  | idle hq hc =>
      rw [HsmPhase.call_idle hc, ← hp, update_eq_self]
      refine ⟨?_, h.idle hc (Server.callOf_untouched i c s)⟩
      rw [hp]
      cases p <;> trivial
  | lock => cases hw
  | unlock => cases hw
  | connect host username password =>
      obtain ⟨ho, hl, hc, hr⟩ := h.owner hp trivial
      exact ⟨trivial, h.move ho rfl (fun _ => hl) (congrArg (i :: ·) hc) hr h.closes⟩
  | disconnect =>
      obtain ⟨ho, hl, hc, hr⟩ := h.owner hp trivial
      exact ⟨trivial, h.move ho rfl (fun _ => hl) hc hr
        (h.closes_cons fun j hj => by rw [hr] at hj; exact List.mem_singleton.mp hj)⟩
  | abandon =>
      obtain ⟨ho, hl, hc, hr⟩ := h.owner hp trivial
      exact ⟨trivial, h.move ho rfl (fun _ => hl) hc hr
        (h.closes_cons fun j hj => by rw [hr] at hj; cases hj)⟩

theorem lock (h : HsmInv s g) (hp : g i = .out) :
    HsmInv { s with locks := (s.locks.lock .globalLock .HSM).2 }
      (update g i (HsmPhase.out.next (.lock (.lockOn .globalLock .HSM)) (s.locks.lock .globalLock .HSM).1)) := by
  by_cases hl : s.locks.HsmLocked
  · have hlock : s.locks.lock .globalLock .HSM = (false, s.locks) := if_pos hl
    have hnext : HsmPhase.out.next (.lock (.lockOn .globalLock .HSM)) false = .out := rfl
    rw [hlock, hnext, ← hp, update_eq_self]
    exact h
  · have hlock : s.locks.lock .globalLock .HSM = (true, _) := if_neg hl
    have ho (j : Nat) (_ : j ≠ i) : ¬ (g j).Owns := fun hj => hl (h.locked j hj)
    obtain ⟨hc, hr⟩ := h.lists i ho
    rw [hp] at hc hr
    rw [hlock]
    refine h.move ho rfl (fun _ => ?_) hc hr h.closes
    have hstatus := Locks.lockStatus_lock s.locks .globalLock .HSM DEFAULT_UNLOCK_TIMEOUT
    rwa [hlock] at hstatus

/-- The configuration that the process has loaded. -/
theorem getConfig_ok (h : HsmInv s g) {w r : Except JsError Config}
    (hp : s.performOp i (.registry .getConfig) w = some (r, s')) : ∃ config, r = .ok config := by
  obtain ⟨config, hc⟩ := Option.isSome_iff_exists.mp h.loaded
  change some (s.config.elim _ Except.ok, s) = some (r, s') at hp
  rw [hc] at hp
  cases hp
  exact ⟨config, rfl⟩

theorem perform (h : HsmInv s g) {q : HsmPhase} {c : Op} {w r : c.Ans} (ha : q.Allows c) (hc : q.call c = g i)
    (hp : s.performOp i c w = some (r, s')) :
    hsmProtocol.may (g i) c r ∧ HsmInv s' (update g i ((g i).next c r)) := by
  cases ha with
  | idle hq hidle =>
      refine ⟨?_, ?_⟩
      · unfold hsmProtocol
        dsimp only
        split
        · exact h.getConfig_ok hp
        · trivial
      · rw [HsmPhase.next_idle hidle, update_eq_self]
        exact h.idle hidle (Server.performOp_untouched hp)
  | lock =>
      cases hp
      exact ⟨trivial, by rw [← hc]; exact h.lock hc.symm⟩
  | connect host username password =>
      obtain ⟨ho, hl, hc', hr⟩ := h.owner hc.symm trivial
      have hempty (hs : s.connecting = [i]) : s.connecting.erase i = [] := by rw [hs, List.erase_cons_head]
      refine ⟨trivial, ?_⟩
      rw [← hc]
      cases w with
      | error e =>
          cases hp
          exact h.move ho rfl (fun _ => hl) (hempty hc') hr h.closes
      | ok a =>
          cases hp
          exact h.move ho rfl (fun _ => hl) (hempty hc') (congrArg (i :: ·) hr) h.closes
  | disconnect | abandon =>
      obtain ⟨ho, hl, hc', hr⟩ := h.owner hc.symm trivial
      refine ⟨trivial, ?_⟩
      rw [← hc]
      cases w with
      | error e =>
          cases hp
          exact h.move ho rfl (fun _ => hl) hc' hr h.closes
      | ok a =>
          cases hp
          exact h.move ho rfl (fun _ => hl) hc' (congrArg List.tail hr) h.closes
  | unlock =>
      obtain ⟨ho, hl, hc', hr⟩ := h.owner hc.symm trivial
      refine ⟨trivial, ?_⟩
      rw [← hc]
      cases hp
      exact h.move ho rfl (fun hn => hn.elim) hc' hr h.closes

/-- A flow that ends without a connection leaves at most its lock. -/
theorem finish (h : HsmInv s g) (hi : (g i).Idles) : (g i).finish.Rests ∧ HsmInv s (update g i (g i).finish) := by
  have hsame {p : HsmPhase} (hp : g i = p) : HsmInv s (update g i p) := by
    rw [← hp, update_eq_self]
    exact h
  cases hp : g i with
  | failed =>
      obtain ⟨ho, -, hc, hr⟩ := h.owner hp trivial
      exact ⟨trivial, h.move ho rfl (fun hn => hn.elim) hc hr h.closes⟩
  | out => exact ⟨trivial, hsame hp⟩
  | connected => exact ⟨trivial, hsame hp⟩
  | done => exact ⟨trivial, hsame hp⟩
  | _ =>
      rw [hp] at hi
      exact hi.elim

end HsmInv

/-! ## Runs -/

/-- The timer `t` is that of the HSM lock. -/
def Locks.HsmTimer (L : Locks) (t : TimerId) : Prop := ∃ x ∈ L.timers, x.id = t ∧ x.lock = .globalLock ∧ x.type = .HSM

/-- No connection is open, and the flows that have the HSM lock have ended. -/
def Service.HsmFree (S : Service) : Prop :=
  S.state.connections = [] ∧ ∀ p ∈ S.procs, HasHsm p.log → p.rest.Ended

/-- Starts and signatures of HSM wallets; `fires` is when the timer of their lock may. -/
def HsmStep (fires : Service → Prop) (S : Service) : Step → Prop
  | .spawn req _ => req.OpensHsm
  | .ext (.fire t) => S.state.locks.HsmTimer t → fires S
  | _ => True

/-- The configuration is loaded, and nothing has been asked of the HSM. -/
structure Server.HsmUnused (s : Server) : Prop where
  loaded : s.config.isSome
  connecting : s.connecting = []
  connections : s.connections = []
  disconnects : s.disconnects = []

theorem Server.HsmUnused.inv {s : Server} (h : s.HsmUnused) : HsmInv s fun _ => .out where
  loaded := h.loaded
  alone i j hi := hi.elim
  locked i hi := hi.elim
  lists i _ := ⟨h.connecting, h.connections⟩
  closes := by rw [h.disconnects]; simp

abbrev HsmCoherent (S : Service) (g : Nat → HsmPhase) : Prop :=
  Coherent world hsmProtocol (fun _ => .out) .out HsmPhase.Idles S g

/-- When the lock is free no flow has it. -/
theorem HsmCoherent.not_owns {S : Service} {g : Nat → HsmPhase} (hg : HsmCoherent S g) (h : HsmInv S.state g)
    (hfree : S.HsmFree) (i : Nat) : ¬ (g i).Owns := by
  intro hown
  cases hp : S.procs[i]? with
  | none =>
      rw [hg.unborn i (List.getElem?_eq_none_iff.mp hp)] at hown
      exact hown
  | some p =>
      have hended : p.rest.Ended := by
        cases hrest : p.rest with
        | op c k =>
            have htr := hg.traced i p hp
            rw [hrest] at htr
            have hlog := (HsmPhase.logged_call p.log _ c).mpr (logged_after p.log)
            have hhas : HasHsm p.log := (HsmPhase.logged_iff hown).mp (by rw [htr]; exact hlog)
            have hend := hfree.2 p (List.mem_of_getElem? hp) hhas
            rw [hrest] at hend
            exact hend
        | _ => trivial
      obtain ⟨q, hq, hover⟩ := (hg.resting i p hp).of_ended hended
      have hconnected : g i = .connected := by
        rw [← hover] at hown ⊢
        cases q <;> first | rfl | exact hq.elim | exact hown.elim
      obtain ⟨-, -, -, hr⟩ := h.owner hconnected trivial
      rw [hfree.1] at hr
      cases hr

theorem hsm_sound {fires : Service → Prop} (hfires : ∀ S, fires S → S.HsmFree) :
    Sound world Request.handle hsmProtocol (fun _ => .out) .out HsmPhase.Rests HsmPhase.Idles
      (HsmStep fires) HsmInv where
  spawn S g req w hg _ h hok := by
    refine ⟨?_, hsm_wp hok⟩
    rw [← hg.unborn _ le_rfl, update_eq_self]
    exact h
  call s g i c h _ ha hw := h.call ha hw
  perform s g i q c w r s' h _ ha hc hp := h.perform ha hc hp
  ext S g e s hg _ h hok he := by
    obtain ⟨d, -, rfl⟩ | ⟨t, L, rfl, hL, rfl⟩ | ⟨i, u, d, -, -, -, -, rfl⟩ | ⟨w, u, -, rfl⟩ | ⟨w, u, -, rfl⟩ :=
      Server.outside_cases he
    · exact h.frame rfl id ⟨rfl, rfl, rfl⟩
    · obtain ⟨x, hx, hid, -, rfl⟩ := Locks.fire_timer hL
      by_cases ht : .globalLock = x.lock ∧ .HSM = x.type
      · have hno := HsmCoherent.not_owns hg h (hfires S (hok ⟨x, hx, hid, ht.1.symm, ht.2.symm⟩))
        exact ⟨h.loaded, h.alone, fun i hi => absurd hi (hno i), h.lists, h.closes⟩
      · refine h.frame rfl (fun hl => ?_) ⟨rfl, rfl, rfl⟩
        show Locks.HsmLocked _
        rw [Locks.HsmLocked, Locks.lockStatus_unlock, if_neg ht]
        exact hl
    · exact h.frame rfl id ⟨rfl, rfl, rfl⟩
    · exact h.frame rfl id ⟨rfl, rfl, rfl⟩
    · exact h.frame rfl id ⟨rfl, rfl, rfl⟩
  finish s g i h _ hi := h.finish hi
  call_sync q c hc := by
    cases c with
    | hsm c => cases hc
    | _ => cases q <;> rfl
  rests_fresh := trivial

/-- At most one flow has a connection, and no flow has closed that of another. -/
def Service.HsmExclusive (S : Service) : Prop :=
  S.state.connections.length ≤ 1 ∧ ∀ d ∈ S.state.disconnects, ∀ j ∈ d.connections, j = d.flow

theorem HsmInv.exclusive {S : Service} {g : Nat → HsmPhase} (h : HsmInv S.state g) : S.HsmExclusive := by
  refine ⟨?_, h.closes⟩
  by_cases ho : ∃ i, (g i).Owns
  · obtain ⟨i, hi⟩ := ho
    obtain ⟨-, -, -, hr⟩ := h.owner rfl hi
    rw [hr]
    unfold HsmPhase.held
    split <;> simp
  · have hno (i : Nat) : ¬ (g i).Owns := fun hi => ho ⟨i, hi⟩
    rw [(h.lists 0 fun j _ => hno j).2, (HsmPhase.lists_of_not_owns (hno 0) 0).2]
    exact Nat.zero_le 1

/-- While the lock expires only when no flow has a connection or is about to, at most one flow has a
connection and each flow closes its own. -/
theorem connections_exclusive {s₀ : Server} (h₀ : s₀.HsmUnused) {S : Service}
    (h : Service.Run (HsmStep Service.HsmFree) s₀ S) : S.HsmExclusive := by
  obtain ⟨g, -, -, hI⟩ := (hsm_sound fun S hS => hS).reach h₀.inv h
  exact hI.exclusive

instance (S : Service) : Decidable S.HsmFree :=
  inferInstanceAs (Decidable (S.state.connections = [] ∧ ∀ p ∈ S.procs, HasHsm p.log → p.rest.Ended))

instance (fires : Service → Prop) [DecidablePred fires] (S : Service) (l : Step) : Decidable (HsmStep fires S l) :=
  match l with
  | .spawn req _ => inferInstanceAs (Decidable req.OpensHsm)
  | .ext (.fire t) => inferInstanceAs (Decidable ((∃ x ∈ S.state.locks.timers, x.id = t ∧ x.lock = .globalLock ∧
      x.type = .HSM) → fires S))
  | .resume _ _ | .ext (.advance _) | .ext (.pick _ _) | .ext (.mark _ _) | .ext (.unmark _ _) => isTrue trivial

theorem hsmWallet_unused : hsmWallet.HsmUnused := ⟨rfl, rfl, rfl, rfl⟩

/-- A flow goes on, and the HSM refuses the connection. -/
def refused (i : Nat) : Step :=
  .resume i fun _ c => match c with
    | .hsm (.connect _ _ _) => .error { message := "refused" }
    | c => Op.granted (spending "tx" 0) c

/-- The lock of a signature that could not connect expires, and the next signature connects. -/
def expired : List Step :=
  arrives signs (spending "tx" 0) :: (List.replicate 3 (refused 0) ++ [.ext (.advance 120000), .ext (.fire 0)] ++
    arrives signs (spending "tx" 0) :: List.replicate 4 (goesOn 1 (spending "tx" 0)))

theorem expired_connected :
    (Service.exec (HsmStep Service.HsmFree) expired hsmWallet).any (fun S => S.state.connections = [1]) = true := by
  decide +kernel

theorem expired_exclusive : ∃ S : Service, S.state.connections = [1] ∧ S.HsmExclusive := by
  obtain ⟨S, hS, hc⟩ := Service.run_of_exec expired_connected
  exact ⟨S, hc, connections_exclusive hsmWallet_unused hS⟩

def startsHsm : Request := .startHsmWallet { walletId := some "w2", hsmKey := some "key" }

/-- The HSM takes two minutes to answer a start, and a signature connects. -/
def slowKey : List Step :=
  arrives startsHsm (spending "tx" 0) :: (List.replicate 2 (goesOn 0 (spending "tx" 0)) ++
    [.ext (.advance 120000), .ext (.fire 0), arrives signs (spending "tx" 0), goesOn 1 (spending "tx" 0)])

theorem slowKey_connections :
    (Service.exec (HsmStep fun _ => True) slowKey hsmWallet).any (fun S => S.state.connections = [1, 0]) = true := by
  decide +kernel

theorem slowKey_disconnects :
    (Service.exec (HsmStep fun _ => True) (slowKey ++ List.replicate 9 (goesOn 0 (spending "tx" 0))) hsmWallet).any
      (fun S => S.state.disconnects = [⟨0, [1, 0]⟩]) = true := by
  decide +kernel

/-- Two flows have a connection, and one of them disconnects. -/
theorem slowKey_shares_hsm :
    (∃ S, Service.Run (HsmStep fun _ => True) hsmWallet S ∧ S.state.connections = [1, 0] ∧ ¬ S.HsmExclusive) ∧
      ∃ S, Service.Run (HsmStep fun _ => True) hsmWallet S ∧ S.state.disconnects = [⟨0, [1, 0]⟩] ∧
        ¬ S.HsmExclusive := by
  obtain ⟨S, hS, hc⟩ := Service.run_of_exec slowKey_connections
  obtain ⟨S', hS', hd⟩ := Service.run_of_exec slowKey_disconnects
  refine ⟨⟨S, hS, hc, fun h => ?_⟩, S', hS', hd, fun h => ?_⟩
  · have hlen := h.1
    rw [hc] at hlen
    exact absurd hlen (by decide)
  · have hown := h.2 ⟨0, [1, 0]⟩ (by rw [hd]; simp) 1 (by simp)
    cases hown

end WalletHeadless
