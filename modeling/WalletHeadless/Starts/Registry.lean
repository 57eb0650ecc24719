import WalletHeadless.Coop.Ghost
import WalletHeadless.Server.Frame
import WalletHeadless.Starts.Protocol

/-!
# The wallets under their ids

* `Server.WalletsOk`: a running wallet is the one registered under its id, and its signing method was set
  by the start that created it;
* `StartsInv`: the same with the starts and stops in progress.
-/

namespace WalletHeadless

open Coop Js Function

/-- The registered and the running wallets, and the starts that set signing methods. -/
structure Server.WalletsOk (s : Server) : Prop where
  registered : ∀ walletId w, s.initializedWallets.get walletId = some w →
    ∃ o, s.objects[w]? = some o ∧ o.walletId = walletId
  running : ∀ (w : WalletRef) (o : HathorWallet), s.objects[w]? = some o → o.running = true →
    s.initializedWallets.get o.walletId = some w
  signed : ∀ o ∈ s.objects, ∀ i ∈ o.setters, i = o.creator

/-- The wallet `w` was created by flow `i` for the id. -/
def Server.Owned (s : Server) (i : Nat) (walletId : String) (w : WalletRef) : Prop :=
  ∃ o, s.objects[w]? = some o ∧ o.walletId = walletId ∧ o.creator = i

/-- What the phase of flow `i` says of the wallets. -/
def StartOk (s : Server) (g : Nat → StartGhost) (i : Nat) : Prop :=
  match (g i).phase with
  | .done => True
  | .entered => s.initializedWallets.get (g i).walletId = none →
      ∀ j, j ≠ i → (g j).phase.Starts → (g j).walletId ≠ (g i).walletId
  | .checked => s.initializedWallets.get (g i).walletId = none
  | .created w | .started w => s.initializedWallets.get (g i).walletId = none ∧ s.Owned i (g i).walletId w
  | .registered w => (∀ v, s.initializedWallets.get (g i).walletId = some v → v = w) ∧ s.Owned i (g i).walletId w
  | .stopEntered => s.initializedWallets.get (g i).walletId ≠ none →
      ∀ j, j ≠ i → (g j).phase.Stops → (g j).walletId ≠ (g i).walletId
  | .stopping w => s.initializedWallets.get (g i).walletId = some w
  | .stopped w => s.initializedWallets.get (g i).walletId = some w ∧
      ∀ o, s.objects[w]? = some o → o.running = false

/-- One flow at most is in such a phase for an id. -/
def OnePerId (P : StartPhase → Prop) (g : Nat → StartGhost) : Prop :=
  ∀ i j, P (g i).phase → P (g j).phase → (g i).walletId = (g j).walletId → i = j

theorem OnePerId.update {P : StartPhase → Prop} {g : Nat → StartGhost} (h : OnePerId P g) {i : Nat}
    {q : StartGhost} (hq : P q.phase → ∀ j, j ≠ i → P (g j).phase → (g j).walletId ≠ q.walletId) :
    OnePerId P (update g i q) := by
  intro j k hj hk he
  by_cases h₁ : j = i <;> by_cases h₂ : k = i
  · rw [h₁, h₂]
  · rw [h₁, update_self] at hj he
    rw [update_of_ne h₂] at hk he
    exact absurd he.symm (hq hj k h₂ hk)
  · rw [update_of_ne h₁] at hj he
    rw [h₂, update_self] at hk he
    exact absurd he (hq hk j h₁ hj)
  · rw [update_of_ne h₁] at hj he
    rw [update_of_ne h₂] at hk he
    exact h j k hj hk he

structure StartsInv (s : Server) (g : Nat → StartGhost) : Prop where
  flows : ∀ i, StartOk s g i
  starts : OnePerId StartPhase.Starts g
  stops : OnePerId StartPhase.Stops g
  registered : ∀ walletId w, s.initializedWallets.get walletId = some w →
    ∃ o, s.objects[w]? = some o ∧ o.walletId = walletId
  running : ∀ (w : WalletRef) (o : HathorWallet), s.objects[w]? = some o → o.running = true →
    s.initializedWallets.get o.walletId = some w ∨ ∃ i, (g i).phase = .started w
  signed : ∀ o ∈ s.objects, ∀ i ∈ o.setters, i = o.creator

/-- Each object stays, with its id and its creator. -/
def Server.KeepsObjects (s s' : Server) : Prop :=
  ∀ (w : WalletRef) (o : HathorWallet), s.objects[w]? = some o →
    ∃ o', s'.objects[w]? = some o' ∧ o'.walletId = o.walletId ∧ o'.creator = o.creator

theorem Server.KeepsObjects.owned {s s' : Server} (h : s.KeepsObjects s') {i : Nat} {walletId : String}
    {w : WalletRef} (ho : s.Owned i walletId w) : s'.Owned i walletId w := by
  obtain ⟨o, hw, hid, hi⟩ := ho
  obtain ⟨o', hw', hid', hi'⟩ := h w o hw
  exact ⟨o', hw', hid'.trans hid, hi'.trans hi⟩

namespace StartsInv

variable {s s' : Server} {g : Nat → StartGhost} {i : Nat}

/-- Nothing that the invariant speaks of changes. -/
theorem congr (h : StartsInv s g) (hw : s'.initializedWallets = s.initializedWallets)
    (ho : s'.objects = s.objects) : StartsInv s' g where
  flows j := by
    have hj := h.flows j
    unfold StartOk Server.Owned at hj ⊢
    rw [hw, ho]
    exact hj
  starts := h.starts
  stops := h.stops
  registered := by rw [hw, ho]; exact h.registered
  running := by rw [hw, ho]; exact h.running
  signed := by rw [ho]; exact h.signed

/-- A running wallet while no other flow is between `wallet.start` and the map. -/
theorem running_of_rests (h : StartsInv s g) (hr : ∀ j, j ≠ i → (g j).phase.Rests) {w : WalletRef}
    {o : HathorWallet} (hw : s.objects[w]? = some o) (ho : o.running = true) :
    s.initializedWallets.get o.walletId = some w ∨ (g i).phase = .started w := by
  obtain hget | ⟨j, hj⟩ := h.running w o hw ho
  · exact .inl hget
  · by_cases hij : j = i
    · exact .inr (hij ▸ hj)
    · have hrest := hr j hij
      rw [hj] at hrest
      exact hrest.elim

/-- What a step of flow `i` leaves the id of another flow. -/
def SameId (s s' : Server) (q : StartGhost) : Prop :=
  q.phase ≠ .done → s'.initializedWallets.get q.walletId = s.initializedWallets.get q.walletId ∨
    (∃ w, q.phase = .registered w) ∧ s'.initializedWallets.get q.walletId = none

/-- The invariant of a flow while another takes a step. -/
theorem other (h : StartsInv s g) {g' : Nat → StartGhost} {j : Nat} (hg : g' j = g j)
    (hr : (g j).phase.Rests) (hid : SameId s s' (g j)) (hk : s.KeepsObjects s') : StartOk s' g' j := by
  have hj := h.flows j
  cases hp : (g j).phase with
  | done => simp only [StartOk, hg, hp]
  | entered | started | stopEntered | stopped =>
      rw [hp] at hr
      exact hr.elim
  | checked =>
      simp only [StartOk, hg, hp] at hj ⊢
      obtain hget | ⟨⟨w, hw⟩, -⟩ := hid (by rw [hp]; simp)
      · rw [hget]
        exact hj
      · rw [hp] at hw
        cases hw
  | created w =>
      simp only [StartOk, hg, hp] at hj ⊢
      obtain hget | ⟨⟨w, hw⟩, -⟩ := hid (by rw [hp]; simp)
      · rw [hget]
        exact ⟨hj.1, hk.owned hj.2⟩
      · rw [hp] at hw
        cases hw
  | registered w =>
      simp only [StartOk, hg, hp] at hj ⊢
      refine ⟨fun v hv => ?_, hk.owned hj.2⟩
      obtain hget | ⟨-, hget⟩ := hid (by rw [hp]; simp)
      · rw [hget] at hv
        exact hj.1 v hv
      · rw [hget] at hv
        cases hv
  | stopping w =>
      simp only [StartOk, hg, hp] at hj ⊢
      obtain hget | ⟨⟨w, hw⟩, -⟩ := hid (by rw [hp]; simp)
      · rw [hget]
        exact hj
      · rw [hp] at hw
        cases hw

/-- A step of flow `i`, which goes to `q`. -/
theorem move (h : StartsInv s g) (hr : ∀ j, j ≠ i → (g j).phase.Rests) {q : StartGhost}
    (hid : ∀ j, j ≠ i → SameId s s' (g j)) (hk : s.KeepsObjects s')
    (hflow : StartOk s' (update g i q) i)
    (hstarts : q.phase.Starts → ∀ j, j ≠ i → (g j).phase.Starts → (g j).walletId ≠ q.walletId)
    (hstops : q.phase.Stops → ∀ j, j ≠ i → (g j).phase.Stops → (g j).walletId ≠ q.walletId)
    (hregistered : ∀ walletId w, s'.initializedWallets.get walletId = some w →
      ∃ o, s'.objects[w]? = some o ∧ o.walletId = walletId)
    (hrunning : ∀ (w : WalletRef) (o : HathorWallet), s'.objects[w]? = some o → o.running = true →
      s'.initializedWallets.get o.walletId = some w ∨ q.phase = .started w)
    (hsigned : ∀ o ∈ s'.objects, ∀ k ∈ o.setters, k = o.creator) : StartsInv s' (update g i q) where
  flows j := by
    by_cases hj : j = i
    · subst hj
      exact hflow
    · exact h.other (update_of_ne hj _ _) (hr j hj) (hid j hj) hk
  starts := h.starts.update hstarts
  stops := h.stops.update hstops
  registered := hregistered
  running w o hw ho := by
    obtain hget | hq := hrunning w o hw ho
    · exact .inl hget
    · exact .inr ⟨i, by rw [update_self]; exact hq⟩
  signed := hsigned

variable {walletId : String} {p₀ : StartPhase} {w : WalletRef}

/-- A step of flow `i` that changes its phase only. -/
theorem phase (h : StartsInv s g) (hr : ∀ j, j ≠ i → (g j).phase.Rests) (hi : g i = ⟨walletId, p₀⟩)
    {p : StartPhase} (hp : ∀ w, p₀ ≠ .started w) (hflow : StartOk s (update g i ⟨walletId, p⟩) i)
    (hstarts : p.Starts → ∀ j, j ≠ i → (g j).phase.Starts → (g j).walletId ≠ walletId)
    (hstops : p.Stops → ∀ j, j ≠ i → (g j).phase.Stops → (g j).walletId ≠ walletId) :
    StartsInv s (update g i ⟨walletId, p⟩) :=
  h.move hr (fun _ _ _ => .inl rfl) (fun _ o ho => ⟨o, ho, rfl, rfl⟩) hflow hstarts hstops h.registered
    (fun w _ hw ho => .inl ((h.running_of_rests hr hw ho).resolve_right (by rw [hi]; exact hp w))) h.signed

/-- Flow `i` has nothing more to do. -/
theorem finish (h : StartsInv s g) (hr : ∀ j, j ≠ i → (g j).phase.Rests) (hi : g i = ⟨walletId, p₀⟩)
    (hp : ∀ w, p₀ ≠ .started w) : StartsInv s (update g i ⟨walletId, .done⟩) :=
  h.phase hr hi hp (by simp only [StartOk, update_self]) (fun hs => hs.elim) fun hs => hs.elim

theorem ok (h : StartsInv s g) (hi : g i = ⟨walletId, p₀⟩) : StartOk s (update g i ⟨walletId, p₀⟩) i := by
  rw [← hi, update_eq_self]
  exact h.flows i

/-- The flow is the only start of its id. -/
theorem only_start (h : StartsInv s g) (hi : g i = ⟨walletId, p₀⟩) (hp : p₀.Starts) (j : Nat) (hj : j ≠ i)
    (hs : (g j).phase.Starts) : (g j).walletId ≠ walletId := fun he =>
  hj (h.starts j i hs (by rw [hi]; exact hp) (by rw [hi]; exact he))

theorem only_stop (h : StartsInv s g) (hi : g i = ⟨walletId, p₀⟩) (hp : p₀.Stops) (j : Nat) (hj : j ≠ i)
    (hs : (g j).phase.Stops) : (g j).walletId ≠ walletId := fun he =>
  hj (h.stops j i hs (by rw [hi]; exact hp) (by rw [hi]; exact he))

/-! ## The steps of a start -/

theorem look (h : StartsInv s g) (hr : ∀ j, j ≠ i → (g j).phase.Rests) (hi : g i = ⟨walletId, .entered⟩) :
    StartsInv s (update g i ⟨walletId, StartGhost.found .entered (s.initializedWallets.get walletId)⟩) := by
  have hf := h.flows i
  simp only [StartOk, hi] at hf
  cases hget : s.initializedWallets.get walletId with
  | some w => exact h.finish hr hi (by simp)
  | none =>
      refine h.phase hr hi (by simp) ?_ (fun _ => hf hget) fun hs => hs.elim
      simp only [StartGhost.found, StartOk, update_self]
      exact hget

theorem create (h : StartsInv s g) (hr : ∀ j, j ≠ i → (g j).phase.Rests) (hi : g i = ⟨walletId, .checked⟩)
    (object : Nat) :
    StartsInv { s with objects := s.objects ++ [{ walletId := walletId, creator := i, configObject := object }] }
      (update g i ⟨walletId, .created s.objects.length⟩) := by
  have hf := h.flows i
  simp only [StartOk, hi] at hf
  have hkeep {v : WalletRef} {o : HathorWallet} (hv : s.objects[v]? = some o) (o' : HathorWallet) :
      (s.objects ++ [o'])[v]? = some o := by
    rw [List.getElem?_append_left (List.getElem?_eq_some_iff.mp hv).1]
    exact hv
  refine h.move hr (fun _ _ _ => .inl rfl) (fun v o hv => ⟨o, hkeep hv _, rfl, rfl⟩) ?_
    (fun _ => h.only_start hi trivial) (fun hs => hs.elim) (fun id v hv => ?_) (fun v o hv ho => ?_) fun o ho k hk => ?_
  · simp only [StartOk, update_self]
    exact ⟨hf, _, List.getElem?_concat_length .., rfl, rfl⟩
  · obtain ⟨o, ho, hid⟩ := h.registered id v hv
    exact ⟨o, hkeep ho _, hid⟩
  · obtain hv | ⟨rfl, rfl⟩ := getElem?_snoc hv
    · exact .inl ((h.running_of_rests hr hv ho).resolve_right (by rw [hi]; simp))
    · cases ho
  · rcases List.mem_append.mp ho with ho | ho
    · exact h.signed o ho k hk
    · cases List.mem_singleton.mp ho
      cases hk

theorem getElem?_setRunning (s : Server) (w v : WalletRef) (b : Bool) : (s.setRunning w b).objects[v]? =
    (s.objects[v]?).map fun o => if w = v then { o with running := b } else o := by
  show (s.objects.modify w _)[v]? = _
  rw [List.getElem?_modify]
  rfl

/-- What an object was before its `running` was set. -/
theorem of_setRunning {v : WalletRef} {b : Bool} {o' : HathorWallet} (hv : (s.setRunning w b).objects[v]? = some o') :
    ∃ o, s.objects[v]? = some o ∧ o'.walletId = o.walletId ∧ o'.creator = o.creator ∧ o'.setters = o.setters ∧
      (if w = v then o'.running = b else o'.running = o.running) := by
  rw [getElem?_setRunning] at hv
  obtain ⟨o, ho, rfl⟩ := Option.map_eq_some_iff.mp hv
  refine ⟨o, ho, ?_⟩
  split <;> exact ⟨rfl, rfl, rfl, rfl⟩

theorem keeps_setRunning (s : Server) (w : WalletRef) (b : Bool) : s.KeepsObjects (s.setRunning w b) := by
  intro v o hv
  rw [getElem?_setRunning, hv]
  refine ⟨_, rfl, ?_⟩
  split <;> exact ⟨rfl, rfl⟩

/-- `running` changes on an object whose flow says so. -/
theorem setRunning (h : StartsInv s g) (hr : ∀ j, j ≠ i → (g j).phase.Rests) (hi : g i = ⟨walletId, p₀⟩)
    {p : StartPhase} {b : Bool} (hp : ∀ v, p₀ ≠ .started v)
    (hflow : StartOk (s.setRunning w b) (update g i ⟨walletId, p⟩) i)
    (hstarts : p.Starts → ∀ j, j ≠ i → (g j).phase.Starts → (g j).walletId ≠ walletId)
    (hstops : p.Stops → ∀ j, j ≠ i → (g j).phase.Stops → (g j).walletId ≠ walletId)
    (hb : b = true → p = .started w) : StartsInv (s.setRunning w b) (update g i ⟨walletId, p⟩) := by
  refine h.move hr (fun _ _ _ => .inl rfl) (keeps_setRunning s w b) hflow hstarts hstops (fun id v hv => ?_)
    (fun v o' hv ho => ?_) fun o' ho k hk => ?_
  · obtain ⟨o, ho, hid⟩ := h.registered id v hv
    obtain ⟨o', ho', hid', -⟩ := keeps_setRunning s w b v o ho
    exact ⟨o', ho', hid'.trans hid⟩
  · obtain ⟨o, hv', hid, -, -, hrun⟩ := of_setRunning hv
    by_cases hw : w = v
    · rw [if_pos hw, ho] at hrun
      exact .inr (hw ▸ hb hrun.symm)
    · rw [if_neg hw, ho] at hrun
      rw [hid]
      exact .inl ((h.running_of_rests hr hv' hrun.symm).resolve_right (by rw [hi]; exact hp v))
  · obtain ⟨v, hv⟩ := List.getElem?_of_mem ho
    obtain ⟨o, hv', -, hc, hs, -⟩ := of_setRunning hv
    rw [hc]
    exact h.signed o (List.mem_of_getElem? hv') k (hs ▸ hk)

theorem run (h : StartsInv s g) (hr : ∀ j, j ≠ i → (g j).phase.Rests) (hi : g i = ⟨walletId, .created w⟩) :
    StartsInv (s.setRunning w true) (update g i ⟨walletId, .started w⟩) := by
  have hf := h.flows i
  simp only [StartOk, hi] at hf
  refine h.setRunning hr hi (by simp) ?_ (fun _ => h.only_start hi trivial) (fun hs => hs.elim) fun _ => rfl
  simp only [StartOk, update_self]
  exact ⟨hf.1, (keeps_setRunning s w true).owned hf.2⟩

theorem register (h : StartsInv s g) (hr : ∀ j, j ≠ i → (g j).phase.Rests) (hi : g i = ⟨walletId, .started w⟩) :
    StartsInv (s.putWallet walletId w)
      (update g i ⟨walletId, .registered w⟩) := by
  have hf := h.flows i
  simp only [StartOk, hi] at hf
  obtain ⟨hnone, o₀, hw, hid₀, hi₀⟩ := hf
  refine h.move hr (fun j hj hd => ?_) (fun v o hv => ⟨o, hv, rfl, rfl⟩) ?_ (fun _ => h.only_start hi trivial)
    (fun hs => hs.elim) (fun id v hv => ?_) (fun v o hv ho => .inl ?_) h.signed
  · refine .inl (Js.Map.get_set_of_ne _ _ fun he => ?_)
    have hfj := h.flows j
    have hrj := hr j hj
    cases hp : (g j).phase with
    | done => exact hd hp
    | checked | created _ | registered _ => exact h.only_start hi trivial j hj (by rw [hp]; trivial) he
    | stopping v =>
        simp only [StartOk, hp] at hfj
        rw [he, hnone] at hfj
        cases hfj
    | _ =>
        rw [hp] at hrj
        exact hrj.elim
  · simp only [StartOk, update_self]
    refine ⟨fun v hv => ?_, o₀, hw, hid₀, hi₀⟩
    change Js.Map.get (s.initializedWallets.set walletId w) walletId = some v at hv
    rw [Js.Map.get_set_self] at hv
    exact (Option.some.inj hv).symm
  · change Js.Map.get (s.initializedWallets.set walletId w) id = some v at hv
    rw [Js.Map.get_set] at hv
    split at hv
    next he =>
      cases hv
      exact ⟨o₀, hw, hid₀.trans he.symm⟩
    next => exact h.registered id v hv
  · show Js.Map.get (s.initializedWallets.set walletId w) o.walletId = some v
    rw [Js.Map.get_set]
    obtain hget | hs := h.running_of_rests hr hv ho
    · rw [if_neg (fun he => by rw [he, hnone] at hget; cases hget)]
      exact hget
    · rw [hi] at hs
      cases hs
      change s.objects[w]? = some o at hv
      rw [hw] at hv
      cases hv
      rw [if_pos hid₀]

theorem getElem?_setSigner (s : Server) (i : Nat) (w v : WalletRef) (method : SigningMethod) :
    (s.setSigner i w method).objects[v]? = (s.objects[v]?).map fun o =>
      if w = v then { o with externalTxSigningMethod := some method, setters := i :: o.setters } else o := by
  show (s.objects.modify w _)[v]? = _
  rw [List.getElem?_modify]
  rfl

theorem of_setSigner {method : SigningMethod} {v : WalletRef} {o' : HathorWallet}
    (hv : (s.setSigner i w method).objects[v]? = some o') :
    ∃ o, s.objects[v]? = some o ∧ o'.walletId = o.walletId ∧ o'.creator = o.creator ∧ o'.running = o.running ∧
      o'.setters = if w = v then i :: o.setters else o.setters := by
  rw [getElem?_setSigner] at hv
  obtain ⟨o, ho, rfl⟩ := Option.map_eq_some_iff.mp hv
  refine ⟨o, ho, ?_⟩
  split <;> exact ⟨rfl, rfl, rfl, rfl⟩

/-- A signing method is set on the wallet that the start has created. -/
theorem sign (h : StartsInv s g) (hr : ∀ j, j ≠ i → (g j).phase.Rests) (hi : g i = ⟨walletId, .registered w⟩)
    (method : SigningMethod) : StartsInv (s.setSigner i w method) g := by
  have hf := h.flows i
  simp only [StartOk, hi] at hf
  obtain ⟨hget, hown⟩ := hf
  have hkeep : s.KeepsObjects (s.setSigner i w method) := by
    intro v o hv
    rw [getElem?_setSigner, hv]
    refine ⟨_, rfl, ?_⟩
    split <;> exact ⟨rfl, rfl⟩
  have hmove : StartsInv (s.setSigner i w method) (update g i ⟨walletId, .registered w⟩) := by
    refine h.move hr (fun _ _ _ => .inl rfl) hkeep ?_ (fun _ => h.only_start hi trivial) (fun hs => hs.elim)
      (fun id v hv => ?_) (fun v o' hv ho => .inl ?_) fun o' ho k hk => ?_
    · simp only [StartOk, update_self]
      exact ⟨hget, hkeep.owned hown⟩
    · obtain ⟨o, ho, hid⟩ := h.registered id v hv
      obtain ⟨o', ho', hid', -⟩ := hkeep v o ho
      exact ⟨o', ho', hid'.trans hid⟩
    · obtain ⟨o, hv', hid, -, hrun, -⟩ := of_setSigner hv
      rw [hid]
      exact (h.running_of_rests hr hv' (hrun ▸ ho)).resolve_right (by rw [hi]; simp)
    · obtain ⟨v, hv⟩ := List.getElem?_of_mem ho
      obtain ⟨o, hv', -, hc, -, hs⟩ := of_setSigner hv
      rw [hc]
      rw [hs] at hk
      split at hk
      next he =>
        subst he
        obtain ⟨o₀, hw, -, hi₀⟩ := hown
        rw [hw] at hv'
        cases hv'
        rcases List.mem_cons.mp hk with rfl | hk
        · exact hi₀.symm
        · exact h.signed o (List.mem_of_getElem? hw) k hk
      next => exact h.signed o (List.mem_of_getElem? hv') k hk
  rwa [← hi, update_eq_self] at hmove

/-! ## The steps of a stop -/

theorem search (h : StartsInv s g) (hr : ∀ j, j ≠ i → (g j).phase.Rests) (hi : g i = ⟨walletId, .stopEntered⟩) :
    StartsInv s (update g i ⟨walletId, StartGhost.found .stopEntered (s.initializedWallets.get walletId)⟩) := by
  have hf := h.flows i
  simp only [StartOk, hi] at hf
  cases hget : s.initializedWallets.get walletId with
  | none => exact h.finish hr hi (by simp)
  | some w =>
      refine h.phase hr hi (by simp) ?_ (fun hs => hs.elim) fun _ => hf (by rw [hget]; simp)
      simp only [StartGhost.found, StartOk, update_self]
      exact hget

theorem halt (h : StartsInv s g) (hr : ∀ j, j ≠ i → (g j).phase.Rests) (hi : g i = ⟨walletId, .stopping w⟩) :
    StartsInv (s.setRunning w false) (update g i ⟨walletId, .stopped w⟩) := by
  have hf := h.flows i
  simp only [StartOk, hi] at hf
  refine h.setRunning hr hi (by simp) ?_ (fun hs => hs.elim) (fun _ => h.only_stop hi trivial) (by simp)
  simp only [StartOk, update_self]
  refine ⟨hf, fun o hv => ?_⟩
  obtain ⟨_, _, _, _, _, hrun⟩ := of_setRunning hv
  rwa [if_pos rfl] at hrun

theorem forget (h : StartsInv s g) (hr : ∀ j, j ≠ i → (g j).phase.Rests) (hi : g i = ⟨walletId, .stopped w⟩) :
    StartsInv (s.dropWallet walletId)
      (update g i ⟨walletId, .done⟩) := by
  have hf := h.flows i
  simp only [StartOk, hi] at hf
  obtain ⟨hget, hstop⟩ := hf
  refine h.move hr (fun j hj hd => ?_) (fun v o hv => ⟨o, hv, rfl, rfl⟩) (by simp only [StartOk, update_self])
    (fun hs => hs.elim) (fun hs => hs.elim) (fun id v hv => ?_) (fun v o hv ho => .inl ?_) h.signed
  · by_cases he : (g j).walletId = walletId
    · have hfj := h.flows j
      have hrj := hr j hj
      cases hp : (g j).phase with
      | done => exact absurd hp hd
      | checked =>
          simp only [StartOk, hp] at hfj
          rw [he, hget] at hfj
          cases hfj
      | created v =>
          simp only [StartOk, hp] at hfj
          rw [he, hget] at hfj
          cases hfj.1
      | registered v =>
          refine .inr ⟨⟨v, rfl⟩, ?_⟩
          show Js.Map.get (s.initializedWallets.delete walletId) _ = none
          rw [he, Js.Map.get_delete_self]
      | stopping v => exact absurd he (h.only_stop hi trivial j hj (by rw [hp]; trivial))
      | _ =>
          rw [hp] at hrj
          exact hrj.elim
    · refine .inl ?_
      show Js.Map.get (s.initializedWallets.delete walletId) _ = _
      rw [Js.Map.get_delete, if_neg he]
  · change Js.Map.get (s.initializedWallets.delete walletId) id = some v at hv
    rw [Js.Map.get_delete] at hv
    split at hv
    next => cases hv
    next => exact h.registered id v hv
  · have hrun := (h.running_of_rests hr hv ho).resolve_right (by rw [hi]; simp)
    show Js.Map.get (s.initializedWallets.delete walletId) o.walletId = some v
    rw [Js.Map.get_delete, if_neg, hrun]
    intro he
    rw [he, hget] at hrun
    cases hrun
    rw [hstop o hv] at ho
    cases ho

end StartsInv

end WalletHeadless
