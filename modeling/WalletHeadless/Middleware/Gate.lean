import WalletHeadless.Coop.Ghost
import WalletHeadless.Middleware.Wallet
import WalletHeadless.Registry.Moves

/-!
# What the middleware lets through

* `GateReq.Gated`: what one request asks for and gets, by its log;
* `Spared`, `GateRun`: no wallet that the middleware of a request is about to let through is replaced or taken out;
* `gateProtocol`, `GateInv`, `gate_guarded`: the wallet that was found is registered as long as it passes;
* `outcomeProtocol`: one outcome for each request;
* `gated_of_spared`: every request that goes on has a registered wallet; `replaced_goes_on`: the wallet of another
  start is put under the id while the middleware waits.
-/

namespace WalletHeadless

open Coop Js Function

/-! ## Outcomes -/

/-- How the middleware ends a request. -/
inductive GateOutcome
  | next (injected : Injected) (standing : Standing)
  | error (body : GateError)
deriving DecidableEq

def outcome : Event GateOp.Ans → Option GateOutcome
  | ⟨.next x, m⟩ => some (.next x m)
  | ⟨.sendError body, _⟩ => some (.error body)
  | _ => none

def outcomes (log : List (Event GateOp.Ans)) : List GateOutcome := log.filterMap outcome

/-- The configuration is there, and the first address comes. -/
def GateGranted : Event GateOp.Ans → Bool
  | ⟨.server (.registry .getConfig), .error _⟩ => false
  | ⟨.getAddressAtIndex _ _, .error _⟩ => false
  | _ => true

/-- The first address of the wallet is the one of the request, when it has to be confirmed. -/
def GateReq.Confirmed (req : GateReq) (log : List (Event GateOp.Ans)) (wallet : WalletRef) : Prop :=
  ∀ config, ⟨.server (.registry .getConfig), .ok config⟩ ∈ log → config.confirmFirstAddress = true →
    ∃ address, ⟨.getAddressAtIndex wallet 0, .ok address⟩ ∈ log ∧ req.xFirstAddress = some address

/-- One outcome, at the end; it is `next` only for the wallet registered under the id of the request, which passes. -/
structure GateReq.Gated (req : GateReq) (log : List (Event GateOp.Ans)) (rest : GateAsync Unit) : Prop where
  once : (outcomes log).length ≤ 1
  pending : ¬ rest.Ended → outcomes log = []
  ended : (∀ e ∈ log, GateGranted e = true) → rest.Ended → (outcomes log).length = 1
  admitted : ∀ x m, .next x m ∈ outcomes log →
    req.xWalletId = some x.walletId ∧ req.Confirmed log x.wallet ∧ m.registered = some x.wallet ∧
      req.Passes m.state

def Gateway.Gated (S : Gateway) : Prop :=
  ∀ p ∈ S.procs, ∀ req, p.req = .gate req → req.Gated p.log p.rest

/-! ## The condition -/

/-- A request that waits for the first address of the wallet that it has found under its id. -/
structure Waiting where
  req : GateReq
  walletId : String
  wallet : WalletRef

def waiting (p : Proc GateOp.Ans JsError Unit GateRequest) : Option Waiting :=
  match p.req, p.rest with
  | .gate req, .op (.getAddressAtIndex wallet _) _ => req.xWalletId.map fun walletId => ⟨req, walletId, wallet⟩
  | _, _ => none

/-- The wallets that requests wait for, and that would pass, are registered under their ids. -/
def Spared (S : Gateway) (initializedWallets : Js.Map String WalletRef) (states : WalletRef → WalletState) : Prop :=
  ∀ p ∈ S.procs, ∀ x ∈ waiting p, x.req.Passes (states x.wallet) →
    initializedWallets.get x.walletId = some x.wallet

instance (S : Gateway) (initializedWallets : Js.Map String WalletRef) (states : WalletRef → WalletState) :
    Decidable (Spared S initializedWallets states) :=
  inferInstanceAs (Decidable (∀ p ∈ S.procs, ∀ x ∈ waiting p, _ → _))

/-- A start puts no wallet in the place of one that is about to pass, and a stop takes none out. -/
def RegistrySpares (S : Gateway) (c : GateOp) (s : Gate) : Bool :=
  match c with
  | .server (.registry (.setWallet walletId wallet)) =>
    Spared S (s.server.initializedWallets.set walletId wallet) s.states
  | .server (.registry (.deleteWallet walletId)) => Spared S (s.server.initializedWallets.delete walletId) s.states
  | _ => true

/-- No wallet comes into a state in which it would pass, when it is not registered any more. -/
def StateSpares (S : Gateway) (l : GateStep) : Bool :=
  match l with
  | .ext (.changed wallet state) =>
    Spared S S.state.server.initializedWallets (update S.state.states wallet state)
  | _ => true

/-- The wallets that requests wait for are spared in the step. -/
def GateOk (S : Gateway) (l : GateStep) : Prop :=
  StateSpares S l = true ∧ S.Meets gateway GateRequest.handle (fun S _ c _ s => RegistrySpares S c s = true) l

instance (S : Gateway) (l : GateStep) : Decidable (GateOk S l) := inferInstanceAs (Decidable (_ ∧ _))

/-! ## The wallet that was found -/

/-- Where the middleware of a request is: it has found a wallet, and has seen its state. -/
inductive GatePhase
  | done
  | entered
  | found (wallet : WalletRef)
  | seen (wallet : WalletRef) (state : WalletState)
deriving DecidableEq

/-- The request that the middleware looks at, if it is no handler. -/
structure GateGhost where
  gate : Option GateReq
  phase : GatePhase

namespace GateGhost

/-- The questions of each phase. -/
inductive Allows : GateGhost → GateOp → Prop
  | handler (c : Op) : Allows ⟨none, .done⟩ (.server c)
  | config (req : GateReq) : Allows ⟨some req, .entered⟩ (.server (.registry .getConfig))
  | look {req : GateReq} {walletId : String} (h : req.xWalletId = some walletId) (phase : GatePhase) :
      Allows ⟨some req, phase⟩ (.server (.registry (.getWallet walletId)))
  | address (req : GateReq) (wallet : WalletRef) :
      Allows ⟨some req, .found wallet⟩ (.getAddressAtIndex wallet 0)
  | state (req : GateReq) (wallet : WalletRef) : Allows ⟨some req, .found wallet⟩ (.state wallet)
  | key (q : GateGhost) (walletId : String) : Allows q (.hsmKeyName walletId)
  | error (q : GateGhost) (body : GateError) : Allows q (.sendError body)
  | next {req : GateReq} {x : Injected} {state : WalletState} (h : req.xWalletId = some x.walletId)
      (hpass : req.Passes state) : Allows ⟨some req, .seen x.wallet state⟩ (.next x)

/-- The phase after an answer. -/
def nextPhase (phase : GatePhase) (c : GateOp) (r : c.Ans) : GatePhase :=
  match phase, c, r with
  | .entered, .server (.registry (.getWallet _)), some wallet => .found wallet
  | .found _, .state wallet, state => .seen wallet state
  | phase, _, _ => phase

/-- `next` is called for a wallet that is registered and passes. -/
def Admits (q : GateGhost) (c : GateOp) (r : c.Ans) : Prop :=
  match c, r with
  | .next x, standing => ∀ req ∈ q.gate, standing.registered = some x.wallet ∧ req.Passes standing.state
  | _, _ => True

/-- Only a middleware that is not suspended has seen a state. -/
def Rests (q : GateGhost) : Prop := ∀ wallet state, q.phase ≠ .seen wallet state

/-- What has been found is registered as long as it passes, and the state that was seen is the state. -/
def Sees (s : Gate) (q : GateGhost) : Prop :=
  ∀ req ∈ q.gate, ∀ walletId ∈ req.xWalletId,
    (∀ wallet, q.phase = .found wallet → req.Passes (s.states wallet) →
      s.server.initializedWallets.get walletId = some wallet) ∧
    ∀ wallet state, q.phase = .seen wallet state → s.states wallet = state ∧
      (req.Passes state → s.server.initializedWallets.get walletId = some wallet)

end GateGhost

/-- The middleware injects the wallet that it has found. -/
def gateProtocol : Protocol GateOp.Ans GateGhost where
  allows := GateGhost.Allows
  may := GateGhost.Admits
  next q c r := { q with phase := GateGhost.nextPhase q.phase c r }
  finish q := { q with phase := .done }

def GateGhost.enter : GateRequest → GateGhost
  | .gate req => ⟨some req, .entered⟩
  | .handler _ => ⟨none, .done⟩

def GateInv (s : Gate) (g : Nat → GateGhost) : Prop := ∀ i, (g i).Sees s

theorem onServer_uses {α : Type} (p : Async α) : (onServer p).Uses fun c => ∃ d, c = .server d := by
  induction p with
  | ret a => trivial
  | throw e => trivial
  | op c k ih => exact ⟨⟨c, rfl⟩, ih⟩

theorem wp_handler (req : Request) :
    gateProtocol.wp (onServer req.handle) ⟨none, .done⟩ (fun _ _ => True) fun _ _ => True := by
  refine (gateProtocol).wp_mono ((onServer_uses req.handle).wp_inv (I := fun q => q = ⟨none, .done⟩) ?_ rfl)
    (fun _ _ _ => trivial) fun _ _ _ => trivial
  rintro q c ⟨d, rfl⟩ rfl
  exact ⟨.handler d, fun r => rfl⟩

/-- The checks of the state let the wallet that was found pass when it may. -/
theorem wp_checkState {req : GateReq} {walletId : String} (h : req.xWalletId = some walletId) (wallet : WalletRef) :
    gateProtocol.wp (Middleware.checkState req walletId wallet) ⟨some req, .found wallet⟩ (fun _ _ => True)
      fun _ _ => True := by
  refine (Protocol.wp_bind ..).mpr ⟨.state req wallet, fun state _ => ?_⟩
  refine (Protocol.wp_ite ..).mpr ⟨fun hpass => ?_, fun _ => ?_⟩
  · have hnext (hsmKeyName : Option String) :
        gateProtocol.allows ⟨some req, .seen wallet state⟩ (.next ⟨wallet, walletId, hsmKeyName⟩) :=
      .next (x := ⟨wallet, walletId, hsmKeyName⟩) h hpass
    refine (Protocol.wp_bind ..).mpr ((Protocol.wp_bind ..).mpr ⟨.look h _, fun registered _ => ?_⟩)
    cases registered with
    | none => exact ⟨hnext none, fun _ _ => trivial⟩
    | some v => exact ⟨.key _ walletId, fun hsmKeyName _ => ⟨hnext _, fun _ _ => trivial⟩⟩
  · exact (Protocol.wp_ite ..).mpr ⟨fun _ => ⟨.error _ _, fun _ _ => trivial⟩, fun _ => ⟨.error _ _, fun _ _ => trivial⟩⟩

theorem wp_walletMiddleware (req : GateReq) :
    gateProtocol.wp (Middleware.walletMiddleware req) ⟨some req, .entered⟩ (fun _ _ => True) fun _ _ => True := by
  refine (Protocol.wp_bind ..).mpr ⟨.config req, fun config _ => ?_⟩
  cases config with
  | error e => trivial
  | ok config =>
      cases h : req.xWalletId with
      | none => exact ⟨.error _ _, fun _ _ => trivial⟩
      | some walletId =>
          refine (Protocol.wp_bind ..).mpr ⟨.look h _, fun wallet _ => ?_⟩
          cases wallet with
          | none => exact ⟨.error _ _, fun _ _ => trivial⟩
          | some wallet =>
              refine (Protocol.wp_ite ..).mpr ⟨fun _ => ?_, fun _ => wp_checkState h wallet⟩
              refine (Protocol.wp_bind ..).mpr ⟨.address req wallet, fun address _ => ?_⟩
              cases address with
              | error e => trivial
              | ok address =>
                  exact (Protocol.wp_ite ..).mpr ⟨fun _ => wp_checkState h wallet, fun _ => ⟨.error _ _, fun _ _ => trivial⟩⟩

/-! ## The invariant -/

namespace GateGhost

variable {s s' : Gate} {q : GateGhost}

theorem Sees.of_none (h : q.gate = none) : q.Sees s := fun req hreq => by simp [h] at hreq

theorem Sees.of_done (h : q.phase = .done) : q.Sees s := fun _ _ _ _ =>
  ⟨fun _ hf => by simp [h] at hf, fun _ _ hs => by simp [h] at hs⟩

theorem Sees.of_entered (h : q.phase = .entered) : q.Sees s := fun _ _ _ _ =>
  ⟨fun _ hf => by simp [h] at hf, fun _ _ hs => by simp [h] at hs⟩

/-- The registry and the states stay. -/
theorem Sees.congr (h : q.Sees s) (hw : s'.server.initializedWallets = s.server.initializedWallets)
    (hs : s'.states = s.states) : q.Sees s' := by
  unfold Sees
  rw [hw, hs]
  exact h

theorem Sees.of_rests (hr : q.Rests) (h : ∀ req ∈ q.gate, ∀ walletId ∈ req.xWalletId, ∀ wallet,
      q.phase = .found wallet → req.Passes (s.states wallet) →
      s.server.initializedWallets.get walletId = some wallet) : q.Sees s := fun req hreq walletId hw =>
  ⟨h req hreq walletId hw, fun _ _ hs => absurd hs (hr _ _)⟩

end GateGhost

/-- A ghost state that has found a wallet belongs to a request that waits for it. -/
theorem waiting_of_found {S : Gateway} {g : Nat → GateGhost}
    (hg : Coherent gateway gateProtocol GateGhost.enter ⟨none, .done⟩ (fun _ => True) S g) {i : Nat} {req : GateReq}
    {walletId : String} {wallet : WalletRef} (hgate : (g i).gate = some req) (hid : req.xWalletId = some walletId)
    (hfound : (g i).phase = .found wallet) :
    ∃ p ∈ S.procs, waiting p = some ⟨req, walletId, wallet⟩ := by
  have hi : i < S.procs.length := by
    by_contra hi
    rw [hg.unborn i (by omega)] at hgate
    cases hgate
  have hp : S.procs[i]? = some S.procs[i] := List.getElem?_eq_getElem hi
  refine ⟨S.procs[i], List.getElem_mem hi, ?_⟩
  have hreq : S.procs[i].req = .gate req := by
    have htag := gateProtocol.ghost_tag GateGhost.gate (fun _ _ => rfl) (fun _ _ _ => rfl) (fun _ => rfl)
      (GateGhost.enter S.procs[i].req) S.procs[i].log S.procs[i].rest
    rw [← hg.traced i _ hp, hgate] at htag
    cases hreq : S.procs[i].req with
    | gate req' =>
        rw [hreq] at htag
        exact congrArg _ (Option.some.inj htag).symm
    | handler req' =>
        rw [hreq] at htag
        cases htag
  have hrest := hg.resting i _ hp
  cases hk : S.procs[i].rest with
  | ret a =>
      rw [hk] at hrest
      obtain ⟨q, -, hq⟩ := hrest
      rw [← hq] at hfound
      cases hfound
  | throw e =>
      rw [hk] at hrest
      obtain ⟨q, -, hq⟩ := hrest
      rw [← hq] at hfound
      cases hfound
  | op c k =>
      rw [hk] at hrest
      obtain ⟨⟨q, hallows, hq⟩, hwaits, -⟩ := hrest
      change q = g i at hq
      rw [← hq] at hgate hfound
      cases hallows with
      | address req' wallet' =>
          cases hgate
          cases hfound
          simp [waiting, hreq, hk, hid]
      | handler c => cases hgate
      | _ => cases hwaits

/-- What is spared is registered as long as it passes. -/
theorem sees_of_spared {S : Gateway} {g : Nat → GateGhost}
    (hg : Coherent gateway gateProtocol GateGhost.enter ⟨none, .done⟩ (fun _ => True) S g) {s : Gate}
    (h : Spared S s.server.initializedWallets s.states) {i : Nat} (hr : (g i).Rests) : (g i).Sees s := by
  refine .of_rests hr fun req hgate walletId hid wallet hfound hpass => ?_
  obtain ⟨p, hp, hx⟩ := waiting_of_found hg hgate hid hfound
  exact h p hp _ hx hpass

/-- The registry changes only when a wallet is set or deleted. -/
theorem Server.registered_performOp {s s' : Server} {i : Nat} {c : Op}
    (hset : ∀ walletId wallet, c ≠ .registry (.setWallet walletId wallet))
    (hdelete : ∀ walletId, c ≠ .registry (.deleteWallet walletId)) {w r : c.Ans}
    (hp : s.performOp i c w = some (r, s')) : s'.initializedWallets = s.initializedWallets := by
  cases c with
  | registry c =>
      have he : (s.performRegistry i c w).2 = s' := congrArg Prod.snd (Option.some.inj hp)
      rw [← he]
      cases c with
      | setWallet walletId wallet => exact absurd rfl (hset walletId wallet)
      | deleteWallet walletId => exact absurd rfl (hdelete walletId)
      | newWallet walletId walletConfig config => cases w <;> rfl
      | _ => rfl
  | _ => exact (Server.performOp_untouched hp).wallets (by simp)

/-- A call of a handler keeps the wallets that were found registered. -/
theorem sees_server {S : Gateway} {g₀ g : Nat → GateGhost} {s : Gate} {server : Server} {i j : Nat} {c : Op}
    {w r : c.Ans} (hg : Coherent gateway gateProtocol GateGhost.enter ⟨none, .done⟩ (fun _ => True) S g₀)
    (hj : g j = g₀ j) (hr : (g j).Rests) (hI : (g j).Sees s) (hG : RegistrySpares S (.server c) s = true)
    (hp : s.server.performOp i c w = some (r, server)) : (g j).Sees { s with server := server } := by
  by_cases hset : ∃ walletId wallet, c = .registry (.setWallet walletId wallet)
  · obtain ⟨walletId, wallet, rfl⟩ := hset
    cases hp
    rw [hj] at hr ⊢
    exact sees_of_spared hg (s := { s with server := s.server.putWallet walletId wallet }) (of_decide_eq_true hG) hr
  by_cases hdelete : ∃ walletId, c = .registry (.deleteWallet walletId)
  · obtain ⟨walletId, rfl⟩ := hdelete
    cases hp
    rw [hj] at hr ⊢
    exact sees_of_spared hg (s := { s with server := s.server.dropWallet walletId }) (of_decide_eq_true hG) hr
  · push Not at hset hdelete
    exact hI.congr (Server.registered_performOp hset hdelete hp) rfl

theorem GateGhost.Sees.callOf {s : Gate} {q : GateGhost} (h : q.Sees s) (i : Nat) (c : GateOp) : q.Sees (s.callOf i c) := by
  cases c with
  | server c => exact h.congr (Server.sameWallets_callOf i c).registered rfl
  | _ => exact h

/-- A question that waits is asked before the state is seen. -/
theorem GateGhost.Allows.rests {q : GateGhost} {c : GateOp} (h : q.Allows c) (hw : c.waits = true) : q.Rests := by
  cases h with
  | handler c => simp [Rests]
  | address req wallet => simp [Rests]
  | _ => cases hw

/-- What the middleware asks for changes nothing, and lets it see how things stand. -/
theorem GateGhost.Allows.sees {s s' : Gate} {q : GateGhost} {i : Nat} {c : GateOp} {w r : c.Ans} (h : q.Allows c)
    (hq : ∀ d, c = .server d → q.gate ≠ none) (hi : q.Sees s) (hp : s.performOp i c w = some (r, s')) :
    s' = s ∧ q.Admits c r ∧ (gateProtocol.next q c r).Sees s := by
  cases h with
  | handler c => exact absurd rfl (hq c rfl)
  | config req =>
      cases hp
      exact ⟨rfl, trivial, .of_entered rfl⟩
  | @look req walletId h phase =>
      cases hp
      refine ⟨rfl, trivial, ?_⟩
      cases phase with
      | entered =>
          show GateGhost.Sees s ⟨some req, nextPhase .entered (.server (.registry (.getWallet walletId)))
            (s.server.initializedWallets.get walletId)⟩
          cases hget : s.server.initializedWallets.get walletId with
          | none => exact .of_entered rfl
          | some wallet =>
              refine .of_rests (fun _ _ hs => by cases hs) fun req' hreq walletId' hid wallet' hfound _ => ?_
              cases hreq
              cases hfound
              rw [Option.some.inj (hid.symm.trans h), hget]
      | _ => exact hi
  | address req wallet =>
      cases hp
      exact ⟨rfl, trivial, hi⟩
  | state req wallet =>
      cases hp
      refine ⟨rfl, trivial, fun req hreq walletId hid => ⟨fun _ hf => (by cases hf), fun v state hs => ?_⟩⟩
      cases hs
      exact ⟨rfl, (hi req hreq walletId hid).1 wallet rfl⟩
  | key q walletId =>
      cases hp
      refine ⟨rfl, trivial, ?_⟩
      cases q with
      | mk gate phase => cases phase <;> exact hi
  | error q body =>
      cases hp
      refine ⟨rfl, trivial, ?_⟩
      cases q with
      | mk gate phase => cases phase <;> exact hi
  | next h hpass =>
      cases hp
      refine ⟨rfl, fun req hreq => ?_, hi⟩
      cases hreq
      obtain ⟨hstate, hget⟩ := (hi _ rfl _ h).2 _ _ rfl
      rw [Gate.standing, hstate]
      exact ⟨hget hpass, hpass⟩

theorem gate_guarded : Guarded gateway GateRequest.handle gateProtocol GateGhost.enter ⟨none, .done⟩
    GateGhost.Rests (fun _ => True) (fun _ _ => True) (fun S l => StateSpares S l = true)
    (fun S _ c _ s => RegistrySpares S c s = true) GateInv where
  spawn S g req w hg hr hI hok := by
    cases req with
    | gate req =>
        exact ⟨(forall_update_iff g fun _ q => q.Sees S.state).mpr ⟨.of_entered rfl, fun j _ => hI j⟩,
          wp_walletMiddleware req⟩
    | handler req =>
        exact ⟨(forall_update_iff g fun _ q => q.Sees S.state).mpr ⟨.of_none rfl, fun j _ => hI j⟩, wp_handler req⟩
  call s g i c hI hr ha hw := by
    refine ⟨?_, (forall_update_iff g fun _ q => q.Sees _).mpr ?_⟩
    · exact GateGhost.Allows.rests ha hw
    · exact ⟨(hI i).callOf i c, fun j _ => (hI j).callOf i c⟩
  perform S g₀ s g i q c w r s' hg hagree _ _ hG hI hr ha hc hp := by
    change q = g i at hc
    rw [hc] at ha
    by_cases hhandler : (g i).gate = none ∧ ∃ d, c = .server d
    · obtain ⟨hnone, d, rfl⟩ := hhandler
      obtain ⟨⟨r', server⟩, hperform, he⟩ := Option.map_eq_some_iff.mp hp
      cases he
      exact ⟨trivial, (forall_update_iff g fun _ q => q.Sees _).mpr ⟨.of_none hnone, fun j hj =>
        sees_server hg (hagree j hj) (hr j hj) (hI j) hG hperform⟩⟩
    · obtain ⟨rfl, hadmits, hsees⟩ := ha.sees (fun d hd hnone => hhandler ⟨hnone, d, hd⟩) (hI i) hp
      exact ⟨hadmits, (forall_update_iff g fun _ q => q.Sees _).mpr ⟨hsees, fun j _ => hI j⟩⟩
  ext S g e s hg hr hI hok he := by
    intro i
    cases e with
    | outside e =>
        obtain ⟨server, hp, rfl⟩ := Option.map_eq_some_iff.mp he
        exact (hI i).congr (Server.sameWallets_outside hp).registered rfl
    | changed wallet state =>
        cases he
        exact sees_of_spared hg (s := { S.state with states := update S.state.states wallet state })
          (of_decide_eq_true hok) (hr i)
  finish s g i hI hr _ := by
    refine ⟨fun _ _ h => ?_, (forall_update_iff g fun _ q => q.Sees s).mpr ⟨.of_done rfl, fun j _ => hI j⟩⟩
    cases h
  call_sync _ _ _ := rfl
  rests_fresh := by simp [GateGhost.Rests]
  of_enter _ := trivial
  of_call _ _ _ _ := trivial
  of_next _ _ _ _ _ := trivial
  of_finish _ _ _ := trivial

/-! ## One outcome -/

/-- The trace of a request: nothing is asked after an outcome, and `next` only for a wallet that is confirmed. -/
def outcomeProtocol (req : GateReq) : Protocol GateOp.Ans (List (Event GateOp.Ans)) where
  allows t c := outcomes t = [] ∧ ∀ x, c = .next x → req.Confirmed t x.wallet
  may _ _ _ := True
  next t c r := t ++ [⟨c, r⟩]

theorem outcome_after (req : GateReq) (t u : List (Event GateOp.Ans)) :
    (outcomeProtocol req).after t u = t ++ u :=
  (outcomeProtocol req).after_log id (fun _ _ => rfl) (fun _ _ _ => rfl) t u

theorem outcomes_snoc {t : List (Event GateOp.Ans)} {e : Event GateOp.Ans} (h : outcome e = none) :
    outcomes (t ++ [e]) = outcomes t := by
  simp [outcomes, h]

theorem GateReq.Confirmed.snoc {req : GateReq} {t : List (Event GateOp.Ans)} {wallet : WalletRef}
    {e : Event GateOp.Ans} (h : req.Confirmed t wallet) (he : e.1 ≠ .server (.registry .getConfig)) :
    req.Confirmed (t ++ [e]) wallet := by
  intro config hconfig hconfirm
  rcases List.mem_append.mp hconfig with hconfig | hconfig
  · obtain ⟨address, ha, hreq⟩ := h config hconfig hconfirm
    exact ⟨address, List.mem_append_left _ ha, hreq⟩
  · rw [← List.mem_singleton.mp hconfig] at he
    exact absurd rfl he

theorem wp_sendError (req : GateReq) (message : String) (state : Option WalletState) {t : List (Event GateOp.Ans)}
    (ht : outcomes t = []) {fail : JsError → List (Event GateOp.Ans) → Prop} :
    (outcomeProtocol req).wp (Middleware.sendError message state) t (fun _ t => (outcomes t).length = 1) fail := by
  refine ⟨⟨ht, fun _ hx => by cases hx⟩, fun r _ => ?_⟩
  show (List.filterMap outcome (t ++ [_])).length = 1
  rw [List.filterMap_append, show List.filterMap outcome t = [] from ht]
  rfl

theorem wp_checkState_outcome (req : GateReq) (walletId : String) (wallet : WalletRef) {t : List (Event GateOp.Ans)}
    (ht : outcomes t = []) (hconfirmed : req.Confirmed t wallet)
    {fail : JsError → List (Event GateOp.Ans) → Prop} :
    (outcomeProtocol req).wp (Middleware.checkState req walletId wallet) t (fun _ t => (outcomes t).length = 1) fail := by
  have hquiet {t : List (Event GateOp.Ans)} {c : GateOp} (r : c.Ans) (ht : outcomes t = [] ∧ req.Confirmed t wallet)
      (hc : outcome ⟨c, r⟩ = none) (hc' : c ≠ .server (.registry .getConfig)) :
      outcomes (t ++ [⟨c, r⟩]) = [] ∧ req.Confirmed (t ++ [⟨c, r⟩]) wallet :=
    ⟨(outcomes_snoc hc).trans ht.1, ht.2.snoc hc'⟩
  have hnext {t : List (Event GateOp.Ans)} (hsmKeyName : Option String)
      (ht : outcomes t = [] ∧ req.Confirmed t wallet) :
      (outcomeProtocol req).wp (Prog.ask (GateOp.next ⟨wallet, walletId, hsmKeyName⟩) >>= fun _ => pure ()) t
        (fun _ t => (outcomes t).length = 1) fail := by
    refine (Protocol.wp_bind ..).mpr ⟨⟨ht.1, fun x hx => ?_⟩, fun r _ => ?_⟩
    · cases hx
      exact ht.2
    · show (List.filterMap outcome (t ++ [_])).length = 1
      rw [List.filterMap_append, show List.filterMap outcome t = [] from ht.1]
      rfl
  refine (Protocol.wp_bind ..).mpr ⟨⟨ht, fun _ hx => by cases hx⟩, fun state _ => ?_⟩
  have h₁ := hquiet (c := .state wallet) state ⟨ht, hconfirmed⟩ rfl (by simp)
  refine (Protocol.wp_ite ..).mpr ⟨fun _ => ?_, fun _ => ?_⟩
  · refine (Protocol.wp_bind ..).mpr ((Protocol.wp_bind ..).mpr ⟨⟨h₁.1, fun _ hx => by cases hx⟩, fun registered _ => ?_⟩)
    have h₂ := hquiet (c := .server (.registry (.getWallet walletId))) registered h₁ rfl (by simp)
    cases registered with
    | none => exact hnext none h₂
    | some v =>
        refine ⟨⟨h₂.1, fun _ hx => by cases hx⟩, fun hsmKeyName _ => ?_⟩
        exact hnext _ (hquiet (c := .hsmKeyName walletId) hsmKeyName h₂ rfl (by simp))
  · exact (Protocol.wp_ite ..).mpr ⟨fun _ => wp_sendError _ _ _ h₁.1, fun _ => wp_sendError _ _ _ h₁.1⟩

/-- A request gets one outcome, or its configuration or its first address does not come. -/
theorem wp_outcome (req : GateReq) :
    (outcomeProtocol req).wp (Middleware.walletMiddleware req) [] (fun _ t => (outcomes t).length = 1)
      fun _ t => outcomes t = [] ∧ ∃ e ∈ t, GateGranted e = false := by
  refine (Protocol.wp_bind ..).mpr ⟨⟨rfl, fun _ hx => by cases hx⟩, fun config _ => ?_⟩
  cases config with
  | error e => exact ⟨rfl, _, List.mem_cons_self, rfl⟩
  | ok config =>
      cases h : req.xWalletId with
      | none => exact wp_sendError _ _ _ rfl
      | some walletId =>
          refine (Protocol.wp_bind ..).mpr ⟨⟨rfl, fun _ hx => by cases hx⟩, fun wallet _ => ?_⟩
          cases wallet with
          | none => exact wp_sendError _ _ _ rfl
          | some wallet =>
              refine (Protocol.wp_ite ..).mpr ⟨fun _ => ?_, fun hn => ?_⟩
              · refine (Protocol.wp_bind ..).mpr ⟨⟨rfl, fun _ hx => by cases hx⟩, fun address _ => ?_⟩
                cases address with
                | error e => exact ⟨rfl, ⟨.getAddressAtIndex wallet 0, .error e⟩, by simp [outcomeProtocol], rfl⟩
                | ok address =>
                    refine (Protocol.wp_ite ..).mpr ⟨fun hreq => ?_, fun _ => wp_sendError _ _ _ rfl⟩
                    exact wp_checkState_outcome req walletId wallet rfl fun _ _ _ =>
                      ⟨address, by simp [outcomeProtocol], hreq⟩
              · refine wp_checkState_outcome req walletId wallet rfl fun config' hconfig hconfirm => absurd ?_ hn
                simp [outcomeProtocol] at hconfig
                rwa [← hconfig]

/-! ## What goes on -/

theorem outcome_next {e : Event GateOp.Ans} {x : Injected} {m : Standing} (h : outcome e = some (.next x m)) :
    e = ⟨.next x, m⟩ := by
  obtain ⟨c, r⟩ := e
  cases c <;> cases h
  rfl

/-- What the log of a request says when every answer was one that may come. -/
theorem GateReq.gated_of_steps {req : GateReq} {log : List (Event GateOp.Ans)} {rest : GateAsync Unit}
    (h : Steps (Middleware.walletMiddleware req) log rest) (htold : gateProtocol.Told ⟨some req, .entered⟩ log) :
    req.Gated log rest := by
  have hany (t : List (Event GateOp.Ans)) : (outcomeProtocol req).Told [] t :=
    (outcomeProtocol req).told_of_may (fun _ _ _ => trivial) [] t
  have hwp := (outcomeProtocol req).wp_steps h (wp_outcome req) (hany log)
  rw [outcome_after, List.nil_append] at hwp
  refine ⟨?_, fun hn => ?_, fun hgranted hend => ?_, fun x m hx => ?_⟩
  · cases rest with
    | ret a => exact le_of_eq hwp
    | throw e => simp [hwp.1]
    | op c k => simp [hwp.1.1]
  · cases rest with
    | ret a => exact absurd trivial hn
    | throw e => exact absurd trivial hn
    | op c k => exact hwp.1.1
  · cases rest with
    | ret a => exact hwp
    | throw e =>
        obtain ⟨-, e, he, hfailed⟩ := hwp
        rw [hgranted e he] at hfailed
        cases hfailed
    | op c k => exact hend.elim
  · obtain ⟨e, he, hout⟩ := List.mem_filterMap.mp hx
    obtain rfl := outcome_next hout
    obtain ⟨t, u, rfl⟩ := List.append_of_mem he
    have hallows := (outcomeProtocol req).wp_allows h (wp_outcome req) (hany t)
    rw [outcome_after] at hallows
    -- nothing is asked after `next`
    obtain rfl : u = [] := by
      cases u with
      | nil => rfl
      | cons e' u =>
          rw [show t ++ (⟨.next x, m⟩ : Event GateOp.Ans) :: e' :: u = (t ++ [⟨.next x, m⟩]) ++ e' :: u by simp] at h
          have hlate := ((outcomeProtocol req).wp_allows h (wp_outcome req) (hany _)).1
          rw [outcome_after] at hlate
          simp [outcomes, outcome] at hlate
    obtain ⟨hbefore, hmay, -⟩ := (gateProtocol.told_append ..).mp htold
    have hgate : (gateProtocol.after ⟨some req, .entered⟩ t).gate = some req :=
      gateProtocol.after_tag GateGhost.gate (fun _ _ => rfl) (fun _ _ _ => rfl) _ t
    have hfound := gateProtocol.wp_allows h (wp_walletMiddleware req) hbefore
    obtain ⟨hregistered, hpass⟩ := hmay req hgate
    refine ⟨?_, (hallows.2 x rfl).snoc (by simp), hregistered, hpass⟩
    generalize gateProtocol.after ⟨some req, .entered⟩ t = q at hfound hgate
    cases hfound with
    | next hid hseen =>
        cases hgate
        exact hid

/-- As long as the wallets that requests wait for are spared, the middleware ends each request once, and lets it go
on only with the wallet that is registered under its id and passes. -/
theorem gated_of_spared {s₀ : Gate} {S : Gateway} (h : Gateway.Run GateOk s₀ S) : S.Gated := by
  obtain ⟨g, hg, -, -⟩ := gate_guarded.reach (fun _ => .of_none rfl) h
  intro p hp req hreq
  obtain ⟨i, hi, rfl⟩ := List.mem_iff_getElem.mp hp
  have hsteps := h.steps (List.getElem?_eq_getElem hi)
  have htold := hg.told i _ (List.getElem?_eq_getElem hi)
  rw [hreq] at hsteps htold
  exact GateReq.gated_of_steps hsteps htold

/-! ## Concrete runs -/

theorem Gateway.run_of_exec {ok : Gateway → GateStep → Prop} [∀ S l, Decidable (ok S l)] {steps : List GateStep}
    {s₀ : Gate} {p : Gateway → Prop} [DecidablePred p]
    (h : (Sys.exec gateway GateRequest.handle ok steps ⟨s₀, []⟩).any (fun S => p S) = true) :
    ∃ S, Gateway.Run ok s₀ S ∧ p S := by
  obtain ⟨S, hS, hp⟩ := (Option.any_eq_true _ _).mp h
  exact ⟨S, Reach.start.exec hS, of_decide_eq_true hp⟩

/-- A service without wallets that confirms the first addresses. -/
def confirming : Gate where
  server := { config := some { network := "mainnet", confirmFirstAddress := true } }

/-- The answers when every call succeeds and the first address of every wallet is `"address"`. -/
def GateOp.granted : (c : GateOp) → c.Ans
  | .server c => c.granted (spending "" 0)
  | .getAddressAtIndex .. => .ok "address"
  | .state _ => .CLOSED
  | .hsmKeyName _ => none
  | .sendError _ => ()
  | .next _ => ⟨none, .CLOSED⟩

def gateComes (req : GateRequest) : GateStep := .spawn req fun _ => GateOp.granted

def gateProceeds (i : Nat) : GateStep := .resume i fun _ => GateOp.granted

def becomes (wallet : WalletRef) (state : WalletState) : GateStep := .ext (.changed wallet state)

def asksBalance : GateReq where
  xWalletId := some "w"
  xFirstAddress := some "address"
  path := "/balance"

/-- A wallet is started and becomes ready; a request goes on, another one waits while the wallet is stopped. -/
def stoppedWhileAwaited : List GateStep :=
  [gateComes (.handler startsReadonly), gateProceeds 0, gateProceeds 0, becomes 0 .READY,
    gateComes (.gate asksBalance), gateProceeds 1, gateComes (.gate asksBalance),
    gateComes (.handler (.stop "w")), becomes 0 .CLOSED, gateProceeds 3, gateProceeds 2]

theorem stoppedWhileAwaited_outcomes :
    (Sys.exec gateway GateRequest.handle GateOk stoppedWhileAwaited ⟨confirming, []⟩).any (fun S =>
      S.procs.map (fun p => outcomes p.log) =
        [[], [.next ⟨0, "w", none⟩ ⟨some 0, .READY⟩], [.error ⟨"Wallet is not ready.", some 0, some ""⟩], []]) = true := by
  decide +kernel

theorem stoppedWhileAwaited_gated : ∃ S : Gateway, S.procs.map (fun p => outcomes p.log) =
      [[], [.next ⟨0, "w", none⟩ ⟨some 0, .READY⟩], [.error ⟨"Wallet is not ready.", some 0, some ""⟩], []] ∧
    S.Gated := by
  obtain ⟨S, hS, hp⟩ := Gateway.run_of_exec stoppedWhileAwaited_outcomes
  exact ⟨S, hp, gated_of_spared hS⟩

/-- Two starts of one id overlap; the wallet of the first is ready and replaced while a request waits. -/
def replacedWhileAwaited : List GateStep :=
  [gateComes (.handler startsReadonly), gateComes (.handler startsReadonly), gateProceeds 0, becomes 0 .READY,
    gateComes (.gate asksBalance), gateProceeds 1, gateProceeds 2]

theorem replacedWhileAwaited_outcomes :
    (Sys.exec gateway GateRequest.handle (fun _ _ => True) replacedWhileAwaited ⟨confirming, []⟩).any (fun S =>
      (∀ p ∈ S.procs, ∀ e ∈ p.log, GateGranted e = true) ∧
      ∃ p ∈ S.procs, p.req = .gate asksBalance ∧ outcomes p.log = [.next ⟨0, "w", none⟩ ⟨some 1, .READY⟩]) = true := by
  decide +kernel

/-- A request goes on with the wallet of the first start, when that of the second is registered. -/
theorem replaced_goes_on : ∃ S : Gateway, Gateway.Run (fun _ _ => True) confirming S ∧
    (∀ p ∈ S.procs, ∀ e ∈ p.log, GateGranted e = true) ∧ ¬ S.Gated := by
  obtain ⟨S, hS, hgranted, p, hp, hreq, hout⟩ := Gateway.run_of_exec replacedWhileAwaited_outcomes
  refine ⟨S, hS, hgranted, fun hgated => ?_⟩
  have hadmitted := (hgated p hp _ hreq).admitted ⟨0, "w", none⟩ ⟨some 1, .READY⟩ (by simp [hout])
  cases hadmitted.2.2.1

end WalletHeadless
