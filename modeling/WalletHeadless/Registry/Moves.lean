import WalletHeadless.Coop.Ghost
import WalletHeadless.Registry.Protocol
import WalletHeadless.Server.Frame

/-!
# What the calls do to the registry

* `Server.SameWallets`: the wallets under their ids stay, and what they were created with;
* `sameWallets_of_idle`, `sameWallets_callOf`, `sameWallets_outside`: where this is so;
* `RegistryGuarded`, `RegistryGuarded.reach`: an invariant of the registry in every state reached by steps whose
  calls meet a condition.
-/

namespace WalletHeadless

open Coop Js Function

/-- The flow that created a wallet. -/
def Server.creator (s : Server) (w : WalletRef) : Option Nat := (s.objects[w]?).map HathorWallet.creator

/-- The configuration object that a wallet was started with. -/
def Server.configObject (s : Server) (w : WalletRef) : Option Nat := (s.objects[w]?).map HathorWallet.configObject

/-- The wallets under their ids stay, and what all wallets were created with. -/
structure Server.SameWallets (s s' : Server) : Prop where
  registered : s'.initializedWallets = s.initializedWallets
  length : s'.objects.length = s.objects.length
  creator : ∀ w, s'.creator w = s.creator w
  configObject : ∀ w, s'.configObject w = s.configObject w

namespace Server

variable {s s' : Server}

theorem SameWallets.of_eq (h : s'.initializedWallets = s.initializedWallets)
    (ho : s'.objects = s.objects) : s.SameWallets s' where
  registered := h
  length := by rw [ho]
  creator w := by rw [Server.creator, Server.creator, ho]
  configObject w := by rw [Server.configObject, Server.configObject, ho]

/-- A wallet is changed, but not what it was created with. -/
theorem SameWallets.modify (v : WalletRef) (f : HathorWallet → HathorWallet) (hf : ∀ o, (f o).creator = o.creator)
    (hf' : ∀ o, (f o).configObject = o.configObject) : s.SameWallets { s with objects := s.objects.modify v f } where
  registered := rfl
  length := List.length_modify _ _ _
  creator w := by
    simp only [Server.creator, List.getElem?_modify]
    cases s.objects[w]? with
    | none => rfl
    | some o =>
        split
        · exact congrArg some (hf o)
        · rfl
  configObject w := by
    simp only [Server.configObject, List.getElem?_modify]
    cases s.objects[w]? with
    | none => rfl
    | some o =>
        split
        · exact congrArg some (hf' o)
        · rfl

theorem sameWallets_of_idle {i : Nat} {c : Op} (hc : RegistryIdle c) {w r : c.Ans}
    (hp : s.performOp i c w = some (r, s')) : s.SameWallets s' := by
  have hu := Server.performOp_untouched hp
  cases c with
  | registry c =>
      have he : (s.performRegistry i c w).2 = s' := congrArg Prod.snd (Option.some.inj hp)
      rw [← he]
      cases c with
      | newWallet _ _ _ | setWallet _ _ | setHsmWallet _ _ | deleteWallet _ | walletIds => exact hc.elim
      | setExternalTxSigningMethod v method => exact .modify v _ (fun _ => rfl) fun _ => rfl
      | _ => exact .of_eq rfl rfl
  | wallet c =>
      obtain rfl | rfl | ⟨v, us, rfl⟩ | ⟨v, u, rfl⟩ | ⟨v, b, -, rfl⟩ := performWallet_cases hp
      · exact .of_eq rfl rfl
      · exact .of_eq rfl rfl
      · exact .of_eq rfl rfl
      · exact .of_eq rfl rfl
      · exact .modify v _ (fun _ => rfl) fun _ => rfl
  | _ => exact .of_eq (hu.wallets (by simp)) (hu.objects (by simp) (by simp))

theorem sameWallets_callOf (i : Nat) (c : Op) : s.SameWallets (s.callOf i c) := by
  cases c with
  | wallet c => cases c <;> exact .of_eq rfl rfl
  | hsm c => cases c <;> exact .of_eq rfl rfl
  | _ => exact .of_eq rfl rfl

theorem sameWallets_outside {e : Outside} (h : s.outside e = some s') : s.SameWallets s' := by
  obtain ⟨d, -, rfl⟩ | ⟨t, L, -, -, rfl⟩ | ⟨i, u, d, -, -, -, -, rfl⟩ | ⟨w, u, -, rfl⟩ | ⟨w, u, -, rfl⟩ :=
    outside_cases h <;> exact .of_eq rfl rfl

/-- The HSM keys change only when one is set or deleted. -/
theorem hsmWalletIds_of_idle {i : Nat} {c : Op} (hc : RegistryIdle c)
    (hd : ∀ walletId, c ≠ .registry (.deleteHsmWallet walletId)) {w r : c.Ans}
    (hp : s.performOp i c w = some (r, s')) : s'.hsmWalletIds = s.hsmWalletIds := by
  cases c with
  | registry c =>
      have he : (s.performRegistry i c w).2 = s' := congrArg Prod.snd (Option.some.inj hp)
      rw [← he]
      cases c with
      | newWallet _ _ _ | setWallet _ _ | setHsmWallet _ _ | deleteWallet _ | walletIds => exact hc.elim
      | deleteHsmWallet walletId => exact absurd rfl (hd walletId)
      | _ => rfl
  | _ => exact ((Server.performOp_untouched hp).registry (by simp)).1

theorem hsmWalletIds_callOf (i : Nat) (c : Op) : (s.callOf i c).hsmWalletIds = s.hsmWalletIds := by
  cases c with
  | wallet c => cases c <;> rfl
  | hsm c => cases c <;> rfl
  | _ => rfl

theorem hsmWalletIds_outside {e : Outside} (h : s.outside e = some s') : s'.hsmWalletIds = s.hsmWalletIds := by
  obtain ⟨d, -, rfl⟩ | ⟨t, L, -, -, rfl⟩ | ⟨i, u, d, -, -, -, -, rfl⟩ | ⟨w, u, -, rfl⟩ | ⟨w, u, -, rfl⟩ :=
    outside_cases h <;> rfl

theorem getElem?_newWallet (s : Server) (o : HathorWallet) (w : Nat) :
    (s.objects ++ [o])[w]? = if w = s.objects.length then some o else s.objects[w]? := by
  rcases lt_trichotomy w s.objects.length with hw | rfl | hw
  · rw [List.getElem?_append_left hw, if_neg hw.ne]
  · simp
  · rw [List.getElem?_eq_none (by simp; omega), if_neg hw.ne', List.getElem?_eq_none hw.le]

/-- A wallet has been created. -/
theorem creator_newWallet (s : Server) (o : HathorWallet) (w : WalletRef) :
    Server.creator { s with objects := s.objects ++ [o] } w =
      if w = s.objects.length then some o.creator else s.creator w := by
  simp only [Server.creator, getElem?_newWallet]
  split <;> rfl

theorem configObject_newWallet (s : Server) (o : HathorWallet) (w : WalletRef) :
    Server.configObject { s with objects := s.objects ++ [o] } w =
      if w = s.objects.length then some o.configObject else s.configObject w := by
  simp only [Server.configObject, getElem?_newWallet]
  split <;> rfl

end Server

theorem RegistryPhase.Rests.ne_named {p : RegistryPhase} (h : p.Rests) (walletId : String) (w : WalletRef) :
    p ≠ .named walletId w := by
  rintro rfl
  exact h

/-! ## Invariants of the registry -/

/-- The requests of the domain. -/
def RegistryStep (_ : Service) : Step → Prop
  | .spawn req _ => req.ManagesRegistry
  | _ => True

instance (S : Service) (l : Step) : Decidable (RegistryStep S l) :=
  match l with
  | .spawn req _ => inferInstanceAs (Decidable req.ManagesRegistry)
  | .resume _ _ | .ext _ => isTrue trivial

abbrev RegistryCoherent (S : Service) (g : Nat → RegistryGhost) : Prop :=
  Coherent world registryProtocol RegistryGhost.enter {} RegistryGhost.Final S g

theorem RegistryGhost.next_req (q : RegistryGhost) (t : Log) : (registryProtocol.after q t).req = q.req :=
  registryProtocol.after_tag RegistryGhost.req (fun _ _ => rfl) (fun _ _ _ => rfl) q t

theorem RegistryCoherent.ghost {S : Service} {g : Nat → RegistryGhost} (hg : RegistryCoherent S g) {i : Nat}
    {p : Proc Op.Ans JsError Unit Request} (hp : S.procs[i]? = some p) :
    g i = registryProtocol.after (RegistryGhost.enter p.req) p.log := by
  rw [hg.traced i p hp]
  cases p.rest <;> rfl

theorem RegistryCoherent.req {S : Service} {g : Nat → RegistryGhost} (hg : RegistryCoherent S g) {i : Nat}
    {p : Proc Op.Ans JsError Unit Request} (hp : S.procs[i]? = some p) : (g i).req = some p.req := by
  rw [hg.ghost hp, RegistryGhost.next_req]
  rfl

theorem RegistryCoherent.reload {S : Service} {g : Nat → RegistryGhost} (hg : RegistryCoherent S g) {i : Nat}
    {p : Proc Op.Ans JsError Unit Request} (hp : S.procs[i]? = some p) : (g i).reload = Reload.of p.log := by
  rw [hg.ghost hp, RegistryGhost.after_reload]
  rfl

/-- The ghost states are those of the system, but for flow `i`, which has a turn. -/
structure RegistryAgrees (S : Service) (g : Nat → RegistryGhost) (i : Nat) : Prop where
  req : ∀ (j : Nat) (p : Proc Op.Ans JsError Unit Request), S.procs[j]? = some p → (g j).req = some p.req
  reload : ∀ (j : Nat) (p : Proc Op.Ans JsError Unit Request), j ≠ i → S.procs[j]? = some p →
    (g j).reload = Reload.of p.log
  unborn : ∀ j, j ≠ i → S.procs[j]? = none → g j = {}

/-- What has to be shown for an invariant of the registry to hold while all calls meet `G`. -/
structure RegistryGuarded (G : Service → Nat → (c : Op) → c.Ans → Server → Prop)
    (Inv : Server → (Nat → RegistryGhost) → Prop) : Prop where
  spawn : ∀ s g i req, Inv s g → g i = {} → Inv s (update g i (RegistryGhost.enter req))
  call : ∀ s g i c, Inv s g → Inv (s.callOf i c) g
  perform : ∀ S s g i c w r s', RegistryAgrees S g i → G S i c w s → Inv s g →
    (∀ j, j ≠ i → (g j).phase.Rests) → (g i).Allows c → s.performOp i c w = some (r, s') →
    Inv s' (update g i ((g i).next c r))
  ext : ∀ s g e s', Inv s g → s.outside e = some s' → Inv s' g

theorem RegistryGhost.Allows.rests {q : RegistryGhost} {c : Op} (h : q.Allows c) (hw : c.waits = true) :
    q.phase.Rests := by
  cases h with
  | quiet hc hw' => rw [hw'] at hw; cases hw
  | idle hq hc => exact hq
  | importing hq => exact hq
  | _ => cases hw

namespace RegistryGuarded

variable {G : Service → Nat → (c : Op) → c.Ans → Server → Prop} {Inv : Server → (Nat → RegistryGhost) → Prop}

theorem guarded (h : RegistryGuarded G Inv) :
    Guarded world Request.handle registryProtocol RegistryGhost.enter {} (fun q => q.phase.Rests)
      RegistryGhost.Final (fun req q => q.req = some req) RegistryStep G Inv where
  spawn S g req w hg _ hI hok := ⟨h.spawn _ _ _ _ hI (hg.unborn _ le_rfl), registry_wp hok⟩
  call s g i c hI _ ha hw := by
    refine ⟨ha.rests hw, ?_⟩
    rw [show registryProtocol.call (g i) c = g i from rfl, update_eq_self]
    exact h.call s g i c hI
  perform S g₀ s g i q c w r s' hg hagree hof _ hG hI hr ha hc hp := by
    obtain rfl : q = g i := hc
    refine ⟨trivial, h.perform S s g i c w r s' ⟨fun j p hj => ?_, fun j p hij hj => ?_, fun j hij hj => ?_⟩ hG hI hr ha hp⟩
    · by_cases hij : j = i
      · subst hij
        exact hof p hj
      · rw [hagree j hij]
        exact RegistryCoherent.req hg hj
    · rw [hagree j hij]
      exact RegistryCoherent.reload hg hj
    · rw [hagree j hij]
      exact hg.unborn j (List.getElem?_eq_none_iff.mp hj)
  ext S g e s _ _ hI _ he := h.ext _ g e s hI he
  finish s g i hI _ hf := ⟨hf.1, by rw [show registryProtocol.finish (g i) = g i from rfl, update_eq_self]; exact hI⟩
  call_sync _ _ _ := rfl
  rests_fresh := trivial
  of_enter _ := rfl
  of_call _ _ _ hq := hq
  of_next _ _ _ _ hq := hq
  of_finish _ _ hq := hq

/-- In every state reached by steps whose calls meet `G` the invariant holds. -/
theorem reach [∀ S i c r s, Decidable (G S i c r s)] (h : RegistryGuarded G Inv) {s₀ : Server} {S : Service}
    (h₀ : Inv s₀ fun _ => {})
    (hS : Service.Run (fun S l => RegistryStep S l ∧ S.Meets world Request.handle G l) s₀ S) :
    ∃ g, RegistryCoherent S g ∧ (∀ j, (g j).phase.Rests) ∧ Inv S.state g :=
  h.guarded.reach h₀ hS

end RegistryGuarded

end WalletHeadless
