import WalletHeadless.Coop.Alone
import WalletHeadless.Server.World

/-!
# What the calls leave alone

* `picks_startDraft`, `picks_endDraft`, `picks_addPick`: the utxos picked for a flow;
* `performWallet_cases`: what `wallet-lib` does to the state, by the kind of its effect;
* `Server.Untouched`: the parts of the state that a call does not touch;
* `callOf_untouched`, `performOp_untouched`;
* `outside_cases`: what the outside does;
* `world_settled`: what a call is told it can be told again;
* `wp_await_alone`: `await` when nothing else runs.
-/

namespace WalletHeadless

open Coop Js Function

namespace Server

/-! ## Drafts -/

theorem picks_congr {s s' : Server} {i : Nat} (h : s'.drafts i = s.drafts i) : s'.picks i = s.picks i := by
  rw [picks, picks, h]

theorem startDraft_self (s : Server) (i : Nat) (w : WalletRef) :
    (s.startDraft i w).drafts i = some ⟨w, [], true⟩ := update_self _ _ _

theorem picks_startDraft (s : Server) (i : Nat) (w : WalletRef) : (s.startDraft i w).picks i = [] := by
  rw [picks, startDraft_self]
  rfl

theorem endDraft_self (s : Server) (i : Nat) :
    (s.endDraft i).drafts i = (s.drafts i).map fun d => { d with picking := false } := update_self _ _ _

theorem picks_endDraft (s : Server) (i : Nat) : (s.endDraft i).picks i = s.picks i := by
  rw [picks, endDraft_self, picks]
  cases s.drafts i <;> rfl

theorem addPick_self (s : Server) (i : Nat) (d : Draft) (x : Utxo) :
    (s.addPick i d x).drafts i = some { d with picks := x :: d.picks } := update_self _ _ _

theorem picks_addPick {s : Server} {i : Nat} {d : Draft} (hd : s.drafts i = some d) (x : Utxo) :
    (s.addPick i d x).picks i = x :: s.picks i := by
  rw [picks, addPick_self, picks, hd]
  rfl

theorem picks_addPick_ne {i j : Nat} (h : j ≠ i) (s : Server) (d : Draft) (x : Utxo) :
    (s.addPick i d x).picks j = s.picks j := picks_congr (update_of_ne h _ _)

/-! ## Calls -/

/-- What `wallet-lib` does to the shared state. -/
theorem performWallet_cases {s s' : Server} {i : Nat} {c : WalletCall} {w r : Except JsError c.Result}
    (h : s.performWallet i c w = some (r, s')) :
    s' = s ∨ s' = s.endDraft i ∨ (∃ v us, s' = s.markAll v us) ∨ (∃ v u, s' = s.unmark v u) ∨
      ∃ v b, (c = .start v ∨ c = .stop v) ∧ s' = s.setRunning v b := by
  cases c with
  | build v b =>
      cases w with
      | error e =>
          cases h
          exact .inr (.inl rfl)
      | ok st =>
          obtain ⟨-, he⟩ := Option.ite_none_right_eq_some.mp h
          cases he
          exact .inr (.inl rfl)
  | prepareTx v st =>
      cases w with
      | error e =>
          cases h
          exact .inr (.inl rfl)
      | ok tx =>
          obtain ⟨-, he⟩ := Option.ite_none_right_eq_some.mp h
          cases he
          exact .inr (.inl rfl)
  | updateOutputSelected v tx => cases w <;> cases h <;> [exact .inl rfl; exact .inr (.inr (.inl ⟨_, _, rfl⟩))]
  | addSend v proposal token value utxos changeAddress mark =>
      cases w with
      | error e =>
          cases h
          exact .inl rfl
      | ok us =>
          cases h
          cases mark with
          | true => exact .inr (.inr (.inl ⟨v, us, rfl⟩))
          | false => exact .inl rfl
  | markUtxoSelected v u mark ttl =>
      cases w with
      | error e =>
          cases h
          exact .inl rfl
      | ok a =>
          cases h
          cases mark with
          | true => exact .inr (.inr (.inl ⟨v, [u], rfl⟩))
          | false => exact .inr (.inr (.inr (.inl ⟨v, u, rfl⟩)))
  | runFromMining v tx =>
      cases h
      exact .inl rfl
  | start v =>
      cases w with
      | error e =>
          cases h
          exact .inl rfl
      | ok a =>
          cases h
          exact .inr (.inr (.inr (.inr ⟨v, true, .inl rfl, rfl⟩)))
  | stop v =>
      cases w with
      | error e =>
          cases h
          exact .inl rfl
      | ok a =>
          cases h
          exact .inr (.inr (.inr (.inr ⟨v, false, .inr rfl, rfl⟩)))

/-- The parts of the state that the call `c` does not touch. -/
structure Untouched (c : Op) (s s' : Server) : Prop where
  toggle : s'.SWAP_SERVICE_FEATURE_TOGGLE = s.SWAP_SERVICE_FEATURE_TOGGLE
  config : (∀ d, c ≠ .settings d) → s'.config = s.config
  settings : (∀ d, c ≠ .settings d) →
    s'.configs = s.configs ∧ s'.replaced = s.replaced ∧ s'.nextConfig = s.nextConfig
  hathorLib : (∀ d, c ≠ .settings d) → s'.hathorLib = s.hathorLib
  locks : (∀ d, c ≠ .lock d) → s'.locks = s.locks
  hsm : (∀ d, c ≠ .hsm d) →
    s'.connecting = s.connecting ∧ s'.connections = s.connections ∧ s'.disconnects = s.disconnects
  wallets : (∀ d, c ≠ .registry d) → s'.initializedWallets = s.initializedWallets
  registry : (∀ d, c ≠ .registry d) →
    s'.hsmWalletIds = s.hsmWalletIds ∧ s'.walletLoggers = s.walletLoggers ∧ s'.walletIndices = s.walletIndices
  proposals : (∀ d, c ≠ .proposals d) →
    s'.walletListenedProposals = s.walletListenedProposals ∧ s'.proposalMaps = s.proposalMaps
  objects : (∀ d, c ≠ .registry d) → (∀ v, c ≠ .wallet (.start v) ∧ c ≠ .wallet (.stop v)) →
    s'.objects = s.objects
  utxos : (∀ d, c ≠ .wallet d) → s'.selected = s.selected ∧ s'.drafts = s.drafts
  replies : (∀ reply, c ≠ .send reply) → s'.replies = s.replies

namespace Untouched

variable {s : Server}

theorem refl (c : Op) : Untouched c s s where
  toggle := rfl
  config _ := rfl
  settings _ := ⟨rfl, rfl, rfl⟩
  hathorLib _ := rfl
  locks _ := rfl
  hsm _ := ⟨rfl, rfl, rfl⟩
  wallets _ := rfl
  registry _ := ⟨rfl, rfl, rfl⟩
  proposals _ := ⟨rfl, rfl⟩
  objects _ _ := rfl
  utxos _ := ⟨rfl, rfl⟩
  replies _ := rfl

theorem of_lock (c : LockCall) (L : Locks) : Untouched (.lock c) s { s with locks := L } :=
  { refl (.lock c) with locks := fun h => absurd rfl (h c) }

theorem of_registry (c : RegistryCall) (initializedWallets : Js.Map String WalletRef)
    (walletIndices : Js.Map String Nat) (nextIndex : Nat) (hsmWalletIds : Js.Map String String)
    (walletLoggers : Js.Map String Nat) (objects : List HathorWallet) :
    Untouched (.registry c) s { s with
      initializedWallets := initializedWallets, walletIndices := walletIndices, nextIndex := nextIndex,
      hsmWalletIds := hsmWalletIds, walletLoggers := walletLoggers, objects := objects } :=
  { refl (.registry c) with
    wallets := fun h => absurd rfl (h c)
    registry := fun h => absurd rfl (h c)
    objects := fun h => absurd rfl (h c) }

theorem of_settings (c : SettingsCall) (started : Bool) (config : Option Config) (nextConfig : Nat)
    (configs replaced : List (Nat × Config)) (hathorLib : LibCell → Option String) :
    Untouched (.settings c) s { s with
      started := started, config := config, nextConfig := nextConfig, configs := configs, replaced := replaced,
      hathorLib := hathorLib } :=
  { refl (.settings c) with
    config := fun h => absurd rfl (h c)
    settings := fun h => absurd rfl (h c)
    hathorLib := fun h => absurd rfl (h c) }

theorem of_proposals (c : ProposalsCall) (walletListenedProposals : Js.Map String ProposalsRef)
    (proposalMaps : List (Js.Map String ListenedProposal)) :
    Untouched (.proposals c) s { s with
      walletListenedProposals := walletListenedProposals, proposalMaps := proposalMaps } :=
  { refl (.proposals c) with proposals := fun h => absurd rfl (h c) }

theorem of_utxos (c : WalletCall) (selected : List (WalletRef × Utxo)) (drafts : Nat → Option Draft)
    (mining : List Mined) :
    Untouched (.wallet c) s { s with selected := selected, drafts := drafts, mining := mining } :=
  { refl (.wallet c) with utxos := fun h => absurd rfl (h c) }

theorem of_running {c : WalletCall} {v : WalletRef} (hc : c = .start v ∨ c = .stop v) (b : Bool) :
    Untouched (.wallet c) s (s.setRunning v b) := by
  refine { refl (.wallet c) with objects := fun _ h => ?_ }
  obtain rfl | rfl := hc
  · exact absurd rfl (h v).1
  · exact absurd rfl (h v).2

theorem of_hsm (c : HsmCall) (connecting connections : List Nat) (disconnects : List Disconnect) :
    Untouched (.hsm c) s { s with
      connecting := connecting, connections := connections, disconnects := disconnects } :=
  { refl (.hsm c) with hsm := fun h => absurd rfl (h c) }

end Untouched

theorem callOf_untouched (i : Nat) (c : Op) (s : Server) : Untouched c s (s.callOf i c) := by
  cases c with
  | wallet c => cases c <;> exact .of_utxos _ _ _ _
  | hsm c => cases c <;> exact .of_hsm _ _ _ _
  | sleep ms => exact { Untouched.refl (s := s) (.sleep ms) with }
  | _ => exact .refl _

theorem performRegistry_untouched (s : Server) (i : Nat) (c : RegistryCall) (w : c.Result) :
    Untouched (.registry c) s (s.performRegistry i c w).2 := by
  cases c with
  | newWallet walletId walletConfig config => cases w <;> exact .of_registry _ _ _ _ _ _ _
  | _ => exact .of_registry _ _ _ _ _ _ _

theorem performSettings_untouched (s : Server) (i : Nat) (c : SettingsCall) (w : c.Result) :
    Untouched (.settings c) s (s.performSettings i c w).2 := by
  cases c with
  | importConfig => cases w <;> exact .of_settings _ _ _ _ _ _ _
  | setLib cell value => cases w <;> exact .of_settings _ _ _ _ _ _ _
  | setConfig config => cases config <;> exact .of_settings _ _ _ _ _ _ _
  | _ => exact .of_settings _ _ _ _ _ _ _

theorem performProposals_untouched (s : Server) (i : Nat) (c : ProposalsCall) :
    Untouched (.proposals c) s (s.performProposals i c).2 := by
  cases c with
  | addProposal walletId proposalId password =>
      show Untouched _ s (s.addListenedProposal i walletId proposalId password)
      unfold addListenedProposal
      split <;> exact .of_proposals _ _ _
  | removeProposal walletId proposalId =>
      show Untouched _ s (s.removeListenedProposal walletId proposalId)
      unfold removeListenedProposal
      split
      · exact .of_proposals _ _ _
      · exact .refl _
  | _ => exact .of_proposals _ _ _

theorem performWallet_untouched {s s' : Server} {i : Nat} {c : WalletCall} {w r : Except JsError c.Result}
    (h : s.performWallet i c w = some (r, s')) : Untouched (.wallet c) s s' := by
  obtain rfl | rfl | ⟨v, us, rfl⟩ | ⟨v, u, rfl⟩ | ⟨v, b, hc, rfl⟩ := performWallet_cases h
  · exact .refl _
  · exact .of_utxos _ _ _ _
  · exact .of_utxos _ _ _ _
  · exact .of_utxos _ _ _ _
  · exact .of_running hc b

theorem performHsm_untouched (s : Server) (i : Nat) (c : HsmCall) (w : Except JsError Unit) :
    Untouched (.hsm c) s (s.performHsm i c w).2 := by
  cases c <;> cases w <;> exact .of_hsm _ _ _ _

theorem performOp_untouched {s s' : Server} {i : Nat} {c : Op} {w r : c.Ans}
    (h : s.performOp i c w = some (r, s')) : Untouched c s s' := by
  cases c with
  | lock c =>
      cases h
      exact .of_lock c _
  | registry c =>
      have he : (s.performRegistry i c w).2 = s' := congrArg Prod.snd (Option.some.inj h)
      rw [← he]
      exact performRegistry_untouched s i c w
  | settings c =>
      have he : (s.performSettings i c w).2 = s' := congrArg Prod.snd (Option.some.inj h)
      rw [← he]
      exact performSettings_untouched s i c w
  | proposals c =>
      have he : (s.performProposals i c).2 = s' := congrArg Prod.snd (Option.some.inj h)
      rw [← he]
      exact performProposals_untouched s i c
  | wallet c => exact performWallet_untouched h
  | hsm c =>
      have he : (s.performHsm i c w).2 = s' := congrArg Prod.snd (Option.some.inj h)
      rw [← he]
      exact performHsm_untouched s i c w
  | lib c =>
      obtain ⟨-, he⟩ := Option.ite_none_right_eq_some.mp h
      cases he
      exact .refl _
  | sleep ms =>
      obtain ⟨-, he⟩ := Option.ite_none_right_eq_some.mp h
      cases he
      exact .refl _
  | tick =>
      cases h
      exact .refl _
  | send reply =>
      cases h
      exact { Untouched.refl (s := s) (.send reply) with replies := fun h => absurd rfl (h reply) }

/-- What the outside does: to the locks, or to the utxos. -/
theorem outside_cases {s s' : Server} {e : Outside} (h : s.outside e = some s') :
    (∃ d, e = .advance d ∧ s' = { s with locks := s.locks.advance d }) ∨
    (∃ t L, e = .fire t ∧ s.locks.fire t = some L ∧ s' = { s with locks := L }) ∨
    (∃ i u d, e = .pick i u ∧ s.drafts i = some d ∧ d.picking = true ∧ (d.wallet, u) ∉ s.selected ∧
      s' = s.addPick i d u) ∨
    (∃ w u, e = .mark w u ∧ s' = s.markAll w [u]) ∨
    ∃ w u, e = .unmark w u ∧ s' = s.unmark w u := by
  cases e with
  | advance d =>
      cases h
      exact .inl ⟨d, rfl, rfl⟩
  | fire t =>
      obtain ⟨L, hL, rfl⟩ := Option.map_eq_some_iff.mp h
      exact .inr (.inl ⟨t, L, rfl, hL, rfl⟩)
  | pick i u =>
      change s.pick i u = some s' at h
      unfold pick at h
      split at h
      next d hd =>
        obtain ⟨⟨hp, hu⟩, he⟩ := Option.ite_none_right_eq_some.mp h
        cases he
        exact .inr (.inr (.inl ⟨i, u, d, rfl, hd, hp, hu, rfl⟩))
      next => cases h
  | mark w u =>
      cases h
      exact .inr (.inr (.inr (.inl ⟨w, u, rfl, rfl⟩)))
  | unmark w u =>
      cases h
      exact .inr (.inr (.inr (.inr ⟨w, u, rfl, rfl⟩)))

end Server

/-- What a call is told it can be told again. -/
theorem world_settled : world.Settled := by
  intro i c w r s s' h
  cases c with
  | registry c =>
      cases c with
      | newWallet walletId walletConfig config => cases w <;> cases h <;> rfl
      | _ => cases h; rfl
  | settings c =>
      cases c with
      | importConfig => cases w <;> cases h <;> rfl
      | setLib cell value => cases w <;> cases h <;> rfl
      | setConfig config => cases config <;> cases h <;> rfl
      | _ => cases h; rfl
  | wallet c =>
      cases c with
      | build v b =>
          cases w with
          | error e => cases h; rfl
          | ok st =>
              obtain ⟨hb, he⟩ := Option.ite_none_right_eq_some.mp h
              cases he
              exact if_pos hb
      | prepareTx v st =>
          cases w with
          | error e => cases h; rfl
          | ok tx =>
              obtain ⟨hb, he⟩ := Option.ite_none_right_eq_some.mp h
              cases he
              exact if_pos hb
      | _ => cases w <;> cases h <;> rfl
  | hsm c => cases c <;> cases w <;> cases h <;> rfl
  | lib c =>
      obtain ⟨hb, he⟩ := Option.ite_none_right_eq_some.mp h
      cases he
      exact if_pos hb
  | sleep ms =>
      obtain ⟨hb, he⟩ := Option.ite_none_right_eq_some.mp h
      cases he
      exact if_pos hb
  | tick => cases h; rfl
  | send reply => cases h; rfl
  | lock c => exact h
  | proposals c => exact h

/-- `await p` in terms of `p`, when nothing else runs. -/
theorem wp_await_alone {α : Type} {p : Async α} {i : Nat} {s : Server} {P : α → Server → Prop}
    {fail : JsError → Server → Prop} (h : (world.alone i).wp p s P fail) : (world.alone i).wp (await p) s P fail := by
  have htick (post : Unit → Server → Prop) (s : Server) (hs : post () s) : (world.alone i).wp tick s post fail :=
    World.alone_ask fun r s' hr => by cases hr; exact hs
  unfold await
  rw [Protocol.wp_bind, Protocol.wp_tryCatch]
  refine Protocol.wp_mono _ h (fun a s hs => ?_) fun e s hs => ?_
  · exact (Protocol.wp_bind ..).mpr (htick _ s hs)
  · exact (Protocol.wp_bind ..).mpr (htick _ s hs)

end WalletHeadless
