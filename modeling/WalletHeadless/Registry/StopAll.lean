import WalletHeadless.Coop.Alone
import WalletHeadless.Server.Frame
import WalletHeadless.Server.Requests
import WalletHeadless.Services.Lifecycle

/-!
# All wallets stop

* `Registries`: what a stop cleans;
* `stopEach`: `stopWallet` for one id after the other;
* `stopAllWallets_alone`, `stopEach_alone`: what the two leave when nothing else runs;
* `stopAll_same_iff`: when they leave the same.
-/

namespace WalletHeadless

open Coop Js
open Protocol (wp_bind wp_mono)

/-- What a stop cleans. -/
structure Registries where
  initializedWallets : Js.Map String WalletRef
  hsmWalletIds : Js.Map String String
  walletLoggers : Js.Map String Nat
  locks : Js.Map String Nat
  walletListenedProposals : Js.Map String ProposalsRef

def Server.registries (s : Server) : Registries :=
  ⟨s.initializedWallets, s.hsmWalletIds, s.walletLoggers, s.locks.wallets, s.walletListenedProposals⟩

/-- `stopWallet` for one id after the other. -/
def stopEach : List String → Async Unit
  | [] => pure ()
  | walletId :: walletIds => do
    await (stopWallet walletId)
    stopEach walletIds

namespace Registries

/-- Without the ids, but for their HSM keys and their locks. -/
def removed (R : Registries) (walletIds : List String) : Registries :=
  { R with
    initializedWallets := R.initializedWallets.deleteAll walletIds
    walletLoggers := R.walletLoggers.deleteAll walletIds
    walletListenedProposals := R.walletListenedProposals.deleteAll walletIds }

/-- Without the ids. -/
def stopped (R : Registries) (walletIds : List String) : Registries :=
  { R.removed walletIds with
    hsmWalletIds := R.hsmWalletIds.deleteAll walletIds
    locks := R.locks.deleteAll walletIds }

theorem removed_eq_stopped_iff (R : Registries) (walletIds : List String) :
    R.removed walletIds = R.stopped walletIds ↔
      ∀ walletId ∈ walletIds, R.hsmWalletIds.get walletId = none ∧ R.locks.get walletId = none := by
  have hfields : R.removed walletIds = R.stopped walletIds ↔
      R.hsmWalletIds.deleteAll walletIds = R.hsmWalletIds ∧ R.locks.deleteAll walletIds = R.locks := by
    simp only [removed, stopped, Registries.mk.injEq, true_and, and_true, eq_comm]
  rw [hfields, Js.Map.deleteAll_eq_self_iff, Js.Map.deleteAll_eq_self_iff]
  exact ⟨fun h walletId hid => ⟨h.1 walletId hid, h.2 walletId hid⟩, fun h =>
    ⟨fun walletId hid => (h walletId hid).1, fun walletId hid => (h walletId hid).2⟩⟩

end Registries

/-! ## What the calls leave -/

section
variable {i : Nat} {s s' : Server} {R : Registries}

theorem registries_callOf (c : Op) : (s.callOf i c).registries = s.registries := by
  cases c with
  | wallet c => cases c <;> rfl
  | hsm c => cases c <;> rfl
  | _ => rfl

/-- The calls of the loop that stops the wallets, and the turn of an `await`. -/
theorem registries_of_stopOp {c : Op} (hc : StopOp c ∨ c = .tick) {w r : c.Ans}
    (h : s.performOp i c w = some (r, s')) : s'.registries = s.registries := by
  have hu := Server.performOp_untouched h
  cases c with
  | registry c =>
      have he : (s.performRegistry i c w).2 = s' := congrArg Prod.snd (Option.some.inj h)
      rw [← he]
      cases c with
      | nextWallet index => rfl
      | _ => simp [StopOp] at hc
  | lock c => simp [StopOp] at hc
  | proposals c => simp [StopOp] at hc
  | _ =>
      obtain ⟨hhsm, hloggers, -⟩ := hu.registry (by simp)
      rw [Server.registries, Server.registries, hu.wallets (by simp), hhsm, hloggers, hu.locks (by simp),
        (hu.proposals (by simp)).1]

/-- Alone, such a call keeps the registries. -/
theorem stopOp_keeps {c : Op} (hc : StopOp c ∨ c = .tick) :
    (world.alone i).Keeps (fun s => s.registries = R) (Prog.ask c : Async c.Ans) :=
  World.alone_keeps (fun _ hs => (registries_callOf c).trans hs) fun _ _ _ hs h =>
    (registries_of_stopOp hc h).trans hs

theorem stopFrom_keeps (rounds index : Nat) : (world.alone i).Keeps (fun s => s.registries = R) (stopFrom rounds index) :=
  Protocol.keeps_of_uses (stopFrom_uses rounds index) fun _ hc => stopOp_keeps (.inl hc)

theorem walletStop_keeps (w : WalletRef) : (world.alone i).Keeps (fun s => s.registries = R) (walletStop w) :=
  Protocol.keeps_attempt (stopOp_keeps (.inl trivial))

theorem removeWallets_alone (walletIds : List String) (s : Server) :
    (world.alone i).wp (removeWallets walletIds) s (fun _ s' => s'.registries = s.registries.removed walletIds)
      fun _ _ => True := by
  induction walletIds generalizing s with
  | nil => exact rfl
  | cons walletId walletIds ih =>
      refine (wp_bind ..).mpr (World.alone_askNow rfl fun r s₁ h₁ => ?_)
      cases h₁
      refine (wp_bind ..).mpr (World.alone_askNow rfl fun r s₂ h₂ => ?_)
      cases h₂
      refine (wp_bind ..).mpr (wp_mono _ (wp_await_alone
        (P := fun _ s' => s'.registries = s.registries.removed [walletId]) (World.alone_askNow rfl fun r s₃ h₃ => ?_))
        (fun _ s₄ h₄ => ?_) fun _ _ h => h)
      · cases h₃
        rfl
      · refine wp_mono _ (ih s₄) (fun _ s' h => ?_) fun _ _ h => h
        rw [h, h₄]
        rfl

/-- `stopAllWallets`, when nothing else runs. -/
theorem stopAllWallets_alone (rounds : Nat) (s : Server) :
    (world.alone i).wp (stopAllWallets rounds) s
      (fun _ s' => s'.registries = s.registries.removed s.initializedWallets.keys) fun _ _ => True := by
  refine (wp_bind ..).mpr (wp_mono _ (stopFrom_keeps (R := s.registries) rounds 0 s rfl) (fun _ s₁ h₁ => ?_)
    fun _ _ _ => trivial)
  refine (wp_bind ..).mpr (World.alone_askNow rfl fun r s₂ h₂ => ?_)
  cases h₂
  refine wp_mono _ (removeWallets_alone _ s₁) (fun _ s' h => ?_) fun _ _ h => h
  have hids : s₁.initializedWallets = s.initializedWallets := congrArg Registries.initializedWallets h₁
  rw [h, h₁, hids]

/-- `stopWallet` of a registered id, when nothing else runs. -/
theorem stopWallet_alone {walletId : String} {w : WalletRef} (hw : s.initializedWallets.get walletId = some w) :
    (world.alone i).wp (stopWallet walletId) s (fun _ s' => s'.registries = s.registries.stopped [walletId])
      fun _ _ => True := by
  refine (wp_bind ..).mpr (World.alone_askNow rfl fun r s₁ h₁ => ?_)
  cases h₁
  rw [hw]
  refine (wp_bind ..).mpr (World.alone_askNow rfl fun r s₂ h₂ => ?_)
  cases h₂
  have hhsm : (world.alone i).wp (if s.hsmWalletIds.has walletId then deleteHsmWallet walletId else pure ()) s
      (fun _ s' => s'.registries = { s.registries with hsmWalletIds := s.hsmWalletIds.delete walletId })
      fun _ _ => True := by
    refine (Protocol.wp_ite ..).mpr ⟨fun _ => World.alone_askNow rfl fun r s₃ h₃ => ?_, fun hno => ?_⟩
    · cases h₃
      rfl
    · have hnone : s.hsmWalletIds.get walletId = none := Js.Map.has_eq_false.mp (by simpa using hno)
      show s.registries = _
      rw [Js.Map.delete_of_get_eq_none hnone]
      rfl
  refine (wp_bind ..).mpr (wp_mono _ hhsm (fun _ s₄ h₄ => ?_) fun _ _ h => h)
  refine (wp_bind ..).mpr (wp_mono _ (walletStop_keeps w s₄ h₄) (fun _ s₅ h₅ => ?_) fun _ _ _ => trivial)
  refine (wp_bind ..).mpr (World.alone_askNow rfl fun r s₆ h₆ => ?_)
  cases h₆
  refine (wp_bind ..).mpr (World.alone_askNow rfl fun r s₇ h₇ => ?_)
  cases h₇
  refine (wp_bind ..).mpr (World.alone_askNow rfl fun r s₈ h₈ => ?_)
  cases h₈
  refine wp_await_alone (World.alone_askNow rfl fun r s₉ h₉ => ?_)
  cases h₉
  show ({ s₅.registries with
    initializedWallets := s₅.registries.initializedWallets.delete walletId
    walletLoggers := s₅.registries.walletLoggers.delete walletId
    locks := s₅.registries.locks.delete walletId
    walletListenedProposals := s₅.registries.walletListenedProposals.delete walletId } : Registries) = _
  rw [h₅]
  rfl

/-- `stopWallet` for each of some registered ids, when nothing else runs. -/
theorem stopEach_alone (walletIds : List String) (hnodup : walletIds.Nodup) (s : Server)
    (hids : ∀ walletId ∈ walletIds, ∃ w, s.initializedWallets.get walletId = some w) :
    (world.alone i).wp (stopEach walletIds) s (fun _ s' => s'.registries = s.registries.stopped walletIds)
      fun _ _ => True := by
  induction walletIds generalizing s with
  | nil => exact rfl
  | cons walletId walletIds ih =>
      obtain ⟨w, hw⟩ := hids walletId (by simp)
      obtain ⟨hnot, hnodup⟩ := List.nodup_cons.mp hnodup
      refine (wp_bind ..).mpr (wp_mono _ (wp_await_alone (stopWallet_alone hw)) (fun _ s₁ h₁ => ?_) fun _ _ h => h)
      have hget (id : String) : s₁.initializedWallets.get id = if id = walletId then none else s.initializedWallets.get id := by
        have hwallets : s₁.initializedWallets = s.initializedWallets.delete walletId :=
          congrArg Registries.initializedWallets h₁
        rw [hwallets, Js.Map.get_delete]
      refine wp_mono _ (ih hnodup s₁ fun id hid => ?_) (fun _ s' h => ?_) fun _ _ h => h
      · rw [hget, if_neg (by rintro rfl; exact hnot hid)]
        exact hids id (by simp [hid])
      · rw [h, h₁]
        rfl

end

/-! ## The runs end -/

/-- Every call is granted. -/
def granted : (c : Op) → c.Ans := Op.granted (spending "" 0)

/-- Flow `i` returns, alone from `s`, when every call is granted. -/
def Finishes {α : Type} (i : Nat) (p : Async α) (s : Server) : Prop := ∃ a s', world.Returns i granted p s a s'

section
variable {i : Nat} {α β : Type} {s s' : Server}

theorem finishes_bind {p : Async α} {f : α → Async β} {a : α} (hp : world.Returns i granted p s a s')
    (hf : Finishes i (f a) s') : Finishes i (p >>= f) s := by
  obtain ⟨b, s'', h⟩ := hf
  exact ⟨b, s'', returns_bind hp h⟩

theorem returns_await {p : Async α} {a : α} (hp : world.Returns i granted p s a s') :
    world.Returns i granted (await p) s a s' :=
  returns_bind (returns_catches hp) (returns_bind (returns_ask rfl) (returns_ret a))

theorem countP_lt_countP {A : Type} {p q : A → Bool} {l : List A} (h : ∀ x ∈ l, p x = true → q x = true) {e : A}
    (he : e ∈ l) (hp : p e = false) (hq : q e = true) : l.countP p < l.countP q := by
  obtain ⟨u, v, rfl⟩ := List.append_of_mem he
  have hu : u.countP p ≤ u.countP q := List.countP_mono_left fun x hx => h x (by simp [hx])
  have hv : v.countP p ≤ v.countP q := List.countP_mono_left fun x hx => h x (by simp [hx])
  rw [List.countP_append, List.countP_append, List.countP_cons_of_neg (by simp [hp]), List.countP_cons_of_pos hq]
  omega

/-- The loop ends: every round leaves fewer wallets ahead. -/
theorem stopFrom_finishes (rounds index : Nat) (s : Server)
    (h : (s.initializedWallets.entries.countP fun e => index ≤ s.walletIndex e.1) < rounds) :
    Finishes i (stopFrom rounds index) s := by
  induction rounds generalizing index s with
  | zero => exact absurd h (by simp)
  | succ rounds ih =>
      have hnext : world.Returns i granted (nextWallet index) s (s.walletFrom index) s := returns_ask rfl
      refine finishes_bind hnext ?_
      cases hfrom : s.walletFrom index with
      | none => exact ⟨(), s, returns_ret ()⟩
      | some found =>
          obtain ⟨w, next⟩ := found
          obtain ⟨e, he, hfound⟩ := Option.map_eq_some_iff.mp hfrom
          cases hfound
          have hindex : index ≤ s.walletIndex e.1 := by simpa using List.find?_some he
          have hstop : world.Returns i granted (walletStop e.2) s () (s.setRunning e.2 false) :=
            returns_attempt (returns_ask rfl)
          have hremove : world.Returns i granted (removeAllListeners e.2) (s.setRunning e.2 false) ()
              (s.setRunning e.2 false) := returns_attempt (returns_ask rfl)
          refine finishes_bind hstop (finishes_bind hremove (ih _ _ ?_))
          refine Nat.lt_of_lt_of_le (countP_lt_countP (fun x _ hx => ?_) (List.mem_of_find?_eq_some he) ?_ ?_)
            (Nat.le_of_lt_succ h)
          · have hx : s.walletIndex e.1 + 1 ≤ s.walletIndex x.1 := of_decide_eq_true hx
            exact decide_eq_true (by omega)
          · exact decide_eq_false (Nat.not_succ_le_self (s.walletIndex e.1))
          · exact decide_eq_true hindex

theorem removeWallets_finishes (walletIds : List String) (s : Server) : Finishes i (removeWallets walletIds) s := by
  induction walletIds generalizing s with
  | nil => exact ⟨(), s, returns_ret ()⟩
  | cons walletId walletIds ih =>
      exact finishes_bind (returns_ask rfl) (finishes_bind (returns_ask rfl)
        (finishes_bind (returns_await (returns_ask rfl)) (ih _)))

theorem stopAllWallets_finishes {rounds : Nat} (h : s.initializedWallets.keys.length < rounds) :
    Finishes i (stopAllWallets rounds) s := by
  have hcount : (s.initializedWallets.entries.countP fun e => 0 ≤ s.walletIndex e.1) < rounds := by
    refine Nat.lt_of_le_of_lt List.countP_le_length ?_
    rwa [Js.Map.keys, List.length_map] at h
  obtain ⟨a, s₁, h₁⟩ := stopFrom_finishes (i := i) rounds 0 s hcount
  exact finishes_bind h₁ (finishes_bind (returns_ask rfl) (removeWallets_finishes _ _))

theorem stopWallet_finishes (walletId : String) (s : Server) : Finishes i (stopWallet walletId) s := by
  have hget : world.Returns i granted (getWallet walletId) s (s.initializedWallets.get walletId) s := returns_ask rfl
  refine finishes_bind hget ?_
  cases s.initializedWallets.get walletId with
  | none => exact ⟨(), s, returns_ret ()⟩
  | some w =>
      have hhas : world.Returns i granted (hasHsmWallet walletId) s (s.hsmWalletIds.has walletId) s := returns_ask rfl
      have hclean (s : Server) : Finishes i (do
          walletStop w
          deleteWallet walletId
          deleteLogger walletId
          lockDelete walletId
          await (removeAllWalletProposals walletId)) s :=
        finishes_bind (returns_attempt (returns_ask rfl)) (finishes_bind (returns_ask rfl)
          (finishes_bind (returns_ask rfl) (finishes_bind (returns_ask rfl) ⟨_, _, returns_await (returns_ask rfl)⟩)))
      refine finishes_bind hhas ?_
      cases s.hsmWalletIds.has walletId with
      | true => exact finishes_bind (returns_ask rfl) (hclean _)
      | false => exact finishes_bind (returns_ret ()) (hclean _)

theorem stopEach_finishes (walletIds : List String) (s : Server) : Finishes i (stopEach walletIds) s := by
  induction walletIds generalizing s with
  | nil => exact ⟨(), s, returns_ret ()⟩
  | cons walletId walletIds ih =>
      obtain ⟨a, s₁, h₁⟩ := stopWallet_finishes (i := i) walletId s
      exact finishes_bind (returns_await h₁) (ih s₁)

theorem Finishes.ends {p : Async Unit} (h : Finishes i p s) : ∃ t s', world.Ends i p s t (.ok ()) s' := by
  obtain ⟨a, s', h⟩ := h
  obtain ⟨t, ht⟩ := h.ends world_settled
  exact ⟨t, s', ht⟩

end

/-- `stopAllWallets` and `stopWallet` for each registered id both end when all wallets stop, and they leave the same
registries exactly when no registered id has an HSM key or a lock. -/
theorem stopAll_same_iff (s : Server) (i j rounds : Nat) (hrounds : s.initializedWallets.keys.length < rounds) :
    (∃ t s', world.Ends i (stopAllWallets rounds) s t (.ok ()) s') ∧
    (∃ t s', world.Ends j (stopEach s.initializedWallets.keys) s t (.ok ()) s') ∧
    ∀ t₁ s₁ t₂ s₂, world.Ends i (stopAllWallets rounds) s t₁ (.ok ()) s₁ →
      world.Ends j (stopEach s.initializedWallets.keys) s t₂ (.ok ()) s₂ →
      (s₁.registries = s₂.registries ↔ ∀ walletId ∈ s.initializedWallets.keys,
        s.hsmWalletIds.has walletId = false ∧ s.locks.wallets.has walletId = false) := by
  refine ⟨(stopAllWallets_finishes hrounds).ends, (stopEach_finishes _ s).ends, fun t₁ s₁ t₂ s₂ h₁ h₂ => ?_⟩
  have hall : s₁.registries = s.registries.removed s.initializedWallets.keys := h₁.post (stopAllWallets_alone rounds s)
  have heach : s₂.registries = s.registries.stopped s.initializedWallets.keys :=
    h₂.post (stopEach_alone _ s.initializedWallets.nodup s fun _ hid => Js.Map.mem_keys.mp hid)
  rw [hall, heach, Registries.removed_eq_stopped_iff]
  simp only [Js.Map.has_eq_false]
  rfl

/-- A wallet that has no HSM key and has sent nothing. -/
theorem oneWallet_stopped_same : ∃ t₁ s₁ t₂ s₂, world.Ends 0 (stopAllWallets 2) (oneWallet none) t₁ (.ok ()) s₁ ∧
    world.Ends 0 (stopEach ["w"]) (oneWallet none) t₂ (.ok ()) s₂ ∧ s₁.registries = s₂.registries := by
  obtain ⟨⟨t₁, s₁, h₁⟩, ⟨t₂, s₂, h₂⟩, hsame⟩ := stopAll_same_iff (oneWallet none) 0 0 2 (by decide)
  exact ⟨t₁, s₁, t₂, s₂, h₁, h₂, (hsame t₁ s₁ t₂ s₂ h₁ h₂).mpr (by decide)⟩

/-- An HSM wallet. -/
def withKey : Server := { oneWallet (some (.hsm "key")) with hsmWalletIds := Js.Map.empty.set "w" "key" }

/-- A wallet that has sent a transaction. -/
def withLock : Server := { oneWallet none with locks := (({} : Locks).get "w").2 }

/-- `stopAllWallets` leaves the HSM key and the lock of a wallet, and `stopWallet` does not. -/
theorem stopAll_leaves :
    (∃ t₁ s₁ t₂ s₂, world.Ends 0 (stopAllWallets 2) withKey t₁ (.ok ()) s₁ ∧
      world.Ends 0 (stopEach withKey.initializedWallets.keys) withKey t₂ (.ok ()) s₂ ∧
      s₁.hsmWalletIds.get "w" = some "key" ∧ s₂.hsmWalletIds.get "w" = none) ∧
    ∃ t₁ s₁ t₂ s₂, world.Ends 0 (stopAllWallets 2) withLock t₁ (.ok ()) s₁ ∧
      world.Ends 0 (stopEach withLock.initializedWallets.keys) withLock t₂ (.ok ()) s₂ ∧
      s₁.locks.wallets.get "w" = some 0 ∧ s₂.locks.wallets.get "w" = none := by
  have hruns (s : Server) (hs : s.initializedWallets.keys.length < 2) :
      ∃ t₁ s₁ t₂ s₂, world.Ends 0 (stopAllWallets 2) s t₁ (.ok ()) s₁ ∧
        world.Ends 0 (stopEach s.initializedWallets.keys) s t₂ (.ok ()) s₂ ∧
        s₁.registries = s.registries.removed s.initializedWallets.keys ∧
        s₂.registries = s.registries.stopped s.initializedWallets.keys := by
    obtain ⟨t₁, s₁, h₁⟩ := (stopAllWallets_finishes (i := 0) hs).ends
    obtain ⟨t₂, s₂, h₂⟩ := (stopEach_finishes (i := 0) s.initializedWallets.keys s).ends
    exact ⟨t₁, s₁, t₂, s₂, h₁, h₂, h₁.post (stopAllWallets_alone 2 s),
      h₂.post (stopEach_alone _ s.initializedWallets.nodup s fun _ hid => Js.Map.mem_keys.mp hid)⟩
  obtain ⟨t₁, s₁, t₂, s₂, h₁, h₂, hall, heach⟩ := hruns withKey (by decide)
  obtain ⟨t₃, s₃, t₄, s₄, h₃, h₄, hall', heach'⟩ := hruns withLock (by decide)
  refine ⟨⟨t₁, s₁, t₂, s₂, h₁, h₂, ?_, ?_⟩, t₃, s₃, t₄, s₄, h₃, h₄, ?_, ?_⟩
  · exact congrArg (fun R : Registries => R.hsmWalletIds.get "w") hall
  · exact congrArg (fun R : Registries => R.hsmWalletIds.get "w") heach
  · exact congrArg (fun R : Registries => R.locks.get "w") hall'
  · exact congrArg (fun R : Registries => R.locks.get "w") heach'

end WalletHeadless
