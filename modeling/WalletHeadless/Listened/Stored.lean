import WalletHeadless.Server.Frame

/-!
# The proposals that are stored for a wallet id

`walletListenedProposals` holds a map for each wallet id, and the handlers that have read one keep it. Here it is read
as one function of a wallet id and a proposal id.

* `Server.stored`: the proposal that is stored under the two ids;
* `Server.MapsOk`: no two wallet ids share a map;
* `stored_addListenedProposal`, `stored_removeListenedProposal`, `stored_deleteProposals`: what each operation changes;
* `listed_cases`: which calls are such an operation.
-/

namespace WalletHeadless

open Coop Js

namespace Server

/-- The proposal that is stored for the wallet id. -/
def stored (s : Server) (walletId proposalId : String) : Option ListenedProposal :=
  ((s.walletListenedProposals.get walletId).bind fun m => s.proposalMaps[m]?).bind fun map => map.get proposalId

/-- Each map belongs to one wallet id. -/
structure MapsOk (s : Server) : Prop where
  bound : ∀ walletId m, s.walletListenedProposals.get walletId = some m → m < s.proposalMaps.length
  inj : ∀ walletId walletId' m, s.walletListenedProposals.get walletId = some m →
    s.walletListenedProposals.get walletId' = some m → walletId = walletId'

/-- `walletListenedProposals.delete(walletId)`. -/
def deleteProposals (s : Server) (walletId : String) : Server :=
  { s with walletListenedProposals := s.walletListenedProposals.delete walletId }

variable {s s' : Server}

theorem stored_congr (h : s'.walletListenedProposals = s.walletListenedProposals ∧ s'.proposalMaps = s.proposalMaps)
    (walletId proposalId : String) : s'.stored walletId proposalId = s.stored walletId proposalId := by
  unfold stored
  rw [h.1, h.2]

theorem MapsOk.congr (h : s.MapsOk)
    (he : s'.walletListenedProposals = s.walletListenedProposals ∧ s'.proposalMaps = s.proposalMaps) : s'.MapsOk := by
  refine ⟨fun walletId m hm => ?_, fun walletId walletId' m hm hm' => ?_⟩
  · rw [he.1] at hm
    rw [he.2]
    exact h.bound walletId m hm
  · rw [he.1] at hm hm'
    exact h.inj walletId walletId' m hm hm'

/-- The maps are changed in place. -/
theorem MapsOk.modify (h : s.MapsOk) (m : ProposalsRef) (f : Js.Map String ListenedProposal → Js.Map String ListenedProposal) :
    MapsOk { s with proposalMaps := s.proposalMaps.modify m f } where
  bound walletId m' hm := by
    rw [List.length_modify]
    exact h.bound walletId m' hm
  inj := h.inj

/-- Changing the map of one wallet id leaves those of the others. -/
theorem stored_modify (h : s.MapsOk) {walletId : String} {m : ProposalsRef}
    (hm : s.walletListenedProposals.get walletId = some m)
    (f : Js.Map String ListenedProposal → Js.Map String ListenedProposal) (walletId' proposalId : String) :
    stored { s with proposalMaps := s.proposalMaps.modify m f } walletId' proposalId =
      if walletId' = walletId then (s.proposalMaps[m]?).bind fun map => (f map).get proposalId
      else s.stored walletId' proposalId := by
  unfold stored
  split
  next he =>
    rw [he]
    simp [hm, Option.bind_map]
  next hne =>
    cases hm' : s.walletListenedProposals.get walletId' with
    | none => rfl
    | some m' =>
        have hmm : m ≠ m' := by
          rintro rfl
          exact hne (h.inj _ _ _ hm' hm)
        simp [List.getElem?_modify_ne f s.proposalMaps hmm]

theorem stored_of_get {walletId : String} {m : ProposalsRef} (hm : s.walletListenedProposals.get walletId = some m)
    (proposalId : String) :
    s.stored walletId proposalId = (s.proposalMaps[m]?).bind fun map => map.get proposalId := by
  unfold stored
  rw [hm, Option.bind_some]

theorem stored_of_get_none {walletId : String} (hm : s.walletListenedProposals.get walletId = none)
    (proposalId : String) : s.stored walletId proposalId = none := by
  unfold stored
  rw [hm, Option.bind_none, Option.bind_none]

/-! ## Adding, removing, forgetting -/

theorem MapsOk.addListenedProposal (h : s.MapsOk) (i : Nat) (walletId proposalId password : String) :
    (s.addListenedProposal i walletId proposalId password).MapsOk := by
  unfold Server.addListenedProposal
  split
  next m hm => exact h.modify m _
  next hnone =>
    refine ⟨fun id m hm => ?_, fun id id' m hm hm' => ?_⟩
    · rw [Js.Map.get_set] at hm
      rw [List.length_append, List.length_singleton]
      split at hm
      · cases hm
        exact Nat.lt_succ_self _
      · exact Nat.lt_succ_of_lt (h.bound id m hm)
    · rw [Js.Map.get_set] at hm hm'
      split at hm <;> split at hm'
      next he he' => rw [he, he']
      next =>
        cases hm
        exact absurd (h.bound id' _ hm') (Nat.lt_irrefl _)
      next =>
        cases hm'
        exact absurd (h.bound id _ hm) (Nat.lt_irrefl _)
      next => exact h.inj id id' m hm hm'

theorem stored_addListenedProposal (h : s.MapsOk) (i : Nat) (walletId proposalId password : String)
    (walletId' proposalId' : String) :
    (s.addListenedProposal i walletId proposalId password).stored walletId' proposalId' =
      if walletId' = walletId ∧ proposalId' = proposalId then some ⟨proposalId, password, i⟩
      else s.stored walletId' proposalId' := by
  unfold Server.addListenedProposal
  split
  next m hm =>
    have hmap := h.bound walletId m hm
    rw [stored_modify h hm]
    by_cases he : walletId' = walletId
    · subst he
      rw [if_pos rfl, stored_of_get hm, List.getElem?_eq_getElem hmap, Option.bind_some, Option.bind_some, Js.Map.get_set]
      simp
    · rw [if_neg he, if_neg fun h => he h.1]
  next hnone =>
    by_cases he : walletId' = walletId
    · subst he
      have hget : (s.walletListenedProposals.set walletId' s.proposalMaps.length).get walletId' =
          some s.proposalMaps.length := Js.Map.get_set_self _ _ _
      rw [stored_of_get hget, stored_of_get_none hnone, List.getElem?_concat_length, Option.bind_some, Js.Map.get_set]
      simp
    · rw [if_neg fun h => he h.1]
      cases hm : s.walletListenedProposals.get walletId' with
      | none =>
          have hget : (s.walletListenedProposals.set walletId s.proposalMaps.length).get walletId' = none := by
            rw [Js.Map.get_set_of_ne _ _ he, hm]
          rw [stored_of_get_none hget, stored_of_get_none hm]
      | some m =>
          have hget : (s.walletListenedProposals.set walletId s.proposalMaps.length).get walletId' = some m := by
            rw [Js.Map.get_set_of_ne _ _ he, hm]
          rw [stored_of_get hget, stored_of_get hm, List.getElem?_append_left (h.bound walletId' m hm)]

/-- Only the wallet id of the request can have a new entry. -/
theorem has_addListenedProposal {i : Nat} {walletId proposalId password walletId' : String} {m : ProposalsRef}
    (h : (s.addListenedProposal i walletId proposalId password).walletListenedProposals.get walletId' = some m) :
    walletId' = walletId ∨ s.walletListenedProposals.get walletId' = some m := by
  unfold Server.addListenedProposal at h
  split at h
  · exact .inr h
  · rw [Js.Map.get_set] at h
    split at h
    next he => exact .inl he
    next => exact .inr h

theorem MapsOk.removeListenedProposal (h : s.MapsOk) (walletId proposalId : String) :
    (s.removeListenedProposal walletId proposalId).MapsOk := by
  unfold Server.removeListenedProposal
  split
  · exact h.modify _ _
  · exact h

theorem stored_removeListenedProposal (h : s.MapsOk) (walletId proposalId walletId' proposalId' : String) :
    (s.removeListenedProposal walletId proposalId).stored walletId' proposalId' =
      if walletId' = walletId ∧ proposalId' = proposalId then none else s.stored walletId' proposalId' := by
  unfold Server.removeListenedProposal
  split
  next m hm =>
    have hmap := h.bound walletId m hm
    rw [stored_modify h hm]
    by_cases he : walletId' = walletId
    · subst he
      rw [if_pos rfl, stored_of_get hm, List.getElem?_eq_getElem hmap, Option.bind_some, Option.bind_some,
        Js.Map.get_delete]
      simp
    · rw [if_neg he, if_neg fun h => he h.1]
  next hnone =>
    split
    next he => rw [he.1, stored_of_get_none hnone]
    next => rfl

theorem walletListenedProposals_removeListenedProposal (s : Server) (walletId proposalId : String) :
    (s.removeListenedProposal walletId proposalId).walletListenedProposals = s.walletListenedProposals := by
  unfold Server.removeListenedProposal
  split <;> rfl

theorem MapsOk.deleteProposals (h : s.MapsOk) (walletId : String) : (s.deleteProposals walletId).MapsOk := by
  have hget {id : String} {m : ProposalsRef} (hm : (s.walletListenedProposals.delete walletId).get id = some m) :
      s.walletListenedProposals.get id = some m := by
    rw [Js.Map.get_delete] at hm
    split at hm
    · cases hm
    · exact hm
  exact ⟨fun id m hm => h.bound id m (hget hm), fun id id' m hm hm' => h.inj id id' m (hget hm) (hget hm')⟩

theorem stored_deleteProposals (s : Server) (walletId walletId' proposalId : String) :
    (s.deleteProposals walletId).stored walletId' proposalId =
      if walletId' = walletId then none else s.stored walletId' proposalId := by
  unfold stored deleteProposals
  rw [Js.Map.get_delete]
  split <;> rfl

/-! ## Calls -/

/-- What the calls do to the proposals. -/
theorem listed_cases {i : Nat} {c : Op} {w r : c.Ans} (hp : s.performOp i c w = some (r, s')) :
    (s'.walletListenedProposals = s.walletListenedProposals ∧ s'.proposalMaps = s.proposalMaps) ∨
    (∃ walletId proposalId password, c = .proposals (.addProposal walletId proposalId password) ∧
      s' = s.addListenedProposal i walletId proposalId password) ∨
    (∃ walletId proposalId, c = .proposals (.removeProposal walletId proposalId) ∧
      s' = s.removeListenedProposal walletId proposalId) ∨
    ∃ walletId, c = .proposals (.deleteProposals walletId) ∧ s' = s.deleteProposals walletId := by
  cases c with
  | proposals c =>
      have he : (s.performProposals i c).2 = s' := congrArg Prod.snd (Option.some.inj hp)
      rw [← he]
      cases c with
      | addProposal walletId proposalId password => exact .inr (.inl ⟨walletId, proposalId, password, rfl, rfl⟩)
      | removeProposal walletId proposalId => exact .inr (.inr (.inl ⟨walletId, proposalId, rfl, rfl⟩))
      | deleteProposals walletId => exact .inr (.inr (.inr ⟨walletId, rfl, rfl⟩))
      | _ => exact .inl ⟨rfl, rfl⟩
  | _ => exact .inl ((performOp_untouched hp).proposals (by simp))

theorem listed_callOf (s : Server) (i : Nat) (c : Op) :
    (s.callOf i c).walletListenedProposals = s.walletListenedProposals ∧ (s.callOf i c).proposalMaps = s.proposalMaps := by
  cases c with
  | wallet c => cases c <;> exact ⟨rfl, rfl⟩
  | hsm c => cases c <;> exact ⟨rfl, rfl⟩
  | _ => exact ⟨rfl, rfl⟩

theorem listed_outside {e : Outside} (h : s.outside e = some s') :
    s'.walletListenedProposals = s.walletListenedProposals ∧ s'.proposalMaps = s.proposalMaps := by
  obtain ⟨d, -, rfl⟩ | ⟨t, L, -, -, rfl⟩ | ⟨i, u, d, -, -, -, -, rfl⟩ | ⟨w, u, -, rfl⟩ | ⟨w, u, -, rfl⟩ :=
    outside_cases h <;> exact ⟨rfl, rfl⟩

end Server

end WalletHeadless
