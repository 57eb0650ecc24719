import WalletHeadless.Listened.Owned
import WalletHeadless.Listened.Protocol

/-!
# The proposals that the swap service has confirmed

* `ConfirmedInv`: each stored proposal has the password that the service has for it, and has told its flow;
* `KeptInv`: a proposal that was stored is still there, or a request has removed it since;
* `fetch_marks`: a fetch is given the proposal, is refused with a reply, or its error has no response;
* `proposals_confirmed`: what holds in every run, and when every failed fetch is answered;
* `fetch_crashes`: a fetch whose error has no response.
-/

namespace WalletHeadless

open Coop Js Function

/-- What flow `i` has asked and been told. -/
def Service.log (S : Service) (i : Nat) : Log := (S.procs[i]?).elim [] Proc.log

/-- The call removes the proposal of the wallet id. -/
def Removes (walletId proposalId : String) (e : Event Op.Ans) : Prop :=
  e.1 = .proposals (.removeProposal walletId proposalId) ∨ e.1 = .proposals (.deleteProposals walletId)

/-- Since `S`, a request that may do so has removed the proposal of the wallet id. -/
def Service.RemovedSince (S S' : Service) (walletId proposalId : String) : Prop :=
  ∃ j req, S'.request j = some req ∧ TakesAway req (S'.log j) walletId proposalId ∧
    ∃ e ∈ (S'.log j).drop (S.log j).length, Removes walletId proposalId e

/-! ## The invariants -/

structure ConfirmedInv (own : String → String) (s : Server) (g : Nat → ListenGhost) : Prop where
  maps : s.MapsOk
  stored : ∀ walletId proposalId proposal, s.stored walletId proposalId = some proposal →
    proposal.id = proposalId ∧ own proposalId = proposal.password ∧
      Confirmed (g proposal.addedBy).log proposalId proposal.password

/-- What was stored under the two ids in the ghost state `g₀` is there, or has been removed since. -/
structure KeptInv (own : String → String) (g₀ : Nat → ListenGhost) (walletId proposalId : String) (s : Server)
    (g : Nat → ListenGhost) : Prop where
  confirmed : ConfirmedInv own s g
  grows : ∀ j, (g₀ j).log.length ≤ (g j).log.length
  kept : (∃ proposal, s.stored walletId proposalId = some proposal) ∨
    ∃ j, (g j).TakesAway walletId proposalId ∧ ∃ e ∈ (g j).log.drop (g₀ j).log.length, Removes walletId proposalId e

section
variable {own : String → String} {s s' : Server} {g g' : Nat → ListenGhost} {i : Nat}

theorem log_next (g : Nat → ListenGhost) (i : Nat) (c : Op) (r : c.Ans) (j : Nat) :
    (update g i ((g i).next c r) j).log = (g j).log ++ if j = i then [⟨c, r⟩] else [] := by
  by_cases hj : j = i
  · subst hj
    rw [update_self, if_pos rfl]
    rfl
  · rw [update_of_ne hj, if_neg hj, List.append_nil]

theorem log_enter (hi : g i = {}) (req : Request) (j : Nat) : (update g i (ListenGhost.enter req) j).log = (g j).log :=
  update_tag ListenGhost.log (by rw [hi]; rfl) j

namespace ConfirmedInv

theorem congr (h : ConfirmedInv own s g)
    (hs : s'.walletListenedProposals = s.walletListenedProposals ∧ s'.proposalMaps = s.proposalMaps)
    (hlog : ∀ j, (g j).log ⊆ (g' j).log) : ConfirmedInv own s' g' where
  maps := h.maps.congr hs
  stored walletId proposalId proposal hp := by
    rw [Server.stored_congr hs] at hp
    obtain ⟨hid, hown, hsaid⟩ := h.stored walletId proposalId proposal hp
    exact ⟨hid, hown, hsaid.mono (hlog _)⟩

theorem perform (h : ConfirmedInv own s g) {c : Op} {w r : c.Ans} (ha : (g i).Allows own c)
    (hp : s.performOp i c w = some (r, s')) : ConfirmedInv own s' (update g i ((g i).next c r)) := by
  have hlog (j : Nat) : (g j).log ⊆ (update g i ((g i).next c r) j).log := by
    rw [log_next]
    exact List.subset_append_left _ _
  have hmono {s₁ : Server} (hmaps : s₁.MapsOk) (hstored : ∀ walletId proposalId proposal,
      s₁.stored walletId proposalId = some proposal → proposal.id = proposalId ∧ own proposalId = proposal.password ∧
        Confirmed (g proposal.addedBy).log proposalId proposal.password) :
      ConfirmedInv own s₁ (update g i ((g i).next c r)) := by
    refine ⟨hmaps, fun walletId proposalId proposal hp => ?_⟩
    obtain ⟨hid, hown, hsaid⟩ := hstored walletId proposalId proposal hp
    exact ⟨hid, hown, hsaid.mono (hlog _)⟩
  obtain hs | ⟨walletId, proposalId, password, rfl, rfl⟩ | ⟨walletId, proposalId, rfl, rfl⟩ | ⟨walletId, rfl, rfl⟩ :=
    Server.listed_cases hp
  · exact h.congr hs hlog
  · cases ha with
    | other hc => exact hc.elim
    | add hown hsaid =>
        refine hmono (h.maps.addListenedProposal i walletId proposalId password) fun walletId' proposalId' proposal hp => ?_
        rw [Server.stored_addListenedProposal h.maps] at hp
        split at hp
        next he =>
          cases hp
          rw [he.2]
          exact ⟨rfl, hown, hsaid⟩
        next => exact h.stored walletId' proposalId' proposal hp
  · refine hmono (h.maps.removeListenedProposal walletId proposalId) fun walletId' proposalId' proposal hp => ?_
    rw [Server.stored_removeListenedProposal h.maps] at hp
    exact h.stored walletId' proposalId' proposal (Option.ite_none_left_eq_some.mp hp).2
  · refine hmono (h.maps.deleteProposals walletId) fun walletId' proposalId' proposal hp => ?_
    rw [Server.stored_deleteProposals] at hp
    exact h.stored walletId' proposalId' proposal (Option.ite_none_left_eq_some.mp hp).2

end ConfirmedInv

namespace KeptInv

variable {g₀ : Nat → ListenGhost} {walletId proposalId : String}

/-- What was removed stays so, while the logs grow. -/
theorem removed_mono (hgrows : ∀ j, (g₀ j).log.length ≤ (g j).log.length) (hreq : ∀ j, (g j).req = none ∨ (g' j).req = (g j).req)
    (hlog : ∀ j, ∃ t, (g' j).log = (g j).log ++ t)
    (h : ∃ j, (g j).TakesAway walletId proposalId ∧ ∃ e ∈ (g j).log.drop (g₀ j).log.length, Removes walletId proposalId e) :
    ∃ j, (g' j).TakesAway walletId proposalId ∧ ∃ e ∈ (g' j).log.drop (g₀ j).log.length, Removes walletId proposalId e := by
  obtain ⟨j, ⟨req, hj, htakes⟩, e, he, hremoves⟩ := h
  obtain ⟨t, ht⟩ := hlog j
  refine ⟨j, ⟨req, ?_, ?_⟩, e, ?_, hremoves⟩
  · obtain hnone | hsame := hreq j
    · rw [hj] at hnone
      cases hnone
    · rw [hsame, hj]
  · rw [ht]
    exact htakes.mono (List.subset_append_left _ _)
  · rw [ht, List.drop_append_of_le_length (hgrows j)]
    exact List.mem_append_left _ he

theorem congr (h : KeptInv own g₀ walletId proposalId s g)
    (hs : s'.walletListenedProposals = s.walletListenedProposals ∧ s'.proposalMaps = s.proposalMaps)
    (hreq : ∀ j, (g j).req = none ∨ (g' j).req = (g j).req) (hlog : ∀ j, ∃ t, (g' j).log = (g j).log ++ t) :
    KeptInv own g₀ walletId proposalId s' g' := by
  have hsubset (j : Nat) : (g j).log ⊆ (g' j).log := by
    obtain ⟨t, ht⟩ := hlog j
    rw [ht]
    exact List.subset_append_left _ _
  refine ⟨h.confirmed.congr hs hsubset, fun j => ?_, ?_⟩
  · obtain ⟨t, ht⟩ := hlog j
    rw [ht, List.length_append]
    exact Nat.le_add_right_of_le (h.grows j)
  · obtain ⟨proposal, hp⟩ | hremoved := h.kept
    · exact .inl ⟨proposal, by rw [Server.stored_congr hs, hp]⟩
    · exact .inr (removed_mono h.grows hreq hlog hremoved)

theorem perform (h : KeptInv own g₀ walletId proposalId s g) {c : Op} {w r : c.Ans} (ha : (g i).Allows own c)
    (hp : s.performOp i c w = some (r, s')) : KeptInv own g₀ walletId proposalId s' (update g i ((g i).next c r)) := by
  have hreq (j : Nat) : (g j).req = none ∨ (update g i ((g i).next c r) j).req = (g j).req :=
    .inr (update_tag ListenGhost.req (by rfl) j)
  have hlog (j : Nat) : ∃ t, (update g i ((g i).next c r) j).log = (g j).log ++ t := ⟨_, log_next g i c r j⟩
  refine ⟨h.confirmed.perform ha hp, fun j => ?_, ?_⟩
  · rw [log_next, List.length_append]
    exact Nat.le_add_right_of_le (h.grows j)
  obtain ⟨proposal, hstored⟩ | hremoved := h.kept
  · by_cases hthere : ∃ proposal, s'.stored walletId proposalId = some proposal
    · exact .inl hthere
    -- the call has removed the proposal, so flow `i` may do it
    suffices hi : (g i).TakesAway walletId proposalId ∧ Removes walletId proposalId ⟨c, r⟩ by
      refine .inr ⟨i, ?_, ⟨c, r⟩, ?_, hi.2⟩
      · rw [update_self]
        exact hi.1.next c r
      · rw [log_next, if_pos rfl, List.drop_append_of_le_length (h.grows i)]
        exact List.mem_append_right _ (List.mem_singleton.mpr rfl)
    obtain hs | ⟨id, pid, password, rfl, rfl⟩ | ⟨id, pid, rfl, rfl⟩ | ⟨id, rfl, rfl⟩ := Server.listed_cases hp
    · exact absurd ⟨proposal, by rw [Server.stored_congr hs, hstored]⟩ hthere
    · refine absurd ?_ hthere
      rw [Server.stored_addListenedProposal h.confirmed.maps]
      split
      · exact ⟨_, rfl⟩
      · exact ⟨proposal, hstored⟩
    · rw [Server.stored_removeListenedProposal h.confirmed.maps] at hthere
      split at hthere
      next he =>
        rw [he.1, he.2]
        cases ha with
        | other hc => exact hc.elim
        | remove htakes => exact ⟨htakes, .inl rfl⟩
      next => exact absurd ⟨proposal, hstored⟩ hthere
    · rw [Server.stored_deleteProposals] at hthere
      split at hthere
      next he =>
        rw [he]
        cases ha with
        | other hc => exact hc.elim
        | forget htakes => exact ⟨htakes proposalId, .inr rfl⟩
      next => exact absurd ⟨proposal, hstored⟩ hthere
  · exact .inr (removed_mono h.grows hreq hlog hremoved)

end KeptInv

end

/-! ## How a fetch ends -/

/-- The service gives the proposal, the error of the request has no response, or a reply says that the fetch has
failed. -/
inductive FetchEnd
  | given
  | silent
  | refused
deriving DecidableEq

def fetchEnd : Event Op.Ans → Option FetchEnd
  | ⟨.lib (.swapGet ..), .ok (some _)⟩ => some .given
  | ⟨.lib (.swapGet ..), .error err⟩ => if err.isAxiosError && err.responseStatus.isNone then some .silent else none
  | ⟨.send reply, _⟩ => if reply.body.success then none else some .refused
  | _ => none

def fetchEnds (log : Log) : List FetchEnd := log.filterMap fetchEnd

/-- The log of a fetch that has ended. -/
def FetchEnded (log : Log) : Prop := ∃ m, fetchEnds log = [m]

section
variable {log : Log}

theorem fetchEnds_none {e : Event Op.Ans} (he : fetchEnd e = none) : fetchEnds (log ++ [e]) = fetchEnds log := by
  simp [fetchEnds, List.filterMap_append, he]

theorem fetchEnds_some {e : Event Op.Ans} {m : FetchEnd} (he : fetchEnd e = some m) :
    fetchEnds (log ++ [e]) = fetchEnds log ++ [m] := by
  simp [fetchEnds, List.filterMap_append, he]

/-- A call that ends nothing. -/
theorem wp_fetchQuiet {c : Op} {post : c.Ans → Log → Prop} {fail : JsError → Log → Prop} (hc : ∀ r, fetchEnd ⟨c, r⟩ = none)
    (h : fetchEnds log = []) (hpost : ∀ r log, fetchEnds log = [] → post r log) :
    (history Op.Ans).wp (ask c) log post fail := by
  refine ⟨trivial, fun r _ => hpost r _ ?_⟩
  show fetchEnds (log ++ [⟨c, r⟩]) = []
  rw [fetchEnds_none (hc r), h]

/-- A reply that says that the fetch has failed. -/
theorem wp_refuses (status : Nat) (message : String) (h : fetchEnds log = []) :
    (history Op.Ans).wp (sendStatus status (.error message)) log (fun _ => FetchEnded) fun _ => FetchEnded := by
  refine ⟨trivial, fun r _ => ⟨.refused, ?_⟩⟩
  show fetchEnds (log ++ [⟨.send ⟨status, .error message⟩, r⟩]) = [.refused]
  rw [fetchEnds_some rfl, h]
  rfl

theorem serviceGet_ends (proposalId : String) (password : Option String) (h : fetchEnds log = []) :
    (history Op.Ans).wp (serviceGet proposalId password) log (fun _ log => fetchEnds log = [.given]) fun err log =>
      if err.isAxiosError && err.responseStatus.isNone then fetchEnds log = [.silent] else fetchEnds log = [] := by
  refine (Protocol.wp_ite ..).mpr ⟨fun _ => h, fun _ => ?_⟩
  split
  · exact h
  next password _ =>
    refine (Protocol.wp_bind ..).mpr ((Protocol.wp_attempt ..).mpr ⟨trivial, fun r _ => ⟨fun answer he => ?_, fun e he => ?_⟩⟩)
    · subst he
      cases answer with
      | none =>
          show fetchEnds (log ++ [⟨.lib (.swapGet proposalId password), .ok none⟩]) = []
          rw [fetchEnds_none rfl, h]
      | some proposal =>
          show fetchEnds (log ++ [⟨.lib (.swapGet proposalId password), .ok (some proposal)⟩]) = [.given]
          rw [fetchEnds_some rfl, h]
          rfl
    · subst he
      show if e.isAxiosError && e.responseStatus.isNone then
          fetchEnds (log ++ [⟨.lib (.swapGet proposalId password), .error e⟩]) = [.silent]
        else fetchEnds (log ++ [⟨.lib (.swapGet proposalId password), .error e⟩]) = []
      split
      next hs =>
        have hend : fetchEnd ⟨.lib (.swapGet proposalId password), .error e⟩ = some .silent := if_pos hs
        rw [fetchEnds_some hend, h]
        rfl
      next hs =>
        have hend : fetchEnd ⟨.lib (.swapGet proposalId password), .error e⟩ = none := if_neg hs
        rw [fetchEnds_none hend, h]

/-- A fetch ends once: it is given the proposal, or refused with a reply, or its error has no response. -/
theorem fetch_marks (req : Req String) :
    (history Op.Ans).wp (fetchFromService req) [] (fun _ => FetchEnded) fun _ => FetchEnded := by
  have htick (r : Unit) (log : Log) : fetchEnds (log ++ [⟨.tick, r⟩]) = fetchEnds log := fetchEnds_none rfl
  refine (Protocol.wp_bind ..).mpr (wp_fetchQuiet (fun _ => rfl) rfl fun toggle log h => ?_)
  refine (Protocol.wp_ite ..).mpr ⟨fun _ => ?_, fun _ => wp_refuses _ _ h⟩
  refine (Protocol.wp_bind ..).mpr (wp_await_history (wp_fetchQuiet (fun _ => rfl) h fun m log h => ?_))
  rw [← htick () log] at h
  have hlisted : (history Op.Ans).wp (listenedProposal m req.body) (log ++ [⟨.tick, ()⟩]) (fun _ log => fetchEnds log = [])
      fun _ _ => False := by
    cases m with
    | none => exact h
    | some m => exact wp_fetchQuiet (fun _ => rfl) h fun _ _ h => h
  refine (Protocol.wp_bind ..).mpr (Protocol.wp_mono _ hlisted (fun requested log h => ?_) fun _ _ h => h.elim)
  cases requested with
  | none => exact wp_refuses _ _ h
  | some requestedProposal =>
      refine (Protocol.wp_tryCatch ..).mpr ((Protocol.wp_bind ..).mpr (wp_await_history
        (Protocol.wp_mono _ (serviceGet_ends _ _ h) (fun proposal log h => ?_) fun err log h => ?_)))
      · refine ⟨trivial, fun r _ => ⟨.given, ?_⟩⟩
        show fetchEnds (log ++ [⟨.tick, ()⟩] ++ [⟨.send ⟨200, .swapProposal proposal⟩, r⟩]) = [.given]
        rw [fetchEnds_none rfl, htick, h]
      · refine (Protocol.wp_ite ..).mpr ⟨fun haxios => ?_, fun haxios => ?_⟩
        · cases hstatus : err.responseStatus with
          | none =>
              rw [haxios, hstatus] at h
              exact ⟨.silent, (htick () log).trans h⟩
          | some status =>
              rw [hstatus, Option.isNone_some, Bool.and_false] at h
              rw [if_neg Bool.false_ne_true, ← htick () log] at h
              refine (Protocol.wp_ite ..).mpr ⟨fun _ => ?_, fun _ => wp_refuses _ _ h⟩
              refine (Protocol.wp_bind ..).mpr (wp_await_history (wp_fetchQuiet (fun _ => rfl) h fun _ log h => ?_))
              exact wp_refuses _ _ ((htick () log).trans h)
        · rw [Bool.not_eq_true] at haxios
          rw [haxios, Bool.false_and, if_neg Bool.false_ne_true, ← htick () log] at h
          exact wp_refuses _ _ h

end

/-! ## Runs -/

/-- A fetch that has ended without a proposal of the service has replied `success: false`. -/
def Service.FetchesAnswered (S : Service) : Prop :=
  ∀ j req, S.request j = some (.fetchFromService req) → S.Ended j →
    (∀ proposalId password proposal, ⟨.lib (.swapGet proposalId password), .ok (some proposal)⟩ ∉ S.log j) →
    ∃ reply : Reply, reply.body.success = false ∧ ⟨.send reply, ()⟩ ∈ S.log j

/-- The service has not failed a fetch that has ended by an error without a response. -/
def Service.FetchesResponded (S : Service) : Prop :=
  ∀ j req, S.request j = some (.fetchFromService req) → S.Ended j →
    ∀ proposalId password err, ⟨.lib (.swapGet proposalId password), .error err⟩ ∈ S.log j →
      err.isAxiosError = true → err.responseStatus ≠ none

/-- The requests of the domain, and the answers that the service gives. -/
abbrev SwapStep (own : String → String) (S : Service) (l : Step) : Prop :=
  RegistryStep S l ∧ S.Meets world Request.handle (fun _ _ c r _ => SwapSays own c r = true) l

section
variable {own : String → String}

theorem listen_guarded {Inv : Server → (Nat → ListenGhost) → Prop}
    (hspawn : ∀ s g i req, Inv s g → g i = {} → Inv s (update g i (ListenGhost.enter req)))
    (hframe : ∀ s s' g, Inv s g →
      s'.walletListenedProposals = s.walletListenedProposals ∧ s'.proposalMaps = s.proposalMaps → Inv s' g)
    (hperform : ∀ s s' g i c w r, Inv s g → (g i).Allows own c → s.performOp i c w = some (r, s') →
      Inv s' (update g i ((g i).next c r))) :
    Guarded world Request.handle (listenProtocol own) ListenGhost.enter {} (fun _ => True) (fun _ => True)
      (fun _ _ => True) RegistryStep (fun _ _ c r _ => SwapSays own c r = true) Inv where
  spawn S g req w hg _ hI hok :=
    ⟨hspawn _ _ _ _ hI (hg.unborn _ le_rfl), Protocol.wp_mono _ (listen_wp hok) (fun _ _ _ => trivial) fun _ _ _ => trivial⟩
  call s g i c hI _ _ _ := by
    refine ⟨trivial, ?_⟩
    rw [show (listenProtocol own).call (g i) c = g i from rfl, update_eq_self]
    exact hframe _ _ _ hI (Server.listed_callOf s i c)
  perform S g₀ s g i q c w r s' _ _ _ _ hG hI _ ha hc hp := by
    obtain rfl : q = g i := hc
    refine ⟨?_, hperform _ _ _ _ _ _ _ hI ha hp⟩
    cases c with
    | lib c =>
        obtain ⟨-, he⟩ := Option.ite_none_right_eq_some.mp hp
        cases he
        exact hG
    | _ => rfl
  ext S g e s _ _ hI _ he := hframe _ _ _ hI (Server.listed_outside he)
  finish s g i hI _ _ := ⟨trivial, by rw [show (listenProtocol own).finish (g i) = g i from rfl, update_eq_self]; exact hI⟩
  call_sync _ _ _ := rfl
  rests_fresh := trivial
  of_enter _ := trivial
  of_call _ _ _ _ := trivial
  of_next _ _ _ _ _ := trivial
  of_finish _ _ _ := trivial

theorem req_enter {g : Nat → ListenGhost} {i : Nat} (hi : g i = {}) (req : Request) (j : Nat) :
    (g j).req = none ∨ (update g i (ListenGhost.enter req) j).req = (g j).req := by
  by_cases hj : j = i
  · subst hj
    exact .inl (by rw [hi])
  · rw [update_of_ne hj]
    exact .inr rfl

theorem confirmed_guarded :
    Guarded world Request.handle (listenProtocol own) ListenGhost.enter {} (fun _ => True) (fun _ => True)
      (fun _ _ => True) RegistryStep (fun _ _ c r _ => SwapSays own c r = true) (ConfirmedInv own) :=
  listen_guarded (fun _ _ _ req h hi => h.congr ⟨rfl, rfl⟩ fun j => by rw [log_enter hi]; exact List.Subset.refl _)
    (fun _ _ _ h hs => h.congr hs fun _ => List.Subset.refl _) fun _ _ _ _ _ _ _ h ha hp => h.perform ha hp

theorem kept_guarded (g₀ : Nat → ListenGhost) (walletId proposalId : String) :
    Guarded world Request.handle (listenProtocol own) ListenGhost.enter {} (fun _ => True) (fun _ => True)
      (fun _ _ => True) RegistryStep (fun _ _ c r _ => SwapSays own c r = true)
      (KeptInv own g₀ walletId proposalId) :=
  listen_guarded
    (fun _ _ _ req h hi => h.congr ⟨rfl, rfl⟩ (req_enter hi req) fun j => ⟨[], by rw [log_enter hi, List.append_nil]⟩)
    (fun _ _ _ h hs => h.congr hs (fun _ => .inr rfl) fun _ => ⟨[], (List.append_nil _).symm⟩)
    fun _ _ _ _ _ _ _ h ha hp => h.perform ha hp

abbrev ListenCoherent (own : String → String) (S : Service) (g : Nat → ListenGhost) : Prop :=
  Coherent world (listenProtocol own) ListenGhost.enter {} (fun _ => True) S g

theorem ListenGhost.after_log (q : ListenGhost) (t : Log) : ((listenProtocol own).after q t).log = q.log ++ t :=
  (listenProtocol own).after_log ListenGhost.log (fun _ _ => rfl) (fun _ _ _ => rfl) q t

variable {S : Service} {g : Nat → ListenGhost}

/-- The ghost state of a flow is its request and its log. -/
theorem ListenCoherent.ghost (hg : ListenCoherent own S g) (i : Nat) : (g i).req = S.request i ∧ (g i).log = S.log i := by
  cases hp : S.procs[i]? with
  | none =>
      rw [hg.unborn i (List.getElem?_eq_none_iff.mp hp), Service.request, Service.log, hp]
      exact ⟨rfl, rfl⟩
  | some p =>
      have hafter : g i = (listenProtocol own).after (.enter p.req) p.log := by
        rw [hg.traced i p hp]
        cases p.rest <;> rfl
      have hreq : ((listenProtocol own).after (.enter p.req) p.log).req = some p.req :=
        (listenProtocol own).after_tag ListenGhost.req (fun _ _ => rfl) (fun _ _ _ => rfl) _ _
      rw [hafter, hreq, ListenGhost.after_log, Service.request, Service.log, hp]
      exact ⟨rfl, rfl⟩

theorem fetches_answered_iff {ok : Service → Step → Prop} {s₀ : Server} (h : Service.Run ok s₀ S) :
    S.FetchesAnswered ↔ S.FetchesResponded := by
  have hends {j : Nat} {req : Req String} (hreq : S.request j = some (.fetchFromService req)) (hend : S.Ended j) :
      FetchEnded (S.log j) := by
    obtain ⟨p, hp, hpreq⟩ := Option.map_eq_some_iff.mp hreq
    have hsteps := h.steps hp
    rw [hpreq] at hsteps
    rw [Service.log, hp]
    exact history_ended hsteps (fetch_marks req) (hend p hp) fun _ _ => trivial
  have hmem {j : Nat} {e : Event Op.Ans} {m : FetchEnd} (he : e ∈ S.log j) (hm : fetchEnd e = some m) :
      m ∈ fetchEnds (S.log j) := List.mem_filterMap.mpr ⟨e, he, hm⟩
  refine ⟨fun hanswered j req hreq hend proposalId password err he haxios hstatus => ?_,
    fun hresponded j req hreq hend hgiven => ?_⟩
  · obtain ⟨m, hm⟩ := hends hreq hend
    have hsilent : FetchEnd.silent ∈ fetchEnds (S.log j) := hmem he (if_pos (by rw [haxios, hstatus]; rfl))
    rw [hm, List.mem_singleton] at hsilent
    obtain ⟨reply, hfails, hsent⟩ := hanswered j req hreq hend fun proposalId password proposal hgiven => by
      have hgiven' : FetchEnd.given ∈ fetchEnds (S.log j) := hmem hgiven rfl
      rw [hm, ← hsilent, List.mem_singleton] at hgiven'
      cases hgiven'
    have hrefused : FetchEnd.refused ∈ fetchEnds (S.log j) := hmem hsent (by simp [fetchEnd, hfails])
    rw [hm, ← hsilent, List.mem_singleton] at hrefused
    cases hrefused
  · obtain ⟨m, hm⟩ := hends hreq hend
    obtain ⟨e, he, hmark⟩ := List.mem_filterMap.mp (show m ∈ fetchEnds (S.log j) by rw [hm]; exact List.mem_singleton.mpr rfl)
    unfold fetchEnd at hmark
    split at hmark
    next proposalId password proposal => exact absurd he (hgiven _ _ _)
    next proposalId password err =>
      split at hmark
      next hs =>
        obtain ⟨haxios, hnone⟩ := (Bool.and_eq_true _ _).mp hs
        exact absurd (Option.isNone_iff_eq_none.mp hnone) (hresponded j req hreq hend _ _ err he haxios)
      next => cases hmark
    next reply r =>
      split at hmark
      next => cases hmark
      next hfails => exact ⟨reply, by simpa using hfails, he⟩
    next => cases hmark

end

/-- With a service that has one password for each id: a stored proposal is one that the service has created or
accepted with its password; it keeps its password, and is there until a deletion, a stop or a fetch that was told that
it is not found removes it; and every failed fetch is answered exactly when no fetch fails without a response. -/
theorem proposals_confirmed {own : String → String} {s₀ : Server} (h₀ : s₀.walletListenedProposals = .empty) {S : Service}
    (h : Service.Run (SwapStep own) s₀ S) :
    (∀ walletId proposalId proposal, S.state.stored walletId proposalId = some proposal →
      proposal.id = proposalId ∧ Confirmed (S.log proposal.addedBy) proposalId proposal.password) ∧
    (∀ S', Reach world Request.handle (SwapStep own) S S' → ∀ walletId proposalId proposal,
      S.state.stored walletId proposalId = some proposal →
      (∃ proposal', S'.state.stored walletId proposalId = some proposal' ∧ proposal'.id = proposal.id ∧
        proposal'.password = proposal.password) ∨ S.RemovedSince S' walletId proposalId) ∧
    (S.FetchesAnswered ↔ S.FetchesResponded) := by
  have hinit : ConfirmedInv own s₀ fun _ => {} := by
    refine ⟨⟨fun walletId m hm => ?_, fun walletId walletId' m hm _ => ?_⟩, fun walletId proposalId proposal hp => ?_⟩
    · rw [h₀] at hm
      cases hm
    · rw [h₀] at hm
      cases hm
    · rw [Server.stored_of_get_none (by rw [h₀]; rfl)] at hp
      cases hp
  obtain ⟨g, hg, -, hI⟩ := confirmed_guarded.reach hinit h
  refine ⟨fun walletId proposalId proposal hp => ?_, fun S' hS' walletId proposalId proposal hp => ?_, fetches_answered_iff h⟩
  · obtain ⟨hid, -, hsaid⟩ := hI.stored walletId proposalId proposal hp
    rw [(ListenCoherent.ghost hg _).2] at hsaid
    exact ⟨hid, hsaid⟩
  · obtain ⟨g', hg', -, hI'⟩ := (kept_guarded g walletId proposalId).reach_from hg (fun _ => trivial)
      ⟨hI, fun _ => le_rfl, .inl ⟨proposal, hp⟩⟩ hS'
    obtain ⟨proposal', hp'⟩ | ⟨j, ⟨req, hreq, htakes⟩, e, he, hremoves⟩ := hI'.kept
    · obtain ⟨hid, hown, -⟩ := hI.stored walletId proposalId proposal hp
      obtain ⟨hid', hown', -⟩ := hI'.confirmed.stored walletId proposalId proposal' hp'
      exact .inl ⟨proposal', hp', hid'.trans hid.symm, hown'.symm.trans hown⟩
    · rw [(ListenCoherent.ghost hg' j).1] at hreq
      rw [(ListenCoherent.ghost hg' j).2] at htakes he
      rw [(ListenCoherent.ghost hg j).2] at he
      exact .inr ⟨j, req, hreq, htakes, e, he, hremoves⟩

/-! ## Concrete runs -/

/-- The swap service is on. -/
def swapping : Server := { unstarted with SWAP_SERVICE_FEATURE_TOGGLE := true }

def fetches : Request := .fetchFromService { walletId := "w", wallet := 0, body := "p" }

/-- The service fails a request for a proposal. -/
def unfetched (responseStatus : Option Nat) (_ : Nat) : (c : Op) → c.Ans
  | .lib (.swapGet ..) => .error { message := "", isAxiosError := true, responseStatus := responseStatus }
  | c => c.granted (spending "" 0)

/-- A proposal is registered. -/
def registered : List Step := listening ++ List.replicate 3 (proceeds 1)

/-- It is fetched, and the request fails. -/
def fetchFails (responseStatus : Option Nat) : List Step :=
  [comes fetches, proceeds 2, .resume 2 (unfetched responseStatus), proceeds 2]

def onePassword (_ : String) : String := "pass"

theorem registered_removed :
    ((Service.exec (SwapStep onePassword) registered swapping).bind fun S =>
      (Sys.exec world Request.handle (SwapStep onePassword) (fetchFails (some 404) ++ [proceeds 2]) S).map fun S' => (S, S')).any
      (fun SS => (SS.1.state.stored "w" "p" = some ⟨"p", "pass", 1⟩ ∧ SS.2.state.stored "w" "p" = none) ∧
        Service.Ended SS.2 2) = true := by
  decide +kernel

/-- A fetch that is told that the proposal is not found removes it. -/
theorem notFound_confirmed :
    ∃ S S' : Service, S.state.stored "w" "p" = some ⟨"p", "pass", 1⟩ ∧ Confirmed (S.log 1) "p" "pass" ∧
      S.RemovedSince S' "w" "p" := by
  obtain ⟨⟨S, S'⟩, hexec, hp⟩ := (Option.any_eq_true _ _).mp registered_removed
  obtain ⟨S₁, hS, hexec⟩ := Option.bind_eq_some_iff.mp hexec
  obtain ⟨S₂, hS', he⟩ := Option.map_eq_some_iff.mp hexec
  cases he
  obtain ⟨⟨hstored, hremoved⟩, -⟩ := of_decide_eq_true hp
  have hrun : Service.Run (SwapStep onePassword) swapping S := Reach.start.exec hS
  have hrun' : Reach world Request.handle (SwapStep onePassword) S S' := Reach.start.exec hS'
  obtain ⟨hconfirmed, hkept, -⟩ := proposals_confirmed rfl hrun
  refine ⟨S, S', hstored, (hconfirmed "w" "p" _ hstored).2, ?_⟩
  obtain ⟨proposal, hthere, -⟩ | hsince := hkept S' hrun' "w" "p" _ hstored
  · rw [hremoved] at hthere
    cases hthere
  · exact hsince

theorem fetchFails_silent :
    (Service.exec (SwapStep onePassword) (registered ++ fetchFails none) swapping).any (fun S =>
      (S.Ended 2 ∧ S.request 2 = some fetches) ∧ (S.log 2).filterMap fetchEnd = [.silent] ∧
      S.state.replies = [(1, ⟨200, .ok⟩), (0, ⟨200, .ok⟩)]) = true := by
  decide +kernel

/-- A fetch whose request to the service fails without a response has no reply. -/
theorem fetch_crashes :
    ∃ S, Service.Run (SwapStep onePassword) swapping S ∧ (S.Ended 2 ∧ S.request 2 = some fetches) ∧
      S.state.replies = [(1, ⟨200, .ok⟩), (0, ⟨200, .ok⟩)] ∧ ¬ S.FetchesAnswered := by
  obtain ⟨S, hS, hend, hends, hreplies⟩ := Service.run_of_exec fetchFails_silent
  refine ⟨S, hS, hend, hreplies, fun h => ?_⟩
  have hmem {e : Event Op.Ans} {m : FetchEnd} (he : e ∈ S.log 2) (hm : fetchEnd e = some m) : m = .silent := by
    have hm' : m ∈ (S.log 2).filterMap fetchEnd := List.mem_filterMap.mpr ⟨e, he, hm⟩
    rw [hends] at hm'
    exact List.mem_singleton.mp hm'
  obtain ⟨reply, hfails, hsent⟩ := h 2 _ hend.2 hend.1 fun proposalId password proposal hgiven => by
    cases hmem hgiven rfl
  cases hmem hsent (m := .refused) (by simp [fetchEnd, hfails])

end WalletHeadless
