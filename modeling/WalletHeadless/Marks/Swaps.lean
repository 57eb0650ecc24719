import WalletHeadless.Marks.Log

/-!
# The marks of a swap proposal

`buildTxProposal` of atomic swaps has `addSend` mark the utxos that it adds, one token after the other, and goes on with
the tokens to receive and with the swap service. What fails then removes no mark.

* `SwapFails`: the answers on which the handler gives up;
* `Careful`: a part of the handler throws only after such an answer;
* `swap_failureKeeps_iff`: alone, a failure leaves the marks as they were exactly when nothing fails after a new mark;
* `send_then_receive_fails`: a token to receive fails after a token to send.
-/

namespace WalletHeadless

open Coop Js
open Prog (uses_ask)

/-- What `serviceCreate` refuses as a password. -/
def PasswordRefused (password : Option String) : Prop := (password.filter fun password => 3 ≤ Js.length password) = none

instance (password : Option String) : Decidable (PasswordRefused password) := inferInstanceAs (Decidable (_ = none))

/-- The answers on which `buildTxProposal` gives up: a call fails, the service refuses, the proposal is not registered
with a password, or the service is to create a proposal whose password it refuses. -/
def SwapFails (body : SwapProposalBody) : Event Op.Ans → Prop
  | ⟨.lib _, .error _⟩ | ⟨.wallet _, .error _⟩ => True
  | ⟨.lib (.swapCreate _ _), .ok created⟩ => created.success = false
  | ⟨.lib (.swapUpdate _), .ok updated⟩ => updated = false
  | ⟨.proposals .featureToggle, toggle⟩ =>
    toggle = true ∧ body.service.is_new = true ∧ PasswordRefused body.service.password
  | ⟨.proposals (.getProposals _), m⟩ => m = none
  | ⟨.proposals (.getProposal _ _), requested⟩ => ∀ r ∈ requested, r.password = ""
  | _ => False

/-- The answer of `serialize`. -/
def serializedData : (c : Op) → c.Ans → Option String
  | .lib (.serialize _), .ok data => some data
  | _, _ => none

/-- A serialized proposal is not empty. -/
def Serialized (c : Op) (r : c.Ans) : Prop := serializedData c r ≠ some ""

instance (c : Op) (r : c.Ans) : Decidable (Serialized c r) := inferInstanceAs (Decidable (serializedData c r ≠ some ""))

theorem Serialized.ne {proposal data : String} (h : Serialized (.lib (.serialize proposal)) (.ok data)) : data ≠ "" :=
  fun hempty => h (congrArg some hempty)

/-! ## The parts of the handler -/

section
variable {α β : Type} {body : SwapProposalBody} {log : Log}

/-- While nothing has failed since the first mark, `p` throws only when a call fails. -/
def Careful (body : SwapProposalBody) (p : Async α) : Prop :=
  ∀ log, Clean (SwapFails body) log →
    (historyOf Serialized).wp p log (fun _ => Clean (SwapFails body)) fun _ => Broken (SwapFails body)

theorem careful_bind {p : Async α} {f : α → Async β} (hp : Careful body p) (hf : ∀ a, Careful body (f a)) :
    Careful body (p >>= f) := fun log h =>
  (Protocol.wp_bind ..).mpr (Protocol.wp_mono _ (hp log h) (fun a log h => hf a log h) fun _ _ h => h)

theorem careful_lib {c : LibCall} (hok : ∀ a, ¬ SwapFails body ⟨.lib c, .ok a⟩) : Careful body (lib c) := fun _ h =>
  wp_lib_history (fun a _ => h.snoc (hok a) id) fun _ => h.fails trivial id rfl

theorem careful_ask {c : Op} (hp : Plain c) (hok : ∀ r, ¬ SwapFails body ⟨c, r⟩) : Careful body (ask c) := fun _ h =>
  ⟨trivial, fun r _ => h.snoc (hok r) hp⟩

theorem careful_await {p : Async α} (hp : Careful body p) : Careful body (await p) := fun log h =>
  wp_await_history (Protocol.wp_mono _ (hp log h) (fun _ _ h => h.snoc id id) fun _ _ h => h.snoc id rfl)

theorem careful_addSends (w : WalletRef) (proposal : String) (utxos : List OfferedUtxo) (changeAddress : Option String)
    (mark : Bool) (sends : List TokenToSend) : Careful body (addSends w proposal utxos changeAddress mark sends) := by
  induction sends with
  | nil => exact fun _ h => h
  | cons send sends ih =>
      refine careful_bind (fun log h => (Protocol.wp_bind ..).mpr ((Protocol.wp_attempt ..).mpr ?_)) fun _ => ih
      refine ⟨trivial, fun r _ => ⟨fun us hus => ?_, fun e he => ?_⟩⟩
      · subst hus
        exact h.snoc id id
      · subst he
        cases mark <;> exact h.fails trivial id rfl

theorem careful_addReceives (proposal : String) (receives : List TokenToReceive) :
    Careful body (addReceives proposal receives) := by
  induction receives with
  | nil => exact fun _ h => h
  | cons receive receives ih => exact careful_bind (careful_lib fun _ => id) fun _ => ih

/-- `await` of what only throws, once a call has failed. -/
theorem wp_await_broken {p : Async α} {post : α → Log → Prop}
    (h : (historyOf Serialized).wp p log (fun _ _ => False) fun _ => Broken (SwapFails body)) :
    (historyOf Serialized).wp (await p) log post fun _ => Broken (SwapFails body) :=
  wp_await_history (Protocol.wp_mono _ h (fun _ _ h => h.elim) fun _ _ h => h.snoc id rfl)

theorem wp_serviceCreate {walletId partialTx : String} {password : Option String}
    (h : Clean (SwapFails body) log) (hdata : partialTx ≠ "") (hpassword : ¬ PasswordRefused password) :
    (historyOf Serialized).wp (serviceCreate walletId partialTx password) log
      (fun _ => Clean (SwapFails body)) fun _ => Broken (SwapFails body) := by
  refine (Protocol.wp_ite ..).mpr ⟨fun hempty => absurd hempty hdata, fun _ => ?_⟩
  split
  next hnone => exact absurd hnone hpassword
  next password _ =>
    refine (Protocol.wp_bind ..).mpr (wp_lib_history (fun created _ => ?_) fun _ => h.fails trivial id rfl)
    refine (Protocol.wp_ite ..).mpr ⟨fun hsuccess => ?_, fun hsuccess => ?_⟩
    · have hclean : Clean (SwapFails body) (log ++ [⟨.lib (.swapCreate partialTx password), .ok created⟩]) := by
        refine h.snoc (fun hfails => ?_) id
        rw [show created.success = false from hfails] at hsuccess
        cases hsuccess
      have hadd : Careful body (await (addListenedProposal walletId created.id password)) :=
        careful_await (careful_ask id fun _ => id)
      exact (Protocol.wp_bind ..).mpr (hadd _ hclean)
    · exact h.fails (eq_false_of_ne_true hsuccess) id rfl

theorem wp_serviceUpdate {params : SwapUpdate} (h : Clean (SwapFails body) log) (hdata : params.partialTx ≠ "")
    (hpassword : params.password ≠ "") :
    (historyOf Serialized).wp (serviceUpdate params) log
      (fun _ => Clean (SwapFails body)) fun _ => Broken (SwapFails body) := by
  refine (Protocol.wp_ite ..).mpr ⟨fun hempty => absurd hempty hdata, fun _ => ?_⟩
  refine (Protocol.wp_ite ..).mpr ⟨fun hempty => absurd hempty hpassword, fun _ => ?_⟩
  refine (Protocol.wp_bind ..).mpr (wp_lib_history (fun updated _ => ?_) fun _ => h.fails trivial id rfl)
  refine (Protocol.wp_ite ..).mpr ⟨fun hupdated => ?_, fun hupdated => ?_⟩
  · exact h.snoc (fun hfails => by rw [show updated = false from hfails] at hupdated; cases hupdated) id
  · exact h.fails (eq_false_of_ne_true hupdated) id rfl

/-- Without a password, `serviceUpdate` throws. -/
theorem wp_serviceUpdate_refused {params : SwapUpdate} (h : Broken (SwapFails body) log)
    (hpassword : params.password = "") :
    (historyOf Serialized).wp (serviceUpdate params) log (fun _ _ => False) fun _ => Broken (SwapFails body) :=
  (Protocol.wp_ite ..).mpr ⟨fun _ => h, fun _ => (Protocol.wp_ite ..).mpr ⟨fun _ => h, fun hne => absurd hpassword hne⟩⟩

/-- The service has been told, or something has failed. -/
structure Told (body : SwapProposalBody) (told : Bool) (log : Log) : Prop where
  clean : told = true → Clean (SwapFails body) log
  broken : told = false → Broken (SwapFails body) log

theorem wp_updateProposal (walletId proposalId proposal : String) (version : Option Nat)
    (h : Clean (SwapFails body) log) :
    (historyOf Serialized).wp (updateProposal walletId proposalId fun password => do
        let partialTx ← serialize proposal
        return { proposalId := proposalId, password := password, partialTx := partialTx, version := version }) log
      (Told body) fun _ => Broken (SwapFails body) := by
  refine (Protocol.wp_bind ..).mpr (wp_await_history ⟨trivial, fun m _ => (Protocol.wp_bind ..).mpr ?_⟩)
  cases m with
  | none =>
      show Told body false _
      refine ⟨fun hfalse => (Bool.false_ne_true hfalse).elim, fun _ => ?_⟩
      have hbroken : Broken (SwapFails body) (log ++ [⟨.proposals (.getProposals walletId), none⟩]) := h.fails rfl id rfl
      exact hbroken.snoc id rfl
  | some m =>
      have hlisted : Clean (SwapFails body) (log ++ [⟨.proposals (.getProposals walletId), some m⟩] ++ [⟨.tick, ()⟩]) :=
        (h.snoc (e := ⟨.proposals (.getProposals walletId), some m⟩) (fun hnone => by cases hnone) id).snoc id id
      refine ⟨trivial, fun requested _ => ?_⟩
      cases requested with
      | none =>
          show Told body false _
          refine ⟨fun hfalse => (Bool.false_ne_true hfalse).elim, fun _ => ?_⟩
          exact hlisted.fails (e := ⟨.proposals (.getProposal m proposalId), none⟩) (fun r hr => by cases hr) id rfl
      | some requested =>
          by_cases hpassword : requested.password = ""
          · have hbroken := hlisted.fails (e := ⟨.proposals (.getProposal m proposalId), some requested⟩)
              (fun r hr => Option.some.inj hr ▸ hpassword) id rfl
            refine (Protocol.wp_bind ..).mpr ((Protocol.wp_bind ..).mpr ?_)
            refine Protocol.wp_mono _ (broken_keeps (lib_idle_marks _) _ hbroken) (fun partialTx _ h => ?_) fun _ _ h => h
            exact (Protocol.wp_bind ..).mpr (wp_await_broken (wp_serviceUpdate_refused h hpassword))
          · have hclean := hlisted.snoc (e := ⟨.proposals (.getProposal m proposalId), some requested⟩)
              (fun hfails => hpassword (hfails requested rfl)) id
            refine (Protocol.wp_bind ..).mpr ((Protocol.wp_bind ..).mpr ?_)
            refine wp_lib_history (fun partialTx hdata => ?_) fun _ => hclean.fails trivial id rfl
            refine (Protocol.wp_bind ..).mpr (wp_await_history ?_)
            refine Protocol.wp_mono _ (wp_serviceUpdate (hclean.snoc id id) (Serialized.ne hdata) hpassword) (fun _ _ h => ?_)
              fun _ _ h => h.snoc id rfl
            exact ⟨fun _ => h.snoc id id, fun hfalse => by cases hfalse⟩

theorem wp_tellService (walletId proposal : String) (h : Clean (SwapFails body) log) :
    (historyOf Serialized).wp (tellService walletId proposal body.service) log
      (fun told => Told body told.isSome) fun _ => Broken (SwapFails body) := by
  have hsaid {told : Option (Option String)} {log : Log} (h : Clean (SwapFails body) log) (hsome : told.isSome = true) :
      Told body told.isSome log := ⟨fun _ => h, fun hnone => by rw [hsome] at hnone; cases hnone⟩
  refine (Protocol.wp_bind ..).mpr ⟨trivial, fun toggle _ => ?_⟩
  by_cases hfails : SwapFails body ⟨.proposals .featureToggle, toggle⟩
  · -- the service is to create a proposal whose password it refuses
    have hbroken := h.fails hfails id rfl
    obtain ⟨htoggle, hnew, hpassword⟩ := hfails
    refine (Protocol.wp_ite ..).mpr ⟨fun _ => ?_, fun hoff => absurd htoggle hoff⟩
    refine (Protocol.wp_ite ..).mpr ⟨fun _ => (Protocol.wp_bind ..).mpr ?_, fun hold => absurd hnew hold⟩
    refine Protocol.wp_mono _ (broken_keeps (lib_idle_marks _) _ hbroken) (fun partialTx _ h => ?_) fun _ _ h => h
    refine (Protocol.wp_bind ..).mpr (wp_await_broken ((Protocol.wp_ite ..).mpr ⟨fun _ => h, fun _ => ?_⟩))
    rw [show body.service.password.filter _ = none from hpassword]
    exact h
  · have hclean := h.snoc hfails id
    refine (Protocol.wp_ite ..).mpr ⟨fun htoggle => ?_, fun _ => hsaid hclean rfl⟩
    refine (Protocol.wp_ite ..).mpr ⟨fun hnew => (Protocol.wp_bind ..).mpr ?_, fun _ => ?_⟩
    · have hpassword : ¬ PasswordRefused body.service.password := fun hpassword => hfails ⟨htoggle, hnew, hpassword⟩
      refine wp_lib_history (fun partialTx hdata => ?_) fun _ => hclean.fails trivial id rfl
      refine (Protocol.wp_bind ..).mpr (wp_await_history ?_)
      refine Protocol.wp_mono _ (wp_serviceCreate (hclean.snoc id id) (Serialized.ne hdata) hpassword) (fun _ _ h => ?_)
        fun _ _ h => h.snoc id rfl
      exact hsaid (h.snoc id id) rfl
    · split
      · exact hsaid hclean rfl
      next proposalId _ =>
        refine (Protocol.wp_bind ..).mpr (Protocol.wp_mono _
          (wp_updateProposal walletId proposalId proposal body.service.version hclean) (fun updated _ h => ?_) fun _ _ h => h)
        cases updated with
        | true => exact hsaid (h.clean rfl) rfl
        | false => exact ⟨fun hsome => (Bool.false_ne_true hsome).elim, fun _ => h.broken rfl⟩

/-- With the tokens to receive, a failure of the handler comes after an answer on which it gives up. -/
theorem completeProposal_settles (req : Req SwapProposalBody) (proposal : String) (utxos : List OfferedUtxo)
    (sends : List TokenToSend) (hreceive : req.body.receive.tokens.isSome = true) (h : Clean (SwapFails req.body) log) :
    (historyOf Serialized).wp (completeProposal req proposal utxos sends) log
      (fun _ => Settled (SwapFails req.body) fun _ _ => True)
      fun _ => Settled (SwapFails req.body) fun _ _ => True := by
  obtain ⟨receives, hreceive⟩ := Option.isSome_iff_exists.mp hreceive
  unfold completeProposal
  rw [hreceive]
  refine (Protocol.wp_tryCatch ..).mpr ((Protocol.wp_bind ..).mpr (Protocol.wp_mono _ (careful_addSends _ _ _ _ _ _ _ h)
    (fun _ _ h => ?_) fun _ _ h => ⟨trivial, fun _ _ => .failed h rfl⟩))
  refine (Protocol.wp_bind ..).mpr (Protocol.wp_mono _ (careful_addReceives _ _ _ h) (fun _ _ h => ?_)
    fun _ _ h => ⟨trivial, fun _ _ => .failed h rfl⟩)
  refine (Protocol.wp_bind ..).mpr (Protocol.wp_mono _ (wp_tellService _ _ h) (fun told _ h => ?_)
    fun _ _ h => ⟨trivial, fun _ _ => .failed h rfl⟩)
  cases told with
  | none => exact ⟨trivial, fun _ _ => .failed (h.broken rfl) rfl⟩
  | some createdProposalId =>
      have hread : Careful req.body (serialize proposal) := careful_lib fun _ => id
      have hcomplete : Careful req.body (partialTxComplete proposal) := careful_lib fun _ => id
      refine (Protocol.wp_bind ..).mpr (Protocol.wp_mono _ (hread _ (h.clean rfl)) (fun data _ h => ?_)
        fun _ _ h => ⟨trivial, fun _ _ => .failed h rfl⟩)
      refine (Protocol.wp_bind ..).mpr (Protocol.wp_mono _ (hcomplete _ h) (fun isComplete _ h => ?_)
        fun _ _ h => ⟨trivial, fun _ _ => .failed h rfl⟩)
      exact ⟨trivial, fun _ _ => .done h rfl trivial⟩

/-- Nothing has been marked, or the last that happened is the reply that the request has failed. -/
def Refused (log : Log) : Prop :=
  Unmarked log ∨ ∃ u, ∃ reply : Reply, log = u ++ [⟨.send reply, ()⟩] ∧ (∀ e ∈ u, Plain e.1) ∧ reply.body.success = false

/-- Without the tokens to receive, the handler fails after the tokens to send. -/
theorem completeProposal_refuses (req : Req SwapProposalBody) (proposal : String) (utxos : List OfferedUtxo)
    (sends : List TokenToSend) (hreceive : req.body.receive.tokens = none) (h : Clean (SwapFails req.body) log) :
    (historyOf Serialized).wp (completeProposal req proposal utxos sends) log (fun _ => Refused) fun _ => Refused := by
  have hreply {log : Log} (h : ∀ e ∈ log, Plain e.1) (error : String) :
      (historyOf Serialized).wp (sendError error) log (fun _ => Refused) fun _ => Refused :=
    ⟨trivial, fun _ _ => .inr ⟨log, _, rfl, h, rfl⟩⟩
  unfold completeProposal
  rw [hreceive]
  refine (Protocol.wp_tryCatch ..).mpr ((Protocol.wp_bind ..).mpr (Protocol.wp_mono _ (careful_addSends _ _ _ _ _ _ _ h)
    (fun _ _ h => hreply h.plain _) fun _ _ h => hreply h.plain _))

theorem offeredUtxos_idle (w : WalletRef) (utxos : List Utxo) : (offeredUtxos w utxos).Uses Idle := by
  induction utxos with
  | nil => exact uses_pure _
  | cons utxo utxos ih =>
      refine uses_bind (lib_idle_marks _) fun outputs => ?_
      split
      · exact ih
      · refine uses_bind (lib_idle_marks _) fun canUse => uses_ite ?_ ih
        split
        · exact Prog.uses_throw _ _
        · refine uses_bind (lib_idle_marks _) fun index => uses_bind ?_ fun _ => uses_bind ih fun _ => uses_pure _
          split
          · exact lib_idle_marks _
          · exact uses_pure _

theorem chosenUtxos_idle (w : WalletRef) (utxos : Option (List Utxo)) : (chosenUtxos w utxos).Uses Idle := by
  unfold chosenUtxos
  split
  · exact uses_pure _
  · refine uses_bind (offeredUtxos_idle w _) fun offered => ?_
    split
    · exact Prog.uses_throw _ _
    · exact uses_pure _

/-- Up to the tokens, the handler marks nothing. -/
theorem wp_swapBuildTxProposal (req : Req SwapProposalBody) {R : Log → Prop} (hthrow : ∀ log, Unmarked log → R log)
    (hrefuse : ∀ log (reply : Reply), Unmarked log → reply.body.success = false → R (log ++ [⟨.send reply, ()⟩]))
    (hcomplete : ∀ proposal utxos sends log, Unmarked log →
      (historyOf Serialized).wp (completeProposal req proposal utxos sends) log (fun _ => R) fun _ => R) :
    (historyOf Serialized).wp (swapBuildTxProposal req) [] (fun _ => R) fun _ => R := by
  have hidle {α : Type} {p : Async α} (hp : p.Uses Idle) :
      (tryCatch (Except.ok <$> p) fun e => return .error e : Async (Except JsError α)).Uses Idle :=
    uses_tryCatch (uses_map hp) fun _ => uses_pure _
  unfold swapBuildTxProposal validated
  split
  · exact ⟨trivial, fun _ _ => hrefuse _ _ unmarked_nil rfl⟩
  split
  · exact hthrow _ unmarked_nil
  refine (Protocol.wp_bind ..).mpr ((Protocol.wp_orThrow ..).mpr ⟨fun empty _ => ?_, fun _ _ => hthrow _ unmarked_nil⟩)
  refine (Protocol.wp_ite ..).mpr ⟨fun _ => ⟨trivial, fun _ _ => hrefuse _ _ unmarked_nil rfl⟩, fun _ => ?_⟩
  refine (Protocol.wp_bind ..).mpr (Protocol.wp_mono _ (unmarked_keeps (hidle ?_) _ unmarked_nil)
    (fun proposal _ h => ?_) fun _ _ h => hthrow _ h)
  · split
    · exact lib_idle_marks _
    · exact lib_idle_marks _
  split
  · exact ⟨trivial, fun _ _ => hrefuse _ _ h rfl⟩
  refine (Protocol.wp_bind ..).mpr (Protocol.wp_mono _ (unmarked_keeps (hidle (chosenUtxos_idle _ _)) _ h)
    (fun utxos _ h => ?_) fun _ _ h => hthrow _ h)
  split
  · exact ⟨trivial, fun _ _ => hrefuse _ _ h rfl⟩
  · exact hcomplete _ _ _ _ h

end

/-! ## Runs -/

/-- Something fails after a new mark, be it that the tokens to receive are missing. -/
def FailsAfterMark (body : SwapProposalBody) (s₀ : Server) (log : Log) : Prop :=
  (body.receive.tokens = none ∧ ∃ e ∈ log, NewMark s₀ e) ∨ Follows (NewMark s₀) (SwapFails body) log

section
variable {s₀ : Server} {S : Service} {p : Proc Op.Ans JsError Unit Request} {req : Req SwapProposalBody}

theorem swap_settles (h : MarkRun Request.handle s₀ S) (hp : S.procs = [p]) (hend : p.rest.Ended)
    (hreq : p.req = .swapBuildTxProposal req) (hserialized : ∀ e ∈ p.log, Serialized e.1 e.2) {R : Log → Prop}
    (hthrow : ∀ log, Unmarked log → R log)
    (hrefuse : ∀ log (reply : Reply), Unmarked log → reply.body.success = false → R (log ++ [⟨.send reply, ()⟩]))
    (hcomplete : ∀ proposal utxos sends log, Unmarked log →
      (historyOf Serialized).wp (completeProposal req proposal utxos sends) log (fun _ => R) fun _ => R) : R p.log := by
  have hwp := wp_swapBuildTxProposal req hthrow hrefuse hcomplete
  refine history_ended (h.steps_one hp) ?_ hend hserialized
  rw [hreq]
  exact hwp

/-- A swap proposal that runs alone and replies that it has failed leaves the marks as they were exactly when nothing
fails after `addSend` has marked a utxo that was not marked before the request. -/
theorem swap_failureKeeps_iff (h : MarkRun Request.handle s₀ S) (hp : S.procs = [p]) (hend : p.rest.Ended)
    (hreq : p.req = .swapBuildTxProposal req) (hserialized : ∀ e ∈ p.log, Serialized e.1 e.2) :
    FailureKeeps s₀ S.state p.log ↔ ¬ FailsAfterMark req.body s₀ p.log := by
  have htie := h.tie hp
  cases hreceive : req.body.receive.tokens with
  | some receives =>
      have hsettled : Settled (SwapFails req.body) (fun _ _ => True) p.log :=
        swap_settles h hp hend hreq hserialized (fun _ => .thrown) (fun _ _ => .untouched) fun proposal utxos sends _ hlog =>
          completeProposal_settles req proposal utxos sends (by rw [hreceive]; rfl) hlog.clean
      rw [hsettled.failureKeeps_iff (fun _ => id) htie, FailsAfterMark, hreceive]
      simp
  | none =>
      have hrefused : Refused p.log :=
        swap_settles h hp hend hreq hserialized (fun _ => .inl)
          (fun log reply hlog hr => .inr ⟨log, reply, rfl, fun e he => (hlog e he).1, hr⟩) fun proposal utxos sends _ hlog =>
            completeProposal_refuses req proposal utxos sends hreceive hlog.clean
      have hspoiled : FailsAfterMark req.body s₀ p.log ↔ ∃ e ∈ p.log, NewMark s₀ e :=
        ⟨fun hfails => hfails.elim And.right fun hfollows => hfollows.mem.1, fun hnew => .inl ⟨hreceive, hnew⟩⟩
      rw [hspoiled]
      rcases hrefused with hlog | ⟨u, reply, hu, hplain, hr⟩
      · exact iff_of_true (fun reply hreply => (hlog _ hreply).1.elim) hlog.not_new
      · have hkeeps : ∀ e ∈ p.log, ¬ Unmarks e.1 := by
          rw [hu]
          exact sent_keeps hplain reply
        rw [← htie.sameMarks_iff hkeeps]
        exact ⟨fun hsame => hsame reply (by simp [hu]) hr, fun hsame _ _ _ => hsame⟩

end

/-- A request sends one token and receives one. -/
def swapsOne : Request :=
  .swapBuildTxProposal { walletId := "w", wallet := 0, body := {
    send := { tokens := some [{ value := 1 }] }, receive := { tokens := some [{ value := 1 }] } } }

/-- `addSend` fails. -/
theorem addSend_fails_keeps : ∃ (S : Service) (p : Proc Op.Ans JsError Unit Request),
    p.req = swapsOne ∧ p.log.length = 3 ∧ FailureKeeps (oneWallet none) S.state p.log := by
  obtain ⟨S, p, hS, hp, hend, hreq, hlength, hserialized, hnone⟩ := MarkRun.of_exec Request.handle
    [comes swapsOne, fails 0] (oneWallet none) (fun _ p => p.req = swapsOne ∧ p.log.length = 3 ∧
      (∀ e ∈ p.log, Serialized e.1 e.2) ∧ ¬ ∃ e ∈ p.log, NewMark (oneWallet none) e) (by decide +kernel)
  refine ⟨S, p, hreq, hlength, (swap_failureKeeps_iff hS hp hend hreq hserialized).mpr fun hfails => ?_⟩
  exact hfails.elim (fun h => hnone h.2) fun h => hnone h.mem.1

/-- `addSend` marks a utxo. -/
def sendsOne : Step :=
  .resume 0 fun _ c => match c with
    | .wallet (.addSend ..) => .ok [utxo 0]
    | c => Op.granted (spending "" 0) c

/-- The reply that the request has failed. -/
def failureReply : Event Op.Ans → Option Reply
  | ⟨.send reply, _⟩ => if reply.body.success then none else some reply
  | _ => none

theorem eq_of_failureReply {e : Event Op.Ans} {reply : Reply} (h : failureReply e = some reply) :
    e = ⟨.send reply, ()⟩ ∧ reply.body.success = false := by
  obtain ⟨c, r⟩ := e
  cases c with
  | send reply' =>
      obtain ⟨hr, he⟩ := Option.ite_none_left_eq_some.mp h
      cases he
      exact ⟨rfl, eq_false_of_ne_true hr⟩
  | _ => cases h

/-- A token to send is added and its utxo marked, a token to receive fails, and the utxo stays marked. -/
theorem send_then_receive_fails : ∃ (S : Service) (p : Proc Op.Ans JsError Unit Request),
    MarkRun Request.handle (oneWallet none) S ∧ S.procs = [p] ∧ p.rest.Ended ∧ p.req = swapsOne ∧
      S.state.selected = [(0, utxo 0)] ∧ ¬ FailureKeeps (oneWallet none) S.state p.log := by
  obtain ⟨S, p, hS, hp, hend, hreq, hsel, e, he, hfailure⟩ := MarkRun.of_exec Request.handle
    [comes swapsOne, sendsOne, fails 0] (oneWallet none) (fun s p => p.req = swapsOne ∧ s.selected = [(0, utxo 0)] ∧
      ∃ e ∈ p.log, (failureReply e).isSome = true) (by decide +kernel)
  refine ⟨S, p, hS, hp, hend, hreq, hsel, fun hkeeps => ?_⟩
  obtain ⟨reply, hreply⟩ := Option.isSome_iff_exists.mp hfailure
  obtain ⟨rfl, hfalse⟩ := eq_of_failureReply hreply
  have hsame := (hkeeps reply he hfalse (0, utxo 0)).mp (by rw [hsel]; simp)
  cases hsame

end WalletHeadless
