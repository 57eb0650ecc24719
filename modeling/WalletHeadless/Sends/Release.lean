import WalletHeadless.Sends.LockUse

/-!
# When a handler gives its SEND_TX lock back

* `Request.TakesLock`: the handlers that take the lock;
* `SendTxBody.FundsOk`: nothing throws in `sendTx` before its `try`;
* `Request.handle_done`: when a handler ends it has given back what it took, exactly when the request is
  `Request.Clean`.
-/

namespace WalletHeadless

open Coop Js
open Prog (uses_ask uses_orThrow)

/-- The handlers that take the SEND_TX lock. -/
def Request.TakesLock : Request → Prop
  | simpleSendTx _ | sendTx _ | createToken _ | mintTokens _ | meltTokens _ | utxoConsolidation _ => True
  | createNft _ | createNanoContract _ | executeNanoContractMethod _ | createOnChainBlueprint _ => True
  | runTemplate _ | buildTemplate _ | p2shSignAndPush _ | swapSignAndPush _ | unlockInputs _ => True
  | _ => False

theorem lib_work (c : LibCall) : (lib c).Uses WorkOp := (uses_ask (c := Op.lib c) trivial).attempt

theorem send_work (body : ReplyBody) : (send body).Uses WorkOp := uses_ask trivial

theorem checkChangeAddress_work (w : WalletRef) (a : Option String) :
    (checkChangeAddress w a).Uses WorkOp := by
  unfold checkChangeAddress
  split
  · exact uses_pure _
  · exact uses_bind (lib_work _) fun _ => uses_ite (uses_pure _) (uses_throwThe _)

/-! ## The handlers of `lockedSend` -/

section
variable {u : UnlockFn} {log : Log}

theorem wp_sendThen (w : WalletRef) (b : Build) {k : Transaction → Async ReplyBody}
    (hk : ∀ tx, (k tx).Uses WorkOp) (h : OnlyTakes u log) :
    (history Op.Ans).wp (do
      let tx ← buildAndSend w b u
      k tx) log (fun _ => Back (OnlyTakes u) u) fun _ => OnlyTakes u := by
  have hs := stable_onlyTakes u
  refine (Protocol.wp_bind ..).mpr ?_
  refine Protocol.wp_mono _ (hs.wp_buildAndSend (fun _ => LateOp.plain) w b h) (fun tx log hb => ?_)
    fun _ _ h => h
  exact Protocol.wp_mono _ (hs.back.works (hk tx) hb) (fun _ _ hb => hb) fun _ _ hb => hb.1

theorem wp_checkedSendThen (w : WalletRef) (a : Option String) (b : Build) {k : Transaction → Async ReplyBody}
    (hk : ∀ tx, (k tx).Uses WorkOp) (h : OnlyTakes u log) :
    (history Op.Ans).wp (do
      checkChangeAddress w a
      let tx ← buildAndSend w b u
      k tx) log (fun _ => Back (OnlyTakes u) u) fun _ => OnlyTakes u := by
  refine (Protocol.wp_bind ..).mpr ?_
  exact Protocol.wp_mono _ ((stable_onlyTakes u).works (checkChangeAddress_work w a) h)
    (fun _ _ h => wp_sendThen w b hk h) fun _ _ h => h

/-- A transaction that was assembled elsewhere is signed and pushed. -/
theorem wp_pushThen (w : WalletRef) {p : Async Transaction} (hp : p.Uses WorkOp) (h : OnlyTakes u log) :
    (history Op.Ans).wp (do
      let tx ← p
      let response ← await (runSendTransaction w { transaction := some tx } u)
      return ReplyBody.tx (mapTxReturn response)) log (fun _ => Back (OnlyTakes u) u) fun _ => OnlyTakes u := by
  have hs := stable_onlyTakes u
  refine (Protocol.wp_bind ..).mpr ?_
  refine Protocol.wp_mono _ (hs.works hp h) (fun tx log h => ?_) fun _ _ h => h
  refine (Protocol.wp_bind ..).mpr ?_
  exact Protocol.wp_mono _
    (hs.wp_await trivial (hs.wp_runSendTransaction (fun _ => LateOp.plain) w { transaction := some tx } h))
    (fun _ _ hb => hb) fun _ _ hb => hb.1

end

theorem tokenReply_work (tx : Transaction) : (tokenReply tx).Uses WorkOp :=
  uses_bind (lib_work _) fun _ => uses_pure _

theorem assemblePartialTransaction_work (w : WalletRef) (txHex : String) (signatures : List String) :
    (assemblePartialTransaction w txHex signatures).Uses WorkOp :=
  uses_bind (lib_work _) fun _ => uses_ite (uses_throwThe _)
    (uses_bind (lib_work _) fun _ => uses_bind (lib_work _) fun _ => uses_pure _)

theorem addAllSignatures_work (inputData : String) (signatures : List String) :
    (addAllSignatures inputData signatures).Uses WorkOp := by
  induction signatures generalizing inputData with
  | nil => exact uses_pure _
  | cons sig sigs ih => exact uses_bind (lib_work _) fun _ => ih _

theorem assembleTransaction_work (w : WalletRef) (partialTx : String) (signatures : List String) :
    (assembleTransaction w partialTx signatures).Uses WorkOp :=
  uses_bind (lib_work _) fun _ => uses_bind (lib_work _) fun _ => uses_bind (lib_work _) fun _ =>
    uses_bind (lib_work _) fun _ => uses_bind (addAllSignatures_work _ _) fun _ =>
      uses_bind (lib_work _) fun _ => uses_ite (lib_work _) (uses_throwThe _)

/-! ## The templates -/

theorem wp_debugSend {u : UnlockFn} {log : Log} (w : WalletRef) (debug : Bool) (b : Build)
    (h : OnlyTakes u log) :
    (history Op.Ans).wp (do
      (if debug then enableDebugMode w else pure ())
      let tx ← buildAndSend w b u
      send (.tx (mapTxReturn tx))) log (fun _ => Back (OnlyTakes u) u) fun _ => OnlyTakes u := by
  have hs := stable_onlyTakes u
  refine (Protocol.wp_bind ..).mpr ?_
  refine Protocol.wp_mono _ (hs.works (uses_ite (lib_work _) (uses_pure _)) h) (fun _ log h => ?_)
    fun _ _ h => h
  refine (Protocol.wp_bind ..).mpr ?_
  refine Protocol.wp_mono _ (hs.wp_buildAndSend (fun _ => LateOp.plain) _ _ h) (fun tx log hb => ?_)
    fun _ _ h => h
  exact Protocol.wp_mono _ (hs.back.works (send_work _) hb) (fun _ _ hb => hb) fun _ _ hb => hb.1

theorem runTemplate_givesBack (req : Req TemplateBody) :
    (history Op.Ans).wp (runTemplate req) [] (fun _ => GivesBack) fun _ => GivesBack := by
  refine wp_validated_history req (fun _ => givesBack_of_not_taken) (wp_lockSendTx_history ?_ ?_)
  · exact fun log h => wp_send_untaken h (fun _ => givesBack_of_not_taken) _
  · intro u log h _ _
    have hs := stable_onlyTakes u
    have hlast (log : Log) (hb : Back (OnlyTakes u) u log) :
        (history Op.Ans).wp (disableDebugMode req.wallet) log (fun _ => GivesBack) fun _ => GivesBack :=
      Protocol.wp_mono _ (hs.back.works (lib_work _) hb) (fun _ _ hb => hb.givesBack) fun _ _ hb => hb.givesBack
    refine (Protocol.wp_andFinally ..).mpr ((Protocol.wp_tryCatch ..).mpr ?_)
    refine Protocol.wp_mono _ (wp_debugSend _ _ _ h) (fun _ log hb => hlast log hb) fun e log h => ?_
    refine (Protocol.wp_bind ..).mpr (hs.wp_unlock h fun log hb => ?_)
    exact Protocol.wp_mono _ (hs.back.works (send_work _) hb) (fun _ log hb => hlast log hb)
      fun _ log hb => hlast log hb

theorem buildTemplate_givesBack (req : Req TemplateBody) :
    (history Op.Ans).wp (buildTemplate req) [] (fun _ => GivesBack) fun _ => GivesBack := by
  refine wp_validated_history req (fun _ => givesBack_of_not_taken) (wp_lockSendTx_history ?_ ?_)
  · exact fun log h => wp_send_untaken h (fun _ => givesBack_of_not_taken) _
  · intro u log h _ _
    have hs := stable_onlyTakes u
    have hlast (log : Log) (h : OnlyTakes u log) :
        (history Op.Ans).wp (do
          unlock u
          disableDebugMode req.wallet) log (fun _ => GivesBack) fun _ => GivesBack := by
      refine (Protocol.wp_bind ..).mpr (hs.wp_unlock h fun log hb => ?_)
      exact Protocol.wp_mono _ (hs.back.works (lib_work _) hb) (fun _ _ hb => hb.givesBack)
        fun _ _ hb => hb.givesBack
    refine (Protocol.wp_andFinally ..).mpr ?_
    refine Protocol.wp_mono _ (hs.works (uses_tryCatch ?_ fun _ => send_work _) h) (fun _ log h => hlast log h)
      fun _ log h => hlast log h
    refine uses_bind (uses_ite (lib_work _) (uses_pure _)) fun _ =>
      uses_bind ((buildTransaction_uses _ _).mono fun _ => BuildOp.work) fun sendTx => ?_
    split
    · exact uses_throwThe _
    · exact uses_bind (lib_work _) fun _ => send_work _

/-! ## `sendTx` -/

/-- The amounts that `prepareTxFunds` looks for. -/
def SendTxBody.amounts (body : SendTxBody) : Except JsError (Js.Map String Nat) :=
  tokenAmounts ((truthy body.token).getD NATIVE_TOKEN_UID) body.outputs .empty

/-- An answer that makes `sendTx` throw before its `try`. -/
def SendTxBody.Fails (body : SendTxBody) : Event Op.Ans → Prop
  | ⟨.lib (.getUtxos _ _), .error _⟩ => True
  | ⟨.lib (.getUtxos _ query), .ok details⟩ => ∃ amounts, body.amounts = .ok amounts ∧
    ∃ t ∈ amounts.entries, (∃ options, query = options ++ [("token", t.1)] ++ [("only_available_utxos", "true")]) ∧
      details.utxos = [] ∧ t.2 ≤ details.total_amount_available
  | ⟨.lib (.enableDebugMode _), .error _⟩ => True
  | _ => False

/-- Every output has a value, and no answer makes `sendTx` throw before its `try`. -/
def SendTxBody.FundsOk (body : SendTxBody) (log : Log) : Prop :=
  (∃ amounts, body.amounts = .ok amounts) ∧ ∀ e ∈ log, ¬ body.Fails e

theorem sortUtxos_eq_nil (utxos : List UtxoDetail) : sortUtxos utxos = [] ↔ utxos = [] := by
  rw [sortUtxos, ← List.length_eq_zero_iff, List.length_insertionSort, List.length_eq_zero_iff]

/-- `getUtxosToFillTx` throws when it is told of an amount but of no utxos. -/
theorem selectUtxos_error_iff (sumOutputs : Nat) (details : UtxosDetails) :
    (∃ e, selectUtxos sumOutputs details = .error e) ↔
      details.utxos = [] ∧ sumOutputs ≤ details.total_amount_available := by
  unfold selectUtxos
  split
  next h => simp; omega
  next h =>
    dsimp only
    split
    next hs => simp [(sortUtxos_eq_nil _).mp hs]; omega
    next first rest hs =>
      have hne : details.utxos ≠ [] := by
        intro he
        rw [(sortUtxos_eq_nil _).mpr he] at hs
        cases hs
      simp only [hne, false_and, iff_false, not_exists]
      intro e
      split
      · split <;> simp
      · simp

/-- What a log of `sendTx` satisfies while nothing has failed. -/
structure Funded (body : SendTxBody) (u : UnlockFn) (log : Log) : Prop where
  only : OnlyTakes u log
  clean : ∀ e ∈ log, ¬ body.Fails e

theorem LateOp.not_fails {c : Op} (h : LateOp c) (body : SendTxBody) (r : c.Ans) : ¬ body.Fails ⟨c, r⟩ := by
  cases c with
  | lib c => cases c <;> first | exact h.elim | exact id
  | _ => exact id

theorem Funded.snoc {body : SendTxBody} {u : UnlockFn} {log : Log} {e : Event Op.Ans}
    (h : Funded body u log) (htakes : takes e = none) (hfails : ¬ body.Fails e) :
    Funded body u (log ++ [e]) := by
  refine ⟨h.only.snoc htakes, fun e' he => ?_⟩
  rcases List.mem_append.mp he with he | he
  · exact h.clean e' he
  · cases List.mem_singleton.mp he
    exact hfails

theorem stable_funded (body : SendTxBody) (u : UnlockFn) : Stable LateOp u (Funded body u) :=
  ⟨fun _ h => (h.only _).mpr rfl, fun _ _ r hc h => h.snoc (hc.plain.takes r) (hc.not_fails body r),
    fun _ h => h.snoc rfl id⟩

/-- What a log of `sendTx` satisfies at its end. -/
def SendTxBody.Done (body : SendTxBody) (log : Log) : Prop :=
  (∃ a, Taken log a) → (GivesBack log ↔ body.FundsOk log)

theorem Funded.done {body : SendTxBody} {u : UnlockFn} {log : Log} (h : Back (Funded body u) u log)
    {amounts : Js.Map String Nat} (ha : body.amounts = .ok amounts) : body.Done log :=
  fun _ => iff_of_true (Back.givesBack ⟨h.1.only, h.2⟩) ⟨⟨amounts, ha⟩, h.1.clean⟩

theorem done_of_not_taken (body : SendTxBody) {log : Log} (h : ∀ a, ¬ Taken log a) : body.Done log :=
  fun ht => ht.elim fun a ha => absurd ha (h a)

/-- `sendTx` has the lock, and nothing has failed. -/
structure Looking (body : SendTxBody) (u : UnlockFn) (log : Log) : Prop where
  funded : Funded body u log
  kept : ¬ Given log (.closure u)

/-- `sendTx` has thrown with the lock in its hands. -/
structure Stranded (body : SendTxBody) (u : UnlockFn) (log : Log) : Prop where
  taken : Taken log (.closure u)
  kept : ¬ Given log (.closure u)
  failed : ¬ body.FundsOk log

section
variable {body : SendTxBody} {u : UnlockFn} {log : Log} {e : Event Op.Ans}

theorem Looking.snoc (h : Looking body u log) (htakes : takes e = none) (hgives : gives e = none)
    (hfails : ¬ body.Fails e) : Looking body u (log ++ [e]) :=
  ⟨h.funded.snoc htakes hfails, by simpa [given_snoc, hgives] using h.kept⟩

theorem Looking.taken (h : Looking body u log) : Taken log (.closure u) := (h.funded.only _).mpr rfl

theorem Looking.fail (h : Looking body u log) (hgives : gives e = none) (hfails : body.Fails e) :
    Stranded body u (log ++ [e]) :=
  ⟨(taken_snoc ..).mpr (.inl h.taken), by simpa [given_snoc, hgives] using h.kept,
    fun hok => hok.2 e (by simp) hfails⟩

theorem Stranded.snoc (h : Stranded body u log) (hgives : gives e = none) : Stranded body u (log ++ [e]) :=
  ⟨(taken_snoc ..).mpr (.inl h.taken), by simpa [given_snoc, hgives] using h.kept,
    fun hok => h.failed ⟨hok.1, fun e he => hok.2 e (List.mem_append_left _ he)⟩⟩

theorem Stranded.done (h : Stranded body u log) : body.Done log :=
  fun _ => iff_of_false (fun hg => h.kept (hg _ h.taken)) h.failed

/-- What is found for one token fails exactly when `getUtxosToFillTx` throws. -/
theorem fails_getUtxos_iff {amounts : Js.Map String Nat} (ha : body.amounts = .ok amounts) {t : String × Nat}
    (ht : t ∈ amounts.entries) (w : WalletRef) (options : Query) (details : UtxosDetails) :
    body.Fails ⟨.lib (.getUtxos w (options ++ [("token", t.1)] ++ [("only_available_utxos", "true")])),
        .ok details⟩ ↔ ∃ e, selectUtxos t.2 details = .error e := by
  rw [selectUtxos_error_iff]
  constructor
  · rintro ⟨amounts', ha', t', ht', ⟨options', ho⟩, hnil, hle⟩
    rw [ha] at ha'
    cases ha'
    obtain ⟨ho, -⟩ := List.append_inj' ho rfl
    obtain ⟨-, ho⟩ := List.append_inj' ho rfl
    have htt : t' = t := List.inj_on_of_nodup_map amounts.nodup ht' ht (by simpa using ho.symm)
    rw [htt] at hle
    exact ⟨hnil, hle⟩
  · rintro ⟨hnil, hle⟩
    exact ⟨amounts, ha, t, ht, ⟨options, rfl⟩, hnil, hle⟩

theorem wp_getUtxosToFillTx {amounts : Js.Map String Nat} (ha : body.amounts = .ok amounts) {t : String × Nat}
    (ht : t ∈ amounts.entries) (w : WalletRef) (options : Query) (h : Looking body u log) :
    (history Op.Ans).wp (getUtxosToFillTx w t.2 (options ++ [("token", t.1)])) log
      (fun _ => Looking body u) fun _ => Stranded body u := by
  refine (Protocol.wp_bind ..).mpr ((Protocol.wp_attempt ..).mpr ⟨trivial, fun r _ => ?_⟩)
  have hiff := fails_getUtxos_iff ha ht w options
  refine ⟨fun details hr => (Protocol.wp_orThrow ..).mpr ⟨fun utxos hs => ?_, fun e hs => ?_⟩, fun e hr => ?_⟩
  · subst hr
    refine h.snoc rfl rfl fun hf => ?_
    obtain ⟨e, he⟩ := (hiff details).mp hf
    rw [hs] at he
    cases he
  · subst hr
    exact h.fail rfl ((hiff details).mpr ⟨e, hs⟩)
  · subst hr
    exact h.fail rfl trivial

/-- The loop over the tokens. -/
theorem wp_queryInputs {amounts : Js.Map String Nat} (ha : body.amounts = .ok amounts) (w : WalletRef)
    (options : Query) (tokens : List (String × Nat)) (htokens : ∀ t ∈ tokens, t ∈ amounts.entries)
    (h : Looking body u log) :
    (history Op.Ans).wp (queryInputs w options tokens) log (fun _ => Looking body u)
      fun _ => Stranded body u := by
  induction tokens generalizing log with
  | nil => exact h
  | cons t tokens ih =>
      refine (Protocol.wp_bind ..).mpr (wp_await_history ?_)
      refine Protocol.wp_mono _ (wp_getUtxosToFillTx ha (htokens t (by simp)) w options h) (fun utxos log h => ?_)
        fun _ _ h => h.snoc rfl
      have h' := h.snoc (e := ⟨.tick, ()⟩) rfl rfl id
      cases utxos with
      | none => exact h'
      | some utxos =>
          refine (Protocol.wp_bind ..).mpr ?_
          refine Protocol.wp_mono _ (ih (fun t ht => htokens t (by simp [ht])) h') (fun rest log h => ?_)
            fun _ _ h => h
          cases rest <;> exact h

/-- The request names its inputs, leaves them to `wallet-lib`, or asks for utxos. -/
theorem wp_prepareTxFunds (w : WalletRef) (h : Looking body u log) :
    (history Op.Ans).wp (prepareTxFunds w body.outputs (body.inputs.getD [])
        ((truthy body.token).getD NATIVE_TOKEN_UID)) log
      (fun _ log => Looking body u log ∧ ∃ amounts, body.amounts = .ok amounts)
      fun _ => Stranded body u := by
  refine (Protocol.wp_bind ..).mpr ((Protocol.wp_orThrow ..).mpr ⟨fun amounts ha => ?_, fun e he => ?_⟩)
  · dsimp only
    split
    · exact ⟨h, amounts, ha⟩
    · refine (Protocol.wp_bind ..).mpr ?_
      refine Protocol.wp_mono _ (wp_queryInputs ha w _ _ (fun t ht => ht) h) (fun r log h => ?_) fun _ _ h => h
      cases r <;> exact ⟨h, amounts, ha⟩
    · exact ⟨h, amounts, ha⟩
  · refine ⟨h.taken, h.kept, fun hok => ?_⟩
    obtain ⟨amounts, ha⟩ := hok.1
    rw [SendTxBody.amounts, he] at ha
    cases ha

end

/-- The `try` of `sendTx`. -/
theorem wp_sendTx_try (req : Req SendTxBody) {u : UnlockFn} {log : Log} {amounts : Js.Map String Nat}
    (ha : req.body.amounts = .ok amounts) (b : Build) (debug : Bool) (h : Funded req.body u log) :
    (history Op.Ans).wp (Prog.andFinally (tryCatch (do
      let tx ← buildAndSend req.wallet b u
      send (.tx (mapTxReturn tx))) fun err => do
        unlock u
        sendError err.message) (if debug then disableDebugMode req.wallet else pure ())) log
      (fun _ => req.body.Done) fun _ => req.body.Done := by
  have hs := stable_funded req.body u
  have hlast (log : Log) (hb : Back (Funded req.body u) u log) :
      (history Op.Ans).wp (if debug then disableDebugMode req.wallet else pure ()) log
        (fun _ => req.body.Done) fun _ => req.body.Done :=
    Protocol.wp_mono _ (hs.back.uses (uses_ite (uses_ask (c := Op.lib _) trivial).attempt (uses_pure _)) hb)
      (fun _ _ hb => Funded.done hb ha) fun _ _ hb => Funded.done hb ha
  have hsend (body : ReplyBody) : (send body).Uses LateOp := uses_ask trivial
  refine (Protocol.wp_andFinally ..).mpr ((Protocol.wp_tryCatch ..).mpr ((Protocol.wp_bind ..).mpr ?_))
  refine Protocol.wp_mono _ (hs.wp_buildAndSend (fun _ => id) _ b h) (fun tx log hb => ?_) fun e log h => ?_
  · exact ⟨trivial, fun r _ => hlast _ (hs.back.call log (.send _) r trivial hb)⟩
  · refine (Protocol.wp_bind ..).mpr (hs.wp_unlock h fun log hb => ?_)
    exact ⟨trivial, fun r _ => hlast _ (hs.back.call log (.send _) r trivial hb)⟩

theorem sendTx_done (req : Req SendTxBody) :
    (history Op.Ans).wp (sendTx req) [] (fun _ => req.body.Done) fun _ => req.body.Done := by
  refine wp_validated_history req (fun _ => done_of_not_taken _) (wp_lockSendTx_history ?_ ?_)
  · exact fun log h => wp_send_untaken h (fun _ => done_of_not_taken _) _
  · intro u log h hkept hall
    have hs := stable_funded req.body u
    have hlooking : Looking req.body u log := by
      refine ⟨⟨h, fun e he => ?_⟩, hkept⟩
      rw [hall e he]
      exact id
    refine (Protocol.wp_bind ..).mpr (wp_await_history ?_)
    refine Protocol.wp_mono _ (wp_prepareTxFunds req.wallet hlooking) (fun funds log h => ?_)
      fun _ _ h => (h.snoc rfl).done
    obtain ⟨h, amounts, ha⟩ := h
    replace h := h.snoc (e := ⟨.tick, ()⟩) rfl rfl id
    cases funds with
    | error token =>
        refine (Protocol.wp_bind ..).mpr (hs.wp_unlock h.funded fun log hb => ?_)
        exact ⟨trivial, fun r _ => Funded.done (hs.back.call log (.send _) r trivial hb) ha⟩
    | ok funds =>
        refine (Protocol.wp_bind ..).mpr ((Protocol.wp_ite ..).mpr ⟨fun _ => ?_, fun _ => ?_⟩)
        · refine (Protocol.wp_attempt ..).mpr ⟨trivial, fun r _ => ⟨fun _ hr => ?_, fun e hr => ?_⟩⟩
          · subst hr
            exact wp_sendTx_try req ha _ _ (h.funded.snoc rfl id)
          · subst hr
            exact (h.fail (e := ⟨.lib (.enableDebugMode req.wallet), .error e⟩) rfl trivial).done
        · exact wp_sendTx_try req ha _ _ h.funded

/-! ## `unlockInputs` -/

/-- The lookups of the lock have all found the same one. -/
def SameLock (log : Log) : Prop := ∀ l l', Found log l → Found log l' → l = l'

/-- What a log of `unlockInputs` satisfies at its end. -/
def UnlockDone (log : Log) : Prop := (∃ a, Taken log a) → (GivesBack log ↔ SameLock log)

/-- The lock `l` was released by itself, not by an unlock function. -/
def ReleasedOn (log : Log) (l : LockRef) : Prop := ∃ e ∈ log, gives e = some (.lock l)

instance (log : Log) (l : LockRef) : Decidable (ReleasedOn log l) :=
  inferInstanceAs (Decidable (∃ e ∈ log, gives e = some (.lock l)))

theorem releasedOn_snoc (log : Log) (e : Event Op.Ans) (l : LockRef) :
    ReleasedOn (log ++ [e]) l ↔ ReleasedOn log l ∨ gives e = some (.lock l) := by
  simp [ReleasedOn, or_and_right, exists_or]

/-- `unlockInputs` has found the lock `l`, taken it and given nothing back. -/
structure Locked (l : LockRef) (log : Log) : Prop where
  taken : ∀ a, Taken log a ↔ a = .lock l
  found : ∀ l', Found log l' ↔ l' = l
  kept : ∀ a, ¬ Given log a
  held : ∀ l', ¬ ReleasedOn log l'

theorem Locked.plain {l : LockRef} {log : Log} (h : Locked l log) {c : Op} (hc : PlainOp c) (r : c.Ans) :
    Locked l (log ++ [⟨c, r⟩]) where
  taken a := by rw [taken_snoc, hc.takes]; simpa using h.taken a
  found l' := by rw [found_snoc, hc.finds]; simpa using h.found l'
  kept a := by rw [given_snoc, hc.gives]; simpa using h.kept a
  held l' := by rw [releasedOn_snoc, hc.gives]; simpa using h.held l'

/-- `unlockInputs` has taken the lock `l` and released the lock `l'`. -/
structure Unlocked (l l' : LockRef) (log : Log) : Prop where
  taken : ∀ a, Taken log a ↔ a = .lock l
  found : ∀ k, Found log k ↔ k = l ∨ k = l'
  given : ∀ a, Given log a ↔ a = .lock l ∧ a = .lock l'
  released : ReleasedOn log l'

/-- The `finally` of `unlockInputs`, when the second lookup has found `l'`. -/
theorem Locked.unlocked {l l' : LockRef} {log : Log} (h : Locked l log) (walletId : String) :
    Unlocked l l' (log ++ [⟨.lock (.getWalletLock walletId), l'⟩] ++ [⟨.lock (.unlockOn l' .SEND_TX), ()⟩]) where
  taken a := by
    rw [taken_snoc, taken_snoc]
    simp [takes, h.taken a]
  found k := by
    rw [found_snoc, found_snoc]
    simp [finds, h.found k, eq_comm]
  given a := by
    rw [given_snoc, given_snoc, taken_snoc]
    simp [gives, takes, h.kept a, h.taken a, eq_comm]
  released := (releasedOn_snoc ..).mpr (.inr rfl)

theorem Unlocked.givesBack {l : LockRef} {log : Log} (h : Unlocked l l log) : GivesBack log := by
  intro a ha
  have hl := (h.taken a).mp ha
  exact (h.given a).mpr ⟨hl, hl⟩

theorem Unlocked.done {l l' : LockRef} {log : Log} (h : Unlocked l l' log) : UnlockDone log := by
  intro _
  constructor
  · intro hg
    have hl : l = l' := by simpa using ((h.given _).mp (hg _ ((h.taken _).mpr rfl))).2
    subst hl
    intro k k' hk hk'
    rw [h.found, or_self] at hk hk'
    rw [hk, hk']
  · intro hsame
    obtain rfl := hsame l l' ((h.found l).mpr (.inl rfl)) ((h.found l').mpr (.inr rfl))
    exact h.givesBack

theorem markUtxosSelectedAsInput_work (w : WalletRef) (mark : Bool) (utxos : List Utxo) :
    (markUtxosSelectedAsInput w mark utxos).Uses WorkOp := by
  induction utxos with
  | nil => exact uses_pure _
  | cons utxo utxos ih => exact uses_bind (call_build.mono fun _ => BuildOp.work) fun _ => ih

/-- When `unlockInputs` has taken a lock it ends with its release of a lock. -/
theorem unlockInputs_unlocked (req : Req SwapBody) :
    (history Op.Ans).wp (unlockInputs req) [] (fun _ log => (∃ a, Taken log a) → ∃ l l', Unlocked l l' log)
      fun _ log => (∃ a, Taken log a) → ∃ l l', Unlocked l l' log := by
  have hout (log : Log) (h : ∀ a, ¬ Taken log a) : (∃ a, Taken log a) → ∃ l l', Unlocked l l' log :=
    fun ⟨a, ha⟩ => absurd ha (h a)
  refine wp_validated_history req hout ?_
  refine (Protocol.wp_bind ..).mpr ⟨trivial, fun l _ => (Protocol.wp_bind ..).mpr ⟨trivial, fun r _ => ?_⟩⟩
  cases r with
  | false =>
      refine wp_send_untaken (fun a ha => ?_) hout _
      rcases (taken_snoc ..).mp ha with ha | ha
      · cases (taken_singleton ..).mp ha
      · cases ha
  | true =>
      have hlocked : Locked l ([⟨.lock (.getWalletLock req.walletId), l⟩] ++ [⟨.lock (.lockOn l .SEND_TX), true⟩]) := by
        refine ⟨fun a => ?_, fun l' => ?_, fun a => ?_, fun l' => ?_⟩
        · simp [Taken, takes, eq_comm]
        · simp [Found, finds, eq_comm]
        · rw [given_snoc]
          simp [not_given_singleton, gives]
        · simp [ReleasedOn, gives]
      have hbody : (tryCatch (do
          let tx ← deserializePartialTx req.wallet req.body.partial_tx
          markUtxosSelectedAsInput req.wallet false tx.utxos
          send .ok) fun err => sendError err.message : Async Unit).Uses WorkOp :=
        uses_tryCatch (uses_bind (lib_work _) fun tx =>
          uses_bind (markUtxosSelectedAsInput_work _ _ _) fun _ => send_work _) fun _ => send_work _
      have hlast (log : Log) (h : Locked l log) : (history Op.Ans).wp (do
          let walletLock ← getWalletLock req.walletId
          unlockOn walletLock .SEND_TX) log (fun _ log => (∃ a, Taken log a) → ∃ l l', Unlocked l l' log)
            fun _ log => (∃ a, Taken log a) → ∃ l l', Unlocked l l' log :=
        (Protocol.wp_bind ..).mpr ⟨trivial, fun l' _ => ⟨trivial, fun _ _ _ => ⟨l, l', h.unlocked req.walletId⟩⟩⟩
      refine (Protocol.wp_andFinally ..).mpr ?_
      exact Protocol.wp_mono _ (hbody.wp_inv (fun log c hc h => ⟨trivial, fun r => h.plain hc.plain r⟩) hlocked)
        (fun _ log h => hlast log h) fun _ log h => hlast log h

theorem unlockInputs_done (req : Req SwapBody) :
    (history Op.Ans).wp (unlockInputs req) [] (fun _ => UnlockDone) fun _ => UnlockDone := by
  have hdone (log : Log) (h : (∃ a, Taken log a) → ∃ l l', Unlocked l l' log) : UnlockDone log := by
    intro ha
    obtain ⟨l, l', hun⟩ := h ha
    exact hun.done ha
  exact Protocol.wp_mono _ (unlockInputs_unlocked req) (fun _ log h => hdone log h) fun _ log h => hdone log h

/-! ## Every handler -/

/-- Nothing throws in `sendTx` before its `try`, and `unlockInputs` finds the same lock twice. -/
def Request.Clean (req : Request) (log : Log) : Prop :=
  match req with
  | .sendTx req => req.body.FundsOk log
  | .unlockInputs _ => SameLock log
  | _ => True

/-- What a log satisfies at the end of a handler. -/
def Request.Done (req : Request) (log : Log) : Prop := (∃ a, Taken log a) → (GivesBack log ↔ req.Clean log)

theorem givesBack_done {req : Request} {p : Async Unit}
    (h : (history Op.Ans).wp p [] (fun _ => GivesBack) fun _ => GivesBack)
    (hreq : ∀ log, req.Clean log := by exact fun _ => trivial) :
    (history Op.Ans).wp p [] (fun _ => req.Done) fun _ => req.Done :=
  Protocol.wp_mono _ h (fun _ log h _ => iff_of_true h (hreq log)) fun _ log h _ => iff_of_true h (hreq log)

/-- The handlers that take the SEND_TX lock. -/
theorem Request.handle_done {req : Request} (h : req.TakesLock) :
    (history Op.Ans).wp req.handle [] (fun _ => req.Done) fun _ => req.Done := by
  cases req with
  | sendTx req => exact sendTx_done req
  | unlockInputs req => exact unlockInputs_done req
  | runTemplate req => exact givesBack_done (runTemplate_givesBack req)
  | buildTemplate req => exact givesBack_done (buildTemplate_givesBack req)
  | simpleSendTx req =>
      exact givesBack_done (history_lockedSend req fun u log =>
        wp_checkedSendThen _ _ _ fun _ => uses_pure _)
  | createToken req =>
      exact givesBack_done (history_lockedSend req fun u log =>
        wp_checkedSendThen _ _ _ tokenReply_work)
  | mintTokens req =>
      exact givesBack_done (history_lockedSend req fun u log =>
        wp_checkedSendThen _ _ _ fun _ => uses_pure _)
  | meltTokens req =>
      exact givesBack_done (history_lockedSend req fun u log =>
        wp_checkedSendThen _ _ _ fun _ => uses_pure _)
  | utxoConsolidation req =>
      exact givesBack_done (history_lockedSend req fun u log =>
        wp_sendThen _ _ fun _ => uses_pure _)
  | createNft req =>
      exact givesBack_done (history_lockedSend req fun u log =>
        wp_checkedSendThen _ _ _ tokenReply_work)
  | createNanoContract req =>
      exact givesBack_done (history_lockedSend req fun u log =>
        wp_sendThen _ _ fun _ => uses_pure _)
  | executeNanoContractMethod req =>
      exact givesBack_done (history_lockedSend req fun u log =>
        wp_sendThen _ _ fun _ => uses_pure _)
  | createOnChainBlueprint req =>
      exact givesBack_done (history_lockedSend req fun u log =>
        wp_sendThen _ _ fun _ => uses_pure _)
  | p2shSignAndPush req =>
      exact givesBack_done (history_lockedSend req fun u log =>
        wp_pushThen _ (uses_await trivial (assemblePartialTransaction_work _ _ _)))
  | swapSignAndPush req =>
      exact givesBack_done (history_lockedSend req fun u log =>
        wp_pushThen _ (assembleTransaction_work _ _ _))
  | _ => exact h.elim

end WalletHeadless
