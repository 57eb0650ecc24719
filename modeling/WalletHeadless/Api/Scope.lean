import WalletHeadless.Api.Answers
import WalletHeadless.Coop.Causes
import WalletHeadless.Coop.Traces

/-!
# What a request can reach

A flow acts on a wallet only when its middleware has let that wallet through, which is the one that it found under the
wallet id of its header.

* `LetThrough req log x`: the middleware of the request has let `x` through;
* `serve_wp`: what a request asks on its way through the application, by what its handler asks;
* `scoping req`: what a request may ask, by its log; `wp_scope`: it asks nothing else;
* `App.asked`: what a flow of a run has asked was allowed.
-/

namespace WalletHeadless

open Coop Js

/-- The middleware has found the wallet under the wallet id of the request, and called `next`. -/
structure LetThrough (req : HttpRequest) (log : List (Event ApiOp.Ans)) (x : Injected) : Prop where
  header : req.xWalletId = some x.walletId
  found : ⟨.gate (.server (.registry (.getWallet x.walletId))), some x.wallet⟩ ∈ log
  passed : ∃ standing, ⟨.gate (.next x), standing⟩ ∈ log

theorem LetThrough.mono {req : HttpRequest} {log log' : List (Event ApiOp.Ans)} {x : Injected} (h : LetThrough req log x)
    (hsub : ∀ e ∈ log, e ∈ log') : LetThrough req log' x :=
  ⟨h.header, hsub _ h.found, h.passed.imp fun _ hm => hsub _ hm⟩

/-- The calls of the layers of the application, and the replies. -/
def LayerOp : ApiOp → Prop
  | .gate (.server (.registry .getConfig)) | .gate (.server (.registry (.getWallet _))) => True
  | .gate (.server (.send _)) | .gate (.sendError _) => True
  | .gate (.getAddressAtIndex ..) | .gate (.state _) | .gate (.hsmKeyName _) => True
  | .answer _ | .isInstance .. | .statusCode _ | .hasLogger _ | .headersSent | .rejected _ | .exit => True
  | _ => False

/-- What the layers of the application answer. -/
def LayerBody : AnswerBody → Prop
  | .error error => error = NONRECOVERABLE_ERROR ∨ error = UNAVAILABLE_ERROR ∨ error = READONLY_ERROR
  | .stack _ | .final | .auth _ => True
  | _ => False

/-- The calls of the layers of the application. -/
def PassOp : ApiOp → Prop
  | .answer a => LayerBody a.body
  | c => LayerOp c

/-- The calls of the handlers that are no handlers of a wallet. -/
def Route.rootAsks (route : Route) (c : ApiOp) : Prop := ∃ r, route = .root r ∧ r.footprint.asks c

/-- The calls of the handler of a wallet, once `x` has been let through. -/
def Route.walletAsks (route : Route) (x : Injected) (c : ApiOp) : Prop :=
  ∃ path r, route = .wallet path (some r) ∧ (r.kind.footprint x).asks c

/-- What a request may ask, after its log. -/
inductive InScope (req : HttpRequest) (log : List (Event ApiOp.Ans)) : ApiOp → Prop
  | layer {c : ApiOp} (h : LayerOp c) : InScope req log c
  | root {c : ApiOp} (h : req.route.rootAsks c) : InScope req log c
  | wallet {c : ApiOp} {x : Injected} (hx : LetThrough req log x) (h : req.route.walletAsks x c) : InScope req log c
  | next {x : Injected} (header : req.xWalletId = some x.walletId)
      (found : ⟨.gate (.server (.registry (.getWallet x.walletId))), some x.wallet⟩ ∈ log) :
      InScope req log (.gate (.next x))

section
variable {req : HttpRequest} {α : Type}

theorem PassOp.layer {c : ApiOp} (h : PassOp c) : LayerOp c := by
  unfold PassOp at h
  split at h
  · trivial
  · exact h

theorem layer_of_outcome {c : ApiOp} (h : concluding.outcome c ≠ none) : LayerOp c := by
  cases c with
  | gate c =>
      cases c with
      | server c => cases c <;> trivial
      | sendError body => trivial
      | _ => exact absurd rfl h
  | read c => exact absurd rfl h
  | _ => trivial

/-- The calls of the error handlers. -/
def ErrorOp : ApiOp → Prop
  | .answer a => LayerBody a.body
  | .isInstance .. | .statusCode _ | .headersSent | .exit => True
  | _ => False

theorem ErrorOp.pass {c : ApiOp} (h : ErrorOp c) : PassOp c := by
  unfold ErrorOp at h
  split at h
  · exact h
  all_goals trivial

theorem errorHandlers_uses (hasLogger : Bool) (err : JsError) : (errorHandlers hasLogger err).Uses ErrorOp := by
  refine ⟨trivial, fun sent => ?_⟩
  cases sent with
  | true => trivial
  | false =>
      show (configErrorHandler hasLogger err).Uses ErrorOp
      unfold configErrorHandler
      split
      · exact ⟨.inl rfl, fun _ => ⟨trivial, fun _ => trivial⟩⟩
      · split
        · exact ⟨.inr (.inl rfl), fun _ => trivial⟩
        · refine ⟨trivial, fun guarded => ?_⟩
          cases guarded with
          | true => exact ⟨.inr (.inr rfl), fun _ => trivial⟩
          | false =>
              show (appErrorHandler hasLogger err).Uses ErrorOp
              unfold appErrorHandler
              split
              · exact ⟨trivial, fun _ => ⟨trivial, fun _ => trivial⟩⟩
              · exact ⟨trivial, fun _ => trivial⟩

theorem errorHandlers_layers (hasLogger : Bool) (err : JsError) : (errorHandlers hasLogger err).Uses PassOp :=
  (errorHandlers_uses hasLogger err).mono fun _ hc => hc.pass

/-! ## The middleware -/

/-- The middleware lets a wallet through that it has found. -/
def finding (req : HttpRequest) : Protocol GateOp.Ans (List (String × WalletRef)) where
  allows found c := match c with
    | .next x => req.xWalletId = some x.walletId ∧ (x.walletId, x.wallet) ∈ found
    | c => LayerOp (.gate c)
  next found c r := match c, r with
    | .server (.registry (.getWallet walletId)), some wallet => (walletId, wallet) :: found
    | _, _ => found

theorem finding_sendError (message : String) (state : Option WalletState) (found : List (String × WalletRef)) :
    (finding req).wp (Middleware.sendError message state) found (fun _ _ => True) fun _ _ => True :=
  ⟨trivial, fun _ _ => trivial⟩

theorem finding_checkState {walletId : String} (h : req.xWalletId = some walletId) (path : String) (wallet : WalletRef)
    {found : List (String × WalletRef)} (hfound : (walletId, wallet) ∈ found) :
    (finding req).wp (Middleware.checkState (req.gateReq path) walletId wallet) found (fun _ _ => True)
      fun _ _ => True := by
  refine ⟨trivial, fun state _ => ?_⟩
  refine (Protocol.wp_ite ..).mpr ⟨fun _ => ?_, fun _ => (Protocol.wp_ite ..).mpr
    ⟨fun _ => finding_sendError _ _ _, fun _ => finding_sendError _ _ _⟩⟩
  refine (Protocol.wp_bind ..).mpr ((Protocol.wp_bind ..).mpr ⟨trivial, fun registered _ => ?_⟩)
  cases registered with
  | none => exact ⟨⟨h, hfound⟩, fun _ _ => trivial⟩
  | some v => exact ⟨trivial, fun hsmKeyName _ => ⟨⟨h, List.mem_cons_of_mem _ hfound⟩, fun _ _ => trivial⟩⟩

theorem finding_walletMiddleware (path : String) :
    (finding req).wp (Middleware.walletMiddleware (req.gateReq path)) [] (fun _ _ => True) fun _ _ => True := by
  refine (Protocol.wp_bind ..).mpr ⟨trivial, fun config _ => ?_⟩
  cases config with
  | error e => trivial
  | ok config =>
      cases h : (req.gateReq path).xWalletId with
      | none => exact finding_sendError _ _ _
      | some walletId =>
          refine (Protocol.wp_bind ..).mpr ⟨trivial, fun wallet _ => ?_⟩
          cases wallet with
          | none => exact finding_sendError _ _ _
          | some wallet =>
              have hcheck : (finding req).wp (Middleware.checkState (req.gateReq path) walletId wallet)
                  [(walletId, wallet)] (fun _ _ => True) fun _ _ => True := finding_checkState h path wallet (by simp)
              refine (Protocol.wp_ite ..).mpr ⟨fun _ => ?_, fun _ => hcheck⟩
              refine (Protocol.wp_bind ..).mpr ⟨trivial, fun address _ => ?_⟩
              cases address with
              | error e => trivial
              | ok address => exact (Protocol.wp_ite ..).mpr ⟨fun _ => hcheck, fun _ => finding_sendError _ _ _⟩

/-- What the middleware has found is in the log. -/
def Logged (found : List (String × WalletRef)) (log : List (Event ApiOp.Ans)) : Prop :=
  ∀ f ∈ found, ⟨.gate (.server (.registry (.getWallet f.1))), some f.2⟩ ∈ log

theorem Logged.mono {found : List (String × WalletRef)} {log log' : List (Event ApiOp.Ans)} (h : Logged found log)
    (hlog : log <+: log') : Logged found log' := fun f hf => hlog.subset (h f hf)

theorem Logged.next {found : List (String × WalletRef)} {log : List (Event ApiOp.Ans)} (h : Logged found log) (c : GateOp)
    (r : c.Ans) : Logged ((finding req).next found c r) (log ++ [⟨.gate c, r⟩]) := by
  unfold finding
  dsimp only
  split
  · intro f hf
    rcases List.mem_cons.mp hf with rfl | hf
    · simp
    · exact List.mem_append_left _ (h f hf)
  · exact h.mono (List.prefix_append _ _)

/-! ## The application -/

section
variable {allows : List (Event ApiOp.Ans) → ApiOp → Prop} {told : (c : ApiOp) → c.Ans → Prop}

/-- The trace always allows what `p` asks. -/
abbrev Allowed (allows : List (Event ApiOp.Ans) → ApiOp → Prop) (told : (c : ApiOp) → c.Ans → Prop) (p : ApiAsync α)
    (log : List (Event ApiOp.Ans)) : Prop :=
  (logging allows told).wp p log (fun _ _ => True) fun _ _ => True

theorem allowed_andThen {next : Injected → ApiAsync Unit} (hlayer : ∀ log c, PassOp c → allows log c)
    (hstanding : ∀ log x, req.xWalletId = some x.walletId →
      ⟨.gate (.server (.registry (.getWallet x.walletId))), some x.wallet⟩ ∈ log → allows log (.gate (.next x)))
    (hnext : ∀ x log, LetThrough req log x → Allowed allows told (next x) log)
    {p : GateAsync α} {found : List (String × WalletRef)} {log : List (Event ApiOp.Ans)} (hlog : Logged found log)
    (h : (finding req).wp p found (fun _ _ => True) fun _ _ => True) : Allowed allows told (andThen next p) log := by
  induction p generalizing found log with
  | ret a => trivial
  | throw e => trivial
  | op c k ih =>
      obtain ⟨ha, hk⟩ := h
      cases c with
      | next x =>
          refine ⟨hstanding _ x ha.1 (hlog _ ha.2), fun standing _ => ?_⟩
          have hx : LetThrough req (log ++ [⟨.gate (.next x), standing⟩]) x :=
            ⟨ha.1, List.mem_append_left _ (hlog _ ha.2), standing, by simp⟩
          exact (Protocol.wp_bind ..).mpr (Protocol.wp_mono _ (logging_extends (hnext x _ hx) (List.prefix_append _ _))
            (fun _ _ h => ih standing (hlog.mono h.1) (hk standing trivial)) fun _ _ _ => trivial)
      | server c => exact ⟨hlayer log (.gate (.server c)) ha, fun r _ => ih r (hlog.next (.server c) r) (hk r trivial)⟩
      | getAddressAtIndex wallet index =>
          exact ⟨hlayer log (.gate (.getAddressAtIndex wallet index)) ha, fun r _ =>
            ih r (hlog.next (.getAddressAtIndex wallet index) r) (hk r trivial)⟩
      | state wallet =>
          exact ⟨hlayer log (.gate (.state wallet)) ha, fun r _ => ih r (hlog.next (.state wallet) r) (hk r trivial)⟩
      | hsmKeyName walletId =>
          exact ⟨hlayer log (.gate (.hsmKeyName walletId)) ha, fun r _ =>
            ih r (hlog.next (.hsmKeyName walletId) r) (hk r trivial)⟩
      | sendError body =>
          exact ⟨hlayer log (.gate (.sendError body)) ha, fun r _ => ih r (hlog.next (.sendError body) r) (hk r trivial)⟩

theorem unrouted_layers : unrouted.Uses PassOp := ⟨trivial, fun _ => trivial⟩

theorem refusal_layers (message : String) : (answerStatus 401 (.auth message)).Uses PassOp := ⟨trivial, fun _ => trivial⟩

theorem logger_layers : (tryCatch (Except.ok <$> getLogger req) fun e => return .error e : ApiAsync _).Uses PassOp := by
  refine Prog.Uses.catches (Prog.Uses.bind ?_ fun _ => ?_) fun _ => ?_
  · unfold getLogger
    split
    · trivial
    · refine ⟨trivial, fun has => ?_⟩
      cases has with
      | true => trivial
      | false => exact ⟨trivial, fun config => by cases config <;> trivial⟩
  · trivial
  · trivial

/-- What a request asks is allowed when it is for the layers and for its handler. -/
theorem serve_wp (L : TxProposalLib) (key : Option String) (hlayer : ∀ log c, PassOp c → allows log c)
    (hstanding : ∀ log x, req.xWalletId = some x.walletId →
      ⟨.gate (.server (.registry (.getWallet x.walletId))), some x.wallet⟩ ∈ log → allows log (.gate (.next x)))
    (hroot : ∀ log route, req.route = .root route → Allowed allows told route.handle log)
    (hwallet : ∀ log path route x, req.route = .wallet path (some route) → LetThrough req log x →
      Allowed allows told (route.handle L x) log) : Allowed allows told (serve L key req) [] := by
  have hlayers {β : Type} {p : ApiAsync β} (hp : p.Uses PassOp) (log : List (Event ApiOp.Ans)) : Allowed allows told p log :=
    logging_of_uses hp hlayer log
  have hwrapped {handler : ApiAsync Unit} {log : List (Event ApiOp.Ans)} (h : Allowed allows told handler log) :
      Allowed allows told (wrapped handler) log :=
    (Protocol.wp_tryCatch ..).mpr (Protocol.wp_mono _ h (fun _ _ h => h) fun err log' _ =>
      hlayers (errorHandlers_layers true err) log')
  have hrouter (log : List (Event ApiOp.Ans)) : Allowed allows told (mainRouter L req) log := by
    cases hroute : req.route with
    | root route =>
        simp only [mainRouter, hroute]
        exact hwrapped (hroot log route hroute)
    | wallet path route =>
        simp only [mainRouter, hroute]
        refine (Protocol.wp_tryCatch ..).mpr (Protocol.wp_mono _ (allowed_andThen hlayer hstanding (fun x log hx => ?_)
          (fun f hf => absurd hf List.not_mem_nil) (finding_walletMiddleware path)) (fun _ _ h => h) fun _ log' _ =>
            ⟨hlayer log' (.rejected _) trivial, fun _ _ => trivial⟩)
        cases route with
        | none => exact hlayers unrouted_layers log
        | some route => exact hwrapped (hwallet log path route x hroute hx)
    | missing =>
        simp only [mainRouter, hroute]
        exact hlayers unrouted_layers log
  unfold serve
  split
  · exact hlayers (errorHandlers_layers false _) []
  · refine (Protocol.wp_bind ..).mpr (Protocol.wp_mono _ (hlayers logger_layers []) (fun logger log _ => ?_) fun _ _ h => h)
    cases logger with
    | error e => exact ⟨hlayer log (.rejected e) trivial, fun _ _ => trivial⟩
    | ok u =>
        show Allowed allows told (apiKeyAuth key req (mainRouter L req)) log
        unfold apiKeyAuth
        split
        · exact hrouter log
        · split
          · exact hlayers (refusal_layers _) log
          · split
            · exact hlayers (refusal_layers _) log
            · exact hrouter log

end

/-! ## The scope -/

/-- A request asks what is in its scope. -/
def scoping (req : HttpRequest) : Protocol ApiOp.Ans (List (Event ApiOp.Ans)) := logging (InScope req)

/-- A handler asks what is in its footprint, and replies. -/
theorem Handles.uses {F : concluding.Footprint} {handler : ApiAsync Unit} (h : Handles F handler) :
    handler.Uses fun c => F.asks c ∨ LayerOp c :=
  (Conclusion.uses_of_wp (h false)).mono fun _ hc => hc.imp_right layer_of_outcome

theorem LetThrough.allows {x : Injected} {path : String} {route : WalletRoute} {p : ApiAsync α}
    {log : List (Event ApiOp.Ans)} (hx : LetThrough req log x) (hroute : req.route = .wallet path (some route))
    (hp : p.Uses fun c => (route.kind.footprint x).asks c ∨ LayerOp c) :
    (scoping req).wp p log (fun _ _ => True) fun _ _ => True := by
  have hinv : (scoping req).wp p log (fun _ log' => LetThrough req log' x) fun _ log' => LetThrough req log' x := by
    refine hp.wp_inv (I := fun log => LetThrough req log x) (fun log c hc hx => ⟨?_, fun r => ?_⟩) hx
    · rcases hc with hc | hc
      · exact .wallet hx ⟨path, route, hroute, hc⟩
      · exact .layer hc
    · exact hx.mono fun _ he => List.mem_append_left _ he
  exact Protocol.wp_mono _ hinv (fun _ _ _ => trivial) fun _ _ _ => trivial

theorem wp_scope (L : TxProposalLib) (key : Option String) (req : HttpRequest) :
    (scoping req).wp (serve L key req) [] (fun _ _ => True) fun _ _ => True := by
  refine serve_wp L key (fun _ _ hc => .layer hc.layer) (fun _ _ header found => .next header found)
    (fun log route hroute => ?_) fun log path route x hroute hx => hx.allows hroute (route.handle_handles L x).uses
  refine logging_of_uses route.handle_handles.uses (fun log c hc => ?_) log
  rcases hc with hc | hc
  · exact .root ⟨route, hroute, hc⟩
  · exact .layer hc

end

/-! ## Every run -/

/-- What a flow has asked was in its scope, at that moment. -/
theorem App.asked {L : TxProposalLib} {key : Option String} {ok : App → AppStep → Prop} {s₀ : Api} {S : App}
    (h : App.Run L key ok s₀ S) {i : Nat} {p : Proc ApiOp.Ans JsError Unit HttpRequest} (hp : S.procs[i]? = some p)
    {B : ApiOp → Prop} (hB : Asked B p.log p.rest) : ∃ c, InScope p.req p.log c ∧ B c := by
  have hsteps := Reach.steps h hp
  obtain ⟨u, c, hu, hc, hBc⟩ := hB.allowed hsteps (wp_scope L key p.req) ((scoping p.req).told_of_may (fun _ _ _ => trivial) _ _)
  have hafter : (scoping p.req).after [] u = u := logging_after [] u
  rw [hafter] at hc
  refine ⟨c, ?_, hBc⟩
  have hsub (e : Event ApiOp.Ans) (he : e ∈ u) : e ∈ p.log := hu.subset he
  cases hc with
  | layer h => exact .layer h
  | root h => exact .root h
  | wallet hx h => exact .wallet (hx.mono hsub) h
  | next header found => exact .next header (hsub _ found)

end WalletHeadless
