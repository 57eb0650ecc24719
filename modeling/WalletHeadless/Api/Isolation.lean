import WalletHeadless.Api.OneAnswer
import WalletHeadless.Api.Scope
import WalletHeadless.Listened.Stored
import WalletHeadless.Marks.Log
import WalletHeadless.Sends.Honest

/-!
# Who has changed a wallet

What a step changes in the service was asked by the flow that takes its turn, and a flow asks what is in its scope.

* `api_steady`, `api_frame`: the frames of the handlers, among the calls of all; `App.caused`: the cause of a step;
* `ActsOn`, `server_cases`: the requests that can ask a call of the handlers;
* `App.mined_attributed`: a transaction of a wallet is mined by a request that was let through to that wallet;
* `App.marks_isolated`: the utxos of a wallet are marked and given back by requests that were let through to it;
* `App.entries_isolated`: what is kept under a wallet id changes by the requests for that wallet id, and by reloads.
-/

namespace WalletHeadless

open Coop Js Function

/-! ## Frames -/

namespace Api

variable {s s' : Api} {i : Nat}

theorem server_callOf (i : Nat) (c : ApiOp) (s : Api) :
    (∃ d, c = .gate (.server d) ∧ (s.callOf i c).gate.server = s.gate.server.callOf i d) ∨
      (s.callOf i c).gate.server = s.gate.server := by
  cases c with
  | gate c =>
      cases c with
      | server d => exact .inl ⟨d, rfl, rfl⟩
      | _ => exact .inr rfl
  | _ => exact .inr rfl

theorem server_performOp {c : ApiOp} {w r : c.Ans} (h : s.performOp i c w = some (r, s')) :
    (∃ (d : Op) (w' r' : d.Ans), c = .gate (.server d) ∧ s.gate.server.performOp i d w' = some (r', s'.gate.server)) ∨
      s'.gate.server = s.gate.server := by
  obtain ⟨hc, -⟩ := performOp_cases h
  cases c with
  | gate c =>
      cases c with
      | server d =>
          obtain ⟨⟨r', server⟩, hd, he⟩ := Option.map_eq_some_iff.mp hc
          have hserver : server = s'.gate.server := congrArg (fun x => x.2.server) he
          exact .inl ⟨d, w, r', rfl, by rw [hd, hserver]⟩
      | _ => exact .inr (congrArg (fun x => x.2.server) (Option.some.inj hc)).symm
  | _ => exact .inr (congrArg (fun x => x.2.server) (Option.some.inj hc)).symm

theorem server_ext {e : GateEvent} (h : s.ext e = some s') :
    (∃ d, e = .outside d ∧ s.gate.server.outside d = some s'.gate.server) ∨ s'.gate.server = s.gate.server := by
  obtain ⟨gate, hg, rfl⟩ := Option.map_eq_some_iff.mp h
  cases e with
  | outside d =>
      obtain ⟨server, hd, rfl⟩ := Option.map_eq_some_iff.mp hg
      exact .inl ⟨d, rfl, hd⟩
  | changed wallet state =>
      cases hg
      exact .inr rfl

end Api

theorem api_steady {Inv : Server → Prop} (h : world.Steady Inv) : api.Steady fun s => Inv s.gate.server where
  call i c s hI := by
    rcases s.server_callOf i c with ⟨d, -, he⟩ | he
    · exact (congrArg Inv he).mpr (h.call i d _ hI)
    · exact (congrArg Inv he).mpr hI
  perform i c w r s s' hI hp := by
    rcases Api.server_performOp hp with ⟨d, w', r', -, hd⟩ | he
    · exact h.perform i d w' r' _ _ hI hd
    · exact (congrArg Inv he).mpr hI
  ext e s s' hI he := by
    rcases Api.server_ext he with ⟨d, -, hd⟩ | he
    · exact h.ext d _ _ hI hd
    · exact (congrArg Inv he).mpr hI

/-- The acts of the outside on the handlers, among all. -/
def ofOutside (E : Outside → Prop) : GateEvent → Prop
  | .outside e => E e
  | .changed _ _ => False

section
variable {Inv : Server → Prop} {B : Nat → Op → Prop} {E : Outside → Prop} {R : Server → Server → Prop}

theorem api_frame (h : world.Frame Inv B E R) : api.Frame (fun s => Inv s.gate.server) (fun i => ofServer (B i))
    (ofOutside E) fun s s' => R s.gate.server s'.gate.server where
  refl s := h.refl _
  trans s s' s'' := h.trans _ _ _
  call i c s hI hB := by
    rcases s.server_callOf i c with ⟨d, rfl, he⟩ | he
    · exact (congrArg (R s.gate.server) he).mpr (h.call i d _ hI hB)
    · exact (congrArg (R s.gate.server) he).mpr (h.refl _)
  perform i c w r s s' hI hB hp := by
    rcases Api.server_performOp hp with ⟨d, w', r', rfl, hd⟩ | he
    · exact h.perform i d w' r' _ _ hI hB hd
    · exact (congrArg (R s.gate.server) he).mpr (h.refl _)
  ext e s s' hI hE he := by
    rcases Api.server_ext he with ⟨d, rfl, hd⟩ | he
    · exact h.ext d _ _ hI hE hd
    · exact (congrArg (R s.gate.server) he).mpr (h.refl _)

/-- A step out of a frame is an act of the outside, or its flow has a call in its scope that leads out of it. -/
theorem App.caused {L : TxProposalLib} {key : Option String} {ok : App → AppStep → Prop} {s₀ : Api} {S S' : App}
    {l : AppStep} (hframe : world.Frame Inv B E R) (hinv : world.Steady Inv) (hI : Inv s₀.gate.server)
    (h : App.Run L key ok s₀ S) (hs : S.step api (serve L key) l = some S')
    (hR : ¬ R S.state.gate.server S'.state.gate.server) :
    S.Caused S' l (ofOutside E) fun i p => ∃ d, InScope p.req p.log (.gate (.server d)) ∧ B i d := by
  have hrun : App.Run L key (fun _ _ => True) s₀ S' := (Reach.mono (fun _ _ _ => trivial) h).step trivial hs
  refine ((api_frame hframe).step (api_steady hinv) ((api_steady hinv).reach hI h) hs hR).mono fun i p hp hasked => ?_
  obtain ⟨c, hc, hB⟩ := App.asked hrun hp hasked
  cases c with
  | gate c =>
      cases c with
      | server d => exact ⟨d, hc, hB⟩
      | _ => exact hB.elim
  | _ => exact hB.elim

end

/-! ## Requests -/

/-- The middleware has let `x` through to a handler of the kind. -/
def ActsOn (req : HttpRequest) (log : List (Event ApiOp.Ans)) (x : Injected) (kind : RouteKind) : Prop :=
  LetThrough req log x ∧ ∃ path route, req.route = .wallet path (some route) ∧ route.kind = kind

theorem ActsOn.mono {req : HttpRequest} {log log' : List (Event ApiOp.Ans)} {x : Injected} {kind : RouteKind}
    (h : ActsOn req log x kind) (hlog : log <+: log') : ActsOn req log' x kind :=
  ⟨h.1.mono fun _ he => hlog.subset he, h.2⟩

/-- The wallet id that a request is to start. -/
def HttpRequest.starts (req : HttpRequest) : Option String :=
  match req.route with
  | .root (.start body) => body.walletId
  | .root (.startHsmWallet body) => truthy body.walletId
  | .root (.startFireblocksWallet body) => truthy body.walletId
  | _ => none

/-- The request is to reload the configuration. -/
def HttpRequest.Reloads (req : HttpRequest) : Prop := ∃ rounds, req.route = .root (.reloadConfig rounds)

/-- The calls of the handlers that are in the footprint of the kind. -/
def RouteKind.serverAsks (kind : RouteKind) (x : Injected) (d : Op) : Prop :=
  (kind.footprint x).asks (.gate (.server d))

/-- The calls of the handlers that any request can ask. -/
def AnyOp (d : Op) : Prop := QuietOp d ∨ LayerOp (.gate (.server d))

theorem root_cases {req : HttpRequest} {d : Op} (h : req.route.rootAsks (.gate (.server d))) (hd : ¬ AnyOp d) :
    StartsOp req.starts d ∨ req.Reloads ∧ ReloadOp d := by
  obtain ⟨route, hroute, h⟩ := h
  unfold HttpRequest.starts HttpRequest.Reloads
  rw [hroute]
  cases route with
  | start body => exact .inl h
  | startHsmWallet body => exact .inl h
  | startFireblocksWallet body => exact .inl h
  | reloadConfig rounds => exact .inr ⟨⟨rounds, rfl⟩, h⟩
  | _ => exact absurd (.inl h) hd

/-- Who can ask a call of the handlers that is not for everybody. -/
theorem server_cases {req : HttpRequest} {log : List (Event ApiOp.Ans)} {d : Op}
    (h : InScope req log (.gate (.server d))) (hd : ¬ AnyOp d) :
    (StartsOp req.starts d ∨ req.Reloads ∧ ReloadOp d) ∨
      ∃ x kind, ActsOn req log x kind ∧ kind.serverAsks x d := by
  cases h with
  | layer h => exact absurd (.inr h) hd
  | root h => exact .inl (root_cases h hd)
  | wallet hx h =>
      obtain ⟨path, route, hroute, h⟩ := h
      exact .inr ⟨_, route.kind, ⟨hx, path, route, hroute, rfl⟩, h⟩

/-! ## What is mined -/

/-- The call that hands `m` to the miners. -/
def Mines (m : Mined) (i : Nat) (d : Op) : Prop := i = m.flow ∧ d = .wallet (.runFromMining m.wallet m.tx)

theorem steady_true : world.Steady fun _ => True := ⟨fun _ _ _ _ => trivial, fun _ _ _ _ _ _ _ _ => trivial, fun _ _ _ _ _ => trivial⟩

theorem Server.mem_mining_callOf {s : Server} {i : Nat} {c : Op} {m : Mined} (h : m ∈ (s.callOf i c).mining) :
    m ∈ s.mining ∨ Mines m i c := by
  cases c with
  | wallet c =>
      cases c with
      | runFromMining w tx =>
          rcases List.mem_cons.mp h with rfl | h
          · exact .inr ⟨rfl, rfl⟩
          · exact .inl h
      | _ => exact .inl h
  | hsm c => cases c <;> exact .inl h
  | _ => exact .inl h

theorem mining_frame (m : Mined) :
    world.Frame (fun _ => True) (Mines m) (fun _ => False) fun s s' => m ∈ s'.mining → m ∈ s.mining where
  refl s := id
  trans s s' s'' h h' hm := h (h' hm)
  call i c s _ hB hm := (Server.mem_mining_callOf hm).resolve_right hB
  perform i c w r s s' _ _ hp hm := by rwa [← Server.mining_performOp hp]
  ext e s s' _ _ he hm := by rwa [← Server.mining_outside he]

/-- Only a handler that sends hands a transaction to the miners, and only of the wallet that was let through. -/
theorem acts_of_mines {req : HttpRequest} {log : List (Event ApiOp.Ans)} {m : Mined} {i : Nat} {d : Op}
    (h : InScope req log (.gate (.server d))) (hm : Mines m i d) : ∃ x, x.wallet = m.wallet ∧ ActsOn req log x .send := by
  obtain ⟨-, rfl⟩ := hm
  rcases server_cases h (fun h => h.elim id id) with (h | ⟨-, h⟩) | ⟨x, kind, hx, h⟩
  · exact h.elim
  · exact h.elim
  · cases kind with
    | send => exact ⟨x, Eq.symm h, hx⟩
    | _ => exact h.elim

/-- What is mined from a wallet since the start was mined by the flow that the record says: its middleware has let that
wallet through, to a handler that sends. `/push-tx` mines what it is given, from no wallet. -/
theorem App.mined_attributed {L : TxProposalLib} {key : Option String} {ok : App → AppStep → Prop} {s₀ : Api} {S : App}
    (h : App.Run L key ok s₀ S) : ∀ m ∈ S.state.gate.server.mining, m ∈ s₀.gate.server.mining ∨
      ∃ p x, S.procs[m.flow]? = some p ∧ x.wallet = m.wallet ∧ ActsOn p.req p.log x .send := by
  intro m hm
  have hattributed := Reach.attributed (M := fun s => m ∈ s.gate.server.mining) (A := fun i req log =>
    i = m.flow ∧ ∃ x, x.wallet = m.wallet ∧ ActsOn req log x .send)
    (fun i req t u htu hA => ⟨hA.1, hA.2.imp fun x hx => ⟨hx.1, hx.2.mono htu⟩⟩) (fun S S' l hr hs hM hbefore => ?_) h hm
  · rcases hattributed with h₀ | ⟨i, p, hp, rfl, x, hx, hacts⟩
    · exact .inl h₀
    · exact .inr ⟨p, x, hp, hx, hacts⟩
  · rcases App.caused (mining_frame m) steady_true trivial hr hs (fun hR => hbefore (hR hM)) with
      ⟨e, -, he⟩ | ⟨i, p, -, hp, d, hd, hmines⟩
    · cases e with
      | outside e => exact he.elim
      | changed wallet state => exact he.elim
    · exact ⟨i, p, hp, hmines.1, acts_of_mines hd hmines⟩

/-- A service with the wallet `0`, which is ready, under the id `"w"`. -/
def servesOne : Api where
  gate := { server := oneWallet none, states := fun _ => .READY }

def sendsFrom (walletId : String) : HttpRequest where
  xApiKey := some "key"
  xWalletId := some walletId
  route := .wallet "/simple-send-tx" (some (.simpleSendTx ⟨none, { address := "address", value := 1 }⟩))

/-- A request from the wallet builds a transaction, and is about to mark its utxo. -/
def builds : List AppStep :=
  [appComes (sendsFrom "w"), appProceeds 0, .ext (.outside (.pick 0 (utxo 0))), appProceeds 0, appProceeds 0]

theorem builds_mines : (Sys.exec api (serve oneHexLib (some "key")) (fun _ _ => True) (builds ++ [appProceeds 0])
    ⟨servesOne, []⟩).any (fun S => S.state.gate.server.mining.map Mined.flow = [0]) = true := by
  decide +kernel

theorem builds_attributed : ∃ S : App, S.state.gate.server.mining.map Mined.flow = [0] ∧
    ∀ m ∈ S.state.gate.server.mining, m ∈ servesOne.gate.server.mining ∨
      ∃ p x, S.procs[m.flow]? = some p ∧ x.wallet = m.wallet ∧ ActsOn p.req p.log x .send := by
  obtain ⟨S, hS, hp⟩ := App.run_of_exec builds_mines
  exact ⟨S, hp, App.mined_attributed hS⟩

/-! ## What is marked -/

/-- The calls that mark utxos of the wallet. -/
def MarksOn (w : WalletRef) : Op → Prop
  | .wallet (.updateOutputSelected v _) | .wallet (.markUtxoSelected v _ true _) | .wallet (.addSend v ..) => v = w
  | _ => False

/-- The calls that give utxos of the wallet back. -/
def UnmarksOn (w : WalletRef) : Op → Prop
  | .wallet (.markUtxoSelected v _ false _) => v = w
  | _ => False

theorem marksOn_of_mem {w : WalletRef} {u : Utxo} {c : Op} {r : c.Ans} (h : (w, u) ∈ marksOf c r) : MarksOn w c := by
  unfold marksOf at h
  split at h
  · obtain ⟨v, -, hv⟩ := List.mem_map.mp h
    exact congrArg Prod.fst hv
  · exact (congrArg Prod.fst (List.mem_singleton.mp h)).symm
  · obtain ⟨v, -, hv⟩ := List.mem_map.mp h
    exact congrArg Prod.fst hv
  · cases h

namespace Server

/-- A call that gives a utxo back takes it from the marks, or fails. -/
theorem selected_unmarks {s s' : Server} {i : Nat} {c : Op} {w r : c.Ans} (h : s.performOp i c w = some (r, s'))
    (hc : Unmarks c) : ∃ v u, UnmarksOn v c ∧ (s' = s ∨ s' = s.unmark v u) := by
  unfold Unmarks at hc
  split at hc
  next v u ttl =>
    cases w with
    | error e =>
        cases h
        exact ⟨v, u, rfl, .inl rfl⟩
    | ok a =>
        cases h
        exact ⟨v, u, rfl, .inr rfl⟩
  next => exact hc.elim

theorem mem_selected_unmark (s : Server) (w : WalletRef) (u : Utxo) (x : WalletRef × Utxo) :
    x ∈ (s.unmark w u).selected ↔ x ∈ s.selected ∧ x ≠ (w, u) := by
  simp [unmark]

end Server

theorem marks_frame (w : WalletRef) (u : Utxo) : world.Frame (fun _ => True) (fun _ => MarksOn w) (· = .mark w u)
    fun s s' => (w, u) ∈ s'.selected → (w, u) ∈ s.selected where
  refl s := id
  trans s s' s'' h h' hm := h (h' hm)
  call i c s _ _ hm := by
    rwa [show (world.call i c s).selected = s.selected from callOf_selected i c s] at hm
  perform i c a r s s' _ hB hp hm := by
    by_cases hc : Unmarks c
    · obtain ⟨v, x, -, rfl | rfl⟩ := Server.selected_unmarks hp hc
      · exact hm
      · exact ((s.mem_selected_unmark v x _).mp hm).1
    · exact ((performOp_marks hp hc _).mp hm).resolve_right fun hnew => hB (marksOn_of_mem hnew)
  ext e s s' _ hE he hm := by
    obtain ⟨d, -, rfl⟩ | ⟨t, L, -, -, rfl⟩ | ⟨i, x, d, -, -, -, -, rfl⟩ | ⟨v, x, rfl, rfl⟩ | ⟨v, x, -, rfl⟩ :=
      Server.outside_cases he
    · exact hm
    · exact hm
    · exact hm
    · refine ((mem_selected_markAll s v [x] _).mp hm).resolve_right fun hnew => hE ?_
      obtain ⟨rfl, rfl⟩ := Prod.mk.inj (List.mem_singleton.mp hnew)
      rfl
    · exact ((s.mem_selected_unmark v x _).mp hm).1

theorem unmarks_frame (w : WalletRef) (u : Utxo) : world.Frame (fun _ => True) (fun _ => UnmarksOn w) (· = .unmark w u)
    fun s s' => (w, u) ∈ s.selected → (w, u) ∈ s'.selected where
  refl s := id
  trans s s' s'' h h' hm := h' (h hm)
  call i c s _ _ hm := by
    rwa [show (world.call i c s).selected = s.selected from callOf_selected i c s]
  perform i c a r s s' _ hB hp hm := by
    by_cases hc : Unmarks c
    · obtain ⟨v, x, hv, rfl | rfl⟩ := Server.selected_unmarks hp hc
      · exact hm
      · refine (s.mem_selected_unmark v x _).mpr ⟨hm, fun he => hB ?_⟩
        rwa [(Prod.mk.inj he).1]
    · exact (performOp_marks hp hc _).mpr (.inl hm)
  ext e s s' _ hE he hm := by
    obtain ⟨d, -, rfl⟩ | ⟨t, L, -, -, rfl⟩ | ⟨i, x, d, -, -, -, -, rfl⟩ | ⟨v, x, -, rfl⟩ | ⟨v, x, rfl, rfl⟩ :=
      Server.outside_cases he
    · exact hm
    · exact hm
    · exact hm
    · exact (mem_selected_markAll s v [x] _).mpr (.inl hm)
    · refine (s.mem_selected_unmark v x _).mpr ⟨hm, fun he => hE ?_⟩
      obtain ⟨rfl, rfl⟩ := Prod.mk.inj he
      rfl

/-- The handlers that mark utxos. -/
def RouteKind.marks : RouteKind → Bool
  | send | offer | mark | swap => true
  | unlock | stop | read => false

/-- The handlers that give utxos back. -/
def RouteKind.unmarks : RouteKind → Bool
  | mark | unlock => true
  | send | offer | swap | stop | read => false

theorem acts_of_marks {req : HttpRequest} {log : List (Event ApiOp.Ans)} {w : WalletRef} {d : Op}
    (h : InScope req log (.gate (.server d))) (hd : MarksOn w d) :
    ∃ x kind, x.wallet = w ∧ kind.marks = true ∧ ActsOn req log x kind := by
  unfold MarksOn at hd
  split at hd
  all_goals first | exact hd.elim | subst hd
  all_goals
    rcases server_cases h (fun h => h.elim id id) with (h | ⟨-, h⟩) | ⟨x, kind, hx, h⟩
    · exact h.elim
    · exact h.elim
    · cases kind with
      | unlock => exact h.elim
      | stop => exact h.elim
      | read => exact h.elim
      | _ => first | exact h.elim | exact ⟨x, _, Eq.symm h, rfl, hx⟩

theorem acts_of_unmarks {req : HttpRequest} {log : List (Event ApiOp.Ans)} {w : WalletRef} {d : Op}
    (h : InScope req log (.gate (.server d))) (hd : UnmarksOn w d) :
    ∃ x kind, x.wallet = w ∧ kind.unmarks = true ∧ ActsOn req log x kind := by
  unfold UnmarksOn at hd
  split at hd
  · subst hd
    rcases server_cases h (fun h => h.elim id id) with (h | ⟨-, h⟩) | ⟨x, kind, hx, h⟩
    · exact h.elim
    · exact h.elim
    · cases kind with
      | mark => exact ⟨x, _, Eq.symm h, rfl, hx⟩
      | unlock => exact ⟨x, _, Eq.symm h, rfl, hx⟩
      | _ => exact h.elim
  · exact hd.elim

/-- A utxo of `w` is marked, and given back, by `wallet-lib` itself or in the turn of a flow whose middleware has let
`w` through, to a handler that does so. -/
structure MarksIsolated (w : WalletRef) (S S' : App) (l : AppStep) : Prop where
  marked : ∀ u, (w, u) ∈ S'.state.gate.server.selected → (w, u) ∉ S.state.gate.server.selected →
    S.Caused S' l (· = .outside (.mark w u)) fun _ p => ∃ x kind, x.wallet = w ∧ kind.marks = true ∧ ActsOn p.req p.log x kind
  unmarked : ∀ u, (w, u) ∈ S.state.gate.server.selected → (w, u) ∉ S'.state.gate.server.selected →
    S.Caused S' l (· = .outside (.unmark w u)) fun _ p =>
      ∃ x kind, x.wallet = w ∧ kind.unmarks = true ∧ ActsOn p.req p.log x kind

theorem App.marks_isolated {L : TxProposalLib} {key : Option String} {ok : App → AppStep → Prop} {s₀ : Api} {S S' : App}
    {l : AppStep} (h : App.Run L key ok s₀ S) (hs : S.step api (serve L key) l = some S') (w : WalletRef) :
    MarksIsolated w S S' l where
  marked u hafter hbefore := by
    rcases App.caused (marks_frame w u) steady_true trivial h hs (fun hR => hbefore (hR hafter)) with
      ⟨e, rfl, he⟩ | ⟨i, p, hi, hp, d, hd, hmarks⟩
    · cases e with
      | outside e => exact .inl ⟨_, rfl, congrArg _ he⟩
      | changed wallet state => exact he.elim
    · exact .inr ⟨i, p, hi, hp, acts_of_marks hd hmarks⟩
  unmarked u hbefore hafter := by
    rcases App.caused (unmarks_frame w u) steady_true trivial h hs (fun hR => hafter (hR hbefore)) with
      ⟨e, rfl, he⟩ | ⟨i, p, hi, hp, d, hd, hunmarks⟩
    · cases e with
      | outside e => exact .inl ⟨_, rfl, congrArg _ he⟩
      | changed wallet state => exact he.elim
    · exact .inr ⟨i, p, hi, hp, acts_of_unmarks hd hunmarks⟩

theorem builds_marks : ((Sys.exec api (serve oneHexLib (some "key")) (fun _ _ => True) builds ⟨servesOne, []⟩).bind
    fun S => (S.step api (serve oneHexLib (some "key")) (appProceeds 0)).map fun S' => decide
      ((0, utxo 0) ∉ S.state.gate.server.selected ∧ (0, utxo 0) ∈ S'.state.gate.server.selected)) = some true := by
  decide +kernel

theorem builds_isolated : ∃ S S' : App, ((0, utxo 0) ∉ S.state.gate.server.selected ∧
    (0, utxo 0) ∈ S'.state.gate.server.selected) ∧ MarksIsolated 0 S S' (appProceeds 0) := by
  obtain ⟨S, S', hS, hs, hp⟩ := App.turn_of_exec builds_marks
  exact ⟨S, S', hp, App.marks_isolated hS hs 0⟩

/-! ## What is kept under a wallet id -/

/-- The calls that change the entries of the wallet id in the maps of the service. -/
def RegistersOn (walletId : String) : Op → Prop
  | .registry (.setWallet id _) | .registry (.deleteWallet id) => id = walletId
  | .registry (.setHsmWallet id _) | .registry (.deleteHsmWallet id) => id = walletId
  | .registry (.setLogger id) | .registry (.deleteLogger id) => id = walletId
  | _ => False

/-- The calls that change the proposals that are listened to for the wallet id. -/
def ListensOn (walletId : String) : Op → Prop
  | .proposals (.addProposal id _ _) | .proposals (.removeProposal id _) | .proposals (.deleteProposals id) =>
    id = walletId
  | _ => False

/-- The calls on the configuration. -/
def ConfiguresOp : Op → Prop
  | .settings _ => True
  | _ => False

namespace Server

/-- The entries of the wallet id in the maps of the service. -/
def entries (s : Server) (walletId : String) : Option WalletRef × Option String × Option Nat :=
  (s.initializedWallets.get walletId, s.hsmWalletIds.get walletId, s.walletLoggers.get walletId)

variable {s s' : Server} {walletId : String}

theorem entries_congr (hw : s'.initializedWallets = s.initializedWallets)
    (hr : s'.hsmWalletIds = s.hsmWalletIds ∧ s'.walletLoggers = s.walletLoggers) :
    s'.entries walletId = s.entries walletId := by
  unfold entries
  rw [hw, hr.1, hr.2]

theorem entries_performRegistry (i : Nat) (c : RegistryCall) (w : c.Result) (hB : ¬ RegistersOn walletId (.registry c)) :
    (s.performRegistry i c w).2.entries walletId = s.entries walletId := by
  cases c with
  | setWallet id v =>
      show ((s.initializedWallets.set id v).get walletId, _, _) = _
      rw [Js.Map.get_set, if_neg (Ne.symm hB)]
      rfl
  | deleteWallet id =>
      show ((s.initializedWallets.delete id).get walletId, _, _) = _
      rw [Js.Map.get_delete, if_neg (Ne.symm hB)]
      rfl
  | setHsmWallet id key =>
      show (_, (s.hsmWalletIds.set id key).get walletId, _) = _
      rw [Js.Map.get_set, if_neg (Ne.symm hB)]
      rfl
  | deleteHsmWallet id =>
      show (_, (s.hsmWalletIds.delete id).get walletId, _) = _
      rw [Js.Map.get_delete, if_neg (Ne.symm hB)]
      rfl
  | setLogger id =>
      show (_, _, (s.walletLoggers.set id i).get walletId) = _
      rw [Js.Map.get_set, if_neg (Ne.symm hB)]
      rfl
  | deleteLogger id =>
      show (_, _, (s.walletLoggers.delete id).get walletId) = _
      rw [Js.Map.get_delete, if_neg (Ne.symm hB)]
      rfl
  | newWallet id walletConfig config => cases w <;> rfl
  | _ => rfl

theorem entries_performOp {i : Nat} {c : Op} {w r : c.Ans} (h : s.performOp i c w = some (r, s'))
    (hB : ¬ RegistersOn walletId c) : s'.entries walletId = s.entries walletId := by
  have huntouched := performOp_untouched h
  cases c with
  | registry c =>
      have he : (s.performRegistry i c w).2 = s' := congrArg Prod.snd (Option.some.inj h)
      rw [← he]
      exact entries_performRegistry i c w hB
  | _ => exact entries_congr (huntouched.wallets (by simp)) ⟨(huntouched.registry (by simp)).1, (huntouched.registry (by simp)).2.1⟩

end Server

theorem entries_frame (walletId : String) : world.Frame (fun _ => True) (fun _ => RegistersOn walletId) (fun _ => False)
    fun s s' => s'.entries walletId = s.entries walletId where
  refl s := rfl
  trans s s' s'' h h' := h'.trans h
  call i c s _ _ := by
    cases c with
    | wallet c => cases c <;> rfl
    | hsm c => cases c <;> rfl
    | _ => rfl
  perform i c w r s s' _ hB hp := Server.entries_performOp hp hB
  ext e s s' _ _ he := by
    obtain ⟨d, -, rfl⟩ | ⟨t, L, -, -, rfl⟩ | ⟨i, u, d, -, -, -, -, rfl⟩ | ⟨w, u, -, rfl⟩ | ⟨w, u, -, rfl⟩ :=
      Server.outside_cases he <;> rfl

theorem maps_steady : world.Steady Server.MapsOk where
  call i c s h := h.congr (s.listed_callOf i c)
  perform i c w r s s' h hp := by
    obtain he | ⟨walletId, proposalId, password, -, rfl⟩ | ⟨walletId, proposalId, -, rfl⟩ | ⟨walletId, -, rfl⟩ :=
      Server.listed_cases hp
    · exact h.congr he
    · exact h.addListenedProposal i walletId proposalId password
    · exact h.removeListenedProposal walletId proposalId
    · exact h.deleteProposals walletId
  ext e s s' h he := h.congr (Server.listed_outside he)

theorem stored_frame (walletId proposalId : String) : world.Frame Server.MapsOk (fun _ => ListensOn walletId)
    (fun _ => False) fun s s' => s'.stored walletId proposalId = s.stored walletId proposalId where
  refl s := rfl
  trans s s' s'' h h' := h'.trans h
  call i c s _ _ := Server.stored_congr (s.listed_callOf i c) walletId proposalId
  perform i c w r s s' h hB hp := by
    obtain he | ⟨id, proposal, password, rfl, rfl⟩ | ⟨id, proposal, rfl, rfl⟩ | ⟨id, rfl, rfl⟩ := Server.listed_cases hp
    · exact Server.stored_congr he walletId proposalId
    · rw [Server.stored_addListenedProposal h, if_neg fun hid => hB hid.1.symm]
    · rw [Server.stored_removeListenedProposal h, if_neg fun hid => hB hid.1.symm]
    · rw [Server.stored_deleteProposals, if_neg (Ne.symm hB)]
  ext e s s' _ _ he := Server.stored_congr (Server.listed_outside he) walletId proposalId

theorem config_frame : world.Frame (fun _ => True) (fun _ => ConfiguresOp) (fun _ => False)
    fun s s' => s'.config = s.config where
  refl s := rfl
  trans s s' s'' h h' := h'.trans h
  call i c s _ _ := by
    cases c with
    | wallet c => cases c <;> rfl
    | hsm c => cases c <;> rfl
    | _ => rfl
  perform i c w r s s' _ hB hp := (Server.performOp_untouched hp).config fun d hd => hB (by rw [hd]; trivial)
  ext e s s' _ _ he := by
    obtain ⟨d, -, rfl⟩ | ⟨t, L, -, -, rfl⟩ | ⟨i, u, d, -, -, -, -, rfl⟩ | ⟨w, u, -, rfl⟩ | ⟨w, u, -, rfl⟩ :=
      Server.outside_cases he <;> rfl

section
variable {req : HttpRequest} {log : List (Event ApiOp.Ans)} {walletId : String} {d : Op}

/-- The request starts the wallet id, is let through to stop its wallet, or reloads the configuration. -/
inductive Registrar (walletId : String) (req : HttpRequest) (log : List (Event ApiOp.Ans)) : Prop
  | starts (h : req.starts = some walletId)
  | stops (x : Injected) (hx : x.walletId = walletId) (h : ActsOn req log x .stop)
  | reloads (h : req.Reloads)

/-- The request is let through for an atomic swap of the wallet id, or to stop its wallet, or reloads the
configuration. -/
inductive Listener (walletId : String) (req : HttpRequest) (log : List (Event ApiOp.Ans)) : Prop
  | swaps (x : Injected) (hx : x.walletId = walletId) (h : ActsOn req log x .swap)
  | stops (x : Injected) (hx : x.walletId = walletId) (h : ActsOn req log x .stop)
  | reloads (h : req.Reloads)

theorem registrar_of_registers (h : InScope req log (.gate (.server d))) (hd : RegistersOn walletId d) :
    Registrar walletId req log := by
  unfold RegistersOn at hd
  split at hd
  all_goals first | exact hd.elim | subst hd
  all_goals
    rcases server_cases h (fun h => h.elim id id) with (h | ⟨hreloads, -⟩) | ⟨x, kind, hx, h⟩
    · first | exact .starts h | exact h.elim
    · exact .reloads hreloads
    · cases kind with
      | stop => first | exact .stops x (Eq.symm h) hx | exact h.elim
      | _ => exact h.elim

theorem listener_of_listens (h : InScope req log (.gate (.server d))) (hd : ListensOn walletId d) :
    Listener walletId req log := by
  unfold ListensOn at hd
  split at hd
  all_goals first | exact hd.elim | subst hd
  all_goals
    rcases server_cases h (fun h => h.elim id id) with (h | ⟨hreloads, -⟩) | ⟨x, kind, hx, h⟩
    · exact h.elim
    · exact .reloads hreloads
    · cases kind with
      | stop => first | exact .stops x (Eq.symm h) hx | exact h.elim
      | swap => first | exact .swaps x (Eq.symm h) hx | exact h.elim
      | _ => exact h.elim

theorem reloads_of_configures (h : InScope req log (.gate (.server d))) (hd : ConfiguresOp d) : req.Reloads := by
  unfold ConfiguresOp at hd
  split at hd
  · rcases server_cases h (fun h => h.elim id id) with (h | ⟨hreloads, -⟩) | ⟨x, kind, hx, h⟩
    · exact h.elim
    · exact hreloads
    · cases kind <;> exact h.elim
  · exact hd.elim

end

/-- What a step changes under the wallet id is changed in the turn of a flow that may; the outside changes nothing. -/
structure EntriesIsolated (walletId : String) (S S' : App) (l : AppStep) : Prop where
  registered : S'.state.gate.server.entries walletId ≠ S.state.gate.server.entries walletId →
    S.Caused S' l (fun _ => False) fun _ p => Registrar walletId p.req p.log
  listened : ∀ proposalId,
    S'.state.gate.server.stored walletId proposalId ≠ S.state.gate.server.stored walletId proposalId →
    S.Caused S' l (fun _ => False) fun _ p => Listener walletId p.req p.log
  configured : S'.state.gate.server.config ≠ S.state.gate.server.config →
    S.Caused S' l (fun _ => False) fun _ p => p.req.Reloads

theorem ofOutside_none : ofOutside (fun _ => False) = fun _ => False := by
  funext e
  cases e <;> rfl

theorem App.entries_isolated {L : TxProposalLib} {key : Option String} {ok : App → AppStep → Prop} {s₀ : Api}
    {S S' : App} {l : AppStep} (hmaps : s₀.gate.server.MapsOk) (h : App.Run L key ok s₀ S)
    (hs : S.step api (serve L key) l = some S') (walletId : String) : EntriesIsolated walletId S S' l where
  registered hne := by
    have hcaused := App.caused (entries_frame walletId) steady_true trivial h hs hne
    rw [ofOutside_none] at hcaused
    exact hcaused.mono fun i p _ ⟨d, hd, hregisters⟩ => registrar_of_registers hd hregisters
  listened proposalId hne := by
    have hcaused := App.caused (stored_frame walletId proposalId) maps_steady hmaps h hs hne
    rw [ofOutside_none] at hcaused
    exact hcaused.mono fun i p _ ⟨d, hd, hlistens⟩ => listener_of_listens hd hlistens
  configured hne := by
    have hcaused := App.caused config_frame steady_true trivial h hs hne
    rw [ofOutside_none] at hcaused
    exact hcaused.mono fun i p _ ⟨d, hd, hconfigures⟩ => reloads_of_configures hd hconfigures

/-- The wallet `"v"` is about to be registered. -/
def registers : List AppStep :=
  [appComes { route := .root (.start { walletId := some "v", xpubkey := some "xpub" }) }]

theorem registers_entry : ((Sys.exec api (serve oneHexLib none) (fun _ _ => True) registers ⟨servesOne, []⟩).bind
    fun S => (S.step api (serve oneHexLib none) (appProceeds 0)).map fun S' => decide
      (S'.state.gate.server.entries "v" ≠ S.state.gate.server.entries "v")) = some true := by
  decide +kernel

theorem servesOne_maps : servesOne.gate.server.MapsOk where
  bound walletId m h := by cases h
  inj walletId walletId' m h := by cases h

theorem registers_isolated : ∃ S S' : App, S'.state.gate.server.entries "v" ≠ S.state.gate.server.entries "v" ∧
    EntriesIsolated "v" S S' (appProceeds 0) := by
  obtain ⟨S, S', hS, hs, hp⟩ := App.turn_of_exec registers_entry
  exact ⟨S, S', hp, App.entries_isolated servesOne_maps hS hs "v"⟩

end WalletHeadless
