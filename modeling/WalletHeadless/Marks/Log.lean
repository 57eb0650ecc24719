import WalletHeadless.Server.Frame
import WalletHeadless.Server.Requests
import WalletHeadless.Services.Asks

/-!
# What a request marks, from its log

A request that runs alone changes the marks by its own calls, so its log says what it has marked.

* `marksOf`, `marksIn`: what an answer marks, and what a log does;
* `MarkTie`, `world_ties`: the marks of the service, the marks before the request, and its log;
* `Clean`, `Broken`: nothing has failed so far, and a call has failed since when nothing was marked;
* `Settled`, `failureKeeps_iff`: a request ends so, and its failure leaves the marks as they were exactly when nothing
  fails after a new mark.
-/

namespace WalletHeadless

open Coop Js

/-! ## Marks -/

/-- What the answer to a call marks. -/
def marksOf : (c : Op) → c.Ans → List (WalletRef × Utxo)
  | .wallet (.updateOutputSelected w tx), .ok _ => tx.utxos.map fun u => (w, u)
  | .wallet (.markUtxoSelected w u true _), .ok _ => [(w, u)]
  | .wallet (.addSend w _ _ _ _ _ true), .ok us => us.map fun u => (w, u)
  | _, _ => []

def Unmarks : Op → Prop
  | .wallet (.markUtxoSelected _ _ false _) => True
  | _ => False

def marksIn (log : Log) : List (WalletRef × Utxo) := log.flatMap fun e => marksOf e.1 e.2

theorem marksIn_snoc (log : Log) (e : Event Op.Ans) : marksIn (log ++ [e]) = marksIn log ++ marksOf e.1 e.2 := by
  simp [marksIn]

theorem mem_marksIn {log : Log} {x : WalletRef × Utxo} : x ∈ marksIn log ↔ ∃ e ∈ log, x ∈ marksOf e.1 e.2 :=
  List.mem_flatMap

theorem mem_selected_markAll (s : Server) (w : WalletRef) (us : List Utxo) (x : WalletRef × Utxo) :
    x ∈ (s.markAll w us).selected ↔ x ∈ s.selected ∨ x ∈ us.map fun u => (w, u) := by
  rw [Server.markAll, List.mem_append, or_comm]

theorem performWallet_marks {s s' : Server} {i : Nat} {c : WalletCall} {w r : Except JsError c.Result}
    (h : s.performWallet i c w = some (r, s')) (hc : ¬ Unmarks (.wallet c)) (x : WalletRef × Utxo) :
    x ∈ s'.selected ↔ x ∈ s.selected ∨ x ∈ marksOf (.wallet c) r := by
  cases c with
  | build v b =>
      cases w with
      | error e => cases h; simp [marksOf, Server.endDraft]
      | ok st =>
          obtain ⟨-, he⟩ := Option.ite_none_right_eq_some.mp h
          cases he
          simp [marksOf, Server.endDraft]
  | prepareTx v st =>
      cases w with
      | error e => cases h; simp [marksOf, Server.endDraft]
      | ok tx =>
          obtain ⟨-, he⟩ := Option.ite_none_right_eq_some.mp h
          cases he
          simp [marksOf, Server.endDraft]
  | updateOutputSelected v tx =>
      cases w with
      | error e => cases h; simp [marksOf]
      | ok a => cases h; exact mem_selected_markAll s v tx.utxos x
  | markUtxoSelected v u mark ttl =>
      cases mark with
      | false => exact absurd trivial hc
      | true =>
          cases w with
          | error e => cases h; simp [marksOf]
          | ok a => cases h; exact mem_selected_markAll s v [u] x
  | addSend v proposal token value utxos changeAddress mark =>
      cases w with
      | error e => cases h; cases mark <;> simp [marksOf]
      | ok us =>
          cases mark with
          | false => cases h; simp [marksOf]
          | true => cases h; exact mem_selected_markAll s v us x
  | runFromMining v tx => cases h; simp [marksOf]
  | start v => cases w <;> cases h <;> simp [marksOf, Server.setRunning]
  | stop v => cases w <;> cases h <;> simp [marksOf, Server.setRunning]

theorem performOp_marks {s s' : Server} {i : Nat} {c : Op} {w r : c.Ans} (h : s.performOp i c w = some (r, s'))
    (hc : ¬ Unmarks c) (x : WalletRef × Utxo) : x ∈ s'.selected ↔ x ∈ s.selected ∨ x ∈ marksOf c r := by
  cases c with
  | wallet c => exact performWallet_marks h hc x
  | _ =>
      rw [((Server.performOp_untouched h).utxos (by simp)).1]
      simp [marksOf]

/-! ## The marks of the service -/

/-- Nobody else marks or unmarks a utxo. -/
def LeavesMarks : Outside → Prop
  | .mark _ _ | .unmark _ _ => False
  | _ => True

instance : DecidablePred LeavesMarks := fun e =>
  match e with
  | .mark _ _ | .unmark _ _ => isFalse id
  | .advance _ | .fire _ | .pick _ _ => isTrue trivial

/-- A library can give the answer. -/
def Gives : (c : Op) → c.Ans → Prop
  | .lib c, r => c.gives r = true
  | _, _ => True

/-- The marks before the request, those of its log, and those of the service. -/
structure MarkTie (s₀ s : Server) (log : Log) : Prop where
  given : ∀ e ∈ log, Gives e.1 e.2
  marks : (∀ e ∈ log, ¬ Unmarks e.1) → ∀ x, x ∈ s.selected ↔ x ∈ s₀.selected ∨ x ∈ marksIn log

theorem callOf_selected (i : Nat) (c : Op) (s : Server) : (s.callOf i c).selected = s.selected := by
  cases c with
  | wallet c => cases c <;> rfl
  | hsm c => cases c <;> rfl
  | _ => rfl

theorem world_ties (s₀ : Server) : world.Ties LeavesMarks (MarkTie s₀) where
  call i c s t h := by
    refine ⟨h.given, fun ht x => ?_⟩
    rw [show (world.call i c s).selected = s.selected from callOf_selected i c s]
    exact h.marks ht x
  perform i c w r s s' t h hp := by
    refine ⟨fun e he => ?_, fun ht x => ?_⟩
    · rcases List.mem_append.mp he with he | he
      · exact h.given e he
      · rw [List.mem_singleton.mp he]
        cases c with
        | lib c =>
            obtain ⟨hg, he⟩ := Option.ite_none_right_eq_some.mp hp
            cases he
            exact hg
        | _ => trivial
    · rw [performOp_marks hp (ht ⟨c, r⟩ (by simp)) x, h.marks (fun e he => ht e (by simp [he])) x, marksIn_snoc,
        List.mem_append, or_assoc]
  ext e s s' t h hcalm he := by
    refine ⟨h.given, fun ht x => ?_⟩
    obtain ⟨d, -, rfl⟩ | ⟨t, L, -, -, rfl⟩ | ⟨i, u, d, rfl, hd, -, hfree, rfl⟩ | ⟨w, u, rfl, rfl⟩ | ⟨w, u, rfl, rfl⟩ :=
      Server.outside_cases he
    · exact h.marks ht x
    · exact h.marks ht x
    · exact h.marks ht x
    · exact hcalm.elim
    · exact hcalm.elim

theorem markTie_start (s₀ : Server) : MarkTie s₀ s₀ [] := ⟨by simp, by simp [marksIn]⟩

/-- `S` is reached by one request while nobody else marks or unmarks a utxo. -/
abbrev MarkRun {ρ : Type} (body : ρ → Async Unit) (s₀ : Server) (S : Sys Op.Ans JsError Unit Server ρ) : Prop :=
  Reach world body (Sys.Alone LeavesMarks) ⟨s₀, []⟩ S

section
variable {ρ : Type} {body : ρ → Async Unit} {s₀ : Server} {S : Sys Op.Ans JsError Unit Server ρ}
  {p : Proc Op.Ans JsError Unit ρ}

theorem MarkRun.steps_one (h : MarkRun body s₀ S) (hp : S.procs = [p]) : Steps (body p.req) p.log p.rest :=
  h.steps (i := 0) (by rw [hp]; rfl)

theorem MarkRun.tie (h : MarkRun body s₀ S) (hp : S.procs = [p]) : MarkTie s₀ S.state p.log := by
  obtain ⟨hnil, -⟩ | ⟨p', hp', htie⟩ := (world_ties s₀).reach (markTie_start s₀) h
  · rw [hnil] at hp
    cases hp
  · rw [hp] at hp'
    cases hp'
    exact htie

/-- The state and the one request after the steps. -/
theorem MarkRun.of_exec (body : ρ → Async Unit) (steps : List (Label Op.Ans ρ Outside)) (s₀ : Server)
    (Q : Server → Proc Op.Ans JsError Unit ρ → Prop) [∀ s p, Decidable (Q s p)]
    (h : (Sys.exec world body (Sys.Alone LeavesMarks) steps ⟨s₀, []⟩).any
      (fun S => S.procs.length = 1 ∧ ∀ p ∈ S.procs, p.rest.Ended ∧ Q S.state p) = true) :
    ∃ S p, MarkRun body s₀ S ∧ S.procs = [p] ∧ p.rest.Ended ∧ Q S.state p := by
  obtain ⟨S, hS, hQ⟩ := (Option.any_eq_true _ _).mp h
  obtain ⟨hlength, hQ⟩ := of_decide_eq_true hQ
  obtain ⟨p, hp⟩ := List.length_eq_one_iff.mp hlength
  exact ⟨S, p, Reach.start.exec hS, hp, hQ p (by simp [hp])⟩

end

/-- The answer marks a utxo that was not marked before the request. -/
def NewMark (s₀ : Server) (e : Event Op.Ans) : Prop := ∃ x ∈ marksOf e.1 e.2, x ∉ s₀.selected

instance (s₀ : Server) : DecidablePred (NewMark s₀) := fun e =>
  inferInstanceAs (Decidable (∃ x ∈ marksOf e.1 e.2, x ∉ s₀.selected))

/-- The same utxos are marked. -/
def SameMarks (s₀ s : Server) : Prop := ∀ x, x ∈ s.selected ↔ x ∈ s₀.selected

theorem MarkTie.sameMarks_iff {s₀ s : Server} {log : Log} (h : MarkTie s₀ s log) (hlog : ∀ e ∈ log, ¬ Unmarks e.1) :
    SameMarks s₀ s ↔ ¬ ∃ e ∈ log, NewMark s₀ e := by
  have hmarks := h.marks hlog
  constructor
  · rintro hsame ⟨e, he, x, hx, hnew⟩
    exact hnew ((hsame x).mp ((hmarks x).mpr (.inr (mem_marksIn.mpr ⟨e, he, hx⟩))))
  · intro hnone x
    refine (hmarks x).trans ⟨fun hx => ?_, .inl⟩
    rcases hx with hx | hx
    · exact hx
    · obtain ⟨e, he, hx⟩ := mem_marksIn.mp hx
      by_contra hnew
      exact hnone ⟨e, he, x, hx, hnew⟩

/-! ## How a request ends

`F` is what makes a request give up. -/

/-- Calls that neither reply nor unmark a utxo. -/
def Plain : Op → Prop
  | .send _ => False
  | c => ¬ Unmarks c

/-- Nothing has been marked. -/
def Unmarked (log : Log) : Prop := ∀ e ∈ log, Plain e.1 ∧ marksOf e.1 e.2 = []

/-- Nothing has failed since the first mark. -/
structure Clean (F : Event Op.Ans → Prop) (log : Log) : Prop where
  plain : ∀ e ∈ log, Plain e.1
  calm : ¬ Follows (fun e => marksOf e.1 e.2 ≠ []) F log

/-- A call has failed, and nothing has been marked since. -/
def Broken (F : Event Op.Ans → Prop) (log : Log) : Prop :=
  ∃ u e v, log = u ++ e :: v ∧ (∀ e ∈ u, Plain e.1) ∧ F e ∧ Unmarked (e :: v)

section
variable {F : Event Op.Ans → Prop} {log : Log} {e : Event Op.Ans}

theorem Plain.keeps {c : Op} (h : Plain c) : ¬ Unmarks c := by
  cases c with
  | send reply => exact h.elim
  | _ => exact h

theorem Clean.snoc (h : Clean F log) (he : ¬ F e) (hp : Plain e.1) : Clean F (log ++ [e]) where
  plain := by
    intro e' he'
    rcases List.mem_append.mp he' with he' | he'
    · exact h.plain e' he'
    · rwa [List.mem_singleton.mp he']
  calm hfollows := (follows_snoc.mp hfollows).elim h.calm fun hlast => he hlast.2

theorem unmarked_nil : Unmarked [] := by simp [Unmarked]

theorem Unmarked.snoc (h : Unmarked log) (hp : Plain e.1) (hm : marksOf e.1 e.2 = []) : Unmarked (log ++ [e]) := by
  intro e' he'
  rcases List.mem_append.mp he' with he' | he'
  · exact h e' he'
  · rw [List.mem_singleton.mp he']
    exact ⟨hp, hm⟩

theorem Unmarked.marksIn (h : Unmarked log) : marksIn log = [] :=
  List.flatMap_eq_nil_iff.mpr fun e he => (h e he).2

theorem Unmarked.clean (h : Unmarked log) : Clean F log where
  plain e he := (h e he).1
  calm hfollows := by
    obtain ⟨⟨e, he, hmarks⟩, -⟩ := hfollows.mem
    exact hmarks (h e he).2

/-- Calls that mark nothing. -/
def Idle (c : Op) : Prop := Plain c ∧ ∀ r : c.Ans, marksOf c r = []

theorem unmarked_keeps {α : Type} {told : (c : Op) → c.Ans → Prop} {p : Async α} (hp : p.Uses Idle) :
    (historyOf told).Keeps Unmarked p :=
  Protocol.keeps_of_uses hp fun _ hc => Protocol.keeps_ask (fun _ _ => trivial) fun _ r h _ => h.snoc hc.1 (hc.2 r)

theorem lib_idle_marks (c : LibCall) : (lib c).Uses Idle := (Prog.uses_ask (c := Op.lib c) ⟨id, fun _ => rfl⟩).attempt

/-- The call that fails. -/
theorem Clean.fails (h : Clean F log) (he : F e) (hp : Plain e.1) (hm : marksOf e.1 e.2 = []) :
    Broken F (log ++ [e]) :=
  ⟨log, e, [], rfl, h.plain, he, Unmarked.snoc unmarked_nil hp hm⟩

theorem Broken.snoc (h : Broken F log) (hp : Plain e.1) (hm : marksOf e.1 e.2 = []) : Broken F (log ++ [e]) := by
  obtain ⟨u, e', v, rfl, hu, hF, hv⟩ := h
  refine ⟨u, e', v ++ [e], by simp, hu, hF, ?_⟩
  rw [← List.cons_append]
  exact hv.snoc hp hm

theorem broken_keeps {α : Type} {told : (c : Op) → c.Ans → Prop} {p : Async α} (hp : p.Uses Idle) :
    (historyOf told).Keeps (Broken F) p :=
  Protocol.keeps_of_uses hp fun _ hc => Protocol.keeps_ask (fun _ _ => trivial) fun _ r h _ => h.snoc hc.1 (hc.2 r)

theorem Broken.plain (h : Broken F log) : ∀ e ∈ log, Plain e.1 := by
  obtain ⟨u, e', v, rfl, hu, -, hv⟩ := h
  intro e he
  rcases List.mem_append.mp he with he | he
  · exact hu e he
  · exact (hv e he).1

end

/-- A request is done, or it has failed and said so; `thrown` has no reply. -/
inductive Settled (F : Event Op.Ans → Prop) (Done : Log → Reply → Prop) : Log → Prop
  | done {log : Log} {reply : Reply} (h : Clean F log) (hr : reply.body.success = true) (hd : Done log reply) :
      Settled F Done (log ++ [⟨.send reply, ()⟩])
  | failed {log : Log} {reply : Reply} (h : Broken F log) (hr : reply.body.success = false) :
      Settled F Done (log ++ [⟨.send reply, ()⟩])
  | untouched {log : Log} {reply : Reply} (h : Unmarked log) (hr : reply.body.success = false) :
      Settled F Done (log ++ [⟨.send reply, ()⟩])
  | thrown {log : Log} (h : Unmarked log) : Settled F Done log

/-- A reply that says `success: false` leaves the marks as they were. -/
def FailureKeeps (s₀ s : Server) (log : Log) : Prop :=
  ∀ reply : Reply, ⟨.send reply, ()⟩ ∈ log → reply.body.success = false → SameMarks s₀ s

section
variable {F : Event Op.Ans → Prop} {Done : Log → Reply → Prop} {log : Log} {s₀ s : Server}

/-- The one reply of a request. -/
theorem eq_of_mem_sent (h : ∀ e ∈ log, Plain e.1) {reply reply' : Reply}
    (hr : (⟨.send reply', ()⟩ : Event Op.Ans) ∈ log ++ [⟨.send reply, ()⟩]) : reply' = reply := by
  rcases List.mem_append.mp hr with hr | hr
  · exact (h _ hr).elim
  · cases List.mem_singleton.mp hr
    rfl

theorem sent_keeps (h : ∀ e ∈ log, Plain e.1) (reply : Reply) :
    ∀ e ∈ log ++ [⟨.send reply, ()⟩], ¬ Unmarks e.1 := by
  intro e he
  rcases List.mem_append.mp he with he | he
  · exact (h e he).keeps
  · rw [List.mem_singleton.mp he]
    exact id

theorem Unmarked.not_new (h : Unmarked log) : ¬ ∃ e ∈ log, NewMark s₀ e := by
  rintro ⟨e, he, x, hx, -⟩
  rw [(h e he).2] at hx
  cases hx

theorem not_new_sent (h : ¬ ∃ e ∈ log, NewMark s₀ e) (reply : Reply) :
    ¬ ∃ e ∈ log ++ [⟨.send reply, ()⟩], NewMark s₀ e := by
  rintro ⟨e, he, hnew⟩
  rcases List.mem_append.mp he with he | he
  · exact h ⟨e, he, hnew⟩
  · rw [List.mem_singleton.mp he] at hnew
    obtain ⟨x, hx, -⟩ := hnew
    cases hx

/-- After a failure, what is new has been marked before it. -/
theorem Broken.follows_iff (h : Broken F log) (reply : Reply) :
    Follows (NewMark s₀) F (log ++ [⟨.send reply, ()⟩]) ↔ ∃ e ∈ log ++ [⟨.send reply, ()⟩], NewMark s₀ e := by
  refine ⟨fun hfollows => hfollows.mem.1, ?_⟩
  obtain ⟨u, e, v, rfl, hu, hF, hv⟩ := h
  rintro ⟨e', he', x, hx, hnew⟩
  refine ⟨u, e, v ++ [⟨.send reply, ()⟩], by simp, ⟨e', ?_, x, hx, hnew⟩, hF⟩
  rcases List.mem_append.mp he' with he' | he'
  · rcases List.mem_append.mp he' with he' | he'
    · exact he'
    · rw [(hv e' he').2] at hx
      cases hx
  · rw [List.mem_singleton.mp he'] at hx
    cases hx

theorem Settled.of_success (h : Settled F Done log) {reply : Reply} (hr : (⟨.send reply, ()⟩ : Event Op.Ans) ∈ log)
    (hs : reply.body.success = true) : ∃ u, log = u ++ [⟨.send reply, ()⟩] ∧ Clean F u ∧ Done u reply := by
  have hfailed {u : Log} {reply' : Reply} (hu : ∀ e ∈ u, Plain e.1)
      (hr : (⟨.send reply, ()⟩ : Event Op.Ans) ∈ u ++ [⟨.send reply', ()⟩]) (hfalse : reply'.body.success = false) : False := by
    rw [← eq_of_mem_sent hu hr, hs] at hfalse
    cases hfalse
  cases h with
  | done hu hr' hd =>
      obtain rfl := eq_of_mem_sent hu.plain hr
      exact ⟨_, rfl, hu, hd⟩
  | failed hu hr' => exact (hfailed hu.plain hr hr').elim
  | untouched hu hr' => exact (hfailed (fun e he => (hu e he).1) hr hr').elim
  | thrown hu => exact (hu _ hr).1.elim

/-- A failure leaves the marks as they were exactly when nothing fails after a new mark. -/
theorem Settled.failureKeeps_iff (hF : ∀ reply, ¬ F ⟨.send reply, ()⟩) (ht : MarkTie s₀ s log)
    (h : Settled F Done log) : FailureKeeps s₀ s log ↔ ¬ Follows (NewMark s₀) F log := by
  cases h with
  | done hu hr hd =>
      refine iff_of_true (fun reply hreply hfalse => ?_) fun hfollows => ?_
      · rw [eq_of_mem_sent hu.plain hreply, hr] at hfalse
        cases hfalse
      · rcases follows_snoc.mp hfollows with hfollows | ⟨-, hfails⟩
        · refine hu.calm (hfollows.mono fun e he => ?_)
          obtain ⟨x, hx, -⟩ := he
          exact List.ne_nil_of_mem hx
        · exact hF _ hfails
  | failed hu hr =>
      rw [hu.follows_iff, ← ht.sameMarks_iff (sent_keeps hu.plain _)]
      exact ⟨fun hkeeps => hkeeps _ (by simp) hr, fun hsame _ _ _ => hsame⟩
  | @untouched log reply hu hr =>
      have hnone : ¬ ∃ e ∈ log ++ [⟨.send reply, ()⟩], NewMark s₀ e := not_new_sent hu.not_new reply
      refine iff_of_true (fun _ _ _ => ?_) fun hfollows => hnone hfollows.mem.1
      exact (ht.sameMarks_iff (sent_keeps (fun e he => (hu e he).1) _)).mpr hnone
  | thrown hu =>
      refine iff_of_true (fun reply hreply _ => ?_) fun hfollows => hu.not_new hfollows.mem.1
      exact (hu _ hreply).1.elim

end

end WalletHeadless
