import WalletHeadless.Locks.Owners
import WalletHeadless.Server.Requests
import WalletHeadless.Services.Asks

/-!
# Taking the SEND_TX lock and giving it back

What the log of a flow says of the SEND_TX locks that it has taken.

* `Acquisition`, `Taken`, `Given`: the acquisitions of a log, and those that the flow has undone itself;
* `Stable`: what a log satisfies and keeps whatever a send asks after it has the lock;
* `history_lockedSend`: a handler whose body runs in the `try` of `lockedSend` gives its lock back.
-/

namespace WalletHeadless

open Coop Js
open Prog (uses_ask)

/-- An acquisition of a SEND_TX lock, by `lockSendTx` or by `lock`. -/
inductive Acquisition
  | closure (u : UnlockFn)
  | lock (l : LockRef)
deriving DecidableEq

def takes : Event Op.Ans → Option Acquisition
  | ⟨.lock (.lockSendTx _), r⟩ => r.map .closure
  | ⟨.lock (.lockOn l .SEND_TX), r⟩ => if r then some (.lock l) else none
  | _ => none

def gives : Event Op.Ans → Option Acquisition
  | ⟨.lock (.unlock u), _⟩ => some (.closure u)
  | ⟨.lock (.unlockOn l .SEND_TX), _⟩ => some (.lock l)
  | _ => none

/-- The lock that `getWalletLock` has found. -/
def finds : Event Op.Ans → Option LockRef
  | ⟨.lock (.getWalletLock _), l⟩ => some l
  | _ => none

def Taken (log : Log) (a : Acquisition) : Prop := ∃ e ∈ log, takes e = some a

/-- The acquisition is undone after it was made. -/
def Given (log : Log) (a : Acquisition) : Prop := Follows (takes · = some a) (gives · = some a) log

def Found (log : Log) (l : LockRef) : Prop := ∃ e ∈ log, finds e = some l

theorem taken_snoc (log : Log) (e : Event Op.Ans) (a : Acquisition) :
    Taken (log ++ [e]) a ↔ Taken log a ∨ takes e = some a := by simp [Taken, or_and_right, exists_or]

theorem taken_singleton (e : Event Op.Ans) (a : Acquisition) : Taken [e] a ↔ takes e = some a := by
  simp [Taken]

theorem given_snoc (log : Log) (e : Event Op.Ans) (a : Acquisition) :
    Given (log ++ [e]) a ↔ Given log a ∨ Taken log a ∧ gives e = some a := follows_snoc ..

theorem Given.taken {log : Log} {a : Acquisition} (h : Given log a) : Taken log a := by
  obtain ⟨u, e, v, rfl, ⟨e', he, ha⟩, -⟩ := h
  exact ⟨e', List.mem_append_left _ he, ha⟩

theorem not_given_nil (a : Acquisition) : ¬ Given [] a := not_follows_nil

theorem not_given_singleton (e : Event Op.Ans) (a : Acquisition) : ¬ Given [e] a := by
  intro h
  rcases (given_snoc [] e a).mp h with h | ⟨⟨e', he, -⟩, -⟩
  · exact not_given_nil a h
  · cases he

theorem found_snoc (log : Log) (e : Event Op.Ans) (l : LockRef) :
    Found (log ++ [e]) l ↔ Found log l ∨ finds e = some l := by simp [Found, or_and_right, exists_or]

/-- The calls that neither take nor give back a SEND_TX lock, nor look one up. -/
def PlainOp : Op → Prop
  | .lock (.lockOn _ ty) | .lock (.unlockOn _ ty) => ty = .HSM
  | .lock _ => False
  | _ => True

theorem PlainOp.takes {c : Op} (h : PlainOp c) (r : c.Ans) : takes ⟨c, r⟩ = none := by
  cases c with
  | lock c =>
      cases c with
      | lockOn l ty => cases h; rfl
      | unlockOn l ty => cases h; rfl
      | _ => exact h.elim
  | _ => rfl

theorem PlainOp.gives {c : Op} (h : PlainOp c) (r : c.Ans) : gives ⟨c, r⟩ = none := by
  cases c with
  | lock c =>
      cases c with
      | lockOn l ty => cases h; rfl
      | unlockOn l ty => cases h; rfl
      | _ => exact h.elim
  | _ => rfl

theorem PlainOp.finds {c : Op} (h : PlainOp c) (r : c.Ans) : finds ⟨c, r⟩ = none := by
  cases c with
  | lock c =>
      cases c with
      | lockOn l ty => cases h; rfl
      | unlockOn l ty => cases h; rfl
      | _ => exact h.elim
  | _ => rfl

theorem QuietOp.plain {c : Op} (h : QuietOp c) : PlainOp c := by
  cases c with
  | lock c =>
      cases c with
      | lockOn l ty => exact h.2
      | unlockOn l ty => exact h.2
      | _ => exact h.elim
  | _ => trivial

/-- The calls that a handler makes for a wallet: those of the libraries, of the wallet and of its signing method. -/
def WorkOp : Op → Prop
  | .wallet _ | .send _ => True
  | c => QuietOp c

theorem WorkOp.plain {c : Op} (h : WorkOp c) : PlainOp c := by
  cases c with
  | lock c => exact QuietOp.plain h
  | _ => trivial

/-- Those that build a transaction. -/
def BuildOp : Op → Prop
  | .wallet _ => True
  | c => SigningOp c

theorem SigningOp.build {c : Op} (h : SigningOp c) : BuildOp c := by
  cases c with
  | wallet c => trivial
  | _ => exact h

theorem BuildOp.work {c : Op} (h : BuildOp c) : WorkOp c := by
  cases c with
  | wallet c => trivial
  | send reply => trivial
  | lib c => trivial
  | _ => exact h

/-- The plain calls that a send makes once it has its inputs. -/
def LateOp : Op → Prop
  | .lib (.getUtxos _ _) | .lib (.enableDebugMode _) => False
  | c => PlainOp c

theorem LateOp.plain {c : Op} (h : LateOp c) : PlainOp c := by
  cases c with
  | lib c => trivial
  | _ => exact h

theorem BuildOp.late {c : Op} (h : BuildOp c) : LateOp c := by
  cases c with
  | lib c => cases c <;> first | exact h.elim | trivial
  | _ => exact h.work.plain

/-! ## What a send keeps -/

/-- A property of logs that the calls of a send with the unlock function `u` keep. -/
structure Stable (A : Op → Prop) (u : UnlockFn) (I : Log → Prop) : Prop where
  taken : ∀ log, I log → Taken log (.closure u)
  call : ∀ log c r, A c → I log → I (log ++ [⟨c, r⟩])
  unlock : ∀ log, I log → I (log ++ [⟨.lock (.unlock u), ()⟩])

/-- The log takes the lock of `u` and no other. -/
def OnlyTakes (u : UnlockFn) (log : Log) : Prop := ∀ a, Taken log a ↔ a = .closure u

theorem OnlyTakes.snoc {u : UnlockFn} {log : Log} {e : Event Op.Ans} (h : OnlyTakes u log)
    (he : takes e = none) : OnlyTakes u (log ++ [e]) := by
  intro a
  rw [taken_snoc, he]
  simpa using h a

theorem stable_onlyTakes (u : UnlockFn) : Stable PlainOp u (OnlyTakes u) :=
  ⟨fun _ h => (h _).mpr rfl, fun _ _ r hc h => h.snoc (hc.takes r), fun _ h => h.snoc rfl⟩

/-- The property, with the lock given back. -/
def Back (I : Log → Prop) (u : UnlockFn) (log : Log) : Prop := I log ∧ Given log (.closure u)

section
variable {A : Op → Prop} {u : UnlockFn} {I : Log → Prop} {α : Type} {log : Log}

theorem Stable.back (h : Stable A u I) : Stable A u (Back I u) :=
  ⟨fun log hI => h.taken log hI.1,
    fun log c r hc hI => ⟨h.call log c r hc hI.1, (given_snoc ..).mpr (.inl hI.2)⟩,
    fun log hI => ⟨h.unlock log hI.1, (given_snoc ..).mpr (.inl hI.2)⟩⟩

theorem Stable.uses (h : Stable A u I) {p : Async α} (hp : p.Uses A) (hI : I log) :
    (history Op.Ans).wp p log (fun _ => I) fun _ => I :=
  hp.wp_inv (fun log c hc hI => ⟨trivial, fun r => h.call log c r hc hI⟩) hI

theorem Stable.works (h : Stable PlainOp u I) {p : Async α} (hp : p.Uses WorkOp) (hI : I log) :
    (history Op.Ans).wp p log (fun _ => I) fun _ => I := h.uses (hp.mono fun _ => WorkOp.plain) hI

theorem Stable.wp_unlock (h : Stable A u I) {post : Unit → Log → Prop} {fail : JsError → Log → Prop}
    (hI : I log) (hpost : ∀ log, Back I u log → post () log) :
    (history Op.Ans).wp (WalletHeadless.unlock u) log post fail :=
  ⟨trivial, fun _ _ => hpost _ ⟨h.unlock log hI, (given_snoc ..).mpr (.inr ⟨h.taken log hI, rfl⟩)⟩⟩

end

/-! ## Sending -/

theorem call_build {c : WalletCall} : (Prog.attempt (ask (.wallet c))).Uses BuildOp :=
  (uses_ask (c := Op.wallet c) trivial).attempt

theorem signTx_build (w : WalletRef) (tx : Transaction) : (signTx w tx).Uses BuildOp :=
  (signTx_uses w tx).mono fun _ => SigningOp.build

theorem buildTransaction_uses (w : WalletRef) (b : Build) : (buildTransaction w b).Uses BuildOp := by
  refine uses_bind call_build fun sendTx => ?_
  split
  · exact uses_pure _
  · exact uses_bind (uses_ite (signTx_build w _) (uses_pure _)) fun _ => uses_pure _

theorem preparedTx_uses (w : WalletRef) (sendTx : SendTransaction) : (preparedTx w sendTx).Uses BuildOp := by
  unfold preparedTx
  split
  · exact uses_pure _
  · exact uses_bind call_build fun tx => uses_bind (signTx_build w tx) fun _ => uses_pure _

section
variable {A : Op → Prop} {u : UnlockFn} {I : Log → Prop} {α : Type} {log : Log}

/-- `runSendTransaction` has always unlocked. -/
theorem Stable.wp_runSendTransaction (h : Stable A u I) (hA : ∀ c, LateOp c → A c) (w : WalletRef)
    (sendTx : SendTransaction) (hI : I log) :
    (history Op.Ans).wp (runSendTransaction w sendTx u) log (fun _ => Back I u) fun _ => Back I u := by
  refine (Protocol.wp_bind ..).mpr ((Protocol.wp_andFinally ..).mpr ?_)
  have hprep : (do
      let tx ← preparedTx w sendTx
      updateOutputSelected w tx
      return tx).Uses A :=
    (uses_bind (preparedTx_uses w sendTx) fun tx => uses_bind call_build fun _ => uses_pure _).mono
      fun c hc => hA c hc.late
  refine Protocol.wp_mono _ (h.uses hprep hI) (fun tx log hI => ?_) fun e log hI => ?_
  · exact h.wp_unlock hI fun log hb => h.back.uses (call_build.mono fun c hc => hA c hc.late) hb
  · exact h.wp_unlock hI fun log hb => hb

theorem Stable.wp_await (h : Stable A u I) (htick : A .tick) {p : Async α}
    (hp : (history Op.Ans).wp p log (fun _ => Back I u) fun _ => Back I u) :
    (history Op.Ans).wp (await p) log (fun _ => Back I u) fun _ => Back I u :=
  wp_await_history (Protocol.wp_mono _ hp (fun _ _ hb => h.back.call _ _ _ htick hb)
    fun _ _ hb => h.back.call _ _ _ htick hb)

theorem Stable.wp_buildAndSend (h : Stable A u I) (hA : ∀ c, LateOp c → A c) (w : WalletRef) (b : Build)
    (hI : I log) :
    (history Op.Ans).wp (buildAndSend w b u) log (fun _ => Back I u) fun _ => I := by
  refine (Protocol.wp_bind ..).mpr ?_
  refine Protocol.wp_mono _ (h.uses ((buildTransaction_uses w b).mono fun c hc => hA c hc.late) hI)
    (fun st log hI => ?_) fun _ _ hI => hI
  exact Protocol.wp_mono _ (h.wp_await (hA _ trivial) (h.wp_runSendTransaction hA w st hI)) (fun _ _ hb => hb)
    fun _ _ hb => hb.1

end

/-! ## The handlers that unlock in a `catch` -/

def GivesBack (log : Log) : Prop := ∀ a, Taken log a → Given log a

theorem Back.givesBack {u : UnlockFn} {log : Log} (h : Back (OnlyTakes u) u log) : GivesBack log := by
  intro a ha
  rw [(h.1 a).mp ha]
  exact h.2

theorem not_taken_nil (a : Acquisition) : ¬ Taken [] a := by simp [Taken]

theorem givesBack_of_not_taken {log : Log} (h : ∀ a, ¬ Taken log a) : GivesBack log :=
  fun a ha => absurd ha (h a)

theorem wp_send_untaken {log : Log} (h : ∀ a, ¬ Taken log a) {F : Log → Prop}
    (hnone : ∀ log, (∀ a, ¬ Taken log a) → F log) (reply : Reply) :
    (history Op.Ans).wp (ask (.send reply)) log (fun _ => F) fun _ => F := by
  refine ⟨trivial, fun r _ => hnone _ fun a ha => ?_⟩
  rcases (taken_snoc ..).mp ha with ha | ha
  · exact h a ha
  · cases ha

theorem wp_validated_history {β : Type} (req : Req β) {handler : Async Unit} {F : Log → Prop}
    (hnone : ∀ log, (∀ a, ¬ Taken log a) → F log)
    (h : (history Op.Ans).wp handler [] (fun _ => F) fun _ => F) :
    (history Op.Ans).wp (validated req handler) [] (fun _ => F) fun _ => F := by
  unfold validated
  split
  · exact wp_send_untaken not_taken_nil hnone _
  · exact h

/-- The two outcomes of `lockSendTx`. -/
theorem wp_lockSendTx_history {walletId : String} {k : Option UnlockFn → Async Unit} {F : Log → Prop}
    (hbusy : ∀ log, (∀ a, ¬ Taken log a) → (history Op.Ans).wp (k none) log (fun _ => F) fun _ => F)
    (hlock : ∀ u log, OnlyTakes u log → ¬ Given log (.closure u) →
      (∀ e ∈ log, e = ⟨.lock (.lockSendTx walletId), some u⟩) →
      (history Op.Ans).wp (k (some u)) log (fun _ => F) fun _ => F) :
    (history Op.Ans).wp (lockSendTx walletId >>= k) [] (fun _ => F) fun _ => F := by
  refine (Protocol.wp_bind ..).mpr ⟨trivial, fun r _ => ?_⟩
  cases r with
  | none =>
      refine hbusy _ fun a ha => ?_
      cases (taken_singleton ..).mp ha
  | some u =>
      refine hlock u _ (fun a => (taken_singleton ..).trans ?_) (not_given_singleton _ _)
        fun e he => List.mem_singleton.mp he
      rw [eq_comm (a := a)]
      exact Option.some_inj

/-- A body that has unlocked when it returns gives the lock back, whatever it throws. -/
theorem history_lockedSend {β : Type} (req : Req β) {body : UnlockFn → Async ReplyBody}
    (hbody : ∀ u log, OnlyTakes u log →
      (history Op.Ans).wp (body u) log (fun _ => Back (OnlyTakes u) u) fun _ => OnlyTakes u) :
    (history Op.Ans).wp (lockedSend req body) [] (fun _ => GivesBack) fun _ => GivesBack := by
  refine wp_validated_history req (fun _ => givesBack_of_not_taken) (wp_lockSendTx_history ?_ ?_)
  · exact fun log h => wp_send_untaken h (fun _ => givesBack_of_not_taken) _
  · intro u log h _ _
    have hs := stable_onlyTakes u
    refine (Protocol.wp_tryCatch ..).mpr ((Protocol.wp_bind ..).mpr ?_)
    refine Protocol.wp_mono _ (hbody u log h) (fun reply log hb => ?_) fun e log h => ?_
    · exact ⟨trivial, fun r _ => (hs.back.call log (.send _) r trivial hb).givesBack⟩
    · refine (Protocol.wp_bind ..).mpr (hs.wp_unlock h fun log hb => ?_)
      exact ⟨trivial, fun r _ => (hs.back.call log (.send _) r trivial hb).givesBack⟩

end WalletHeadless
