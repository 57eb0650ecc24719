import Mathlib.Data.List.Induction
import WalletHeadless.Coop.Ghost
import WalletHeadless.Hsm.Release

/-!
# What an HSM flow does with the connection

The ghost state of a start or a signature: it takes the HSM lock once, connects, and disconnects before it
unlocks.

* `HsmPhase`, `hsmProtocol`: the phases and their order;
* `hsm_wp`: the flows follow the protocol;
* `hasHsm_of_owns`: what the phase of a flow says of its log.
-/

namespace WalletHeadless

open Coop Js
open Prog (uses_ask uses_orThrow)

/-- Where a flow is: once `connect` has been answered it is `connected` or `failed`, and `closing` while
`disconnect` is open. -/
inductive HsmPhase
  | out
  | locked
  | connecting
  | connected
  | failed
  | closing (connected : Bool)
  | closed
  | done

namespace HsmPhase

/-- The flow has the lock. -/
def Owns : HsmPhase → Prop
  | out | done => False
  | _ => True

/-- The flow may do something else. -/
def Idles : HsmPhase → Prop
  | out | connected | failed | done => True
  | _ => False

/-- The flow waits for an answer or has nothing to ask. -/
def Rests : HsmPhase → Prop
  | locked | closed => False
  | _ => True

/-- The questions of each phase. -/
inductive Allows : HsmPhase → Op → Prop
  | idle {p : HsmPhase} {c : Op} (hp : p.Idles) (hc : HsmIdle c) : Allows p c
  | lock : Allows out (.lock (.lockOn .globalLock .HSM))
  | connect (host username password : String) : Allows locked (.hsm (.connect host username password))
  | disconnect : Allows connected (.hsm .disconnect)
  | abandon : Allows failed (.hsm .disconnect)
  | unlock : Allows closed (.lock (.unlockOn .globalLock .HSM))

/-- The phase while a question is open. -/
def call : HsmPhase → Op → HsmPhase
  | locked, .hsm (.connect _ _ _) => connecting
  | connected, .hsm .disconnect => closing true
  | failed, .hsm .disconnect => closing false
  | p, _ => p

/-- After `lock` has answered that the flow can start. -/
def acquire : HsmPhase → HsmPhase
  | out => locked
  | p => p

def release : HsmPhase → HsmPhase
  | out => out
  | _ => done

/-- After the answer to `connect`. -/
def opened : HsmPhase → Except JsError Unit → HsmPhase
  | connecting, .ok _ => connected
  | connecting, .error _ => failed
  | p, _ => p

/-- After the answer to `disconnect`. -/
def shut : HsmPhase → Except JsError Unit → HsmPhase
  | closing _, .ok _ => closed
  | closing true, .error _ => connected
  | closing false, .error _ => failed
  | p, _ => p

def next (p : HsmPhase) : (c : Op) → c.Ans → HsmPhase
  | .lock (.lockOn .globalLock .HSM), canStart => if canStart then p.acquire else p
  | .lock (.unlockOn .globalLock .HSM), _ => p.release
  | .hsm (.connect _ _ _), r => p.opened r
  | .hsm .disconnect, r => p.shut r
  | _, _ => p

/-- The phase of a flow that has ended: without a connection it will leave its lock to the timer. -/
def finish : HsmPhase → HsmPhase
  | failed => done
  | p => p

theorem call_idle {c : Op} (hc : HsmIdle c) (p : HsmPhase) : p.call c = p := by
  cases c with
  | hsm c => exact hc.elim
  | _ => cases p <;> rfl

theorem next_idle {c : Op} (hc : HsmIdle c) (p : HsmPhase) (r : c.Ans) : p.next c r = p := by
  cases c with
  | hsm c => exact hc.elim
  | lock c => exact hc.elim
  | _ => rfl

end HsmPhase

/-- The configuration has been loaded. -/
def hsmProtocol : Protocol Op.Ans HsmPhase where
  allows := HsmPhase.Allows
  call := HsmPhase.call
  may
    | _, .registry .getConfig, r => ∃ config, r = .ok config
    | _, _, _ => True
  next := HsmPhase.next
  finish := HsmPhase.finish

/-! ## Phases and logs -/

/-- What the log says in each phase. -/
def HsmPhase.Logged (log : Log) : HsmPhase → Prop
  | out => ¬ TookHsm log
  | done => True
  | _ => HasHsm log

theorem HsmPhase.logged_call (log : Log) (p : HsmPhase) (c : Op) : (p.call c).Logged log ↔ p.Logged log := by
  unfold call
  split <;> rfl

namespace HsmPhase

variable {c : Op} {r : c.Ans} {p : HsmPhase}

theorem next_out (h : ¬ LocksHsm ⟨c, r⟩) : out.next c r = out := by
  unfold next
  split
  next canStart =>
    cases canStart with
    | true => exact absurd rfl h
    | false => rfl
  all_goals rfl

theorem next_done (c : Op) (r : c.Ans) : done.next c r = done := by
  unfold next
  split <;> first | rfl | (split <;> rfl)

theorem owns_next (hp : p.Owns) (h : ¬ UnlocksHsm ⟨c, r⟩) : (p.next c r).Owns := by
  unfold next
  split
  next canStart => cases canStart <;> cases p <;> trivial
  next => exact absurd rfl h
  next => unfold opened; split <;> trivial
  next => unfold shut; split <;> trivial
  next => exact hp

theorem logged_iff {log : Log} (hp : p.Owns) : p.Logged log ↔ HasHsm log := by
  cases p <;> first | exact hp.elim | rfl

theorem Logged.snoc {log : Log} (h : p.Logged log) (c : Op) (r : c.Ans) :
    (p.next c r).Logged (log ++ [⟨c, r⟩]) := by
  by_cases hp : p.Owns
  · by_cases hu : UnlocksHsm ⟨c, r⟩
    · cases hu
      cases p <;> trivial
    · exact (logged_iff (owns_next hp hu)).mpr (((logged_iff hp).mp h).snoc hu)
  · cases p with
    | out =>
        by_cases ht : LocksHsm ⟨c, r⟩
        · cases ht
          exact hasHsm_of_locks h rfl
        · rw [next_out ht]
          exact not_tookHsm_snoc h ht
    | done => rw [next_done]; trivial
    | _ => exact absurd trivial hp

end HsmPhase

theorem logged_after (t : Log) : (hsmProtocol.after .out t).Logged t := by
  induction t using List.reverseRecOn with
  | nil =>
      rintro ⟨e, he, -⟩
      cases he
  | append_singleton t e ih =>
      rw [Protocol.after_append]
      exact HsmPhase.Logged.snoc ((HsmPhase.logged_call t _ e.1).mpr ih) e.1 e.2

/-! ## The flows follow the protocol -/

section
variable {α : Type} {q : HsmPhase}

theorem wp_quietHsm {p : Async α} (hp : p.Uses HsmIdle) (hq : q.Idles) {post : α → HsmPhase → Prop}
    {fail : JsError → HsmPhase → Prop} (hpost : ∀ a, post a q) (hfail : ∀ e, fail e q) :
    hsmProtocol.wp p q post fail := by
  refine Prog.Uses.wp (hp.mono fun c hc => ⟨.idle hq hc, fun r => ?_⟩) hpost hfail
  show (q.call c).next c r = q
  rw [HsmPhase.call_idle hc, HsmPhase.next_idle hc]

theorem wp_tickHsm (hq : q.Idles) {post : Unit → HsmPhase → Prop} {fail : JsError → HsmPhase → Prop}
    (h : post () q) : hsmProtocol.wp tick q post fail := by
  refine ⟨.idle hq trivial, fun _ _ => ?_⟩
  show post () ((q.call .tick).next .tick ())
  rw [HsmPhase.call_idle (c := .tick) trivial, HsmPhase.next_idle (c := .tick) trivial]
  exact h

theorem wp_awaitHsm {p : Async α} {post : α → HsmPhase → Prop} {fail : JsError → HsmPhase → Prop}
    (h : hsmProtocol.wp p q (fun a q => q.Idles ∧ post a q) fun e q => q.Idles ∧ fail e q) :
    hsmProtocol.wp (await p) q post fail :=
  (wp_await_iff ..).mpr (Protocol.wp_mono _ h (fun _ _ h => wp_tickHsm h.1 h.2) fun _ _ h => wp_tickHsm h.1 h.2)

/-- A flow that may close: its connection is open, or could not be opened. -/
def HsmPhase.Opens (q : HsmPhase) : Prop := q = connected ∨ q = failed

theorem HsmPhase.Opens.idles (h : q.Opens) : q.Idles := by
  rcases h with rfl | rfl <;> trivial

theorem wp_hsmDisconnect_phase (h : q.Opens) :
    hsmProtocol.wp hsmDisconnect q (fun _ q => q = .done) fun _ => HsmPhase.Idles := by
  have hclosed : hsmProtocol.wp (unlockOn .globalLock .HSM) .closed (fun _ q => q = .done)
      fun _ => HsmPhase.Idles := ⟨.unlock, fun _ _ => rfl⟩
  refine (Protocol.wp_bind ..).mpr ((Protocol.wp_attempt ..).mpr ?_)
  rcases h with rfl | rfl
  · refine ⟨.disconnect, fun r _ => ⟨fun _ hr => ?_, fun _ hr => ?_⟩⟩
    · subst hr
      exact hclosed
    · subst hr
      trivial
  · refine ⟨.abandon, fun r _ => ⟨fun _ hr => ?_, fun _ hr => ?_⟩⟩
    · subst hr
      exact hclosed
    · subst hr
      trivial

/-- The errors of `connect` leave a lock to release, whatever their kind. -/
theorem wp_hsmConnect_phase :
    hsmProtocol.wp hsmConnect .out (fun _ q => q = .connected)
      fun e q => q = .out ∧ e.kind = .HsmError ∨ q = .failed := by
  refine (Protocol.wp_bind ..).mpr ((Protocol.wp_attempt ..).mpr
    ⟨.idle trivial trivial, fun r hr => ⟨fun _ _ => ?_, fun e he => ?_⟩⟩)
  · split
    · refine (Protocol.wp_bind ..).mpr ⟨.lock, fun canStart _ => ?_⟩
      cases canStart with
      | false => exact .inl ⟨rfl, rfl⟩
      | true =>
          refine (Protocol.wp_attempt ..).mpr ⟨.connect _ _ _, fun r _ => ⟨fun _ hr => ?_, fun _ hr => ?_⟩⟩
          · subst hr
            rfl
          · subst hr
            exact .inr rfl
    · exact .inl ⟨rfl, rfl⟩
  · obtain ⟨config, hr⟩ := hr
    rw [hr] at he
    cases he

theorem idles_of_connect {e : JsError} (h : q = .out ∧ e.kind = .HsmError ∨ q = .failed) : q.Idles := by
  obtain ⟨rfl, -⟩ | rfl := h <;> trivial

/-- The last call of a flow. -/
theorem wp_lastDisconnect (h : q.Opens) :
    hsmProtocol.wp (await hsmDisconnect) q (fun _ q => q = .done) fun _ => HsmPhase.Idles := by
  refine wp_awaitHsm (Protocol.wp_mono _ (wp_hsmDisconnect_phase h) (fun _ q hq => ?_) fun _ _ hq => ⟨hq, hq⟩)
  subst hq
  exact ⟨trivial, rfl⟩

theorem hsmSignTx_wp (key : String) (tx : Transaction) (w : WalletRef) :
    hsmProtocol.wp (Request.hsmSignTx key tx w).handle .out (fun _ => HsmPhase.Idles)
      fun _ => HsmPhase.Idles := by
  refine (Protocol.wp_bind ..).mpr ((Protocol.wp_bind ..).mpr (wp_awaitHsm (wp_awaitHsm ?_)))
  refine Protocol.wp_mono _ wp_hsmConnect_phase (fun _ q hq => ?_) fun e q hq => ?_
  · subst hq
    refine ⟨trivial, trivial, (Protocol.wp_bind ..).mpr ?_⟩
    refine wp_quietHsm (q := .connected) ((uses_await trivial (hsmSessionSignTx_uses key .empty tx w)).mono fun _ =>
      SignerOp.hsmIdle) trivial (fun data => ?_) fun _ => trivial
    refine (Protocol.wp_bind ..).mpr (Protocol.wp_mono _ (wp_lastDisconnect (.inl rfl)) (fun _ q hq => ?_)
      fun _ _ hq => hq)
    subst hq
    trivial
  · exact ⟨idles_of_connect hq, idles_of_connect hq, idles_of_connect hq⟩

theorem wp_sendDisconnect (body : ReplyBody) (h : q.Opens) :
    hsmProtocol.wp (do
      send body
      await hsmDisconnect) q (fun _ => HsmPhase.Idles) fun _ => HsmPhase.Idles := by
  refine (Protocol.wp_bind ..).mpr (wp_quietHsm (send_idle body) h.idles (fun _ => ?_) fun _ => h.idles)
  refine Protocol.wp_mono _ (wp_lastDisconnect h) (fun _ q hq => ?_) fun _ _ hq => hq
  subst hq
  trivial

theorem startConnected_wp (walletId key : String) :
    hsmProtocol.wp (startConnected walletId key) .connected (fun _ => HsmPhase.Idles) fun _ => HsmPhase.Idles := by
  refine (Protocol.wp_bind ..).mpr (wp_quietHsm (q := .connected) ((uses_await trivial (isKeyValidXpriv_local key)).mono fun _ =>
    LocalOp.hsmIdle) trivial
    (fun reason => ?_) fun _ => trivial)
  cases reason with
  | some reason => exact wp_sendDisconnect _ (.inl rfl)
  | none =>
      refine (Protocol.wp_bind ..).mpr (wp_quietHsm (q := .connected) ((uses_tryCatch (uses_bind (uses_await trivial
        (deriveMainKeysFromRoot_local key)) fun _ => uses_map (uses_await trivial (lib_local _))) fun _ =>
          uses_pure _).mono fun _ => LocalOp.hsmIdle) trivial (fun xPub => ?_) fun _ => trivial)
      cases xPub with
      | error e => exact wp_sendDisconnect _ (.inl rfl)
      | ok xPub =>
          refine (Protocol.wp_bind ..).mpr (Protocol.wp_mono _ (wp_lastDisconnect (.inl rfl))
            (fun _ q hq => ?_) fun _ _ hq => hq)
          subst hq
          exact wp_quietHsm (q := .done) (startWithXPub_idle _ _ _) trivial (fun _ => trivial) fun _ => trivial

theorem startHsmWallet_wp (body : StartHsmBody) :
    hsmProtocol.wp (startHsmWallet body) .out (fun _ => HsmPhase.Idles) fun _ => HsmPhase.Idles := by
  have hsend {q : HsmPhase} (hq : q.Idles) (body : ReplyBody) :
      hsmProtocol.wp (send body) q (fun _ => HsmPhase.Idles) fun _ => HsmPhase.Idles :=
    wp_quietHsm (send_idle body) hq (fun _ => hq) fun _ => hq
  unfold startHsmWallet
  split
  · exact hsend (q := .out) trivial _
  · refine (Protocol.wp_bind ..).mpr ⟨.idle trivial trivial, fun w _ => ?_⟩
    cases w with
    | some w => exact hsend (q := .out) trivial _
    | none =>
        split
        · exact hsend (q := .out) trivial _
        · refine (Protocol.wp_bind ..).mpr ((Protocol.wp_tryCatch ..).mpr ((Protocol.wp_map ..).mpr ?_))
          refine wp_awaitHsm (Protocol.wp_mono _ wp_hsmConnect_phase (fun _ q hq => ?_) fun e q hq => ?_)
          · subst hq
            exact ⟨trivial, startConnected_wp _ _⟩
          · refine ⟨idles_of_connect hq, (Protocol.wp_ite ..).mpr ⟨fun _ => hsend (idles_of_connect hq) _,
              fun hk => wp_sendDisconnect _ ?_⟩⟩
            obtain ⟨-, he⟩ | hq := hq
            · exact absurd he hk
            · exact .inr hq

theorem hsm_wp {req : Request} (h : req.OpensHsm) :
    hsmProtocol.wp req.handle .out (fun _ => HsmPhase.Idles) fun _ => HsmPhase.Idles := by
  cases req with
  | startHsmWallet body => exact startHsmWallet_wp body
  | hsmSignTx key tx w => exact hsmSignTx_wp key tx w
  | _ => exact h.elim

end

end WalletHeadless
